/-
Objects put together pair by pair. A key that comes again stays in its first place and takes the last value: which keys
an object has, and in which order, is `keys_putAll`; which value each of them has in the end, `lookup_putAll_of_last`.
-/
import Mathlib.Logic.Basic
import SqlGateway.Json.Basic

namespace SqlGateway.Json

/-- the keys in their order -/
def keys (ms : List (String × Json)) : List String := ms.map Prod.fst

theorem keys_append (ms ns : List (String × Json)) : keys (ms ++ ns) = keys ms ++ keys ns := List.map_append

/-- a key that is there stays in its place, another one comes last -/
theorem keys_put (key : String) (value : Json) (ms : List (String × Json)) :
    keys (put key value ms) = if key ∈ keys ms then keys ms else keys ms ++ [key] := by
  by_cases hmem : key ∈ keys ms
  · rw [if_pos hmem]
    induction ms with
    | nil => exact absurd hmem List.not_mem_nil
    | cons m ms ih =>
      rw [put]
      split
      · rename_i heq
        simp [keys, heq]
      · rename_i hne
        have hrest : key ∈ keys ms := (List.mem_cons.1 hmem).resolve_left (Ne.symm hne)
        exact congrArg (m.1 :: ·) (ih hrest)
  · rw [if_neg hmem, put_of_not_mem value hmem, keys_append]
    rfl

/-- the keys that are there, then those of the pairs that are new, each where it comes first -/
theorem keys_putAll (pairs ms : List (String × Json)) :
    keys (putAll pairs ms) = keys ms ++ ((keys pairs).removeAll (keys ms)).eraseDups := by
  induction pairs generalizing ms with
  | nil => simp [putAll, keys]
  | cons p pairs ih =>
    have hstep : keys (putAll (p :: pairs) ms) =
        keys (put p.1 p.2 ms) ++ ((keys pairs).removeAll (keys (put p.1 p.2 ms))).eraseDups := ih _
    have hkeys : keys (p :: pairs) = p.1 :: keys pairs := rfl
    rw [hstep, keys_put, hkeys, List.cons_removeAll]
    by_cases hmem : p.1 ∈ keys ms
    · simp [hmem]
    · have hfresh : (keys pairs).removeAll (keys ms ++ [p.1]) =
          ((keys pairs).removeAll (keys ms)).filter fun k => !k == p.1 := by
        simp [List.removeAll, List.filter_filter, Bool.and_comm, beq_eq_decide]
      rw [if_neg hmem, if_pos (by simpa using hmem), List.eraseDups_cons, hfresh, List.append_assoc]
      rfl

theorem lookup_putAll_of_not_mem {key : String} {pairs : List (String × Json)} (h : key ∉ keys pairs)
    (ms : List (String × Json)) : (putAll pairs ms).lookup key = ms.lookup key := by
  induction pairs generalizing ms with
  | nil => rfl
  | cons p pairs ih =>
    obtain ⟨hne, hrest⟩ := not_or.1 (mt List.mem_cons.2 h)
    calc (putAll (p :: pairs) ms).lookup key
        = (put p.1 p.2 ms).lookup key := ih hrest _
      _ = ms.lookup key := by rw [lookup_put, if_neg hne]

/-- the pair that is the last of its key gives the value -/
theorem lookup_putAll_of_last {key : String} {after : List (String × Json)} (h : key ∉ keys after)
    (before ms : List (String × Json)) (value : Json) :
    (putAll (before ++ (key, value) :: after) ms).lookup key = some value := by
  have hsplit : putAll (before ++ (key, value) :: after) ms = putAll after (put key value (putAll before ms)) :=
    List.foldl_append
  rw [hsplit, lookup_putAll_of_not_mem h, lookup_put, if_pos rfl]

/-- pairs that agree on a key give its value, however often it comes -/
theorem lookup_putAll_of_agree {key : String} {value : Json} {pairs : List (String × Json)} (hmem : key ∈ keys pairs)
    (hagree : ∀ p ∈ pairs, p.1 = key → p.2 = value) (ms : List (String × Json)) :
    (putAll pairs ms).lookup key = some value := by
  induction pairs generalizing ms with
  | nil => exact absurd hmem List.not_mem_nil
  | cons p pairs ih =>
    obtain ⟨hp, hrest⟩ := List.forall_mem_cons.1 hagree
    by_cases hlater : key ∈ keys pairs
    · exact ih hlater hrest (put p.1 p.2 ms)
    · have hkey : p.1 = key := ((List.mem_cons.1 hmem).resolve_right hlater).symm
      have hfirst : (putAll (p :: pairs) ms).lookup key = (put p.1 p.2 ms).lookup key := lookup_putAll_of_not_mem hlater _
      rw [hfirst, lookup_put, if_pos hkey.symm, hp hkey]

end SqlGateway.Json
