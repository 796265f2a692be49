/-
JSON values. An object is a list of members in the order in which their keys first came; `put` keeps it free of repeated
keys: a key that is there already stays in its place and takes the new value.
-/
import SqlGateway.Number.Basic

namespace SqlGateway

inductive Json where
  | null
  | bool (b : Bool)
  | number (n : Number)
  | string (s : String)
  | array (items : List Json)
  | object (members : List (String × Json))

namespace Json

/-- a natural number -/
def natural (n : Nat) : Json := number (.integer n)

/-! ## Looking inside -/

/-- the value of a key; only objects have keys -/
def get? (key : String) : Json → Option Json
  | object members => members.lookup key
  | _ => none

def asString? : Json → Option String
  | string s => some s
  | _ => none

def asArray? : Json → Option (List Json)
  | array items => some items
  | _ => none

/-- the members of an object; everything else has none -/
def members : Json → List (String × Json)
  | object members => members
  | _ => []

/-! ## Building objects -/

/-- sets a key: in its place when it is there, at the end otherwise -/
def put (key : String) (value : Json) : List (String × Json) → List (String × Json)
  | [] => [(key, value)]
  | (k, v) :: rest => if k = key then (key, value) :: rest else (k, v) :: put key value rest

/-- sets the keys of some pairs, one after the other -/
def putAll (pairs members : List (String × Json)) : List (String × Json) :=
  pairs.foldl (fun ms p => put p.1 p.2 ms) members

theorem lookup_put (key k : String) (value : Json) (ms : List (String × Json)) :
    (put key value ms).lookup k = if k = key then some value else ms.lookup k := by
  induction ms with
  | nil => by_cases h : k = key <;> simp [put, List.lookup_cons, h, beq_eq_false_iff_ne.2]
  | cons m ms ih =>
    obtain ⟨l, v⟩ := m
    by_cases hm : l = key
    · subst hm
      by_cases hk : k = l <;> simp [put, hk, List.lookup_cons, beq_eq_false_iff_ne.2]
    · by_cases hk : k = l
      · subst hk
        simp [put, hm]
      · simp [put, hm, List.lookup_cons, beq_eq_false_iff_ne.2 hk, ih]

theorem put_of_not_mem {key : String} {ms : List (String × Json)} (value : Json) (h : key ∉ ms.map Prod.fst) :
    put key value ms = ms ++ [(key, value)] := by
  induction ms with
  | nil => rfl
  | cons m ms ih =>
    rw [List.map_cons, List.mem_cons, not_or] at h
    rw [put, if_neg (Ne.symm h.1), ih h.2, List.cons_append]

/-- pairs with keys of their own stand in their order, behind what is there -/
theorem putAll_of_nodup {pairs ms : List (String × Json)} (h : ((ms ++ pairs).map Prod.fst).Nodup) :
    putAll pairs ms = ms ++ pairs := by
  induction pairs generalizing ms with
  | nil => exact (List.append_nil ms).symm
  | cons p pairs ih =>
    have hsplit : ms ++ p :: pairs = (ms ++ [p]) ++ pairs := by rw [List.append_assoc]; rfl
    rw [hsplit] at h ⊢
    have hfirst : p.1 ∉ ms.map Prod.fst := by
      rw [List.map_append, List.nodup_append, List.map_append, List.nodup_append] at h
      exact fun hmem => h.1.2.2 _ hmem _ List.mem_cons_self rfl
    rw [← ih h, ← put_of_not_mem p.2 hfirst]
    rfl

/-! ## Equality -/

mutual

/-- equal values -/
def same : Json → Json → Bool
  | null, null => true
  | bool a, bool b => a == b
  | number a, number b => a == b
  | string a, string b => a == b
  | array as, array bs => sameItems as bs
  | object as, object bs => sameMembers as bs
  | _, _ => false

def sameItems : List Json → List Json → Bool
  | [], [] => true
  | a :: as, b :: bs => same a b && sameItems as bs
  | _, _ => false

def sameMembers : List (String × Json) → List (String × Json) → Bool
  | [], [] => true
  | (k, a) :: as, (l, b) :: bs => k == l && same a b && sameMembers as bs
  | _, _ => false

end

mutual

theorem same_iff : ∀ a b : Json, same a b = true ↔ a = b
  | null, b => by cases b <;> simp [same]
  | bool _, b => by cases b <;> simp [same]
  | number _, b => by cases b <;> simp [same]
  | string _, b => by cases b <;> simp [same]
  | array as, b => by cases b <;> simp [same, sameItems_iff as]
  | object as, b => by cases b <;> simp [same, sameMembers_iff as]

theorem sameItems_iff : ∀ as bs : List Json, sameItems as bs = true ↔ as = bs
  | [], bs => by cases bs <;> simp [sameItems]
  | a :: as, bs => by cases bs <;> simp [sameItems, same_iff a, sameItems_iff as]

theorem sameMembers_iff : ∀ as bs : List (String × Json), sameMembers as bs = true ↔ as = bs
  | [], bs => by cases bs <;> simp [sameMembers]
  | (k, a) :: as, bs => by
    rcases bs with _ | ⟨⟨l, b⟩, bs⟩ <;> simp [sameMembers, same_iff a, sameMembers_iff as]

end

instance : DecidableEq Json := fun a b => decidable_of_iff _ (same_iff a b)

end Json

end SqlGateway
