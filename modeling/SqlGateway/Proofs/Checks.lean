/-
Checks made one after the other, of which the first that fails is reported. A list of checks says what is asked for and
in which order; `Settles` ties it to a computation, which succeeds exactly when all of them pass and otherwise fails
with the error of the first that does not. Computations in sequence settle their checks in sequence, and a traversal
settles those of its elements from left to right.
-/
import SqlGateway.Proofs.Traversal

namespace SqlGateway

variable {ε α β : Type}

/-- what is asked for, and the error if it is not so -/
structure Check (ε : Type) where
  passes : Prop
  error : ε

def Passed (checks : List (Check ε)) : Prop := ∀ c ∈ checks, c.passes

/-- the error of a check that fails, where all those before it pass -/
def FirstFailing (checks : List (Check ε)) (e : ε) : Prop :=
  ∃ before c after, checks = before ++ c :: after ∧ Passed before ∧ ¬ c.passes ∧ c.error = e

theorem Passed.append {cs ds : List (Check ε)} (hcs : Passed cs) (hds : Passed ds) : Passed (cs ++ ds) := by
  intro c hc
  rcases List.mem_append.1 hc with hc | hc
  · exact hcs c hc
  · exact hds c hc

namespace FirstFailing

variable {cs ds : List (Check ε)} {e e' : ε}

theorem not_passed (h : FirstFailing cs e) : ¬ Passed cs := by
  obtain ⟨before, c, after, rfl, -, hfails, -⟩ := h
  intro hpassed
  exact hfails (hpassed c (List.mem_append_right _ List.mem_cons_self))

/-- what comes behind a check that fails does not matter -/
theorem append_left (h : FirstFailing cs e) (ds : List (Check ε)) : FirstFailing (cs ++ ds) e := by
  obtain ⟨before, c, after, rfl, hpassed, hfails, he⟩ := h
  refine ⟨before, c, after ++ ds, ?_, hpassed, hfails, he⟩
  rw [List.append_assoc, List.cons_append]

theorem cons {c : Check ε} (hpasses : c.passes) (h : FirstFailing cs e) : FirstFailing (c :: cs) e := by
  obtain ⟨before, d, after, rfl, hpassed, hfails, he⟩ := h
  exact ⟨c :: before, d, after, rfl, List.forall_mem_cons.2 ⟨hpasses, hpassed⟩, hfails, he⟩

theorem append_right (hpassed : Passed cs) (h : FirstFailing ds e) : FirstFailing (cs ++ ds) e := by
  induction cs with
  | nil => exact h
  | cons c cs ih =>
    obtain ⟨hfirst, hrest⟩ := List.forall_mem_cons.1 hpassed
    exact (ih hrest).cons hfirst

theorem unique (h : FirstFailing cs e) (h' : FirstFailing cs e') : e = e' := by
  obtain ⟨before, c, after, rfl, hpassed, hfails, rfl⟩ := h
  obtain ⟨before', c', after', heq, hpassed', hfails', rfl⟩ := h'
  -- if one of the two stood further on, the other would be among those before it
  rcases List.append_eq_append_iff.1 heq with ⟨between, rfl, hrest⟩ | ⟨between, rfl, hrest⟩
  · cases between with
    | nil => rw [(List.cons.inj hrest).1]
    | cons d between =>
      obtain rfl := (List.cons.inj hrest).1
      exact absurd (hpassed' c (List.mem_append_right _ List.mem_cons_self)) hfails
  · cases between with
    | nil => rw [(List.cons.inj hrest).1]
    | cons d between =>
      obtain rfl := (List.cons.inj hrest).1
      exact absurd (hpassed c' (List.mem_append_right _ List.mem_cons_self)) hfails'

end FirstFailing

/-! ## Computations that settle checks -/

inductive Settles (checks : List (Check ε)) : Except ε α → Prop
  | ok {a : α} : Passed checks → Settles checks (.ok a)
  | error {e : ε} : FirstFailing checks e → Settles checks (.error e)

namespace Settles

variable {cs ds : List (Check ε)} {x : Except ε α}

theorem nil (a : α) : Settles (ε := ε) [] (.ok a) := .ok fun _ hc => absurd hc List.not_mem_nil

theorem pass {p : Prop} (e : ε) (hp : p) (h : Settles cs x) : Settles (⟨p, e⟩ :: cs) x := by
  cases h with
  | ok hpassed => exact .ok (List.forall_mem_cons.2 ⟨hp, hpassed⟩)
  | error hfirst => exact .error (hfirst.cons hp)

theorem fail {p : Prop} {e : ε} (hp : ¬ p) : Settles (α := α) (⟨p, e⟩ :: cs) (.error e) :=
  .error ⟨[], ⟨p, e⟩, cs, rfl, nofun, hp, rfl⟩

theorem passed {a : α} (h : Settles cs (.ok a)) : Passed cs := by
  cases h with
  | ok hpassed => exact hpassed

theorem bind {f : α → Except ε β} (h : Settles cs x) (hf : ∀ a, x = .ok a → Settles ds (f a)) :
    Settles (cs ++ ds) (x >>= f) := by
  cases h with
  | error hfirst => exact .error (hfirst.append_left ds)
  | @ok a hpassed =>
    change Settles (cs ++ ds) (f a)
    have hds := hf a rfl
    generalize f a = y at hds ⊢
    cases hds with
    | ok hrest => exact .ok (hpassed.append hrest)
    | error hfirst => exact .error (.append_right hpassed hfirst)

theorem map (f : α → β) (h : Settles cs x) : Settles cs (x.map f) := by
  cases h with
  | ok hpassed => exact .ok hpassed
  | error hfirst => exact .error hfirst

/-- a step that cannot fail adds no check -/
theorem bind_of_ok {f : α → Except ε β} (h : Settles cs x) (hf : ∀ a, x = .ok a → ∃ b, f a = .ok b) :
    Settles cs (x >>= f) := by
  rw [← List.append_nil cs]
  refine h.bind fun a ha => ?_
  obtain ⟨b, hb⟩ := hf a ha
  rw [hb]
  exact .nil b

theorem mapM {checks : α → List (Check ε)} {f : α → Except ε β} {as : List α}
    (h : ∀ a ∈ as, Settles (checks a) (f a)) : Settles (as.flatMap checks) (as.mapM f) := by
  induction as with
  | nil => exact .nil []
  | cons a as ih =>
    obtain ⟨hfirst, hrest⟩ := List.forall_mem_cons.1 h
    rw [List.flatMap_cons, List.mapM_cons]
    refine hfirst.bind fun b _ => ?_
    exact (ih hrest).bind_of_ok fun bs _ => ⟨b :: bs, rfl⟩

theorem exists_ok_iff (h : Settles cs x) : (∃ a, x = .ok a) ↔ Passed cs := by
  cases h with
  | ok hpassed => exact ⟨fun _ => hpassed, fun _ => ⟨_, rfl⟩⟩
  | error hfirst =>
    refine ⟨nofun, fun hpassed => ?_⟩
    exact absurd hpassed hfirst.not_passed

theorem eq_error_iff (h : Settles cs x) {e : ε} : x = .error e ↔ FirstFailing cs e := by
  cases h with
  | ok hpassed =>
    refine ⟨nofun, fun hfirst => ?_⟩
    exact absurd hpassed hfirst.not_passed
  | error hfirst =>
    constructor
    · rintro ⟨⟩
      exact hfirst
    · intro hother
      rw [hfirst.unique hother]

end Settles

end SqlGateway
