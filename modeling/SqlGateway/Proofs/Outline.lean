/-
The outline of a statement: its text without what stands in literals. A literal runs from a double quote to the next
one, and a backslash in it takes the next character along, as in `Condition.Formula`.

`SameOutline s t`: neither text leaves a literal open, and they have one outline. Such texts are put together from texts
without a quote, which are their own outline, and from quoted values, which leave two quotes whatever they are.
-/
import SqlGateway.Proofs.Condition.Meaning

namespace SqlGateway

open Condition (quote IsPlain)

mutual

/-- what is left of a text that begins outside of literals -/
def outside : List Char → List Char
  | [] => []
  | '"' :: rest => '"' :: inside rest
  | c :: rest => c :: outside rest

/-- what is left of a text that begins in a literal -/
def inside : List Char → List Char
  | [] => []
  | '"' :: rest => '"' :: outside rest
  | '\\' :: _ :: rest => inside rest
  | _ :: rest => inside rest

end

/-- the text without what stands in its literals -/
def outline (text : String) : String := String.ofList (outside text.toList)

/-- literals end where the reader of conditions has them end -/
theorem inside_eq (cs : List Char) :
    inside cs = (Condition.Formula.afterQuote? cs).elim [] fun rest => '"' :: outside rest := by
  fun_induction Condition.Formula.afterQuote? cs with
  | case1 => rfl
  | case2 rest => rfl
  | case3 c rest ih => rw [inside, ih]
  | case4 c rest hquote hbackslash ih => rw [inside, ih] <;> assumption

theorem outside_unquoted {cs : List Char} (h : '"' ∉ cs) (rest : List Char) :
    outside (cs ++ rest) = cs ++ outside rest := by
  induction cs with
  | nil => rfl
  | cons c cs ih =>
    rw [List.mem_cons, not_or] at h
    rw [List.cons_append, outside, ih h.2, List.cons_append]
    rintro rfl
    exact h.1 rfl

theorem outside_quote {v : String} (h : IsPlain v) (rest : List Char) :
    outside ((quote v).toList ++ rest) = '"' :: '"' :: outside rest := by
  have hsplit : (quote v).toList ++ rest = '"' :: (v.toList ++ '"' :: rest) := by simp [quote]
  rw [hsplit, outside, inside_eq, Condition.Formula.afterQuote?_plain h.1 h.2]
  rfl

/-- the text leaves no literal open -/
def Closed (s : String) : Prop := ∀ rest, outside (s.toList ++ rest) = outside s.toList ++ outside rest

theorem closed_of_unquoted {s : String} (h : '"' ∉ s.toList) : Closed s := by
  intro rest
  have hs := outside_unquoted h []
  rw [List.append_nil, outside, List.append_nil] at hs
  rw [outside_unquoted h, hs]

theorem Closed.outside_append {s : String} (h : Closed s) (t : String) :
    outside (s ++ t).toList = outside s.toList ++ outside t.toList := by
  rw [String.toList_append, h]

theorem Closed.append {s t : String} (hs : Closed s) (ht : Closed t) : Closed (s ++ t) := by
  intro rest
  rw [hs.outside_append, String.toList_append, List.append_assoc, hs, ht, List.append_assoc]

structure SameOutline (s t : String) : Prop where
  left : Closed s
  right : Closed t
  outside_eq : outside s.toList = outside t.toList

namespace SameOutline

theorem outline_eq {s t : String} (h : SameOutline s t) : outline s = outline t :=
  congrArg String.ofList h.outside_eq

theorem unquoted {s : String} (h : '"' ∉ s.toList) : SameOutline s s :=
  ⟨closed_of_unquoted h, closed_of_unquoted h, rfl⟩

theorem quoted {v w : String} (hv : IsPlain v) (hw : IsPlain w) : SameOutline (quote v) (quote w) := by
  have hquote : ∀ {u : String}, IsPlain u → outside (quote u).toList = ['"', '"'] := by
    intro u hu
    have hrest := outside_quote hu []
    rwa [List.append_nil] at hrest
  have hclosed : ∀ {u : String}, IsPlain u → Closed (quote u) := by
    intro u hu rest
    rw [outside_quote hu, hquote hu]
    rfl
  exact ⟨hclosed hv, hclosed hw, (hquote hv).trans (hquote hw).symm⟩

theorem append {s t s' t' : String} (h : SameOutline s t) (h' : SameOutline s' t') :
    SameOutline (s ++ s') (t ++ t') := by
  refine ⟨h.left.append h'.left, h.right.append h'.right, ?_⟩
  rw [h.left.outside_append, h.right.outside_append, h.outside_eq, h'.outside_eq]

theorem intercalate {separator : String} (hseparator : '"' ∉ separator.toList) {ss ts : List String}
    (h : List.Forall₂ SameOutline ss ts) : SameOutline (separator.intercalate ss) (separator.intercalate ts) := by
  induction h with
  | nil => exact unquoted (by simp)
  | cons hfirst hrest ih =>
    cases hrest with
    | nil => simpa using hfirst
    | cons =>
      rw [String.intercalate_cons_cons, String.intercalate_cons_cons]
      exact (hfirst.append (unquoted hseparator)).append ih

theorem quotes {vs ws : List String} (h : vs.length = ws.length) (hv : ∀ v ∈ vs, IsPlain v)
    (hw : ∀ w ∈ ws, IsPlain w) : List.Forall₂ SameOutline (vs.map quote) (ws.map quote) := by
  rw [List.forall₂_map_left_iff, List.forall₂_map_right_iff, List.forall₂_iff_zip]
  refine ⟨h, fun hp => ?_⟩
  obtain ⟨hleft, hright⟩ := List.of_mem_zip hp
  exact .quoted (hv _ hleft) (hw _ hright)

end SameOutline

end SqlGateway
