/-
White space at the ends of a text. Every text is taken apart into white space, what trimming leaves, and white space
again (`exists_trim`); and what begins and ends with no white space is left by trimming as it is (`trim_between`).
-/
import Mathlib.Data.List.Basic
import SqlGateway.Text.Characters

namespace SqlGateway.Text

/-- nothing but white space -/
def Blank (cs : List Char) : Prop := ∀ c ∈ cs, isBlank c = true

theorem Blank.reverse {cs : List Char} (h : Blank cs) : Blank cs.reverse := by
  intro c hc
  exact h c (List.mem_reverse.1 hc)

theorem trimStart_blanks {blanks rest : List Char} (h : Blank blanks) (hend : ∀ c ∈ rest.head?, isBlank c = false) :
    trimStart (blanks ++ rest) = rest := by
  rw [trimStart, List.dropWhile_append_of_pos h]
  cases rest with
  | nil => rfl
  | cons c rest => rw [List.dropWhile_cons_of_neg (by simp [hend c rfl])]

theorem exists_trimStart (cs : List Char) : ∃ blanks, cs = blanks ++ trimStart cs ∧ Blank blanks := by
  refine ⟨cs.takeWhile isBlank, List.takeWhile_append_dropWhile.symm, ?_⟩
  exact List.all_eq_true.1 List.all_takeWhile

theorem exists_trim (cs : List Char) : ∃ before after, cs = before ++ trim cs ++ after ∧ Blank before ∧ Blank after := by
  obtain ⟨before, hcs, hbefore⟩ := exists_trimStart cs
  obtain ⟨after, hrest, hafter⟩ := exists_trimStart (trimStart cs).reverse
  refine ⟨before, after.reverse, ?_, hbefore, hafter.reverse⟩
  have hback := congrArg List.reverse hrest
  rw [List.reverse_reverse, List.reverse_append] at hback
  rw [List.append_assoc, trim, ← hback]
  exact hcs

/-- **What stands between white space is left by trimming.** -/
theorem trim_between {before cs after : List Char} (hbefore : Blank before) (hafter : Blank after) (hne : cs ≠ [])
    (h : ∀ c ∈ cs, isBlank c = false) : trim (before ++ cs ++ after) = cs := by
  have hends : ∀ {ds : List Char}, ds ≠ [] → (∀ c ∈ ds, isBlank c = false) → ∀ es : List Char,
      ∀ c ∈ (ds ++ es).head?, isBlank c = false := by
    intro ds hds hsolid es c hc
    rw [List.head?_append_of_ne_nil _ hds] at hc
    exact hsolid c (List.mem_of_mem_head? hc)
  have hstart : trimStart (before ++ cs ++ after) = cs ++ after := by
    rw [List.append_assoc, trimStart_blanks hbefore (hends hne h after)]
  have hback : ∀ c ∈ cs.reverse, isBlank c = false := fun c hc => h c (List.mem_reverse.1 hc)
  have hend := hends (List.reverse_ne_nil_iff.2 hne) hback []
  rw [List.append_nil] at hend
  rw [trim, hstart, List.reverse_append, trimStart_blanks hafter.reverse hend, List.reverse_reverse]

end SqlGateway.Text
