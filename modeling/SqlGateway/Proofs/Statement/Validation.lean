/-
What a body must look like, and which of its defects is reported.

- `Body.Assigns` is what comes of `values`: assignments if it is a list of them and not empty, otherwise the error of the
  list itself, or else of its first entry that is none. What follows that entry does not count.
- `Body.Projects` is what comes of `columns`: every column unless it is a list, otherwise the names in the list, which must
  all be scalars, at least one of them.
- `body_is_validated`: this is what is read of a body, in every case; and what is wrong with `values` or `columns` is
  reported before anything that is wrong with the condition.
-/
import SqlGateway.Proofs.Condition.Language
import SqlGateway.Proofs.Statement.Assignments

namespace SqlGateway

open Condition (IsScalar exists_scalarText?)

/-! ## Entries of `values` -/

/-- a column's name, and a value that is neither array nor object -/
structure IsAssignment (entry : Json) : Prop where
  column : ∃ column, entry.get? "column" = some (.string column)
  value : ∃ v, entry.get? "value" = some v ∧ IsScalar v

/-- why an entry is no assignment: without a name or without any value it is malformed, otherwise its value is at fault -/
inductive RefusedAssignment (entry : Json) : BuildError → Prop
  | malformed :
    ¬ ((∃ column, entry.get? "column" = some (.string column)) ∧ (entry.get? "value").isSome) →
      RefusedAssignment entry .malformedValue
  | nonScalar {column : String} {v : Json} :
    entry.get? "column" = some (.string column) → entry.get? "value" = some v → ¬ IsScalar v →
      RefusedAssignment entry (.nonScalarValue column)

theorem exists_comesFrom {entry : Json} : (∃ a : Assignment, a.ComesFrom entry) ↔ IsAssignment entry := by
  constructor
  · intro ⟨a, ⟨hcolumn, v, hvalue, htext⟩⟩
    exact ⟨⟨a.column, hcolumn⟩, v, hvalue, exists_scalarText?.1 ⟨_, htext⟩⟩
  · intro ⟨⟨column, hcolumn⟩, v, hvalue, hscalar⟩
    obtain ⟨text, htext⟩ := exists_scalarText?.2 hscalar
    exact ⟨⟨column, text⟩, hcolumn, v, hvalue, htext⟩

theorem exists_assignment {entry : Json} : (∃ a, Assignment.ofJson entry = .ok a) ↔ IsAssignment entry := by
  simp only [Assignment.ofJson_eq_ok]
  exact exists_comesFrom

theorem Assignment.ofJson_eq_error {entry : Json} {e : BuildError} :
    Assignment.ofJson entry = .error e ↔ RefusedAssignment entry e := by
  unfold Assignment.ofJson
  constructor
  · intro h
    split at h
    · rename_i column v hcolumn hvalue
      cases htext : v.scalarText? with
      | some text => simp [htext] at h
      | none =>
        obtain rfl : BuildError.nonScalarValue column = e := by simpa [htext] using h
        refine .nonScalar hcolumn hvalue fun hscalar => ?_
        obtain ⟨text, hsome⟩ := exists_scalarText?.2 hscalar
        exact absurd (htext.symm.trans hsome) nofun
    · rename_i hshape
      cases h
      refine .malformed fun ⟨⟨column, hcolumn⟩, hpresent⟩ => ?_
      obtain ⟨v, hvalue⟩ := Option.isSome_iff_exists.1 hpresent
      exact hshape column v hcolumn hvalue
  · intro h
    cases h with
    | malformed hshape =>
      split
      · rename_i column v hcolumn hvalue
        exact absurd ⟨⟨column, hcolumn⟩, Option.isSome_of_eq_some hvalue⟩ hshape
      · rfl
    | @nonScalar column v hcolumn hvalue hscalar =>
      have htext : v.scalarText? = none := by
        by_contra hsome
        exact hscalar (exists_scalarText?.1 (Option.ne_none_iff_exists'.1 hsome))
      simp only [hcolumn, hvalue, htext]

namespace Body

/-! ## The assignments -/

/-- what comes of the assignments of a body -/
inductive Assigns (body : Json) : Except BuildError (List Assignment) → Prop
  | missing : body.get? "values" = none → Assigns body (.error .missingValues)
  | notListed {v : Json} :
    body.get? "values" = some v → (∀ entries, v ≠ .array entries) → Assigns body (.error .malformedValue)
  | empty : body.get? "values" = some (.array []) → Assigns body (.error .emptyValues)
  | refused {before after : List Json} {entry : Json} {e : BuildError} :
    body.get? "values" = some (.array (before ++ entry :: after)) → (∀ i ∈ before, IsAssignment i) →
      RefusedAssignment entry e → Assigns body (.error e)
  | assigned {entries : List Json} {as : List Assignment} :
    body.get? "values" = some (.array entries) → entries ≠ [] →
      List.Forall₂ (fun entry a => a.ComesFrom entry) entries as → Assigns body (.ok as)

theorem assignments_of_array {body : Json} {entries : List Json} (h : body.get? "values" = some (.array entries))
    (hne : entries ≠ []) : assignments body = entries.mapM Assignment.ofJson := by
  cases entries with
  | nil => exact absurd rfl hne
  | cons entry rest => simp only [assignments, h]

theorem assigns_assignments (body : Json) : Assigns body (assignments body) := by
  cases hvalues : body.get? "values" with
  | none =>
    simp only [assignments, hvalues]
    exact .missing hvalues
  | some v =>
    cases v with
    | array entries =>
      by_cases hne : entries = []
      · subst hne
        simp only [assignments, hvalues]
        exact .empty hvalues
      · rw [assignments_of_array hvalues hne]
        cases hall : entries.mapM Assignment.ofJson with
        | ok as =>
          refine .assigned hvalues hne ((mapM_eq_ok.1 hall).imp ?_)
          intro entry a ha
          exact Assignment.ofJson_eq_ok.1 ha
        | error e =>
          obtain ⟨before, entry, after, rfl, hbefore, hentry⟩ := mapM_eq_error.1 hall
          refine .refused hvalues ?_ (Assignment.ofJson_eq_error.1 hentry)
          intro i hi
          exact exists_assignment.1 (hbefore i hi)
    | _ =>
      simp only [assignments, hvalues]
      exact .notListed hvalues nofun

theorem Assigns.eq {body : Json} {r : Except BuildError (List Assignment)} (h : Assigns body r) :
    assignments body = r := by
  cases h with
  | missing hvalues | empty hvalues => simp only [assignments, hvalues]
  | @notListed v hvalues harray =>
    cases v with
    | array entries => exact absurd rfl (harray entries)
    | _ => simp only [assignments, hvalues]
  | @refused before after entry e hvalues hbefore hentry =>
    rw [assignments_of_array hvalues (by simp), mapM_eq_error]
    refine ⟨before, entry, after, rfl, ?_, Assignment.ofJson_eq_error.2 hentry⟩
    intro i hi
    exact exists_assignment.2 (hbefore i hi)
  | assigned hvalues hne hall =>
    rw [assignments_of_array hvalues hne, mapM_eq_ok]
    exact hall.imp fun _ _ ha => Assignment.ofJson_eq_ok.2 ha

theorem assignments_iff {body : Json} {r : Except BuildError (List Assignment)} :
    assignments body = r ↔ Assigns body r :=
  ⟨fun h => h ▸ assigns_assignments body, Assigns.eq⟩

theorem exists_assignments {body : Json} :
    (∃ as, assignments body = .ok as) ↔
      ∃ entries, body.get? "values" = some (.array entries) ∧ entries ≠ [] ∧ ∀ entry ∈ entries, IsAssignment entry := by
  constructor
  · intro ⟨as, has⟩
    cases assignments_iff.1 has with
    | assigned hvalues hne hall =>
      refine ⟨_, hvalues, hne, fun entry hentry => ?_⟩
      exact exists_comesFrom.1 (exists_of_forall₂_left hall hentry)
  · intro ⟨entries, hvalues, hne, hentries⟩
    obtain ⟨as, hall⟩ := exists_forall₂ fun entry hentry => exists_comesFrom.2 (hentries entry hentry)
    exact ⟨as, (Assigns.assigned hvalues hne hall).eq⟩

/-! ## The projection -/

/-- there is no list under this value -/
def NotListed (v : Option Json) : Prop := ∀ entries, v ≠ some (.array entries)

/-- what comes of the projection of a body -/
inductive Projects (body : Json) : Except BuildError (Option (List String)) → Prop
  | every : NotListed (body.get? "columns") → Projects body (.ok none)
  | empty : body.get? "columns" = some (.array []) → Projects body (.error .emptyColumns)
  | refused {entries : List Json} {entry : Json} :
    body.get? "columns" = some (.array entries) → entry ∈ entries → ¬ IsScalar entry →
      Projects body (.error .invalidColumn)
  | listed {entries : List Json} {names : List String} :
    body.get? "columns" = some (.array entries) → entries ≠ [] →
      List.Forall₂ (fun entry name => entry.scalarText? = some name) entries names → Projects body (.ok (some names))

theorem column_eq_ok {entry : Json} {name : String} : column entry = .ok name ↔ entry.scalarText? = some name := by
  unfold column
  cases entry.scalarText? <;> simp

theorem column_eq_error {entry : Json} {e : BuildError} :
    column entry = .error e ↔ ¬ IsScalar entry ∧ e = .invalidColumn := by
  rw [← exists_scalarText?]
  unfold column
  cases entry.scalarText? <;> simp [eq_comm]

theorem columns_of_array {body : Json} {entries : List Json} (h : body.get? "columns" = some (.array entries))
    (hne : entries ≠ []) : columns body = (entries.mapM column).map some := by
  cases entries with
  | nil => exact absurd rfl hne
  | cons entry rest => simp only [columns, h]

theorem columns_of_notListed {body : Json} (h : NotListed (body.get? "columns")) : columns body = .ok none := by
  unfold columns
  split
  · rename_i hcolumns
    exact absurd hcolumns (h [])
  · rename_i entries _ hcolumns
    exact absurd hcolumns (h entries)
  · rfl

/-- one entry that is no scalar is enough, and all entries are refused alike -/
theorem mapM_column_eq_error {entries : List Json} {e : BuildError} :
    entries.mapM column = .error e ↔ (∃ entry ∈ entries, ¬ IsScalar entry) ∧ e = .invalidColumn := by
  constructor
  · intro h
    obtain ⟨before, entry, after, rfl, -, hentry⟩ := mapM_eq_error.1 h
    obtain ⟨hscalar, he⟩ := column_eq_error.1 hentry
    exact ⟨⟨entry, by simp, hscalar⟩, he⟩
  · intro ⟨⟨entry, hentry, hscalar⟩, he⟩
    cases hall : entries.mapM column with
    | ok names =>
      obtain ⟨name, hname⟩ := exists_of_forall₂_left (mapM_eq_ok.1 hall) hentry
      exact absurd (exists_scalarText?.1 ⟨name, column_eq_ok.1 hname⟩) hscalar
    | error e' =>
      obtain ⟨before, entry', after, -, -, hentry'⟩ := mapM_eq_error.1 hall
      rw [he, (column_eq_error.1 hentry').2]

theorem projects_columns (body : Json) : Projects body (columns body) := by
  by_cases hlisted : NotListed (body.get? "columns")
  · rw [columns_of_notListed hlisted]
    exact .every hlisted
  · obtain ⟨entries, hcolumns⟩ : ∃ entries, body.get? "columns" = some (.array entries) := by
      simpa [NotListed] using hlisted
    by_cases hne : entries = []
    · subst hne
      simp only [columns, hcolumns]
      exact .empty hcolumns
    · rw [columns_of_array hcolumns hne]
      cases hall : entries.mapM column with
      | ok names =>
        refine .listed hcolumns hne ((mapM_eq_ok.1 hall).imp ?_)
        intro entry name hname
        exact column_eq_ok.1 hname
      | error e =>
        obtain ⟨⟨entry, hentry, hscalar⟩, rfl⟩ := mapM_column_eq_error.1 hall
        exact .refused hcolumns hentry hscalar

theorem Projects.eq {body : Json} {r : Except BuildError (Option (List String))} (h : Projects body r) :
    columns body = r := by
  cases h with
  | every hlisted => exact columns_of_notListed hlisted
  | empty hcolumns => simp only [columns, hcolumns]
  | @refused entries entry hcolumns hentry hscalar =>
    rw [columns_of_array hcolumns (List.ne_nil_of_mem hentry), mapM_column_eq_error.2 ⟨⟨entry, hentry, hscalar⟩, rfl⟩]
    rfl
  | listed hcolumns hne hall =>
    have hnames := mapM_eq_ok.2 (hall.imp fun _ _ hname => column_eq_ok.2 hname)
    rw [columns_of_array hcolumns hne, hnames]
    rfl

theorem columns_iff {body : Json} {r : Except BuildError (Option (List String))} :
    columns body = r ↔ Projects body r :=
  ⟨fun h => h ▸ projects_columns body, Projects.eq⟩

end Body

/-! ## Main result -/

/-- **A body is read as it is documented, and its first defect is reported.** There are assignments exactly if `values` is
a list of them, and not empty; what comes of `values` and of `columns`, errors included, is what `Body.Assigns` and
`Body.Projects` say. An update reports an error of the condition only after `values` is accepted, a select only after
`columns` is. -/
theorem body_is_validated (body : Json) :
    ((∃ as, Body.assignments body = .ok as) ↔
      ∃ entries, body.get? "values" = some (.array entries) ∧ entries ≠ [] ∧ ∀ entry ∈ entries, IsAssignment entry) ∧
    (∀ r, Body.assignments body = r ↔ Body.Assigns body r) ∧
    (∀ r, Body.columns body = r ↔ Body.Projects body r) ∧
    ∀ table e,
      (Operation.update.statement table body = .error e ↔
        Body.assignments body = .error e ∨ (∃ as, Body.assignments body = .ok as) ∧ Body.condition body = .error e) ∧
      (Operation.select.statement table body = .error e ↔
        Body.columns body = .error e ∨ (∃ names, Body.columns body = .ok names) ∧ Body.condition body = .error e) := by
  refine ⟨Body.exists_assignments, fun r => Body.assignments_iff, fun r => Body.columns_iff, fun table e => ⟨?_, ?_⟩⟩
  · exact both_eq_error
  · exact both_eq_error

/-- the second entry has a value that is no scalar, the third no name, and the condition is no group -/
example :
    Operation.update.statement "t" (.object [("conditions", .array []), ("values", .array
      [.object [("column", .string "a"), ("value", .null)], .object [("column", .string "b"), ("value", .array [])],
        .object [("value", .null)]])]) = .error (.nonScalarValue "b") := by
  rfl

end SqlGateway
