/-
Which members of a body a statement is built from. `FieldsCoincide op b b'`: two bodies have the same under the fields that
an operation reads. A condition that does not count is the same as none, and so is a projection that is no list; of other
members nothing is asked.

`statement_eq_of_fieldsCoincide`: then the operation gives one statement for both, or one error. A body that is no object
has no members, so it gives what the empty object does (`fieldsCoincide_empty`).
-/
import SqlGateway.Proofs.Statement.Validation

namespace SqlGateway

/-! ## The fields of an operation -/

namespace Body

/-- the same value under `conditions`, or nothing that counts in either body -/
def ConditionsCoincide (b b' : Json) : Prop :=
  b.get? "conditions" = b'.get? "conditions" ∨ Falsy (b.get? "conditions") ∧ Falsy (b'.get? "conditions")

/-- the same list under `columns`, or no list in either body -/
def ColumnsCoincide (b b' : Json) : Prop :=
  b.get? "columns" = b'.get? "columns" ∨ NotListed (b.get? "columns") ∧ NotListed (b'.get? "columns")

end Body

/-- the bodies have the same under the fields that the operation reads; to a filter each member is one -/
def Operation.FieldsCoincide : Operation → Json → Json → Prop
  | create, b, b' => b.get? "values" = b'.get? "values"
  | update, b, b' => b.get? "values" = b'.get? "values" ∧ Body.ConditionsCoincide b b'
  | delete, b, b' => Body.ConditionsCoincide b b'
  | select, b, b' => Body.ColumnsCoincide b b' ∧ Body.ConditionsCoincide b b'
  | filter, b, b' => b.members = b'.members

/-- the body has members, none perhaps -/
def IsObject (body : Json) : Prop := ∃ members, body = .object members

theorem get?_of_not_object {body : Json} (h : ¬ IsObject body) (key : String) : body.get? key = none := by
  cases body with
  | object members => exact absurd ⟨members, rfl⟩ h
  | _ => rfl

/-- what is no object has the members of the empty object -/
theorem fieldsCoincide_empty {body : Json} (h : ¬ IsObject body) (op : Operation) :
    op.FieldsCoincide body (.object []) := by
  have hget : ∀ key, body.get? key = Json.get? key (.object []) := get?_of_not_object h
  cases op with
  | create => exact hget _
  | update => exact ⟨hget _, .inl (hget _)⟩
  | delete => exact .inl (hget _)
  | select => exact ⟨.inl (hget _), .inl (hget _)⟩
  | filter =>
    cases body with
    | object members => exact absurd ⟨members, rfl⟩ h
    | _ => rfl

/-! ## What is read of them -/

namespace Body

variable {b b' : Json}

theorem assignments_congr (h : b.get? "values" = b'.get? "values") : assignments b = assignments b' := by
  unfold assignments
  rw [h]

theorem conditions_congr (h : ConditionsCoincide b b') : conditions b = conditions b' := by
  rcases h with heq | ⟨hb, hb'⟩
  · unfold conditions
    rw [heq]
  · rw [conditions_eq_none.2 hb, conditions_eq_none.2 hb']

theorem condition_congr (h : ConditionsCoincide b b') : condition b = condition b' := by
  unfold condition
  rw [conditions_congr h]

theorem columns_congr (h : ColumnsCoincide b b') : columns b = columns b' := by
  rcases h with heq | ⟨hb, hb'⟩
  · unfold columns
    rw [heq]
  · rw [columns_of_notListed hb, columns_of_notListed hb']

end Body

theorem Operation.FieldsCoincide.statement_eq {op : Operation} {b b' : Json} (h : op.FieldsCoincide b b')
    (table : String) : op.statement table b = op.statement table b' := by
  unfold Operation.statement
  cases op with
  | create => rw [Body.assignments_congr h]
  | update => rw [Body.assignments_congr h.1, Body.condition_congr h.2]
  | delete => rw [Body.condition_congr h]
  | select => rw [Body.columns_congr h.1, Body.condition_congr h.2]
  | filter =>
    have hterms : Body.terms b = Body.terms b' := congrArg (List.map _) h
    rw [hterms]

/-! ## Main result -/

/-- **A statement is built from its own fields.** Two bodies that have the same under the fields of an operation, where a
condition that does not count is none, are given the same statement or the same error, whatever else they hold. A body
that is no object is given what the empty object is. -/
theorem statement_eq_of_fieldsCoincide (op : Operation) (table : String) :
    (∀ b b', op.FieldsCoincide b b' → op.statement table b = op.statement table b') ∧
      ∀ body, ¬ IsObject body → op.statement table body = op.statement table (.object []) := by
  constructor
  · intro b b' h
    exact h.statement_eq table
  · intro body h
    exact (fieldsCoincide_empty h op).statement_eq table

/-- a column to set, a condition that is a negative zero, and a projection with an entry that is none -/
def zeroCondition : Json :=
  .object [("conditions", .number (.float Binary64.zero.negate)), ("columns", .array [.array []]),
    ("values", .array [.object [("column", .string "a"), ("value", .natural 1)]])]

/-- the same column to set, and an empty text as its condition -/
def emptyCondition : Json :=
  .object [("values", .array [.object [("column", .string "a"), ("value", .natural 1)]]), ("conditions", .string "")]

theorem emptyCondition_as_zeroCondition :
    Operation.update.FieldsCoincide zeroCondition emptyCondition ∧
      Operation.update.statement "t" zeroCondition = Operation.update.statement "t" emptyCondition ∧
      Operation.update.statement "t" emptyCondition = .ok (.update "t" [⟨"a", "1"⟩] none) ∧
      ¬ IsObject (.array [emptyCondition]) ∧
      Operation.delete.statement "t" (.array [emptyCondition]) = Operation.delete.statement "t" (.object []) := by
  have hzero : Falsy (zeroCondition.get? "conditions") := .zero (Number.isZero_iff.1 rfl)
  have hsame : Operation.update.FieldsCoincide zeroCondition emptyCondition := ⟨rfl, .inr ⟨hzero, .empty⟩⟩
  have harray : ¬ IsObject (.array [emptyCondition]) := nofun
  refine ⟨hsame, ?_, rfl, harray, ?_⟩
  · exact (statement_eq_of_fieldsCoincide .update "t").1 _ _ hsame
  · exact (statement_eq_of_fieldsCoincide .delete "t").2 _ harray

end SqlGateway
