/-
The condition of a statement. A body has no condition when `Falsy` says so: nothing under `conditions`, or null, false,
a number that is zero, the empty text. Otherwise its condition is what `conditions` is compiled to, and if that fails no
statement is built. `statement_eq_ok` gives the text of each delete, update and select: a delete has a condition always,
the other two whenever the body has one.
-/
import SqlGateway.Proofs.Condition.Tree
import SqlGateway.Proofs.Number.Zero
import SqlGateway.Statement.Operation

namespace SqlGateway

/-! ## The condition of a body -/

/-- there is no condition under this value -/
inductive Falsy : Option Json → Prop
  | missing : Falsy none
  | null : Falsy (some .null)
  | no : Falsy (some (.bool false))
  | zero {n : Number} : n.units = 0 → Falsy (some (.number n))
  | empty : Falsy (some (.string ""))

/-- the body has a condition, and this is the text that it is compiled to -/
structure HasCondition (body : Json) (fragment : String) : Prop where
  compiled : ∃ tree, body.get? "conditions" = some tree ∧ ¬ Falsy (some tree) ∧ Condition.compile tree = .ok fragment
  nonempty : fragment ≠ ""

theorem falsy_some {v : Json} : Falsy (some v) ↔ v.isTruthy = false := by
  refine ⟨fun h => ?_, fun h => ?_⟩
  · cases h with
    | null | no | empty => rfl
    | zero hn => simp [Json.isTruthy, Number.isZero_iff.2 hn]
  · cases v with
    | null => exact .null
    | bool b =>
      obtain rfl : b = false := h
      exact .no
    | number n => exact .zero (Number.isZero_iff.1 (by simpa [Json.isTruthy] using h))
    | string s =>
      obtain rfl : s = "" := by simpa [Json.isTruthy] using h
      exact .empty
    | array | object => cases h

theorem conditions_eq_none {body : Json} : Body.conditions body = none ↔ Falsy (body.get? "conditions") := by
  unfold Body.conditions
  cases body.get? "conditions" with
  | none => exact ⟨fun _ => .missing, fun _ => rfl⟩
  | some v => simp [falsy_some]

theorem conditions_eq_some {body tree : Json} :
    Body.conditions body = some tree ↔ body.get? "conditions" = some tree ∧ ¬ Falsy (some tree) := by
  unfold Body.conditions
  rw [Option.filter_eq_some_iff, falsy_some, Bool.not_eq_false]

theorem compile_ne_empty {v : Json} {t : String} (h : Condition.compile v = .ok t) : t ≠ "" := by
  obtain ⟨g, -, ht⟩ := bind_eq_ok.1 h
  exact (Condition.Group.sql_eq_ok.1 ht).ne_empty

theorem condition_eq_none {body : Json} : Body.condition body = .ok none ↔ Falsy (body.get? "conditions") := by
  rw [← conditions_eq_none]
  unfold Body.condition
  cases Body.conditions body with
  | none => simp
  | some tree =>
    dsimp only
    cases Condition.compile tree <;> simp

theorem condition_eq_some {body : Json} {fragment : String} :
    Body.condition body = .ok (some fragment) ↔ HasCondition body fragment := by
  have hcompiled : Body.condition body = .ok (some fragment) ↔
      ∃ tree, Body.conditions body = some tree ∧ Condition.compile tree = .ok fragment := by
    unfold Body.condition
    cases Body.conditions body with
    | none => simp
    | some tree =>
      dsimp only
      cases hc : Condition.compile tree <;> simp [hc]
  rw [hcompiled]
  simp only [conditions_eq_some, and_assoc]
  constructor
  · rintro ⟨tree, htree, hfalsy, hc⟩
    exact ⟨⟨tree, htree, hfalsy, hc⟩, compile_ne_empty hc⟩
  · exact HasCondition.compiled

/-- a condition that counts but does not compile is an error, never no condition -/
theorem condition_error {body tree : Json} {cause : Condition.CompileError} (htree : body.get? "conditions" = some tree)
    (hfalsy : ¬ Falsy (some tree)) (hc : Condition.compile tree = .error cause) :
    Body.condition body = .error (.conditions cause) := by
  unfold Body.condition
  rw [conditions_eq_some.2 ⟨htree, hfalsy⟩]
  simp only [hc]

/-! ## The statements that take one -/

/-- the operations whose statements take a condition -/
def conditional : List Operation := [.delete, .update, .select]

/-- the base followed by the body's condition; the base alone only if the body has none -/
inductive Guarded (body : Json) (base : String) : String → Prop
  | bare : Falsy (body.get? "conditions") → Guarded body base base
  | guarded {fragment : String} :
    HasCondition body fragment → Guarded body base (base ++ " WHERE (" ++ fragment ++ ")")

/-- the texts that a table and a body give an operation -/
inductive Conditioned (table : String) (body : Json) : Operation → String → Prop
  | delete {fragment : String} :
    HasCondition body fragment →
      Conditioned table body .delete ("DELETE FROM " ++ table ++ " WHERE (" ++ fragment ++ ")")
  | update {assignments : List Assignment} {sql : String} :
    Body.assignments body = .ok assignments →
      Guarded body ("UPDATE " ++ table ++ " SET " ++ Statement.setList assignments) sql →
      Conditioned table body .update sql
  | select {columns : Option (List String)} {sql : String} :
    Body.columns body = .ok columns →
      Guarded body ("SELECT " ++ columns.elim "*" ",".intercalate ++ " FROM " ++ table) sql →
      Conditioned table body .select sql

theorem guarded_iff {body : Json} {base sql : String} :
    Guarded body base sql ↔
      ∃ condition, Body.condition body = .ok condition ∧ sql = base ++ condition.elim "" Statement.whereClause := by
  have hwhere : ∀ fragment, base ++ Statement.whereClause fragment = base ++ " WHERE (" ++ fragment ++ ")" := by
    simp [Statement.whereClause, String.append_assoc]
  refine ⟨fun h => ?_, fun h => ?_⟩
  · cases h with
    | bare hfalsy => exact ⟨none, condition_eq_none.2 hfalsy, String.append_empty.symm⟩
    | @guarded fragment hc => exact ⟨some fragment, condition_eq_some.2 hc, (hwhere fragment).symm⟩
  · obtain ⟨condition, hc, rfl⟩ := h
    cases condition with
    | none =>
      rw [Option.elim_none, String.append_empty]
      exact .bare (condition_eq_none.1 hc)
    | some fragment =>
      rw [Option.elim_some, hwhere]
      exact .guarded (condition_eq_some.1 hc)

theorem delete_eq_ok {table sql : String} {body : Json} :
    (Operation.delete.statement table body).map Statement.sql = .ok sql ↔ Conditioned table body .delete sql := by
  have hwhere : ∀ fragment,
      (Statement.delete table fragment).sql = "DELETE FROM " ++ table ++ " WHERE (" ++ fragment ++ ")" := by
    simp [Statement.sql, Statement.whereClause, String.append_assoc]
  refine ⟨fun h => ?_, fun h => ?_⟩
  · obtain ⟨s, hs, rfl⟩ := map_eq_ok.1 h
    obtain ⟨condition, hc, hs⟩ := bind_eq_ok.1 hs
    cases condition with
    | none => cases hs
    | some fragment =>
      cases hs
      rw [hwhere]
      exact .delete (condition_eq_some.1 hc)
  · cases h with
    | @delete fragment hc =>
      rw [← hwhere]
      exact map_eq_ok.2 ⟨_, bind_eq_ok.2 ⟨_, condition_eq_some.2 hc, rfl⟩, rfl⟩

theorem update_eq_ok {table sql : String} {body : Json} :
    (Operation.update.statement table body).map Statement.sql = .ok sql ↔ Conditioned table body .update sql := by
  refine ⟨fun h => ?_, fun h => ?_⟩
  · obtain ⟨s, hs, rfl⟩ := map_eq_ok.1 h
    obtain ⟨assignments, ha, hs⟩ := bind_eq_ok.1 hs
    obtain ⟨condition, hc, hs⟩ := bind_eq_ok.1 hs
    cases hs
    exact .update ha (guarded_iff.2 ⟨condition, hc, rfl⟩)
  · cases h with
    | update ha hguarded =>
      obtain ⟨condition, hc, rfl⟩ := guarded_iff.1 hguarded
      exact map_eq_ok.2 ⟨_, bind_eq_ok.2 ⟨_, ha, bind_eq_ok.2 ⟨_, hc, rfl⟩⟩, rfl⟩

theorem select_eq_ok {table sql : String} {body : Json} :
    (Operation.select.statement table body).map Statement.sql = .ok sql ↔ Conditioned table body .select sql := by
  refine ⟨fun h => ?_, fun h => ?_⟩
  · obtain ⟨s, hs, rfl⟩ := map_eq_ok.1 h
    obtain ⟨columns, hcolumns, hs⟩ := bind_eq_ok.1 hs
    obtain ⟨condition, hc, hs⟩ := bind_eq_ok.1 hs
    cases hs
    exact .select hcolumns (guarded_iff.2 ⟨condition, hc, rfl⟩)
  · cases h with
    | select hcolumns hguarded =>
      obtain ⟨condition, hc, rfl⟩ := guarded_iff.1 hguarded
      exact map_eq_ok.2 ⟨_, bind_eq_ok.2 ⟨_, hcolumns, bind_eq_ok.2 ⟨_, hc, rfl⟩⟩, rfl⟩

/-- the texts that an operation builds are those it may have -/
theorem statement_eq_ok {op : Operation} (hop : op ∈ conditional) {table sql : String} {body : Json} :
    (op.statement table body).map Statement.sql = .ok sql ↔ Conditioned table body op sql := by
  simp only [conditional, List.mem_cons, List.not_mem_nil, or_false] at hop
  rcases hop with rfl | rfl | rfl
  · exact delete_eq_ok
  · exact update_eq_ok
  · exact select_eq_ok

theorem delete_refuses_whole_table {table : String} {body : Json} :
    Operation.delete.statement table body = .error .wholeTableDelete ↔ Falsy (body.get? "conditions") := by
  rw [← condition_eq_none]
  unfold Operation.statement
  refine ⟨fun h => ?_, fun h => ?_⟩
  · cases hc : Body.condition body with
    | error e =>
      -- the compiler's own errors are of another kind
      obtain rfl : e = .wholeTableDelete := by simpa [hc, bind, Except.bind] using h
      unfold Body.condition at hc
      split at hc
      · cases hc
      · split at hc <;> cases hc
    | ok condition =>
      cases condition with
      | none => rfl
      | some fragment => simp [hc, bind, Except.bind, pure, Except.pure] at h
  · rw [h]
    rfl

/-- a condition that does not compile leaves no statement -/
theorem statement_of_broken {op : Operation} (hop : op ∈ conditional) {table : String} {body tree : Json}
    {cause : Condition.CompileError} (htree : body.get? "conditions" = some tree) (hfalsy : ¬ Falsy (some tree))
    (hc : Condition.compile tree = .error cause) : ∃ e, op.statement table body = .error e := by
  have herror := condition_error htree hfalsy hc
  cases hs : op.statement table body with
  | error e => exact ⟨e, rfl⟩
  | ok s =>
    exfalso
    have htext := (statement_eq_ok hop).1 (map_eq_ok.2 ⟨s, hs, rfl⟩)
    generalize s.sql = sql at htext
    cases htext with
    | delete hcondition => exact absurd (herror.symm.trans (condition_eq_some.2 hcondition)) nofun
    | update _ hguarded | select _ hguarded =>
      obtain ⟨condition, hok, -⟩ := guarded_iff.1 hguarded
      exact absurd (herror.symm.trans hok) nofun

end SqlGateway
