/-
Which error a broken condition is reported with. `first_defect_is_reported`: a value that is not compiled has the error
of the first check that fails, in the order of `Condition.groupChecks`; each statement that would take it as its
condition fails with this error (`Reported`); and an error deep in a tree is that of the tree, whatever stands to the
right of it.
-/
import SqlGateway.Proofs.Condition.Defects
import SqlGateway.Proofs.Statement.Conditions

namespace SqlGateway

open Condition (CompileError Node Under groupChecks)

/-- no statement is built on this condition, and the error is this one unless what comes before the condition is refused
already -/
structure Reported (tree : Json) (e : CompileError) : Prop where
  delete : ∀ table body, body.get? "conditions" = some tree →
    Operation.delete.statement table body = .error (.conditions e)
  update : ∀ table body assignments, body.get? "conditions" = some tree → Body.assignments body = .ok assignments →
    Operation.update.statement table body = .error (.conditions e)
  select : ∀ table body columns, body.get? "conditions" = some tree → Body.columns body = .ok columns →
    Operation.select.statement table body = .error (.conditions e)

theorem reported_of_compile {tree : Json} {e : CompileError} (hfalsy : ¬ Falsy (some tree))
    (h : Condition.compile tree = .error e) : Reported tree e := by
  refine ⟨fun table body htree => ?_, fun table body assignments htree ha => ?_, fun table body columns htree hc => ?_⟩
  · unfold Operation.statement
    rw [condition_error htree hfalsy h]
    rfl
  · unfold Operation.statement
    rw [ha, condition_error htree hfalsy h]
    rfl
  · unfold Operation.statement
    rw [hc, condition_error htree hfalsy h]
    rfl

/-- a value with members counts as a condition -/
theorem not_falsy_of_isSome {v : Json} {key : String} (h : (v.get? key).isSome) : ¬ Falsy (some v) := by
  rw [falsy_some]
  cases v with
  | object => exact nofun
  | _ => cases h

theorem Under.compile_eq_error {v item : Json} {e : CompileError} (h : Under item v)
    (hitem : Node.ofJson item = .error e) : Condition.compile v = .error e := by
  unfold Condition.compile
  rw [h.ofJson_eq_error hitem]
  rfl

/-! ## Main result -/

/-- **The first defect decides.** The error of a value that is not compiled is that of the first check that fails, and
the builders report it as it is. A child that is refused, at any depth, gives its error to the group, to all groups
above it and to the builders, whatever comes behind it. -/
theorem first_defect_is_reported (v : Json) (e : CompileError) :
    (Condition.compile v = .error e ↔ FirstFailing (groupChecks v) e) ∧
    (Condition.compile v = .error e → ¬ Falsy (some v) → Reported v e) ∧
    ∀ item, Under item v → Node.ofJson item = .error e → Condition.compile v = .error e ∧ Reported v e := by
  refine ⟨(Condition.settles_compile v).eq_error_iff, ?_, ?_⟩
  · intro h hfalsy
    exact reported_of_compile hfalsy h
  · intro item hunder hitem
    have h := Under.compile_eq_error hunder hitem
    exact ⟨h, reported_of_compile (not_falsy_of_isSome hunder.conjunction_isSome) h⟩

/-- a comparison on a field -/
def comparing (op : String) (right : Json) : Json :=
  .object [("op", .string op), ("left", .object [("type", .string "field"), ("field", .string "age")]), ("right", right)]

/-- two defects: there is no such operator, and none takes an object -/
def misnamed : Json := comparing "at_least" (.object [])

/-- a group with the comparison in the middle and another defect behind it -/
def middleGroup : Json :=
  .object [("conjunction", .string "and"), ("children", .array [comparing "less" (.string "5"), misnamed, .null])]

/-- the same group inside another one, again with a defect behind it -/
def outerGroup : Json :=
  .object [("children", .array [comparing "is_empty" .null, middleGroup, .object [("conjunction", .null)]]),
    ("conjunction", .string "Or")]

theorem misnamed_is_reported :
    Under misnamed outerGroup ∧ Node.ofJson misnamed = .error (.unknownOperator "at_least") ∧
      Condition.compile outerGroup = .error (.unknownOperator "at_least") ∧
      Operation.delete.statement "users" (.object [("conditions", outerGroup)]) =
        .error (.conditions (.unknownOperator "at_least")) := by
  have hmiddle : Condition.GroupShape middleGroup .and ([comparing "less" (.string "5")] ++ misnamed :: [.null]) :=
    ⟨⟨"and", rfl, .and (by decide)⟩, rfl, List.cons_ne_nil _ _⟩
  have houter : Condition.GroupShape outerGroup .or
      ([comparing "is_empty" .null] ++ middleGroup :: [.object [("conjunction", .null)]]) :=
    ⟨⟨"Or", rfl, .or (by decide)⟩, rfl, List.cons_ne_nil _ _⟩
  have hunder : Under misnamed outerGroup := by
    refine .deeper houter (List.forall_mem_singleton.2 ⟨_, rfl⟩) ?_
    exact .child hmiddle (List.forall_mem_singleton.2 ⟨_, rfl⟩)
  have hitem : Node.ofJson misnamed = .error (.unknownOperator "at_least") := by rfl
  obtain ⟨hcompile, hreported⟩ := (first_defect_is_reported outerGroup (.unknownOperator "at_least")).2.2 _ hunder hitem
  exact ⟨hunder, hitem, hcompile, hreported.delete "users" _ rfl⟩

end SqlGateway
