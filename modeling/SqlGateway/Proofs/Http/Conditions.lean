/-
No statement loses its condition between a request and the store. `Statement.Conditions` settles the builders for every
table and body; here the same is shown of what the store receives, over any run, for DELETE, PUT and POST with the type
update.
-/
import SqlGateway.Proofs.Http.Calls
import SqlGateway.Proofs.Statement.Conditions

namespace SqlGateway.Http

/-- the call is of a text that the table and the body of the request give the operation -/
def KeepsCondition (r : Request) (op : Operation) (call : Call) : Prop :=
  ∃ table body sql, r.Addresses table ∧ r.Carries body ∧ Conditioned table body op sql ∧
    call = if op.isRead then .query sql else .execute sql

theorem calls_keep_condition {r : Request} {op : Operation} (hop : op ∈ conditional) (hasks : r.Asks op) {call : Call}
    (hcall : call ∈ r.calls) : KeepsCondition r op call := by
  unfold Request.calls at hcall
  cases hplan : plan r with
  | error reply => simp [hplan] at hcall
  | ok planned =>
    rw [hplan] at hcall
    obtain rfl := List.mem_singleton.1 hcall
    obtain ⟨s, hplans, rfl⟩ := plan_eq_ok.1 hplan
    obtain ⟨op', table, body, hasks', haddr, hbody, hs⟩ := hplans.of_body hasks.method_mem
    obtain rfl := hasks.unique hasks'
    have hconditioned := (statement_eq_ok hop).1 (map_eq_ok.2 ⟨s, hs, rfl⟩)
    exact ⟨table, body, s.sql, haddr, hbody, hconditioned, Operation.call_of_statement hs⟩

/-- **No statement loses its condition.** For every table and body, a delete is built only with a condition, and
refused as one of the whole table exactly when the body has none; an update and a select have the body's condition
whenever there is one; a condition that does not compile leaves no statement. And whatever the store receives for a
request that deletes, updates or selects is such a statement, of the request's own table and body. -/
theorem no_statement_loses_condition :
    (∀ (table : String) (body : Json),
      (∀ op ∈ conditional, ∀ sql,
        (op.statement table body).map Statement.sql = .ok sql ↔ Conditioned table body op sql) ∧
      (Operation.delete.statement table body = .error .wholeTableDelete ↔ Falsy (body.get? "conditions")) ∧
      ∀ tree cause, body.get? "conditions" = some tree → ¬ Falsy (some tree) →
        Condition.compile tree = .error cause → ∀ op ∈ conditional, ∃ e, op.statement table body = .error e) ∧
    ∀ (σ : Type) (store : Store σ) (state : σ) (rs : List Request),
      received store state rs = ((run store state rs).map Exchange.calls).flatten ∧
      List.Forall₂ (fun r x => ∀ op ∈ conditional, r.Asks op → ∀ call ∈ x.calls, KeepsCondition r op call)
        rs (run store state rs) := by
  refine ⟨fun table body => ⟨fun op hop sql => statement_eq_ok hop, delete_refuses_whole_table, ?_⟩, ?_⟩
  · intro tree cause htree hfalsy hcompile op hop
    exact statement_of_broken hop htree hfalsy hcompile
  · intro σ store state rs
    refine ⟨?_, forall₂_run fun state r op hop hasks call hcall => ?_⟩
    · rw [received_eq, run_calls, List.flatMap_def]
    · rw [step_calls] at hcall
      exact calls_keep_condition hop hasks hcall

end SqlGateway.Http
