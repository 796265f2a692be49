/-
What the store is asked over a run. Each request has its own list of calls, which depends on the request alone: none
if the request is refused (`Rejected`), one if it is not (`Accepted`). `received_eq_flatMap_calls`: whatever the store
answers and however its state moves, it receives these lists one after the other, in the order of the requests.

The store is watched through `Store.recording`, which answers as the store itself does and keeps what it is asked.
-/
import SqlGateway.Proofs.Http.Layers

namespace SqlGateway

variable {σ : Type}

/-- a store that also keeps what it is asked, in order -/
def Store.recording (store : Store σ) : Store (σ × List Call) where
  query state sql :=
    let (answer, next) := store.query state.1 sql
    (answer, next, state.2 ++ [.query sql])
  execute state sql :=
    let (answer, next) := store.execute state.1 sql
    (answer, next, state.2 ++ [.execute sql])

theorem Store.recording_query (store : Store σ) (state : σ) (log : List Call) (sql : String) :
    store.recording.query (state, log) sql =
      ((store.query state sql).1, (store.query state sql).2, log ++ [.query sql]) := rfl

theorem Store.recording_execute (store : Store σ) (state : σ) (log : List Call) (sql : String) :
    store.recording.execute (state, log) sql =
      ((store.execute state sql).1, (store.execute state sql).2, log ++ [.execute sql]) := rfl

namespace Http

/-! ## The calls of a request -/

/-- why a request is refused before the store is asked -/
inductive Request.Rejected (r : Request) : Prop
  | method : r.method ∉ ["GET", "HEAD", "POST", "PUT", "DELETE"] → Rejected r
  | path : (∀ segment, ¬ r.HasSegment segment) → Rejected r
  | segment {segment : List UInt8} :
    r.HasSegment segment → Utf8.decode? (Percent.decode segment) = none → Rejected r
  | repeatedType : r.method = "POST" → 1 < r.types.length → Rejected r
  | body {e : Json.ReadError} :
    r.method ∈ ["POST", "PUT", "DELETE"] → ¬ r.Blank → Json.read r.body = .error e → Rejected r
  | type : r.method = "POST" → r.types ≠ ["create"] → r.types ≠ ["update"] → Rejected r
  | builder {op : Operation} {table : String} {v : Json} {e : BuildError} :
    r.Asks op → r.Addresses table → r.Carries v → op.statement table v = .error e → Rejected r

/-- the call of a request that is not refused -/
inductive Request.Accepted (r : Request) : Call → Prop
  | filter {table : String} :
    r.method = "GET" ∨ r.method = "HEAD" → r.Addresses table →
      Accepted r (.query (Statement.filter table (Form.decode r.target.query)).sql)
  | select {table : String} {v : Json} {s : Statement} :
    r.Asks .select → r.Addresses table → r.Carries v → Operation.select.statement table v = .ok s →
      Accepted r (.query s.sql)
  | write {op : Operation} {table : String} {v : Json} {s : Statement} :
    op ∈ [.create, .update, .delete] → r.Asks op → r.Addresses table → r.Carries v → op.statement table v = .ok s →
      Accepted r (.execute s.sql)

/-- the calls that a request causes -/
def Request.calls (r : Request) : List Call :=
  match plan r with
  | .ok call => [call]
  | .error _ => []

theorem calls_of_plans {r : Request} {s : Statement} (h : r.Plans s) : r.calls = [s.call] := by
  rw [Request.calls, plan_eq_ok.2 ⟨s, h, rfl⟩]

/-- a statement that is planned is run by the call of its operation -/
theorem accepted_of_plans {r : Request} {s : Statement} (h : r.Plans s) : r.Accepted s.call := by
  cases h with
  | filter hmethod haddr => exact .filter hmethod haddr
  | @body op _ _ _ hop haddr hv hs =>
    rw [Operation.call_of_statement hs]
    cases hop with
    | select hmethod => exact .select (.select hmethod) haddr hv hs
    | create hmethod htypes => exact .write (by decide) (.create hmethod htypes) haddr hv hs
    | update hmethod htypes => exact .write (by decide) (.update hmethod htypes) haddr hv hs
    | delete hmethod => exact .write (by decide) (.delete hmethod) haddr hv hs

/-! ## Refused or planned -/

namespace Request

theorem Addresses.segment {r : Request} {table : String} (h : r.Addresses table) {segment : List UInt8}
    (hsegment : r.HasSegment segment) : Utf8.decode? (Percent.decode segment) = some table := by
  obtain ⟨other, hother, htable⟩ := h
  have heq : segment = other := (List.cons.inj (hsegment.path.symm.trans hother.path)).2
  rw [heq, htable]

theorem Asks.method_mem {r : Request} {op : Operation} (h : r.Asks op) : r.method ∈ ["POST", "PUT", "DELETE"] := by
  cases h with
  | create hmethod | update hmethod | delete hmethod | select hmethod => simp [hmethod]

theorem Asks.types_of_post {r : Request} {op : Operation} (h : r.Asks op) (hmethod : r.method = "POST") :
    r.types = ["create"] ∨ r.types = ["update"] := by
  cases h with
  | create _ htypes => exact .inl htypes
  | update _ htypes => exact .inr htypes
  | delete hother | select hother => exact absurd (hmethod.symm.trans hother) (by decide)

theorem Asks.unique {r : Request} {op op' : Operation} (h : r.Asks op) (h' : r.Asks op') : op = op' := by
  cases h <;> cases h' <;> simp_all

theorem Carries.unique {r : Request} {v w : Json} (hv : r.Carries v) (hw : r.Carries w) : v = w :=
  Except.ok.inj ((decodeBody_eq_ok.2 hv).symm.trans (decodeBody_eq_ok.2 hw))

theorem Plans.addresses {r : Request} {s : Statement} (h : r.Plans s) : ∃ table, r.Addresses table := by
  cases h with
  | filter _ haddr | body _ haddr => exact ⟨_, haddr⟩

theorem Plans.method_mem {r : Request} {s : Statement} (h : r.Plans s) :
    r.method ∈ ["GET", "HEAD", "POST", "PUT", "DELETE"] := by
  cases h with
  | filter hmethod => rcases hmethod with hmethod | hmethod <;> simp [hmethod]
  | body hop => exact List.mem_cons_of_mem _ (List.mem_cons_of_mem _ hop.method_mem)

/-- where the body counts, it is what the statement comes from -/
theorem Plans.of_body {r : Request} {s : Statement} (h : r.Plans s) (hmethod : r.method ∈ ["POST", "PUT", "DELETE"]) :
    ∃ op table v, r.Asks op ∧ r.Addresses table ∧ r.Carries v ∧ op.statement table v = .ok s := by
  cases h with
  | filter hother =>
    exfalso
    rcases hother with hother | hother <;> rw [hother] at hmethod <;> exact absurd hmethod (by decide)
  | body hop haddr hv hs => exact ⟨_, _, _, hop, haddr, hv, hs⟩

theorem Rejected.not_plans {r : Request} (h : r.Rejected) (s : Statement) : ¬ r.Plans s := by
  intro hs
  cases h with
  | method hmethod => exact hmethod hs.method_mem
  | path hpath =>
    obtain ⟨table, segment, hsegment, -⟩ := hs.addresses
    exact hpath segment hsegment
  | segment hsegment hnone =>
    obtain ⟨table, haddr⟩ := hs.addresses
    exact absurd (hnone.symm.trans (haddr.segment hsegment)) nofun
  | repeatedType hmethod hlength =>
    obtain ⟨op, _, _, hop, -⟩ := hs.of_body (by simp [hmethod])
    rcases hop.types_of_post hmethod with htypes | htypes <;> simp [htypes] at hlength
  | body hmethod hblank herror =>
    obtain ⟨_, _, v, -, -, hv, -⟩ := hs.of_body hmethod
    cases hv with
    | blank hyes => exact hblank hyes
    | json _ hread => exact absurd (herror.symm.trans hread) nofun
  | type hmethod hcreate hupdate =>
    obtain ⟨op, _, _, hop, -⟩ := hs.of_body (by simp [hmethod])
    exact (hop.types_of_post hmethod).elim hcreate hupdate
  | builder hop haddr hv herror =>
    obtain ⟨op', table', v', hop', haddr', hv', hok⟩ := hs.of_body hop.method_mem
    obtain ⟨segment, hsegment, htable⟩ := haddr
    have htable' := Option.some.inj (htable.symm.trans (haddr'.segment hsegment))
    rw [hop.unique hop', htable', hv.unique hv', hok] at herror
    cases herror

theorem exists_plans {r : Request} (h : ¬ r.Rejected) : ∃ s, r.Plans s := by
  have hmethod : r.method ∈ ["GET", "HEAD", "POST", "PUT", "DELETE"] := by_contra fun hno => h (.method hno)
  obtain ⟨segment, hsegment⟩ : ∃ segment, r.HasSegment segment := by_contra fun hno => h (.path (not_exists.1 hno))
  obtain ⟨table, haddr⟩ : ∃ table, r.Addresses table := by
    cases htable : Utf8.decode? (Percent.decode segment) with
    | none => exact absurd (.segment hsegment htable) h
    | some table => exact ⟨table, segment, hsegment, htable⟩
  -- once the operation is known, only the body and the builder can still refuse
  have hplans : ∀ op, r.Asks op → ∃ s, r.Plans s := by
    intro op hop
    obtain ⟨v, hv⟩ : ∃ v, r.Carries v := by
      by_cases hblank : r.Blank
      · exact ⟨_, .blank hblank⟩
      · cases hread : Json.read r.body with
        | error e => exact absurd (.body hop.method_mem hblank hread) h
        | ok v => exact ⟨v, .json hblank hread⟩
    cases hs : op.statement table v with
    | error e => exact absurd (.builder hop haddr hv hs) h
    | ok s => exact ⟨s, .body hop haddr hv hs⟩
  simp only [List.mem_cons, List.not_mem_nil, or_false] at hmethod
  rcases hmethod with hm | hm | hm | hm | hm
  · exact ⟨_, .filter (.inl hm) haddr⟩
  · exact ⟨_, .filter (.inr hm) haddr⟩
  · by_cases hcreate : r.types = ["create"]
    · exact hplans _ (.create hm hcreate)
    · by_cases hupdate : r.types = ["update"]
      · exact hplans _ (.update hm hupdate)
      · exact absurd (.type hm hcreate hupdate) h
  · exact hplans _ (.select hm)
  · exact hplans _ (.delete hm)

theorem calls_of_rejected {r : Request} (h : r.Rejected) : r.calls = [] := by
  unfold Request.calls
  cases hplan : plan r with
  | error reply => rfl
  | ok call =>
    obtain ⟨s, hs, -⟩ := plan_eq_ok.1 hplan
    exact absurd hs (h.not_plans s)

end Request

/-! ## Steps and runs -/

/-- the state of the store after some requests -/
def after (store : Store σ) (state : σ) (rs : List Request) : σ :=
  rs.foldl (fun state r => (step store state r).2) state

/-- what the store receives over a run -/
def received (store : Store σ) (state : σ) (rs : List Request) : List Call :=
  (after store.recording (state, []) rs).2

theorem plan_options {r : Request} (h : r.method = "OPTIONS") : r.calls = [] :=
  Request.calls_of_rejected (.method (by simp [h]))

theorem answer_calls (store : Store σ) (state : σ) (r : Request) :
    (answer store state (plan r)).1.calls = r.calls := by
  unfold Request.calls
  cases plan r <;> rfl

theorem step_calls (store : Store σ) (state : σ) (r : Request) : (step store state r).1.calls = r.calls := by
  by_cases h : r.method = "OPTIONS"
  · rw [step_options store state h, plan_options h]
  · rw [step_other store state h]
    exact answer_calls store state r

theorem perform_recording (store : Store σ) (state : σ) (log : List Call) (call : Call) :
    perform store.recording (state, log) call =
      ((perform store state call).1, (perform store state call).2, log ++ [call]) := by
  unfold perform
  cases call with
  | query sql =>
    simp only [Store.recording_query]
    rcases store.query state sql with ⟨_ | _, next⟩ <;> rfl
  | execute sql =>
    simp only [Store.recording_execute]
    rcases store.execute state sql with ⟨_ | _, next⟩ <;> rfl

theorem answer_recording (store : Store σ) (state : σ) (log : List Call) (r : Request) :
    answer store.recording (state, log) (plan r) =
      ((answer store state (plan r)).1, (answer store state (plan r)).2, log ++ r.calls) := by
  unfold Request.calls
  cases plan r with
  | error reply => simp [answer]
  | ok call => simp only [answer, perform_recording]

/-- one request: the same response, the same state, and its calls at the end of the log -/
theorem step_recording (store : Store σ) (state : σ) (log : List Call) (r : Request) :
    step store.recording (state, log) r =
      ((step store state r).1, (step store state r).2, log ++ r.calls) := by
  by_cases h : r.method = "OPTIONS"
  · rw [step_options _ _ h, step_options _ _ h, plan_options h, List.append_nil]
  · rw [step_other _ _ h, step_other _ _ h, answer_recording]

theorem after_recording (store : Store σ) (state : σ) (log : List Call) (rs : List Request) :
    after store.recording (state, log) rs = (after store state rs, log ++ rs.flatMap Request.calls) := by
  induction rs generalizing state log with
  | nil => simp [after]
  | cons r rs ih =>
    have hcons : ∀ {τ : Type} (t : Store τ) (s : τ), after t s (r :: rs) = after t (step t s r).2 rs := fun _ _ => rfl
    rw [hcons, hcons, step_recording, ih, List.flatMap_cons, List.append_assoc]

theorem received_eq (store : Store σ) (state : σ) (rs : List Request) :
    received store state rs = rs.flatMap Request.calls := by
  rw [received, after_recording, List.nil_append]

theorem run_recording (store : Store σ) (state : σ) (log : List Call) (rs : List Request) :
    run store.recording (state, log) rs = run store state rs := by
  induction rs generalizing state log with
  | nil => rfl
  | cons r rs ih => rw [run, run, step_recording, ih]

/-- what holds of every step holds of every exchange of a run -/
theorem forall₂_run {store : Store σ} {P : Request → Exchange → Prop}
    (h : ∀ state r, P r (step store state r).1) {state : σ} {rs : List Request} :
    List.Forall₂ P rs (run store state rs) := by
  induction rs generalizing state with
  | nil => exact .nil
  | cons r rs ih => exact .cons (h state r) ih

theorem run_calls (store : Store σ) (state : σ) (rs : List Request) :
    (run store state rs).map Exchange.calls = rs.map Request.calls := by
  induction rs generalizing state with
  | nil => rfl
  | cons r rs ih => rw [run, List.map_cons, List.map_cons, step_calls, ih]

/-! ## Main result -/

/-- **At most one call a request, none if it is refused.** Over any run, and whatever the store answers, it receives the
calls of the requests in their order, and watching it changes no exchange. A request that is refused has no calls, any
other one has the one call it is accepted with. -/
theorem received_eq_flatMap_calls (store : Store σ) (state : σ) (rs : List Request) :
    received store state rs = rs.flatMap Request.calls ∧
      run store.recording (state, []) rs = run store state rs ∧
      (run store state rs).map Exchange.calls = rs.map Request.calls ∧
      ∀ r : Request, (r.Rejected ∧ r.calls = []) ∨ (¬ r.Rejected ∧ ∃ call, r.Accepted call ∧ r.calls = [call]) := by
  refine ⟨received_eq store state rs, run_recording store state [] rs, run_calls store state rs, fun r => ?_⟩
  by_cases h : r.Rejected
  · exact .inl ⟨h, Request.calls_of_rejected h⟩
  · obtain ⟨s, hs⟩ := Request.exists_plans h
    exact .inr ⟨h, s.call, accepted_of_plans hs, calls_of_plans hs⟩

end Http

end SqlGateway
