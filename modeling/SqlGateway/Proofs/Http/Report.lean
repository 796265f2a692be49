/-
What the response to a request says of its statement, for GET, POST, PUT and DELETE on a table:
- `plan_error`: the gateway refuses such a request in one way only, with an echo of the body (`Request.Echoes`);
- `answered_perform`: a statement that is sent is answered by what the store answers (`Answered`), and by nothing else;
- `response_reports_statement`: the status says whether a statement was sent and what came of it, and the JSON value
  carries the store's rows, outcome or failure as they are (`Reports`).

Assumed of the request: its path names a table and its query string decodes, which for POST means that `type` stands in
it once at most. Nothing is assumed of the body and of the store, whose errors may have any number and state code.
-/
import SqlGateway.Proofs.Http.Calls

namespace SqlGateway

variable {σ : Type}

/-! ## What the store answers -/

/-- the database says that the table does not exist, by number or by state code -/
def StoreError.NoTable (e : StoreError) : Prop := e.errno = some 1146 ∨ e.sqlstate = some "42S02"

theorem StoreError.isMissingTable_iff {e : StoreError} : e.isMissingTable = true ↔ e.NoTable := by
  simp [StoreError.isMissingTable, StoreError.NoTable, StoreError.missingTableNumber, StoreError.missingTableState]

theorem StoreError.httpStatus_eq_404 {e : StoreError} : e.httpStatus = 404 ↔ e.NoTable := by
  rw [← StoreError.isMissingTable_iff]
  unfold StoreError.httpStatus
  split <;> simp_all

theorem StoreError.httpStatus_eq_500 {e : StoreError} : e.httpStatus = 500 ↔ ¬ e.NoTable := by
  rw [← StoreError.isMissingTable_iff]
  unfold StoreError.httpStatus
  split <;> simp_all

/-- in this state the store runs the call -/
inductive Store.Succeeds (store : Store σ) (state : σ) : Call → Prop
  | query {sql : String} {rows : List Row} :
    (store.query state sql).1 = .ok rows → Succeeds store state (.query sql)
  | execute {sql : String} {outcome : Outcome} :
    (store.execute state sql).1 = .ok outcome → Succeeds store state (.execute sql)

/-- in this state the store fails to run the call -/
inductive Store.Fails (store : Store σ) (state : σ) (e : StoreError) : Call → Prop
  | query {sql : String} : (store.query state sql).1 = .error e → Fails store state e (.query sql)
  | execute {sql : String} : (store.execute state sql).1 = .error e → Fails store state e (.execute sql)

theorem Store.Succeeds.not_fails {store : Store σ} {state : σ} {call : Call} (h : store.Succeeds state call)
    (e : StoreError) : ¬ store.Fails state e call := by
  intro hfails
  cases h with
  | query hok =>
    cases hfails with
    | query herror => exact absurd (hok.symm.trans herror) nofun
  | execute hok =>
    cases hfails with
    | execute herror => exact absurd (hok.symm.trans herror) nofun

theorem Store.Fails.unique {store : Store σ} {state : σ} {call : Call} {e e' : StoreError}
    (h : store.Fails state e call) (h' : store.Fails state e' call) : e = e' := by
  cases h with
  | query he =>
    cases h' with
    | query he' => exact Except.error.inj (he.symm.trans he')
  | execute he =>
    cases h' with
    | execute he' => exact Except.error.inj (he.symm.trans he')

namespace Http

/-! ## Refusals -/

/-- what a refusal shows of the body: its value, or null if it is no JSON -/
inductive Request.Echoes (r : Request) : Json → Prop
  | value {v : Json} : r.Carries v → Echoes r v
  | unread {e : Json.ReadError} : ¬ r.Blank → Json.read r.body = .error e → Echoes r .null

theorem decodeBody_eq_error {r : Request} {e : Json.ReadError} :
    decodeBody r.body = .error e ↔ ¬ r.Blank ∧ Json.read r.body = .error e := by
  have hblank : r.body.all Text.isBlankOctet = true ↔ r.Blank := List.all_eq_true
  unfold decodeBody
  by_cases h : r.Blank
  · rw [if_pos (hblank.2 h)]
    simp [h]
  · rw [if_neg (mt hblank.1 h)]
    simp [h]

/-- the reply refuses the request and echoes its body -/
def Request.RefusedBy (r : Request) (reply : Reply) : Prop := ∃ e v, reply = .refusal e v ∧ r.Echoes v

/-- a body is refused when it is no JSON, or else when its value gives no statement -/
theorem refusedBy_of_body {r : Request} {build : Json → Except BuildError Statement} {reply : Reply}
    (h : (readBody r.body >>= fun v => sent v (build v)) = .error reply) : r.RefusedBy reply := by
  rcases bind_eq_error.1 h with hbody | ⟨v, hv, hvalue⟩
  · rw [readBody] at hbody
    cases hread : decodeBody r.body with
    | ok v =>
      rw [hread] at hbody
      cases hbody
    | error e =>
      rw [hread] at hbody
      obtain ⟨hblank, herror⟩ := decodeBody_eq_error.1 hread
      exact ⟨_, _, (Except.error.inj hbody).symm, .unread hblank herror⟩
  · obtain ⟨e, -, rfl⟩ := sent_eq_error.1 hvalue
    exact ⟨e, v, rfl, .value (readBody_eq_ok.1 hv)⟩

theorem requestType_eq_error {r : Request} {reply : Reply} :
    requestType r.target.query = .error reply ↔ reply = .repeatedType ∧ 1 < r.types.length := by
  unfold requestType Request.types
  generalize (Form.decode r.target.query).filter (fun p => p.1 == "type") = pairs
  rcases pairs with _ | ⟨p, _ | ⟨q, rest⟩⟩ <;> simp [eq_comm]

/-- a handler refuses a type that is repeated; any other refusal echoes the body -/
theorem handle_error {r : Request} {verb : Verb} {table : String} {reply : Reply}
    (h : verb.handle table r = .error reply) :
    (verb = .post ∧ reply = .repeatedType ∧ 1 < r.types.length) ∨ r.RefusedBy reply := by
  cases verb with
  | get | head => cases h
  | post =>
    rw [Verb.handle, post_eq] at h
    rcases bind_eq_error.1 h with htype | ⟨type, -, hbody⟩
    · exact .inl ⟨rfl, requestType_eq_error.1 htype⟩
    · exact .inr (refusedBy_of_body hbody)
  | put =>
    rw [Verb.handle, put_eq] at h
    exact .inr (refusedBy_of_body h)
  | delete =>
    rw [Verb.handle, delete_eq] at h
    exact .inr (refusedBy_of_body h)

/-- each of these methods is one of a table's -/
theorem exists_verb {r : Request} (h : r.method ∈ ["GET", "POST", "PUT", "DELETE"]) :
    ∃ verb : Verb, r.method = verb.name := by
  simp only [List.mem_cons, List.not_mem_nil, or_false] at h
  rcases h with h | h | h | h
  · exact ⟨.get, h⟩
  · exact ⟨.post, h⟩
  · exact ⟨.put, h⟩
  · exact ⟨.delete, h⟩

/-- a request on a table is refused for its body and its type only, and always with an echo of the body -/
theorem plan_error {r : Request} {table : String} {reply : Reply}
    (hmethod : r.method ∈ ["GET", "POST", "PUT", "DELETE"]) (haddr : r.Addresses table)
    (hquery : r.method = "POST" → r.types.length ≤ 1) (h : plan r = .error reply) : r.RefusedBy reply := by
  obtain ⟨verb, hverb⟩ := exists_verb hmethod
  rw [plan_of_addresses verb hverb haddr] at h
  rcases handle_error h with ⟨rfl, -, hrepeated⟩ | hrefused
  · exact absurd hrepeated (Nat.not_lt.2 (hquery hverb))
  · exact hrefused

/-! ## Answers -/

/-- the reply that passes on what the store answers to a call -/
inductive Answered (store : Store σ) (state : σ) : Call → Reply → Prop
  | rows {sql : String} {rows : List Row} :
    (store.query state sql).1 = .ok rows → Answered store state (.query sql) (.rows rows)
  | outcome {sql : String} {outcome : Outcome} :
    (store.execute state sql).1 = .ok outcome → Answered store state (.execute sql) (.write outcome)
  | failure {call : Call} {e : StoreError} :
    store.Fails state e call → Answered store state call (.failure e)

theorem answered_perform (store : Store σ) (state : σ) (call : Call) :
    Answered store state call (perform store state call).1 := by
  cases call with
  | query sql =>
    rw [perform]
    rcases hanswer : store.query state sql with ⟨e | rows, next⟩
    · exact .failure (.query (by rw [hanswer]))
    · exact .rows (by rw [hanswer])
  | execute sql =>
    rw [perform]
    rcases hanswer : store.execute state sql with ⟨e | outcome, next⟩
    · exact .failure (.execute (by rw [hanswer]))
    · exact .outcome (by rw [hanswer])

theorem Answered.status_ne {store : Store σ} {state : σ} {call : Call} {reply : Reply}
    (h : Answered store state call reply) : reply.status ≠ 400 := by
  cases h with
  | rows | outcome => exact nofun
  | @failure _ e =>
    change e.httpStatus ≠ 400
    unfold StoreError.httpStatus
    split <;> decide

theorem Answered.status_eq_200 {store : Store σ} {state : σ} {call : Call} {reply : Reply}
    (h : Answered store state call reply) : reply.status = 200 ↔ store.Succeeds state call := by
  cases h with
  | rows hok => exact ⟨fun _ => .query hok, fun _ => rfl⟩
  | outcome hok => exact ⟨fun _ => .execute hok, fun _ => rfl⟩
  | @failure _ e hfails =>
    constructor
    · intro hstatus
      change e.httpStatus = 200 at hstatus
      unfold StoreError.httpStatus at hstatus
      split at hstatus <;> cases hstatus
    · intro hok
      exact absurd hfails (hok.not_fails e)

theorem Answered.status_of_fails {store : Store σ} {state : σ} {call : Call} {reply : Reply}
    (h : Answered store state call reply) {n : Nat} (hn : n ≠ 200) :
    reply.status = n ↔ ∃ e, store.Fails state e call ∧ e.httpStatus = n := by
  cases h with
  | rows hok =>
    refine ⟨fun hstatus => absurd hstatus.symm hn, ?_⟩
    rintro ⟨e, hfails, -⟩
    exact absurd hfails (Store.Succeeds.not_fails (.query hok) e)
  | outcome hok =>
    refine ⟨fun hstatus => absurd hstatus.symm hn, ?_⟩
    rintro ⟨e, hfails, -⟩
    exact absurd hfails (Store.Succeeds.not_fails (.execute hok) e)
  | failure hfails =>
    refine ⟨fun hstatus => ⟨_, hfails, hstatus⟩, ?_⟩
    rintro ⟨e', hfails', hstatus⟩
    rw [hfails.unique hfails']
    exact hstatus

/-! ## Responses -/

/-- the response carries this JSON value -/
structure Response.HasJson (response : Response) (v : Json) : Prop where
  body : response.body = Utf8.encode v.compact
  type : ("content-type", Utf8.encode "application/json") ∈ response.headers

/-- the JSON value of a response with this status, when the store was sent these calls -/
structure Tells (store : Store σ) (state : σ) (r : Request) (sent : List Call) (status : Nat) (v : Json) : Prop where
  /-- the request is shown exactly if it is refused -/
  req : (v.get? "req").isSome ↔ status = 400
  refused : sent = [] →
    v.get? "status" = some (.natural 400) ∧ ∃ body, r.Echoes body ∧ v.get? "req" = some body
  /-- every row, in the order of the store -/
  rows : ∀ sql rows, sent = [.query sql] → (store.query state sql).1 = .ok rows →
    v.get? "status" = some (.natural 0) ∧
      v.get? "data" = some (.object [("items", .array (rows.map .object)), ("total", .natural rows.length)])
  write : ∀ sql outcome, sent = [.execute sql] → (store.execute state sql).1 = .ok outcome →
    v.get? "status" = some (.natural 0) ∧ v.get? "msg" = some (.string outcome.message) ∧
      v.get? "affected" = some (.natural outcome.affected.toNat) ∧
      v.get? "changed" = some (.natural outcome.changed.toNat)
  /-- the database's own number, whatever it is; without one, the status of the response -/
  failed : ∀ call e, sent = [call] → store.Fails state e call →
    v.get? "status" = some (.natural (e.errno.elim status UInt32.toNat)) ∧ v.get? "msg" = some (.string e.message)

/-- what the response to a request says, when the store was sent these calls -/
structure Reports (store : Store σ) (state : σ) (r : Request) (sent : List Call) (response : Response) : Prop where
  refused : response.status = 400 ↔ sent = []
  done : response.status = 200 ↔ ∃ call, sent = [call] ∧ store.Succeeds state call
  missing : response.status = 404 ↔ ∃ call e, sent = [call] ∧ store.Fails state e call ∧ e.NoTable
  failed : response.status = 500 ↔ ∃ call e, sent = [call] ∧ store.Fails state e call ∧ ¬ e.NoTable
  json : ∃ v, response.HasJson v ∧ Tells store state r sent response.status v

theorem hasJson_send {r : Request} {reply : Reply} {v : Json} (h : reply.content = .json v) :
    ((Cors.wrap r reply).send false).HasJson v := by
  refine ⟨?_, ?_⟩
  · simp [Reply.send, Cors.wrap, h, Content.octets]
  · simp [Reply.send, Cors.wrap, h, Content.headers]

theorem reports_refusal {store : Store σ} {state : σ} {r : Request} {e : BuildError} {v : Json} (hv : r.Echoes v) :
    Reports store state r [] ((Cors.wrap r (.refusal e v)).send false) := by
  have hstatus : ((Cors.wrap r (.refusal e v)).send false).status = 400 := rfl
  refine ⟨?_, ?_, ?_, ?_, _, hasJson_send rfl, ?_⟩
  all_goals rw [hstatus]
  · simp
  · simp
  · simp
  · simp
  · exact ⟨iff_of_true rfl rfl, fun _ => ⟨rfl, v, hv, rfl⟩, nofun, nofun, nofun⟩

theorem Answered.tells {store : Store σ} {state : σ} {r : Request} {call : Call} {reply : Reply}
    (h : Answered store state call reply) :
    ∃ v, reply.content = .json v ∧ Tells store state r [call] reply.status v := by
  have hreq : ∀ {v : Json}, v.get? "req" = none → ((v.get? "req").isSome ↔ reply.status = 400) := by
    intro v hnone
    simp [hnone, h.status_ne]
  cases h with
  | rows hok =>
    refine ⟨_, rfl, hreq rfl, nofun, ?_, ?_, ?_⟩
    · intro sql rows' hsent hok'
      cases hsent
      cases Except.ok.inj (hok.symm.trans hok')
      exact ⟨rfl, rfl⟩
    · intro sql outcome hsent
      cases hsent
    · intro call e hsent hfails
      cases hsent
      exact absurd hfails (Store.Succeeds.not_fails (.query hok) e)
  | outcome hok =>
    refine ⟨_, rfl, hreq rfl, nofun, ?_, ?_, ?_⟩
    · intro sql rows hsent
      cases hsent
    · intro sql outcome' hsent hok'
      cases hsent
      cases Except.ok.inj (hok.symm.trans hok')
      exact ⟨rfl, rfl, rfl, rfl⟩
    · intro call e hsent hfails
      cases hsent
      exact absurd hfails (Store.Succeeds.not_fails (.execute hok) e)
  | failure hfails =>
    refine ⟨_, rfl, hreq rfl, nofun, ?_, ?_, ?_⟩
    · intro sql rows hsent hok
      cases hsent
      exact absurd hfails (Store.Succeeds.not_fails (.query hok) _)
    · intro sql outcome hsent hok
      cases hsent
      exact absurd hfails (Store.Succeeds.not_fails (.execute hok) _)
    · intro call e' hsent hfails'
      cases hsent
      rw [hfails.unique hfails']
      exact ⟨rfl, rfl⟩

theorem Answered.reports {store : Store σ} {state : σ} {r : Request} {call : Call} {reply : Reply}
    (h : Answered store state call reply) :
    Reports store state r [call] ((Cors.wrap r reply).send false) := by
  have hstatus : ((Cors.wrap r reply).send false).status = reply.status := rfl
  obtain ⟨v, hv, htells⟩ := h.tells (r := r)
  refine ⟨?_, ?_, ?_, ?_, v, hasJson_send hv, ?_⟩
  all_goals rw [hstatus]
  · simp [h.status_ne]
  · simp [h.status_eq_200]
  · simp [h.status_of_fails, StoreError.httpStatus_eq_404]
  · simp [h.status_of_fails, StoreError.httpStatus_eq_500]
  · exact htells

/-- a table sends the reply of its handler with the cross-origin headers, and the body with it -/
theorem step_of_addresses (store : Store σ) (state : σ) {r : Request} {table : String}
    (hmethod : r.method ∈ ["GET", "POST", "PUT", "DELETE"]) (haddr : r.Addresses table) :
    (step store state r).1.response = (Cors.wrap r (answer store state (plan r)).1.reply).send false := by
  have hplain : r.method ≠ "OPTIONS" ∧ (r.method == "HEAD") = false := by
    simp only [List.mem_cons, List.not_mem_nil, or_false] at hmethod
    rcases hmethod with h | h | h | h <;> rw [h] <;> exact ⟨by decide, rfl⟩
  obtain ⟨verb, hverb⟩ := exists_verb hmethod
  obtain ⟨segment, hsegment, -⟩ := haddr
  rw [step_other store state hplain.1, ← hplain.2]
  exact respond_table (endpoint_eq_table.2 ⟨hsegment, hverb⟩) _

/-! ## Main result -/

/-- **The response tells what happened to the statement.** For every request on a table, body and store: 400 exactly
if nothing was sent to the store; 200 exactly if a statement was sent and the store ran it; 404 exactly if one was sent
and the database has no such table; 500 exactly if one was sent and failed otherwise. The JSON value of the response
says the same, and carries the body of a refused request and the answer of the store unchanged. -/
theorem response_reports_statement (store : Store σ) (state : σ) {r : Request} {table : String}
    (hmethod : r.method ∈ ["GET", "POST", "PUT", "DELETE"]) (haddr : r.Addresses table)
    (hquery : r.method = "POST" → r.types.length ≤ 1) :
    Reports store state r (received store state [r]) (step store state r).1.response := by
  rw [received_eq, List.flatMap_singleton, step_of_addresses store state hmethod haddr, Request.calls]
  cases hplan : plan r with
  | error reply =>
    obtain ⟨e, v, rfl, hv⟩ := plan_error hmethod haddr hquery hplan
    exact reports_refusal hv
  | ok call => exact (answered_perform store state call).reports

/-- a database that knows no table, which it says by the state code alone -/
def emptyDatabase : Store Unit where
  query _ _ := (.error ⟨some 1064, some "42S02", "gone"⟩, ())
  execute _ _ := (.error ⟨some 1064, some "42S02", "gone"⟩, ())

/-- a user without a name -/
def createUser : Request :=
  ⟨"POST", ⟨Utf8.encode "/us%65rs", Utf8.encode "a=b&type=create"⟩, [], Utf8.encode
    "\x7b\"values\":[\x7b\"column\":\"name\",\"value\":null\x7d]\x7d"⟩

theorem response_reports_createUser :
    (createUser.method ∈ ["GET", "POST", "PUT", "DELETE"] ∧ createUser.Addresses "users" ∧
      (createUser.method = "POST" → createUser.types.length ≤ 1)) ∧
    (step emptyDatabase () createUser).1.response.status = 404 ∧
    Reports emptyDatabase () createUser (received emptyDatabase () [createUser])
      (step emptyDatabase () createUser).1.response := by
  have hmethod : createUser.method ∈ ["GET", "POST", "PUT", "DELETE"] := by decide
  have haddr : createUser.Addresses "users" := ⟨Utf8.encode "us%65rs", ⟨by decide, by decide, by decide⟩, by decide⟩
  have hquery : createUser.method = "POST" → createUser.types.length ≤ 1 := by
    intro _
    decide
  have hreports := response_reports_statement emptyDatabase () hmethod haddr hquery
  exact ⟨⟨hmethod, haddr, hquery⟩, by rfl, hreports⟩

end Http

end SqlGateway
