/-
What a request plans, in terms of the request alone: the table that its path names, the value that its body carries, the
operation that its method and type ask for. `plan_cases` takes the routing apart once and `plan_eq_ok` the handlers; what
is shown of the gateway rests on them and never opens either again.
-/
import SqlGateway.Http.Gateway
import SqlGateway.Proofs.Traversal

namespace SqlGateway

/-! ## Statements and calls -/

/-- whether the statement answers with rows -/
def Statement.isRead : Statement → Bool
  | select _ _ _ | filter _ _ => true
  | insert _ _ | update _ _ _ | delete _ _ => false

/-- the call that runs a statement -/
def Statement.call (s : Statement) : Call :=
  if s.isRead then .query s.sql else .execute s.sql

theorem Operation.isRead_statement {op : Operation} {table : String} {body : Json} {s : Statement}
    (h : op.statement table body = .ok s) : s.isRead = op.isRead := by
  cases op <;> cases ha : Body.assignments body <;> cases hc : Body.columns body <;>
    rcases hw : Body.condition body with _ | _ | _ <;>
    simp [statement, ha, hc, hw, bind, Except.bind, pure, Except.pure] at h <;> subst h <;> rfl

theorem Operation.call_of_statement {op : Operation} {table : String} {body : Json} {s : Statement}
    (h : op.statement table body = .ok s) : s.call = if op.isRead then .query s.sql else .execute s.sql := by
  rw [Statement.call, isRead_statement h]

namespace Http

/-! ## What a request says -/

namespace Request

/-- the path of the request is this one segment, which is not empty -/
structure HasSegment (r : Request) (segment : List UInt8) : Prop where
  path : r.target.path = 47 :: segment
  nonempty : segment ≠ []
  single : 47 ∉ segment

/-- the one segment of the path is the table's name in UTF-8, perhaps escaped -/
def Addresses (r : Request) (table : String) : Prop :=
  ∃ segment, r.HasSegment segment ∧ Utf8.decode? (Percent.decode segment) = some table

/-- the values under `type` in the query string -/
def types (r : Request) : List String :=
  ((Form.decode r.target.query).filter fun p => p.1 == "type").map Prod.snd

/-- nothing but white space in the body -/
def Blank (r : Request) : Prop := ∀ b ∈ r.body, Text.isBlankOctet b

/-- the value of the body: an empty object if it is blank, what is read from it otherwise -/
inductive Carries (r : Request) : Json → Prop
  | blank : r.Blank → Carries r (.object [])
  | json {v : Json} : ¬ r.Blank → Json.read r.body = .ok v → Carries r v

/-- the operation that takes its statement from the body -/
inductive Asks (r : Request) : Operation → Prop
  | create : r.method = "POST" → r.types = ["create"] → Asks r .create
  | update : r.method = "POST" → r.types = ["update"] → Asks r .update
  | delete : r.method = "DELETE" → Asks r .delete
  | select : r.method = "PUT" → Asks r .select

/-- the statement of a request on a table -/
inductive Plans (r : Request) : Statement → Prop
  | filter {table : String} :
    r.method = "GET" ∨ r.method = "HEAD" → r.Addresses table → Plans r (.filter table (Form.decode r.target.query))
  | body {op : Operation} {table : String} {v : Json} {s : Statement} :
    r.Asks op → r.Addresses table → r.Carries v → op.statement table v = .ok s → Plans r s

end Request

/-! ## Path, query string and body -/

theorem segment?_eq_some {r : Request} {segment : List UInt8} :
    r.target.segment? = some segment ↔ r.HasSegment segment := by
  unfold Target.segment?
  refine ⟨fun h => ?_, fun h => ?_⟩
  · split at h
    · rename_i rest hpath
      split at h
      · cases h
      · rename_i hcond
        cases h
        simp only [Bool.or_eq_true, List.isEmpty_iff, List.contains_iff_mem, not_or] at hcond
        exact ⟨hpath, hcond.1, hcond.2⟩
    · cases h
  · obtain ⟨hpath, hne, hsingle⟩ := h
    simp [hpath, hne, hsingle]

theorem ofName?_eq_some {name : String} {verb : Verb} : Verb.ofName? name = some verb ↔ name = verb.name := by
  constructor
  · intro h
    unfold Verb.ofName? at h
    split at h <;> cases h <;> rfl
  · rintro rfl
    cases verb <;> rfl

/-- a request goes to the handler of its method if its path is a table's -/
theorem endpoint_eq_table {r : Request} {verb : Verb} {segment : List UInt8} :
    Endpoint.ofRequest r = .table verb segment ↔ r.HasSegment segment ∧ r.method = verb.name := by
  rw [← segment?_eq_some, ← ofName?_eq_some]
  unfold Endpoint.ofRequest
  cases r.target.segment? <;> cases Verb.ofName? r.method <;> simp [and_comm]

theorem decodeBody_eq_ok {r : Request} {v : Json} : decodeBody r.body = .ok v ↔ r.Carries v := by
  have hblank : r.body.all Text.isBlankOctet = true ↔ r.Blank := List.all_eq_true
  unfold decodeBody
  by_cases h : r.Blank
  · rw [if_pos (hblank.2 h)]
    refine ⟨fun hv => ?_, fun hv => ?_⟩
    · cases hv
      exact .blank h
    · cases hv with
      | blank => rfl
      | json hnot => exact absurd h hnot
  · rw [if_neg (mt hblank.1 h)]
    constructor
    · exact .json h
    · intro hv
      cases hv with
      | blank hyes => exact absurd hyes h
      | json _ hread => exact hread

theorem readBody_eq_ok {r : Request} {v : Json} : readBody r.body = .ok v ↔ r.Carries v := by
  rw [← decodeBody_eq_ok, readBody]
  cases decodeBody r.body <;> simp [Except.mapError]

theorem requestType_eq_ok {r : Request} {type : Option String} :
    requestType r.target.query = .ok type ↔ r.types = type.toList := by
  unfold requestType Request.types
  generalize (Form.decode r.target.query).filter (fun p => p.1 == "type") = pairs
  rcases pairs with _ | ⟨p, _ | ⟨q, rest⟩⟩ <;> cases type <;> simp

/-! ## Handlers -/

/-- what is sent for a statement; for none, the refusal that echoes the body -/
def sent (v : Json) : Except BuildError Statement → Except Reply Call
  | .ok s => .ok s.call
  | .error e => .error (.refusal e v)

theorem sent_eq_ok {v : Json} {x : Except BuildError Statement} {call : Call} :
    sent v x = .ok call ↔ ∃ s, x = .ok s ∧ s.call = call := by
  cases x <;> simp [sent]

theorem sent_eq_error {v : Json} {x : Except BuildError Statement} {reply : Reply} :
    sent v x = .error reply ↔ ∃ e, x = .error e ∧ reply = .refusal e v := by
  cases x <;> simp [sent, eq_comm]

/-- what is written is executed -/
theorem write_eq {op : Operation} (hop : op.isRead = false) (table : String) (v : Json) :
    write op table v = sent v (op.statement table v) := by
  rw [write, generate]
  cases hs : op.statement table v with
  | error e => rfl
  | ok s =>
    rw [sent, Operation.call_of_statement hs, hop]
    rfl

/-- what is selected is queried -/
theorem complexQuery_eq (table : String) (v : Json) :
    complexQuery table v = sent v (Operation.select.statement table v) := by
  rw [complexQuery, generate]
  cases hs : Operation.select.statement table v with
  | error e => rfl
  | ok s =>
    rw [sent, Operation.call_of_statement hs]
    rfl

theorem ofRequest_post {type : Option String} {op : Operation} :
    Operation.ofRequest "POST" type = .ok op ↔
      (type = some "create" ∧ op = .create) ∨ (type = some "update" ∧ op = .update) := by
  unfold Operation.ofRequest
  rw [if_neg (by decide), if_neg (by decide), if_neg (by decide), if_pos (by decide)]
  split <;> simp_all [eq_comm]

theorem ofRequest_eq_error {method : String} {type : Option String} {e : BuildError}
    (h : Operation.ofRequest method type = .error e) : e = .invalidRequestType := by
  unfold Operation.ofRequest at h
  repeat' split at h
  all_goals cases h
  all_goals rfl

/-- POST sends what its operation gives, and a type that gives no operation is refused as the statement would be -/
theorem post_eq (table : String) (query body : List UInt8) :
    Handler.post table query body =
      requestType query >>= fun type => readBody body >>= fun v => sent v (Statement.ofRequest table "POST" type v) := by
  refine bind_congr fun type => bind_congr fun v => ?_
  rw [Statement.ofRequest]
  cases hop : Operation.ofRequest "POST" type with
  | error e =>
    rw [ofRequest_eq_error hop]
    rfl
  | ok op =>
    rcases ofRequest_post.1 hop with ⟨-, rfl⟩ | ⟨-, rfl⟩
    · exact write_eq rfl table v
    · exact write_eq rfl table v

theorem put_eq (table : String) (body : List UInt8) :
    Handler.put table body = readBody body >>= fun v => sent v (Operation.select.statement table v) :=
  bind_congr fun v => complexQuery_eq table v

theorem delete_eq (table : String) (body : List UInt8) :
    Handler.delete table body = readBody body >>= fun v => sent v (Operation.delete.statement table v) :=
  bind_congr fun v => write_eq rfl table v

/-- a handler sends the statement of its request, if it has one -/
theorem plans_of_handle {r : Request} {verb : Verb} {table : String} {call : Call} (hverb : r.method = verb.name)
    (haddr : r.Addresses table) (h : verb.handle table r = .ok call) : ∃ s, r.Plans s ∧ s.call = call := by
  cases verb with
  | get =>
    cases h
    exact ⟨_, .filter (.inl hverb) haddr, rfl⟩
  | head =>
    cases h
    exact ⟨_, .filter (.inr hverb) haddr, rfl⟩
  | post =>
    rw [Verb.handle, post_eq] at h
    obtain ⟨type, htype, h⟩ := bind_eq_ok.1 h
    obtain ⟨v, hv, h⟩ := bind_eq_ok.1 h
    obtain ⟨s, hs, hcall⟩ := sent_eq_ok.1 h
    obtain ⟨op, hop, hs⟩ := bind_eq_ok.1 hs
    have htypes := requestType_eq_ok.1 htype
    have hbody := readBody_eq_ok.1 hv
    rcases ofRequest_post.1 hop with ⟨rfl, rfl⟩ | ⟨rfl, rfl⟩
    · exact ⟨s, .body (.create hverb htypes) haddr hbody hs, hcall⟩
    · exact ⟨s, .body (.update hverb htypes) haddr hbody hs, hcall⟩
  | put =>
    rw [Verb.handle, put_eq] at h
    obtain ⟨v, hv, h⟩ := bind_eq_ok.1 h
    obtain ⟨s, hs, hcall⟩ := sent_eq_ok.1 h
    exact ⟨s, .body (.select hverb) haddr (readBody_eq_ok.1 hv) hs, hcall⟩
  | delete =>
    rw [Verb.handle, delete_eq] at h
    obtain ⟨v, hv, h⟩ := bind_eq_ok.1 h
    obtain ⟨s, hs, hcall⟩ := sent_eq_ok.1 h
    exact ⟨s, .body (.delete hverb) haddr (readBody_eq_ok.1 hv) hs, hcall⟩

/-! ## The routes -/

/-- what the endpoint of a request sends to the store, or the reply that refuses the request -/
def plan (r : Request) : Except Reply Call := (Endpoint.ofRequest r).plan r

theorem plan_of_addresses {r : Request} {table : String} (verb : Verb) (hverb : r.method = verb.name)
    (haddr : r.Addresses table) : plan r = verb.handle table r := by
  obtain ⟨segment, hsegment, htable⟩ := haddr
  rw [plan, endpoint_eq_table.2 ⟨hsegment, hverb⟩, Endpoint.plan, Verb.plan, htable]

/-- a request that addresses a table is handled there; the routes refuse any other in one of three ways -/
theorem plan_cases (r : Request) :
    (∃ (verb : Verb) (table : String), r.method = verb.name ∧ r.Addresses table ∧ plan r = verb.handle table r) ∨
      ∃ reply ∈ [Reply.notFound, .methodNotAllowed, .invalidTable], plan r = .error reply := by
  rcases hendpoint : Endpoint.ofRequest r with ⟨verb, segment⟩ | _ | _
  · obtain ⟨hsegment, hverb⟩ := endpoint_eq_table.1 hendpoint
    rcases htable : Utf8.decode? (Percent.decode segment) with _ | table
    · have hplan : plan r = .error .invalidTable := by rw [plan, hendpoint, Endpoint.plan, Verb.plan, htable]
      exact .inr ⟨.invalidTable, by simp, hplan⟩
    · have haddr : r.Addresses table := ⟨segment, hsegment, htable⟩
      exact .inl ⟨verb, table, hverb, haddr, plan_of_addresses verb hverb haddr⟩
  · exact .inr ⟨.methodNotAllowed, by simp, by rw [plan, hendpoint, Endpoint.plan]⟩
  · exact .inr ⟨.notFound, by simp, by rw [plan, hendpoint, Endpoint.plan]⟩

theorem plan_of_asks {r : Request} {op : Operation} {table : String} {v : Json} {s : Statement} (hop : r.Asks op)
    (haddr : r.Addresses table) (hv : r.Carries v) (hs : op.statement table v = .ok s) : plan r = .ok s.call := by
  have hbody := readBody_eq_ok.2 hv
  cases hop with
  | create hmethod htypes =>
    have htype : requestType r.target.query = .ok (some "create") := requestType_eq_ok.2 htypes
    rw [plan_of_addresses .post hmethod haddr, Verb.handle, post_eq]
    exact bind_eq_ok.2 ⟨_, htype, bind_eq_ok.2 ⟨v, hbody, sent_eq_ok.2 ⟨s, hs, rfl⟩⟩⟩
  | update hmethod htypes =>
    have htype : requestType r.target.query = .ok (some "update") := requestType_eq_ok.2 htypes
    rw [plan_of_addresses .post hmethod haddr, Verb.handle, post_eq]
    exact bind_eq_ok.2 ⟨_, htype, bind_eq_ok.2 ⟨v, hbody, sent_eq_ok.2 ⟨s, hs, rfl⟩⟩⟩
  | delete hmethod =>
    rw [plan_of_addresses .delete hmethod haddr, Verb.handle, delete_eq]
    exact bind_eq_ok.2 ⟨v, hbody, sent_eq_ok.2 ⟨s, hs, rfl⟩⟩
  | select hmethod =>
    rw [plan_of_addresses .put hmethod haddr, Verb.handle, put_eq]
    exact bind_eq_ok.2 ⟨v, hbody, sent_eq_ok.2 ⟨s, hs, rfl⟩⟩

theorem plan_eq_ok {r : Request} {call : Call} : plan r = .ok call ↔ ∃ s, r.Plans s ∧ s.call = call := by
  refine ⟨fun h => ?_, fun h => ?_⟩
  · rcases plan_cases r with ⟨verb, table, hverb, haddr, hplan⟩ | ⟨reply, -, hrefused⟩
    · rw [hplan] at h
      exact plans_of_handle hverb haddr h
    · rw [hrefused] at h
      cases h
  · obtain ⟨s, hs, rfl⟩ := h
    cases hs with
    | filter hmethod haddr =>
      rcases hmethod with hmethod | hmethod
      · exact plan_of_addresses .get hmethod haddr
      · exact plan_of_addresses .head hmethod haddr
    | body hop haddr hv hs => exact plan_of_asks hop haddr hv hs

end Http

end SqlGateway
