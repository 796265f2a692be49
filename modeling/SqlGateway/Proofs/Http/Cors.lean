/-
Cross-origin headers beside the handling of requests. Every response has them, whatever came of its request, and they
follow the request's origin alone; nothing else of a response follows the headers of the request. OPTIONS is answered
before a request is planned, so it never reaches the store.

- `isRefusal_of_plan`, `answered_perform`: a reply refuses the request or passes on what the store answers, so its status
  is one of a few and its own headers are no cross-origin ones.
- `step_sameRequest`: of a request's headers nothing follows but the origin that the response names.
- `cors_never_interferes`: both over every run, one exchange beside the other.
-/
import SqlGateway.Proofs.Http.Report

namespace SqlGateway.Http

variable {σ : Type}

/-! ## Headers of a response -/

/-- the values under a name, in their order -/
def Headers.values (name : String) (headers : Headers) : List (List UInt8) :=
  (headers.filter fun h => h.1 == name).map Prod.snd

/-- the headers without those of a name -/
def Headers.without (name : String) (headers : Headers) : Headers := headers.filter fun h => h.1 != name

def credentialsName : String := "access-control-allow-credentials"

def originName : String := "access-control-allow-origin"

/-- a list of headers that neither allows credentials nor names an origin -/
def Headers.Neutral (headers : Headers) : Prop := ∀ h ∈ headers, h.1 ≠ credentialsName ∧ h.1 ≠ originName

theorem Headers.values_append (name : String) (hs ks : Headers) :
    Headers.values name (hs ++ ks) = Headers.values name hs ++ Headers.values name ks := by
  simp [Headers.values]

theorem Headers.values_of_absent {name : String} {headers : Headers} (h : ∀ x ∈ headers, x.1 ≠ name) :
    Headers.values name headers = [] := by
  have hnone : headers.filter (fun h => h.1 == name) = [] := by
    rw [List.filter_eq_nil_iff]
    intro x hx
    rw [beq_iff_eq]
    exact h x hx
  rw [Headers.values, hnone, List.map_nil]

theorem Headers.Neutral.append {hs ks : Headers} (h : hs.Neutral) (k : ks.Neutral) : Headers.Neutral (hs ++ ks) :=
  List.forall_mem_append.2 ⟨h, k⟩

theorem neutral_content (c : Content) : c.headers.Neutral := by
  cases c <;> simp [Content.headers, Headers.Neutral, credentialsName, originName]

theorem neutral_allow : Reply.allow.Neutral := by
  simp [Reply.allow, Headers.Neutral, credentialsName, originName]

theorem neutral_preflightHeaders (r : Request) : (Cors.preflightHeaders r).Neutral := by
  unfold Cors.preflightHeaders
  cases r.header? "access-control-request-headers" <;> simp [Headers.Neutral, credentialsName, originName]

theorem neutral_endpoint (e : Endpoint) : e.headers.Neutral := by
  cases e with
  | otherMethod => exact neutral_allow
  | table | elsewhere => exact nofun

/-- the cross-origin headers of a response: credentials are allowed, and the request's origin is named if it has one -/
structure Shares (r : Request) (response : Response) : Prop where
  credentials : Headers.values credentialsName response.headers = [Utf8.encode "true"]
  origin : Headers.values originName response.headers = (r.header? "origin").toList

/-- a reply shares if it has the headers that the layer sets, between others that do not interfere -/
theorem shares_send {r : Request} {reply : Reply} {before after : Headers}
    (h : reply.headers = before ++ Cors.headers r ++ after) (hbefore : before.Neutral) (hafter : after.Neutral)
    (headOnly : Bool) : Shares r (reply.send headOnly) := by
  have hneutral := (neutral_content reply.content).append hbefore
  have hsplit : (reply.send headOnly).headers = (reply.content.headers ++ before) ++ (Cors.headers r ++ after) := by
    change reply.content.headers ++ reply.headers = _
    rw [h, List.append_assoc, List.append_assoc]
  have hvalues {name : String} (hn : ∀ x ∈ reply.content.headers ++ before, x.1 ≠ name) (ha : ∀ x ∈ after, x.1 ≠ name) :
      Headers.values name (reply.send headOnly).headers = Headers.values name (Cors.headers r) := by
    rw [hsplit, Headers.values_append _ (_ ++ before), Headers.values_of_absent hn, Headers.values_append,
      Headers.values_of_absent ha, List.nil_append, List.append_nil]
  constructor
  · rw [hvalues (fun x hx => (hneutral x hx).1) (fun x hx => (hafter x hx).1), Cors.headers]
    cases r.header? "origin" <;> rfl
  · rw [hvalues (fun x hx => (hneutral x hx).2) (fun x hx => (hafter x hx).2), Cors.headers]
    cases r.header? "origin" <;> rfl

/-! ## Every reply -/

/-- a reply that refuses a request -/
inductive Reply.IsRefusal : Reply → Prop
  | notFound : IsRefusal .notFound
  | methodNotAllowed : IsRefusal .methodNotAllowed
  | invalidTable : IsRefusal .invalidTable
  | repeatedType : IsRefusal .repeatedType
  | refusal {e : BuildError} {v : Json} : IsRefusal (.refusal e v)

theorem isRefusal_of_handle {r : Request} {verb : Verb} {table : String} {reply : Reply}
    (h : verb.handle table r = .error reply) : reply.IsRefusal := by
  rcases handle_error h with ⟨-, rfl, -⟩ | ⟨e, v, rfl, -⟩
  · exact .repeatedType
  · exact .refusal

theorem isRefusal_of_plan {r : Request} {reply : Reply} (h : plan r = .error reply) : reply.IsRefusal := by
  rcases plan_cases r with ⟨verb, table, -, -, hplan⟩ | ⟨refused, hmem, hplan⟩
  · rw [hplan] at h
    exact isRefusal_of_handle h
  · cases hplan.symm.trans h
    simp only [List.mem_cons, List.not_mem_nil, or_false] at hmem
    rcases hmem with rfl | rfl | rfl
    · exact .notFound
    · exact .methodNotAllowed
    · exact .invalidTable

/-- the statuses of responses -/
def statuses : List Nat := [200, 204, 400, 404, 405, 500]

theorem Reply.IsRefusal.neutral {reply : Reply} (h : reply.IsRefusal) : reply.headers.Neutral := by
  cases h <;> exact nofun

theorem Reply.IsRefusal.status_mem {reply : Reply} (h : reply.IsRefusal) : reply.status ∈ statuses := by
  cases h <;> simp [statuses, Reply.notFound, Reply.methodNotAllowed, Reply.invalidTable, Reply.repeatedType, Reply.refusal]

theorem Answered.neutral {store : Store σ} {state : σ} {call : Call} {reply : Reply}
    (h : Answered store state call reply) : reply.headers.Neutral := by
  cases h <;> exact nofun

theorem Answered.status_mem {store : Store σ} {state : σ} {call : Call} {reply : Reply}
    (h : Answered store state call reply) : reply.status ∈ statuses := by
  cases h with
  | rows | outcome => simp [statuses, Reply.rows, Reply.write]
  | @failure _ e =>
    change e.httpStatus ∈ statuses
    unfold StoreError.httpStatus
    split <;> decide

/-- what the routes reply has no cross-origin headers of its own, and one of the statuses -/
theorem answer_plan (store : Store σ) (state : σ) (r : Request) :
    (answer store state (plan r)).1.reply.headers.Neutral ∧
      (answer store state (plan r)).1.reply.status ∈ statuses := by
  cases hplan : plan r with
  | error reply =>
    have hrefusal := isRefusal_of_plan hplan
    exact ⟨hrefusal.neutral, hrefusal.status_mem⟩
  | ok call =>
    have hanswered := answered_perform store state call
    exact ⟨hanswered.neutral, hanswered.status_mem⟩

/-! ## Steps -/

/-- how OPTIONS is answered -/
structure Preflighted (r : Request) (x : Exchange) : Prop where
  calls : x.calls = []
  body : x.response.body = []
  status : x.response.status = if (r.header? "access-control-request-method").isSome then 204 else 200

theorem step_shares (store : Store σ) (state : σ) (r : Request) :
    Shares r (step store state r).1.response ∧ (step store state r).1.response.status ∈ statuses := by
  by_cases h : r.method = "OPTIONS"
  · rw [step_options store state h]
    have hafter := (neutral_preflightHeaders r).append (neutral_endpoint (.ofRequest r))
    refine ⟨@shares_send r _ [] _ (List.append_assoc _ _ _) nofun hafter _, ?_⟩
    change preflightStatus r ∈ statuses
    unfold preflightStatus
    split <;> decide
  · rw [step_other store state h]
    obtain ⟨hneutral, hstatus⟩ := answer_plan store state r
    exact ⟨shares_send rfl hneutral (neutral_endpoint _) _, hstatus⟩

theorem step_preflighted (store : Store σ) (state : σ) {r : Request} (h : r.method = "OPTIONS") :
    Preflighted r (step store state r).1 := by
  rw [step_options store state h]
  exact ⟨rfl, rfl, rfl⟩

/-- two requests with the same method, target and body -/
structure SameRequest (r r' : Request) : Prop where
  method : r.method = r'.method
  target : r.target = r'.target
  body : r.body = r'.body

/-- two responses that differ in the origin they name at most -/
structure SameResponse (a b : Response) : Prop where
  status : a.status = b.status
  headers : Headers.without originName a.headers = Headers.without originName b.headers
  body : a.body = b.body

theorem SameRequest.endpoint_eq {r r' : Request} (h : SameRequest r r') : Endpoint.ofRequest r = Endpoint.ofRequest r' := by
  rw [Endpoint.ofRequest, Endpoint.ofRequest, h.target, h.method]

/-- no handler looks at the headers of its request -/
theorem SameRequest.plan_eq {r r' : Request} (h : SameRequest r r') : plan r = plan r' := by
  rw [plan, plan, h.endpoint_eq]
  cases Endpoint.ofRequest r' with
  | table verb segment =>
    have hhandle (table : String) : verb.handle table r = verb.handle table r' := by
      unfold Verb.handle
      rw [h.target, h.body]
    simp only [Endpoint.plan, Verb.plan, hhandle]
  | otherMethod | elsewhere => rfl

/-- of the headers of a request, the response follows the origin alone -/
theorem SameRequest.respond {r r' : Request} (h : SameRequest r r') (reply : Reply) :
    SameResponse (respond r reply) (Http.respond r' reply) := by
  have hwithout : ∀ r : Request, Headers.without originName (Cors.headers r) =
      [(credentialsName, Utf8.encode "true"),
        ("vary", Utf8.encode "origin, access-control-request-method, access-control-request-headers")] := by
    intro r
    unfold Cors.headers
    cases r.header? "origin" <;> rfl
  have hsplit : ∀ r : Request, Headers.without originName (Http.respond r reply).headers =
      Headers.without originName (reply.content.headers ++ reply.headers) ++
        Headers.without originName (Cors.headers r) ++ Headers.without originName (Endpoint.ofRequest r).headers := by
    intro r
    simp [Headers.without, Http.respond, Endpoint.complete, Reply.send, Cors.wrap]
  refine ⟨rfl, ?_, ?_⟩
  · rw [hsplit, hsplit, hwithout, hwithout, h.endpoint_eq]
  · rw [Http.respond, Http.respond, h.method]
    rfl

/-- what the headers of a request leave as it is -/
structure Undisturbed (r : Request) (x y : Exchange) : Prop where
  calls : x.calls = y.calls
  response : r.method ≠ "OPTIONS" → SameResponse x.response y.response

theorem step_sameRequest (store : Store σ) (state : σ) {r r' : Request} (h : SameRequest r r') :
    Undisturbed r (step store state r).1 (step store state r').1 ∧
      (step store state r).2 = (step store state r').2 := by
  by_cases hoptions : r.method = "OPTIONS"
  · have hoptions' : r'.method = "OPTIONS" := h.method ▸ hoptions
    rw [step_options store state hoptions, step_options store state hoptions']
    exact ⟨⟨rfl, fun hne => absurd hoptions hne⟩, rfl⟩
  · have hother : r'.method ≠ "OPTIONS" := h.method ▸ hoptions
    rw [step_other store state hoptions, step_other store state hother, ← h.plan_eq]
    exact ⟨⟨rfl, fun _ => h.respond _⟩, rfl⟩

/-! ## Runs -/

/-- what every exchange is like -/
structure Attended (r : Request) (x : Exchange) : Prop where
  shares : Shares r x.response
  status : x.response.status ∈ statuses
  options : r.method = "OPTIONS" → Preflighted r x

theorem run_attended (store : Store σ) (state : σ) (rs : List Request) :
    List.Forall₂ Attended rs (run store state rs) := by
  refine forall₂_run fun state r => ?_
  obtain ⟨hshares, hstatus⟩ := step_shares store state r
  exact ⟨hshares, hstatus, step_preflighted store state⟩

theorem run_undisturbed (store : Store σ) (state : σ) {rs rs' : List Request} (h : List.Forall₂ SameRequest rs rs') :
    List.Forall₂ (fun p y => Undisturbed p.1 p.2 y) (rs.zip (run store state rs)) (run store state rs') := by
  induction h generalizing state with
  | nil => exact .nil
  | cons hfirst _ ih =>
    obtain ⟨hexchange, hstate⟩ := step_sameRequest store state hfirst
    rw [run, run, List.zip_cons_cons]
    refine .cons hexchange ?_
    rw [← hstate]
    exact ih _

theorem received_sameRequest (store : Store σ) (state : σ) {rs rs' : List Request} (h : List.Forall₂ SameRequest rs rs') :
    received store state rs = received store state rs' := by
  have hcalls : ∀ {r r'}, SameRequest r r' → r.calls = r'.calls := by
    intro r r' hr
    rw [Request.calls, Request.calls, hr.plan_eq]
  rw [received_eq, received_eq]
  induction h with
  | nil => rfl
  | cons hfirst _ ih => rw [List.flatMap_cons, List.flatMap_cons, hcalls hfirst, ih]

/-! ## Main result -/

/-- **Cross-origin headers never interfere.** Over every run and every store, each response allows credentials and
names the request's origin, if it has one, whatever its status is; and OPTIONS is answered without a body and without
the store. Let the requests have any other headers: the store receives the same, and no response changes but for the
origin it names, those to OPTIONS left aside. -/
theorem cors_never_interferes (store : Store σ) (state : σ) :
    (∀ rs, List.Forall₂ Attended rs (run store state rs)) ∧
    ∀ rs rs', List.Forall₂ SameRequest rs rs' →
      received store state rs = received store state rs' ∧
      List.Forall₂ (fun p y => Undisturbed p.1 p.2 y) (rs.zip (run store state rs)) (run store state rs') :=
  ⟨run_attended store state, fun _ _ h => ⟨received_sameRequest store state h, run_undisturbed store state h⟩⟩

/-- a table that does not exist, asked for from two origins -/
def crossing : Request :=
  ⟨"GET", ⟨Utf8.encode "/ghosts", []⟩, [("Origin", Utf8.encode "http://a"), ("origin", Utf8.encode "http://b")], []⟩

/-- the same, asked for from none -/
def staying : Request := { crossing with headers := [] }

/-- the failure is the same with and without an origin, of which the first is named -/
theorem cors_never_interferes_crossing :
    SameRequest crossing staying ∧
    (step emptyDatabase () crossing).1.response.status = 404 ∧
    Headers.values originName (step emptyDatabase () crossing).1.response.headers = [Utf8.encode "http://a"] ∧
    SameResponse (step emptyDatabase () crossing).1.response (step emptyDatabase () staying).1.response := by
  have hsame : SameRequest crossing staying := ⟨rfl, rfl, rfl⟩
  obtain ⟨hattended, hundisturbed⟩ := cors_never_interferes emptyDatabase ()
  have hfirst := (List.forall₂_cons.1 (hattended [crossing])).1
  have hpair := (hundisturbed [crossing] [staying] (.cons hsame .nil)).2
  exact ⟨hsame, by rfl, hfirst.shares.origin, (List.forall₂_cons.1 hpair).1.response (by decide)⟩

end SqlGateway.Http
