/-
The layers around the routes. Each is first looked at by itself, around any service: OPTIONS does not get past
`corsLayer`, and past `preflightNoContent` nothing changes but the status of a preflight. Together they come to
`step_options` and `step_other`: what is answered to OPTIONS, and what becomes of the reply that the routes give to any
other request.
-/
import SqlGateway.Proofs.Http.Plan

namespace SqlGateway.Http

variable {σ : Type}

/-! ## Layer by layer -/

section Layers

variable (inner : Service σ) (state : σ) {r : Request}

theorem corsLayer_options (h : r.method = "OPTIONS") :
    corsLayer inner state r = (⟨Cors.preflight r, []⟩, state) := by
  rw [corsLayer, if_pos (beq_iff_eq.2 h)]

theorem corsLayer_other (h : r.method ≠ "OPTIONS") :
    corsLayer inner state r = inner.mapReply Cors.wrap state r := by
  rw [corsLayer, if_neg (mt beq_iff_eq.1 h)]

theorem isPreflight_other (h : r.method ≠ "OPTIONS") : r.isPreflight = false := by
  rw [Request.isPreflight, beq_eq_false_iff_ne.2 h, Bool.false_and]

theorem preflightNoContent_other (h : r.method ≠ "OPTIONS") :
    preflightNoContent inner state r = inner state r := by
  simp only [preflightNoContent, Service.mapReply, isPreflight_other h, Bool.false_and, Bool.false_eq_true, if_false]

/-- the status is the only thing that is rewritten, and only for a preflight that succeeds -/
theorem preflightNoContent_eq (r : Request) :
    preflightNoContent inner state r =
      let (handled, next) := inner state r
      let status := if r.isPreflight && handled.reply.status == 200 then 204 else handled.reply.status
      (⟨{ handled.reply with status := status }, handled.calls⟩, next) := by
  simp only [preflightNoContent, Service.mapReply]
  split <;> rfl

end Layers

/-! ## All layers -/

variable (store : Store σ) (state : σ) {r : Request}

/-- the status of the answer to OPTIONS -/
def preflightStatus (r : Request) : Nat := if (r.header? "access-control-request-method").isSome then 204 else 200

theorem buildRouter_options (e : Endpoint) (h : r.method = "OPTIONS") :
    buildRouter store e state r = (⟨{ Cors.preflight r with status := preflightStatus r }, []⟩, state) := by
  have hpreflight : r.isPreflight = (r.header? "access-control-request-method").isSome := by
    rw [Request.isPreflight, beq_iff_eq.2 h, Bool.true_and]
  have hstatus : (r.isPreflight && (Cors.preflight r).status == 200) = (r.header? "access-control-request-method").isSome := by
    rw [hpreflight]
    exact Bool.and_true _
  change preflightNoContent (corsLayer (traceLayer (routes store e))) state r = _
  rw [preflightNoContent_eq, corsLayer_options _ _ h]
  simp only [hstatus]
  rfl

theorem buildRouter_other (e : Endpoint) (h : r.method ≠ "OPTIONS") :
    buildRouter store e state r = (routes store e).mapReply Cors.wrap state r := by
  change preflightNoContent (corsLayer (traceLayer (routes store e))) state r = _
  rw [preflightNoContent_other _ _ h, corsLayer_other _ _ h]
  rfl

/-! ## Steps -/

/-- a reply of the routes as it is sent to a request other than OPTIONS -/
def respond (r : Request) (reply : Reply) : Response :=
  ((Endpoint.ofRequest r).complete (Cors.wrap r reply)).send (r.method == "HEAD")

theorem step_other (h : r.method ≠ "OPTIONS") :
    step store state r =
      let (handled, next) := answer store state (plan r)
      (⟨respond r handled.reply, handled.calls⟩, next) := by
  rw [step, Router.serve, Service.mapReply, buildRouter_other store state _ h]
  rfl

/-- the answer to OPTIONS as it is sent -/
theorem step_options (h : r.method = "OPTIONS") :
    step store state r =
      (⟨((Endpoint.ofRequest r).complete { Cors.preflight r with status := preflightStatus r }).send false, []⟩,
        state) := by
  have hhead : (r.method == "HEAD") = false := by
    rw [h]
    rfl
  rw [step, Router.serve, Service.mapReply, buildRouter_options store state _ h, hhead]

/-- a table that has the method adds nothing to the reply -/
theorem respond_table {verb : Verb} {segment : List UInt8} (h : Endpoint.ofRequest r = .table verb segment)
    (reply : Reply) : respond r reply = (Cors.wrap r reply).send (r.method == "HEAD") := by
  rw [respond, Endpoint.complete, h, Endpoint.headers, List.append_nil]

end SqlGateway.Http
