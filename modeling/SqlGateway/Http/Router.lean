/-
Services, layers and routers. A service handles a request; a layer makes a service out of another. A router finds the
endpoint of a request and hands the request to the service there, so a layer of the router stands around every endpoint,
those for requests that go nowhere among them, and sees a request after it is routed.
-/
import SqlGateway.Http.Handler

namespace SqlGateway.Http

variable {σ : Type}

/-! ## Services -/

/-- what came of a request in a service: the reply, and the calls that were sent to the store -/
structure Handled where
  reply : Reply
  calls : List Call
  deriving DecidableEq

/-- handles a request in a state of the store -/
abbrev Service (σ : Type) := σ → Request → Handled × σ

/-- what a service makes of the service inside it -/
abbrev Layer (σ : Type) := Service σ → Service σ

/-- the service with other replies; what it sends to the store stays as it is -/
def Service.mapReply (inner : Service σ) (f : Request → Reply → Reply) : Service σ := fun state r =>
  let (handled, state) := inner state r
  ({ handled with reply := f r handled.reply }, state)

/-! ## Routing -/

/-- where a request goes: to a method of the table that a segment names, to a table that has no such method, or nowhere -/
inductive Endpoint where
  | table (verb : Verb) (segment : List UInt8)
  | otherMethod
  | elsewhere
  deriving DecidableEq, Repr

namespace Endpoint

def ofRequest (r : Request) : Endpoint :=
  match r.target.segment? with
  | none => .elsewhere
  | some segment => (Verb.ofName? r.method).elim .otherMethod fun verb => .table verb segment

/-- the headers that the router adds: a table without the method lists those that it has -/
def headers : Endpoint → Headers
  | .otherMethod => Reply.allow
  | .table _ _ | .elsewhere => []

/-- a reply as the router passes it on -/
def complete (e : Endpoint) (reply : Reply) : Reply := { reply with headers := reply.headers ++ e.headers }

end Endpoint

/-- the service at each endpoint -/
abbrev Router (σ : Type) := Endpoint → Service σ

namespace Router

/-- the router with a layer around every endpoint -/
def layer (router : Router σ) (l : Layer σ) : Router σ := fun e => l (router e)

/-- the router as a service -/
def serve (router : Router σ) : Service σ := fun state r =>
  let e := Endpoint.ofRequest r
  (router e).mapReply (fun _ => e.complete) state r

end Router

end SqlGateway.Http
