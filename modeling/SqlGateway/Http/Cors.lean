/-
Cross-origin requests, in two layers. `corsLayer` answers OPTIONS itself and lets every other request through; each reply
allows credentials and names the request's origin, if it has one, and the answer to OPTIONS also lists methods and repeats
the headers asked for. `preflightNoContent` gives the answer to a preflight, which asks about a method, its own status.
-/
import SqlGateway.Http.Router

namespace SqlGateway.Http

variable {σ : Type}

namespace Cors

/-- the headers on every reply -/
def headers (r : Request) : Headers :=
  [("access-control-allow-credentials", Utf8.encode "true"),
    ("vary", Utf8.encode "origin, access-control-request-method, access-control-request-headers")] ++
  (r.header? "origin").elim [] fun origin => [("access-control-allow-origin", origin)]

/-- the methods that other origins may use -/
def methods : String := "GET,HEAD,PUT,PATCH,POST,DELETE"

/-- the headers on the answer to OPTIONS alone -/
def preflightHeaders (r : Request) : Headers :=
  ("access-control-allow-methods", Utf8.encode methods) ::
    (r.header? "access-control-request-headers").elim [] fun names => [("access-control-allow-headers", names)]

/-- the answer to OPTIONS -/
def preflight (r : Request) : Reply := ⟨200, headers r ++ preflightHeaders r, .empty⟩

/-- a reply with the headers of its request -/
def wrap (r : Request) (reply : Reply) : Reply := { reply with headers := reply.headers ++ headers r }

end Cors

/-- whether a request asks if it may be made -/
def Request.isPreflight (r : Request) : Bool :=
  r.method == "OPTIONS" && (r.header? "access-control-request-method").isSome

/-! ## Layers -/

/-- OPTIONS does not reach the service inside, whose reply gets the cross-origin headers of its request -/
def corsLayer : Layer σ := fun inner state r =>
  if r.method == "OPTIONS" then (⟨Cors.preflight r, []⟩, state)
  else inner.mapReply Cors.wrap state r

/-- a preflight that succeeds has no content -/
def preflightNoContent : Layer σ := fun inner =>
  inner.mapReply fun r reply =>
    if r.isPreflight && reply.status == 200 then { reply with status := 204 } else reply

end SqlGateway.Http
