/-
The gateway: each request on `/{table}` becomes at most one statement. `routes` puts the handlers at their endpoints,
`buildRouter` puts the layers around them; `step` serves a request and sends the reply; `run` serves requests one after
the other.
-/
import SqlGateway.Http.Cors

namespace SqlGateway.Http

variable {σ : Type}

/-- what an endpoint sends to the store, or the reply that refuses the request -/
def Endpoint.plan (e : Endpoint) (r : Request) : Except Reply Call :=
  match e with
  | .table verb segment => verb.plan segment r
  | .otherMethod => .error .methodNotAllowed
  | .elsewhere => .error .notFound

/-- sends what is planned; a refusal does not reach the store -/
def answer (store : Store σ) (state : σ) : Except Reply Call → Handled × σ
  | .error reply => (⟨reply, []⟩, state)
  | .ok call =>
    let (reply, state) := perform store state call
    (⟨reply, [call]⟩, state)

/-- the handlers at their endpoints -/
def routes (store : Store σ) : Router σ := fun e state r => answer store state (e.plan r)

/-- logs requests and replies, and changes neither -/
def traceLayer : Layer σ := fun inner => inner

/-- the routes with their layers, from the innermost to the outermost -/
def buildRouter (store : Store σ) : Router σ :=
  (((routes store).layer traceLayer).layer corsLayer).layer preflightNoContent

/-! ## Running it -/

/-- what came of a request: the response and the calls it caused -/
structure Exchange where
  response : Response
  calls : List Call
  deriving DecidableEq

/-- handles one request -/
def step (store : Store σ) (state : σ) (r : Request) : Exchange × σ :=
  let (handled, state) := (buildRouter store).serve state r
  (⟨handled.reply.send (r.method == "HEAD"), handled.calls⟩, state)

/-- handles requests one after the other -/
def run (store : Store σ) (state : σ) : List Request → List Exchange
  | [] => []
  | r :: rest => (step store state r).1 :: run store (step store state r).2 rest

end SqlGateway.Http
