/-
The connection to the database. Attempts to connect may fail before one is accepted; `connect` makes one attempt,
`connectWithRetry` waits and tries again until it is accepted. An accepted connection answers each statement with a
completion, an error or a result set, of which `outcome` and `rows` make what a write and a query return.
-/
import SqlGateway.Config.Basic
import SqlGateway.Store.Changed
import SqlGateway.Store.Column

namespace SqlGateway

/-! ## Getting in -/

/-- the error by which a server turns a connection away -/
structure Refusal where
  code : UInt16
  message : String
  deriving DecidableEq, Repr

/-- the state code of an error that names none -/
def generalState : String := "HY000"

/-- why an attempt to connect fails -/
inductive Setback where
  | refused (r : Refusal)
  | unreachable (reason : String)
  deriving DecidableEq, Repr

/-- a setback as a failure of the store -/
def Setback.error : Setback → StoreError
  | refused r => .database r.code.toUInt32 (some generalState) r.message
  | unreachable reason => .connection reason

/-- an open connection: what it was opened with -/
structure Connection where
  options : ConnectionOptions
  deriving DecidableEq, Repr

/-- what happens while connecting: an attempt is made with a pool of its own, which is closed when it fails -/
inductive Event where
  | attempt
  | close
  | wait (seconds : UInt64)
  deriving DecidableEq, Repr

/-- what happened while connecting, in order, and what came of it -/
structure Trial (α : Type) where
  events : List Event
  result : α

/-- how many attempts were made -/
def Trial.attempts {α : Type} (t : Trial α) : Nat := t.events.count .attempt

namespace Connection

/-- one attempt, at a server where attempts meet these setbacks before one is accepted -/
def connect (c : DatabaseConfig) : List Setback → Trial (Except StoreError Connection)
  | [] => ⟨[.attempt], .ok ⟨c.options⟩⟩
  | s :: _ => ⟨[.attempt, .close], .error s.error⟩

/-- attempts until one is accepted, with a wait after each that fails; an attempt uses up the setback that it meets -/
def connectWithRetry (c : DatabaseConfig) (setbacks : List Setback) : Trial Connection :=
  match _h : connect c setbacks with
  | ⟨events, .ok connection⟩ => ⟨events, connection⟩
  | ⟨events, .error _⟩ =>
    let later := connectWithRetry c setbacks.tail
    ⟨events ++ .wait c.retryIntervalSecs :: later.events, later.result⟩
termination_by setbacks.length
decreasing_by
  -- an attempt fails only where there is a setback
  cases setbacks with
  | nil => cases _h
  | cons s rest => exact Nat.lt_succ_self _

theorem connectWithRetry_nil (c : DatabaseConfig) : connectWithRetry c [] = ⟨[.attempt], ⟨c.options⟩⟩ := by
  rw [connectWithRetry]
  rfl

theorem connectWithRetry_cons (c : DatabaseConfig) (s : Setback) (rest : List Setback) :
    connectWithRetry c (s :: rest) =
      ⟨[.attempt, .close, .wait c.retryIntervalSecs] ++ (connectWithRetry c rest).events,
        (connectWithRetry c rest).result⟩ := by
  rw [connectWithRetry]
  rfl

end Connection

/-! ## Statements -/

/-- an error that the server reports for a statement -/
structure ServerError where
  code : UInt16
  state : String
  message : List UInt8
  deriving DecidableEq, Repr

def ServerError.error (e : ServerError) : StoreError :=
  .database e.code.toUInt32 (some e.state) (Utf8.decodeLossy e.message)

/-- what the server answers to a statement -/
inductive ServerReply where
  | completed (affected : UInt64) (info : List UInt8)
  | failed (e : ServerError)
  /-- a result set; an error may stand in place of its end -/
  | resultSet (columns : List Column) (rows : List (List Cell)) (fault : Option ServerError)
  deriving DecidableEq, Repr

namespace ServerReply

/-- what a write returns -/
def outcome : ServerReply → Except StoreError Outcome
  | completed affected info =>
    let message := Utf8.decodeLossy info
    .ok ⟨message, affected, Changed.rows message⟩
  | failed e | resultSet _ _ (some e) => .error e.error
  | resultSet _ _ none => .ok ⟨"", 0, 0⟩

/-- what a query returns -/
def rows : ServerReply → Except StoreError (List Row)
  | completed _ _ => .ok []
  | failed e | resultSet _ _ (some e) => .error e.error
  | resultSet columns rows none => .ok (rows.map (Row.ofCells columns))

/-- a completion that changed nothing -/
def nothing : ServerReply := .completed 0 []

end ServerReply

/-- a server that gives its replies one after the other, and completes every statement after the last -/
def Store.ofReplies : Store (List ServerReply) where
  query replies _ := ((replies.headD .nothing).rows, replies.tail)
  execute replies _ := ((replies.headD .nothing).outcome, replies.tail)

end SqlGateway
