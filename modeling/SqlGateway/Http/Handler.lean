/-
The handlers of a table. GET and HEAD filter by the pairs of the query string, PUT selects, POST inserts or updates as
`type` says, DELETE deletes; the last three read a JSON body. `Verb.plan` decides what is sent to the store, or the reply
that refuses the request, without looking at the store; `perform` sends it and shapes the reply. Limits on the size of a
request are the framework's and are not looked at here.
-/
import SqlGateway.Http.Form
import SqlGateway.Http.Reply
import SqlGateway.Json.Reader
import SqlGateway.Statement.Operation
import SqlGateway.Text.Characters

namespace SqlGateway.Http

/-- the methods of a table -/
inductive Verb where
  | get
  | head
  | post
  | put
  | delete
  deriving DecidableEq, Repr

namespace Verb

def name : Verb → String
  | get => "GET"
  | head => "HEAD"
  | post => "POST"
  | put => "PUT"
  | delete => "DELETE"

/-- the verb of a method, in capital letters -/
def ofName? : String → Option Verb
  | "GET" => some get
  | "HEAD" => some head
  | "POST" => some post
  | "PUT" => some put
  | "DELETE" => some delete
  | _ => none

end Verb

/-! ## From a body to a call -/

/-- the value of a body; one of white space alone is an empty object -/
def decodeBody (body : List UInt8) : Except Json.ReadError Json :=
  if body.all Text.isBlankOctet then .ok (.object []) else Json.read body

/-- the value of a body, or the reply that refuses it -/
def readBody (body : List UInt8) : Except Reply Json :=
  (decodeBody body).mapError fun e => .refusal (.invalidBody e.message) .null

/-- the statement of an operation, or the reply that refuses the body and echoes it -/
def generate (op : Operation) (table : String) (body : Json) : Except Reply Statement :=
  (op.statement table body).mapError fun e => .refusal e body

/-- a write: the statement is executed -/
def write (op : Operation) (table : String) (body : Json) : Except Reply Call :=
  (generate op table body).map fun s => .execute s.sql

/-- a query: the statement answers with rows -/
def complexQuery (table : String) (body : Json) : Except Reply Call :=
  (generate .select table body).map fun s => .query s.sql

/-- the request type in a query string, where it may stand once -/
def requestType (query : List UInt8) : Except Reply (Option String) :=
  match (Form.decode query).filter fun p => p.1 == "type" with
  | [] => .ok none
  | [p] => .ok (some p.2)
  | _ => .error .repeatedType

/-! ## Handlers -/

namespace Handler

/-- every pair of the query string is a filter -/
def get (table : String) (query : List UInt8) : Except Reply Call :=
  .ok (.query (Statement.filter table (Form.decode query)).sql)

def put (table : String) (body : List UInt8) : Except Reply Call := do
  complexQuery table (← readBody body)

/-- the type counts after the body -/
def post (table : String) (query body : List UInt8) : Except Reply Call := do
  let type ← requestType query
  let v ← readBody body
  match Operation.ofRequest "POST" type with
  | .ok .create => write .create table v
  | .ok .update => write .update table v
  | _ => .error (.refusal .invalidRequestType v)

def delete (table : String) (body : List UInt8) : Except Reply Call := do
  write .delete table (← readBody body)

end Handler

/-- what a method sends to the store for a table, or the reply that refuses the request -/
def Verb.handle (verb : Verb) (table : String) (r : Request) : Except Reply Call :=
  match verb with
  | .get | .head => Handler.get table r.target.query
  | .post => Handler.post table r.target.query r.body
  | .put => Handler.put table r.body
  | .delete => Handler.delete table r.body

/-- the same, for the table that a segment of the path names -/
def Verb.plan (verb : Verb) (segment : List UInt8) (r : Request) : Except Reply Call :=
  match Utf8.decode? (Percent.decode segment) with
  | some table => verb.handle table r
  | none => .error .invalidTable

/-! ## The call -/

/-- sends a call to the store; the reply passes on what it answers -/
def perform {σ : Type} (store : Store σ) (state : σ) : Call → Reply × σ
  | .query sql =>
    match store.query state sql with
    | (.ok rows, state) => (.rows rows, state)
    | (.error e, state) => (.failure e, state)
  | .execute sql =>
    match store.execute state sql with
    | (.ok outcome, state) => (.write outcome, state)
    | (.error e, state) => (.failure e, state)

end SqlGateway.Http
