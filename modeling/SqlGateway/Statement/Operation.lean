/-
From a request to its statement: the method and, for POST, the request type choose the operation; the operation takes what
it needs from the body.
-/
import SqlGateway.Statement.Basic

namespace SqlGateway

inductive Operation where
  | create
  | update
  | delete
  | select
  | filter
  deriving DecidableEq, Repr

namespace Operation

/-- the operation of a method, in letters of either case, and a request type -/
def ofRequest (method : String) (requestType : Option String) : Except BuildError Operation :=
  if Text.sameLetters method "GET" then .ok filter
  else if Text.sameLetters method "PUT" then .ok select
  else if Text.sameLetters method "DELETE" then .ok delete
  else if Text.sameLetters method "POST" then
    match requestType with
    | some "create" => .ok create
    | some "update" => .ok update
    | _ => .error .invalidRequestType
  else .error .invalidRequestType

/-- whether the operation's statements answer with rows -/
def isRead : Operation → Bool
  | select | filter => true
  | create | update | delete => false

/-- the statement of an operation on a table -/
def statement (op : Operation) (table : String) (body : Json) : Except BuildError Statement :=
  match op with
  | create => do return .insert table (← Body.assignments body)
  | update => do
    let assignments ← Body.assignments body
    return .update table assignments (← Body.condition body)
  | delete => do
    let some condition ← Body.condition body | .error .wholeTableDelete
    return .delete table condition
  | select => do
    let columns ← Body.columns body
    return .select table columns (← Body.condition body)
  | filter => .ok (.filter table (Body.terms body))

end Operation

/-- the statement of a request given by its parts -/
def Statement.ofRequest (table method : String) (requestType : Option String) (body : Json) :
    Except BuildError Statement := do
  (← Operation.ofRequest method requestType).statement table body

end SqlGateway
