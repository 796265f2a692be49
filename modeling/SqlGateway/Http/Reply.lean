/-
What the gateway replies: refusals of the request, failures of the store, and what the store answered. A refusal that has
a body to echo carries it as `req`; a failure of the store carries the database's own number, if there is one.
-/
import SqlGateway.Http.Message
import SqlGateway.Statement.Error
import SqlGateway.Store.Basic

namespace SqlGateway.Http.Reply

/-- the methods that a table answers to -/
def tableMethods : String := "GET,HEAD,POST,PUT,DELETE"

/-- the header that lists them -/
def allow : Headers := [("allow", Utf8.encode tableMethods)]

/-! ## Before the body is read -/

def notFound : Reply := ⟨404, [], .empty⟩

def methodNotAllowed : Reply := ⟨405, [], .empty⟩

def invalidTable : Reply := ⟨400, [], .text "Invalid URL: Invalid UTF-8 in `table`"⟩

def repeatedType : Reply := ⟨400, [], .text "Failed to deserialize query string: duplicate field `type`"⟩

/-! ## Objects -/

/-- a request that gives no statement; the request is echoed -/
def refusal (e : BuildError) (request : Json) : Reply :=
  ⟨400, [], .json (.object [("status", .natural 400), ("msg", .string e.message), ("req", request)])⟩

/-- a statement that the store failed to run -/
def failure (e : StoreError) : Reply :=
  let status := e.errno.elim e.httpStatus UInt32.toNat
  ⟨e.httpStatus, [], .json (.object [("status", .natural status), ("msg", .string e.message)])⟩

/-- a write that succeeded -/
def write (o : Outcome) : Reply :=
  ⟨200, [], .json (.object [("status", .natural 0), ("msg", .string o.message),
    ("affected", .natural o.affected.toNat), ("changed", .natural o.changed.toNat)])⟩

/-- a query that succeeded -/
def rows (rows : List Row) : Reply :=
  ⟨200, [], .json (.object [("status", .natural 0), ("msg", .string "Success"),
    ("data", .object [("items", .array (rows.map .object)), ("total", .natural rows.length)])])⟩

end SqlGateway.Http.Reply
