/-
Loading the settings. A document is checked against the settings' shape while it is read; what it leaves out takes its
default. Checks run in this order, and the first that fails is reported: the file can be read, it is text, it is a document of
the settings, the port asked for by the environment is one, the pool may hold a connection, the database has a host.
-/
import SqlGateway.Config.Basic
import SqlGateway.Json.Reader
import SqlGateway.Text.Characters
import SqlGateway.Text.Integer

namespace SqlGateway

open Json (Shape)

/-! ## Shapes -/

def portShape : Shape := .natural "u16" UInt16.size

def ServerConfig.shape : Shape :=
  .record "HttpServerConfig" [("host", .text), ("port", portShape), ("log_level", .text)]

def DatabaseConfig.shape : Shape :=
  .record "MySqlConfig"
    [("host", .text), ("port", portShape), ("user", .text), ("password", .text), ("database", .optionalText),
      ("max_connections", .natural "u32" UInt32.size), ("retry_interval_secs", .natural "u64" UInt64.size)]

def Config.shape : Shape :=
  .record "Config" [("server", ServerConfig.shape), ("mysql", DatabaseConfig.shape)]

/-! ## Fields -/

/-- the text under a key, or its default -/
def textField (v : Json) (key default : String) : String :=
  ((v.get? key).bind Json.asString?).getD default

/-- the natural number under a key, or its default -/
def naturalField (v : Json) (key : String) (default : Nat) : Nat :=
  match v.get? key with
  | some (.number (.integer n)) => n.toNat
  | _ => default

def ServerConfig.ofJson (v : Json) : ServerConfig :=
  let base : ServerConfig := {}
  { host := textField v "host" base.host
    port := UInt16.ofNat (naturalField v "port" base.port.toNat)
    logLevel := textField v "log_level" base.logLevel }

def DatabaseConfig.ofJson (v : Json) : DatabaseConfig :=
  let base : DatabaseConfig := {}
  { host := textField v "host" base.host
    port := UInt16.ofNat (naturalField v "port" base.port.toNat)
    user := textField v "user" base.user
    password := textField v "password" base.password
    database := (v.get? "database").bind Json.asString?
    maxConnections := UInt32.ofNat (naturalField v "max_connections" base.maxConnections.toNat)
    retryIntervalSecs := UInt64.ofNat (naturalField v "retry_interval_secs" base.retryIntervalSecs.toNat) }

/-- the settings in a value of their shape -/
def Config.ofJson (v : Json) : Config :=
  { server := (v.get? "server").elim {} ServerConfig.ofJson
    mysql := (v.get? "mysql").elim {} DatabaseConfig.ofJson }

/-! ## Loading -/

/-- why a file cannot be read: the system's number and words -/
structure FileError where
  number : Nat
  reason : String
  deriving DecidableEq, Repr

namespace FileError

def message (e : FileError) : String := e.reason ++ " (os error " ++ toString e.number ++ ")"

def missing : FileError := ⟨2, "No such file or directory"⟩

end FileError

inductive ConfigError where
  | unreadable (e : FileError)
  | notText
  | invalidDocument (e : Json.ReadError)
  | invalidPort (value : String)
  | noConnections
  | noHost
  deriving DecidableEq

def ConfigError.message : ConfigError → String
  | unreadable e => "Failed to read config: " ++ e.message
  | notText => "Failed to read config: stream did not contain valid UTF-8"
  | invalidDocument e => "Invalid config JSON: " ++ e.message
  | invalidPort value => "Invalid PORT value: '" ++ value ++ "'"
  | noConnections => "mysql.max_connections must be > 0"
  | noHost => "mysql.host must not be empty"

/-- the port that a text names: a natural number, white space around it does not count -/
def port? (value : String) : Option UInt16 :=
  match Text.natural? (Text.trim value.toList) with
  | some n => if n < UInt16.size then some (UInt16.ofNat n) else none
  | none => none

namespace Config

/-- the settings in a document -/
def parse (text : String) : Except ConfigError Config :=
  match Json.readShape Config.shape (Utf8.encode text) with
  | .ok v => .ok (ofJson v)
  | .error e => .error (.invalidDocument e)

/-- with the port that the environment asks for, if it does -/
def withPort (c : Config) (port : Option String) : Except ConfigError Config :=
  match port with
  | none => .ok c
  | some value =>
    match port? value with
    | some port => .ok { c with server := { c.server with port := port } }
    | none => .error (.invalidPort value)

/-- the pool may hold a connection, and the database has a host -/
def validate (c : Config) : Except ConfigError Config :=
  if c.mysql.maxConnections == 0 then .error .noConnections
  else if c.mysql.host.isEmpty then .error .noHost
  else .ok c

/-- the settings in a file, if it can be read, with the environment's port -/
def load (content : Except FileError (List UInt8)) (port : Option String) : Except ConfigError Config := do
  let octets ← content.mapError .unreadable
  let some text := Utf8.decode? octets | .error .notText
  let c ← parse text
  let c ← c.withPort port
  c.validate

end Config

end SqlGateway
