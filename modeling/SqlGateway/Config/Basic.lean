/-
The gateway's settings: where it listens, and how it connects to its database. Every setting has a default.
-/
import SqlGateway.Json.Printer

namespace SqlGateway

structure ServerConfig where
  host : String := "0.0.0.0"
  port : UInt16 := 3000
  logLevel : String := "info"
  deriving DecidableEq, Repr

structure DatabaseConfig where
  host : String := "localhost"
  port : UInt16 := 3306
  user : String := "root"
  password : String := ""
  database : Option String := none
  maxConnections : UInt32 := 10
  retryIntervalSecs : UInt64 := 2
  deriving DecidableEq, Repr

structure Config where
  server : ServerConfig := {}
  mysql : DatabaseConfig := {}
  deriving DecidableEq, Repr

/-- the address to listen on -/
def ServerConfig.socketAddress (c : ServerConfig) : String := c.host ++ ":" ++ toString c.port.toNat

/-! ## Connecting -/

/-- what a connection is opened with; affected rows count the rows that were found -/
structure ConnectionOptions where
  host : String
  port : UInt16
  user : String
  password : String
  database : Option String
  foundRows : Bool
  setup : List String
  poolBounds : Nat × Nat
  deriving DecidableEq, Repr

namespace ConnectionOptions

/-- the statement that puts a session into UTC -/
def utcSetup : String := "SET time_zone = '+00:00'"

/-- the bounds of a pool when those asked for are no range -/
def defaultPoolBounds : Nat × Nat := (10, 100)

/-- bounds of a pool, which must hold a connection -/
def poolBounds? (low high : Nat) : Option (Nat × Nat) :=
  if low ≤ high ∧ 0 < high then some (low, high) else none

end ConnectionOptions

open ConnectionOptions in
def DatabaseConfig.options (c : DatabaseConfig) : ConnectionOptions :=
  { host := c.host
    port := c.port
    user := c.user
    password := c.password
    database := c.database
    foundRows := true
    setup := [utcSetup]
    poolBounds := (poolBounds? 0 c.maxConnections.toNat).getD defaultPoolBounds }

/-! ## As a document -/

def ServerConfig.toJson (c : ServerConfig) : Json :=
  .object [("host", .string c.host), ("port", .natural c.port.toNat), ("log_level", .string c.logLevel)]

def DatabaseConfig.toJson (c : DatabaseConfig) : Json :=
  .object [("host", .string c.host), ("port", .natural c.port.toNat), ("user", .string c.user),
    ("password", .string c.password), ("database", c.database.elim .null .string),
    ("max_connections", .natural c.maxConnections.toNat), ("retry_interval_secs", .natural c.retryIntervalSecs.toNat)]

def Config.toJson (c : Config) : Json :=
  .object [("server", c.server.toJson), ("mysql", c.mysql.toJson)]

end SqlGateway
