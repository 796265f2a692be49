/-
The store behind the gateway. A store answers a query with rows and a write with an outcome; either may fail, and either
may change the store's state, about which nothing is assumed.
-/
import SqlGateway.Json.Basic
import SqlGateway.Store.Error

namespace SqlGateway

/-- one result row: the members of an object -/
abbrev Row := List (String × Json)

/-- what a write did -/
structure Outcome where
  message : String
  affected : UInt64
  changed : UInt64
  deriving DecidableEq, Repr

/-- how a store with states `σ` answers -/
structure Store (σ : Type) where
  query : σ → String → Except StoreError (List Row) × σ
  execute : σ → String → Except StoreError Outcome × σ

/-- what a store is asked -/
inductive Call where
  | query (sql : String)
  | execute (sql : String)
  deriving DecidableEq, Repr

end SqlGateway
