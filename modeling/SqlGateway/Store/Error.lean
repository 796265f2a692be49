/-
Failures of the store. A failure that the database reports has its number; one without a number comes from the connection.
-/

namespace SqlGateway

structure StoreError where
  errno : Option UInt32
  sqlstate : Option String
  message : String
  deriving DecidableEq, Repr

namespace StoreError

/-- a failure that the database reports for a statement -/
def database (errno : UInt32) (sqlstate : Option String) (message : String) : StoreError :=
  ⟨some errno, sqlstate, message⟩

/-- a failure of the connection -/
def connection (message : String) : StoreError := ⟨none, none, message⟩

/-- the database's number for a table that does not exist -/
def missingTableNumber : UInt32 := 1146

/-- the state code for a table that does not exist -/
def missingTableState : String := "42S02"

/-- whether the table does not exist -/
def isMissingTable (e : StoreError) : Bool :=
  e.errno == some missingTableNumber || e.sqlstate == some missingTableState

/-- the status of a response that reports the failure -/
def httpStatus (e : StoreError) : Nat := if e.isMissingTable then 404 else 500

end StoreError

end SqlGateway
