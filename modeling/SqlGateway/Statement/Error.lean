/-
Why a request is not turned into a statement.
-/
import SqlGateway.Condition.Error

namespace SqlGateway

inductive BuildError where
  | missingValues
  | malformedValue
  | nonScalarValue (column : String)
  | emptyValues
  | emptyColumns
  | invalidColumn
  | conditions (cause : Condition.CompileError)
  | wholeTableDelete
  | invalidRequestType
  | invalidBody (reason : String)
  deriving DecidableEq, Repr

def BuildError.message : BuildError → String
  | missingValues => "Do not contains 'values' field!"
  | malformedValue => "Do not contains 'column' or 'value' field!"
  | nonScalarValue column => "Invalid value for column '" ++ column ++ "'"
  | emptyValues => "'values' field is empty"
  | emptyColumns => "Has columns but empty!"
  | invalidColumn => "Invalid entry in 'columns'"
  | conditions _ => "Where conditions error"
  | wholeTableDelete => "Do not allow delete whole table!"
  | invalidRequestType => "req type invalid!"
  | invalidBody reason => "Invalid JSON body: " ++ reason

end SqlGateway
