/-
What a statement takes from a request body: the assignments under `values`, the projection under `columns`, the condition
under `conditions`, and for a filter the members themselves. Each is read on its own, and the first defect in document
order is reported.
-/
import SqlGateway.Condition.Sql
import SqlGateway.Statement.Error

namespace SqlGateway

/-- a column and the value it is set to -/
structure Assignment where
  column : String
  value : String
  deriving DecidableEq, Repr

/-- one entry of `values`: a column's name and a value that is neither array nor object -/
def Assignment.ofJson (entry : Json) : Except BuildError Assignment :=
  match entry.get? "column", entry.get? "value" with
  | some (.string column), some value =>
    match value.scalarText? with
    | some value => .ok ⟨column, value⟩
    | none => .error (.nonScalarValue column)
  | _, _ => .error .malformedValue

namespace Body

/-- the assignments under `values`, of which there must be one -/
def assignments (body : Json) : Except BuildError (List Assignment) :=
  match body.get? "values" with
  | none => .error .missingValues
  | some (.array []) => .error .emptyValues
  | some (.array entries) => entries.mapM Assignment.ofJson
  | some _ => .error .malformedValue

/-- one entry of `columns` -/
def column (entry : Json) : Except BuildError String :=
  match entry.scalarText? with
  | some name => .ok name
  | none => .error .invalidColumn

/-- the projection: every column, unless `columns` is an array -/
def columns (body : Json) : Except BuildError (Option (List String)) :=
  match body.get? "columns" with
  | some (.array []) => .error .emptyColumns
  | some (.array entries) => (entries.mapM column).map some
  | _ => .ok none

/-- the condition's value, which does not count when it is null, false, a zero or the empty text -/
def conditions (body : Json) : Option Json :=
  (body.get? "conditions").filter Json.isTruthy

/-- the text of the condition, if there is one -/
def condition (body : Json) : Except BuildError (Option String) :=
  match conditions body with
  | none => .ok none
  | some tree =>
    match Condition.compile tree with
    | .ok text => .ok (some text)
    | .error cause => .error (.conditions cause)

/-- the members as equality terms: a text as it is, anything else in its written form -/
def terms (body : Json) : List (String × String) :=
  body.members.map fun m => (m.1, m.2.asString?.getD m.2.compact)

end Body

end SqlGateway
