/-
The statements and their text. Names and values are written as they are, values between double quotes. A delete always
has a condition.
-/
import SqlGateway.Statement.Body

namespace SqlGateway

inductive Statement where
  | insert (table : String) (assignments : List Assignment)
  | update (table : String) (assignments : List Assignment) (condition : Option String)
  | delete (table : String) (condition : String)
  | select (table : String) (columns : Option (List String)) (condition : Option String)
  | filter (table : String) (terms : List (String × String))
  deriving DecidableEq, Repr

namespace Statement

/-- a column or key and its value -/
def equation (name value : String) : String := name ++ "=\"" ++ value ++ "\""

/-- the list after SET -/
def setList (assignments : List Assignment) : String :=
  ",".intercalate (assignments.map fun a => equation a.column a.value)

/-- the list after WHERE -/
def termList (terms : List (String × String)) : String :=
  " AND ".intercalate (terms.map fun t => equation t.1 t.2)

/-- the clause that a condition adds -/
def whereClause (condition : String) : String := " WHERE (" ++ condition ++ ")"

def sql : Statement → String
  | insert table assignments => "INSERT INTO " ++ table ++ " SET " ++ setList assignments
  | update table assignments condition =>
    "UPDATE " ++ table ++ " SET " ++ setList assignments ++ condition.elim "" whereClause
  | delete table condition => "DELETE FROM " ++ table ++ whereClause condition
  | select table columns condition =>
    "SELECT " ++ columns.elim "*" ",".intercalate ++ " FROM " ++ table ++ condition.elim "" whereClause
  | filter table [] => "SELECT * FROM " ++ table ++ ";"
  | filter table terms => "SELECT * FROM " ++ table ++ " WHERE " ++ termList terms ++ ";"

end Statement

end SqlGateway
