/-
Condition trees as SQL boolean expressions. Field names and values are written as they are, values between double quotes.
A comparison stands in parentheses, so does a group inside a group; the children of a group are joined by its keyword.
`compile` reads the tree of a request value and writes it.
-/
import SqlGateway.Condition.OfJson

namespace SqlGateway.Condition

/-- a value between double quotes, as it is -/
def quote (value : String) : String := "\"" ++ value ++ "\""

/-- the operator and its operand, unless the operand is of another kind -/
def predicate? (op : Operator) (right : Operand) : Option String :=
  match op, right with
  | .equal, .scalar v | .selectEquals, .scalar v => some ("= " ++ quote v)
  | .notEqual, .scalar v | .selectNotEquals, .scalar v => some ("!= " ++ quote v)
  | .less, .scalar v => some ("< " ++ quote v)
  | .lessOrEqual, .scalar v => some ("<= " ++ quote v)
  | .greater, .scalar v => some ("> " ++ quote v)
  | .greaterOrEqual, .scalar v => some (">= " ++ quote v)
  | .like, .scalar v => some ("LIKE " ++ quote v)
  | .notLike, .scalar v => some ("NOT LIKE " ++ quote v)
  | .startsWith, .scalar v => some ("LIKE " ++ quote (v ++ "%"))
  | .endsWith, .scalar v => some ("LIKE " ++ quote ("%" ++ v))
  | .between, .range low high => some ("BETWEEN " ++ quote low ++ " AND " ++ quote high)
  | .notBetween, .range low high => some ("NOT BETWEEN " ++ quote low ++ " AND " ++ quote high)
  | .isEmpty, _ => some "IS NULL"
  | .isNotEmpty, _ => some "IS NOT NULL"
  | .selectAnyIn, .set items => some ("IN (" ++ ",".intercalate (items.map quote) ++ ")")
  | .selectNotAnyIn, .set items => some ("NOT IN (" ++ ",".intercalate (items.map quote) ++ ")")
  | _, _ => none

def Comparison.sql (c : Comparison) : Except CompileError String :=
  match predicate? c.op c.right with
  | some p => .ok ("(" ++ c.field ++ " " ++ p ++ ")")
  | none => .error (.invalidRightOperand c.op)

/-- the texts of the children of a group, joined by its keyword -/
def Conjunction.join (conjunction : Conjunction) (fragments : List String) : Except CompileError String :=
  if fragments.isEmpty then .error .emptyGroup
  else .ok ((" " ++ conjunction.sql ++ " ").intercalate fragments)

mutual

def Node.sql : Node → Except CompileError String
  | .leaf c => c.sql
  | .group conjunction children => do
    let text ← conjunction.join (← fragments children)
    return "(" ++ text ++ ")"

/-- the text of each child, up to the first that has none -/
def fragments : List Node → Except CompileError (List String)
  | [] => .ok []
  | node :: rest => do
    let text ← node.sql
    let texts ← fragments rest
    return text :: texts

end

def Group.sql (g : Group) : Except CompileError String := do
  g.conjunction.join (← fragments g.children)

/-- the boolean expression that a request value describes -/
def compile (v : Json) : Except CompileError String := do
  (← Group.ofJson v).sql

theorem fragments_eq_mapM (nodes : List Node) : fragments nodes = nodes.mapM Node.sql := by
  induction nodes with
  | nil => rfl
  | cons node rest ih => simp [fragments, ih]

end SqlGateway.Condition
