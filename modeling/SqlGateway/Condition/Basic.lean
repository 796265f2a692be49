/-
Condition trees. A group combines its children with AND or OR; a child is a comparison of one field or a group again. A
comparison has an operator and a right operand, whose values are texts already.

`Node` and `Group` hold any tree. The ones that can be written out are `Condition.Sql`'s subject, the ones that a request
can bring are `Condition.OfJson`'s.
-/
import SqlGateway.Text.Characters

namespace SqlGateway.Condition

inductive Conjunction where
  | and
  | or
  deriving DecidableEq, Repr

namespace Conjunction

/-- the keyword -/
def sql : Conjunction → String
  | and => "AND"
  | or => "OR"

/-- the conjunction of a name, in letters of either case -/
def ofName? (name : String) : Option Conjunction :=
  if Text.sameLetters name "and" then some and
  else if Text.sameLetters name "or" then some or
  else none

end Conjunction

inductive Operator where
  | equal
  | selectEquals
  | notEqual
  | selectNotEquals
  | less
  | lessOrEqual
  | greater
  | greaterOrEqual
  | between
  | notBetween
  | isEmpty
  | isNotEmpty
  | like
  | notLike
  | startsWith
  | endsWith
  | selectAnyIn
  | selectNotAnyIn
  deriving DecidableEq, Repr

/-- what an operator compares with: nothing, one value, the two ends of a range, or a set -/
inductive OperandKind where
  | absent
  | scalar
  | range
  | set
  deriving DecidableEq, Repr

namespace Operator

/-- the name in a request -/
def name : Operator → String
  | equal => "equal"
  | selectEquals => "select_equals"
  | notEqual => "not_equal"
  | selectNotEquals => "select_not_equals"
  | less => "less"
  | lessOrEqual => "less_or_equal"
  | greater => "greater"
  | greaterOrEqual => "greater_or_equal"
  | between => "between"
  | notBetween => "not_between"
  | isEmpty => "is_empty"
  | isNotEmpty => "is_not_empty"
  | like => "like"
  | notLike => "not_like"
  | startsWith => "starts_with"
  | endsWith => "ends_with"
  | selectAnyIn => "select_any_in"
  | selectNotAnyIn => "select_not_any_in"

/-- the operator of a name -/
def ofName? : String → Option Operator
  | "equal" => some equal
  | "select_equals" => some selectEquals
  | "not_equal" => some notEqual
  | "select_not_equals" => some selectNotEquals
  | "less" => some less
  | "less_or_equal" => some lessOrEqual
  | "greater" => some greater
  | "greater_or_equal" => some greaterOrEqual
  | "between" => some between
  | "not_between" => some notBetween
  | "is_empty" => some isEmpty
  | "is_not_empty" => some isNotEmpty
  | "like" => some like
  | "not_like" => some notLike
  | "starts_with" => some startsWith
  | "ends_with" => some endsWith
  | "select_any_in" => some selectAnyIn
  | "select_not_any_in" => some selectNotAnyIn
  | _ => none

/-- the operand this operator compares with -/
def operandKind : Operator → OperandKind
  | between | notBetween => .range
  | selectAnyIn | selectNotAnyIn => .set
  | isEmpty | isNotEmpty => .absent
  | _ => .scalar

theorem ofName?_name (op : Operator) : ofName? op.name = some op := by cases op <;> rfl

end Operator

/-- the right side of a comparison -/
inductive Operand where
  | absent
  | scalar (value : String)
  | range (low high : String)
  | set (items : List String)
  deriving DecidableEq, Repr

def Operand.kind : Operand → OperandKind
  | absent => .absent
  | scalar _ => .scalar
  | range _ _ => .range
  | set _ => .set

/-- one field compared with an operand -/
structure Comparison where
  field : String
  op : Operator
  right : Operand
  deriving DecidableEq, Repr

/-- a child of a group -/
inductive Node where
  | leaf (c : Comparison)
  | group (conjunction : Conjunction) (children : List Node)
  deriving Repr

/-- a condition tree -/
structure Group where
  conjunction : Conjunction
  children : List Node
  deriving Repr

/-- a group as a child of another -/
def Group.toNode (g : Group) : Node := .group g.conjunction g.children

end SqlGateway.Condition
