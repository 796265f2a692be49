/-
Why a condition tree is refused.
-/
import SqlGateway.Condition.Basic

namespace SqlGateway.Condition

inductive CompileError where
  | notAGroup
  | invalidConjunction (name : String)
  | emptyGroup
  | invalidNode
  | invalidLeftOperand
  | unknownOperator (name : String)
  | invalidRightOperand (op : Operator)
  deriving DecidableEq, Repr

def CompileError.message : CompileError → String
  | notAGroup => "condition group requires 'conjunction' and 'children'"
  | invalidConjunction name => "invalid conjunction: " ++ name
  | emptyGroup => "condition group has no children"
  | invalidNode => "condition node is neither a group nor a condition"
  | invalidLeftOperand => "left operand must be a field reference"
  | unknownOperator name => "invalid condition op: " ++ name
  | invalidRightOperand op => "invalid right operand for '" ++ op.name ++ "'"

end SqlGateway.Condition
