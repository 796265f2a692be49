/-
Condition trees out of request values. A value with a `conjunction` is a group: it needs `children` too, a conjunction that
is known, and at least one child. Any other node is a comparison: it needs `op` and `left`. Checks run in this order, and
children from left to right, each completely; the first that fails is reported.
-/
import SqlGateway.Condition.Error
import SqlGateway.Json.Printer

namespace SqlGateway.Condition

/-! ## Comparisons -/

/-- the field that the left side of a comparison refers to -/
def fieldOfJson? (left : Option Json) : Option String := do
  let left ← left
  guard ((left.get? "type").bind Json.asString? = some "field")
  (left.get? "field").bind Json.asString?

/-- the operand of an operator; one that compares with nothing takes anything -/
def Operand.ofJson? (op : Operator) (right : Option Json) : Option Operand :=
  match op.operandKind with
  | .absent => some .absent
  | .scalar => (right.bind Json.scalarText?).map .scalar
  | .range =>
    match right.bind Json.asArray? with
    | some [low, high] => do return .range (← low.scalarText?) (← high.scalarText?)
    | _ => none
  | .set =>
    match right.bind Json.asArray? with
    | some (item :: rest) => ((item :: rest).mapM Json.scalarText?).map .set
    | _ => none

def Comparison.ofJson (v : Json) : Except CompileError Comparison := do
  let some field := fieldOfJson? (v.get? "left") | .error .invalidLeftOperand
  let name := ((v.get? "op").bind Json.asString?).getD ""
  let some op := Operator.ofName? name | .error (.unknownOperator name)
  let some right := Operand.ofJson? op (v.get? "right") | .error (.invalidRightOperand op)
  return ⟨field, op, right⟩

/-! ## Groups -/

def Conjunction.ofJson : Json → Except CompileError Conjunction
  | .string name =>
    match Conjunction.ofName? name with
    | some c => .ok c
    | none => .error (.invalidConjunction name)
  | v => .error (.invalidConjunction v.compact)

/-- the conjunction among the members of a group, which must have children too -/
def Conjunction.ofMembers (members : List (String × Json)) : Except CompileError Conjunction :=
  match members.lookup "conjunction", members.lookup "children" with
  | some v, some _ => Conjunction.ofJson v
  | _, _ => .error .notAGroup

/-- a group needs a child -/
def Group.make (conjunction : Conjunction) (children : List Node) : Except CompileError Group :=
  if children.isEmpty then .error .emptyGroup else .ok ⟨conjunction, children⟩

mutual

def Node.ofJson : Json → Except CompileError Node
  | .object members =>
    if (members.lookup "conjunction").isSome then do
      let conjunction ← Conjunction.ofMembers members
      let children ← childrenOfMembers members
      return (← Group.make conjunction children).toNode
    else if (members.lookup "op").isSome && (members.lookup "left").isSome then
      (Comparison.ofJson (.object members)).map .leaf
    else .error .invalidNode
  | _ => .error .invalidNode

/-- the nodes under `children` -/
def childrenOfMembers : List (String × Json) → Except CompileError (List Node)
  | [] => .error .notAGroup
  | (key, value) :: rest =>
    if key = "children" then
      match value with
      | .array items => nodesOfItems items
      | _ => .error .notAGroup
    else childrenOfMembers rest

/-- one node after the other -/
def nodesOfItems : List Json → Except CompileError (List Node)
  | [] => .ok []
  | item :: rest => do
    let node ← Node.ofJson item
    let nodes ← nodesOfItems rest
    return node :: nodes

end

/-- the tree of a value -/
def Group.ofJson (v : Json) : Except CompileError Group := do
  let conjunction ← Conjunction.ofMembers v.members
  let children ← childrenOfMembers v.members
  Group.make conjunction children

/-! ## Equations -/

theorem nodesOfItems_eq_mapM (items : List Json) : nodesOfItems items = items.mapM Node.ofJson := by
  induction items with
  | nil => rfl
  | cons item rest ih => simp [nodesOfItems, ih]

theorem childrenOfMembers_eq (members : List (String × Json)) :
    childrenOfMembers members =
      match (members.lookup "children").bind Json.asArray? with
      | some items => items.mapM Node.ofJson
      | none => .error .notAGroup := by
  induction members with
  | nil => rfl
  | cons m rest ih =>
    obtain ⟨key, value⟩ := m
    by_cases h : key = "children"
    · have h' : ("children" == key) = true := beq_iff_eq.2 h.symm
      cases value <;> simp only [childrenOfMembers, List.lookup_cons, if_pos h, h', Option.bind_some, Json.asArray?,
        nodesOfItems_eq_mapM]
    · have h' : ("children" == key) = false := beq_eq_false_iff_ne.2 (Ne.symm h)
      cases value <;> simp only [childrenOfMembers, List.lookup_cons, if_neg h, h', ih]

end SqlGateway.Condition
