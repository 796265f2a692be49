/-
Boolean expressions as SQL reads them. `Formula.read` takes a text character by character:
- a comparison is a name, a blank, an operator of SQL and its operand; the AND of a BETWEEN is part of it;
- what stands between double quotes is not looked into, and a backslash there takes the next character along;
- parentheses group, AND binds tighter than OR, and both group to the left.
A text that is not an expression from its first to its last character is refused. The reader knows nothing of condition
trees: its comparisons are texts, which `Formula.eval` looks up in an assignment of truth values.
-/
import SqlGateway.Condition.Basic

namespace SqlGateway.Condition

inductive Formula where
  | atom (text : String)
  | and (left right : Formula)
  | or (left right : Formula)
  deriving DecidableEq, Repr

namespace Formula

/-- the value when comparisons have these truth values -/
def eval (truth : String → Bool) : Formula → Bool
  | atom text => truth text
  | and f g => f.eval truth && g.eval truth
  | or f g => f.eval truth || g.eval truth

/-! ## Comparisons -/

/-- a character that a name may hold -/
def isNameChar (c : Char) : Bool := !([' ', '(', ')', '"'].contains c)

/-- what follows a literal whose opening quote is read -/
def afterQuote? : List Char → Option (List Char)
  | [] => none
  | '"' :: rest => some rest
  | '\\' :: _ :: rest => afterQuote? rest
  | _ :: rest => afterQuote? rest

/-- what follows a literal -/
def afterLiteral? : List Char → Option (List Char)
  | '"' :: rest => afterQuote? rest
  | _ => none

/-- what follows literals with commas between them and a closing parenthesis -/
def afterItems? (cs : List Char) : Option (List Char) :=
  match afterLiteral? cs with
  | some (')' :: rest) => some rest
  | some (',' :: rest) => if _h : rest.length < cs.length then afterItems? rest else none
  | _ => none
termination_by cs.length

/-- what follows the operand of an operator -/
def afterOperand? : OperandKind → List Char → Option (List Char)
  | .absent, cs => some cs
  | .scalar, cs => afterLiteral? cs
  | .range, cs => do afterLiteral? (← " AND ".toList.isPrefixOf? (← afterLiteral? cs))
  | .set, cs => afterItems? cs

/-- the operators of SQL up to where their operand begins -/
def operators : List (String × OperandKind) :=
  [("= ", .scalar), ("!= ", .scalar), ("< ", .scalar), ("<= ", .scalar), ("> ", .scalar), (">= ", .scalar),
    ("LIKE ", .scalar), ("NOT LIKE ", .scalar), ("BETWEEN ", .range), ("NOT BETWEEN ", .range), ("IS NULL", .absent),
    ("IS NOT NULL", .absent), ("IN (", .set), ("NOT IN (", .set)]

/-- what follows an operator and its operand -/
def afterPredicate? (cs : List Char) : Option (List Char) :=
  operators.findSome? fun p => (p.1.toList.isPrefixOf? cs).bind (afterOperand? p.2)

/-- a comparison and what follows it -/
def comparison? (cs : List Char) : Option (String × List Char) :=
  match cs.dropWhile isNameChar with
  | ' ' :: predicate =>
    (afterPredicate? predicate).map fun rest => (String.ofList (cs.take (cs.length - rest.length)), rest)
  | _ => none

/-! ## Expressions -/

/-- what is read of one level of parentheses: the alternatives before the last OR, and the factors after it -/
structure Level where
  alternatives : Option Formula
  factors : Option Formula
  deriving DecidableEq, Repr

namespace Level

def empty : Level := ⟨none, none⟩

/-- one factor more -/
def push (level : Level) (f : Formula) : Level := { level with factors := some (level.factors.elim f (.and · f)) }

/-- the expression so far -/
def value? (level : Level) : Option Formula := level.factors.map fun f => level.alternatives.elim f (.or · f)

/-- after an OR -/
def next (level : Level) : Level := ⟨level.value?, none⟩

end Level

mutual

/-- reads on where an operand must come; `stack` holds the levels around this one -/
def operand (stack : List Level) (level : Level) (cs : List Char) : Option Formula :=
  match cs with
  | '(' :: rest => operand (level :: stack) .empty rest
  | cs =>
    match comparison? cs with
    | some (text, rest) =>
      if _h : rest.length < cs.length then operator stack (level.push (.atom text)) rest else none
    | none => none
termination_by cs.length

/-- reads on after an operand -/
def operator (stack : List Level) (level : Level) (cs : List Char) : Option Formula :=
  match cs with
  | [] => if stack.isEmpty then level.value? else none
  | ')' :: rest =>
    match stack, level.value? with
    | outer :: stack, some f => operator stack (outer.push f) rest
    | _, _ => none
  | ' ' :: 'A' :: 'N' :: 'D' :: ' ' :: rest => operand stack level rest
  | ' ' :: 'O' :: 'R' :: ' ' :: rest => operand stack level.next rest
  | _ => none
termination_by cs.length

end

/-- the expression that a text is -/
def read (text : String) : Option Formula := operand [] .empty text.toList

end Formula

end SqlGateway.Condition
