/-
What a reader of JSON text asks of a value. `any` takes every value as it is. The other shapes describe a settings
document: texts, bounded natural numbers, and records of named fields, which may be written as an object or as the list of
their values in order. What a record does not name is passed over.
-/
import SqlGateway.Json.Fault

namespace SqlGateway.Json

inductive Shape where
  | any
  | ignored
  | text
  | optionalText
  | natural (name : String) (bound : Nat)
  | record (name : String) (fields : List (String × Shape))

namespace Shape

/-- what is asked for, as a message names it -/
def expected : Shape → String
  | any | ignored => "any value"
  | text | optionalText => "a string"
  | natural name _ => name
  | record name _ => "struct " ++ name

/-- whether the value is passed over: then its grammar is checked and nothing else -/
def isIgnored : Shape → Bool
  | ignored => true
  | _ => false

/-- a value that is neither an array nor an object, where this shape is asked for -/
def accept (shape : Shape) (v : Json) : Except Reason Json :=
  match shape, v with
  | any, v => .ok v
  | ignored, _ => .ok .null
  | text, .string s => .ok (.string s)
  | optionalText, .string s => .ok (.string s)
  | optionalText, .null => .ok .null
  | natural name bound, .number (.integer n) =>
    if 0 ≤ n ∧ n < bound then .ok (.number (.integer n))
    else .error (.wrongValue (.scalar (.number (.integer n))) name)
  | shape, v => .error (.wrongType (.scalar v) shape.expected)

end Shape

end SqlGateway.Json
