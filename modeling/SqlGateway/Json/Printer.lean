/-
The compact written form of a JSON value: no blanks, members in their order.
-/
import SqlGateway.Json.Basic
import SqlGateway.Json.Quoted

namespace SqlGateway.Json

mutual

/-- the characters of a value -/
def chars : Json → List Char
  | null => "null".toList
  | bool true => "true".toList
  | bool false => "false".toList
  | number n => n.text.toList
  | string s => quoted s
  | array [] => "[]".toList
  | array (item :: rest) => '[' :: chars item ++ itemsTail rest
  | object [] => "\x7b\x7d".toList
  | object ((key, value) :: rest) => '\x7b' :: quoted key ++ ':' :: chars value ++ membersTail rest

/-- the items after the first, and the closing bracket -/
def itemsTail : List Json → List Char
  | [] => [']']
  | item :: rest => ',' :: chars item ++ itemsTail rest

/-- the members after the first, and the closing brace -/
def membersTail : List (String × Json) → List Char
  | [] => ['\x7d']
  | (key, value) :: rest => ',' :: quoted key ++ ':' :: chars value ++ membersTail rest

end

/-- the compact text of a value -/
def compact (v : Json) : String := String.ofList (chars v)

/-- the text of a value that is neither an array nor an object: a string is its own text -/
def scalarText? : Json → Option String
  | string s => some s
  | number n => some n.text
  | bool true => some "true"
  | bool false => some "false"
  | null => some "null"
  | array _ => none
  | object _ => none

/-- neither null, false, a zero nor the empty text -/
def isTruthy : Json → Bool
  | null => false
  | bool b => b
  | number n => !n.isZero
  | string s => !s.isEmpty
  | array _ => true
  | object _ => true

end SqlGateway.Json
