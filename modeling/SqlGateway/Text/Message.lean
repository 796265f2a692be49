/-
Texts quoted in messages: between double quotes, with an escape for the quote, the backslash and every character that is
not shown as itself.
-/
import SqlGateway.Text.Shown

namespace SqlGateway.Text

/-- one character between the quotes of a message -/
def messageChar (c : Char) : List Char :=
  match c with
  | '\x00' => ['\\', '0']
  | '\t' => ['\\', 't']
  | '\n' => ['\\', 'n']
  | '\r' => ['\\', 'r']
  | '"' => ['\\', '"']
  | '\\' => ['\\', '\\']
  | c => if isShown c then [c] else '\\' :: 'u' :: '\x7b' :: Nat.toDigits 16 c.toNat ++ ['\x7d']

/-- a text as a message quotes it -/
def messageQuote (s : String) : String :=
  "\"" ++ String.ofList (s.toList.flatMap messageChar) ++ "\""

end SqlGateway.Text
