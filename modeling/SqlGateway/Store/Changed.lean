/-
The count of changed rows in the text that a write reports, such as `Rows matched: 2  Changed: 1  Warnings: 0`.
-/
import SqlGateway.Text.Characters
import SqlGateway.Text.Integer

namespace SqlGateway.Changed

/-- what follows the first place where a pattern stands -/
def afterFirst? (pattern : List Char) : List Char → Option (List Char)
  | [] => none
  | c :: cs =>
    if pattern.isPrefixOf (c :: cs) then some ((c :: cs).drop pattern.length) else afterFirst? pattern cs

/-- the digits at the beginning as a number of 64 bits; zero when there are none or too many -/
def leadingCount (cs : List Char) : UInt64 :=
  match Text.digits? (cs.takeWhile Char.isDigit) with
  | some n => if n < UInt64.size then UInt64.ofNat n else 0
  | none => 0

/-- the count after `changed:`, in letters of either case and after any white space -/
def rows (info : String) : UInt64 :=
  match afterFirst? "changed:".toList (Text.lowered info) with
  | some rest => leadingCount (Text.trimStart rest)
  | none => 0

end SqlGateway.Changed
