/-
The numbers of a JSON text: integers, which stay exact, and finite doubles. `Number.text` is the one written form of a
number: an integer in decimal, a double with the fewest digits that read back, so written that it shows a point or an
exponent. The first digit's power of ten decides between positional and scientific notation.
-/
import SqlGateway.Number.Shortest

namespace SqlGateway

namespace Decimal

/-- the smallest and the largest power of the first digit that are written positionally -/
def positionalPowers : Int × Int := (-5, 15)

/-- zeros before or after the digits -/
def zeros (n : Nat) : List Char := List.replicate n '0'

/-- `120.0`, `1.5`, `0.00015` -/
def positional (digits : List Char) (exponent : Int) : List Char :=
  if 0 ≤ exponent then digits ++ zeros exponent.toNat ++ ['.', '0']
  else
    let places := (-exponent).toNat
    if places < digits.length then
      digits.take (digits.length - places) ++ '.' :: digits.drop (digits.length - places)
    else '0' :: '.' :: zeros (places - digits.length) ++ digits

/-- `1e+16`, `1.5e-7` -/
def scientific (digits : List Char) (power : Int) : List Char :=
  let mantissa := match digits with
    | first :: second :: rest => first :: '.' :: second :: rest
    | single => single
  mantissa ++ 'e' :: (if 0 ≤ power then '+' else '-') :: Nat.toDigits 10 power.natAbs

/-- the written form of a decimal that stands for a double -/
def chars (d : Decimal) : List Char :=
  let digits := Nat.toDigits 10 d.digits
  let power := d.exponent + digits.length - 1
  if positionalPowers.1 ≤ power ∧ power ≤ positionalPowers.2 then positional digits d.exponent
  else scientific digits power

end Decimal

/-- the fewest digits that read back, after the sign -/
def Binary64.text (f : Binary64) : String :=
  (if f.negative then "-" else "") ++ String.ofList (Decimal.shortest f.bits).chars

inductive Number where
  | integer (n : Int)
  | float (f : Binary64)
  deriving DecidableEq

namespace Number

def text : Number → String
  | .integer n => toString n
  | .float f => f.text

/-- zero as an integer or as a double of either sign -/
def isZero : Number → Bool
  | .integer n => n == 0
  | .float f => f.isZero

end Number

end SqlGateway
