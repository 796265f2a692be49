/-
Doubles in a text, correctly rounded: digits with an optional point among, before or after them, an optional exponent and
an optional sign. What is too large for a finite double is refused.
-/
import SqlGateway.Number.Basic
import SqlGateway.Text.Integer

namespace SqlGateway

namespace Decimal

/-- the largest power of the first digit of a finite double, with room to spare -/
def largestPower : Int := 400

/-- the bits nearest to a decimal, without working out powers that no double reaches -/
def boundedBits (d : Decimal) : Nat :=
  let power := d.exponent + (Nat.toDigits 10 d.digits).length
  if d.digits = 0 ∨ power < -largestPower then 0
  else if largestPower < power then infinityBits
  else d.nearestBits

/-- the exponent that follows a mark; no mark, no exponent -/
def exponent? : List Char → Option Int
  | [] => some 0
  | c :: cs => if c = 'e' ∨ c = 'E' then Text.integer? cs else none

/-- an unsigned decimal in a text -/
def ofChars? (cs : List Char) : Option Decimal :=
  let whole := cs.takeWhile Char.isDigit
  let rest := cs.dropWhile Char.isDigit
  let (fraction, rest) := match rest with
    | '.' :: rest => (rest.takeWhile Char.isDigit, rest.dropWhile Char.isDigit)
    | rest => ([], rest)
  if whole.isEmpty && fraction.isEmpty then none
  else do
    let exponent ← exponent? rest
    return ⟨Nat.ofDigitChars 10 (whole ++ fraction) 0, exponent - fraction.length⟩

end Decimal

namespace Binary64

/-- the finite double nearest to a decimal, if there is one -/
def ofDecimal? (negative : Bool) (d : Decimal) : Option Binary64 :=
  if h : d.boundedBits < infinityBits then some ⟨negative, d.boundedBits, h⟩ else none

/-- the finite double in a text -/
def ofChars? : List Char → Option Binary64
  | '-' :: cs => (Decimal.ofChars? cs).bind (ofDecimal? true)
  | '+' :: cs => (Decimal.ofChars? cs).bind (ofDecimal? false)
  | cs => (Decimal.ofChars? cs).bind (ofDecimal? false)

end Binary64

end SqlGateway
