/-
The shortest decimal that reads back as a given double. For one digit, two digits and so on, the two decimals around the
value on that grid are tried, the nearer one first and of two equally near ones the even one first; the first that rounds
to the same bits is taken. Seventeen digits always suffice.
-/
import SqlGateway.Number.Binary64

namespace SqlGateway

/-- the decimal `digits` times ten to the `exponent` -/
structure Decimal where
  digits : Nat
  exponent : Int
  deriving DecidableEq, Repr

namespace Decimal

/-- the bits of the magnitude nearest to a decimal -/
def nearestBits (d : Decimal) : Nat :=
  if 0 ≤ d.exponent then Binary64.nearestBits (d.digits * Nat.pow 10 d.exponent.toNat) 1
  else Binary64.nearestBits d.digits (Nat.pow 10 (-d.exponent).toNat)

/-- the power of ten of the first digit of `num / den`, for `num` above zero -/
def leadingPower (num den : Nat) : Int :=
  if den ≤ num then (Nat.toDigits 10 (num / den)).length - 1
  else -((Nat.toDigits 10 ((den - 1) / num)).length : Int)

/-- the same decimal without zeros at the end of its digits -/
def trim (digits : Nat) (exponent : Int) : Decimal :=
  if digits ≠ 0 ∧ digits % 10 = 0 then trim (digits / 10) (exponent + 1) else ⟨digits, exponent⟩
termination_by digits

/-- the two decimals around `num / den` on the grid of ten to the `power`, the better one first -/
def neighbours (num den : Nat) (power : Int) : List Decimal :=
  let num := num * Nat.pow 10 (-power).toNat
  let den := den * Nat.pow 10 power.toNat
  let near := Binary64.roundQuotient num den
  let far := if near = num / den then near + 1 else near - 1
  [trim near power, trim far power]

/-- the shortest decimal that rounds to the magnitude with these bits, and of several the nearest -/
def shortest (bits : Nat) : Decimal :=
  if bits = 0 then ⟨0, 0⟩
  else
    let num := Binary64.units bits
    let power := leadingPower num Binary64.scale
    let found := (List.range 17).findSome? fun (n : Nat) =>
      (neighbours num Binary64.scale (power - n)).find? fun d => d.nearestBits == bits
    found.getD (trim (num * Nat.pow 5 1074) (-1074))

end Decimal

end SqlGateway
