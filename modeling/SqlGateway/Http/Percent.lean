/-
Percent encoding of octets. An escape that is not `%` and two hexadecimal digits stands for itself.
-/
import SqlGateway.Text.Characters

namespace SqlGateway.Http.Percent

/-- the octets that escaped octets stand for -/
def decode : List UInt8 → List UInt8
  | 37 :: a :: b :: rest =>
    match Text.hexDigit? a, Text.hexDigit? b with
    | some high, some low => UInt8.ofNat (high * 16 + low) :: decode rest
    | _, _ => 37 :: decode (a :: b :: rest)
  | b :: rest => b :: decode rest
  | [] => []

/-- a letter, a digit, or one of `-._~`, which need no escape anywhere -/
def isUnreserved (b : UInt8) : Bool :=
  (48 ≤ b && b ≤ 57) || (65 ≤ b && b ≤ 90) || (97 ≤ b && b ≤ 122) || b == 45 || b == 46 || b == 95 || b == 126

/-- the hexadecimal digit of a number below sixteen, in capital letters -/
def hexDigit (n : Nat) : UInt8 := UInt8.ofNat (if n < 10 then 48 + n else 55 + n)

/-- an octet as an escape -/
def escape (b : UInt8) : List UInt8 := [37, hexDigit (b.toNat / 16), hexDigit (b.toNat % 16)]

/-- octets with escapes for everything reserved -/
def encode (octets : List UInt8) : List UInt8 :=
  octets.flatMap fun b => if isUnreserved b then [b] else escape b

theorem decode_cons {b : UInt8} (h : b ≠ 37) (rest : List UInt8) : decode (b :: rest) = b :: decode rest := by
  rw [decode]
  intro x y r hb
  exact absurd hb h

end SqlGateway.Http.Percent
