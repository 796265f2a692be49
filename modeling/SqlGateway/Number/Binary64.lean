/-
Finite binary floating-point numbers of 64 bits, in exact arithmetic on natural numbers. A magnitude is kept as its bits
(exponent field and fraction read as one number), so that the next larger magnitude has the next bits. `units` is its value
as a multiple of the smallest positive one, 2^-1074. Every operation is exact and then rounded once, by `nearestBits`: to
the nearest magnitude, a tie to even bits.
-/

namespace SqlGateway

/-- how many magnitudes share an exponent field -/
def Binary64.fractions : Nat := Nat.pow 2 52

/-- bits of the first magnitude that is not finite -/
def infinityBits : Nat := 2047 * Binary64.fractions

/-- a finite double: its sign and the bits of its magnitude -/
structure Binary64 where
  negative : Bool
  bits : Nat
  finite : bits < infinityBits
  deriving DecidableEq

namespace Binary64

/-! ## Values -/

/-- how many units of 2^-1074 one unit of the exponent field stands for -/
def scale : Nat := Nat.pow 2 1074

/-- the magnitude with these bits, in units of 2^-1074 -/
def units (bits : Nat) : Nat :=
  if bits < fractions then bits else (fractions + bits % fractions) * Nat.pow 2 (bits / fractions - 1)

def zero : Binary64 := ⟨false, 0, by decide⟩

/-- zero of either sign -/
def isZero (f : Binary64) : Bool := f.bits == 0

def negate (f : Binary64) : Binary64 := { f with negative := !f.negative }

/-! ## Rounding -/

/-- a quotient to the nearest integer, a half to the even one -/
def roundQuotient (num den : Nat) : Nat :=
  let q := num / den
  let r := num % den
  if 2 * r < den ∨ (2 * r = den ∧ q % 2 = 0) then q else q + 1

/-- the bits of the magnitude nearest to `num / den`; `infinityBits` and above when it is too large -/
def nearestBits (num den : Nat) : Nat :=
  let whole := num * scale / den
  let shift := Nat.log2 whole - 52
  shift * fractions + roundQuotient (num * scale) (den * Nat.pow 2 shift)

/-- the double nearest to `num / den`, if there is a finite one -/
def ofRatio? (negative : Bool) (num den : Nat) : Option Binary64 :=
  if h : nearestBits num den < infinityBits then some ⟨negative, nearestBits num den, h⟩ else none

/-! ## Bit patterns -/

/-- the finite double with this pattern: the sign, then the bits of the magnitude -/
def ofBits? (pattern : UInt64) : Option Binary64 :=
  let magnitude := pattern.toNat % Nat.pow 2 63
  if h : magnitude < infinityBits then some ⟨pattern.toNat / Nat.pow 2 63 == 1, magnitude, h⟩ else none

/-- how many magnitudes of single precision share an exponent field -/
def singleFractions : Nat := Nat.pow 2 23

/-- the double of the same value as the finite number with this pattern in single precision, whose unit is 2^-149 -/
def ofSingleBits? (pattern : UInt32) : Option Binary64 :=
  let magnitude := pattern.toNat % Nat.pow 2 31
  let units :=
    if magnitude < singleFractions then magnitude
    else (singleFractions + magnitude % singleFractions) * Nat.pow 2 (magnitude / singleFractions - 1)
  if magnitude < 255 * singleFractions then ofRatio? (pattern.toNat / Nat.pow 2 31 == 1) units (Nat.pow 2 149) else none

/-! ## Arithmetic -/

def mul? (f g : Binary64) : Option Binary64 :=
  ofRatio? (f.negative != g.negative) (units f.bits * units g.bits) (scale * scale)

def div? (f g : Binary64) : Option Binary64 :=
  ofRatio? (f.negative != g.negative) (units f.bits) (units g.bits)

/-- the double nearest to a power of ten -/
def powerOfTen? (k : Nat) : Option Binary64 :=
  ofRatio? false (Nat.pow 10 k) 1

end Binary64

end SqlGateway
