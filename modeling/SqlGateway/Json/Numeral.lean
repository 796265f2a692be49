/-
Numbers of a JSON text, read one octet at a time. A numeral without point and exponent is an integer when it fits 64 bits.
Every other numeral is a double, made in this way: its digits fill a significand of 64 bits; a whole digit that does not
fit counts in the exponent, a fraction digit that does not fit is dropped; the double nearest to the significand is then
multiplied or divided by the double nearest to the power of ten. These are two roundings, so the last digit may differ
from the nearest double's.

A numeral whose value is not wanted is read by `step true`: no value is out of range there.
-/
import SqlGateway.Json.Fault

namespace SqlGateway.Json

namespace Numeral

/-- what has been read of a numeral -/
inductive Phase where
  | minus
  | zero
  | whole
  | point
  | fraction (dropping : Bool)
  | mark
  | sign (down : Bool)
  | power (down : Bool) (n : Nat)
  | vanished
  deriving DecidableEq

end Numeral

/-- a numeral so far: `full` once a whole digit did not fit -/
structure Numeral where
  phase : Numeral.Phase
  negative : Bool
  significand : Nat
  exponent : Int
  full : Bool
  deriving DecidableEq

namespace Numeral

/-- the largest significand -/
def maxSignificand : Nat := UInt64.size - 1

/-- the largest power that an exponent may spell -/
def maxPower : Nat := Nat.pow 2 31 - 1

/-- the largest power of ten that is a double -/
def maxScale : Nat := 308

/-! ## Values -/

/-- a double times a power of ten -/
def scaleUp (f : Binary64) (power : Nat) : Option Binary64 :=
  if power ≤ maxScale then (Binary64.powerOfTen? power).bind f.mul?
  else if f.isZero then some f else none

/-- a double divided by a power of ten, in steps of the largest one -/
def scaleDown (f : Binary64) (power : Nat) : Option Binary64 :=
  if power ≤ maxScale then (Binary64.powerOfTen? power).bind f.div?
  else if f.isZero then some f
  else do
    let smaller ← (Binary64.powerOfTen? maxScale).bind f.div?
    scaleDown smaller (power - maxScale)
termination_by power
decreasing_by simp only [maxScale] at *; omega

/-- the double for a significand and an exponent -/
def double? (negative : Bool) (significand : Nat) (exponent : Int) : Option Binary64 := do
  let f ← Binary64.ofRatio? false significand 1
  let g ← if 0 ≤ exponent then scaleUp f exponent.toNat else scaleDown f (-exponent).toNat
  return if negative then g.negate else g

/-- the number of a numeral that has ended, unless it is out of range -/
def value? (n : Numeral) : Option Number :=
  let double := fun exponent => (double? n.negative n.significand exponent).map Number.float
  match n.phase with
  | .zero | .whole =>
    if n.full then double n.exponent
    else if !n.negative then some (.integer n.significand)
    else if n.significand = 0 ∨ Nat.pow 2 63 < n.significand then double 0
    else some (.integer (-n.significand))
  | .power down k => double (if down then n.exponent - k else n.exponent + k)
  | .vanished => double? n.negative 0 0 |>.map Number.float
  | _ => double n.exponent

/-! ## Reading -/

/-- the digit that an octet stands for -/
def digit? (b : UInt8) : Option Nat :=
  if 48 ≤ b.toNat ∧ b.toNat ≤ 57 then some (b.toNat - 48) else none

/-- the numeral that an octet begins -/
def start? (b : UInt8) : Option Numeral :=
  if b == 45 then some ⟨.minus, true, 0, 0, false⟩
  else (digit? b).map fun d => ⟨if d = 0 then .zero else .whole, false, d, 0, false⟩

/-- one more whole digit -/
def pushWhole (n : Numeral) (d : Nat) : Numeral :=
  if n.full ∨ maxSignificand < n.significand * 10 + d then
    { n with phase := .whole, exponent := n.exponent + 1, full := true }
  else { n with phase := .whole, significand := n.significand * 10 + d }

/-- one more fraction digit -/
def pushFraction (n : Numeral) (dropping : Bool) (d : Nat) : Numeral :=
  if dropping ∨ maxSignificand < n.significand * 10 + d then { n with phase := .fraction true }
  else { n with phase := .fraction false, significand := n.significand * 10 + d, exponent := n.exponent - 1 }

/-- one more digit of the exponent -/
def pushPower (lenient : Bool) (n : Numeral) (down : Bool) (k d : Nat) : Except Fault Numeral :=
  if k * 10 + d ≤ maxPower then .ok { n with phase := .power down (k * 10 + d) }
  else if lenient ∨ n.significand = 0 ∨ down then .ok { n with phase := .vanished }
  else .error Reason.numberOutOfRange.past

/-- an octet after a part that is complete: a point, an exponent mark, or the end of the numeral -/
def afterDigits (n : Numeral) (pointMayFollow : Bool) (b : UInt8) : Option Numeral :=
  if b == 46 && pointMayFollow then some { n with phase := .point }
  else if b == 101 || b == 69 then some { n with phase := .mark }
  else none

/-- one octet; `none` when the numeral has ended before it -/
def step (lenient : Bool) (n : Numeral) (b : UInt8) : Except Fault (Option Numeral) :=
  match n.phase, digit? b with
  | .minus, some d => .ok (some { n with phase := if d = 0 then .zero else .whole, significand := d })
  | .zero, some _ => .error Reason.invalidNumber.past
  | .zero, none => .ok (n.afterDigits true b)
  | .whole, some d => .ok (some (n.pushWhole d))
  | .whole, none => .ok (n.afterDigits true b)
  | .point, some d => .ok (some (n.pushFraction false d))
  | .fraction dropping, some d => .ok (some (n.pushFraction dropping d))
  | .fraction _, none => .ok (n.afterDigits false b)
  | .mark, some d => (n.pushPower lenient false 0 d).map some
  | .mark, none =>
    if b == 43 then .ok (some { n with phase := .sign false })
    else if b == 45 then .ok (some { n with phase := .sign true })
    else .error Reason.invalidNumber.past
  | .sign down, some d => (n.pushPower lenient down 0 d).map some
  | .power down k, some d => (n.pushPower lenient down k d).map some
  | .power _ _, none => .ok none
  | .vanished, some _ => .ok (some n)
  | .vanished, none => .ok none
  | .minus, none | .point, none | .sign _, none => .error Reason.invalidNumber.past

/-- whether the numeral may end here -/
def isComplete (n : Numeral) : Bool :=
  match n.phase with
  | .minus | .point | .mark | .sign _ => false
  | _ => true

end Numeral

end SqlGateway.Json
