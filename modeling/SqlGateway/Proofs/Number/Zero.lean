/-
Zero among numbers. A number is zero if its value is, as an integer or as a double of either sign; and the shortest
decimal of a double has the digit zero alone only for zero (`Decimal.shortest_of_zero`).
-/
import SqlGateway.Number.Basic

namespace SqlGateway

/-! ## Values -/

/-- the value of a number, in units of 2^-1074 -/
def Number.units : Number → Int
  | .integer n => n * Binary64.scale
  | .float f => if f.negative then -Binary64.units f.bits else Binary64.units f.bits

theorem Binary64.units_eq_zero {bits : Nat} : units bits = 0 ↔ bits = 0 := by
  unfold units
  split
  · rfl
  · rename_i hlarge
    have hfractions : 0 < fractions := by decide
    have hunits : 0 < (fractions + bits % fractions) * Nat.pow 2 (bits / fractions - 1) :=
      Nat.mul_pos (Nat.add_pos_left hfractions _) (Nat.pow_pos Nat.two_pos)
    omega

theorem Binary64.scale_ne_zero : scale ≠ 0 := by
  unfold scale
  -- the power itself is too large to compute
  generalize 1074 = k
  apply Nat.ne_of_gt
  exact Nat.pow_pos Nat.two_pos

/-- zero as an integer or as a double of either sign, and nothing else, has the value zero -/
theorem Number.isZero_iff {n : Number} : n.isZero = true ↔ n.units = 0 := by
  cases n with
  | integer n =>
    have hscale : (Binary64.scale : Int) ≠ 0 := mt Int.ofNat_eq_zero.1 Binary64.scale_ne_zero
    simp only [Number.isZero, Number.units, beq_iff_eq, Int.mul_eq_zero, hscale, or_false]
  | float f =>
    have hbits := @Binary64.units_eq_zero f.bits
    simp only [Number.isZero, Number.units, Binary64.isZero, beq_iff_eq, ← hbits]
    split <;> omega

/-! ## The shortest decimal -/

namespace Decimal

theorem nearestBits_of_zero {d : Decimal} (h : d.digits = 0) : d.nearestBits = 0 := by
  have hzero : ∀ den, Binary64.nearestBits 0 den = 0 := by
    intro den
    have hquotient : Binary64.roundQuotient 0 den = 0 := by
      unfold Binary64.roundQuotient
      rw [Nat.zero_div, Nat.zero_mod, if_pos (by omega)]
    simpa [Binary64.nearestBits, Nat.log2_zero] using hquotient
  unfold nearestBits
  split
  · rw [h, Nat.zero_mul, hzero]
  · rw [h, hzero]

theorem trim_ne_zero {digits : Nat} (h : digits ≠ 0) (exponent : Int) : (trim digits exponent).digits ≠ 0 := by
  induction digits, exponent using trim.induct with
  | case1 digits exponent hzeros ih =>
    rw [trim, if_pos hzeros]
    exact ih (by omega)
  | case2 digits exponent hdone =>
    rw [trim, if_neg hdone]
    exact h

/-- the digit zero alone has no power of ten -/
theorem shortest_of_zero {bits : Nat} (h : (shortest bits).digits = 0) : (shortest bits).exponent = 0 := by
  by_cases hbits : bits = 0
  · rw [shortest, if_pos hbits]
  · exfalso
    rw [shortest, if_neg hbits] at h
    extract_lets num power found at h
    cases hfound : found with
    | none =>
      have hnum : num ≠ 0 := mt Binary64.units_eq_zero.1 hbits
      have hpower : ∀ k, Nat.pow 5 k ≠ 0 := fun k => Nat.ne_of_gt (Nat.pow_pos (Nat.succ_pos 4))
      rw [hfound, Option.getD_none] at h
      exact trim_ne_zero (Nat.mul_ne_zero hnum (hpower 1074)) _ h
    | some d =>
      -- a decimal that was found reads back as these bits, and zero does not
      obtain ⟨n, -, hfind⟩ := List.exists_of_findSome?_eq_some hfound
      have hback : d.nearestBits = bits := by simpa using List.find?_some hfind
      rw [hfound, Option.getD_some] at h
      exact hbits (hback.symm.trans (nearestBits_of_zero h))

end Decimal

end SqlGateway
