import Mathlib
import PacedRtp.Ieee.Arithmetic
import PacedRtp.Proofs.Ieee.Rounding

/-!
# Bounds on results

`x.UpTo m` places a number between zero and the value of the finite pattern `m`. A quotient by at
least one and a product with at most one stay within the bounds of the first operand, so a chain of
such operations neither overflows nor turns negative.
-/

namespace PacedRtp
namespace Ieee
/-! ## Powers of two -/

namespace Format

variable {F : Format}

/-- Room for a significant bit and for normal numbers. -/
structure Proper (F : Format) : Prop where
  precision_pos : 0 < F.precision
  one_lt_exponentBits : 1 < F.exponentBits

theorem binary64_proper : binary64.Proper := ⟨by decide, by decide⟩

/-- The pattern of two to the `k`. -/
def powerAt (F : Format) (k : Nat) : Nat :=
  (2 ^ (F.exponentBits - 1) - 1 + k) * F.hiddenBit

theorem unitsAt_powerAt (hF : F.Proper) (k : Nat) :
    F.unitsAt (F.powerAt k) = 2 ^ k * 2 ^ F.unitExponent := by
  have he := hF.one_lt_exponentBits
  have hbias : 2 ≤ 2 ^ (F.exponentBits - 1) := Nat.le_self_pow (by omega) 2
  -- The exponent field of one is the bias, and one unit is the bias and the fraction below it.
  have hexp : F.fractionBits + (2 ^ (F.exponentBits - 1) - 1 + k - 1) = k + F.unitExponent := by
    rw [unitExponent, Nat.one_shiftLeft]
    omega
  have hnormal : ¬(2 ^ (F.exponentBits - 1) - 1 + k) * F.hiddenBit < F.hiddenBit := by
    rw [Nat.not_lt]
    exact Nat.le_mul_of_pos_left _ (by omega)
  rw [unitsAt, significandAt, shiftAt, powerAt, if_neg hnormal, Nat.mul_mod_left, Nat.zero_add,
    Nat.mul_div_cancel _ F.hiddenBit_pos]
  calc F.hiddenBit * 2 ^ (2 ^ (F.exponentBits - 1) - 1 + k - 1)
      = 2 ^ (F.fractionBits + (2 ^ (F.exponentBits - 1) - 1 + k - 1)) := by
        rw [hiddenBit, Nat.one_shiftLeft, Nat.pow_add]
    _ = 2 ^ k * 2 ^ F.unitExponent := by rw [hexp, Nat.pow_add]

theorem powerAt_lt_infinity {k : Nat} (hF : F.Proper) (hk : k < 2 ^ (F.exponentBits - 1)) :
    F.powerAt k < F.infinity := by
  have he := hF.one_lt_exponentBits
  have htwice : 2 ^ F.exponentBits = 2 * 2 ^ (F.exponentBits - 1) := by
    rw [← Nat.pow_succ']
    congr 1
    omega
  rw [powerAt, infinity, Nat.one_shiftLeft]
  exact Nat.mul_lt_mul_of_pos_right (by omega) F.hiddenBit_pos

end Format

namespace Number

variable {F : Format} {x y : Number F} {m m' : Nat}

/-! ## Units -/

theorem units_eq_unitsAt (x : Number F) : x.units = F.unitsAt x.magnitude := by
  have hsig : x.significand = F.significandAt x.magnitude := by
    unfold significand Format.significandAt
    dsimp only
    split_ifs with hlt
    · exact Nat.mod_eq_of_lt hlt
    · rfl
  rw [units, Nat.shiftLeft_eq, hsig]
  rfl

theorem units_zero (h : x.magnitude = 0) : x.units = 0 := by
  simp [units, significand, h]

theorem not_isNaN (h : x.isFinite) : x.isNaN = false := by
  simp only [isFinite, isNaN, decide_eq_true_eq, decide_eq_false_iff_not] at h ⊢
  omega

theorem not_isInfinite (h : x.isFinite) : x.isInfinite = false := by
  simp only [isFinite, isInfinite, decide_eq_true_eq, beq_eq_false_iff_ne] at h ⊢
  omega

/-! ## Finite operands -/

theorem mul_of_isFinite (hx : x.isFinite) (hy : y.isFinite) :
    x * y = ofMagnitude (x.negative != y.negative)
      (F.round (x.significand * y.significand) 1 (x.shift + y.shift) F.unitExponent) := by
  change mul x y = _
  simp [mul, not_isNaN hx, not_isNaN hy, not_isInfinite hx, not_isInfinite hy]

theorem div_of_isFinite (hx : x.isFinite) (hy : y.isFinite) (hpos : 0 < y.units) :
    x / y = ofMagnitude (x.negative != y.negative)
      (F.round x.significand y.significand (x.shift + F.unitExponent) y.shift) := by
  have hzero : y.isZero = false := by
    rw [isZero, beq_eq_false_iff_ne]
    intro hmag
    rw [units_zero hmag] at hpos
    exact hpos.false
  change div x y = _
  simp [div, not_isNaN hx, not_isNaN hy, not_isInfinite hx, not_isInfinite hy, hzero]

/-! ## Magnitudes of results -/

section Magnitudes

variable (hF : F.Proper)
include hF

theorem magnitude_ofNat_le {n : Nat} (h : n * 2 ^ F.unitExponent ≤ F.unitsAt m) :
    (ofNat n : Number F).magnitude ≤ m := by
  have hround : F.round n 1 F.unitExponent 0 ≤ m :=
    Format.round_le hF.precision_pos Nat.one_pos (by simpa using h)
  exact (Nat.min_le_left _ _).trans hround

theorem le_magnitude_ofNat {n : Nat} (hm : m ≤ F.infinity)
    (h : F.unitsAt m ≤ n * 2 ^ F.unitExponent) : m ≤ (ofNat n : Number F).magnitude := by
  have hround : m ≤ F.round n 1 F.unitExponent 0 :=
    Format.le_round hF.precision_pos Nat.one_pos (by simpa using h)
  exact Nat.le_min.mpr ⟨hround, hm⟩

theorem magnitude_mul_le (hx : x.isFinite) (hy : y.isFinite)
    (h : x.units * y.units ≤ F.unitsAt m * 2 ^ F.unitExponent) : (x * y).magnitude ≤ m := by
  have hround : F.round (x.significand * y.significand) 1 (x.shift + y.shift) F.unitExponent ≤ m := by
    apply Format.round_le hF.precision_pos Nat.one_pos
    calc x.significand * y.significand * 2 ^ (x.shift + y.shift)
        = x.units * y.units := by simp only [units, Nat.shiftLeft_eq]; ring
      _ ≤ F.unitsAt m * (1 * 2 ^ F.unitExponent) := by simpa using h
  rw [mul_of_isFinite hx hy]
  exact (Nat.min_le_left _ _).trans hround

theorem magnitude_div_le (hx : x.isFinite) (hy : y.isFinite) (hpos : 0 < y.units)
    (h : x.units * 2 ^ F.unitExponent ≤ F.unitsAt m * y.units) : (x / y).magnitude ≤ m := by
  have hsig : 0 < y.significand := by
    rw [units, Nat.shiftLeft_eq] at hpos
    exact Nat.pos_of_mul_pos_right hpos
  have hround : F.round x.significand y.significand (x.shift + F.unitExponent) y.shift ≤ m := by
    apply Format.round_le hF.precision_pos hsig
    calc x.significand * 2 ^ (x.shift + F.unitExponent)
        = x.units * 2 ^ F.unitExponent := by simp only [units, Nat.shiftLeft_eq]; ring
      _ ≤ F.unitsAt m * y.units := h
      _ = F.unitsAt m * (y.significand * 2 ^ y.shift) := by rw [units, Nat.shiftLeft_eq]
  rw [div_of_isFinite hx hy hpos]
  exact (Nat.min_le_left _ _).trans hround

/-- One and more is one or more after rounding. -/
theorem two_pow_le_units_ofNat {n : Nat} (hn : 0 < n) :
    2 ^ F.unitExponent ≤ (ofNat n : Number F).units := by
  have hone : F.unitsAt (F.powerAt 0) = 2 ^ F.unitExponent := by
    rw [Format.unitsAt_powerAt hF, Nat.pow_zero, Nat.one_mul]
  have hmag : F.powerAt 0 ≤ (ofNat n : Number F).magnitude := by
    apply le_magnitude_ofNat hF (Format.powerAt_lt_infinity hF (by positivity)).le
    rw [hone]
    exact Nat.le_mul_of_pos_left _ hn
  rw [units_eq_unitsAt, ← hone]
  exact Format.unitsAt_le_unitsAt hF.precision_pos hmag

end Magnitudes

/-! ## Numbers between zero and a bound -/

/-- Between zero, of either sign, and the value of the finite pattern `m`. -/
structure UpTo (x : Number F) (m : Nat) : Prop where
  lt_infinity : m < F.infinity
  magnitude_le : x.magnitude ≤ m
  eq_zero_of_negative : x.negative → x.magnitude = 0

namespace UpTo

theorem isFinite (h : x.UpTo m) : x.isFinite :=
  decide_eq_true (h.magnitude_le.trans_lt h.lt_infinity)

theorem rank_nonneg (h : x.UpTo m) : 0 ≤ x.rank := by
  unfold rank
  split_ifs with hneg
  · simp [h.eq_zero_of_negative hneg]
  · exact Int.natCast_nonneg _

theorem ofNat (hF : F.Proper) {n k : Nat} (hk : k < 2 ^ (F.exponentBits - 1)) (hn : n ≤ 2 ^ k) :
    (ofNat n : Number F).UpTo (F.powerAt k) where
  lt_infinity := Format.powerAt_lt_infinity hF hk
  magnitude_le := by
    apply magnitude_ofNat_le hF
    rw [Format.unitsAt_powerAt hF]
    exact Nat.mul_le_mul_right _ hn
  eq_zero_of_negative := by simp [Number.ofNat, ofRatio, ofMagnitude]

/-- The numbers that compare as at least zero and at most a bounded number. -/
theorem of_le (hy : y.UpTo m) (h0 : (zero false).le x) (h1 : x.le y) : x.UpTo m := by
  simp only [le, Bool.and_eq_true, decide_eq_true_eq] at h0 h1
  rcases h0 with ⟨-, hlow⟩
  rcases h1 with ⟨-, hhigh⟩
  have hlow : 0 ≤ x.rank := hlow
  have hrank : y.rank ≤ y.magnitude := by
    unfold rank
    split_ifs <;> omega
  have hmag := hy.magnitude_le
  -- A negative number that is not below zero is negative zero.
  refine ⟨hy.lt_infinity, ?_, ?_⟩
  · unfold rank at hlow hhigh
    split_ifs at hlow hhigh <;> omega
  · intro hneg
    simp only [rank, if_pos hneg] at hlow
    omega

theorem units_le (hF : F.Proper) (h : x.UpTo m) : x.units ≤ F.unitsAt m := by
  rw [units_eq_unitsAt]
  exact Format.unitsAt_le_unitsAt hF.precision_pos h.magnitude_le

/-- A quotient by one or more. -/
theorem div (hF : F.Proper) (hx : x.UpTo m) (hy : y.UpTo m')
    (hone : 2 ^ F.unitExponent ≤ y.units) : (x / y).UpTo m := by
  have hpos : 0 < y.units := (Nat.two_pow_pos _).trans_le hone
  -- The quotient stays below the dividend, so a negative zero stays zero as well.
  have hle : (x / y).magnitude ≤ x.magnitude := by
    apply magnitude_div_le hF hx.isFinite hy.isFinite hpos
    rw [← units_eq_unitsAt]
    exact Nat.mul_le_mul_left _ hone
  refine ⟨hx.lt_infinity, hle.trans hx.magnitude_le, ?_⟩
  intro hneg
  have hsign : x.negative ∨ y.negative := by
    rw [div_of_isFinite hx.isFinite hy.isFinite hpos] at hneg
    simp only [ofMagnitude] at hneg
    grind
  rcases hsign with hxneg | hyneg
  · exact Nat.le_zero.mp (hle.trans (hx.eq_zero_of_negative hxneg).le)
  · rw [units_zero (hy.eq_zero_of_negative hyneg)] at hpos
    exact absurd hpos (Nat.lt_irrefl 0)

/-- A product whose factors are bounded so that the product of the bounds is. -/
theorem mul_of_units_le (hF : F.Proper) {k : Nat} (hx : x.UpTo m) (hy : y.UpTo m')
    (hk : k < F.infinity) (h : F.unitsAt m * F.unitsAt m' ≤ F.unitsAt k * 2 ^ F.unitExponent) :
    (x * y).UpTo k := by
  refine ⟨hk, ?_, ?_⟩
  · exact magnitude_mul_le hF hx.isFinite hy.isFinite
      ((Nat.mul_le_mul (hx.units_le hF) (hy.units_le hF)).trans h)
  · intro hneg
    have hsign : x.negative ∨ y.negative := by
      rw [mul_of_isFinite hx.isFinite hy.isFinite] at hneg
      simp only [ofMagnitude] at hneg
      grind
    -- A negative factor is a zero, and so is the product.
    apply Nat.le_zero.mp
    apply magnitude_mul_le hF hx.isFinite hy.isFinite
    rcases hsign with hxneg | hyneg
    · simp [units_zero (hx.eq_zero_of_negative hxneg)]
    · simp [units_zero (hy.eq_zero_of_negative hyneg)]

/-- A product with one or less. -/
theorem mul (hF : F.Proper) (hx : x.UpTo m) (hy : y.UpTo (F.powerAt 0)) :
    (x * y).UpTo m := by
  apply mul_of_units_le hF hx hy hx.lt_infinity
  rw [Format.unitsAt_powerAt hF, Nat.pow_zero, Nat.one_mul]

end UpTo
end Number
end Ieee
end PacedRtp
