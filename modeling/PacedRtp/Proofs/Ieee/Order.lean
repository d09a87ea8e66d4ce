import Mathlib
import PacedRtp.Proofs.Ieee.Bounds

/-!
# Operations respect the order

Of two naturals the smaller one becomes the smaller number, and products with one factor and whole
parts keep the order of the magnitudes. Signs are not looked at: the statements are about absolute
values.
-/

namespace PacedRtp
namespace Ieee
namespace Number

variable {F : Format} {x x' y : Number F}

/-! ## Magnitudes -/

section Magnitudes

variable (hF : F.Proper)
include hF

theorem units_mono (h : x.magnitude ≤ x'.magnitude) : x.units ≤ x'.units := by
  rw [units_eq_unitsAt, units_eq_unitsAt]
  exact Format.unitsAt_le_unitsAt hF.precision_pos h

theorem magnitude_ofNat_mono {n n' : Nat} (h : n ≤ n') :
    (ofNat n : Number F).magnitude ≤ (ofNat n' : Number F).magnitude := by
  apply min_le_min_right
  apply Format.round_mono hF.precision_pos Nat.one_pos Nat.one_pos
  exact Nat.mul_le_mul_right _ (Nat.mul_le_mul_right _ h)

theorem magnitude_mul_mono (hx : x.isFinite) (hx' : x'.isFinite) (hy : y.isFinite)
    (h : x.magnitude ≤ x'.magnitude) : (x * y).magnitude ≤ (x' * y).magnitude := by
  have hunits (z : Number F) :
      z.significand * y.significand * 2 ^ (z.shift + y.shift) = z.units * y.units := by
    simp only [units, Nat.shiftLeft_eq]
    ring
  rw [mul_of_isFinite hx hy, mul_of_isFinite hx' hy]
  apply min_le_min_right
  apply Format.round_mono hF.precision_pos Nat.one_pos Nat.one_pos
  rw [hunits, hunits]
  exact Nat.mul_le_mul_right _ (Nat.mul_le_mul_right _ (units_mono hF h))

end Magnitudes

/-! ## Whole parts -/

theorem floorAbs_eq (x : Number F) : x.floorAbs = x.units / 2 ^ F.unitExponent := by
  unfold floorAbs
  split_ifs with hle
  -- All places are whole, or the lower ones are dropped.
  · have hsplit : x.significand * 2 ^ x.shift =
        x.significand * 2 ^ (x.shift - F.unitExponent) * 2 ^ F.unitExponent := by
      rw [Nat.mul_assoc, ← Nat.pow_add, Nat.sub_add_cancel hle]
    rw [units, Nat.shiftLeft_eq, Nat.shiftLeft_eq, hsplit, Nat.mul_div_cancel _ (by positivity)]
  · have hsplit : 2 ^ F.unitExponent = 2 ^ (F.unitExponent - x.shift) * 2 ^ x.shift := by
      rw [← Nat.pow_add, Nat.sub_add_cancel (Nat.le_of_not_le hle)]
    rw [units, Nat.shiftLeft_eq, Nat.shiftRight_eq_div_pow, hsplit,
      Nat.mul_div_mul_right _ _ (by positivity)]

theorem floorAbs_mono (hF : F.Proper) (h : x.magnitude ≤ x'.magnitude) :
    x.floorAbs ≤ x'.floorAbs := by
  rw [floorAbs_eq, floorAbs_eq]
  exact Nat.div_le_div_right (units_mono hF h)

end Number
end Ieee
end PacedRtp
