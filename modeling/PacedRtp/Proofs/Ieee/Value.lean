import Mathlib
import PacedRtp.Proofs.Ieee.Nearest

/-!
# Rational values

The value of a number is its count of units with its sign. Comparisons of numbers are comparisons of
their values. An infinity has a value as well, the power of two at which the finite values end, and
with it its place in the order; the value that the pattern of a NaN would have is not looked at.
-/

namespace PacedRtp
namespace Ieee
namespace Number

variable {F : Format} {x y : Number F}

/-- The absolute value. -/
def absRat (x : Number F) : ℚ :=
  x.units / 2 ^ F.unitExponent

def toRat (x : Number F) : ℚ :=
  if x.negative then -x.absRat else x.absRat

theorem absRat_nonneg (x : Number F) : 0 ≤ x.absRat := by
  unfold absRat
  positivity

theorem toRat_neg (x : Number F) : (-x).toRat = -x.toRat := by
  have hneg : (-x).negative = !x.negative := rfl
  have habs : (-x).absRat = x.absRat := rfl
  rw [toRat, toRat, hneg, habs]
  cases x.negative <;> simp

theorem absRat_le_iff (hF : F.Proper) : x.absRat ≤ y.absRat ↔ x.magnitude ≤ y.magnitude := by
  have hscale : (0 : ℚ) < 2 ^ F.unitExponent := by positivity
  rw [absRat, absRat, div_le_div_iff_of_pos_right hscale, Nat.cast_le, units_eq_unitsAt,
    units_eq_unitsAt, Format.unitsAt_le_iff hF.precision_pos]

theorem absRat_eq_zero_iff (hF : F.Proper) : x.absRat = 0 ↔ x.magnitude = 0 := by
  have hzero : (zero false : Number F).absRat = 0 := by
    simp [absRat, units_zero, zero, ofMagnitude]
  have hle := absRat_le_iff hF (x := x) (y := zero false)
  rw [hzero] at hle
  have hmag : (zero false : Number F).magnitude = 0 := Nat.zero_min _
  rw [hmag, Nat.le_zero] at hle
  rw [← hle]
  exact ⟨fun h => h.le, fun h => le_antisymm h x.absRat_nonneg⟩

/-! ## Order -/

theorem natAbs_rank (x : Number F) : x.rank.natAbs = x.magnitude := by
  unfold rank
  cases x.negative <;> simp

theorem rank_le_iff (hF : F.Proper) : x.rank ≤ y.rank ↔ x.toRat ≤ y.toRat := by
  have hx := x.absRat_nonneg
  have hy := y.absRat_nonneg
  have hxy := absRat_le_iff hF (x := x) (y := y)
  have hyx := absRat_le_iff hF (x := y) (y := x)
  have hxzero := absRat_eq_zero_iff hF (x := x)
  have hyzero := absRat_eq_zero_iff hF (x := y)
  unfold rank toRat
  cases x.negative <;> cases y.negative
  · simpa using hxy.symm
  -- Only zero is not above a negative number or negative zero.
  · have hrank : (x.magnitude : Int) ≤ -(y.magnitude : Int) ↔
        x.magnitude = 0 ∧ y.magnitude = 0 := by omega
    have hvalue : x.absRat ≤ -y.absRat ↔ x.absRat = 0 ∧ y.absRat = 0 := by
      constructor
      · intro h
        constructor <;> linarith
      · rintro ⟨h, h'⟩
        rw [h, h', neg_zero]
    simp only [Bool.false_eq_true, if_false, if_true]
    rw [hrank, hvalue, hxzero, hyzero]
  · simp only [Bool.false_eq_true, if_false, if_true]
    exact ⟨fun _ => by linarith, fun _ => by omega⟩
  · simpa using hyx.symm

theorem rank_lt_iff (hF : F.Proper) : x.rank < y.rank ↔ x.toRat < y.toRat := by
  rw [← not_le, ← not_le, rank_le_iff hF]

theorem le_iff_toRat_le (hF : F.Proper) (hx : x.isNaN = false) (hy : y.isNaN = false) :
    x.le y ↔ x.toRat ≤ y.toRat := by
  rw [← rank_le_iff hF]
  simp [le, hx, hy]

theorem lt_iff_toRat_lt (hF : F.Proper) (hx : x.isNaN = false) (hy : y.isNaN = false) :
    x.lt y ↔ x.toRat < y.toRat := by
  rw [← rank_lt_iff hF]
  simp [lt, hx, hy]

/-! ## Naturals -/

@[simp] theorem toRat_zero (negative : Bool) : (zero negative : Number F).toRat = 0 := by
  have habs : (zero negative : Number F).absRat = 0 := by
    simp [absRat, units_zero, zero, ofMagnitude]
  simp [toRat, habs]

theorem toRat_ofNat (hF : F.Proper) {k n : Nat} (hk : k < 2 ^ (F.exponentBits - 1)) (hn : n ≤ 2 ^ k)
    (hkp : k ≤ F.precision) : (ofNat n : Number F).toRat = n := by
  have hunits : (ofNat n : Number F).units = n * 2 ^ F.unitExponent := units_ofNat hF hk hn hkp
  have hpos : (ofNat n : Number F).negative = false := rfl
  have hscale : (2 : ℚ) ^ F.unitExponent ≠ 0 := by positivity
  rw [toRat, hpos, absRat, hunits]
  push_cast
  simp [hscale]

theorem toRat_one (hF : F.Proper) : (ofNat 1 : Number F).toRat = 1 := by
  have hone := toRat_ofNat hF (k := 0) (n := 1) (by positivity) le_rfl (Nat.zero_le _)
  exact_mod_cast hone

end Number
end Ieee
end PacedRtp
