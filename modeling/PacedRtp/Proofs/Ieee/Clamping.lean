import Mathlib
import PacedRtp.Proofs.Ieee.Value

/-!
# Clamping, and whole parts with a sign

Clamping, products with a positive factor and dropping the fraction keep the order of the numbers,
and commute with the change of sign. The whole part of a rounded product lies less than one from the
exact product: rounding never passes an integer that the format can hold, so the integers on either
side of the product hold the rounded product between them.
-/

namespace PacedRtp
namespace Ieee
namespace Number

variable {F : Format} {x x' y lo hi : Number F}

/-! ## Signs -/

theorem rank_neg (x : Number F) : (-x).rank = -x.rank := by
  have hneg : (-x).negative = !x.negative := rfl
  have hmag : (-x).magnitude = x.magnitude := rfl
  rw [rank, rank, hneg, hmag]
  cases x.negative <;> simp

theorem lt_neg_neg (x y : Number F) : (-x).lt (-y) = y.lt x := by
  have hx : (-x).isNaN = x.isNaN := rfl
  have hy : (-y).isNaN = y.isNaN := rfl
  have hrank : -x.rank < -y.rank ↔ y.rank < x.rank := by omega
  rw [lt, lt, hx, hy, rank_neg, rank_neg, decide_eq_decide.mpr hrank, Bool.and_comm (!x.isNaN)]

theorem neg_neg (x : Number F) : -(-x) = x := by
  cases x
  simp [Neg.neg]

theorem truncate_neg (x : Number F) : (-x).truncate = -x.truncate := by
  have hneg : (-x).negative = !x.negative := rfl
  have hfloor : (-x).floorAbs = x.floorAbs := rfl
  rw [truncate, truncate, hneg, hfloor]
  cases x.negative <;> simp

/-! ## Clamping -/

/-- A clamped number takes its place in the order between the ends. -/
theorem rank_clamp (hlo : lo.isNaN = false) (hhi : hi.isNaN = false) (hx : x.isNaN = false)
    (h : lo.rank ≤ hi.rank) : (clamp lo hi x).rank = max lo.rank (min hi.rank x.rank) := by
  have hlow : x.lt lo = decide (x.rank < lo.rank) := by simp [lt, hx, hlo]
  have hhigh : hi.lt x = decide (hi.rank < x.rank) := by simp [lt, hx, hhi]
  rw [clamp, hlow, hhigh]
  simp only [decide_eq_true_eq]
  split_ifs <;> omega

theorem clamp_of_isNaN (hx : x.isNaN) : clamp lo hi x = x := by
  simp [clamp, lt, hx]

theorem clamp_neg_neg (h : lo.rank ≤ hi.rank) : clamp (-hi) (-lo) (-x) = -clamp lo hi x := by
  have hboth : ¬(x.lt lo ∧ hi.lt x) := by
    simp only [lt, Bool.and_eq_true, decide_eq_true_eq]
    omega
  rw [clamp, clamp, lt_neg_neg, lt_neg_neg]
  cases hlow : x.lt lo with
  | true =>
    have hhigh : ¬hi.lt x := fun hlt => hboth ⟨hlow, hlt⟩
    rw [if_neg hhigh, if_pos rfl, if_pos rfl]
  | false =>
    cases hi.lt x <;> simp

theorem toRat_clamp (hF : F.Proper) (hlo : lo.isNaN = false) (hhi : hi.isNaN = false)
    (hx : x.isNaN = false) (h : lo.toRat ≤ hi.toRat) :
    (clamp lo hi x).toRat = max lo.toRat (min hi.toRat x.toRat) := by
  have hlow := lt_iff_toRat_lt hF hx hlo
  have hhigh := lt_iff_toRat_lt hF hhi hx
  rw [clamp]
  split_ifs with hxlo hxhi
  · exact (max_eq_left ((min_le_right _ _).trans (hlow.mp hxlo).le)).symm
  · rw [min_eq_left (hhigh.mp hxhi).le, max_eq_right h]
  · rw [hlow, not_lt] at hxlo
    rw [hhigh, not_lt] at hxhi
    rw [min_eq_right hxhi, max_eq_right hxlo]

/-! ## Order behind signs -/

/-- Signed naturals keep their order if their absolute values do, and zero stays zero. -/
theorem signed_mono {negative negative' : Bool} {a a' b b' : Nat}
    (h : (if negative then -(a : Int) else a) ≤ if negative' then -(a' : Int) else a')
    (hmono : a ≤ a' → b ≤ b') (hanti : a' ≤ a → b' ≤ b) (hzero : a = 0 → b = 0)
    (hzero' : a' = 0 → b' = 0) :
    (if negative then -(b : Int) else b) ≤ if negative' then -(b' : Int) else b' := by
  cases negative <;> cases negative'
  · simp only [Bool.false_eq_true, if_false] at h ⊢
    exact_mod_cast hmono (by exact_mod_cast h)
  -- A negative number is above another one only if both are zero.
  · simp only [Bool.false_eq_true, if_false, if_true] at h ⊢
    rw [hzero (by omega), hzero' (by omega)]
    exact le_rfl
  · simp only [Bool.false_eq_true, if_false, if_true]
    omega
  · simp only [if_true] at h ⊢
    have hle := hanti (by omega)
    omega

theorem negative_mul (hx : x.isFinite) (hy : y.isFinite) (hpos : y.negative = false) :
    (x * y).negative = x.negative := by
  rw [mul_of_isFinite hx hy, hpos]
  exact Bool.xor_false _

theorem neg_mul (hx : x.isFinite) (hy : y.isFinite) : -x * y = -(x * y) := by
  have hneg : (-x).negative = !x.negative := rfl
  have hsig : (-x).significand = x.significand := rfl
  have hshift : (-x).shift = x.shift := rfl
  have hfinite : (-x).isFinite := hx
  rw [mul_of_isFinite hx hy, mul_of_isFinite hfinite hy, hneg, hsig, hshift]
  cases x.negative <;> cases y.negative <;> rfl

theorem absRat_mul_absRat (x y : Number F) : x.absRat * y.absRat =
    ((x.units * y.units : Nat) : ℚ) / (2 ^ F.unitExponent * 2 ^ F.unitExponent) := by
  rw [absRat, absRat, div_mul_div_comm]
  push_cast
  rfl

section Bounds

variable (hF : F.Proper)
include hF

theorem magnitude_mul_of_zero (hx : x.isFinite) (hy : y.isFinite) (h : x.magnitude = 0) :
    (x * y).magnitude = 0 := by
  apply Nat.le_zero.mp
  apply magnitude_mul_le hF hx hy
  rw [units_zero h, Nat.zero_mul]
  exact Nat.zero_le _

/-- Products with a positive factor keep the order, signs included. -/
theorem rank_mul_mono (hx : x.isFinite) (hx' : x'.isFinite) (hy : y.isFinite)
    (hpos : y.negative = false) (h : x.rank ≤ x'.rank) : (x * y).rank ≤ (x' * y).rank := by
  rw [rank, rank, negative_mul hx hy hpos, negative_mul hx' hy hpos]
  exact signed_mono h (magnitude_mul_mono hF hx hx' hy) (magnitude_mul_mono hF hx' hx hy)
    (magnitude_mul_of_zero hF hx hy) (magnitude_mul_of_zero hF hx' hy)

theorem truncate_mono (h : x.rank ≤ y.rank) : x.truncate ≤ y.truncate := by
  have hzero (z : Number F) (hz : z.magnitude = 0) : z.floorAbs = 0 := by
    rw [floorAbs_eq, units_zero hz, Nat.zero_div]
  exact signed_mono h (floorAbs_mono hF) (floorAbs_mono hF) (hzero x) (hzero y)

/-! ## Whole parts of products -/

theorem floorAbs_ofNat {k n : Nat} (hk : k < 2 ^ (F.exponentBits - 1)) (hn : n ≤ 2 ^ k)
    (hkp : k ≤ F.precision) : (ofNat n : Number F).floorAbs = n := by
  rw [floorAbs_eq, units_ofNat hF hk hn hkp, Nat.mul_div_cancel _ (by positivity)]

section Product

variable {k n : Nat} (hk : k < 2 ^ (F.exponentBits - 1)) (hkp : k ≤ F.precision)
  (hx : x.isFinite) (hy : y.isFinite)
include hk hkp hx hy

/-- A natural that is not below the product is not below its whole part after rounding. -/
theorem lt_mul_of_lt_floorAbs (hn : n ≤ 2 ^ k) (h : n < (x * y).floorAbs) :
    (n : ℚ) < x.absRat * y.absRat := by
  by_contra hge
  have hunits : (ofNat n : Number F).units = n * 2 ^ F.unitExponent := units_ofNat hF hk hn hkp
  have hle : x.units * y.units ≤
      F.unitsAt (ofNat n : Number F).magnitude * 2 ^ F.unitExponent := by
    rw [absRat_mul_absRat, lt_div_iff₀ (by positivity)] at hge
    rw [← units_eq_unitsAt, hunits, Nat.mul_assoc]
    exact_mod_cast not_lt.mp hge
  have hfloor := floorAbs_mono hF (magnitude_mul_le hF hx hy hle)
  rw [floorAbs_ofNat hF hk hn hkp] at hfloor
  exact absurd h (Nat.not_lt_of_le hfloor)

/-- A natural that is not above the product is not above its whole part after rounding. -/
theorem mul_lt_of_floorAbs_lt (hn : n ≤ 2 ^ k) (h : (x * y).floorAbs < n) :
    x.absRat * y.absRat < n := by
  by_contra hge
  have hunits : (ofNat n : Number F).units = n * 2 ^ F.unitExponent := units_ofNat hF hk hn hkp
  have hfinite : (ofNat n : Number F).magnitude < F.infinity :=
    of_decide_eq_true (isFinite_ofNat hF hk hn)
  have hle : F.unitsAt (ofNat n : Number F).magnitude * 2 ^ F.unitExponent ≤
      x.units * y.units := by
    rw [absRat_mul_absRat, div_lt_iff₀ (by positivity)] at hge
    rw [← units_eq_unitsAt, hunits, Nat.mul_assoc]
    exact_mod_cast not_lt.mp hge
  have hfloor := floorAbs_mono hF (le_magnitude_mul hF hx hy hfinite.le hle)
  rw [floorAbs_ofNat hF hk hn hkp] at hfloor
  exact absurd h (Nat.not_lt_of_le hfloor)

/-- The whole part of a rounded product lies less than one from the exact product, while the format
can hold the integers around it. -/
theorem abs_floorAbs_mul_sub_lt (h : (x * y).floorAbs < 2 ^ k) :
    |((x * y).floorAbs : ℚ) - x.absRat * y.absRat| < 1 := by
  have hhigh := mul_lt_of_floorAbs_lt hF hk hkp hx hy h (Nat.lt_succ_self _)
  have hnonneg : 0 ≤ x.absRat * y.absRat := mul_nonneg x.absRat_nonneg y.absRat_nonneg
  push_cast at hhigh
  rw [abs_lt]
  refine ⟨by linarith, ?_⟩
  cases hv : (x * y).floorAbs with
  | zero =>
    push_cast
    linarith
  | succ n =>
    have hlow := lt_mul_of_lt_floorAbs hF hk hkp hx hy (n := n) (by omega) (by omega)
    push_cast
    linarith

/-- The same with signs. -/
theorem abs_truncate_mul_sub_lt (hpos : y.negative = false) (h : (x * y).floorAbs < 2 ^ k) :
    |((x * y).truncate : ℚ) - x.toRat * y.toRat| < 1 := by
  have hnear := abs_floorAbs_mul_sub_lt hF hk hkp hx hy h
  rw [truncate, toRat, toRat, negative_mul hx hy hpos, hpos]
  cases x.negative with
  | false => simpa using hnear
  | true =>
    rw [abs_sub_comm] at hnear
    simpa [sub_eq_add_neg, add_comm] using hnear

end Product

end Bounds

end Number
end Ieee
end PacedRtp
