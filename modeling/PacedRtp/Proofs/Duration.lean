import Mathlib
import PacedRtp.Proofs.Ieee.Nearest
import PacedRtp.Proofs.Sender.Times

/-!
# Nearest nanoseconds

The duration of a finite count of seconds that is not negative is its nearest nanosecond, and there
is none only if that nanosecond is out of range. Longer counts have no shorter nearest nanosecond,
and whole seconds are kept.
-/

namespace PacedRtp
namespace Duration

open Ieee

/-- The nanosecond nearest to the absolute value of a count of seconds. -/
def nearest (x : Binary64) : Nat :=
  roundDiv (x.units * nanosPerSecond) (2 ^ Format.binary64.unitExponent)

section Nearest

variable {x x' : Binary64} {m n : Nat} {d : Duration}

/-! ## Order -/

theorem nearest_mono (h : x.magnitude ≤ x'.magnitude) : nearest x ≤ nearest x' :=
  roundDiv_mono_left _ (Nat.mul_le_mul_right _ (Number.units_mono Format.binary64_proper h))

theorem nearest_congr (h : x.magnitude = x'.magnitude) : nearest x = nearest x' :=
  Nat.le_antisymm (nearest_mono h.le) (nearest_mono h.ge)

theorem nearest_le (h : x.units ≤ n * 2 ^ Format.binary64.unitExponent) :
    nearest x ≤ n * nanosPerSecond := by
  apply roundDiv_le (by positivity)
  calc x.units * nanosPerSecond
      ≤ n * 2 ^ Format.binary64.unitExponent * nanosPerSecond := Nat.mul_le_mul_right _ h
    _ = n * nanosPerSecond * 2 ^ Format.binary64.unitExponent := by ring

theorem le_nearest (h : n * 2 ^ Format.binary64.unitExponent ≤ x.units) :
    n * nanosPerSecond ≤ nearest x := by
  apply le_roundDiv (by positivity)
  calc n * nanosPerSecond * 2 ^ Format.binary64.unitExponent
      = n * 2 ^ Format.binary64.unitExponent * nanosPerSecond := by ring
    _ ≤ x.units * nanosPerSecond := Nat.mul_le_mul_right _ h

theorem nearest_of_units (h : x.units = n * 2 ^ Format.binary64.unitExponent) :
    nearest x = n * nanosPerSecond :=
  Nat.le_antisymm (nearest_le h.le) (le_nearest h.ge)

theorem nearest_of_zero (h : x.magnitude = 0) : nearest x = 0 := by
  have hzero : x.units = 0 * 2 ^ Format.binary64.unitExponent := by
    rw [Number.units_zero h, Nat.zero_mul]
  rw [nearest_of_units hzero, Nat.zero_mul]

/-! ## Conversion -/

theorem roundDiv_shifted (x : Binary64) :
    roundDiv (x.units * nanosPerSecond) (1 <<< Format.binary64.unitExponent) = nearest x := by
  rw [nearest, Nat.one_shiftLeft]

/-- Finite counts that are not negative fail only by being too large. -/
theorem ofBinary64_of_ge (hx : x.UpTo m) (h : UInt64.size * nanosPerSecond ≤ nearest x) :
    ofBinary64 x = .error .tooLargeOrNaN := by
  have hpositive : ¬x.lt (Number.zero false) := by
    have hzero : ¬x.rank < (Number.zero false : Binary64).rank := not_lt.mpr hx.rank_nonneg
    simp [Number.lt, hzero]
  have hfinite : ¬(!x.isFinite) = true := by simp [hx.isFinite]
  -- The literals are too large to be unfolded: the nanosecond is taken as any natural.
  have hnone : ∀ n, UInt64.size * nanosPerSecond ≤ n → ofNanoseconds? n = none :=
    fun n hn => dif_neg (Nat.not_lt_of_le hn)
  rw [ofBinary64, if_neg hpositive, if_neg hfinite]
  dsimp only
  rw [roundDiv_shifted, hnone _ h]

theorem ofBinary64_of_lt (hx : x.UpTo m) (hn : nearest x = n)
    (h : n < UInt64.size * nanosPerSecond) : ofBinary64 x = .ok ⟨n, h⟩ :=
  ofBinary64_of_isFinite hx.isFinite hx.rank_nonneg ((roundDiv_shifted x).trans hn) h

theorem nanoseconds_of_ok (hx : x.UpTo m) (hd : ofBinary64 x = .ok d) :
    d.nanoseconds = nearest x := by
  generalize hn : nearest x = n
  rcases Nat.lt_or_ge n (UInt64.size * nanosPerSecond) with hlt | hge
  · rw [ofBinary64_of_lt hx hn hlt] at hd
    cases hd
    rfl
  · rw [ofBinary64_of_ge hx (hn ▸ hge)] at hd
    cases hd

end Nearest

end Duration
end PacedRtp
