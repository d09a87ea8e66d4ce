import Mathlib
import PacedRtp.Pcm.Format
import PacedRtp.Sender.Config
import PacedRtp.Proofs.Ieee.Bounds

/-!
# Playback times and pauses

The two conversions of floating-point seconds that a session makes have a result: the playback time
of every clip that fits in memory is a duration, and so is the pause between the packets of every
checked configuration.
-/

namespace PacedRtp

open Ieee

/-! ## Seconds in range -/

namespace Duration

theorem ofNanoseconds?_of_lt {n : Nat} (h : n < UInt64.size * nanosPerSecond) :
    ofNanoseconds? n = some ⟨n, h⟩ :=
  dif_pos h

/-- The duration of a count of seconds whose nearest nanosecond is in range. -/
theorem ofBinary64_of_isFinite {x : Binary64} {n : Nat} (hx : x.isFinite) (hrank : 0 ≤ x.rank)
    (hnear : roundDiv (x.units * nanosPerSecond) (1 <<< Format.binary64.unitExponent) = n)
    (hn : n < UInt64.size * nanosPerSecond) : ofBinary64 x = .ok ⟨n, hn⟩ := by
  have hnot : ¬x.lt (Number.zero false) := by
    have hzero : ¬x.rank < (Number.zero false : Binary64).rank := not_lt.mpr hrank
    simp [Number.lt, hzero]
  have hfinite : ¬(!x.isFinite) = true := by simp [hx]
  -- The literals are too large to be unfolded: the branches are rewritten one by one.
  rw [ofBinary64, if_neg hnot, if_neg hfinite]
  dsimp only
  rw [hnear, ofNanoseconds?_of_lt hn]

/-- Seconds between zero and two to the `k` are a duration, up to sixty-three. -/
theorem ofBinary64_of_upTo {x : Binary64} {k : Nat} (hk : k < 64)
    (h : x.UpTo (Format.binary64.powerAt k)) :
    ∃ d, ofBinary64 x = .ok d ∧ d.nanoseconds ≤ 2 ^ k * nanosPerSecond := by
  generalize hnear :
    roundDiv (x.units * nanosPerSecond) (1 <<< Format.binary64.unitExponent) = n
  -- Rounding to a nanosecond does not pass the bound, a whole number of seconds.
  have hle : n ≤ 2 ^ k * nanosPerSecond := by
    rw [← hnear, Nat.one_shiftLeft]
    apply roundDiv_le (by positivity)
    calc x.units * nanosPerSecond
        ≤ Format.binary64.unitsAt (Format.binary64.powerAt k) * nanosPerSecond :=
          Nat.mul_le_mul_right _ (h.units_le Format.binary64_proper)
      _ = 2 ^ k * nanosPerSecond * 2 ^ Format.binary64.unitExponent := by
          rw [Format.unitsAt_powerAt Format.binary64_proper]
          ring
  have hsize : n < UInt64.size * nanosPerSecond := by
    have hpow : 2 ^ k ≤ 2 ^ 63 := Nat.pow_le_pow_right (by decide) (by omega)
    rw [nanosPerSecond] at hle ⊢
    rw [UInt64.size]
    omega
  exact ⟨⟨n, hsize⟩, ofBinary64_of_isFinite h.isFinite h.rank_nonneg hnear hsize, hle⟩

end Duration

/-! ## Playback time -/

namespace Pcm
namespace Format

theorem durationOf_of_lt (f : Format) {length : Nat} (h : length < 2 ^ 63) :
    ∃ d, f.durationOf length = .ok d := by
  unfold durationOf
  split_ifs with hempty
  · exact ⟨_, rfl⟩
  · have hrate : 0 < f.sampleRate.toNat := by
      apply Nat.pos_of_ne_zero
      intro hzero
      exact hempty (.inr (UInt32.toNat_inj.mp hzero))
    -- The count of sample frames is below two to the 63, and a rate is one or more.
    have hframes : (Number.ofNat (length / f.bytesPerSampleFrame) : Binary64).UpTo
        (Ieee.Format.binary64.powerAt 63) :=
      .ofNat Ieee.Format.binary64_proper (by decide) ((Nat.div_le_self _ _).trans h.le)
    have hdivisor : (Number.ofNat f.sampleRate.toNat : Binary64).UpTo
        (Ieee.Format.binary64.powerAt 32) :=
      .ofNat Ieee.Format.binary64_proper (by decide) f.sampleRate.toNat_lt.le
    have hseconds := hframes.div Ieee.Format.binary64_proper hdivisor
      (Number.two_pow_le_units_ofNat Ieee.Format.binary64_proper hrate)
    rcases Duration.ofBinary64_of_upTo (by decide) hseconds with ⟨d, hd, -⟩
    exact ⟨d, hd⟩

end Format
end Pcm

/-! ## Checked settings -/

namespace Sender
namespace Config

/-- What the check of a configuration makes sure of. -/
structure Checked (c : Config) : Prop where
  frameMs_ne : c.frameMs ≠ 0
  bias_nonneg : (Number.zero false).le c.pacingBias
  bias_le_one : c.pacingBias.le (Number.ofNat 1)
  payloadType_le : c.payloadType ≤ largestPayloadType
  timeout_ne : c.rendezvousTimeout.isZero = false

theorem checked_of_check {c : Config} (h : c.check = .ok ()) : c.Checked := by
  unfold check at h
  split_ifs at h with hms hbias htype htimeout
  simp only [Bool.not_eq_true', Bool.not_eq_false, Bool.and_eq_true] at hbias
  exact ⟨hms, hbias.1, hbias.2, UInt8.not_lt.mp htype, Bool.eq_false_iff.mpr htimeout⟩

theorem pacingInterval_of_check {c : Config} (h : c.check = .ok ()) :
    ∃ d, c.pacingInterval = .ok d := by
  have hchecked := checked_of_check h
  have hbias : c.pacingBias.UpTo (Ieee.Format.binary64.powerAt 0) :=
    .of_le (.ofNat Ieee.Format.binary64_proper (by decide) (by decide))
      hchecked.bias_nonneg hchecked.bias_le_one
  -- Milliseconds below two to the 32, over a thousand, times one at most.
  have hms : (Number.ofNat c.frameMs.toNat : Binary64).UpTo (Ieee.Format.binary64.powerAt 32) :=
    .ofNat Ieee.Format.binary64_proper (by decide) c.frameMs.toNat_lt.le
  have hthousand : (Number.ofNat 1000 : Binary64).UpTo (Ieee.Format.binary64.powerAt 32) :=
    .ofNat Ieee.Format.binary64_proper (by decide) (by decide)
  have hframe := hms.div Ieee.Format.binary64_proper hthousand
    (Number.two_pow_le_units_ofNat Ieee.Format.binary64_proper (by decide))
  rcases Duration.ofBinary64_of_upTo (by decide) (hframe.mul Ieee.Format.binary64_proper hbias) with
    ⟨d, hd, -⟩
  exact ⟨d, hd⟩

end Config
end Sender
end PacedRtp
