import Mathlib
import PacedRtp.Proofs.Duration
import PacedRtp.Proofs.Pcm.Geometry

/-!
# Playback time

The playback time of a 64-bit length is the whole sample frames over the rate, rounded three times:
to binary64 before and after the division, and to nanoseconds. It grows with the length and is exact
for whole seconds that binary64 can count in samples. One format in all has lengths without a
playback time: with one octet a second, the lengths that binary64 rounds up to two to the 64.
-/

namespace PacedRtp
namespace Pcm
namespace Format

open Ieee

variable {f : Format} {frames frames' length length' : Nat}

/-! ## Seconds -/

/-- The seconds of a number of sample frames. -/
def seconds (f : Format) (frames : Nat) : Binary64 :=
  Number.ofNat frames / Number.ofNat f.sampleRate.toNat

theorem durationOf_of_zero (h : f.bytesPerSampleFrame = 0 ∨ f.sampleRate = 0) (length : Nat) :
    f.durationOf length = .ok .zero :=
  if_pos h

theorem durationOf_of_nonzero (h : ¬(f.bytesPerSampleFrame = 0 ∨ f.sampleRate = 0))
    (length : Nat) :
    f.durationOf length = Duration.ofBinary64 (f.seconds (length / f.bytesPerSampleFrame)) :=
  if_neg h

theorem sampleRate_pos (h : f.sampleRate ≠ 0) : 0 < f.sampleRate.toNat :=
  Nat.pos_of_ne_zero fun hzero => h (UInt32.toNat_inj.mp hzero)

theorem sampleRate_upTo (f : Format) :
    (Number.ofNat f.sampleRate.toNat : Binary64).UpTo (Ieee.Format.binary64.powerAt 32) :=
  .ofNat Ieee.Format.binary64_proper (by decide) f.sampleRate.toNat_lt.le

theorem units_sampleRate (f : Format) : (Number.ofNat f.sampleRate.toNat : Binary64).units =
    f.sampleRate.toNat * 2 ^ Ieee.Format.binary64.unitExponent :=
  Number.units_ofNat Ieee.Format.binary64_proper (k := 32) (by decide) f.sampleRate.toNat_lt.le
    (by decide)

theorem frames_upTo (h : frames ≤ 2 ^ 64) :
    (Number.ofNat frames : Binary64).UpTo (Ieee.Format.binary64.powerAt 64) :=
  .ofNat Ieee.Format.binary64_proper (by decide) h

section Rate

variable (hrate : 0 < f.sampleRate.toNat)
include hrate

theorem units_sampleRate_pos : 0 < (Number.ofNat f.sampleRate.toNat : Binary64).units := by
  rw [units_sampleRate]
  positivity

theorem seconds_upTo (h : frames ≤ 2 ^ 64) :
    (f.seconds frames).UpTo (Ieee.Format.binary64.powerAt 64) :=
  (frames_upTo h).div Ieee.Format.binary64_proper f.sampleRate_upTo
    (Number.two_pow_le_units_ofNat Ieee.Format.binary64_proper hrate)

theorem magnitude_seconds_mono (h : frames ≤ frames') (h' : frames' ≤ 2 ^ 64) :
    (f.seconds frames).magnitude ≤ (f.seconds frames').magnitude := by
  apply Number.magnitude_div_mono Ieee.Format.binary64_proper (frames_upTo (h.trans h')).isFinite
    (frames_upTo h').isFinite f.sampleRate_upTo.isFinite (units_sampleRate_pos hrate)
  exact Number.magnitude_ofNat_mono Ieee.Format.binary64_proper h

/-- Sample frames that fill whole seconds are as many seconds. -/
theorem nearest_wholeSeconds {k : Nat} (h : k * f.sampleRate.toNat < 2 ^ 53) :
    Duration.nearest (f.seconds (k * f.sampleRate.toNat)) = k * nanosPerSecond := by
  have hk : k ≤ 2 ^ 53 := (Nat.le_mul_of_pos_right k hrate).trans h.le
  have hseconds : (Number.ofNat k : Binary64).units =
      k * 2 ^ Ieee.Format.binary64.unitExponent :=
    Number.units_ofNat Ieee.Format.binary64_proper (k := 53) (by decide) hk (by decide)
  have hframes : (Number.ofNat (k * f.sampleRate.toNat) : Binary64).units =
      k * f.sampleRate.toNat * 2 ^ Ieee.Format.binary64.unitExponent :=
    Number.units_ofNat Ieee.Format.binary64_proper (k := 53) (by decide) h.le (by decide)
  have hfinite : (Number.ofNat (k * f.sampleRate.toNat) : Binary64).isFinite :=
    Number.isFinite_ofNat Ieee.Format.binary64_proper (k := 53) (by decide) h.le
  have hbound : (Number.ofNat k : Binary64).magnitude < Ieee.Format.binary64.infinity :=
    of_decide_eq_true (Number.isFinite_ofNat Ieee.Format.binary64_proper (k := 53) (by decide) hk)
  -- The quotient is one that binary64 holds, so it is not rounded.
  have hmag : (f.seconds (k * f.sampleRate.toNat)).magnitude =
      (Number.ofNat k : Binary64).magnitude := by
    apply Number.magnitude_div_eq Ieee.Format.binary64_proper hfinite f.sampleRate_upTo.isFinite
      (units_sampleRate_pos hrate) hbound.le
    rw [← Number.units_eq_unitsAt, hseconds, hframes, units_sampleRate]
    ring
  rw [Duration.nearest_congr hmag, Duration.nearest_of_units hseconds]

/-! ## Lengths in range -/

/-- A division of the frames or by the rate leaves less than two to the 63 seconds. -/
theorem seconds_upTo_half (h : frames ≤ 2 ^ 64) (hhalf : frames ≤ 2 ^ 63 ∨ 2 ≤ f.sampleRate.toNat) :
    (f.seconds frames).UpTo (Ieee.Format.binary64.powerAt 63) := by
  have hF := Ieee.Format.binary64_proper
  have hwhole := seconds_upTo hrate h
  refine ⟨Ieee.Format.powerAt_lt_infinity hF (by decide), ?_, hwhole.eq_zero_of_negative⟩
  apply Number.magnitude_div_le hF (frames_upTo h).isFinite f.sampleRate_upTo.isFinite
    (units_sampleRate_pos hrate)
  rw [Ieee.Format.unitsAt_powerAt hF, units_sampleRate]
  rcases hhalf with hframes | htwo
  · have hunits : (Number.ofNat frames : Binary64).units ≤
        2 ^ 63 * 2 ^ Ieee.Format.binary64.unitExponent := by
      rw [← Ieee.Format.unitsAt_powerAt hF]
      exact (Number.UpTo.ofNat hF (by decide) hframes).units_le hF
    exact Nat.mul_le_mul hunits (Nat.le_mul_of_pos_left _ hrate)
  · have hunits : (Number.ofNat frames : Binary64).units ≤
        2 ^ 64 * 2 ^ Ieee.Format.binary64.unitExponent := by
      rw [← Ieee.Format.unitsAt_powerAt hF]
      exact (frames_upTo h).units_le hF
    calc (Number.ofNat frames : Binary64).units * 2 ^ Ieee.Format.binary64.unitExponent
        ≤ 2 ^ 64 * 2 ^ Ieee.Format.binary64.unitExponent *
          2 ^ Ieee.Format.binary64.unitExponent := Nat.mul_le_mul_right _ hunits
      _ = 2 ^ 63 * 2 ^ Ieee.Format.binary64.unitExponent *
          (2 * 2 ^ Ieee.Format.binary64.unitExponent) := by ring
      _ ≤ 2 ^ 63 * 2 ^ Ieee.Format.binary64.unitExponent *
          (f.sampleRate.toNat * 2 ^ Ieee.Format.binary64.unitExponent) :=
        Nat.mul_le_mul_left _ (Nat.mul_le_mul_right _ htwo)

end Rate

/-! ## One octet a second -/

theorem nearest_seconds_of_one (hrate : f.sampleRate.toNat = 1) (h : frames ≤ 2 ^ 64) :
    Duration.nearest (f.seconds frames) = Duration.nearest (Number.ofNat frames) := by
  apply Duration.nearest_congr
  rw [seconds, hrate]
  exact Number.magnitude_div_one Ieee.Format.binary64_proper (frames_upTo h).isFinite

/-- Up to half of the last place below two to the 64, rounding goes down by a second at least. -/
theorem nearest_ofNat_le (h : frames + 1024 < 2 ^ 64) :
    Duration.nearest (Number.ofNat frames) ≤ (2 ^ 64 - 1) * nanosPerSecond := by
  have hnear := Number.units_ofNat_withinHalf Ieee.Format.binary64_proper (k := 64) (n := frames)
    (by decide) (by omega)
  have hplaces : 64 + Ieee.Format.binary64.unitExponent - Ieee.Format.binary64.precision =
      11 + Ieee.Format.binary64.unitExponent := by decide
  rw [hplaces, Nat.pow_add] at hnear
  have hupper := hnear.upper
  apply Duration.nearest_le
  calc (Number.ofNat frames : Binary64).units
      ≤ (frames + 1024) * 2 ^ Ieee.Format.binary64.unitExponent := by
        rw [Nat.add_mul]
        omega
    _ ≤ (2 ^ 64 - 1) * 2 ^ Ieee.Format.binary64.unitExponent :=
      Nat.mul_le_mul_right _ (by omega)

/-- From there on it goes up to two to the 64. -/
theorem le_nearest_ofNat (h : 2 ^ 64 ≤ frames + 1024) :
    2 ^ 64 * nanosPerSecond ≤ Duration.nearest (Number.ofNat frames) := by
  have hmag := Number.powerAt_le_magnitude_ofNat Ieee.Format.binary64_proper (k := 64) (n := frames)
    (by decide) (by decide) h
  apply Duration.le_nearest
  rw [← Ieee.Format.unitsAt_powerAt Ieee.Format.binary64_proper, Number.units_eq_unitsAt]
  exact Ieee.Format.unitsAt_le_unitsAt Ieee.Format.binary64_proper.precision_pos hmag

/-! ## Playback times -/

theorem bytesPerSampleFrame_eq_one_iff :
    f.bytesPerSampleFrame = 1 ↔ f.channels = 1 ∧ f.sampleWidth = 1 := by
  rw [bytesPerSampleFrame, mul_eq_one, ← UInt16.toNat_inj, ← UInt16.toNat_inj]
  exact and_comm

theorem bytesPerSampleFrame_eq_zero_iff :
    f.bytesPerSampleFrame = 0 ↔ f.channels = 0 ∨ f.sampleWidth = 0 := by
  rw [bytesPerSampleFrame, Nat.mul_eq_zero, ← UInt16.toNat_inj, ← UInt16.toNat_inj]
  exact or_comm

/-- One octet a second. -/
def IsSlowest (f : Format) : Prop :=
  f.channels = 1 ∧ f.sampleWidth = 1 ∧ f.sampleRate = 1

theorem isSlowest_iff : f.IsSlowest ↔ f.bytesPerSampleFrame = 1 ∧ f.sampleRate.toNat = 1 := by
  rw [bytesPerSampleFrame_eq_one_iff, and_assoc, IsSlowest, ← UInt32.toNat_inj]
  rfl

/-- Other formats have fewer sample frames than octets, or more than one in a second. -/
theorem frames_le_or_of_not_isSlowest (hzero : ¬(f.bytesPerSampleFrame = 0 ∨ f.sampleRate = 0))
    (h : ¬f.IsSlowest) (hlength : length < 2 ^ 64) :
    length / f.bytesPerSampleFrame ≤ 2 ^ 63 ∨ 2 ≤ f.sampleRate.toNat := by
  push Not at hzero
  have hrate := sampleRate_pos hzero.2
  rcases Nat.lt_or_ge f.bytesPerSampleFrame 2 with hsmall | hwide
  · have hone : f.bytesPerSampleFrame = 1 := by omega
    have hfast : f.sampleRate.toNat ≠ 1 := fun hrate => h (isSlowest_iff.mpr ⟨hone, hrate⟩)
    exact .inr (by omega)
  · have hhalf : length / f.bytesPerSampleFrame ≤ length / 2 :=
      Nat.div_le_div_left hwide (by decide)
    exact .inl (by omega)

theorem durationOf_of_isSlowest (h : f.IsSlowest) (hlength : length < 2 ^ 64)
    (hlong : 2 ^ 64 ≤ length + 1024) : f.durationOf length = .error .tooLargeOrNaN := by
  rcases isSlowest_iff.mp h with ⟨hone, hrate⟩
  have hnonzero : ¬(f.bytesPerSampleFrame = 0 ∨ f.sampleRate = 0) := by
    rw [hone, h.2.2]
    decide
  rw [durationOf_of_nonzero hnonzero, hone, Nat.div_one]
  apply Duration.ofBinary64_of_ge (seconds_upTo (by omega) hlength.le)
  rw [nearest_seconds_of_one hrate hlength.le]
  exact le_nearest_ofNat hlong

theorem durationOf_of_not_long (hlength : length < 2 ^ 64)
    (hshort : ¬(f.IsSlowest ∧ 2 ^ 64 ≤ length + 1024)) : ∃ d, f.durationOf length = .ok d := by
  by_cases hzero : f.bytesPerSampleFrame = 0 ∨ f.sampleRate = 0
  · exact ⟨_, durationOf_of_zero hzero length⟩
  have hrate := sampleRate_pos fun h => hzero (.inr h)
  have hframes : length / f.bytesPerSampleFrame ≤ 2 ^ 64 :=
    (Nat.div_le_self _ _).trans hlength.le
  rw [durationOf_of_nonzero hzero]
  by_cases hslowest : f.IsSlowest
  · rcases isSlowest_iff.mp hslowest with ⟨hone, hrateOne⟩
    have hlength : length + 1024 < 2 ^ 64 := Nat.lt_of_not_ge fun hlong => hshort ⟨hslowest, hlong⟩
    have hnear : Duration.nearest (f.seconds (length / f.bytesPerSampleFrame)) ≤
        (2 ^ 64 - 1) * nanosPerSecond := by
      rw [nearest_seconds_of_one hrateOne hframes, hone, Nat.div_one]
      exact nearest_ofNat_le hlength
    have hsize : (2 ^ 64 - 1) * nanosPerSecond < UInt64.size * nanosPerSecond := by decide
    exact ⟨_, Duration.ofBinary64_of_lt (seconds_upTo hrate hframes) rfl (hnear.trans_lt hsize)⟩
  · have hhalf := frames_le_or_of_not_isSlowest hzero hslowest hlength
    rcases Duration.ofBinary64_of_upTo (by decide) (seconds_upTo_half hrate hframes hhalf) with
      ⟨d, hd, -⟩
    exact ⟨d, hd⟩

theorem durationOf_eq_error_iff {e : Duration.ConversionError} (hlength : length < 2 ^ 64) :
    f.durationOf length = .error e ↔
      e = .tooLargeOrNaN ∧ f.IsSlowest ∧ 2 ^ 64 ≤ length + 1024 := by
  constructor
  · intro he
    have hlong : f.IsSlowest ∧ 2 ^ 64 ≤ length + 1024 := by
      by_contra hshort
      rcases durationOf_of_not_long hlength hshort with ⟨d, hd⟩
      rw [hd] at he
      cases he
    rw [durationOf_of_isSlowest hlong.1 hlength hlong.2] at he
    cases he
    exact ⟨rfl, hlong⟩
  · rintro ⟨rfl, hslowest, hlong⟩
    exact durationOf_of_isSlowest hslowest hlength hlong

theorem durationOf_mono {d d' : Duration} (h : length ≤ length') (hlength : length' < 2 ^ 64)
    (hd : f.durationOf length = .ok d) (hd' : f.durationOf length' = .ok d') :
    d.nanoseconds ≤ d'.nanoseconds := by
  by_cases hzero : f.bytesPerSampleFrame = 0 ∨ f.sampleRate = 0
  · rw [durationOf_of_zero hzero] at hd
    cases hd
    exact Nat.zero_le _
  have hrate := sampleRate_pos fun h => hzero (.inr h)
  have hframes : length / f.bytesPerSampleFrame ≤ length' / f.bytesPerSampleFrame :=
    Nat.div_le_div_right h
  have hlong : length' / f.bytesPerSampleFrame ≤ 2 ^ 64 :=
    (Nat.div_le_self _ _).trans hlength.le
  rw [durationOf_of_nonzero hzero] at hd hd'
  rw [Duration.nanoseconds_of_ok (seconds_upTo hrate (hframes.trans hlong)) hd,
    Duration.nanoseconds_of_ok (seconds_upTo hrate hlong) hd']
  exact Duration.nearest_mono (magnitude_seconds_mono hrate hframes hlong)

/-- The octets behind the last whole sample frame have no playback time. -/
theorem durationOf_add_partial {rest : Nat} (h : rest < f.bytesPerSampleFrame) :
    f.durationOf (frames * f.bytesPerSampleFrame + rest) =
      f.durationOf (frames * f.bytesPerSampleFrame) := by
  have hpos : 0 < f.bytesPerSampleFrame := Nat.zero_lt_of_lt h
  have hframes : (frames * f.bytesPerSampleFrame + rest) / f.bytesPerSampleFrame = frames := by
    rw [Nat.add_comm, Nat.add_mul_div_right _ _ hpos, Nat.div_eq_of_lt h, Nat.zero_add]
  rw [durationOf, durationOf, hframes, Nat.mul_div_cancel _ hpos]

theorem durationOf_wholeSeconds {k : Nat} (hchannels : f.channels ≠ 0) (hwidth : f.sampleWidth ≠ 0)
    (hrate : f.sampleRate ≠ 0) (h : k * f.sampleRate.toNat < 2 ^ 53) :
    ∃ d, f.durationOf (k * f.sampleRate.toNat * f.bytesPerSampleFrame) = .ok d ∧
      d.nanoseconds = k * nanosPerSecond := by
  have hbytes := bytesPerSampleFrame_pos hchannels hwidth
  have hpos := sampleRate_pos hrate
  have hnonzero : ¬(f.bytesPerSampleFrame = 0 ∨ f.sampleRate = 0) := by
    rintro (hzero | hzero)
    · exact hbytes.ne' hzero
    · exact hrate hzero
  have hseconds : k < UInt64.size := calc
    k ≤ k * f.sampleRate.toNat := Nat.le_mul_of_pos_right k hpos
    _ < 2 ^ 53 := h
    _ ≤ UInt64.size := by decide
  have hsize : k * nanosPerSecond < UInt64.size * nanosPerSecond :=
    Nat.mul_lt_mul_of_pos_right hseconds (by decide)
  have hframes : k * f.sampleRate.toNat ≤ 2 ^ 64 := h.le.trans (by decide)
  refine ⟨⟨k * nanosPerSecond, hsize⟩, ?_, rfl⟩
  rw [durationOf_of_nonzero hnonzero, Nat.mul_div_cancel _ hbytes]
  exact Duration.ofBinary64_of_lt (seconds_upTo hpos hframes) (nearest_wholeSeconds hpos h) hsize

/-- The playback time of a 64-bit length. It fails only with one octet a second, and there from
1024 octets below two to the 64; buffers below two to the 63 octets have one in every format. It is
zero if a field is, grows with the length, ignores a partial sample frame at the end, and is exact
for whole seconds of fewer than two to the 53 sample frames. -/
theorem durationOf_playback (f : Format) (length : UInt64) :
    (length.toNat < 2 ^ 63 → ∃ d, f.durationOf length.toNat = .ok d) ∧
    (∀ e, f.durationOf length.toNat = .error e ↔
      e = .tooLargeOrNaN ∧ (f.channels = 1 ∧ f.sampleWidth = 1 ∧ f.sampleRate = 1) ∧
        2 ^ 64 - 1024 ≤ length.toNat) ∧
    (f.channels = 0 ∨ f.sampleWidth = 0 ∨ f.sampleRate = 0 →
      f.durationOf length.toNat = .ok .zero) ∧
    (∀ (length' : UInt64) (d d' : Duration), length ≤ length' →
      f.durationOf length.toNat = .ok d → f.durationOf length'.toNat = .ok d' →
        d.nanoseconds ≤ d'.nanoseconds) ∧
    (∀ frames rest, length.toNat = frames * f.bytesPerSampleFrame + rest →
      rest < f.bytesPerSampleFrame →
        f.durationOf length.toNat = f.durationOf (frames * f.bytesPerSampleFrame)) ∧
    ∀ k, length.toNat = k * f.sampleRate.toNat * f.bytesPerSampleFrame →
      k * f.sampleRate.toNat < 2 ^ 53 →
      f.channels ≠ 0 → f.sampleWidth ≠ 0 → f.sampleRate ≠ 0 →
        ∃ d, f.durationOf length.toNat = .ok d ∧ d.nanoseconds = k * nanosPerSecond := by
  have hlength : length.toNat < 2 ^ 64 := length.toNat_lt
  refine ⟨durationOf_of_lt f, ?_, ?_, ?_, ?_, ?_⟩
  · intro e
    have hlong : 2 ^ 64 ≤ length.toNat + 1024 ↔ 2 ^ 64 - 1024 ≤ length.toNat := by omega
    rw [durationOf_eq_error_iff hlength, hlong]
    rfl
  · intro hzero
    apply durationOf_of_zero
    rwa [bytesPerSampleFrame_eq_zero_iff, or_assoc]
  · intro length' d d' h hd hd'
    exact durationOf_mono (UInt64.le_iff_toNat_le.mp h) length'.toNat_lt hd hd'
  · intro frames rest h hrest
    rw [h]
    exact durationOf_add_partial hrest
  · intro k h hframes hchannels hwidth hrate
    rw [h]
    exact durationOf_wholeSeconds hchannels hwidth hrate hframes

/-- The last length with a playback time at one octet a second, and the first without. -/
theorem durationOf_playback_slowest :
    (∃ d, (⟨1, 1, 1⟩ : Format).durationOf 18446744073709550591 = .ok d) ∧
      (⟨1, 1, 1⟩ : Format).durationOf 18446744073709550592 = .error .tooLargeOrNaN := by
  have hlast := (durationOf_playback ⟨1, 1, 1⟩ 18446744073709550591).2.1
  have hfirst := (durationOf_playback ⟨1, 1, 1⟩ 18446744073709550592).2.1
  constructor
  · rcases hresult : (⟨1, 1, 1⟩ : Format).durationOf 18446744073709550591 with e | d
    · exact absurd ((hlast e).mp hresult).2.2 (by decide)
    · exact ⟨d, rfl⟩
  · exact (hfirst .tooLargeOrNaN).mpr ⟨rfl, ⟨rfl, rfl, rfl⟩, by decide⟩

end Format
end Pcm
end PacedRtp
