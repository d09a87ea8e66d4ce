import Mathlib
import PacedRtp.Proofs.Duration
import PacedRtp.Proofs.Ieee.Value
import PacedRtp.Proofs.Sender.Settings

/-!
# Pauses keep pace

Checked settings have a pause of a frame's duration at most. The duration of a frame is first a
binary64 count of seconds, which lies less than half a nanosecond from the milliseconds, if only
just so for the longest frames; so a bias of one gives back the milliseconds exactly, and a smaller
bias cannot give more.
-/

namespace PacedRtp
namespace Sender

open Ieee

namespace Config

/-! ## The seconds of a frame -/

/-- The duration of a frame in seconds, before the bias. -/
def frameSeconds (c : Config) : Binary64 :=
  Number.ofNat c.frameMs.toNat / Number.ofNat 1000

section Frame

variable (c : Config)

theorem frameMs_upTo :
    (Number.ofNat c.frameMs.toNat : Binary64).UpTo (Format.binary64.powerAt 32) :=
  .ofNat Format.binary64_proper (by decide) c.frameMs.toNat_lt.le

theorem units_frameMs : (Number.ofNat c.frameMs.toNat : Binary64).units =
    c.frameMs.toNat * 2 ^ Format.binary64.unitExponent :=
  Number.units_ofNat Format.binary64_proper (k := 32) (by decide) c.frameMs.toNat_lt.le (by decide)

theorem thousand_upTo : (Number.ofNat 1000 : Binary64).UpTo (Format.binary64.powerAt 32) :=
  .ofNat Format.binary64_proper (by decide) (by decide)

theorem units_thousand : (Number.ofNat 1000 : Binary64).units =
    1000 * 2 ^ Format.binary64.unitExponent :=
  Number.units_ofNat Format.binary64_proper (k := 32) (by decide) (by decide) (by decide)

theorem frameSeconds_upTo : c.frameSeconds.UpTo (Format.binary64.powerAt 32) :=
  c.frameMs_upTo.div Format.binary64_proper thousand_upTo
    (Number.two_pow_le_units_ofNat Format.binary64_proper (by decide))

/-- The seconds of a frame are below two to the 23, so the last place is a 2 to the 30th part of a
second. -/
theorem frameSeconds_withinHalf :
    WithinHalf c.frameSeconds.units (c.frameMs.toNat * 2 ^ Format.binary64.unitExponent) 1000
      (2 ^ (Format.binary64.unitExponent - 30)) := by
  have hms : c.frameMs.toNat < 2 ^ 32 := c.frameMs.toNat_lt
  have hpos : 0 < (Number.ofNat 1000 : Binary64).units := by
    rw [units_thousand]
    positivity
  have hplaces : 23 + Format.binary64.unitExponent - Format.binary64.precision =
      Format.binary64.unitExponent - 30 := by decide
  have hbound :
      c.frameMs.toNat * 2 ^ Format.binary64.unitExponent * 2 ^ Format.binary64.unitExponent <
        2 ^ (23 + Format.binary64.unitExponent) * (1000 * 2 ^ Format.binary64.unitExponent) := by
    calc c.frameMs.toNat * 2 ^ Format.binary64.unitExponent * 2 ^ Format.binary64.unitExponent
        < 2 ^ 23 * 1000 * 2 ^ Format.binary64.unitExponent * 2 ^ Format.binary64.unitExponent := by
          apply Nat.mul_lt_mul_of_pos_right _ (by positivity)
          apply Nat.mul_lt_mul_of_pos_right _ (by positivity)
          omega
      _ = 2 ^ (23 + Format.binary64.unitExponent) *
          (1000 * 2 ^ Format.binary64.unitExponent) := by
        rw [Nat.pow_add]
        ring
  have hnear := Number.units_div_withinHalf Format.binary64_proper
    (k := 23 + Format.binary64.unitExponent) c.frameMs_upTo.isFinite thousand_upTo.isFinite hpos
    c.frameSeconds_upTo.isFinite
  rw [units_frameMs, units_thousand, hplaces] at hnear
  exact (hnear hbound).cancel (by positivity)

/-- Half of that place is less than half a nanosecond. -/
theorem nearest_frameSeconds : Duration.nearest c.frameSeconds = c.frameMs.toNat * 1000000 := by
  have hnear := c.frameSeconds_withinHalf
  have hunit : 2 ^ Format.binary64.unitExponent =
      1073741824 * 2 ^ (Format.binary64.unitExponent - 30) := by
    have hsplit : Format.binary64.unitExponent = 30 + (Format.binary64.unitExponent - 30) := by
      decide
    conv_lhs => rw [hsplit, Nat.pow_add]
  have hplace : 0 < 2 ^ (Format.binary64.unitExponent - 30) := by positivity
  rw [Duration.nearest, nanosPerSecond]
  rcases hnear with ⟨hupper, hlower⟩
  have hmillis : c.frameMs.toNat * 1000000 * 2 ^ Format.binary64.unitExponent =
      1000000 * (c.frameMs.toNat * 2 ^ Format.binary64.unitExponent) := by ring
  apply roundDiv_eq_of_lt (by positivity) <;> rw [hmillis] <;> omega

end Frame

/-! ## The bias -/

/-- A value from zero to one. -/
structure BiasInRange (c : Config) : Prop where
  finite : c.pacingBias.isFinite
  nonneg : 0 ≤ c.pacingBias.toRat
  le_one : c.pacingBias.toRat ≤ 1

section Bias

variable {c c' : Config} {d d' : Duration}

theorem one_upTo : (Number.ofNat 1 : Binary64).UpTo (Format.binary64.powerAt 0) :=
  .ofNat Format.binary64_proper (by decide) le_rfl

theorem biasInRange_iff : c.BiasInRange ↔
    (Number.zero false).le c.pacingBias ∧ c.pacingBias.le (Number.ofNat 1) := by
  have hzero : (Number.zero false : Binary64).isNaN = false := by decide
  have hone : (Number.ofNat 1 : Binary64).isNaN = false := Number.not_isNaN one_upTo.isFinite
  have htoRat : (Number.ofNat 1 : Binary64).toRat = 1 := Number.toRat_one Format.binary64_proper
  constructor
  · rintro ⟨hfinite, hnonneg, hle⟩
    have hnan := Number.not_isNaN hfinite
    rw [Number.le_iff_toRat_le Format.binary64_proper hzero hnan,
      Number.le_iff_toRat_le Format.binary64_proper hnan hone, Number.toRat_zero, htoRat]
    exact ⟨hnonneg, hle⟩
  · rintro ⟨hlow, hhigh⟩
    have hfinite := (Number.UpTo.of_le one_upTo hlow hhigh).isFinite
    have hnan := Number.not_isNaN hfinite
    rw [Number.le_iff_toRat_le Format.binary64_proper hzero hnan, Number.toRat_zero] at hlow
    rw [Number.le_iff_toRat_le Format.binary64_proper hnan hone, htoRat] at hhigh
    exact ⟨hfinite, hlow, hhigh⟩

theorem check_eq_ok_iff : c.check = .ok () ↔
    c.frameMs ≠ 0 ∧ c.BiasInRange ∧ c.payloadType ≤ largestPayloadType ∧
      c.rendezvousTimeout.isZero = false := by
  constructor
  · intro h
    have hchecked := checked_of_check h
    exact ⟨hchecked.frameMs_ne, biasInRange_iff.mpr ⟨hchecked.bias_nonneg, hchecked.bias_le_one⟩,
      hchecked.payloadType_le, hchecked.timeout_ne⟩
  · rintro ⟨hms, hbias, htype, htimeout⟩
    have hbias := biasInRange_iff.mp hbias
    unfold check
    rw [if_neg hms, if_neg (by simp [hbias]), if_neg (UInt8.not_lt.mpr htype),
      if_neg (by simp [htimeout])]

/-- The bias is looked at right after the frame duration. -/
theorem check_of_not_biasInRange (hms : c.frameMs ≠ 0) (h : ¬c.BiasInRange) :
    c.check = .error (.pacingBias c.pacingBias) := by
  have hbias : (!((Number.zero false).le c.pacingBias && c.pacingBias.le (Number.ofNat 1))) =
      true := by
    rw [biasInRange_iff, ← Bool.and_eq_true, Bool.not_eq_true] at h
    rw [h, Bool.not_false]
  unfold check
  rw [if_neg hms, if_pos hbias]

theorem bias_upTo (h : c.check = .ok ()) : c.pacingBias.UpTo (Format.binary64.powerAt 0) :=
  .of_le one_upTo (checked_of_check h).bias_nonneg (checked_of_check h).bias_le_one

theorem pacingSeconds_upTo (h : c.check = .ok ()) :
    c.pacingSeconds.UpTo (Format.binary64.powerAt 32) :=
  c.frameSeconds_upTo.mul Format.binary64_proper (bias_upTo h)

/-! ## The pause -/

theorem nanoseconds_of_pacingInterval (h : c.check = .ok ()) (hd : c.pacingInterval = .ok d) :
    d.nanoseconds = Duration.nearest c.pacingSeconds :=
  Duration.nanoseconds_of_ok (pacingSeconds_upTo h) hd

theorem pacingInterval_of_one (h : c.check = .ok ()) (hd : c.pacingInterval = .ok d)
    (hbias : c.pacingBias = .ofNat 1) : d.nanoseconds = c.frameMs.toNat * 1000000 := by
  have hseconds : c.pacingSeconds = c.frameSeconds * .ofNat 1 := by
    rw [← hbias]
    rfl
  have hmag := Number.magnitude_mul_one Format.binary64_proper c.frameSeconds_upTo.isFinite
  rw [nanoseconds_of_pacingInterval h hd, hseconds, Duration.nearest_congr hmag,
    nearest_frameSeconds]

theorem pacingInterval_of_zero (h : c.check = .ok ()) (hd : c.pacingInterval = .ok d)
    {negative : Bool} (hbias : c.pacingBias = .zero negative) : d = .zero := by
  have hmag : c.pacingBias.magnitude = 0 := by
    rw [hbias]
    exact Nat.zero_min _
  have hseconds : c.pacingSeconds.magnitude = 0 := by
    apply Nat.le_zero.mp
    apply Number.magnitude_mul_le Format.binary64_proper c.frameSeconds_upTo.isFinite
      (bias_upTo h).isFinite
    rw [Number.units_zero hmag, Nat.mul_zero]
    exact Nat.zero_le _
  have hnanos := nanoseconds_of_pacingInterval h hd
  rw [Duration.nearest_of_zero hseconds] at hnanos
  cases d
  subst hnanos
  rfl

theorem pacingInterval_mono (h : c.check = .ok ()) (h' : c'.check = .ok ())
    (hms : c.frameMs = c'.frameMs) (hd : c.pacingInterval = .ok d)
    (hd' : c'.pacingInterval = .ok d') (hbias : c.pacingBias.toRat ≤ c'.pacingBias.toRat) :
    d.nanoseconds ≤ d'.nanoseconds := by
  have hframe : c.frameSeconds = c'.frameSeconds := by rw [frameSeconds, frameSeconds, hms]
  have hmag : c.pacingBias.magnitude ≤ c'.pacingBias.magnitude := by
    have hrank := (Number.rank_le_iff Format.binary64_proper).mpr hbias
    have hlow := (bias_upTo h).rank_nonneg
    rw [← Number.natAbs_rank, ← Number.natAbs_rank]
    omega
  rw [nanoseconds_of_pacingInterval h hd, nanoseconds_of_pacingInterval h' hd']
  apply Duration.nearest_mono
  change (c.frameSeconds * c.pacingBias).magnitude ≤ (c'.frameSeconds * c'.pacingBias).magnitude
  rw [hframe]
  exact Number.magnitude_mul_mono_right Format.binary64_proper (bias_upTo h).isFinite
    (bias_upTo h').isFinite c'.frameSeconds_upTo.isFinite hmag

/-- No bias makes the pause longer than a bias of one. -/
theorem pacingInterval_le (h : c.check = .ok ()) (hd : c.pacingInterval = .ok d) :
    d.nanoseconds ≤ c.frameMs.toNat * 1000000 := by
  let unbiased : Config := { c with pacingBias := .ofNat 1 }
  have htoRat : unbiased.pacingBias.toRat = 1 := Number.toRat_one Format.binary64_proper
  rcases check_eq_ok_iff.mp h with ⟨hms, hbias, htype, htimeout⟩
  have hone : unbiased.BiasInRange := by
    refine ⟨one_upTo.isFinite, ?_, ?_⟩
    · exact zero_le_one.trans htoRat.ge
    · exact htoRat.le
  have hcheck : unbiased.check = .ok () := check_eq_ok_iff.mpr ⟨hms, hone, htype, htimeout⟩
  have hle : c.pacingBias.toRat ≤ unbiased.pacingBias.toRat := hbias.le_one.trans htoRat.ge
  rcases pacingInterval_of_check hcheck with ⟨d', hd'⟩
  calc d.nanoseconds ≤ d'.nanoseconds := pacingInterval_mono h hcheck rfl hd hd' hle
    _ = unbiased.frameMs.toNat * 1000000 := pacingInterval_of_one hcheck hd' rfl

end Bias

end Config

/-! ## Checked settings -/

theorem mem_pauses {σ : Type} {interval pause : Duration} {calls : List (Call σ)} {log : List Event}
    {acts : List (Act σ)} (h : Acts interval calls log acts)
    (hpause : pause ∈ acts.filterMap Act.pause?) : pause = interval := by
  rw [h.pauses_eq, List.mem_flatten] at hpause
  rcases hpause with ⟨lengths, hlengths, hmem⟩
  rw [List.eq_of_mem_replicate hlengths, pauses] at hmem
  split_ifs at hmem
  · cases hmem
  · exact List.mem_singleton.mp hmem

/-- The check lets a bias pass if it is a value from zero to one, and neither a larger nor a smaller
value, nor an infinity, nor NaN. Settings that pass have a pause, so a run starts; it is a frame's
duration at a bias of one, nothing at a zero of either sign, grows with the bias, and is never
longer than the frame. -/
theorem pacing_within_frame (c : Config) :
    (c.check = .ok () ↔
      c.frameMs ≠ 0 ∧
        (c.pacingBias.isFinite ∧ 0 ≤ c.pacingBias.toRat ∧ c.pacingBias.toRat ≤ 1) ∧
        c.payloadType ≤ 127 ∧ c.rendezvousTimeout.isZero = false) ∧
    (c.pacingBias.isNaN ∨ c.pacingBias.isInfinite ∨ c.pacingBias.toRat < 0 ∨
        1 < c.pacingBias.toRat → c.frameMs ≠ 0 →
      c.check = .error (.pacingBias c.pacingBias)) ∧
    (c.check = .ok () → ∃ d, c.pacingInterval = .ok d ∧
      d.nanoseconds ≤ c.frameMs.toNat * 1000000 ∧
      (c.pacingBias = .ofNat 1 → d.nanoseconds = c.frameMs.toNat * 1000000) ∧
      (∀ negative, c.pacingBias = .zero negative → d = .zero) ∧
      (∀ (c' : Config) (d' : Duration), c'.check = .ok () → c.frameMs = c'.frameMs →
        c'.pacingInterval = .ok d' → c.pacingBias.toRat ≤ c'.pacingBias.toRat →
          d.nanoseconds ≤ d'.nanoseconds) ∧
      ∀ s : Sender, s.config = c → ∀ (σ : Type) (sink : Sink σ) frames n state, ∃ acts,
        s.pacedRun sink frames n state = .ok (s.run sink frames n state, acts) ∧
        ∀ pause ∈ acts.filterMap Act.pause?, pause = d) := by
  have hrange : (c.pacingBias.isFinite ∧ 0 ≤ c.pacingBias.toRat ∧ c.pacingBias.toRat ≤ 1) ↔
      c.BiasInRange :=
    ⟨fun ⟨hfinite, hlow, hhigh⟩ => ⟨hfinite, hlow, hhigh⟩,
      fun h => ⟨h.finite, h.nonneg, h.le_one⟩⟩
  refine ⟨?_, ?_, ?_⟩
  · rw [hrange]
    exact Config.check_eq_ok_iff
  · intro hbias hms
    apply Config.check_of_not_biasInRange hms
    rintro ⟨hfinite, hnonneg, hle⟩
    rcases hbias with hnan | hinfinite | hlow | hhigh
    · exact absurd hnan (by simp [Number.not_isNaN hfinite])
    · exact absurd hinfinite (by simp [Number.not_isInfinite hfinite])
    · exact absurd hlow (not_lt.mpr hnonneg)
    · exact absurd hhigh (not_lt.mpr hle)
  · intro h
    rcases Config.pacingInterval_of_check h with ⟨d, hd⟩
    refine ⟨d, hd, Config.pacingInterval_le h hd, Config.pacingInterval_of_one h hd,
      fun negative => Config.pacingInterval_of_zero h hd,
      fun c' d' h' hms hd' => Config.pacingInterval_mono h h' hms hd hd', ?_⟩
    intro s hs σ sink frames n state
    rcases s.pacedRun_eq sink frames n state with ⟨interval, acts, hinterval, hrun, hacts⟩
    rw [hs, hd] at hinterval
    cases hinterval
    exact ⟨acts, hrun, fun pause hpause => mem_pauses hacts hpause⟩

/-- The longest frames, where half of the last place of their seconds is only just less than half a
nanosecond. -/
def longestFrames : Config :=
  { frameMs := 4294967295, pacingBias := .ofNat 1 }

theorem pacing_within_frame_longest :
    ∃ d, longestFrames.pacingInterval = .ok d ∧ d.nanoseconds = 4294967295000000 := by
  rcases (pacing_within_frame longestFrames).2.2 (by decide +kernel) with ⟨d, hd, -, hone, -⟩
  exact ⟨d, hd, hone rfl⟩

end Sender
end PacedRtp
