import Mathlib
import PacedRtp.Proofs.Ieee.Clamping
import PacedRtp.Proofs.Audio.Pieces
import PacedRtp.Proofs.Audio.Resampling

/-!
# Faithful quantisation

Every sample becomes two octets, which read as a level between minus and plus full scale. The level
of a sample lies less than one from the clamped sample times full scale, although the product is
rounded before its fraction is dropped: rounding never passes an integer that the format can hold.
Levels keep the order of the samples, and the negative sample has the negative level.
-/

namespace PacedRtp

/-! ## Octets in file order -/

namespace Octets

theorem ofLittleEndian_littleEndian (w n : Nat) :
    ofLittleEndian (littleEndian w n) = n % 256 ^ w := by
  induction w generalizing n with
  | zero => rw [Nat.pow_zero, Nat.mod_one, littleEndian, ofLittleEndian]
  | succ w ih =>
    rw [littleEndian, ofLittleEndian, ih, pow_succ', Nat.mod_mul, UInt8.toNat_ofNat']

end Octets

namespace Audio

open Ieee

/-! ## Levels -/

/-- The signed number in the two octets of one sample. -/
def level (octets : List UInt8) (i : Nat) : Int :=
  Octets.signed 16 (Octets.ofLittleEndian (chunkAt 2 octets i))

theorem signed_linear16 {v : Int} (h : |v| ≤ fullScale) :
    Octets.signed 16 (Octets.ofLittleEndian (linear16 v)) = v := by
  rw [fullScale, abs_le] at h
  have hword : (v % UInt16.size).toNat < 256 ^ 2 := by
    rw [UInt16.size]
    omega
  have hnat : ((v % UInt16.size).toNat : Int) = v % 65536 := by
    rw [UInt16.size]
    omega
  rw [linear16, Octets.ofLittleEndian_littleEndian, Nat.mod_eq_of_lt hword, Octets.signed, hnat,
    Nat.one_shiftLeft, Int.bmod_def]
  split_ifs <;> omega

theorem chunkAt_toLinear16 {samples : List Sample} {i : Nat} (hi : i < samples.length) :
    chunkAt 2 (toLinear16 samples) i = linear16 (quantize samples[i]) := by
  have hpairs : ∀ pair ∈ samples.map fun s => linear16 (quantize s), pair.length = 2 := by
    intro pair hpair
    rcases List.mem_map.mp hpair with ⟨s, -, rfl⟩
    exact Octets.length_littleEndian 2 _
  have hchunks := chunks_flatten hpairs []
  rw [List.length_map, List.append_nil] at hchunks
  have hget := getElem?_chunks (n := 2) hi (toLinear16 samples)
  rw [toLinear16, List.flatMap_def, hchunks, List.getElem?_map, List.getElem?_eq_getElem hi] at hget
  exact (Option.some.inj hget).symm

/-! ## Samples within the scale -/

theorem binary32_proper : Format.binary32.Proper := ⟨by decide, by decide⟩

/-- The full deflection of a sample. -/
abbrev full : Sample := Number.ofNat 1

/-- The sample between minus and plus one. -/
def clipped (s : Sample) : Sample :=
  Number.clamp (-full) full s

theorem full_upTo : full.UpTo (Format.binary32.powerAt 0) :=
  .ofNat binary32_proper (by decide) le_rfl

theorem isNaN_full : full.isNaN = false :=
  Number.not_isNaN full_upTo.isFinite

theorem isNaN_neg_full : (-full).isNaN = false :=
  isNaN_full

theorem toRat_full : full.toRat = 1 :=
  Number.toRat_one binary32_proper

theorem rank_neg_full_le : (-full).rank ≤ full.rank := by
  have hfull : 0 ≤ full.rank := full_upTo.rank_nonneg
  rw [Number.rank_neg]
  omega

section Clipped

variable {s t : Sample}

theorem rank_clipped (hs : s.isNaN = false) :
    (clipped s).rank = max (-full.rank) (min full.rank s.rank) := by
  rw [clipped, Number.rank_clamp isNaN_neg_full isNaN_full hs rank_neg_full_le, Number.rank_neg]

theorem toRat_clipped (hs : s.isNaN = false) :
    (clipped s).toRat = max (-1) (min 1 s.toRat) := by
  have hneg : (-full).toRat = -1 := by rw [Number.toRat_neg, toRat_full]
  have hle : (-full).toRat ≤ full.toRat := by
    rw [hneg, toRat_full]
    norm_num
  rw [clipped, Number.toRat_clamp binary32_proper isNaN_neg_full isNaN_full hs hle, hneg,
    toRat_full]

theorem clipped_neg (s : Sample) : clipped (-s) = -clipped s := by
  have hclamp := Number.clamp_neg_neg (x := s) rank_neg_full_le
  rwa [Number.neg_neg] at hclamp

theorem magnitude_clipped_le (hs : s.isNaN = false) : (clipped s).magnitude ≤ full.magnitude := by
  have hfull : 0 ≤ full.rank := full_upTo.rank_nonneg
  have hrank := rank_clipped hs
  rw [← Number.natAbs_rank, ← Number.natAbs_rank]
  omega

theorem isFinite_clipped (hs : s.isNaN = false) : (clipped s).isFinite :=
  decide_eq_true ((magnitude_clipped_le hs).trans_lt (of_decide_eq_true full_upTo.isFinite))

end Clipped

/-! ## Quantised samples -/

/-- The factor of the scale. -/
abbrev scale : Sample := Number.ofNat fullScale

theorem isFinite_scale : scale.isFinite :=
  Number.isFinite_ofNat binary32_proper (k := 15) (by decide) (by decide)

theorem toRat_scale : scale.toRat = 32767 := by
  have hscale := Number.toRat_ofNat binary32_proper (k := 15) (n := fullScale) (by decide)
    (by decide) (by decide)
  exact_mod_cast hscale

theorem floorAbs_scale : scale.floorAbs = fullScale :=
  Number.floorAbs_ofNat binary32_proper (k := 15) (by decide) (by decide) (by decide)

section Quantize

variable {s t : Sample}

/-- Scaling a clipped sample stays within the scale. -/
theorem magnitude_scaled_le (hs : s.isNaN = false) :
    (clipped s * scale).magnitude ≤ scale.magnitude := by
  apply Number.magnitude_mul_le binary32_proper (isFinite_clipped hs) isFinite_scale
  have hunits : (clipped s).units ≤ 2 ^ Format.binary32.unitExponent := by
    rw [← Number.units_one binary32_proper]
    exact Number.units_mono binary32_proper (magnitude_clipped_le hs)
  rw [← Number.units_eq_unitsAt, Nat.mul_comm]
  exact Nat.mul_le_mul_left _ hunits

theorem quantize_eq (s : Sample) :
    quantize s =
      if (clipped s * scale).isNaN then 0 else (clipped s * scale).truncate :=
  rfl

theorem quantize_of_not_isNaN (hs : s.isNaN = false) :
    quantize s = (clipped s * scale).truncate := by
  have hfinite : (clipped s * scale).isFinite :=
    decide_eq_true ((magnitude_scaled_le hs).trans_lt (of_decide_eq_true isFinite_scale))
  rw [quantize_eq, Number.not_isNaN hfinite, if_neg Bool.false_ne_true]

theorem quantize_of_isNaN (hs : s.isNaN) : quantize s = 0 := by
  have hclipped : clipped s = s := Number.clamp_of_isNaN hs
  have hproduct : (clipped s * scale).isNaN := by
    have hnan : (Number.nan : Sample).isNaN := by decide
    rw [hclipped]
    change (Number.mul s scale).isNaN
    simp [Number.mul, hs, hnan]
  rw [quantize_eq, if_pos hproduct]

/-- The quantised sample lies less than one from the scaled one. -/
theorem abs_quantize_sub_lt (hs : s.isNaN = false) :
    |(quantize s : ℚ) - 32767 * max (-1) (min 1 s.toRat)| < 1 := by
  have hfloor : (clipped s * scale).floorAbs < 2 ^ 15 := by
    have hle := Number.floorAbs_mono binary32_proper (magnitude_scaled_le hs)
    rw [floorAbs_scale] at hle
    exact hle.trans_lt (by decide)
  have hnear := Number.abs_truncate_mul_sub_lt binary32_proper (k := 15) (by decide) (by decide)
    (isFinite_clipped hs) isFinite_scale rfl hfloor
  rwa [← quantize_of_not_isNaN hs, toRat_clipped hs, toRat_scale, mul_comm] at hnear

theorem quantize_neg (s : Sample) : quantize (-s) = -quantize s := by
  have hnan : (-s).isNaN = s.isNaN := rfl
  cases hs : s.isNaN with
  | true => rw [quantize_of_isNaN hs, quantize_of_isNaN (hnan.trans hs), Int.neg_zero]
  | false =>
    rw [quantize_of_not_isNaN hs, quantize_of_not_isNaN (hnan.trans hs), clipped_neg,
      Number.neg_mul (isFinite_clipped hs) isFinite_scale, Number.truncate_neg]

theorem quantize_mono (h : s.le t) : quantize s ≤ quantize t := by
  simp only [Number.le, Bool.and_eq_true, Bool.not_eq_true', decide_eq_true_eq] at h
  rcases h with ⟨⟨hs, ht⟩, hrank⟩
  have hclipped : (clipped s).rank ≤ (clipped t).rank := by
    rw [rank_clipped hs, rank_clipped ht]
    omega
  rw [quantize_of_not_isNaN hs, quantize_of_not_isNaN ht]
  apply Number.truncate_mono binary32_proper
  exact Number.rank_mul_mono binary32_proper (isFinite_clipped hs) (isFinite_clipped ht)
    isFinite_scale rfl hclipped

/-- At full deflection nothing is left between the bounds but full scale. -/
theorem quantize_of_le (h : full.le s) : quantize s = 32767 := by
  have hs : s.isNaN = false := by
    simp only [Number.le, Bool.and_eq_true, Bool.not_eq_true'] at h
    exact h.1.2
  have hone : 1 ≤ s.toRat := by
    rw [← toRat_full]
    exact (Number.le_iff_toRat_le binary32_proper isNaN_full hs).mp h
  have hnear := abs_quantize_sub_lt hs
  rw [min_eq_left hone, max_eq_right (by norm_num), mul_one] at hnear
  have hint : |quantize s - 32767| < 1 := by exact_mod_cast hnear
  rw [abs_lt] at hint
  omega

theorem quantize_of_ge (h : s.le (-full)) : quantize s = -32767 := by
  have hneg : full.le (-s) := by
    simp only [Number.le, Bool.and_eq_true, Bool.not_eq_true', decide_eq_true_eq] at h ⊢
    rcases h with ⟨⟨hs, -⟩, hrank⟩
    refine ⟨⟨isNaN_full, hs⟩, ?_⟩
    rw [Number.rank_neg] at hrank ⊢
    omega
  have hquantize := quantize_of_le hneg
  rw [quantize_neg] at hquantize
  omega

theorem full_le_of_isInfinite (hs : s.isInfinite) (hsign : s.negative = false) : full.le s := by
  have hmag : s.magnitude = Format.binary32.infinity := by simpa [Number.isInfinite] using hs
  have hnan : s.isNaN = false := by simp [Number.isNaN, hmag]
  have hlt : full.magnitude < Format.binary32.infinity := of_decide_eq_true full_upTo.isFinite
  have hrank : s.rank = Format.binary32.infinity := by simp [Number.rank, hsign, hmag]
  have hfull := Number.natAbs_rank full
  simp only [Number.le, Bool.and_eq_true, Bool.not_eq_true', decide_eq_true_eq]
  refine ⟨⟨isNaN_full, hnan⟩, ?_⟩
  omega

theorem quantize_of_isInfinite (hs : s.isInfinite) :
    quantize s = if s.negative then -32767 else 32767 := by
  cases hsign : s.negative with
  | false => exact quantize_of_le (full_le_of_isInfinite hs hsign)
  | true =>
    have hopposite : (-s).negative = false := by
      change (!s.negative) = false
      rw [hsign, Bool.not_true]
    have hneg := quantize_of_le (full_le_of_isInfinite (s := -s) hs hopposite)
    rw [quantize_neg] at hneg
    rw [if_pos rfl]
    omega

theorem abs_quantize_le (s : Sample) : |quantize s| ≤ 32767 := by
  cases hs : s.isNaN with
  | true =>
    rw [quantize_of_isNaN hs]
    decide
  | false =>
    have hnear := abs_quantize_sub_lt hs
    have hlow : (-1 : ℚ) ≤ max (-1) (min 1 s.toRat) := le_max_left _ _
    have hhigh : max (-1) (min 1 s.toRat) ≤ 1 := max_le (by norm_num) (min_le_left _ _)
    have hlt : |(quantize s : ℚ)| < 32768 := by
      rw [abs_lt] at hnear ⊢
      constructor <;> linarith
    have hint : |quantize s| < 32768 := by exact_mod_cast hlt
    omega

end Quantize

/-! ## Buffers -/

theorem level_toLinear16 {samples : List Sample} {i : Nat} (hi : i < samples.length) :
    level (toLinear16 samples) i = quantize samples[i] := by
  rw [level, chunkAt_toLinear16 hi]
  exact signed_linear16 (abs_quantize_le _)

/-- Each sample becomes two octets, in order and for itself alone. They hold a level between minus
and plus full scale that follows the sample: nothing for NaN, full scale from one on, the opposite
for the opposite sample, no less for no smaller a sample, and less than one away from the clamped
sample times full scale. -/
theorem toLinear16_faithful (samples : List Sample) :
    (toLinear16 samples).length = 2 * samples.length ∧
    (∀ more, toLinear16 (samples ++ more) = toLinear16 samples ++ toLinear16 more) ∧
    ∀ i (hi : i < samples.length),
      let s := samples[i]
      let v := level (toLinear16 samples) i
      |v| ≤ 32767 ∧
      (s.isNaN → v = 0) ∧
      ((Number.ofNat 1).le s → v = 32767) ∧
      (s.le (-Number.ofNat 1) → v = -32767) ∧
      (s.isInfinite → v = if s.negative then -32767 else 32767) ∧
      (s.isNaN = false → |(v : ℚ) - 32767 * max (-1) (min 1 s.toRat)| < 1) ∧
      level (toLinear16 (samples.map (-·))) i = -v ∧
      ∀ j (hj : j < samples.length), s.le samples[j] → v ≤ level (toLinear16 samples) j := by
  refine ⟨length_toLinear16 samples, fun more => List.flatMap_append, ?_⟩
  intro i hi s v
  have hv : v = quantize s := level_toLinear16 hi
  rw [hv]
  refine ⟨abs_quantize_le s, quantize_of_isNaN, quantize_of_le, quantize_of_ge,
    quantize_of_isInfinite, abs_quantize_sub_lt, ?_, ?_⟩
  · have hi' : i < (samples.map (-·)).length := by rwa [List.length_map]
    rw [level_toLinear16 hi', List.getElem_map, quantize_neg]
  · intro j hj hle
    rw [level_toLinear16 hj]
    exact quantize_mono hle

-- Half of full scale is 16383.5, and its fraction is dropped toward zero on either side.
example : [Number.ofRatio 1 2, -Number.ofRatio 1 2].map quantize = [16383, -16383] := by
  decide +kernel

end Audio
end PacedRtp
