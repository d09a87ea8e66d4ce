import Mathlib
import PacedRtp.Proofs.Pcm.Iteration

/-!
# Frame geometry

`Framing.new` accepts a format and a duration if a frame of them comes to at least one sample and
its samples can be counted in 32 bits: no field is zero, and the product of rate and duration lies
in a certain range. The samples are the nominal number rounded to the nearest whole one, so a clock
that counts them is off by half a sample a frame at most.

The geometry is computed in natural numbers there. `Framing.newInWords?` computes it in 64-bit words
and checks every sum and product; `Framing.newInWords?_eq` shows that no setting makes one overflow.
-/

namespace PacedRtp
namespace Pcm

/-! ## Samples of a frame -/

section Samples

variable {rate rate' ms ms' : Nat}

/-- Rounding is to the nearest whole number, and up from a half. -/
theorem samplesIn_eq_round (rate ms : Nat) :
    (samplesIn rate ms : Int) = round ((rate * ms : ℚ) / 1000) := by
  have hhalf : (rate * ms : ℚ) / 1000 + 1 / 2 = ((rate * ms + 500 : Nat) : ℚ) / (1000 : Nat) := by
    push_cast
    ring
  rw [round_eq, hhalf, Rat.floor_natCast_div_natCast]
  rfl

example : samplesIn 8500 1 = 9 := rfl

theorem abs_samplesIn_sub_le (rate ms : Nat) :
    |1000 * (samplesIn rate ms : Int) - rate * ms| ≤ 500 := by
  rw [samplesIn, ← Nat.cast_mul, abs_le]
  omega

/-- Each frame moves the clock away from the nominal time by half a sample at most. -/
theorem abs_drift_le (rate ms n : Nat) :
    |(n * samplesIn rate ms : ℚ) - n * (rate * ms / 1000)| ≤ n / 2 := by
  have hframe : |(rate * ms / 1000 : ℚ) - samplesIn rate ms| ≤ 1 / 2 := by
    have h := abs_sub_round ((rate * ms : ℚ) / 1000)
    rwa [← samplesIn_eq_round, Int.cast_natCast] at h
  rw [← mul_sub, abs_mul, Nat.abs_cast, abs_sub_comm]
  calc (n : ℚ) * |(rate * ms / 1000 : ℚ) - samplesIn rate ms|
      ≤ n * (1 / 2) := mul_le_mul_of_nonneg_left hframe (Nat.cast_nonneg n)
    _ = n / 2 := by ring

theorem samplesIn_mono (hrate : rate ≤ rate') (hms : ms ≤ ms') :
    samplesIn rate ms ≤ samplesIn rate' ms' :=
  Nat.div_le_div_right (Nat.add_le_add_right (Nat.mul_le_mul hrate hms) 500)

theorem samplesIn_pos_iff : 0 < samplesIn rate ms ↔ 500 ≤ rate * ms := by
  rw [samplesIn]
  omega

theorem samplesIn_lt_iff : samplesIn rate ms < UInt32.size ↔ rate * ms ≤ 4294967295499 := by
  rw [samplesIn, show UInt32.size = 4294967296 from rfl]
  omega

end Samples

/-! ## Bytes of a frame -/

namespace Format

theorem bytesPerSampleFrame_le (format : Format) :
    format.bytesPerSampleFrame ≤ 2 ^ 16 * 2 ^ 16 :=
  Nat.mul_le_mul format.sampleWidth.toNat_lt.le format.channels.toNat_lt.le

theorem frame_lt (format : Format) (samples : UInt32) :
    samples.toNat * format.bytesPerSampleFrame < 2 ^ 64 := by
  calc samples.toNat * format.bytesPerSampleFrame
      ≤ samples.toNat * (2 ^ 16 * 2 ^ 16) := Nat.mul_le_mul_left _ format.bytesPerSampleFrame_le
    _ < 2 ^ 32 * (2 ^ 16 * 2 ^ 16) := Nat.mul_lt_mul_of_pos_right samples.toNat_lt (by decide)
    _ = 2 ^ 64 := by norm_num

theorem bytesPerSampleFrame_pos {format : Format} (hchannels : format.channels ≠ 0)
    (hwidth : format.sampleWidth ≠ 0) : 0 < format.bytesPerSampleFrame :=
  Nat.mul_pos (Nat.pos_of_ne_zero fun h => hwidth (UInt16.toNat_inj.mp h))
    (Nat.pos_of_ne_zero fun h => hchannels (UInt16.toNat_inj.mp h))

/-- The bits of a sample as they are reported wrap around. -/
theorem toNat_bits (format : Format) :
    format.bits.toNat = 8 * format.sampleWidth.toNat % 2 ^ 16 := by
  rw [bits, UInt16.toNat_mul, Nat.mul_comm]
  rfl

/-- What is reported is right for samples of fewer than 8192 bytes, and too small from there on. -/
theorem toNat_bits_eq_iff (format : Format) :
    format.bits.toNat = 8 * format.sampleWidth.toNat ↔ format.sampleWidth.toNat < 8192 := by
  rw [toNat_bits]
  omega

end Format

/-! ## Acceptance -/

section Acceptance

variable {format : Format} {frameMs : UInt32} {framing : Framing}

/-- What is asked of a format and a duration. -/
structure Framing.Usable (format : Format) (frameMs : UInt32) : Prop where
  rate_ne : format.sampleRate ≠ 0
  channels_ne : format.channels ≠ 0
  width_ne : format.sampleWidth ≠ 0
  frameMs_ne : frameMs ≠ 0
  samples_pos : 0 < samplesIn format.sampleRate.toNat frameMs.toNat
  samples_lt : samplesIn format.sampleRate.toNat frameMs.toNat < UInt32.size

/-- What an accepted framing is made of. -/
structure Framing.Accepted (framing : Framing) (format : Format) (frameMs : UInt32) : Prop where
  format_eq : framing.format = format
  frameMs_eq : framing.frameMs = frameMs
  samples : framing.samplesPerFrame.toNat = samplesIn format.sampleRate.toNat frameMs.toNat
  size : framing.frameSize = framing.samplesPerFrame.toNat * format.bytesPerSampleFrame
  sampleFrame_pos : 0 < format.bytesPerSampleFrame
  rate_pos : 0 < format.sampleRate.toNat

theorem Framing.usable_of_new (h : Framing.new format frameMs = .ok framing) :
    Framing.Usable format frameMs := by
  unfold Framing.new at h
  split at h
  · cases h
  · rename_i hformat
    split at h
    · cases h
    · rename_i hms
      dsimp only at h
      split at h
      · rename_i hgeometry
        simp only [not_or] at hformat
        exact ⟨hformat.1, hformat.2.1, hformat.2.2, hms, Nat.pos_of_mul_pos_right hgeometry.2,
          hgeometry.1⟩
      · cases h

namespace Framing.Usable

theorem sampleFrame_pos (h : Framing.Usable format frameMs) : 0 < format.bytesPerSampleFrame :=
  Format.bytesPerSampleFrame_pos h.channels_ne h.width_ne

theorem size_pos (h : Framing.Usable format frameMs) :
    0 < samplesIn format.sampleRate.toNat frameMs.toNat * format.bytesPerSampleFrame :=
  Nat.mul_pos h.samples_pos h.sampleFrame_pos

theorem new_eq (h : Framing.Usable format frameMs) :
    Framing.new format frameMs =
      .ok ⟨format, frameMs, .ofNat (samplesIn format.sampleRate.toNat frameMs.toNat), _,
        h.size_pos⟩ := by
  have hformat : ¬(format.sampleRate = 0 ∨ format.channels = 0 ∨ format.sampleWidth = 0) := by
    rintro (hrate | hchannels | hwidth)
    · exact h.rate_ne hrate
    · exact h.channels_ne hchannels
    · exact h.width_ne hwidth
  rw [Framing.new, if_neg hformat, if_neg h.frameMs_ne]
  exact dif_pos ⟨h.samples_lt, h.size_pos⟩

end Framing.Usable

theorem Framing.accepted_of_new (h : Framing.new format frameMs = .ok framing) :
    framing.Accepted format frameMs := by
  have husable := Framing.usable_of_new h
  rw [husable.new_eq] at h
  cases h
  have hsamples : (UInt32.ofNat (samplesIn format.sampleRate.toNat frameMs.toNat)).toNat =
      samplesIn format.sampleRate.toNat frameMs.toNat := by
    rw [UInt32.toNat_ofNat', Nat.mod_eq_of_lt husable.samples_lt]
  refine ⟨rfl, rfl, hsamples, ?_, husable.sampleFrame_pos, ?_⟩
  · rw [hsamples]
  · exact Nat.pos_of_ne_zero fun h0 => husable.rate_ne (UInt32.toNat_inj.mp h0)

/-- Frames of a single channel of 16-bit samples are short. -/
theorem Framing.frameSize_lt_of_mono16 {rate : UInt32}
    (h : Framing.new (.mono16 rate) frameMs = .ok framing) : framing.frameSize < 2 ^ 33 := by
  have hsamples := framing.samplesPerFrame.toNat_lt
  rw [(Framing.accepted_of_new h).size, show (Format.mono16 rate).bytesPerSampleFrame = 2 from rfl]
  omega

end Acceptance

/-! ## Words -/

/-- A product that fits into a word. -/
def Word.product? (a b : UInt64) : Option UInt64 :=
  if a.toNat * b.toNat < UInt64.size then some (a * b) else none

/-- A sum that fits into a word. -/
def Word.sum? (a b : UInt64) : Option UInt64 :=
  if a.toNat + b.toNat < UInt64.size then some (a + b) else none

theorem Word.product?_of_lt {a b : UInt64} (h : a.toNat * b.toNat < UInt64.size) :
    ∃ c, Word.product? a b = some c ∧ c.toNat = a.toNat * b.toNat := by
  refine ⟨a * b, if_pos h, ?_⟩
  rw [UInt64.toNat_mul]
  exact Nat.mod_eq_of_lt h

theorem Word.sum?_of_lt {a b : UInt64} (h : a.toNat + b.toNat < UInt64.size) :
    ∃ c, Word.sum? a b = some c ∧ c.toNat = a.toNat + b.toNat := by
  refine ⟨a + b, if_pos h, ?_⟩
  rw [UInt64.toNat_add]
  exact Nat.mod_eq_of_lt h

/-- The samples and the bytes of a frame, in words. The outer `none` is a sum or a product that does
not fit. -/
def Framing.newInWords? (format : Format) (frameMs : UInt32) :
    Option (Except FramingError (UInt32 × UInt64)) :=
  if format.sampleRate = 0 ∨ format.channels = 0 ∨ format.sampleWidth = 0 then
    some (.error (.emptyFormat format))
  else if frameMs = 0 then some (.error .zeroDuration)
  else do
    let nominal ← Word.product? format.sampleRate.toUInt64 frameMs.toUInt64
    let raised ← Word.sum? nominal 500
    let samples := raised / 1000
    if samples = 0 ∨ 0xffffffff < samples then
      return .error (.unusable frameMs format.sampleRate)
    else
      let sampleFrame ← Word.product? format.sampleWidth.toUInt64 format.channels.toUInt64
      let size ← Word.product? samples.toUInt32.toUInt64 sampleFrame
      return .ok (samples.toUInt32, size)

/-- The samples of a frame, before they are narrowed. -/
theorem samples_in_words (rate ms : UInt32) :
    ∃ nominal raised, Word.product? rate.toUInt64 ms.toUInt64 = some nominal ∧
      Word.sum? nominal 500 = some raised ∧
      (raised / 1000).toNat = samplesIn rate.toNat ms.toNat := by
  have hrate := rate.toNat_lt
  have hms := ms.toNat_lt
  have hle : rate.toNat * ms.toNat ≤ (2 ^ 32 - 1) * (2 ^ 32 - 1) :=
    Nat.mul_le_mul (Nat.le_pred_of_lt hrate) (Nat.le_pred_of_lt hms)
  have hsize : UInt64.size = 2 ^ 64 := rfl
  have hnominal_lt : rate.toUInt64.toNat * ms.toUInt64.toNat < UInt64.size := by
    rw [UInt32.toNat_toUInt64, UInt32.toNat_toUInt64]
    omega
  rcases Word.product?_of_lt hnominal_lt with ⟨nominal, hnominal, hnominalNat⟩
  rw [UInt32.toNat_toUInt64, UInt32.toNat_toUInt64] at hnominalNat
  have hraised_lt : nominal.toNat + (500 : UInt64).toNat < UInt64.size := by
    rw [hnominalNat, show (500 : UInt64).toNat = 500 from rfl]
    omega
  rcases Word.sum?_of_lt hraised_lt with ⟨raised, hraised, hraisedNat⟩
  refine ⟨nominal, raised, hnominal, hraised, ?_⟩
  rw [UInt64.toNat_div, hraisedNat, hnominalNat]
  rfl

/-- The bytes of a frame of any number of samples. -/
theorem size_in_words (samples : UInt32) (format : Format) :
    ∃ sampleFrame size,
      Word.product? format.sampleWidth.toUInt64 format.channels.toUInt64 = some sampleFrame ∧
      Word.product? samples.toUInt64 sampleFrame = some size ∧
      size.toNat = samples.toNat * format.bytesPerSampleFrame := by
  have hframe_lt :
      format.sampleWidth.toUInt64.toNat * format.channels.toUInt64.toNat < UInt64.size := by
    rw [UInt16.toNat_toUInt64, UInt16.toNat_toUInt64]
    exact lt_of_le_of_lt format.bytesPerSampleFrame_le (by decide)
  rcases Word.product?_of_lt hframe_lt with ⟨sampleFrame, hframe, hframeNat⟩
  rw [UInt16.toNat_toUInt64, UInt16.toNat_toUInt64] at hframeNat
  have hsize_lt : samples.toUInt64.toNat * sampleFrame.toNat < UInt64.size := by
    rw [UInt32.toNat_toUInt64, hframeNat]
    exact format.frame_lt samples
  rcases Word.product?_of_lt hsize_lt with ⟨size, hsize, hsizeNat⟩
  refine ⟨sampleFrame, size, hframe, hsize, ?_⟩
  rw [hsizeNat, UInt32.toNat_toUInt64, hframeNat, Format.bytesPerSampleFrame]

/-- Both ways refuse the same numbers of samples. -/
theorem unusable_in_words_iff {samples : UInt64} {n sampleFrame : Nat}
    (hsamples : samples.toNat = n) (hpos : 0 < sampleFrame) :
    samples = 0 ∨ 0xffffffff < samples ↔ ¬(n < UInt32.size ∧ 0 < n * sampleFrame) := by
  rw [← hsamples, Nat.mul_pos_iff_of_pos_right hpos, ← UInt64.toNat_inj, UInt64.lt_iff_toNat_lt,
    show (0 : UInt64).toNat = 0 from rfl, show (0xffffffff : UInt64).toNat = 4294967295 from rfl,
    show UInt32.size = 4294967296 from rfl]
  omega

/-- The words of the geometry are the numbers of the framing, for every setting. -/
theorem Framing.newInWords?_eq (format : Format) (frameMs : UInt32) :
    (Framing.newInWords? format frameMs).map (Except.map fun g => (g.1, g.2.toNat)) =
      some ((Framing.new format frameMs).map fun f => (f.samplesPerFrame, f.frameSize)) := by
  unfold Framing.newInWords? Framing.new
  by_cases hformat : format.sampleRate = 0 ∨ format.channels = 0 ∨ format.sampleWidth = 0
  · rw [if_pos hformat, if_pos hformat]
    rfl
  rw [if_neg hformat, if_neg hformat]
  by_cases hms : frameMs = 0
  · rw [if_pos hms, if_pos hms]
    rfl
  rw [if_neg hms, if_neg hms]
  have hpos : 0 < format.bytesPerSampleFrame := by
    simp only [not_or] at hformat
    exact Format.bytesPerSampleFrame_pos hformat.2.1 hformat.2.2
  rcases samples_in_words format.sampleRate frameMs with
    ⟨nominal, raised, hnominal, hraised, hsamples⟩
  have hrange := unusable_in_words_iff hsamples hpos
  simp only [hnominal, hraised, Option.bind_eq_bind, Option.bind_some]
  by_cases hunusable : raised / 1000 = 0 ∨ 0xffffffff < raised / 1000
  · rw [if_pos hunusable, dif_neg (hrange.mp hunusable)]
    rfl
  · have hgeometry := not_not.mp fun h => hunusable (hrange.mpr h)
    -- The samples are narrowed to 32 bits before the last product, and lose nothing.
    have hnarrow : (raised / 1000).toUInt32 =
        .ofNat (samplesIn format.sampleRate.toNat frameMs.toNat) := by
      rw [← hsamples]
      rfl
    have hnarrowNat : (raised / 1000).toUInt32.toNat =
        samplesIn format.sampleRate.toNat frameMs.toNat := by
      rw [hnarrow, UInt32.toNat_ofNat', Nat.mod_eq_of_lt hgeometry.1]
    rcases size_in_words (raised / 1000).toUInt32 format with
      ⟨sampleFrame, size, hframe, hsize, hsizeNat⟩
    rw [hnarrowNat] at hsizeNat
    rw [if_neg hunusable, dif_pos hgeometry, hframe, Option.bind_some, hsize, Option.bind_some,
      hnarrow]
    simp only [Option.pure_def, Option.map_some, Except.map, hsizeNat]

/-! ## Settings and their frames -/

/-- Which settings give frames, and what the frames are like. -/
theorem Framing.new_geometry (format : Format) (frameMs : UInt32) :
    let rate := format.sampleRate.toNat
    let ms := frameMs.toNat
    ((∃ framing, Framing.new format frameMs = .ok framing) ↔
      format.sampleRate ≠ 0 ∧ format.channels ≠ 0 ∧ format.sampleWidth ≠ 0 ∧ frameMs ≠ 0 ∧
        500 ≤ rate * ms ∧ rate * ms ≤ 4294967295499) ∧
    (Framing.newInWords? format frameMs).map (Except.map fun g => (g.1, g.2.toNat)) =
      some ((Framing.new format frameMs).map fun f => (f.samplesPerFrame, f.frameSize)) ∧
    ∀ framing, Framing.new format frameMs = .ok framing →
      let samples := framing.samplesPerFrame.toNat
      (samples : Int) = round ((rate * ms : ℚ) / 1000) ∧
      |1000 * (samples : Int) - rate * ms| ≤ 500 ∧
      (∀ n : Nat, |(n * samples : ℚ) - n * (rate * ms / 1000)| ≤ n / 2) ∧
      1 ≤ samples ∧ samples ≤ 2 ^ 32 - 1 ∧
      (∀ format' frameMs' framing', Framing.new format' frameMs' = .ok framing' →
        format.sampleRate ≤ format'.sampleRate → frameMs ≤ frameMs' →
          framing.samplesPerFrame ≤ framing'.samplesPerFrame) ∧
      framing.frameSize = samples * format.channels.toNat * format.sampleWidth.toNat ∧
      1 ≤ framing.frameSize ∧ format.bytesPerSampleFrame ∣ framing.frameSize ∧
      ∀ pcm k fs, (framing.frames pcm).after k = .ok fs →
        fs.frameSize ≠ 0 ∧
        ∀ frame rest, fs.next = .ok (some (frame, rest)) →
          rest.remaining.length < fs.remaining.length := by
  intro rate ms
  refine ⟨⟨?_, ?_⟩, Framing.newInWords?_eq format frameMs, ?_⟩
  · rintro ⟨framing, hframing⟩
    have h := Framing.usable_of_new hframing
    exact ⟨h.rate_ne, h.channels_ne, h.width_ne, h.frameMs_ne, samplesIn_pos_iff.mp h.samples_pos,
      samplesIn_lt_iff.mp h.samples_lt⟩
  · rintro ⟨hrate, hchannels, hwidth, hms, hlow, hhigh⟩
    have husable : Framing.Usable format frameMs :=
      ⟨hrate, hchannels, hwidth, hms, samplesIn_pos_iff.mpr hlow, samplesIn_lt_iff.mpr hhigh⟩
    exact ⟨_, husable.new_eq⟩
  · intro framing hframing samples
    have husable := Framing.usable_of_new hframing
    have haccepted := Framing.accepted_of_new hframing
    have hsamples : samples = samplesIn rate ms := haccepted.samples
    have hsize : framing.frameSize = samples * format.bytesPerSampleFrame := haccepted.size
    have hpos : 1 ≤ samples := by
      rw [hsamples]
      exact husable.samples_pos
    have hle : samples ≤ 2 ^ 32 - 1 := Nat.le_pred_of_lt framing.samplesPerFrame.toNat_lt
    refine ⟨?_, ?_, ?_, hpos, hle, ?_, ?_, ?_, ?_, ?_⟩
    · rw [hsamples]
      exact samplesIn_eq_round rate ms
    · rw [hsamples]
      exact abs_samplesIn_sub_le rate ms
    · rw [hsamples]
      exact abs_drift_le rate ms
    · intro format' frameMs' framing' hframing' hrate hms
      rw [UInt32.le_iff_toNat_le, (Framing.accepted_of_new hframing').samples, haccepted.samples]
      exact samplesIn_mono (UInt32.le_iff_toNat_le.mp hrate) (UInt32.le_iff_toNat_le.mp hms)
    · rw [hsize, Format.bytesPerSampleFrame, Nat.mul_comm format.sampleWidth.toNat, Nat.mul_assoc]
    · rw [hsize]
      exact Nat.mul_pos hpos haccepted.sampleFrame_pos
    · rw [hsize]
      exact Nat.dvd_mul_left _ _
    · intro pcm k fs hafter
      refine ⟨?_, fun frame rest hnext => Frames.remaining_lt_of_next hnext⟩
      rw [Frames.frameSize_of_after hafter]
      exact Nat.ne_of_gt framing.frameSize_pos

end Pcm
end PacedRtp
