import PacedRtp.Panic
import PacedRtp.Pcm.Format

/-!
# Framing of linear audio

A buffer is cut into frames of equal duration, one for each packet. A frame holds the sample frames
of its milliseconds, rounded to a whole number with halves up; the last frame is filled with zero
bytes, and only the first frame of a clip is flagged as such.

A frame is a buffer of its own. Some settings are accepted whose frames are too long for one:
cutting a frame of a clip then is a panic, unless nothing is left of the clip.
-/

namespace PacedRtp
namespace Pcm

def defaultFrameMs : UInt32 := 20

/-! ## Frame geometry -/

inductive FramingError
  | emptyFormat (format : Format)
  | zeroDuration
  | unusable (frameMs sampleRate : UInt32)
  deriving DecidableEq, Repr

def FramingError.message : FramingError → String
  | .emptyFormat format => "invalid PCM format: " ++ format.text
  | .zeroDuration => "frame duration must be at least 1 ms"
  | .unusable frameMs sampleRate =>
    s!"{frameMs.toNat} ms at {sampleRate.toNat} Hz does not give a usable frame"

/-- How clips of one format are cut. -/
structure Framing where
  format : Format
  frameMs : UInt32
  samplesPerFrame : UInt32
  /-- Bytes of one frame. -/
  frameSize : Nat
  frameSize_pos : 0 < frameSize
  deriving DecidableEq

/-- The sample frames in `ms` milliseconds, halves rounded up. -/
def samplesIn (sampleRate ms : Nat) : Nat :=
  (sampleRate * ms + 500) / 1000

def Framing.new (format : Format) (frameMs : UInt32) : Except FramingError Framing :=
  if format.sampleRate = 0 ∨ format.channels = 0 ∨ format.sampleWidth = 0 then
    .error (.emptyFormat format)
  else if frameMs = 0 then .error .zeroDuration
  else
    let samples := samplesIn format.sampleRate.toNat frameMs.toNat
    let size := samples * format.bytesPerSampleFrame
    if h : samples < UInt32.size ∧ 0 < size then
      .ok ⟨format, frameMs, .ofNat samples, size, h.2⟩
    else .error (.unusable frameMs format.sampleRate)

/-! ## Frames -/

/-- One packet's worth of audio. -/
structure Frame where
  payload : List UInt8
  isFirst : Bool
  deriving DecidableEq, Repr

/-- The part of a clip that is still to be cut. -/
structure Frames where
  remaining : List UInt8
  frameSize : Nat
  frameSize_pos : 0 < frameSize
  isStart : Bool

def Framing.frames (f : Framing) (pcm : List UInt8) : Frames :=
  ⟨pcm, f.frameSize, f.frameSize_pos, true⟩

namespace Frames

/-- The next `size` bytes, filled up with zero bytes. -/
def padded (size : Nat) (bytes : List UInt8) : List UInt8 :=
  let chunk := bytes.take size
  chunk ++ List.replicate (size - chunk.length) 0

/-- The next frame and what it leaves, or nothing at the end. -/
def next (fs : Frames) : Except Panic (Option (Frame × Frames)) :=
  if fs.remaining.isEmpty then .ok none
  else do
    reserve fs.frameSize
    return some (⟨padded fs.frameSize fs.remaining, fs.isStart⟩,
      { fs with remaining := fs.remaining.drop fs.frameSize, isStart := false })

/-- How many frames are left: the quotient of the sizes, rounded up. -/
def count (fs : Frames) : Nat :=
  (fs.remaining.length + (fs.frameSize - 1)) / fs.frameSize

/-- Bounds for the number of frames that are left, the upper one if it is known; both are exact. -/
def sizeHint (fs : Frames) : Nat × Option Nat :=
  (fs.count, some fs.count)

theorem next_cases (fs : Frames) :
    (fs.remaining = [] ∧ fs.next = .ok none) ∨
      fs.remaining ≠ [] ∧ (fs.next = .error .capacityOverflow ∨
        fs.next = .ok (some (⟨padded fs.frameSize fs.remaining, fs.isStart⟩,
          { fs with remaining := fs.remaining.drop fs.frameSize, isStart := false }))) := by
  cases hremaining : fs.remaining with
  | nil => exact .inl ⟨rfl, by simp [next, hremaining]⟩
  | cons b bytes =>
    refine .inr ⟨List.cons_ne_nil b bytes, ?_⟩
    by_cases hroom : capacityLimit < fs.frameSize
    · exact .inl (by simp [next, hremaining, reserve, hroom, bind, Except.bind])
    · exact .inr (by simp [next, hremaining, reserve, hroom, bind, Except.bind, pure, Except.pure])

theorem remaining_lt_of_next {fs rest : Frames} {f : Frame} (h : fs.next = .ok (some (f, rest))) :
    rest.remaining.length < fs.remaining.length := by
  rcases fs.next_cases with ⟨-, hnext⟩ | ⟨hne, hnext | hnext⟩
  · cases h.symm.trans hnext
  · cases h.symm.trans hnext
  · cases h.symm.trans hnext
    have hpos := fs.frameSize_pos
    have hlength := List.length_pos_iff.mpr hne
    simp only [List.length_drop]
    omega

/-- All frames that are left, in order. -/
def collect (fs : Frames) : Except Panic (List Frame) :=
  match _h : fs.next with
  | .error p => .error p
  | .ok none => .ok []
  | .ok (some (f, rest)) => rest.collect.map (f :: ·)
termination_by fs.remaining.length
decreasing_by exact remaining_lt_of_next _h

/-- What is left after `n` frames. -/
def drop (fs : Frames) : Nat → Except Panic Frames
  | 0 => .ok fs
  | n + 1 =>
    match fs.next with
    | .error p => .error p
    | .ok none => .ok fs
    | .ok (some (_, rest)) => rest.drop n

end Frames
end Pcm
end PacedRtp
