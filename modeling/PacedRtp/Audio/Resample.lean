import PacedRtp.Audio.Downmix
import PacedRtp.Panic

/-!
# Sample rate conversion

Linear interpolation between neighbouring samples. The output length is the input length times the
ratio of the rates, rounded to nearest with halves up, in 64-bit words: a product or a sum that is
too large for a word wraps. Output `i` stands at the input position `i * (source / target)`, computed
in binary64; positions past the last sample hold its value.
-/

namespace PacedRtp
namespace Audio

open Ieee

/-- The bytes that a sample takes up in a buffer. -/
def sampleSize : Nat := 4

/-- How many samples `n` samples become. -/
def resampledLength (n : Nat) (source target : UInt32) : Nat :=
  ((UInt64.ofNat n * target.toUInt64 + source.toUInt64 / 2) / source.toUInt64).toNat

/-- Input samples per output sample. -/
def resampleStep (source target : UInt32) : Binary64 :=
  Number.ofNat source.toNat / Number.ofNat target.toNat

/-- The input position of output `i`. -/
def resamplePosition (step : Binary64) (i : Nat) : Binary64 :=
  Number.ofNat i * step

/-- The point between `a` and `b` at `fraction` of the way, each step rounded to binary32. -/
def interpolate (a b fraction : Sample) : Sample :=
  a + (b - a) * fraction

/-- The interpolated value at a position. Indices past the end are clamped to the last sample. -/
def sampleAt (input : Array Sample) (position : Binary64) : Sample :=
  let last := input.size - 1
  let index := min position.floorAbs last
  let fraction : Sample := (position - Number.ofNat index).convert
  let a := input.getD index (Number.zero false)
  let b := input.getD (min (index + 1) last) (Number.zero false)
  interpolate a b fraction

/-- The samples at the first `length` output positions. -/
def interpolated (source target : UInt32) (input : List Sample) (length : Nat) : List Sample :=
  let step := resampleStep source target
  let samples := input.toArray
  (List.range length).map fun i => sampleAt samples (resamplePosition step i)

/-- Asks for the output buffer of `n` samples; gives the length of the output. -/
def outputRoom (source target : UInt32) (n : Nat) : Except Panic Nat := do
  let length := resampledLength n source target
  reserve (sampleSize * length)
  return length

/-- Converts from one rate to another. Equal rates, an empty input and a zero rate leave the samples
as they are. -/
def resample (source target : UInt32) (input : List Sample) : Except Panic (List Sample) :=
  if source = target ∨ input = [] ∨ source = 0 ∨ target = 0 then .ok input
  else do
    let length ← outputRoom source target input.length
    return interpolated source target input length

end Audio
end PacedRtp
