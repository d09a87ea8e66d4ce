import PacedRtp.Duration

/-!
# Linear audio formats

The layout of an interleaved buffer of samples: a rate, a count of channels, and the bytes of one
sample. A *sample frame* is one sample for every channel.
-/

namespace PacedRtp
namespace Pcm

open Ieee

/-- The rate the receiving device plays at. -/
def defaultRate : UInt32 := 48000

structure Format where
  sampleRate : UInt32
  channels : UInt16
  /-- Bytes of one sample. -/
  sampleWidth : UInt16
  deriving DecidableEq, Repr

namespace Format

/-- One channel of 16-bit samples, the layout that streams carry. -/
def mono16 (sampleRate : UInt32) : Format := ⟨sampleRate, 1, 2⟩

instance : Inhabited Format := ⟨mono16 defaultRate⟩

def bytesPerSampleFrame (f : Format) : Nat :=
  f.sampleWidth.toNat * f.channels.toNat

/-- The bits of one sample, as a 16-bit number. -/
def bits (f : Format) : UInt16 :=
  f.sampleWidth * 8

/-- The playback time of `length` bytes: the whole sample frames over the rate, in binary64. -/
def durationOf (f : Format) (length : Nat) : Except Duration.ConversionError Duration :=
  if f.bytesPerSampleFrame = 0 ∨ f.sampleRate = 0 then .ok .zero
  else
    Duration.ofBinary64
      (Number.ofNat (length / f.bytesPerSampleFrame) / Number.ofNat f.sampleRate.toNat)

/-- The fields in words, for messages. -/
def text (f : Format) : String :=
  s!"PcmFormat \x7b sample_rate: {f.sampleRate.toNat}, channels: {f.channels.toNat}, " ++
    s!"sample_width: {f.sampleWidth.toNat} \x7d"

end Format
end Pcm
end PacedRtp
