import PacedRtp.Audio.Downmix
import PacedRtp.Octets

/-!
# Quantisation to 16 bits

A sample is clamped to the interval from minus one to one, scaled by 32767 in binary32, and its
fraction is dropped toward zero. NaN becomes zero. The result is written least significant octet
first.
-/

namespace PacedRtp
namespace Audio

open Ieee

def fullScale : Nat := 32767

/-- The 16-bit value of a sample, from `-fullScale` to `fullScale`. -/
def quantize (s : Sample) : Int :=
  let one : Sample := Number.ofNat 1
  let scaled := Number.clamp (-one) one s * Number.ofNat fullScale
  if scaled.isNaN then 0 else scaled.truncate

/-- A signed 16-bit value as two octets. -/
def linear16 (v : Int) : List UInt8 :=
  Octets.littleEndian 2 (v % UInt16.size).toNat

def toLinear16 (samples : List Sample) : List UInt8 :=
  samples.flatMap fun s => linear16 (quantize s)

end Audio
end PacedRtp
