import PacedRtp.Wav.Companding
import PacedRtp.Audio.Downmix
import PacedRtp.Octets

/-!
# Sample codings of wave files

How the octets of one sample stand for a number from minus one to one. Integers are divided by half
their range, 8-bit ones are offset, 32-bit ones are divided in binary64 and then rounded; companded
octets are expanded to 16 bits first.
-/

namespace PacedRtp
namespace Wav

open Ieee Audio

inductive Coding
  | unsigned8
  | signed16
  | signed24
  | signed32
  | float32
  | float64
  | aLaw
  | muLaw
  deriving DecidableEq, Repr

/-- Octets of one sample. -/
def Coding.width : Coding → Nat
  | .unsigned8 | .aLaw | .muLaw => 1
  | .signed16 => 2
  | .signed24 => 3
  | .signed32 | .float32 => 4
  | .float64 => 8

/-- Bits of a sample once its companding is undone. -/
def Coding.bits : Coding → Nat
  | .unsigned8 => 8
  | .signed16 | .aLaw | .muLaw => 16
  | .signed24 => 24
  | .signed32 | .float32 => 32
  | .float64 => 64

/-- A signed integer over half the range of its bits. -/
def fromSigned (bits : Nat) (v : Int) : Sample :=
  Number.ofInt v / Number.ofNat (1 <<< (bits - 1))

/-- The sample that the octets of one sample stand for. -/
def Coding.sample (c : Coding) (octets : List UInt8) : Sample :=
  let n := Octets.ofLittleEndian octets
  match c with
  | .unsigned8 => Number.ofNat n / Number.ofNat 128 - Number.ofNat 1
  | .signed16 => fromSigned 16 (Octets.signed 16 n)
  | .signed24 => fromSigned 24 (Octets.signed 24 n)
  | .signed32 =>
    let wide : Binary64 := Number.ofInt (Octets.signed 32 n) / Number.ofNat 0x80000000
    wide.convert
  | .float32 => Number.ofBits .binary32 n
  | .float64 => (Number.ofBits .binary64 n).convert
  | .aLaw => fromSigned 16 (expandALaw (.ofNat n))
  | .muLaw => fromSigned 16 (expandMuLaw (.ofNat n))

/-- The complete sample frames of a packet, at most `most` of them. -/
def Coding.frames (c : Coding) (channels most : Nat) (packet : List UInt8) : List Sample :=
  let count := min most (packet.length / (channels * c.width))
  (chunks c.width (count * channels) packet).map c.sample

end Wav
end PacedRtp
