/-!
# G.711 companding

The 16-bit values of the octets of A-law and mu-law audio: a sign bit, three bits of segment and
four bits of position in the segment.
-/

namespace PacedRtp
namespace Wav

/-- The position and segment bits of a companded octet. -/
def position (b : UInt8) : Nat := (b &&& 0x0f).toNat

def segment (b : UInt8) : Nat := ((b &&& 0x70) >>> 4).toNat

/-- Even bits are inverted on the line, and the sign bit is set for positive values. -/
def expandALaw (octet : UInt8) : Int :=
  let b := octet ^^^ 0x55
  let magnitude :=
    match segment b with
    | 0 => position b * 16 + 8
    | s + 1 => (position b * 16 + 0x108) <<< s
  if b &&& 0x80 = 0x80 then magnitude else -(magnitude : Int)

/-- All bits are inverted on the line, and the sign bit is set for negative values. -/
def expandMuLaw (octet : UInt8) : Int :=
  let b := ~~~octet
  let biased : Int := ((position b * 8 + 0x84) <<< segment b : Nat)
  if b &&& 0x80 = 0x80 then 0x84 - biased else biased - 0x84

end Wav
end PacedRtp
