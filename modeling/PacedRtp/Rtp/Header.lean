import PacedRtp.Octets

/-!
# RTP fixed header

The twelve octets in front of every RTP packet:

```text
|V=2|P|X|  CC   |M|     PT      |       Sequence Number         |
|                           Timestamp                           |
|                             SSRC                              |
```

A sender of this library writes version 2 with padding, extension and contributing sources all
absent, so a header value carries the other fields only.
-/

namespace PacedRtp
namespace Rtp

def headerLength : Nat := 12

def version : UInt8 := 2

/-- The payload type of 16-bit linear audio. -/
def linearAudio : UInt8 := 11

structure Header where
  marker : Bool
  payloadType : UInt8
  sequence : UInt16
  timestamp : UInt32
  ssrc : UInt32
  deriving DecidableEq, Repr

/-- The marker bit above the low seven bits of the payload type. -/
def Header.typeOctet (h : Header) : UInt8 :=
  (if h.marker then 0x80 else 0) ||| (h.payloadType &&& 0x7f)

def Header.encode (h : Header) : List UInt8 :=
  [version <<< 6, h.typeOctet] ++ Octets.bigEndian 2 h.sequence.toNat ++
    Octets.bigEndian 4 h.timestamp.toNat ++ Octets.bigEndian 4 h.ssrc.toNat

@[simp] theorem Header.length_encode (h : Header) : h.encode.length = headerLength := by
  simp [Header.encode, headerLength]

end Rtp
end PacedRtp
