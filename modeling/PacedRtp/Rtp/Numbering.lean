import PacedRtp.Rtp.Packet

/-!
# Numbering of a stream

What one stream writes into its headers: a source identifier and payload type that stay, a sequence
number that counts packets modulo 2^16, and a timestamp that counts sample frames modulo 2^32. Both
counters start at zero and stand at the packet to be sent next.
-/

namespace PacedRtp
namespace Rtp

structure Numbering where
  ssrc : UInt32
  payloadType : UInt8
  samplesPerFrame : UInt32
  sequence : UInt16 := 0
  timestamp : UInt32 := 0
  deriving DecidableEq, Repr

/-- The header of the packet to be sent next. -/
def Numbering.header (n : Numbering) (marker : Bool) : Header where
  marker := marker
  payloadType := n.payloadType
  sequence := n.sequence
  timestamp := n.timestamp
  ssrc := n.ssrc

/-- Moves past one packet. -/
def Numbering.advance (n : Numbering) : Numbering :=
  { n with sequence := n.sequence + 1, timestamp := n.timestamp + n.samplesPerFrame }

/-- Moves past `count` packets at once. -/
def Numbering.advanceBy (n : Numbering) (count : Nat) : Numbering :=
  { n with
    sequence := n.sequence + .ofNat count
    timestamp := n.timestamp + .ofNat count * n.samplesPerFrame }

@[simp] theorem Numbering.advanceBy_zero (n : Numbering) : n.advanceBy 0 = n := by
  simp [advanceBy]

theorem Numbering.advanceBy_succ (n : Numbering) (count : Nat) :
    n.advanceBy (count + 1) = n.advance.advanceBy count := by
  simp only [advanceBy, advance, UInt16.ofNat_add, UInt32.ofNat_add, mk.injEq, true_and]
  constructor
  · rw [UInt16.add_comm (.ofNat count), ← UInt16.add_assoc]
    rfl
  · rw [UInt32.add_mul, UInt32.add_comm (_ * _), ← UInt32.add_assoc]
    congr 2
    exact UInt32.one_mul _

end Rtp
end PacedRtp
