import Mathlib
import PacedRtp.Pcm.Framing
import PacedRtp.Rtp.Numbering

/-!
# Numbers along a stream

Moving past packets one at a time or all at once leads to the same numbering, and the packets of a
list of frames carry the numbers in order.
-/

namespace PacedRtp
namespace Rtp
namespace Numbering

/-! ## Advancing -/

theorem iterate_advance (n : Numbering) (count : Nat) : advance^[count] n = n.advanceBy count := by
  induction count generalizing n with
  | zero => simp
  | succ count ih => rw [Function.iterate_succ_apply, ih, advanceBy_succ]

theorem advanceBy_advanceBy (n : Numbering) (first second : Nat) :
    (n.advanceBy first).advanceBy second = n.advanceBy (first + second) := by
  rw [← iterate_advance, ← iterate_advance, ← iterate_advance, Nat.add_comm,
    Function.iterate_add_apply]

theorem toNat_sequence_advanceBy (n : Numbering) (count : Nat) :
    (n.advanceBy count).sequence.toNat = (n.sequence.toNat + count) % 2 ^ 16 := by
  simp [advanceBy]

theorem toNat_timestamp_advanceBy (n : Numbering) (count : Nat) :
    (n.advanceBy count).timestamp.toNat =
      (n.timestamp.toNat + count * n.samplesPerFrame.toNat) % 2 ^ 32 := by
  simp [advanceBy, Nat.add_mod, Nat.mul_mod]

/-! ## Packets -/

/-- The packets of frames that are sent one after the other. -/
def packets (n : Numbering) : List Pcm.Frame → List (List UInt8)
  | [] => []
  | frame :: rest => (n.header frame.isFirst).packet frame.payload :: n.advance.packets rest

@[simp] theorem length_packets (n : Numbering) (frames : List Pcm.Frame) :
    (n.packets frames).length = frames.length := by
  induction frames generalizing n with
  | nil => rfl
  | cons frame rest ih => simp [packets, ih]

theorem getElem?_packets (n : Numbering) (frames : List Pcm.Frame) (k : Nat) :
    (n.packets frames)[k]? =
      frames[k]?.map fun frame => ((n.advanceBy k).header frame.isFirst).packet frame.payload := by
  -- One packet on, the numbering has moved and the index is one smaller.
  induction frames generalizing n k with
  | nil => rfl
  | cons frame rest ih =>
    cases k with
    | zero => simp [packets]
    | succ k => simpa [packets, advanceBy_succ] using ih n.advance k

theorem packets_take (n : Numbering) (frames : List Pcm.Frame) (k : Nat) :
    n.packets (frames.take k) = (n.packets frames).take k := by
  apply List.ext_getElem?
  intro i
  rw [getElem?_packets, List.getElem?_take, List.getElem?_take, getElem?_packets]
  split_ifs <;> rfl

theorem packets_append (n : Numbering) (frames later : List Pcm.Frame) :
    n.packets (frames ++ later) =
      n.packets frames ++ (n.advanceBy frames.length).packets later := by
  induction frames generalizing n with
  | nil => simp [packets]
  | cons frame rest ih => simp [packets, ih, advanceBy_succ]

end Numbering
end Rtp
end PacedRtp
