import Mathlib
import PacedRtp.Proofs.Sender.Delivery

/-!
# Reassembly of a clip

A receiver that writes every payload where its packet's timestamp says needs neither order nor
single delivery. As long as the timestamps of a session do not wrap, each of its packets has one
place of its own, so what is in the buffer depends only on which packets have arrived.
-/

namespace PacedRtp
namespace Sender

open Net
open Pcm (shortFraming)

/-! ## Buffers -/

/-- Writes bytes over a buffer from `offset` on. -/
def overwrite (buffer : List UInt8) (offset : Nat) (bytes : List UInt8) : List UInt8 :=
  buffer.take offset ++ bytes ++ buffer.drop (offset + bytes.length)

/-- The part of a buffer that belongs to frame `i`. -/
def frameAt (size i : Nat) (buffer : List UInt8) : List UInt8 :=
  (buffer.drop (i * size)).take size

section Buffers

variable {buffer bytes xs ys : List UInt8} {offset size n i k : Nat}

theorem length_overwrite (h : offset + bytes.length ≤ buffer.length) :
    (overwrite buffer offset bytes).length = buffer.length := by
  simp only [overwrite, List.length_append, List.length_take, List.length_drop]
  omega

theorem getElem?_overwrite (h : offset ≤ buffer.length) (j : Nat) :
    (overwrite buffer offset bytes)[j]? =
      if j < offset then buffer[j]?
      else if j < offset + bytes.length then bytes[j - offset]?
      else buffer[j]? := by
  have hleft : (buffer.take offset).length = offset := List.length_take_of_le h
  rw [overwrite, List.append_assoc]
  split_ifs with hbefore hwithin
  · rw [List.getElem?_append_left (by omega), List.getElem?_take_of_lt hbefore]
  · rw [List.getElem?_append_right (by omega), hleft, List.getElem?_append_left (by omega)]
  · rw [List.getElem?_append_right (by omega), hleft, List.getElem?_append_right (by omega),
      List.getElem?_drop]
    congr 1
    omega

theorem getElem?_frameAt (j : Nat) :
    (frameAt size i buffer)[j]? = if j < size then buffer[i * size + j]? else none := by
  rw [frameAt, List.getElem?_take, List.getElem?_drop]

theorem frameAt_overwrite_self (hbytes : bytes.length = size)
    (h : (i + 1) * size ≤ buffer.length) :
    frameAt size i (overwrite buffer (i * size) bytes) = bytes := by
  rw [Nat.succ_mul] at h
  apply List.ext_getElem?
  intro j
  rw [getElem?_frameAt, getElem?_overwrite (by omega)]
  split_ifs with hj
  · omega
  · congr 1
    omega
  · omega
  · rw [List.getElem?_eq_none (by omega)]

theorem frameAt_overwrite_of_ne (hbytes : bytes.length = size)
    (h : (k + 1) * size ≤ buffer.length) (hne : i ≠ k) :
    frameAt size i (overwrite buffer (k * size) bytes) = frameAt size i buffer := by
  rw [Nat.succ_mul] at h
  apply List.ext_getElem?
  intro j
  rw [getElem?_frameAt, getElem?_frameAt, getElem?_overwrite (by omega)]
  split_ifs with hj hbefore hwithin
  · rfl
  -- The frames do not overlap.
  · exfalso
    rcases Nat.lt_or_gt_of_ne hne with hlt | hgt
    · have hle : (i + 1) * size ≤ k * size := Nat.mul_le_mul_right _ hlt
      rw [Nat.succ_mul] at hle
      omega
    · have hle : (k + 1) * size ≤ i * size := Nat.mul_le_mul_right _ hgt
      rw [Nat.succ_mul] at hle
      omega
  · rfl
  · rfl

/-- Buffers of whole frames that agree on each frame are equal. -/
theorem eq_of_frameAt_eq (hsize : 0 < size) (hxs : xs.length = n * size)
    (hys : ys.length = n * size) (h : ∀ i < n, frameAt size i xs = frameAt size i ys) :
    xs = ys := by
  apply List.ext_getElem?
  intro j
  by_cases hj : j < n * size
  -- Octet `j` stands in frame `j / size`, at `j % size`.
  · have hi : j / size < n := (Nat.div_lt_iff_lt_mul hsize).mpr hj
    have hframe := congrArg (·[j % size]?) (h (j / size) hi)
    simp only [getElem?_frameAt, if_pos (Nat.mod_lt j hsize), Nat.div_add_mod'] at hframe
    exact hframe
  · rw [List.getElem?_eq_none (by omega), List.getElem?_eq_none (by omega)]

end Buffers

/-! ## Receivers -/

/-- Writes the payload of a packet where its timestamp says, for sample frames of `w` bytes. What is
not a packet is left out. -/
def place (w : Nat) (buffer packet : List UInt8) : List UInt8 :=
  match Rtp.parse packet with
  | .ok (header, payload) => overwrite buffer (header.timestamp.toNat * w) payload
  | .error _ => buffer

/-- What a receiver makes of the packets that arrive, over `size` zero bytes. -/
def reassemble (w size : Nat) (received : List (List UInt8)) : List UInt8 :=
  received.foldl (place w) (List.replicate size 0)

theorem reassemble_concat (w size : Nat) (received : List (List UInt8)) (packet : List UInt8) :
    reassemble w size (received ++ [packet]) = place w (reassemble w size received) packet := by
  rw [reassemble, List.foldl_concat, reassemble]

/-! ## Buffers of a session -/

section Clips

variable {s : Sender} {drawn : UInt32} {format : Pcm.Format} {frameMs : UInt32}
  {framing : Pcm.Framing} {pcm : List UInt8} {i k : Nat}

/-- The timestamps of a session do not wrap. -/
def Unwrapped (framing : Pcm.Framing) (pcm : List UInt8) : Prop :=
  (framing.frames pcm).count * framing.samplesPerFrame.toNat ≤ 2 ^ 32

/-- A buffer of whole frames that holds what has arrived and zeros elsewhere. -/
structure Assembled (s : Sender) (framing : Pcm.Framing) (drawn : UInt32) (pcm : List UInt8)
    (received : List (List UInt8)) (buffer : List UInt8) : Prop where
  length_eq : buffer.length = (framing.frames pcm).count * framing.frameSize
  frame_eq : ∀ i < (framing.frames pcm).count, frameAt framing.frameSize i buffer =
    if s.clipPacket framing drawn pcm i ∈ received then clipPayload framing pcm i
    else List.replicate framing.frameSize 0

theorem timestamp_of_unwrapped (h : framing.Accepted format frameMs) (hclock : Unwrapped framing pcm)
    (hi : i < (framing.frames pcm).count) :
    (s.clipHeader framing drawn i).timestamp.toNat = i * framing.samplesPerFrame.toNat := by
  have hsamples : 0 < framing.samplesPerFrame.toNat := by
    have hsize := framing.frameSize_pos
    rw [h.size] at hsize
    exact Nat.pos_of_mul_pos_right hsize
  rw [toNat_timestamp_clipHeader]
  apply Nat.mod_eq_of_lt
  calc i * framing.samplesPerFrame.toNat
      < (framing.frames pcm).count * framing.samplesPerFrame.toNat :=
        Nat.mul_lt_mul_of_pos_right hi hsamples
    _ ≤ 2 ^ 32 := hclock

/-- Each packet of a session has one place. -/
theorem clipPacket_inj (h : framing.Accepted format frameMs) (hclock : Unwrapped framing pcm)
    (hi : i < (framing.frames pcm).count) (hk : k < (framing.frames pcm).count)
    (heq : s.clipPacket framing drawn pcm i = s.clipPacket framing drawn pcm k) : i = k := by
  -- Equal packets have equal timestamps, and these are the positions.
  have hread := congrArg Rtp.parse heq
  rw [parse_clipPacket, parse_clipPacket] at hread
  have hheader : s.clipHeader framing drawn i = s.clipHeader framing drawn k := by
    injection hread with hpair
    exact (Prod.mk.inj hpair).1
  have htime := congrArg (·.timestamp.toNat) hheader
  simp only [timestamp_of_unwrapped h hclock hi, timestamp_of_unwrapped h hclock hk] at htime
  have hframe : i * framing.frameSize = k * framing.frameSize := by
    rw [← index_mul_sampleFrame h, htime, index_mul_sampleFrame h]
  exact Nat.eq_of_mul_eq_mul_right framing.frameSize_pos hframe

theorem place_clipPacket (h : framing.Accepted format frameMs) (hclock : Unwrapped framing pcm)
    (hi : i < (framing.frames pcm).count) (buffer : List UInt8) :
    place format.bytesPerSampleFrame buffer (s.clipPacket framing drawn pcm i) =
      overwrite buffer (i * framing.frameSize) (clipPayload framing pcm i) := by
  rw [place, parse_clipPacket, ← index_mul_sampleFrame h,
    ← timestamp_of_unwrapped h hclock hi]

/-- Nothing has arrived yet. -/
theorem assembled_nil :
    Assembled s framing drawn pcm []
      (List.replicate ((framing.frames pcm).count * framing.frameSize) 0) where
  length_eq := List.length_replicate
  frame_eq := by
    intro i hi
    have hle : (i + 1) * framing.frameSize ≤ (framing.frames pcm).count * framing.frameSize :=
      Nat.mul_le_mul_right _ hi
    rw [Nat.succ_mul] at hle
    simp only [frameAt, List.drop_replicate, List.take_replicate, List.not_mem_nil, if_false]
    congr 1
    omega

/-- One more packet arrives, for the first time or again. -/
theorem Assembled.place (h : framing.Accepted format frameMs) (hclock : Unwrapped framing pcm)
    {received : List (List UInt8)} {buffer : List UInt8}
    (hbuffer : Assembled s framing drawn pcm received buffer)
    (hk : k < (framing.frames pcm).count) :
    Assembled s framing drawn pcm (received ++ [s.clipPacket framing drawn pcm k])
      (place format.bytesPerSampleFrame buffer (s.clipPacket framing drawn pcm k)) := by
  have hpayload : (clipPayload framing pcm k).length = framing.frameSize :=
    Pcm.Frames.length_padded _ _
  have hfits : (k + 1) * framing.frameSize ≤ buffer.length := by
    rw [hbuffer.length_eq]
    exact Nat.mul_le_mul_right _ hk
  rw [place_clipPacket h hclock hk]
  constructor
  · rw [length_overwrite, hbuffer.length_eq]
    rw [hpayload, ← Nat.succ_mul]
    exact hfits
  · intro i hi
    -- The frame of the packet is written, every other one stays as it is.
    by_cases hik : i = k
    · subst hik
      rw [frameAt_overwrite_self hpayload hfits, if_pos (by simp)]
    · have hnew : s.clipPacket framing drawn pcm i ≠ s.clipPacket framing drawn pcm k :=
        fun heq => hik (clipPacket_inj h hclock hi hk heq)
      rw [frameAt_overwrite_of_ne hpayload hfits hik, hbuffer.frame_eq i hi]
      simp [hnew]

/-- Any packets of the session, in any order. -/
theorem assembled_reassemble (h : framing.Accepted format frameMs) (hclock : Unwrapped framing pcm)
    (received : List (List UInt8)) (hsub : received ⊆ s.packets framing drawn pcm) :
    Assembled s framing drawn pcm received
      (reassemble format.bytesPerSampleFrame
        ((framing.frames pcm).count * framing.frameSize) received) := by
  -- The buffer is built from the first arrival on, so the induction takes off the last.
  induction received using List.reverseRecOn with
  | nil => exact assembled_nil
  | append_singleton received packet ih =>
    rw [List.append_subset] at hsub
    rcases mem_packets.mp (hsub.2 List.mem_cons_self) with ⟨k, hk, rfl⟩
    rw [reassemble_concat]
    exact (ih hsub.1).place h hclock hk

/-! ## The padded clip -/

/-- The clip, filled up with zero bytes to whole frames. -/
def paddedClip (framing : Pcm.Framing) (pcm : List UInt8) : List UInt8 :=
  pcm ++ List.replicate ((framing.frames pcm).count * framing.frameSize - pcm.length) 0

theorem length_paddedClip :
    (paddedClip framing pcm).length = (framing.frames pcm).count * framing.frameSize := by
  have hle : pcm.length ≤ (framing.frames pcm).count * framing.frameSize :=
    Pcm.Frames.length_le_count_mul (framing.frames pcm)
  rw [paddedClip, List.length_append, List.length_replicate]
  omega

theorem frameAt_paddedClip (hi : i < (framing.frames pcm).count) :
    frameAt framing.frameSize i (paddedClip framing pcm) = clipPayload framing pcm i := by
  have hstart : i * framing.frameSize < pcm.length := Pcm.Frames.lt_count_iff.mp hi
  have hend : (i + 1) * framing.frameSize ≤ (framing.frames pcm).count * framing.frameSize :=
    Nat.mul_le_mul_right _ hi
  rw [Nat.succ_mul] at hend
  rw [frameAt, paddedClip, List.drop_append_of_le_length hstart.le, List.take_append,
    List.take_replicate, clipPayload, Pcm.Frames.padded_eq]
  congr 2
  rw [List.length_drop]
  omega

/-! ## What has arrived decides -/

theorem Assembled.congr {received received' : List (List UInt8)} {buffer buffer' : List UInt8}
    (hbuffer : Assembled s framing drawn pcm received buffer)
    (hbuffer' : Assembled s framing drawn pcm received' buffer')
    (hmem : ∀ packet, packet ∈ received ↔ packet ∈ received') : buffer = buffer' := by
  apply eq_of_frameAt_eq framing.frameSize_pos hbuffer.length_eq hbuffer'.length_eq
  intro i hi
  rw [hbuffer.frame_eq i hi, hbuffer'.frame_eq i hi]
  simp only [hmem]

theorem Assembled.eq_paddedClip {received : List (List UInt8)} {buffer : List UInt8}
    (hbuffer : Assembled s framing drawn pcm received buffer)
    (hall : s.packets framing drawn pcm ⊆ received) : buffer = paddedClip framing pcm := by
  apply eq_of_frameAt_eq framing.frameSize_pos hbuffer.length_eq length_paddedClip
  intro i hi
  have harrived : s.clipPacket framing drawn pcm i ∈ received := hall (mem_packets.mpr ⟨i, hi, rfl⟩)
  rw [hbuffer.frame_eq i hi, if_pos harrived, frameAt_paddedClip hi]

/-- Up to 65536 packets have sequence numbers of their own. -/
theorem pairwise_sequence (hcount : (framing.frames pcm).count ≤ 65536) :
    (s.packets framing drawn pcm).Pairwise fun packet packet' =>
      ∃ header payload header' payload', Rtp.parse packet = .ok (header, payload) ∧
        Rtp.parse packet' = .ok (header', payload') ∧ header.sequence ≠ header'.sequence := by
  rw [List.pairwise_iff_getElem]
  intro i k hi hk hlt
  rw [getElem_packets hi, getElem_packets hk]
  rw [length_packets] at hi hk
  refine ⟨_, _, _, _, parse_clipPacket s framing drawn pcm i,
    parse_clipPacket s framing drawn pcm k, ?_⟩
  intro heq
  have hsequence := congrArg UInt16.toNat heq
  rw [toNat_sequence_clipHeader, toNat_sequence_clipHeader, Nat.mod_eq_of_lt (by omega),
    Nat.mod_eq_of_lt (by omega)] at hsequence
  omega

end Clips

/-! ## Reassembly -/

/-- What a receiver makes of the packets of a complete session whose timestamps do not wrap: the
frames that arrived are in their places and the others are zero, whatever the order and however
often a packet came. -/
theorem reassemble_session (s : Sender) (net : Network) (drawn : UInt32) (format : Pcm.Format)
    (pcm : List UInt8) (t : Transport) (framing : Pcm.Framing) (summary : Summary)
    (hframing : Pcm.Framing.new format s.config.frameMs = .ok framing)
    (hok : (s.stream net drawn format pcm t).outcome = .ok summary)
    (hwhole : summary.cancelled = false)
    (hclock : (t.sentSince (s.stream net drawn format pcm t).transport).length *
      framing.samplesPerFrame.toNat ≤ 2 ^ 32) :
    let F := framing.frameSize
    let D := t.sentSince (s.stream net drawn format pcm t).transport
    let n := D.length
    let clip := pcm ++ List.replicate (n * F - pcm.length) 0
    let result := reassemble format.bytesPerSampleFrame (n * F)
    (∀ packet ∈ D, ∃ header payload, Rtp.parse packet = .ok (header, payload)) ∧
    (∀ E ⊆ D, (result E).length = n * F ∧
      ∀ (i : Nat) (hi : i < n), frameAt F i (result E) =
        if D[i] ∈ E then frameAt F i clip else List.replicate F 0) ∧
    (∀ E ⊆ D, ∀ E' ⊆ D, (∀ packet, packet ∈ E ↔ packet ∈ E') → result E = result E') ∧
    (∀ E ⊆ D, D ⊆ E → result E = clip ∧ (result E).take pcm.length = pcm) ∧
    (n ≤ 65536 → D.Pairwise fun packet packet' => ∃ header payload header' payload',
      Rtp.parse packet = .ok (header, payload) ∧ Rtp.parse packet' = .ok (header', payload') ∧
      header.sequence ≠ header'.sequence) := by
  have haccepted := Pcm.Framing.accepted_of_new hframing
  rw [sentSince_of_complete hframing hok hwhole] at hclock ⊢
  rw [length_packets] at hclock
  intro F D n clip result
  have hn : n = (framing.frames pcm).count := length_packets _ _ _ _
  have hclip : clip = paddedClip framing pcm := by
    simp only [clip, hn]
    rfl
  -- The invariant of the receiver gives all that follows about its buffer.
  have hassembled : ∀ E ⊆ D, Assembled s framing drawn pcm E (result E) := by
    intro E hE
    simp only [result, hn]
    exact assembled_reassemble haccepted hclock E hE
  refine ⟨?_, ?_, ?_, ?_, ?_⟩
  · intro packet hpacket
    rcases mem_packets.mp hpacket with ⟨i, -, rfl⟩
    exact ⟨_, _, parse_clipPacket s framing drawn pcm i⟩
  · intro E hE
    refine ⟨?_, ?_⟩
    · rw [(hassembled E hE).length_eq, hn]
    · intro i hi
      have hget : D[i] = s.clipPacket framing drawn pcm i := getElem_packets hi
      rw [hn] at hi
      rw [(hassembled E hE).frame_eq i hi, hget, hclip, frameAt_paddedClip hi]
  · exact fun E hE E' hE' hmem => (hassembled E hE).congr (hassembled E' hE') hmem
  · intro E hE hall
    have hresult : result E = clip := by
      rw [hclip]
      exact (hassembled E hE).eq_paddedClip hall
    exact ⟨hresult, by rw [hresult, List.take_left]⟩
  · intro hcount
    rw [hn] at hcount
    exact pairwise_sequence hcount

/-- Both packets of a short session, once backwards and once again. -/
theorem reassemble_session_short :
    let D := usedTransport.sentSince
      (shortSender.stream .lossless 0 ⟨1000, 1, 1⟩ [1, 2, 3] usedTransport).transport
    (reassemble 1 (D.length * 2) (D.reverse ++ D)).take 3 = [1, 2, 3] := by
  intro D
  have hok : (shortSender.stream .lossless 0 ⟨1000, 1, 1⟩ [1, 2, 3] usedTransport).outcome =
      .ok ⟨2, 4, false⟩ :=
    (stream_of_unrefused 0 rfl new_shortFraming rfl (.inr (by decide)) rfl).1
  have hclock : D.length * shortFraming.samplesPerFrame.toNat ≤ 2 ^ 32 := by
    simp only [D]
    rw [sentSince_of_complete new_shortFraming hok rfl, length_packets]
    decide
  rcases reassemble_session shortSender .lossless 0 ⟨1000, 1, 1⟩ [1, 2, 3] usedTransport shortFraming
      ⟨2, 4, false⟩ new_shortFraming hok rfl hclock with
    ⟨-, -, -, hall, -⟩
  exact (hall (D.reverse ++ D) (fun packet hpacket => by simpa using hpacket)
    (List.subset_append_right _ _)).2

end Sender
end PacedRtp
