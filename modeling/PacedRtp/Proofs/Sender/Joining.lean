import Mathlib
import PacedRtp.Proofs.Pcm.Frames
import PacedRtp.Proofs.Rtp.Fixed
import PacedRtp.Proofs.Sender.Delivery

/-!
# Clips one behind the other

A clip of whole frames and a clip behind it are cut as one clip is, except for the flag: the second
clip has a first frame of its own. On the wire the flag is the marker bit, and the numbers go on
across the seam, so two runs in a row over one numbering send what a single run over both clips
sends, up to that bit.

A clip that ends within a frame is filled up with zeros, so nothing is said of other seams. Where a
clip has no buffer for its frames, the clip of both has none either.
-/

namespace PacedRtp

/-! ## The marker bit -/

namespace Rtp

/-- The packet with its marker bit turned over. -/
def flipMarker (p : List UInt8) : List UInt8 :=
  p.modify 1 (· ^^^ 0x80)

theorem typeOctet_flip (payloadType : UInt8) :
    (0x80 ||| (payloadType &&& 0x7f)) ^^^ 0x80 = (0 ||| (payloadType &&& 0x7f) : UInt8) := by
  have hall : ∀ t : UInt8, (0x80 ||| (t &&& 0x7f)) ^^^ 0x80 = (0 ||| (t &&& 0x7f) : UInt8) := by
    decide +kernel
  exact hall payloadType

/-- The marker is the only thing that a marked and an unmarked packet differ in. -/
theorem flipMarker_packet (h : Header) (payload : List UInt8) :
    flipMarker (({ h with marker := true } : Header).packet payload) =
      ({ h with marker := false } : Header).packet payload := by
  have htype : ({ h with marker := true } : Header).typeOctet ^^^ 0x80 =
      ({ h with marker := false } : Header).typeOctet := typeOctet_flip h.payloadType
  rw [Header.packet, Header.packet, Header.encode, Header.encode, ← htype]
  rfl

end Rtp

/-! ## Frames across the seam -/

namespace Pcm

/-- The frame as a later one of its clip. -/
def Frame.continued (frame : Frame) : Frame :=
  { frame with isFirst := false }

namespace Frames

/-- More of the clip behind what is left of it. -/
def extend (fs : Frames) (more : List UInt8) : Frames :=
  { fs with remaining := fs.remaining ++ more }

/-- The iterator over `bytes` that comes behind `fs`. It is at a start only if `fs` is and has
nothing to take. -/
def behind (fs : Frames) (bytes : List UInt8) : Frames :=
  { fs with remaining := bytes, isStart := fs.isStart && fs.remaining.isEmpty }

/-- Whole frames and more bytes behind them: the frames are cut as before, and the rest starts a
frame of its own. -/
theorem toList_extend (fs : Frames) (more : List UInt8) (h : fs.frameSize ∣ fs.remaining.length) :
    (fs.extend more).toList = fs.toList ++ (fs.behind more).toList := by
  induction fs using Frames.induction with
  | empty fs hempty => simp [toList_of_empty hempty, extend, behind, hempty]
  | cons fs hne ih =>
    -- There is a whole frame, since the frame size goes into what is left.
    have hle : fs.frameSize ≤ fs.remaining.length :=
      Nat.le_of_dvd (List.length_pos_iff.mpr hne) h
    have hrest : fs.tail.frameSize ∣ fs.tail.remaining.length := by
      simp only [tail, List.length_drop]
      exact Nat.dvd_sub h (Nat.dvd_refl _)
    have htail : (fs.extend more).tail = fs.tail.extend more := by
      simp [tail, extend, List.drop_append_of_le_length hle]
    have hbehind : fs.tail.behind more = fs.behind more := by
      simp [tail, behind, hne]
    have hpadded : padded fs.frameSize (fs.remaining ++ more) =
        padded fs.frameSize fs.remaining := by
      simp only [padded, List.take_append_of_le_length hle]
    rw [toList_of_ne (by simp [extend, hne]), toList_of_ne hne, htail, ih hrest, hbehind]
    simp only [extend, hpadded, List.cons_append]

/-- The same bytes without a start. -/
def unstarted (fs : Frames) : Frames :=
  { fs with isStart := false }

theorem toList_unstarted (fs : Frames) :
    fs.unstarted.toList = fs.toList.modifyHead Frame.continued := by
  by_cases h : fs.remaining = []
  · have hunstarted : fs.unstarted.toList = [] := toList_of_empty h
    rw [hunstarted, toList_of_empty h, List.modifyHead_nil]
  · have hunstarted : fs.unstarted.remaining ≠ [] := h
    rw [toList_of_ne hunstarted, toList_of_ne h, List.modifyHead_cons]
    rfl

end Frames

/-- The frames of two clips, the first of whole frames, in one. -/
theorem Framing.toList_append (framing : Framing) {a : List UInt8} (b : List UInt8)
    (haligned : framing.frameSize ∣ a.length) :
    (framing.frames (a ++ b)).toList =
      (framing.frames a).toList ++
        if a = [] then (framing.frames b).toList
        else (framing.frames b).toList.modifyHead Frame.continued := by
  have h := (framing.frames a).toList_extend b haligned
  split_ifs with hempty
  · rw [hempty] at h ⊢
    exact h
  · have hbehind : (framing.frames a).behind b = (framing.frames b).unstarted := by
      simp [frames, Frames.behind, Frames.unstarted, hempty]
    rw [hbehind, Frames.toList_unstarted] at h
    exact h

theorem Framing.hasRoom_append (framing : Framing) {a b : List UInt8} :
    (framing.frames (a ++ b)).HasRoom ↔
      (framing.frames a).HasRoom ∧ (framing.frames b).HasRoom := by
  simp only [Frames.HasRoom, frames, List.append_eq_nil_iff]
  tauto

/-- Cutting both clips in one is cutting them one after the other, panics included. -/
theorem Framing.collect_append (framing : Framing) {a : List UInt8} (b : List UInt8)
    (haligned : framing.frameSize ∣ a.length) :
    (framing.frames (a ++ b)).collect = do
      let first ← (framing.frames a).collect
      let second ← (framing.frames b).collect
      return first ++ if a = [] then second else second.modifyHead Frame.continued := by
  by_cases ha : (framing.frames a).HasRoom
  · by_cases hb : (framing.frames b).HasRoom
    · rw [Frames.collect_of_hasRoom ha, Frames.collect_of_hasRoom hb,
        Frames.collect_of_hasRoom (framing.hasRoom_append.mpr ⟨ha, hb⟩),
        framing.toList_append b haligned]
      rfl
    · rw [Frames.collect_of_hasRoom ha, Frames.collect_of_overflow hb,
        Frames.collect_of_overflow fun h => hb (framing.hasRoom_append.mp h).2]
      rfl
  · rw [Frames.collect_of_overflow ha,
      Frames.collect_of_overflow fun h => ha (framing.hasRoom_append.mp h).1]
    rfl

end Pcm

/-! ## Packets across the seam -/

namespace Rtp

variable {framing : Pcm.Framing} {a b : List UInt8}

/-- The packets of both clips in one, if one of them is empty. -/
theorem Numbering.packets_joined_of_empty (n : Numbering) (haligned : framing.frameSize ∣ a.length)
    (hempty : a = [] ∨ b = []) :
    n.packets (framing.frames (a ++ b)).toList =
      n.packets (framing.frames a).toList ++
        (n.advanceBy (framing.frames a).toList.length).packets (framing.frames b).toList := by
  rw [framing.toList_append b haligned, packets_append]
  split_ifs with ha
  · rfl
  · -- Without a frame there is no first one.
    have hnone : (framing.frames b).toList = [] :=
      Pcm.Frames.toList_of_empty (hempty.resolve_left ha)
    rw [hnone, List.modifyHead_nil]

/-- The packets of both clips in one, if neither is empty: the first packet of the second clip is
not marked. -/
theorem Numbering.packets_joined (n : Numbering) (haligned : framing.frameSize ∣ a.length)
    (ha : a ≠ []) (hb : b ≠ []) :
    ∃ (header : Header) (payload : List UInt8) (later : List (List UInt8)),
      (n.advanceBy (framing.frames a).toList.length).packets (framing.frames b).toList =
        ({ header with marker := true } : Header).packet payload :: later ∧
      n.packets (framing.frames (a ++ b)).toList =
        n.packets (framing.frames a).toList ++
          ({ header with marker := false } : Header).packet payload :: later := by
  have hremaining : (framing.frames b).remaining ≠ [] := hb
  rw [framing.toList_append b haligned, if_neg ha, packets_append,
    Pcm.Frames.toList_of_ne hremaining]
  -- The first frame of a clip stands at its start.
  exact ⟨(n.advanceBy (framing.frames a).toList.length).header true, _, _, rfl, rfl⟩

end Rtp

/-! ## Runs across the seam -/

namespace Sender

open Pcm (shortFraming)

variable {σ : Type}

/-- The sink takes every packet and leaves the stop flag alone. -/
def Sink.Tireless (sink : Sink σ) : Prop :=
  ∀ state packet,
    (∃ octets, (sink.send state packet).result = .ok octets) ∧
      (sink.send state packet).stop = false

/-- A run that sends all its frames. -/
structure SendsAll (s : Sender) (sink : Sink σ) (frames : List Pcm.Frame) (n : Rtp.Numbering)
    (state : σ) : Prop where
  packets : (s.calls sink frames n state).map (·.packet) = n.packets frames
  numbering : (s.run sink frames n state).numbering = n.advanceBy frames.length
  stopped : (s.run sink frames n state).stopped = false
  outcome : (s.run sink frames n state).outcome =
    .ok ⟨frames.length, (frames.map (·.payload.length)).sum, false⟩

theorem sendsAll_of_tireless {s : Sender} {sink : Sink σ} (hstopped : s.stopped = false)
    (hsink : sink.Tireless) (frames : List Pcm.Frame) (n : Rtp.Numbering) (state : σ) :
    s.SendsAll sink frames n state := by
  have hruns := s.runs_calls sink frames n state
  -- Whatever state the sink is in, it takes the packet and leaves the flag alone.
  have hanswered := (hruns.answered.preserved (P := fun _ => True) (fun _ _ _ => trivial) trivial).2
  have hreply : ∀ c ∈ s.calls sink frames n state, c.Taken ∧ c.reply.stop = false := by
    intro c hc
    rcases hanswered c hc with ⟨before, -, hreply⟩
    rw [Call.Taken, hreply]
    exact hsink before c.packet
  rcases hruns.complete_of_taken hstopped (fun c hc => (hreply c hc).1)
      (fun c hc => (hreply c hc).2) with
    ⟨hlength, hflag, houtcome⟩
  have hpackets := hruns.packets
  have hnumbering := hruns.numbering
  rw [hlength, List.take_length] at hpackets
  rw [hlength] at hnumbering
  refine ⟨hpackets, hnumbering, hflag, ?_⟩
  simpa only [opening, Nat.zero_add] using houtcome

theorem hasRoom_append (s : Sender) (framing : Pcm.Framing) (a b : List UInt8) :
    s.HasRoom (framing.frames (a ++ b)) ↔
      s.HasRoom (framing.frames a) ∧ s.HasRoom (framing.frames b) := by
  rw [HasRoom, HasRoom, HasRoom, framing.hasRoom_append]
  simp only [Pcm.Framing.frames, List.append_eq_nil_iff]
  tauto

/-- Two clips, the first of whole frames: how the frames of both in one differ from the frames of
each, and what two runs over one numbering send beside a single run over both. -/
theorem aligned_clips_compose (framing : Pcm.Framing) {a : List UInt8} (b : List UInt8)
    (haligned : framing.frameSize ∣ a.length) :
    ((framing.frames (a ++ b)).collect = do
      let first ← (framing.frames a).collect
      let second ← (framing.frames b).collect
      return first ++ if a = [] then second else second.modifyHead Pcm.Frame.continued) ∧
    ∀ (s : Sender) (sink : Sink σ) (n : Rtp.Numbering) (state : σ),
      s.stopped = false → sink.Tireless →
      ((∃ zs, s.pull (framing.frames (a ++ b)) = .ok zs) ↔
        (∃ xs, s.pull (framing.frames a) = .ok xs) ∧ ∃ ys, s.pull (framing.frames b) = .ok ys) ∧
      ∀ xs, s.pull (framing.frames a) = .ok xs →
        let first := s.run sink xs n state
        let next : Sender := { s with stopped := first.stopped }
        ∀ ys, next.pull (framing.frames b) = .ok ys →
          let second := next.run sink ys first.numbering first.sink
          ∃ zs, s.pull (framing.frames (a ++ b)) = .ok zs ∧
          let whole := s.run sink zs n state
          let sent₁ := (s.calls sink xs n state).map (·.packet)
          let sent₂ := (next.calls sink ys first.numbering first.sink).map (·.packet)
          let sent := (s.calls sink zs n state).map (·.packet)
          whole.numbering = second.numbering ∧
          (a = [] ∨ b = [] → sent = sent₁ ++ sent₂) ∧
          (a ≠ [] → b ≠ [] →
            ∃ (header : Rtp.Header) (payload : List UInt8) (later : List (List UInt8)),
              let marked := ({ header with marker := true } : Rtp.Header).packet payload
              let unmarked := ({ header with marker := false } : Rtp.Header).packet payload
              sent₂ = marked :: later ∧ sent = sent₁ ++ unmarked :: later ∧
                unmarked = Rtp.flipMarker marked) := by
  refine ⟨framing.collect_append b haligned, ?_⟩
  intro s sink n state hstopped hsink
  refine ⟨?_, ?_⟩
  · simp only [pull_eq_ok_iff, exists_and_left, exists_eq, and_true, s.hasRoom_append framing]
  intro xs hxs first next ys hys second
  rcases pull_eq_ok_iff.mp hxs with ⟨ha, rfl⟩
  rcases pull_eq_ok_iff.mp hys with ⟨hb, rfl⟩
  have hfirst : s.SendsAll sink (framing.frames a).toList n state :=
    sendsAll_of_tireless hstopped hsink _ n state
  -- The stop flag is still down, so the second run makes its packets as the first would.
  have hnext : next = s := by
    simp only [next, first, hfirst.stopped, ← hstopped]
  rw [hnext] at hb
  refine ⟨_, pull_of_hasRoom ((s.hasRoom_append framing a b).mpr ⟨ha, hb⟩), ?_⟩
  intro whole sent₁ sent₂ sent
  have hsecond : next.SendsAll sink (framing.frames b).toList first.numbering first.sink :=
    sendsAll_of_tireless hfirst.stopped hsink _ first.numbering first.sink
  have hwhole : s.SendsAll sink (framing.frames (a ++ b)).toList n state :=
    sendsAll_of_tireless hstopped hsink _ n state
  have hnumbering : first.numbering = n.advanceBy (framing.frames a).toList.length :=
    hfirst.numbering
  have hsent₁ : sent₁ = n.packets (framing.frames a).toList := hfirst.packets
  have hsent₂ : sent₂ =
      (n.advanceBy (framing.frames a).toList.length).packets (framing.frames b).toList := by
    rw [← hnumbering]
    exact hsecond.packets
  have hsent : sent = n.packets (framing.frames (a ++ b)).toList := hwhole.packets
  refine ⟨?_, ?_, ?_⟩
  · -- Both ways the numbering has moved past all frames.
    have hlength : (framing.frames (a ++ b)).toList.length =
        (framing.frames a).toList.length + (framing.frames b).toList.length := by
      rw [framing.toList_append b haligned, List.length_append]
      split_ifs <;> simp
    calc whole.numbering
        = n.advanceBy (framing.frames (a ++ b)).toList.length := hwhole.numbering
      _ = first.numbering.advanceBy (framing.frames b).toList.length := by
        rw [hlength, hnumbering, Rtp.Numbering.advanceBy_advanceBy]
      _ = second.numbering := hsecond.numbering.symm
  · intro hempty
    rw [hsent, hsent₁, hsent₂, n.packets_joined_of_empty haligned hempty]
  · intro ha hb
    rcases n.packets_joined haligned ha hb with ⟨header, payload, later, hmarked, hunmarked⟩
    refine ⟨header, payload, later, hsent₂.trans hmarked, ?_,
      (Rtp.flipMarker_packet header payload).symm⟩
    rw [hsent, hsent₁, hunmarked]

/-! ### Three bytes in two clips -/

/-- It takes everything. -/
def takesAll : Sink Unit where
  send _ packet := { state := (), result := .ok packet.length }

theorem tireless_takesAll : takesAll.Tireless :=
  fun _ packet => ⟨⟨packet.length, rfl⟩, rfl⟩

/-- One packet before the sequence number starts over. -/
def lastNumbering : Rtp.Numbering where
  ssrc := 7
  payloadType := Rtp.linearAudio
  samplesPerFrame := 2
  sequence := 0xffff

/-- The sequence number starts over at the seam, and the second clip is filled up. -/
theorem aligned_clips_compose_short :
    let xs : List Pcm.Frame := [⟨[1, 2], true⟩]
    let ys : List Pcm.Frame := [⟨[3, 0], true⟩]
    let first := shortSender.run takesAll xs lastNumbering ()
    let next : Sender := { shortSender with stopped := first.stopped }
    let sent₁ := shortSender.calls takesAll xs lastNumbering ()
    let sent₂ := next.calls takesAll ys first.numbering ()
    (shortFraming.frames [1, 2, 3]).collect = .ok [⟨[1, 2], true⟩, ⟨[3, 0], false⟩] ∧
      ∃ zs, shortSender.pull (shortFraming.frames [1, 2, 3]) = .ok zs ∧
        (shortSender.run takesAll zs lastNumbering ()).numbering =
          (next.run takesAll ys first.numbering ()).numbering ∧
        ∃ marked later, sent₂.map (·.packet) = marked :: later ∧
          (shortSender.calls takesAll zs lastNumbering ()).map (·.packet) =
            sent₁.map (·.packet) ++ Rtp.flipMarker marked :: later := by
  intro xs ys first next sent₁ sent₂
  have hxs : shortSender.pull (shortFraming.frames [1, 2]) = .ok xs :=
    pull_of_hasRoom (hasRoom_of_le (.inr (by decide)))
  have hys : next.pull (shortFraming.frames [3]) = .ok ys :=
    pull_of_hasRoom (hasRoom_of_le (.inr (by decide)))
  rcases @aligned_clips_compose Unit shortFraming [1, 2] [3] (by decide) with ⟨hframes, hruns⟩
  rcases (hruns shortSender takesAll lastNumbering () rfl tireless_takesAll).2 xs hxs ys hys with
    ⟨zs, hzs, hnumbering, -, hseam⟩
  rcases hseam (by decide) (by decide) with ⟨header, payload, later, hsent₂, hsent, hflip⟩
  refine ⟨hframes.trans ?_, zs, hzs, hnumbering, _, later, hsent₂, ?_⟩
  · rw [Pcm.Frames.collect_of_hasRoom (.inr (by decide)),
      Pcm.Frames.collect_of_hasRoom (.inr (by decide))]
    decide +kernel
  · rw [← hflip]
    exact hsent

end Sender
end PacedRtp
