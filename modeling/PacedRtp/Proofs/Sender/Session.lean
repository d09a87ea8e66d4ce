import Mathlib
import PacedRtp.Sender.Stream
import PacedRtp.Proofs.Net.Transport
import PacedRtp.Proofs.Pcm.Frames
import PacedRtp.Proofs.Sender.Accounting

/-!
# Sessions over a transport

A transport that knows its peer keeps it through a run, so a run over it has sent exactly the
packets whose calls were taken. `Sender.packets` are the packets of a whole clip: a session whose
outcome is not an early end has sent them all, and a network that refuses none of them lets every
session get there, if there is a buffer for each (`HasRoom`).
-/

namespace PacedRtp
namespace Sender

open Net

/-! ## Pulling frames -/

section Frames

variable {s : Sender} {fs : Pcm.Frames}

/-- The frames of an iterator fit into buffers, and so do the packets that are made of them. -/
def HasRoom (s : Sender) (fs : Pcm.Frames) : Prop :=
  fs.HasRoom ∧
    (s.stopped = true ∨ fs.remaining = [] ∨ Rtp.headerLength + fs.frameSize ≤ capacityLimit)

theorem hasRoom_of_le
    (h : fs.remaining = [] ∨ Rtp.headerLength + fs.frameSize ≤ capacityLimit) : s.HasRoom fs :=
  ⟨h.imp_right (Nat.le_add_left _ _).trans, .inr h⟩

theorem pull_of_hasRoom (h : s.HasRoom fs) : s.pull fs = .ok fs.toList := by
  rcases h with ⟨hframes, hpackets⟩
  rw [pull, Pcm.Frames.collect_of_hasRoom hframes]
  rcases hpackets with hstopped | hempty | hle
  · simp [hstopped, bind, Except.bind, pure, Except.pure]
  · simp [Pcm.Frames.toList_of_empty hempty, bind, Except.bind, pure, Except.pure]
  · simp [reserve_of_le hle, bind, Except.bind, pure, Except.pure]

theorem pull_of_overflow (h : ¬s.HasRoom fs) : s.pull fs = .error .capacityOverflow := by
  by_cases hframes : fs.HasRoom
  · -- The first frame has its buffer, but the packet that is made of it has none.
    rcases not_or.mp fun hpackets => h ⟨hframes, hpackets⟩ with ⟨hstopped, hlong⟩
    rcases not_or.mp hlong with ⟨hne, hlong⟩
    have hfirst : fs.toList.isEmpty = false := by
      rw [Pcm.Frames.toList_of_ne hne, List.isEmpty_cons]
    rw [pull, Pcm.Frames.collect_of_hasRoom hframes]
    simp [hstopped, hfirst, reserve_of_lt (Nat.lt_of_not_le hlong), bind, Except.bind]
  · rw [pull, Pcm.Frames.collect_of_overflow hframes]
    rfl

theorem pull_eq_ok_iff {frames : List Pcm.Frame} :
    s.pull fs = .ok frames ↔ s.HasRoom fs ∧ frames = fs.toList := by
  by_cases h : s.HasRoom fs
  · simp [pull_of_hasRoom h, h, eq_comm]
  · simp [pull_of_overflow h, h]

end Frames

/-! ## Runs over a transport -/

section Transports

variable {net : Network} {t final : Transport} {peer : Endpoint} {calls : List (Call Transport)}

theorem phase_send (packet : List UInt8) (h : t.phase = .streaming peer) :
    ((transportSink net).send t packet).state.phase = .streaming peer := by
  change (t.send net packet).2.phase = .streaming peer
  rcases Transport.send_cases net packet h with ⟨-, hsent⟩ | ⟨-, hkept⟩
  · rw [hsent, Transport.phase_sentTo, h]
  · rw [hkept, h]

/-- Calls that were all taken have sent their packets. -/
theorem Answered.transport_eq (h : Answered (transportSink net) t calls final)
    (hphase : t.phase = .streaming peer) (htaken : ∀ c ∈ calls, c.Taken) :
    final = t.sentTo peer (calls.map (·.packet)) := by
  induction h with
  | nil => simp
  | @cons t final packet calls _ ih =>
    -- The first call sent its packet, the others sent theirs from there.
    have hnext := ih (phase_send packet hphase) fun c hc => htaken c (List.mem_cons_of_mem _ hc)
    rcases htaken _ List.mem_cons_self with ⟨octets, hoctets⟩
    rcases Transport.send_cases net packet hphase with
      ⟨-, hsent⟩ | ⟨⟨e, herror⟩, -⟩
    · change final = ((t.send net packet).2).sentTo peer _ at hnext
      rw [hnext, hsent, Transport.sentTo_sentTo]
      rfl
    · change (t.send net packet).1 = .ok octets at hoctets
      rw [herror] at hoctets
      cases hoctets

/-- No answer of a transport raises the stop flag. -/
theorem Answered.stop_eq_false (h : Answered (transportSink net) t calls final) :
    ∀ c ∈ calls, c.reply.stop = false := by
  intro c hc
  rcases (h.preserved (P := fun _ => True) (fun _ _ _ => trivial) trivial).2 c hc with
    ⟨before, -, hreply⟩
  rw [hreply]
  rfl

/-- A network that refuses none of the packets takes every call. -/
theorem Answered.taken (h : Answered (transportSink net) t calls final)
    (hphase : t.phase = .streaming peer)
    (hnet : ∀ c ∈ calls, net.refusal peer c.packet.length = none) : ∀ c ∈ calls, c.Taken := by
  intro c hc
  rcases (h.preserved (P := fun t => t.phase = .streaming peer) (fun _ => phase_send) hphase).2 c hc
      with
    ⟨before, hbefore, hreply⟩
  refine ⟨c.packet.length, ?_⟩
  rw [hreply]
  change (before.send net c.packet).1 = _
  rw [Transport.send_unrefused hbefore (hnet c hc)]

end Transports

/-! ## Complete runs -/

section Complete

variable {net : Network} {t : Transport} {peer : Endpoint} {n : Rtp.Numbering}
  {frames : List Pcm.Frame}

/-- A run that was not cut short has sent the packets of all its frames. -/
theorem sink_of_complete (s : Sender) {summary : Summary} (hphase : t.phase = .streaming peer)
    (hok : (s.run (transportSink net) frames n t).outcome = .ok summary)
    (hwhole : summary.cancelled = false) :
    (s.run (transportSink net) frames n t).sink = t.sentTo peer (n.packets frames) := by
  have hruns := s.runs_calls (transportSink net) frames n t
  have hfinished := hruns.finished hok
  have hpackets := hruns.packets
  rw [hfinished.complete hwhole, List.take_length] at hpackets
  rw [hruns.answered.transport_eq hphase hfinished.taken, hpackets]
  rfl

/-- A run without refusals is complete unless the stop flag was up at its start. -/
theorem outcome_of_unrefused (s : Sender) (hstopped : s.stopped = false)
    (hphase : t.phase = .streaming peer)
    (hnet : ∀ packet ∈ n.packets frames, net.refusal peer packet.length = none) :
    (s.run (transportSink net) frames n t).outcome =
      .ok ⟨frames.length, (frames.map (·.payload.length)).sum, false⟩ := by
  have hruns := s.runs_calls (transportSink net) frames n t
  have htaken : ∀ c ∈ s.calls (transportSink net) frames n t, c.Taken := by
    apply hruns.answered.taken hphase
    intro c hc
    apply hnet
    -- The calls are made with packets of a prefix of the frames.
    have hmem : c.packet ∈ (s.calls (transportSink net) frames n t).map (·.packet) :=
      List.mem_map_of_mem hc
    rw [hruns.packets, Rtp.Numbering.packets_take] at hmem
    exact List.mem_of_mem_take hmem
  rcases hruns.complete_of_taken hstopped htaken hruns.answered.stop_eq_false with
    ⟨-, -, houtcome⟩
  simpa only [opening, Nat.zero_add] using houtcome

end Complete

/-! ## Sessions -/

section Clips

variable {s : Sender} {net : Network} {drawn : UInt32} {format : Pcm.Format} {pcm : List UInt8}
  {t : Transport} {framing : Pcm.Framing} {peer : Endpoint}

/-- The packets of a clip, from the first frame to the last. -/
def packets (s : Sender) (framing : Pcm.Framing) (drawn : UInt32) (pcm : List UInt8) :
    List (List UInt8) :=
  (s.numbering framing drawn).packets (framing.frames pcm).toList

@[simp] theorem length_packets (s : Sender) (framing : Pcm.Framing) (drawn : UInt32)
    (pcm : List UInt8) :
    (s.packets framing drawn pcm).length = (framing.frames pcm).count := by
  simp [packets]

theorem length_of_mem_packets {packet : List UInt8} (h : packet ∈ s.packets framing drawn pcm) :
    packet.length = Rtp.headerLength + framing.frameSize := by
  rcases List.mem_iff_getElem?.mp h with ⟨k, hk⟩
  rw [packets, Rtp.Numbering.getElem?_packets, Option.map_eq_some_iff] at hk
  rcases hk with ⟨frame, hframe, rfl⟩
  rw [Rtp.Header.length_packet, Pcm.Frames.length_of_mem_toList (List.mem_of_getElem? hframe)]
  rfl

/-- The run of a session that has its framing and its peer. -/
def clipRun (s : Sender) (net : Network) (drawn : UInt32) (framing : Pcm.Framing)
    (pcm : List UInt8) (t : Transport) : Run Transport :=
  s.run (transportSink net) (framing.frames pcm).toList (s.numbering framing drawn)
    (t.waitForPeer s.config.rendezvousTimeout).transport

theorem stream_of_peer (net : Network) (drawn : UInt32)
    (hframing : Pcm.Framing.new format s.config.frameMs = .ok framing)
    (hpeer : (t.waitForPeer s.config.rendezvousTimeout).result = .ok peer)
    (hroom : s.HasRoom (framing.frames pcm)) :
    (s.stream net drawn format pcm t).outcome = (s.clipRun net drawn framing pcm t).outcome ∧
      (s.stream net drawn format pcm t).transport = (s.clipRun net drawn framing pcm t).sink := by
  simp only [stream, hframing, hpeer, pull_of_hasRoom hroom]
  exact ⟨rfl, rfl⟩

/-- Without room for its first packet a session ends before it sends anything. -/
theorem stream_of_overflow (net : Network) (drawn : UInt32)
    (hframing : Pcm.Framing.new format s.config.frameMs = .ok framing)
    (hpeer : (t.waitForPeer s.config.rendezvousTimeout).result = .ok peer)
    (hroom : ¬s.HasRoom (framing.frames pcm)) :
    s.stream net drawn format pcm t =
      ⟨.error (.panic .capacityOverflow), (t.waitForPeer s.config.rendezvousTimeout).transport,
        s.stopped, loadedEvents framing pcm ++ (t.waitForPeer s.config.rendezvousTimeout).log ++
          startEvents framing (s.numbering framing drawn)⟩ := by
  simp only [stream, hframing, hpeer, pull_of_overflow hroom]

theorem exists_peer_of_ok {summary : Summary}
    (hok : (s.stream net drawn format pcm t).outcome = .ok summary) :
    ∃ framing peer, Pcm.Framing.new format s.config.frameMs = .ok framing ∧
      (t.waitForPeer s.config.rendezvousTimeout).result = .ok peer ∧
      s.HasRoom (framing.frames pcm) := by
  unfold stream at hok
  split at hok
  · cases hok
  · rename_i framing hframing
    dsimp only at hok
    split at hok
    · cases hok
    · rename_i peer hpeer
      split at hok
      · cases hok
      · rename_i frames hpull
        exact ⟨framing, peer, hframing, hpeer, (pull_eq_ok_iff.mp hpull).1⟩

/-- A session that was not cut short has sent the packets of the whole clip and nothing else. -/
theorem sentSince_of_complete {summary : Summary}
    (hframing : Pcm.Framing.new format s.config.frameMs = .ok framing)
    (hok : (s.stream net drawn format pcm t).outcome = .ok summary)
    (hwhole : summary.cancelled = false) :
    t.sentSince (s.stream net drawn format pcm t).transport = s.packets framing drawn pcm := by
  rcases exists_peer_of_ok hok with ⟨framing', peer, hframing', hpeer, hroom⟩
  cases hframing.symm.trans hframing'
  rcases Transport.waitForPeer_of_ok hpeer with ⟨hphase, houtbound⟩
  rcases stream_of_peer net drawn hframing hpeer hroom with ⟨houtcome, htransport⟩
  rw [houtcome] at hok
  rw [htransport, clipRun, sink_of_complete s hphase hok hwhole,
    Transport.sentSince_sentTo houtbound, packets]

/-- A run over the whole clip is complete if the stop flag is down and no packet is refused. -/
theorem run_of_unrefused (drawn : UInt32) (pcm : List UInt8) (hstopped : s.stopped = false)
    (hphase : t.phase = .streaming peer)
    (hnet : ∀ packet ∈ s.packets framing drawn pcm, net.refusal peer packet.length = none) :
    let n := (framing.frames pcm).count
    let r := s.run (transportSink net) (framing.frames pcm).toList (s.numbering framing drawn) t
    r.outcome = .ok ⟨n, n * framing.frameSize, false⟩ ∧
      r.sink = t.sentTo peer (s.packets framing drawn pcm) := by
  intro n r
  have hok : r.outcome = .ok ⟨n, n * framing.frameSize, false⟩ := by
    rw [outcome_of_unrefused s hstopped hphase hnet, Pcm.Frames.length_toList,
      Pcm.Frames.sum_lengths]
    rfl
  exact ⟨hok, sink_of_complete s hphase hok rfl⟩

/-- A session is complete if the peer is found, there is room for the packets, the stop flag is down
and no packet is refused. -/
theorem stream_of_unrefused (drawn : UInt32) (hstopped : s.stopped = false)
    (hframing : Pcm.Framing.new format s.config.frameMs = .ok framing)
    (hpeer : (t.waitForPeer s.config.rendezvousTimeout).result = .ok peer)
    (hroom : pcm = [] ∨ Rtp.headerLength + framing.frameSize ≤ capacityLimit)
    (hnet : net.refusal peer (Rtp.headerLength + framing.frameSize) = none) :
    let n := (framing.frames pcm).count
    (s.stream net drawn format pcm t).outcome = .ok ⟨n, n * framing.frameSize, false⟩ ∧
      (s.stream net drawn format pcm t).transport =
        (t.waitForPeer s.config.rendezvousTimeout).transport.sentTo peer
          (s.packets framing drawn pcm) := by
  intro n
  rcases Transport.waitForPeer_of_ok hpeer with ⟨hphase, -⟩
  rcases stream_of_peer net drawn hframing hpeer (hasRoom_of_le hroom) with ⟨houtcome, htransport⟩
  have htaken : ∀ packet ∈ s.packets framing drawn pcm, net.refusal peer packet.length = none := by
    intro packet hpacket
    rw [length_of_mem_packets hpacket]
    exact hnet
  rcases run_of_unrefused drawn pcm hstopped hphase htaken with ⟨hok, hsink⟩
  exact ⟨houtcome.trans hok, htransport.trans hsink⟩

end Clips

end Sender
end PacedRtp
