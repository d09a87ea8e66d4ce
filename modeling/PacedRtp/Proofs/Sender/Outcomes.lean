import Mathlib
import PacedRtp.Proofs.Net.Peer
import PacedRtp.Proofs.Sender.Session
import PacedRtp.Proofs.Sender.Times

/-!
# How sessions end

A session cannot frame its clip, hears of no peer in time, or streams. A network answers by the peer
and the length of a datagram, and the packets of a clip are of one length and go to one peer: so a
session that streams sends all of them or none, and `clipOutcome` says which before the first is
sent. The same holds of buffers: where there is none for the first packet there is none for any. A
network whose mind changes between two equal datagrams is not modelled.
-/

namespace PacedRtp
namespace Sender

open Net

section Clips

variable {s : Sender} {net : Network} {drawn : UInt32} {format : Pcm.Format} {pcm : List UInt8}
  {t : Transport} {framing : Pcm.Framing} {peer : Endpoint}

/-! ## What becomes of a clip -/

/-- Why the network refuses the packets of a clip. An empty clip has none. -/
def clipRefusal? (net : Network) (framing : Pcm.Framing) (pcm : List UInt8) (peer : Endpoint) :
    Option Errno :=
  if pcm = [] then none else net.refusal peer (Rtp.headerLength + framing.frameSize)

/-- The result of a session that streams to `peer`. -/
def clipOutcome (s : Sender) (net : Network) (framing : Pcm.Framing) (pcm : List UInt8)
    (peer : Endpoint) : Except Error Summary :=
  match s.pull (framing.frames pcm) with
  | .error p => .error (.panic p)
  | .ok _ =>
    if s.stopped then .ok ⟨0, 0, !pcm.isEmpty⟩
    else
      match clipRefusal? net framing pcm peer with
      | some errno => .error (.transmission 0 (.number errno))
      | none =>
        .ok ⟨(framing.frames pcm).count, (framing.frames pcm).count * framing.frameSize, false⟩

/-- The packets that the session sends. -/
def clipSent (s : Sender) (net : Network) (framing : Pcm.Framing) (drawn : UInt32)
    (pcm : List UInt8) (peer : Endpoint) : List (List UInt8) :=
  match s.pull (framing.frames pcm) with
  | .error _ => []
  | .ok _ =>
    if s.stopped ∨ clipRefusal? net framing pcm peer ≠ none then []
    else s.packets framing drawn pcm

/-- A session that streams ends well, with a failed send, or for want of a buffer. -/
theorem clipOutcome_cases (s : Sender) (net : Network) (framing : Pcm.Framing) (pcm : List UInt8)
    (peer : Endpoint) :
    (∃ summary, s.clipOutcome net framing pcm peer = .ok summary) ∨
      (∃ errno, s.clipOutcome net framing pcm peer = .error (.transmission 0 (.number errno))) ∨
      ∃ p, s.clipOutcome net framing pcm peer = .error (.panic p) := by
  unfold clipOutcome
  split
  · exact .inr (.inr ⟨_, rfl⟩)
  · split
    · exact .inl ⟨_, rfl⟩
    · split
      · exact .inr (.inl ⟨_, rfl⟩)
      · exact .inl ⟨_, rfl⟩

theorem clipOutcome_of_hasRoom (hroom : s.HasRoom (framing.frames pcm)) :
    s.clipOutcome net framing pcm peer =
      if s.stopped then .ok ⟨0, 0, !pcm.isEmpty⟩
      else
        match clipRefusal? net framing pcm peer with
        | some errno => .error (.transmission 0 (.number errno))
        | none =>
          .ok ⟨(framing.frames pcm).count, (framing.frames pcm).count * framing.frameSize,
            false⟩ := by
  rw [clipOutcome, pull_of_hasRoom hroom]

theorem clipSent_of_hasRoom (hroom : s.HasRoom (framing.frames pcm)) :
    s.clipSent net framing drawn pcm peer =
      if s.stopped ∨ clipRefusal? net framing pcm peer ≠ none then []
      else s.packets framing drawn pcm := by
  rw [clipSent, pull_of_hasRoom hroom]

/-- A clip whose first packet is not refused has no packet that is. -/
theorem taken_of_clipRefusal? (h : clipRefusal? net framing pcm peer = none) :
    ∀ packet ∈ s.packets framing drawn pcm, net.refusal peer packet.length = none := by
  intro packet hpacket
  unfold clipRefusal? at h
  split_ifs at h with hempty
  · -- An empty clip has no packets.
    have hcount : (framing.frames pcm).count = 0 := Pcm.Frames.count_of_empty hempty
    have hlength := List.length_pos_of_mem hpacket
    rw [length_packets, hcount] at hlength
    cases hlength
  · rw [length_of_mem_packets hpacket]
    exact h

/-! ## Runs over the clip -/

/-- A transport never raises the stop flag. -/
theorem Loop.stopped_run_transport (frames : List Pcm.Frame) (l : Loop) (t : Transport)
    (stopped : Bool) : (Loop.run (transportSink net) frames l t stopped).stopped = stopped := by
  induction frames generalizing l t stopped with
  | nil => rfl
  | cons frame rest ih =>
    cases stopped with
    | true => rfl
    | false =>
      cases hresult : ((transportSink net).send t (l.packet frame)).result with
      | error e =>
        rw [run_failed hresult]
        rfl
      | ok octets =>
        rw [run_sent hresult]
        exact ih _ _ _

/-- With the flag up nothing is sent. -/
theorem run_of_stopped (n : Rtp.Numbering) (t : Transport) (hstopped : s.stopped = true) :
    let r := s.run (transportSink net) (framing.frames pcm).toList n t
    r.outcome = .ok ⟨0, 0, !pcm.isEmpty⟩ ∧ r.sink = t := by
  by_cases hempty : (framing.frames pcm).remaining = []
  · have hpcm : pcm = [] := hempty
    rw [Pcm.Frames.toList_of_empty hempty, hpcm]
    exact ⟨rfl, rfl⟩
  · have hpcm : pcm ≠ [] := hempty
    rw [Pcm.Frames.toList_of_ne hempty, run, hstopped, Loop.run_stopped]
    exact ⟨by simp [Loop.summary, hpcm], rfl⟩

/-- The first packet that is refused is the first packet. -/
theorem run_of_refused (n : Rtp.Numbering) (hphase : t.phase = .streaming peer)
    (hstopped : s.stopped = false) {errno : Errno}
    (hrefusal : clipRefusal? net framing pcm peer = some errno) :
    let r := s.run (transportSink net) (framing.frames pcm).toList n t
    r.outcome = .error (.transmission 0 (.number errno)) ∧ r.sink = t := by
  unfold clipRefusal? at hrefusal
  split_ifs at hrefusal with hempty
  have hremaining : (framing.frames pcm).remaining ≠ [] := hempty
  generalize hframe : (⟨Pcm.Frames.padded (framing.frames pcm).frameSize
    (framing.frames pcm).remaining, (framing.frames pcm).isStart⟩ : Pcm.Frame) = frame
  have hpayload : frame.payload.length = framing.frameSize := by
    rw [← hframe]
    exact Pcm.Frames.length_padded _ _
  have hsend : ∀ l : Loop, (transportSink net).send t (l.packet frame) =
      { state := t, result := .error (.io (.number errno)) } := by
    intro l
    change (⟨(t.send net _).2, (t.send net _).1, false⟩ : Reply Transport) = _
    rw [Transport.send_streaming hphase, Loop.packet, Rtp.Header.length_packet, hpayload, hrefusal]
  rw [Pcm.Frames.toList_of_ne hremaining, hframe, run, hstopped,
    Loop.run_failed (congrArg Reply.result (hsend _))]
  exact ⟨rfl, congrArg Reply.state (hsend _)⟩

/-- What a run over the whole clip comes to, by the answer that the network gives to its packets. -/
theorem run_clip (s : Sender) (net : Network) (framing : Pcm.Framing) (drawn : UInt32)
    (pcm : List UInt8) (hphase : t.phase = .streaming peer)
    (hroom : s.HasRoom (framing.frames pcm)) :
    let r := s.run (transportSink net) (framing.frames pcm).toList (s.numbering framing drawn) t
    r.outcome = s.clipOutcome net framing pcm peer ∧
      r.sink = t.sentTo peer (s.clipSent net framing drawn pcm peer) := by
  rw [clipOutcome_of_hasRoom hroom, clipSent_of_hasRoom hroom]
  cases hstopped : s.stopped with
  | true =>
    simp only [if_true, true_or, Transport.sentTo_nil]
    exact run_of_stopped _ t hstopped
  | false =>
    cases hrefusal : clipRefusal? net framing pcm peer with
    | some errno =>
      simp only [Bool.false_eq_true, false_or, ne_eq, reduceCtorEq, not_false_eq_true, if_true,
        if_false, Transport.sentTo_nil]
      exact run_of_refused _ hphase hstopped hrefusal
    | none =>
      simp only [Bool.false_eq_true, false_or, ne_eq, not_true, if_false]
      exact run_of_unrefused drawn pcm hstopped hphase (taken_of_clipRefusal? hrefusal)

/-! ## Sessions -/

/-- A session that finds its peer ends as its clip does. -/
theorem stream_of_clip (s : Sender) (net : Network) (drawn : UInt32) (pcm : List UInt8)
    (hframing : Pcm.Framing.new format s.config.frameMs = .ok framing)
    (hpeer : (t.waitForPeer s.config.rendezvousTimeout).result = .ok peer) :
    (s.stream net drawn format pcm t).outcome = s.clipOutcome net framing pcm peer ∧
      (s.stream net drawn format pcm t).transport =
        (t.waitForPeer s.config.rendezvousTimeout).transport.sentTo peer
          (s.clipSent net framing drawn pcm peer) := by
  by_cases hroom : s.HasRoom (framing.frames pcm)
  · have hphase := (Transport.waitForPeer_of_ok hpeer).1
    rcases stream_of_peer net drawn hframing hpeer hroom with ⟨houtcome, htransport⟩
    rcases s.run_clip net framing drawn pcm hphase hroom with ⟨hrun, hsink⟩
    exact ⟨houtcome.trans hrun, htransport.trans hsink⟩
  · rw [stream_of_overflow net drawn hframing hpeer hroom, clipOutcome, clipSent,
      pull_of_overflow hroom, Transport.sentTo_nil]
    exact ⟨rfl, rfl⟩

/-- Every way in which a session can go. -/
theorem stream_cases (s : Sender) (net : Network) (drawn : UInt32) (format : Pcm.Format)
    (pcm : List UInt8) (t : Transport) :
    (∃ e, Pcm.Framing.new format s.config.frameMs = .error e ∧
      s.stream net drawn format pcm t = ⟨.error (.config (.framing e)), t, s.stopped, []⟩) ∨
    (∃ framing, Pcm.Framing.new format s.config.frameMs = .ok framing ∧
      t.phase = .awaitingPeer ∧ t.inbound = [] ∧
      s.stream net drawn format pcm t =
        ⟨.error (.rendezvousTimeout s.config.rendezvousTimeout), t, s.stopped,
          loadedEvents framing pcm ++ [.noClient s.config.rendezvousTimeout.seconds]⟩) ∨
    ∃ framing peer, Pcm.Framing.new format s.config.frameMs = .ok framing ∧
      (t.waitForPeer s.config.rendezvousTimeout).result = .ok peer ∧
      (s.stream net drawn format pcm t).outcome = s.clipOutcome net framing pcm peer ∧
      (s.stream net drawn format pcm t).transport =
        (t.waitForPeer s.config.rendezvousTimeout).transport.sentTo peer
          (s.clipSent net framing drawn pcm peer) ∧
      (s.stream net drawn format pcm t).stopped = s.stopped ∧
      ∃ sending, (s.stream net drawn format pcm t).log =
        loadedEvents framing pcm ++ (t.waitForPeer s.config.rendezvousTimeout).log ++
          startEvents framing (s.numbering framing drawn) ++ sending := by
  cases hframing : Pcm.Framing.new format s.config.frameMs with
  | error e => exact .inl ⟨e, rfl, by simp only [stream, hframing]⟩
  | ok framing =>
    refine .inr ?_
    cases hresult : (t.waitForPeer s.config.rendezvousTimeout).result with
    | error e =>
      -- Checked settings leave time to wait, so only the queue can be at fault.
      have htime := (Config.checked_of_check s.valid).timeout_ne
      rcases t.waitForPeer_cases s.config.rendezvousTimeout with
        ⟨peer, -, hwait⟩ | ⟨-, hzero, -⟩ | ⟨hphase, -, hinbound, hwait⟩ |
          ⟨hello, rest, -, -, -, hwait⟩
      · rw [hwait] at hresult
        cases hresult
      · rw [hzero] at htime
        cases htime
      · refine .inl ⟨framing, rfl, hphase, hinbound, ?_⟩
        simp only [stream, hframing, hwait]
      · rw [hwait] at hresult
        cases hresult
    | ok peer =>
      refine .inr ⟨framing, peer, rfl, rfl, ?_⟩
      rcases s.stream_of_clip net drawn pcm hframing hresult with ⟨houtcome, htransport⟩
      refine ⟨houtcome, htransport, ?_⟩
      by_cases hroom : s.HasRoom (framing.frames pcm)
      · simp only [stream, hframing, hresult, pull_of_hasRoom hroom]
        exact ⟨Loop.stopped_run_transport _ _ _ _, _, rfl⟩
      · rw [stream_of_overflow net drawn hframing hresult hroom]
        exact ⟨rfl, [], (List.append_nil _).symm⟩

end Clips

end Sender
end PacedRtp
