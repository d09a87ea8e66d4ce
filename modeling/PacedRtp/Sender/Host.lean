import PacedRtp.Sender.Stream

/-!
# Streaming on a host

The send loop and the streaming of a clip as steps that a host carries out: it knows the stop flag,
takes packets and reports, lets time pass, finds the peer and draws numbers. The host acts in a monad
of its own, so the same steps run on real sockets and clocks and on a transport that is a value.
-/

namespace PacedRtp
namespace Sender

variable {m : Type → Type}

/-! ## What is asked of a host -/

/-- What the send loop needs. -/
structure Outlet (m : Type → Type) where
  /-- Whether the stop flag is up. -/
  stopped : m Bool
  /-- Hands a packet over; gives the octets taken. -/
  send : List UInt8 → m (Except Error Nat)
  report : List Event → m Unit
  pause : Duration → m Unit

/-- What a session needs besides. -/
structure Host (m : Type → Type) extends Outlet m where
  /-- Makes sure that the peer is known, within the time given. -/
  waitForPeer : Duration → m (Except Error Net.Endpoint)
  /-- A source identifier for a stream that has none. -/
  drawn : m UInt32

/-! ## Steps -/

/-- The send loop, with a pause behind each packet that was taken. -/
def Loop.drive [Monad m] (o : Outlet m) (interval : Duration) :
    List Pcm.Frame → Loop → m (Except Error Summary)
  | [], l => do
    o.report (l.closing false)
    return .ok (l.summary false)
  | frame :: rest, l => do
    if ← o.stopped then
      o.report (l.closing true)
      return .ok (l.summary true)
    else
      let sent ← o.send (l.packet frame)
      let l := l.handedOver
      match sent with
      | .error e =>
        o.report [.sendFailed l.packetsSent e]
        return .error (l.failure e)
      | .ok _ =>
        let l := l.counted frame
        o.report l.report
        if !interval.isZero then
          o.pause interval
        Loop.drive o interval rest l

/-- Streams a clip to the peer that the host finds. -/
def drive [Monad m] (h : Host m) (s : Sender) (format : Pcm.Format) (pcm : List UInt8) :
    m (Except Error Summary) := do
  match Pcm.Framing.new format s.config.frameMs with
  | .error e => return .error (.config (.framing e))
  | .ok framing =>
    h.report (loadedEvents framing pcm)
    match ← h.waitForPeer s.config.rendezvousTimeout with
    | .error e => return .error e
    | .ok _ =>
      let numbering := s.numbering framing (← h.drawn)
      h.report (startEvents framing numbering)
      match s.config.pacingInterval with
      | .error e => return .error (.panic (.conversion e))
      | .ok interval =>
        match s.pull (framing.frames pcm) with
        | .error p => return .error (.panic p)
        | .ok frames => Loop.drive h.toOutlet interval frames { config := s.config, numbering }

end Sender
end PacedRtp
