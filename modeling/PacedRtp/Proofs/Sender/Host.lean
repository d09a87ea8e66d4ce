import Mathlib
import PacedRtp.Proofs.Sender.Session
import PacedRtp.Proofs.Sender.Settings
import PacedRtp.Sender.Host

/-!
# Hosts that are values

What is driven on a host is what is run over a sink. A sink becomes an outlet, and a transport a
host, by acting on a `World`, which keeps what has been done so far. There `Loop.drive` is the send
loop with its pauses (`drive_eq_paced`), and `drive` is the session (`drive_eq_stream`).

A real host may differ from these in that its flag rises between two answers of the sink, and that
more datagrams arrive while it waits.
-/

namespace PacedRtp
namespace Sender

open Net

/-! ## Worlds -/

/-- What a host acts on: a sink, the stop flag, what has been done so far, and anything else. -/
structure World (σ ρ : Type) where
  sink : σ
  stopped : Bool
  acts : List (Act σ) := []
  rest : ρ

namespace World

variable {σ ρ : Type}

/-- The sink is handed a packet, and may raise the stop flag. -/
def call (sink : Sink σ) (packet : List UInt8) (w : World σ ρ) : World σ ρ :=
  let reply := sink.send w.sink packet
  { w with
    sink := reply.state
    stopped := reply.stop
    acts := w.acts ++ [.call ⟨packet, reply⟩] }

def report (events : List Event) (w : World σ ρ) : World σ ρ :=
  { w with acts := w.acts ++ events.map .report }

def pause (lengths : List Duration) (w : World σ ρ) : World σ ρ :=
  { w with acts := w.acts ++ lengths.map .pause }

theorem report_report (events later : List Event) (w : World σ ρ) :
    (w.report events).report later = w.report (events ++ later) := by
  simp [report]

@[simp] theorem pause_nil (w : World σ ρ) : w.pause [] = w := by
  simp [pause]

/-- What has been reported. -/
def log (w : World σ ρ) : List Event :=
  w.acts.filterMap Act.event?

@[simp] theorem log_report (events : List Event) (w : World σ ρ) :
    (w.report events).log = w.log ++ events := by
  simp [log, report, List.filterMap_map, Function.comp_def, Act.event?]

/-- A run is over, and its acts are done. -/
def after (w : World σ ρ) (run : Run σ × List (Act σ)) : World σ ρ :=
  { w with
    sink := run.1.sink
    stopped := run.1.stopped
    acts := w.acts ++ run.2 }

@[simp] theorem log_after (w : World σ ρ) (run : Run σ × List (Act σ)) :
    (w.after run).log = w.log ++ run.2.filterMap Act.event? :=
  List.filterMap_append

/-- The peer is looked for on the transport. -/
def meet (timeout : Duration) (w : World Transport ρ) : World Transport ρ :=
  let waited := w.sink.waitForPeer timeout
  { w with sink := waited.transport }.report waited.log

@[simp] theorem log_meet (timeout : Duration) (w : World Transport ρ) :
    (w.meet timeout).log = w.log ++ (w.sink.waitForPeer timeout).log :=
  log_report _ _

end World

/-- A sink as an outlet. -/
def outlet {σ ρ : Type} (sink : Sink σ) : Outlet (StateM (World σ ρ)) where
  stopped w := (w.stopped, w)
  send packet w := ((sink.send w.sink packet).result, w.call sink packet)
  report events w := ((), w.report events)
  pause length w := ((), w.pause [length])

/-- A transport as a host. -/
def host {ρ : Type} (net : Network) (drawn : UInt32) : Host (StateM (World Transport ρ)) where
  toOutlet := outlet (transportSink net)
  waitForPeer timeout w := ((w.sink.waitForPeer timeout).result, w.meet timeout)
  drawn w := (drawn, w)

/-! ## The send loop -/

section Loops

variable {σ ρ : Type} {sink : Sink σ} {l : Loop} {frame : Pcm.Frame} {w : World σ ρ}

/-- One step after the other on a world. -/
theorem run_bind {α β : Type} (x : StateM (World σ ρ) α) (f : α → StateM (World σ ρ) β)
    (w : World σ ρ) : (x >>= f).run w = (f (x.run w).1).run (x.run w).2 :=
  rfl

theorem outlet_stopped (sink : Sink σ) (w : World σ ρ) :
    (outlet sink).stopped.run w = (w.stopped, w) :=
  rfl

theorem outlet_send (sink : Sink σ) (packet : List UInt8) (w : World σ ρ) :
    ((outlet sink).send packet).run w =
      ((sink.send w.sink packet).result, w.call sink packet) :=
  rfl

theorem Loop.drive_cancelled (interval : Duration) (rest : List Pcm.Frame)
    (hstopped : w.stopped = true) :
    (Loop.drive (outlet sink) interval (frame :: rest) l).run w =
      (.ok (l.summary true), w.report (l.closing true)) := by
  rw [Loop.drive, run_bind, outlet_stopped, hstopped, if_pos rfl]
  rfl

theorem Loop.drive_failed (interval : Duration) (rest : List Pcm.Frame) {e : Error}
    (hstopped : w.stopped = false)
    (hresult : (sink.send w.sink (l.packet frame)).result = .error e) :
    (Loop.drive (outlet sink) interval (frame :: rest) l).run w =
      (.error (l.failure e),
        (w.call sink (l.packet frame)).report [.sendFailed l.packetsSent e]) := by
  rw [Loop.drive, run_bind, outlet_stopped, hstopped, if_neg Bool.false_ne_true, run_bind,
    outlet_send, hresult]
  rfl

theorem Loop.drive_sent (interval : Duration) (rest : List Pcm.Frame) {octets : Nat}
    (hstopped : w.stopped = false)
    (hresult : (sink.send w.sink (l.packet frame)).result = .ok octets) :
    (Loop.drive (outlet sink) interval (frame :: rest) l).run w =
      (Loop.drive (outlet sink) interval rest (l.handedOver.counted frame)).run
        (((w.call sink (l.packet frame)).report (l.handedOver.counted frame).report).pause
          (pauses interval)) := by
  rw [Loop.drive, run_bind, outlet_stopped, hstopped, if_neg Bool.false_ne_true, run_bind,
    outlet_send, hresult]
  cases hzero : interval.isZero with
  | true =>
    rw [pauses, hzero, if_pos rfl, World.pause_nil]
    rfl
  | false =>
    rw [pauses, hzero]
    rfl

/-- On a world the loop is the run with its pauses. -/
theorem Loop.drive_eq_paced (sink : Sink σ) (interval : Duration) (frames : List Pcm.Frame)
    (l : Loop) (w : World σ ρ) :
    (Loop.drive (outlet sink) interval frames l).run w =
      let paced := Loop.paced sink interval frames l w.sink w.stopped
      (paced.1.outcome, w.after paced) := by
  induction frames generalizing l w with
  | nil => rfl
  | cons frame rest ih =>
    cases hstopped : w.stopped with
    | true =>
      rw [Loop.drive_cancelled interval rest hstopped, Loop.paced, if_pos rfl]
      simp [World.report, World.after, hstopped]
    | false =>
      cases hresult : (sink.send w.sink (l.packet frame)).result with
      | error e =>
        rw [Loop.drive_failed interval rest hstopped hresult]
        simp only [Loop.paced, hresult, World.after, World.call, World.report, Bool.false_eq_true,
          if_false, List.append_assoc]
        rfl
      | ok octets =>
        rw [Loop.drive_sent interval rest hstopped hresult, ih]
        simp only [Loop.paced, hresult, World.after, World.call, World.report, World.pause,
          Bool.false_eq_true, if_false, List.append_assoc]
        rfl

end Loops

/-! ## Sessions -/

section Sessions

variable {ρ : Type} {s : Sender} {net : Network} {drawn : UInt32} {format : Pcm.Format}
  {pcm : List UInt8} {framing : Pcm.Framing} {w : World Transport ρ}

theorem host_report (events : List Event) (w : World Transport ρ) :
    ((host net drawn).report events).run w = ((), w.report events) :=
  rfl

theorem drive_of_unframed {e : Pcm.FramingError}
    (hframing : Pcm.Framing.new format s.config.frameMs = .error e) :
    (drive (host net drawn) s format pcm).run w = (.error (.config (.framing e)), w) := by
  simp only [drive, hframing]
  rfl

theorem drive_of_unheard (hframing : Pcm.Framing.new format s.config.frameMs = .ok framing)
    {e : Error} (hpeer : (w.sink.waitForPeer s.config.rendezvousTimeout).result = .error e) :
    (drive (host net drawn) s format pcm).run w =
      (.error e, (w.report (loadedEvents framing pcm)).meet s.config.rendezvousTimeout) := by
  have hmeet : ((host net drawn).waitForPeer s.config.rendezvousTimeout).run
      (w.report (loadedEvents framing pcm)) = (.error e, _) := congrArg (·, _) hpeer
  simp only [drive, hframing]
  rw [run_bind, host_report, run_bind, hmeet]
  rfl

/-- The world of a session that has found its peer. -/
def World.start (s : Sender) (framing : Pcm.Framing) (drawn : UInt32) (pcm : List UInt8)
    (w : World Transport ρ) : World Transport ρ :=
  ((w.report (loadedEvents framing pcm)).meet s.config.rendezvousTimeout).report
    (startEvents framing (s.numbering framing drawn))

theorem World.log_start (w : World Transport ρ) :
    (w.start s framing drawn pcm).log =
      w.log ++ (loadedEvents framing pcm ++
        (w.sink.waitForPeer s.config.rendezvousTimeout).log ++
        startEvents framing (s.numbering framing drawn)) := by
  rw [start, log_report, log_meet, log_report, List.append_assoc, List.append_assoc,
    List.append_assoc]
  rfl

theorem drive_of_heard (hframing : Pcm.Framing.new format s.config.frameMs = .ok framing)
    {peer : Endpoint}
    (hpeer : (w.sink.waitForPeer s.config.rendezvousTimeout).result = .ok peer)
    {interval : Duration} (hinterval : s.config.pacingInterval = .ok interval) :
    (drive (host net drawn) s format pcm).run w =
      match s.pull (framing.frames pcm) with
      | .error p => (.error (.panic p), w.start s framing drawn pcm)
      | .ok frames =>
        let paced := Loop.paced (transportSink net) interval frames
          (s.opening (s.numbering framing drawn)) (w.start s framing drawn pcm).sink w.stopped
        (paced.1.outcome, (w.start s framing drawn pcm).after paced) := by
  have hmeet : ((host net drawn).waitForPeer s.config.rendezvousTimeout).run
      (w.report (loadedEvents framing pcm)) = (.ok peer, _) := congrArg (·, _) hpeer
  simp only [drive, hframing, hinterval]
  rw [run_bind, host_report, run_bind, hmeet]
  cases s.pull (framing.frames pcm) with
  | error p => rfl
  | ok frames => exact Loop.drive_eq_paced _ _ _ _ _

/-- What is driven on a world comes to a session: its result, its transport, its flag and its
reports. -/
structure World.ComesTo (w : World Transport ρ) (driven : Except Error Summary × World Transport ρ)
    (session : Session) : Prop where
  outcome : driven.1 = session.outcome
  transport : driven.2.sink = session.transport
  stopped : driven.2.stopped = session.stopped
  log : driven.2.log = w.log ++ session.log
  rest : driven.2.rest = w.rest

theorem comesTo_of_heard (hstopped : w.stopped = s.stopped)
    (hframing : Pcm.Framing.new format s.config.frameMs = .ok framing) {peer : Endpoint}
    (hpeer : (w.sink.waitForPeer s.config.rendezvousTimeout).result = .ok peer) :
    w.ComesTo ((drive (host net drawn) s format pcm).run w)
      (s.stream net drawn format pcm w.sink) := by
  rcases Config.pacingInterval_of_check s.valid with ⟨interval, hinterval⟩
  rw [drive_of_heard hframing hpeer hinterval]
  cases hpull : s.pull (framing.frames pcm) with
  | error p =>
    simp only [stream, hframing, hpeer, hpull]
    exact ⟨rfl, rfl, hstopped, World.log_start w, rfl⟩
  | ok frames =>
    simp only [stream, hframing, hpeer, hpull, hstopped]
    rcases (s.runs_calls (transportSink net) frames (s.numbering framing drawn)
      (w.start s framing drawn pcm).sink).paced interval with ⟨acts, hpaced, hacts⟩
    rw [hpaced]
    refine ⟨rfl, rfl, rfl, ?_, rfl⟩
    rw [World.log_after, World.log_start, hacts.log_eq, List.append_assoc]
    rfl

/-- On a world with the sender's stop flag what is driven is the session. -/
theorem drive_eq_stream (s : Sender) (net : Network) (drawn : UInt32) (format : Pcm.Format)
    (pcm : List UInt8) (hstopped : w.stopped = s.stopped) :
    w.ComesTo ((drive (host net drawn) s format pcm).run w)
      (s.stream net drawn format pcm w.sink) := by
  cases hframing : Pcm.Framing.new format s.config.frameMs with
  | error e =>
    rw [drive_of_unframed hframing]
    simp only [stream, hframing]
    exact ⟨rfl, rfl, hstopped, (List.append_nil _).symm, rfl⟩
  | ok framing =>
    cases hpeer : (w.sink.waitForPeer s.config.rendezvousTimeout).result with
    | error e =>
      rw [drive_of_unheard hframing hpeer]
      simp only [stream, hframing, hpeer]
      refine ⟨rfl, rfl, hstopped, ?_, rfl⟩
      rw [World.log_meet, World.log_report, List.append_assoc]
      rfl
    | ok peer => exact comesTo_of_heard hstopped hframing hpeer

end Sessions

end Sender
end PacedRtp
