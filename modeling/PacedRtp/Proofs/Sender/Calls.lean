import Mathlib
import PacedRtp.Sender.Run

/-!
# The calls that a run makes

A run is a function of its sink, so what the sink was asked does not show in the result. The sink
`Sink.recorded` answers like the given one and keeps the calls; `Sender.calls` reads them off.

`Loop.Runs` is the send loop as a relation: it has one rule for each of the four ways in which the
loop can go on or end, and it holds the calls beside the result. `Loop.runs` ties the relation to
the loop, so that what every run does is proved by induction over the rules.
-/

namespace PacedRtp
namespace Sender

variable {σ : Type}

/-! ## Calls -/

/-- One packet handed to a sink, and the answer. -/
structure Call (σ : Type) where
  packet : List UInt8
  reply : Reply σ

/-- The sink took the packet. -/
def Call.Taken (c : Call σ) : Prop :=
  ∃ octets, c.reply.result = .ok octets

theorem Call.Taken.ne_error {c : Call σ} (h : c.Taken) (e : Error) : c.reply.result ≠ .error e := by
  rcases h with ⟨octets, hoctets⟩
  rw [hoctets]
  exact nofun

/-- The calls are answered one after the other, each in the state that the one before it left. -/
inductive Answered (sink : Sink σ) : σ → List (Call σ) → σ → Prop where
  | nil (state : σ) : Answered sink state [] state
  | cons {state final : σ} {packet : List UInt8} {calls : List (Call σ)} :
      Answered sink (sink.send state packet).state calls final →
        Answered sink state (⟨packet, sink.send state packet⟩ :: calls) final

/-- What every answer preserves holds before each call and in the end. -/
theorem Answered.preserved {sink : Sink σ} {calls : List (Call σ)} {P : σ → Prop} {state final : σ}
    (h : Answered sink state calls final)
    (hstep : ∀ state packet, P state → P (sink.send state packet).state) (hstart : P state) :
    P final ∧ ∀ c ∈ calls, ∃ before, P before ∧ c.reply = sink.send before c.packet := by
  -- Each answer leads from a state with the property to the next.
  induction h with
  | nil => exact ⟨hstart, by simp⟩
  | @cons state final packet calls _ ih =>
    rcases ih (hstep state packet hstart) with ⟨hfinal, hcalls⟩
    refine ⟨hfinal, ?_⟩
    intro c hc
    rcases List.mem_cons.mp hc with rfl | hc
    · exact ⟨state, hstart, rfl⟩
    · exact hcalls c hc

/-- The same sink, which also keeps the calls made to it, in order. -/
def Sink.recorded (sink : Sink σ) : Sink (σ × List (Call σ)) where
  send s packet :=
    let reply := sink.send s.1 packet
    { state := (reply.state, s.2 ++ [⟨packet, reply⟩])
      result := reply.result
      stop := reply.stop }

/-- The calls of a run, in order. -/
def calls (s : Sender) (sink : Sink σ) (frames : List Pcm.Frame) (numbering : Rtp.Numbering)
    (state : σ) : List (Call σ) :=
  (s.run sink.recorded frames numbering (state, [])).sink.2

/-! ## What the loop can do -/

namespace Loop

inductive Runs (sink : Sink σ) :
    Loop → σ → Bool → List Pcm.Frame → List (Call σ) → Run σ → Prop where
  | complete (l : Loop) (state : σ) (stopped : Bool) :
      Runs sink l state stopped [] []
        ⟨.ok (l.summary false), l.numbering, state, stopped, [], l.closing false⟩
  | cancelled (l : Loop) (state : σ) (frame : Pcm.Frame) (rest : List Pcm.Frame) :
      Runs sink l state true (frame :: rest) []
        ⟨.ok (l.summary true), l.numbering, state, true, rest, l.closing true⟩
  | failed (l : Loop) (state : σ) (frame : Pcm.Frame) (rest : List Pcm.Frame) {e : Error} :
      (sink.send state (l.packet frame)).result = .error e →
        Runs sink l state false (frame :: rest) [⟨l.packet frame, sink.send state (l.packet frame)⟩]
          ⟨.error (l.failure e), l.numbering.advance, (sink.send state (l.packet frame)).state,
            (sink.send state (l.packet frame)).stop, rest, [.sendFailed l.packetsSent e]⟩
  | sent (l : Loop) (state : σ) (frame : Pcm.Frame) {rest : List Pcm.Frame} {octets : Nat}
      {calls : List (Call σ)} {r : Run σ} :
      (sink.send state (l.packet frame)).result = .ok octets →
        Runs sink (l.handedOver.counted frame) (sink.send state (l.packet frame)).state
          (sink.send state (l.packet frame)).stop rest calls r →
        Runs sink l state false (frame :: rest)
          (⟨l.packet frame, sink.send state (l.packet frame)⟩ :: calls)
          (r.after (l.handedOver.counted frame).report)

variable {sink : Sink σ} {l : Loop} {state : σ} {frame : Pcm.Frame} {rest : List Pcm.Frame}

theorem run_stopped :
    Loop.run sink (frame :: rest) l state true =
      ⟨.ok (l.summary true), l.numbering, state, true, rest, l.closing true⟩ :=
  rfl

theorem run_failed {e : Error} (h : (sink.send state (l.packet frame)).result = .error e) :
    Loop.run sink (frame :: rest) l state false =
      ⟨.error (l.failure e), l.numbering.advance, (sink.send state (l.packet frame)).state,
        (sink.send state (l.packet frame)).stop, rest, [.sendFailed l.packetsSent e]⟩ := by
  simp only [Loop.run, h, Bool.false_eq_true, if_false]
  cases e <;> rfl

theorem run_sent {octets : Nat} (h : (sink.send state (l.packet frame)).result = .ok octets) :
    Loop.run sink (frame :: rest) l state false =
      (Loop.run sink rest (l.handedOver.counted frame) (sink.send state (l.packet frame)).state
        (sink.send state (l.packet frame)).stop).after (l.handedOver.counted frame).report := by
  simp only [Loop.run, h, Bool.false_eq_true, if_false]

end Loop

/-! ## The recorded run -/

/-- The same run seen through a function of its sink. -/
def Run.mapSink {τ : Type} (f : σ → τ) (r : Run σ) : Run τ :=
  ⟨r.outcome, r.numbering, f r.sink, r.stopped, r.unread, r.log⟩

/-- Recording changes nothing but the sink's state, and what is recorded are the calls of a run by
the rules. -/
theorem Loop.run_recorded (sink : Sink σ) (frames : List Pcm.Frame) (l : Loop) (state : σ)
    (stopped : Bool) (earlier : List (Call σ)) :
    ∃ calls, Loop.Runs sink l state stopped frames calls (Loop.run sink frames l state stopped) ∧
      Loop.run sink.recorded frames l (state, earlier) stopped =
        (Loop.run sink frames l state stopped).mapSink (·, earlier ++ calls) := by
  -- One rule of `Loop.Runs` for each way through the loop; the calls so far grow on the way.
  induction frames generalizing l state stopped earlier with
  | nil => exact ⟨[], .complete l state stopped, by simp [Loop.run, Run.mapSink]⟩
  | cons frame rest ih =>
    cases stopped with
    | true =>
      refine ⟨[], .cancelled l state frame rest, ?_⟩
      rw [Loop.run_stopped, Loop.run_stopped, Run.mapSink, List.append_nil]
    | false =>
      cases hresult : (sink.send state (l.packet frame)).result with
      | error e =>
        -- The recording sink answers the same, so both runs take this branch.
        have hrecorded : (sink.recorded.send (state, earlier) (l.packet frame)).result = .error e :=
          hresult
        refine ⟨[⟨l.packet frame, sink.send state (l.packet frame)⟩], ?_, ?_⟩
        · rw [Loop.run_failed hresult]
          exact .failed l state frame rest hresult
        · rw [Loop.run_failed hresult, Loop.run_failed hrecorded]
          rfl
      | ok octets =>
        have hrecorded : (sink.recorded.send (state, earlier) (l.packet frame)).result = .ok octets :=
          hresult
        rcases ih (l.handedOver.counted frame)
            (sink.send state (l.packet frame)).state (sink.send state (l.packet frame)).stop
            (earlier ++ [⟨l.packet frame, sink.send state (l.packet frame)⟩]) with
          ⟨calls, hruns, hrun⟩
        refine ⟨⟨l.packet frame, sink.send state (l.packet frame)⟩ :: calls, ?_, ?_⟩
        · rw [Loop.run_sent hresult]
          exact .sent l state frame hresult hruns
        · rw [Loop.run_sent hresult, Loop.run_sent hrecorded]
          rw [List.append_assoc] at hrun
          exact congrArg (Run.after _) hrun

/-- The start of a run. -/
def opening (s : Sender) (numbering : Rtp.Numbering) : Loop :=
  { config := s.config, numbering }

theorem runs_calls (s : Sender) (sink : Sink σ) (frames : List Pcm.Frame)
    (numbering : Rtp.Numbering) (state : σ) :
    Loop.Runs sink (s.opening numbering) state s.stopped frames
      (s.calls sink frames numbering state) (s.run sink frames numbering state) := by
  rcases Loop.run_recorded sink frames (s.opening numbering) state s.stopped [] with
    ⟨calls, hruns, hrun⟩
  have hcalls : s.calls sink frames numbering state = calls := congrArg (·.sink.2) hrun
  rw [hcalls]
  exact hruns

/-- Recording is invisible: the recorded run is the run. -/
theorem run_recorded_eq (s : Sender) (sink : Sink σ) (frames : List Pcm.Frame)
    (numbering : Rtp.Numbering) (state : σ) :
    (s.run sink.recorded frames numbering (state, [])).mapSink Prod.fst =
      s.run sink frames numbering state := by
  rcases Loop.run_recorded sink frames (s.opening numbering) state s.stopped [] with
    ⟨calls, -, hrun⟩
  exact congrArg (Run.mapSink Prod.fst) hrun

end Sender
end PacedRtp
