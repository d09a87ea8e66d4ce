import Mathlib
import PacedRtp.Proofs.Sender.Delivery
import PacedRtp.Proofs.Sender.Log
import PacedRtp.Proofs.Sender.Splitting
import PacedRtp.Proofs.Sender.Times

/-!
# What the settings leave alone

A sender's settings say how long to pause between two packets, when to report, and what a new stream
is to write into its headers. None of this reaches the stream of a run: the packets are made from
the numbering that the run is given, and where the run ends is decided by the frames, the stop flag
and the sink. Of the sink only the decisions count, not the octets that it says it took.

`Loop.paced` is the run with its pauses. It keeps what the run does in order, and leaves what
`Loop.run` leaves. How long a pause really lasts is not modelled, nor that somebody may raise the
stop flag meanwhile: a flag that rises behind a packet rises with the sink's answer to it.
-/

namespace PacedRtp
namespace Sender

variable {σ τ : Type}

/-! ## Runs with pauses -/

/-- What a run does that its surroundings notice. -/
inductive Act (σ : Type)
  | call (call : Call σ)
  | report (event : Event)
  | pause (length : Duration)

namespace Act

def call? : Act σ → Option (Call σ)
  | .call c => some c
  | _ => none

def event? : Act σ → Option Event
  | .report event => some event
  | _ => none

def pause? : Act σ → Option Duration
  | .pause length => some length
  | _ => none

end Act

/-- The pause behind a packet that was taken. An interval of zero is not waited for. -/
def pauses (interval : Duration) : List Duration :=
  if interval.isZero then [] else [interval]

/-- The send loop with its pauses: what it leaves, and what it does in order. -/
def Loop.paced (sink : Sink σ) (interval : Duration) :
    List Pcm.Frame → Loop → σ → Bool → Run σ × List (Act σ)
  | [], l, state, stopped =>
    (⟨.ok (l.summary false), l.numbering, state, stopped, [], l.closing false⟩,
      (l.closing false).map .report)
  | frame :: rest, l, state, stopped =>
    if stopped then
      (⟨.ok (l.summary true), l.numbering, state, stopped, rest, l.closing true⟩,
        (l.closing true).map .report)
    else
      let call : Call σ := ⟨l.packet frame, sink.send state (l.packet frame)⟩
      let l := l.handedOver
      match call.reply.result with
      | .error e =>
        (⟨.error (l.failure e), l.numbering, call.reply.state, call.reply.stop, rest,
          [.sendFailed l.packetsSent e]⟩,
          [.call call, .report (.sendFailed l.packetsSent e)])
      | .ok _ =>
        let l := l.counted frame
        let later := Loop.paced sink interval rest l call.reply.state call.reply.stop
        (later.1.after l.report,
          .call call :: (l.report.map .report ++ (pauses interval).map .pause ++ later.2))

/-- A run of a sender, which computes the length of its pauses first. -/
def pacedRun (s : Sender) (sink : Sink σ) (frames : List Pcm.Frame) (n : Rtp.Numbering)
    (state : σ) : Except Duration.ConversionError (Run σ × List (Act σ)) :=
  s.config.pacingInterval.map fun interval =>
    Loop.paced sink interval frames (s.opening n) state s.stopped

/-- The acts belong to a run: its calls, its log, and a pause behind each packet that was taken. -/
structure Acts (interval : Duration) (calls : List (Call σ)) (log : List Event)
    (acts : List (Act σ)) : Prop where
  calls_eq : acts.filterMap Act.call? = calls
  log_eq : acts.filterMap Act.event? = log
  pauses_eq : acts.filterMap Act.pause? =
    (List.replicate (takenCount calls) (pauses interval)).flatten

namespace Acts

variable {interval : Duration} {calls : List (Call σ)} {log : List Event} {acts : List (Act σ)}

theorem reports (interval : Duration) (events : List Event) :
    Acts interval ([] : List (Call σ)) events (events.map .report) := by
  constructor <;>
    simp [List.filterMap_map, Function.comp_def, Act.call?, Act.event?, Act.pause?, takenCount]

theorem refused (interval : Duration) (call : Call σ) {e : Error}
    (hresult : call.reply.result = .error e) (event : Event) :
    Acts interval [call] [event] [.call call, .report event] := by
  refine ⟨rfl, rfl, ?_⟩
  rw [takenCount_of_refused hresult]
  rfl

theorem filterMap_pause (lengths : List Duration) :
    (lengths.map .pause : List (Act σ)).filterMap Act.call? = [] ∧
      (lengths.map .pause : List (Act σ)).filterMap Act.event? = [] ∧
      (lengths.map .pause : List (Act σ)).filterMap Act.pause? = lengths := by
  refine ⟨?_, ?_, ?_⟩ <;>
    simp [List.filterMap_map, Function.comp_def, Act.call?, Act.event?, Act.pause?]

/-- A packet is taken: its call comes first, then the report that is due, then the pause. -/
theorem taken (h : Acts interval calls log acts) (call : Call σ) (htaken : call.Taken)
    (events : List Event) :
    Acts interval (call :: calls) (events ++ log)
      (.call call :: (events.map .report ++ (pauses interval).map .pause ++ acts)) := by
  have hreports : Acts interval ([] : List (Call σ)) events (events.map .report) :=
    reports interval events
  rcases @filterMap_pause σ (pauses interval) with ⟨hcalls, hevents, hpauses⟩
  refine ⟨?_, ?_, ?_⟩
  · rw [List.filterMap_cons_some (f := Act.call?) rfl, List.filterMap_append,
      List.filterMap_append, hreports.calls_eq, hcalls, h.calls_eq]
    rfl
  · rw [List.filterMap_cons_none (f := Act.event?) rfl, List.filterMap_append,
      List.filterMap_append, hreports.log_eq, hevents, h.log_eq, List.append_nil]
  · rw [List.filterMap_cons_none (f := Act.pause?) rfl, List.filterMap_append,
      List.filterMap_append, hreports.pauses_eq, hpauses, h.pauses_eq,
      takenCount_cons_of_taken htaken, List.replicate_succ, List.flatten_cons]
    rfl

end Acts

/-- Pauses change nothing of what a run leaves, and nothing of its calls and its log. -/
theorem Loop.Runs.paced {sink : Sink σ} {l : Loop} {state : σ} {stopped : Bool}
    {frames : List Pcm.Frame} {calls : List (Call σ)} {r : Run σ}
    (h : Loop.Runs sink l state stopped frames calls r) (interval : Duration) :
    ∃ acts, Loop.paced sink interval frames l state stopped = (r, acts) ∧
      Acts interval calls r.log acts := by
  induction h with
  | complete l state stopped => exact ⟨_, rfl, .reports interval _⟩
  | cancelled l state frame rest => exact ⟨_, rfl, .reports interval _⟩
  | @failed l state frame rest e hresult =>
    refine ⟨_, ?_, .refused interval ⟨l.packet frame, _⟩ hresult _⟩
    simp only [Loop.paced, hresult, Bool.false_eq_true, if_false]
    cases e <;> rfl
  | sent l state frame hresult _ ih =>
    rcases ih with ⟨acts, hpaced, hacts⟩
    refine ⟨_, ?_, hacts.taken ⟨l.packet frame, _⟩ ⟨_, hresult⟩ _⟩
    simp only [Loop.paced, hresult, hpaced, Bool.false_eq_true, if_false]

/-- A run of checked settings has its pauses computed, and is the run of the send loop. -/
theorem pacedRun_eq (s : Sender) (sink : Sink σ) (frames : List Pcm.Frame) (n : Rtp.Numbering)
    (state : σ) :
    ∃ interval acts, s.config.pacingInterval = .ok interval ∧
      s.pacedRun sink frames n state = .ok (s.run sink frames n state, acts) ∧
      Acts interval (s.calls sink frames n state) (s.run sink frames n state).log acts := by
  rcases Config.pacingInterval_of_check s.valid with ⟨interval, hinterval⟩
  rcases (s.runs_calls sink frames n state).paced interval with ⟨acts, hpaced, hacts⟩
  refine ⟨interval, acts, hinterval, ?_, hacts⟩
  rw [pacedRun, hinterval, Except.map, hpaced]

/-! ## Sinks that decide alike -/

namespace Reply

/-- What a run goes by in an answer: whether the packet was taken, why not if it was not, and the
stop flag. The count of octets is left out. -/
def decision (reply : Reply σ) : Except Error Unit × Bool :=
  (reply.result.map fun _ => (), reply.stop)

variable {reply : Reply σ} {reply' : Reply τ}

theorem stop_of_decision (h : reply'.decision = reply.decision) : reply'.stop = reply.stop :=
  congrArg Prod.snd h

theorem refused_of_decision (h : reply'.decision = reply.decision) {e : Error}
    (hresult : reply.result = .error e) : reply'.result = .error e := by
  have hsame := congrArg Prod.fst h
  simp only [decision, hresult] at hsame
  cases hresult' : reply'.result with
  | error e' =>
    rw [hresult'] at hsame
    cases hsame
    rfl
  | ok octets =>
    rw [hresult'] at hsame
    cases hsame

theorem taken_of_decision (h : reply'.decision = reply.decision) {octets : Nat}
    (hresult : reply.result = .ok octets) : ∃ octets', reply'.result = .ok octets' := by
  have hsame := congrArg Prod.fst h
  simp only [decision, hresult] at hsame
  cases hresult' : reply'.result with
  | error e' =>
    rw [hresult'] at hsame
    cases hsame
  | ok octets' => exact ⟨octets', rfl⟩

end Reply

/-- The decisions on packets that are sent one after the other. -/
def Sink.decisions (sink : Sink σ) : σ → List (List UInt8) → List (Except Error Unit × Bool)
  | _, [] => []
  | state, packet :: later =>
    let reply := sink.send state packet
    reply.decision :: sink.decisions reply.state later

/-- The two sinks decide alike on these packets. -/
def Sink.DecidesAs (sink : Sink τ) (state : τ) (sink' : Sink σ) (state' : σ)
    (packets : List (List UInt8)) : Prop :=
  sink.decisions state packets = sink'.decisions state' packets

namespace Sink.DecidesAs

variable {sink : Sink τ} {state : τ} {sink' : Sink σ} {state' : σ} {packet : List UInt8}
  {packets : List (List UInt8)}

theorem first (h : sink.DecidesAs state sink' state' (packet :: packets)) :
    (sink.send state packet).decision = (sink'.send state' packet).decision :=
  (List.cons.inj h).1

theorem later (h : sink.DecidesAs state sink' state' (packet :: packets)) :
    sink.DecidesAs (sink.send state packet).state sink' (sink'.send state' packet).state packets :=
  (List.cons.inj h).2

end Sink.DecidesAs

/-! ## Runs with other settings -/

/-- The loop with other settings. -/
def Loop.withConfig (l : Loop) (c : Config) : Loop :=
  { l with config := c }

/-- The packet of a call and what was decided on it. -/
def Call.decided (c : Call σ) : List UInt8 × Except Error Unit × Bool :=
  (c.packet, c.reply.decision)

/-- Two runs, each through a sink of its own, with one result and one state of the stream. -/
structure Run.ComesOutAs (r : Run σ) (r' : Run τ) : Prop where
  outcome : r.outcome = r'.outcome
  numbering : r.numbering = r'.numbering
  stopped : r.stopped = r'.stopped
  unread : r.unread = r'.unread

/-- The same frames under other settings, through a sink that decides alike. -/
theorem Loop.Runs.withConfig {sink : Sink σ} {sink' : Sink τ} {l : Loop} {state : σ} {state' : τ}
    {stopped : Bool} {frames : List Pcm.Frame} {calls : List (Call σ)} {r : Run σ}
    (h : Loop.Runs sink l state stopped frames calls r)
    (hsinks : sink'.DecidesAs state' sink state (calls.map (·.packet))) (c : Config) :
    ∃ calls' r', Loop.Runs sink' (l.withConfig c) state' stopped frames calls' r' ∧
      calls'.map Call.decided = calls.map Call.decided ∧ r'.ComesOutAs r := by
  induction h generalizing state' with
  | complete l state stopped =>
    exact ⟨_, _, .complete (l.withConfig c) state' stopped, rfl, rfl, rfl, rfl, rfl⟩
  | cancelled l state frame rest =>
    exact ⟨_, _, .cancelled (l.withConfig c) state' frame rest, rfl, rfl, rfl, rfl, rfl⟩
  | failed l state frame rest hresult =>
    have hdecision := hsinks.first
    have hresult' := Reply.refused_of_decision hdecision hresult
    refine ⟨_, _, .failed (l.withConfig c) state' frame rest hresult', ?_,
      congrArg Except.error (Loop.Runs.failure_congr rfl _), rfl,
      Reply.stop_of_decision hdecision, rfl⟩
    rw [List.map_singleton, List.map_singleton, List.singleton_inj]
    exact congrArg (Prod.mk _) hdecision
  | sent l state frame hresult _ ih =>
    have hdecision := hsinks.first
    rcases Reply.taken_of_decision hdecision hresult with ⟨octets, hresult'⟩
    rcases ih hsinks.later with ⟨calls', r', hrest, hcalls, hends⟩
    rw [← Reply.stop_of_decision hdecision] at hrest
    refine ⟨_, _, .sent (l.withConfig c) state' frame hresult' hrest, ?_,
      hends.outcome, hends.numbering, hends.stopped, hends.unread⟩
    rw [List.map_cons, List.map_cons, hcalls]
    exact congrArg (List.cons · _) (congrArg (Prod.mk _) hdecision)

/-- Each packet of a run carries the payload type and the source of the numbering. -/
theorem numbering_of_call (s : Sender) (sink : Sink σ) (frames : List Pcm.Frame)
    (n : Rtp.Numbering) (state : σ) {call : Call σ} (hcall : call ∈ s.calls sink frames n state) :
    ∃ header payload, Rtp.parse call.packet = .ok (header, payload) ∧
      header.payloadType = n.payloadType &&& 0x7f ∧ header.ssrc = n.ssrc := by
  rcases List.mem_iff_getElem.mp hcall with ⟨k, hk, rfl⟩
  rcases s.packet_of_call sink frames n state hk with ⟨call, frame, hget, -, hpacket⟩
  rw [List.getElem?_eq_getElem hk, Option.some.injEq] at hget
  rw [hget, hpacket, Rtp.parse_packet]
  exact ⟨_, _, rfl, rfl, rfl⟩

/-- Two senders with one stop flag, and two sinks with the same decisions on the packets of the
first run: with whatever settings and counts of octets, and with the pauses that the settings ask
for, both runs hand over the same packets and come out alike. -/
theorem run_ignores_settings (s s' : Sender) {sink : Sink σ} {sink' : Sink τ}
    {frames : List Pcm.Frame} {n : Rtp.Numbering} {state : σ} {state' : τ}
    (hflag : s'.stopped = s.stopped)
    (hsinks : sink'.DecidesAs state' sink state
      ((s.calls sink frames n state).map (·.packet))) :
    let r := s.run sink frames n state
    let r' := s'.run sink' frames n state'
    let calls := s.calls sink frames n state
    let calls' := s'.calls sink' frames n state'
    (∃ acts, s.pacedRun sink frames n state = .ok (r, acts) ∧
      acts.filterMap Act.call? = calls) ∧
    (∃ acts', s'.pacedRun sink' frames n state' = .ok (r', acts') ∧
      acts'.filterMap Act.call? = calls') ∧
    calls'.map (fun c => (c.packet, c.reply.decision)) =
      calls.map (fun c => (c.packet, c.reply.decision)) ∧
    r'.ComesOutAs r ∧
    (∀ call ∈ calls, ∃ header payload, Rtp.parse call.packet = .ok (header, payload) ∧
      header.payloadType = n.payloadType &&& 0x7f ∧ header.ssrc = n.ssrc) := by
  intro r r' calls calls'
  have hruns : Loop.Runs sink (s.opening n) state s.stopped frames calls r :=
    s.runs_calls sink frames n state
  have hruns' : Loop.Runs sink' (s'.opening n) state' s'.stopped frames calls' r' :=
    s'.runs_calls sink' frames n state'
  rcases s.pacedRun_eq sink frames n state with ⟨_, acts, -, hpaced, hacts⟩
  rcases s'.pacedRun_eq sink' frames n state' with ⟨_, acts', -, hpaced', hacts'⟩
  -- The first run with the settings and the sink of the second is the second run.
  rcases hruns.withConfig hsinks s'.config with ⟨_, _, hswapped, hcalls, hends⟩
  rw [← hflag] at hswapped
  rcases hswapped.unique hruns' with ⟨hcalls', hrun'⟩
  rw [← hcalls'] at hcalls
  rw [← hrun'] at hends
  exact ⟨⟨acts, hpaced, hacts.calls_eq⟩, ⟨acts', hpaced', hacts'.calls_eq⟩, hcalls, hends,
    fun call hcall => s.numbering_of_call sink frames n state hcall⟩

/-! ### Two senders, and a third packet that is refused -/

/-- Settings of which none is the same as those of `shortSender`. -/
def chattySender : Sender where
  config :=
    { frameMs := 20, payloadType := 96, ssrc := none, rendezvousTimeout := .ofSeconds 1,
      progressInterval := 1 }
  valid := by decide +kernel

/-- It takes two packets, reporting `octets` of each, and refuses all others. -/
def takesTwo (octets : List UInt8 → Nat) : Sink Nat where
  send taken packet :=
    { state := taken + 1, result := if taken < 2 then .ok (octets packet) else .error .noPeer }

/-- One sink counts the octets, the other one counts none. -/
theorem run_ignores_settings_refused :
    let frames : List Pcm.Frame := [⟨[1, 2], true⟩, ⟨[3], false⟩, ⟨[], false⟩, ⟨[4], true⟩]
    let n : Rtp.Numbering := { ssrc := 9, payloadType := 0x8b, samplesPerFrame := 2 }
    let r := shortSender.run (takesTwo List.length) frames n 0
    let r' := chattySender.run (takesTwo fun _ => 0) frames n 0
    (chattySender.stopped = shortSender.stopped ∧
      (takesTwo fun _ => 0).DecidesAs 0 (takesTwo List.length) 0
        ((shortSender.calls (takesTwo List.length) frames n 0).map (·.packet))) ∧
      r.log.length = 1 ∧ r'.log.length = 3 ∧
      r.outcome = .error .noPeer ∧ r'.ComesOutAs r := by
  intro frames n r r'
  have hsinks : (takesTwo fun _ => 0).DecidesAs 0 (takesTwo List.length) 0
      ((shortSender.calls (takesTwo List.length) frames n 0).map (·.packet)) := rfl
  have hflag : chattySender.stopped = shortSender.stopped := rfl
  refine ⟨⟨hflag, hsinks⟩, ?_, ?_, ?_,
    (run_ignores_settings shortSender chattySender hflag hsinks).2.2.2.1⟩
  · decide +kernel
  · decide +kernel
  · decide +kernel

end Sender
end PacedRtp
