import Mathlib
import PacedRtp.Proofs.Sender.Calls

/-!
# The send loop step by step

A run does its work in small steps: it takes a frame, reads the stop flag, hands the packet over,
moves the numbering on, and then counts the packet or gives up. `Machine.step` is one of these
steps. Between any two of them somebody else may act: a `Turn` is a step of the run, a stop through
some handle, or a change of whatever the sink answers from.

The machine is the run: left to itself it comes to what `Sender.run` gives and makes the same calls
(`machine_alone`). And it ends: enough turns of the run lead to an outcome, whatever is done in
between (`exists_outcome`).
-/

namespace PacedRtp
namespace Sender

variable {σ : Type}

/-! ## Points and turns -/

/-- Where a run stands between two of its steps. -/
inductive Point
  /-- The next frame is to be taken. -/
  | ready
  /-- A frame was taken; the flag is to be read. -/
  | pulled (frame : Pcm.Frame)
  /-- The flag was down. -/
  | cleared (frame : Pcm.Frame)
  /-- The sink has answered. -/
  | answered (frame : Pcm.Frame) (result : Except Error Nat)
  /-- The numbering has moved on. -/
  | advanced (frame : Pcm.Frame) (result : Except Error Nat)
  | finished (outcome : Except Error Summary)

structure Machine (σ : Type) where
  point : Point
  loop : Loop
  sink : σ
  /-- The flag that the run shares with all its handles. -/
  stopped : Bool
  unread : List Pcm.Frame
  log : List Event
  calls : List (Call σ)

inductive Turn (σ : Type)
  | run
  /-- A stop through any handle; handles have no state of their own. -/
  | stop
  /-- The state of the sink changes from outside. -/
  | outside (change : σ → σ)

def Turn.isRun : Turn σ → Bool
  | .run => true
  | _ => false

namespace Machine

def finish (m : Machine σ) (outcome : Except Error Summary) (events : List Event) : Machine σ :=
  { m with point := .finished outcome, log := m.log ++ events }

/-- The next step of the run. -/
def step (sink : Sink σ) (m : Machine σ) : Machine σ :=
  match m.point with
  | .ready =>
    match m.unread with
    | [] => m.finish (.ok (m.loop.summary false)) (m.loop.closing false)
    | frame :: rest => { m with point := .pulled frame, unread := rest }
  | .pulled frame =>
    if m.stopped then m.finish (.ok (m.loop.summary true)) (m.loop.closing true)
    else { m with point := .cleared frame }
  | .cleared frame =>
    let reply := sink.send m.sink (m.loop.packet frame)
    { m with
      point := .answered frame reply.result
      sink := reply.state
      stopped := m.stopped || reply.stop
      calls := m.calls ++ [⟨m.loop.packet frame, reply⟩] }
  | .answered frame result => { m with point := .advanced frame result, loop := m.loop.handedOver }
  | .advanced frame result =>
    match result with
    | .error e => m.finish (.error (m.loop.failure e)) [.sendFailed m.loop.packetsSent e]
    | .ok _ =>
      let loop := m.loop.counted frame
      { m with point := .ready, loop, log := m.log ++ loop.report }
  | .finished _ => m

def turn (sink : Sink σ) (m : Machine σ) : Turn σ → Machine σ
  | .run => m.step sink
  | .stop => { m with stopped := true }
  | .outside change => { m with sink := change m.sink }

/-- The machine after some turns. -/
def after (sink : Sink σ) (m : Machine σ) (turns : List (Turn σ)) : Machine σ :=
  turns.foldl (turn sink) m

/-- What a finished machine has come to. -/
def result? (m : Machine σ) : Option (Run σ) :=
  match m.point with
  | .finished outcome => some ⟨outcome, m.loop.numbering, m.sink, m.stopped, m.unread, m.log⟩
  | _ => none

variable {sink : Sink σ} {m : Machine σ}

@[simp] theorem after_nil : m.after sink [] = m :=
  rfl

@[simp] theorem after_cons (t : Turn σ) (later : List (Turn σ)) :
    m.after sink (t :: later) = (m.turn sink t).after sink later :=
  rfl

@[simp] theorem after_append (turns later : List (Turn σ)) :
    m.after sink (turns ++ later) = (m.after sink turns).after sink later :=
  List.foldl_append

theorem after_replicate (k : Nat) :
    m.after sink (List.replicate k .run) = (step sink)^[k] m := by
  induction k generalizing m with
  | zero => rfl
  | succ k ih => exact ih

/-- What every turn preserves holds after any turns. -/
theorem after_induction {P : Machine σ → Prop} (hstart : P m)
    (hturn : ∀ m t, P m → P (turn sink m t)) (turns : List (Turn σ)) : P (m.after sink turns) := by
  induction turns generalizing m with
  | nil => exact hstart
  | cons t later ih => exact ih (hturn m t hstart)

/-! ## The end -/

theorem result?_eq_some_iff {r : Run σ} :
    m.result? = some r ↔
      ∃ outcome, m.point = .finished outcome ∧
        r = ⟨outcome, m.loop.numbering, m.sink, m.stopped, m.unread, m.log⟩ := by
  cases hpoint : m.point <;> simp [result?, hpoint, eq_comm]

/-- A finished run stays as it is; only its surroundings go on. -/
theorem finished_turn {outcome : Except Error Summary} (h : m.point = .finished outcome)
    (t : Turn σ) : (m.turn sink t).point = .finished outcome := by
  cases t with
  | run =>
    rw [turn, step, h]
    exact h
  | stop => exact h
  | outside => exact h

theorem finished_after {outcome : Except Error Summary} (h : m.point = .finished outcome)
    (turns : List (Turn σ)) : (m.after sink turns).point = .finished outcome :=
  after_induction (P := (·.point = .finished outcome)) h (fun _ t h => finished_turn h t) turns

theorem iterate_finished {outcome : Except Error Summary} (h : m.point = .finished outcome)
    (k : Nat) : (step sink)^[k] m = m := by
  apply Function.iterate_fixed
  rw [step, h]

/-! ## The machine alone -/

section Alone

variable {l : Loop} {state : σ} {frame : Pcm.Frame} {rest : List Pcm.Frame} {log : List Event}
  {earlier : List (Call σ)}

theorem iterate_cancelled :
    (step sink)^[2] ⟨.ready, l, state, true, frame :: rest, log, earlier⟩ =
      ⟨.finished (.ok (l.summary true)), l, state, true, rest, log ++ l.closing true, earlier⟩ :=
  rfl

theorem iterate_failed {e : Error} (h : (sink.send state (l.packet frame)).result = .error e) :
    (step sink)^[5] ⟨.ready, l, state, false, frame :: rest, log, earlier⟩ =
      ⟨.finished (.error (l.failure e)), l.handedOver, (sink.send state (l.packet frame)).state,
        (sink.send state (l.packet frame)).stop, rest, log ++ [.sendFailed l.packetsSent e],
        earlier ++ [⟨l.packet frame, sink.send state (l.packet frame)⟩]⟩ := by
  simp only [Function.iterate_succ_apply, Function.iterate_zero, id_eq, step, Bool.false_eq_true,
    if_false, Bool.false_or, h, finish]
  cases e <;> rfl

theorem iterate_sent {octets : Nat}
    (h : (sink.send state (l.packet frame)).result = .ok octets) :
    (step sink)^[5] ⟨.ready, l, state, false, frame :: rest, log, earlier⟩ =
      ⟨.ready, l.handedOver.counted frame, (sink.send state (l.packet frame)).state,
        (sink.send state (l.packet frame)).stop, rest,
        log ++ (l.handedOver.counted frame).report,
        earlier ++ [⟨l.packet frame, sink.send state (l.packet frame)⟩]⟩ := by
  simp only [Function.iterate_succ_apply, Function.iterate_zero, id_eq, step, Bool.false_eq_true,
    if_false, Bool.false_or, h]

end Alone

/-- Rule by rule, the machine does what the loop does. -/
theorem iterate_runs {l : Loop} {state : σ} {stopped : Bool} {frames : List Pcm.Frame}
    {calls : List (Call σ)} {r : Run σ} (h : Loop.Runs sink l state stopped frames calls r)
    (log : List Event) (earlier : List (Call σ)) :
    let m := (step sink)^[5 * frames.length + 1] ⟨.ready, l, state, stopped, frames, log, earlier⟩
    m.result? = some (r.after log) ∧ m.calls = earlier ++ calls := by
  induction h generalizing log earlier with
  | complete l state stopped => exact ⟨rfl, (List.append_nil _).symm⟩
  | cancelled l state frame rest =>
    -- Two steps end the run; the others find it finished.
    rw [List.length_cons, show 5 * (rest.length + 1) + 1 = 5 * rest.length + 4 + 2 by omega,
      Function.iterate_add_apply, iterate_cancelled, iterate_finished rfl]
    exact ⟨rfl, (List.append_nil _).symm⟩
  | failed l state frame rest hresult =>
    rw [List.length_cons, show 5 * (rest.length + 1) + 1 = 5 * rest.length + 1 + 5 by omega,
      Function.iterate_add_apply, iterate_failed hresult, iterate_finished rfl]
    exact ⟨rfl, rfl⟩
  | sent l state frame hresult _ ih =>
    rw [List.length_cons, Nat.mul_succ, Nat.add_right_comm, Function.iterate_add_apply,
      iterate_sent hresult]
    rcases ih (log ++ (l.handedOver.counted frame).report)
        (earlier ++ [⟨l.packet frame, sink.send state (l.packet frame)⟩]) with
      ⟨hrun, hcalls⟩
    refine ⟨?_, ?_⟩
    · rw [hrun]
      simp only [Run.after, List.append_assoc]
    · rw [hcalls, List.append_assoc]
      rfl

/-! ## Enough turns -/

/-- The steps that a run has left, at most. -/
def stepsLeft (m : Machine σ) : Nat :=
  match m.point with
  | .ready => 5 * m.unread.length + 1
  | .pulled _ => 5 * m.unread.length + 5
  | .cleared _ => 5 * m.unread.length + 4
  | .answered _ _ => 5 * m.unread.length + 3
  | .advanced _ _ => 5 * m.unread.length + 2
  | .finished _ => 0

theorem stepsLeft_step (sink : Sink σ) (m : Machine σ) :
    (m.step sink).stepsLeft ≤ m.stepsLeft - 1 := by
  rcases m with ⟨point, loop, state, stopped, unread, log, calls⟩
  cases point with
  | ready =>
    cases unread with
    | nil => exact Nat.zero_le _
    | cons frame rest => simp [step, stepsLeft, Nat.mul_succ]
  | pulled frame =>
    cases stopped with
    | true => exact Nat.zero_le _
    | false => exact Nat.le_refl _
  | cleared frame => exact Nat.le_refl _
  | answered frame result => exact Nat.le_refl _
  | advanced frame result =>
    cases result with
    | error e => exact Nat.zero_le _
    | ok octets => exact Nat.le_refl _
  | finished outcome => exact Nat.le_refl _

theorem stepsLeft_after (sink : Sink σ) (m : Machine σ) (turns : List (Turn σ)) :
    (m.after sink turns).stepsLeft ≤ m.stepsLeft - turns.countP Turn.isRun := by
  induction turns generalizing m with
  | nil => exact Nat.le_refl _
  | cons t later ih =>
    have hlater := ih (m.turn sink t)
    cases t with
    | run =>
      have hstep := m.stepsLeft_step sink
      rw [List.countP_cons_of_pos rfl, after_cons]
      change _ ≤ (m.step sink).stepsLeft - _ at hlater
      omega
    | stop =>
      rw [List.countP_cons_of_neg (by simp [Turn.isRun])]
      exact hlater
    | outside change =>
      rw [List.countP_cons_of_neg (by simp [Turn.isRun])]
      exact hlater

/-- Only a finished run has no step left. -/
theorem exists_finished (h : m.stepsLeft = 0) : ∃ outcome, m.point = .finished outcome := by
  cases hpoint : m.point with
  | finished outcome => exact ⟨outcome, rfl⟩
  | _ => simp [stepsLeft, hpoint] at h

end Machine

/-! ## Runs as machines -/

/-- The machine at the start of a run. -/
def machine (s : Sender) (frames : List Pcm.Frame) (n : Rtp.Numbering) (state : σ) : Machine σ :=
  ⟨.ready, s.opening n, state, s.stopped, frames, [], []⟩

variable (s : Sender) (sink : Sink σ) (frames : List Pcm.Frame) (n : Rtp.Numbering) (state : σ)

/-- A run that is given enough turns has an outcome. -/
theorem exists_outcome {turns : List (Turn σ)}
    (h : 5 * frames.length + 1 ≤ turns.countP Turn.isRun) :
    ∃ outcome, ((s.machine frames n state).after sink turns).point = .finished outcome := by
  apply Machine.exists_finished
  have hleft := (s.machine frames n state).stepsLeft_after sink turns
  have hstart : (s.machine frames n state).stepsLeft = 5 * frames.length + 1 := rfl
  omega

/-- With no turns but its own, the machine comes to what the run gives. -/
theorem machine_alone {k : Nat} (hk : 5 * frames.length + 1 ≤ k) :
    let m := (s.machine frames n state).after sink (List.replicate k .run)
    m.result? = some (s.run sink frames n state) ∧ m.calls = s.calls sink frames n state := by
  rcases Machine.iterate_runs (s.runs_calls sink frames n state) [] [] with ⟨hresult, hcalls⟩
  have hturns : 5 * frames.length + 1 ≤
      (List.replicate (5 * frames.length + 1) (.run : Turn σ)).countP Turn.isRun := by
    simp [List.countP_replicate, Turn.isRun]
  rcases s.exists_outcome sink frames n state hturns with ⟨outcome, hpoint⟩
  rw [Machine.after_replicate] at hpoint
  -- After that many steps the machine has finished, and later ones change nothing.
  obtain ⟨extra, rfl⟩ := Nat.exists_eq_add_of_le' hk
  intro m
  have hm : m = (Machine.step sink)^[5 * frames.length + 1] (s.machine frames n state) := by
    simp only [m]
    rw [Machine.after_replicate, Function.iterate_add_apply, Machine.iterate_finished hpoint]
  rw [hm]
  exact ⟨hresult, hcalls⟩

end Sender
end PacedRtp
