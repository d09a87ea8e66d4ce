import Mathlib
import PacedRtp.Proofs.Sender.Progress

/-!
# Stops between the steps of a run

A stop may come between any two steps of a run, through any handle, any number of times, and the
sink may hold a handle too. The flag that a stop raises stays up. A run that has not yet read the
flag for its next frame makes no further call; one that has read it, and found it down, makes one.
Whether a run reports itself cancelled is decided where it reads the flag and nowhere else.

The flag outlives the run: a later run of the same sender takes one frame at most and sends none.
-/

namespace PacedRtp
namespace Sender

variable {σ : Type}

namespace Machine

variable {sink : Sink σ} {m : Machine σ}

/-! ## The flag -/

/-- A turn makes no call and raises the flag only if it is a stop, or it makes one call, and then
the sink may have raised the flag. -/
theorem turn_cases (sink : Sink σ) (m : Machine σ) (t : Turn σ) :
    ((m.turn sink t).calls = m.calls ∧
      ((m.turn sink t).stopped = true ↔ m.stopped = true ∨ t = .stop)) ∨
    ∃ frame reply, m.point = .cleared frame ∧ t = .run ∧
      (m.turn sink t).calls = m.calls ++ [⟨m.loop.packet frame, reply⟩] ∧
      (m.turn sink t).stopped = (m.stopped || reply.stop) := by
  cases t with
  | stop => exact .inl ⟨rfl, by simp [turn]⟩
  | outside change => exact .inl ⟨rfl, by simp [turn]⟩
  | run =>
    rcases m with ⟨point, loop, state, stopped, unread, log, calls⟩
    cases point with
    | cleared frame => exact .inr ⟨frame, sink.send state (loop.packet frame), rfl, rfl, rfl, rfl⟩
    | ready => cases unread <;> exact .inl ⟨rfl, by simp [turn, step, finish]⟩
    | pulled frame => cases stopped <;> exact .inl ⟨rfl, by simp [turn, step, finish]⟩
    | answered frame result => exact .inl ⟨rfl, by simp [turn, step]⟩
    | advanced frame result => cases result <;> exact .inl ⟨rfl, by simp [turn, step, finish]⟩
    | finished outcome => exact .inl ⟨rfl, by simp [turn, step]⟩

theorem stopped_turn (h : m.stopped = true) (t : Turn σ) : (m.turn sink t).stopped = true := by
  rcases turn_cases sink m t with ⟨-, hflag⟩ | ⟨frame, reply, -, -, -, hflag⟩
  · exact hflag.mpr (.inl h)
  · rw [hflag, h, Bool.true_or]

/-- A flag that is up stays up. -/
theorem stopped_after (h : m.stopped = true) (turns : List (Turn σ)) :
    (m.after sink turns).stopped = true :=
  after_induction (P := fun m => m.stopped = true) h (fun _ t h => stopped_turn h t) turns

/-- Only a stop raises the flag: one between two steps, or one from inside a call. -/
theorem stopped_iff (hcalls : m.calls = []) (turns : List (Turn σ)) :
    (m.after sink turns).stopped = true ↔
      m.stopped = true ∨ .stop ∈ turns ∨
        ∃ call ∈ (m.after sink turns).calls, call.reply.stop = true := by
  induction turns using List.reverseRecOn with
  | nil => simp [hcalls]
  | append_singleton turns t ih =>
    rw [after_append, after_cons, after_nil]
    rcases turn_cases sink (m.after sink turns) t with
      ⟨hsame, hflag⟩ | ⟨frame, reply, -, rfl, hmore, hflag⟩
    · rw [hflag, hsame, ih]
      simp only [List.mem_append, List.mem_singleton, @eq_comm _ t, or_assoc, or_left_comm, or_comm]
    · rw [hflag, hmore, Bool.or_eq_true, ih]
      simp only [List.mem_append, List.mem_singleton, reduceCtorEq, or_false, or_and_right,
        exists_or, exists_eq_left, or_assoc]

/-! ## Calls after a stop -/

/-- `m'` has made no call that `m` has not, except one for a frame whose check `m` has behind it. -/
def OneMore (m m' : Machine σ) : Prop :=
  m'.calls = m.calls ∨
    ∃ frame reply, m.point = .cleared frame ∧
      m'.calls = m.calls ++ [⟨m.loop.packet frame, reply⟩]

/-- The flag is up, and no frame is past its check and still to be sent. -/
structure Quiet (m : Machine σ) : Prop where
  stopped : m.stopped = true
  not_cleared : ∀ frame, m.point ≠ .cleared frame

namespace Quiet

theorem step (h : m.Quiet) (sink : Sink σ) :
    (m.step sink).Quiet ∧ (m.step sink).calls = m.calls := by
  rcases m with ⟨point, loop, state, stopped, unread, log, calls⟩
  rcases h with ⟨hstopped, hpoint⟩
  cases hstopped
  cases point with
  | cleared frame => exact absurd rfl (hpoint frame)
  | ready => cases unread <;> exact ⟨⟨rfl, nofun⟩, rfl⟩
  | pulled frame => exact ⟨⟨rfl, nofun⟩, rfl⟩
  | answered frame result => exact ⟨⟨rfl, nofun⟩, rfl⟩
  | advanced frame result => cases result <;> exact ⟨⟨rfl, nofun⟩, rfl⟩
  | finished outcome => exact ⟨⟨rfl, nofun⟩, rfl⟩

theorem turn (h : m.Quiet) (sink : Sink σ) (t : Turn σ) :
    (m.turn sink t).Quiet ∧ (m.turn sink t).calls = m.calls := by
  cases t with
  | run => exact h.step sink
  | stop => exact ⟨⟨rfl, h.not_cleared⟩, rfl⟩
  | outside change => exact ⟨⟨h.stopped, h.not_cleared⟩, rfl⟩

theorem calls_after (h : m.Quiet) (turns : List (Turn σ)) :
    (m.after sink turns).calls = m.calls := by
  induction turns generalizing m with
  | nil => rfl
  | cons t later ih =>
    have hturn := h.turn sink t
    exact (ih hturn.1).trans hturn.2

end Quiet

theorem oneMore_of_cleared {frame : Pcm.Frame} (hpoint : m.point = .cleared frame)
    (h : m.stopped = true) (turns : List (Turn σ)) : m.OneMore (m.after sink turns) := by
  induction turns generalizing m with
  | nil => exact .inl rfl
  | cons t later ih =>
    cases t with
    | run =>
      -- The packet of the frame goes out; behind it the run reads the flag again.
      have hstep : (m.turn sink .run).Quiet := by
        refine ⟨stopped_turn h .run, ?_⟩
        intro frame'
        simp [Machine.turn, step, hpoint]
      refine .inr ⟨frame, sink.send m.sink (m.loop.packet frame), hpoint, ?_⟩
      rw [after_cons, hstep.calls_after]
      simp [Machine.turn, step, hpoint]
    | stop => exact ih (m := m.turn sink .stop) hpoint rfl
    | outside change => exact ih (m := m.turn sink (.outside change)) hpoint h

/-- With the flag up at most one further call is made, and only if its check is already made. -/
theorem oneMore_of_stopped (h : m.stopped = true) (turns : List (Turn σ)) :
    m.OneMore (m.after sink turns) := by
  by_cases hpoint : ∃ frame, m.point = .cleared frame
  · rcases hpoint with ⟨frame, hpoint⟩
    exact oneMore_of_cleared hpoint h turns
  · have hquiet : m.Quiet := ⟨h, fun frame hframe => hpoint ⟨frame, hframe⟩⟩
    exact .inl (hquiet.calls_after turns)

/-! ## Cancelled runs -/

/-- A run ends well at one of two points: it finds no frame, or it finds the flag up. -/
theorem finished_ok_of_turn {t : Turn σ} {summary : Summary}
    (h : (m.turn sink t).point = .finished (.ok summary)) :
    m.point = .finished (.ok summary) ∨
    (m.point = .ready ∧ m.unread = [] ∧ summary.cancelled = false) ∨
    (t = .run ∧ (∃ frame, m.point = .pulled frame) ∧ m.stopped = true ∧
      summary.cancelled = true) := by
  cases t with
  | stop => exact .inl h
  | outside change => exact .inl h
  | run =>
    rcases m with ⟨point, loop, state, stopped, unread, log, calls⟩
    cases point with
    | ready =>
      cases unread with
      | nil =>
        cases h
        exact .inr (.inl ⟨rfl, rfl, rfl⟩)
      | cons frame rest => cases h
    | pulled frame =>
      cases stopped with
      | true =>
        cases h
        exact .inr (.inr ⟨rfl, ⟨frame, rfl⟩, rfl, rfl⟩)
      | false => cases h
    | cleared frame => cases h
    | answered frame result => cases h
    | advanced frame result => cases result <;> cases h
    | finished outcome => exact .inl h

/-- Some check of the flag among the turns came after a stop. -/
def CheckedStopped (sink : Sink σ) (m : Machine σ) (turns : List (Turn σ)) : Prop :=
  ∃ before later, turns = before ++ .run :: later ∧
    (∃ frame, (m.after sink before).point = .pulled frame) ∧ (m.after sink before).stopped = true

theorem CheckedStopped.concat {turns : List (Turn σ)} (h : CheckedStopped sink m turns)
    (t : Turn σ) : CheckedStopped sink m (turns ++ [t]) := by
  rcases h with ⟨before, later, rfl, hpoint, hstopped⟩
  exact ⟨before, later ++ [t], by simp, hpoint, hstopped⟩

theorem checkedStopped_of_cancelled {turns : List (Turn σ)} {summary : Summary}
    (hstart : m.point = .ready) (h : (m.after sink turns).point = .finished (.ok summary))
    (hcancelled : summary.cancelled = true) : CheckedStopped sink m turns := by
  -- From the last turn back to the one that finished the run.
  induction turns using List.reverseRecOn with
  | nil =>
    rw [after_nil, hstart] at h
    cases h
  | append_singleton turns t ih =>
    rw [after_append, after_cons, after_nil] at h
    rcases finished_ok_of_turn h with hbefore | ⟨-, -, hwhole⟩ | ⟨rfl, hpoint, hstopped, -⟩
    · exact (ih hbefore).concat t
    · rw [hwhole] at hcancelled
      cases hcancelled
    · exact ⟨turns, [], rfl, hpoint, hstopped⟩

theorem cancelled_of_checkedStopped {turns : List (Turn σ)} {summary : Summary}
    (h : (m.after sink turns).point = .finished (.ok summary))
    (hchecked : CheckedStopped sink m turns) : summary.cancelled = true := by
  rcases hchecked with ⟨before, later, rfl, ⟨frame, hpoint⟩, hstopped⟩
  -- That check finished the run.
  have hend : ((m.after sink before).turn sink .run).point =
      .finished (.ok ((m.after sink before).loop.summary true)) := by
    simp [turn, step, hpoint, hstopped, finish]
  rw [after_append, after_cons, finished_after hend] at h
  cases h
  rfl

/-! ## Stops that come too late -/

/-- There is no check left, and none has found the flag up. -/
structure PastChecks (m : Machine σ) : Prop where
  unread : m.unread = []
  not_pulled : ∀ frame, m.point ≠ .pulled frame
  not_cancelled : ∀ summary, m.point = .finished (.ok summary) → summary.cancelled = false

theorem PastChecks.turn (h : m.PastChecks) (sink : Sink σ) (t : Turn σ) :
    (m.turn sink t).PastChecks := by
  cases t with
  | stop => exact ⟨h.unread, h.not_pulled, h.not_cancelled⟩
  | outside change => exact ⟨h.unread, h.not_pulled, h.not_cancelled⟩
  | run =>
    rcases m with ⟨point, loop, state, stopped, unread, log, calls⟩
    rcases h with ⟨hunread, hpulled, hcancelled⟩
    cases hunread
    cases point with
    | ready =>
      refine ⟨rfl, nofun, ?_⟩
      intro summary hsummary
      cases hsummary
      rfl
    | pulled frame => exact absurd rfl (hpulled frame)
    | cleared frame => exact ⟨rfl, nofun, nofun⟩
    | answered frame result => exact ⟨rfl, nofun, nofun⟩
    | advanced frame result => cases result <;> exact ⟨rfl, nofun, nofun⟩
    | finished outcome => exact ⟨rfl, nofun, hcancelled⟩

/-- Past the last check nothing cancels a run any more. -/
theorem PastChecks.after (h : m.PastChecks) (sink : Sink σ) (turns : List (Turn σ)) :
    (m.after sink turns).PastChecks :=
  after_induction h (fun _ t h => h.turn sink t) turns

/-! ## Runs of a stopped sender -/

/-- How a run stands that began with the flag up: it sends nothing and takes one frame at most. -/
inductive Refused (l : Loop) : List Pcm.Frame → Machine σ → Prop where
  | ready {frames : List Pcm.Frame} {state : σ} {log : List Event} :
      Refused l frames ⟨.ready, l, state, true, frames, log, []⟩
  | pulled {frame : Pcm.Frame} {rest : List Pcm.Frame} {state : σ} {log : List Event} :
      Refused l (frame :: rest) ⟨.pulled frame, l, state, true, rest, log, []⟩
  | finished {frames : List Pcm.Frame} {state : σ} {log : List Event} :
      Refused l frames
        ⟨.finished (.ok (l.summary !frames.isEmpty)), l, state, true, frames.tail, log, []⟩

namespace Refused

variable {l : Loop} {frames : List Pcm.Frame}

theorem turn (h : Refused l frames m) (sink : Sink σ) (t : Turn σ) :
    Refused l frames (m.turn sink t) := by
  cases t with
  | stop => cases h <;> constructor
  | outside change => cases h <;> constructor
  | run =>
    cases h with
    | ready =>
      cases frames with
      | nil => exact .finished
      | cons frame rest => exact .pulled
    | pulled => exact .finished
    | finished => exact .finished

theorem after (h : Refused l frames m) (sink : Sink σ) (turns : List (Turn σ)) :
    Refused l frames (m.after sink turns) :=
  after_induction h (fun _ t h => h.turn sink t) turns

theorem account (h : Refused l frames m) :
    m.calls = [] ∧ m.stopped = true ∧ m.loop.numbering = l.numbering ∧
      ∀ r, m.result? = some r → r.outcome = .ok (l.summary !frames.isEmpty) := by
  cases h with
  | ready =>
    refine ⟨rfl, rfl, rfl, ?_⟩
    intro r hr
    cases hr
  | pulled =>
    refine ⟨rfl, rfl, rfl, ?_⟩
    intro r hr
    cases hr
  | finished =>
    refine ⟨rfl, rfl, rfl, ?_⟩
    intro r hr
    cases hr
    rfl

end Refused
end Machine

theorem refused_machine {s : Sender} (h : s.stopped = true) (frames : List Pcm.Frame)
    (n : Rtp.Numbering) (state : σ) :
    Machine.Refused (s.opening n) frames (s.machine frames n state) := by
  rw [machine, h]
  exact .ready

/-- A stopped sender makes no call and moves no number, and it reports itself cancelled if there was
a frame to send. -/
theorem refuses {s : Sender} (h : s.stopped = true) (sink : Sink σ) (frames : List Pcm.Frame)
    (n : Rtp.Numbering) (state : σ) :
    (∀ turns,
      let m := (s.machine frames n state).after sink turns
      m.calls = [] ∧ m.stopped = true ∧ m.loop.numbering = n ∧
        ∀ r, m.result? = some r → r.outcome = .ok ⟨0, 0, !frames.isEmpty⟩) ∧
    (s.run sink frames n state).outcome = .ok ⟨0, 0, !frames.isEmpty⟩ ∧
    (s.run sink frames n state).numbering = n ∧
    s.calls sink frames n state = [] := by
  have hrefused (turns : List (Turn σ)) :=
    ((refused_machine h frames n state).after sink turns).account
  refine ⟨hrefused, ?_⟩
  -- The run itself is the interleaving without other turns.
  rcases s.machine_alone sink frames n state (Nat.le_refl _) with ⟨hrun, hcalls⟩
  rcases hrefused _ with ⟨hnone, -, hnumbering, hok⟩
  refine ⟨hok _ hrun, ?_, hcalls.symm.trans hnone⟩
  rcases Machine.result?_eq_some_iff.mp hrun with ⟨outcome, -, hr⟩
  rw [hr]
  exact hnumbering

/-! ## Every interleaving -/

/-- Any interleaving of a run with stops, seen after any number of turns: the flag, the calls and
the outcome, what a stop can still change, and what the stopped sender does in later runs. -/
theorem stop_between_steps (s : Sender) (sink : Sink σ) (frames : List Pcm.Frame)
    (n : Rtp.Numbering) (state : σ) (turns : List (Turn σ)) :
    let start := s.machine frames n state
    let m := start.after sink turns
    (∀ k, 5 * frames.length + 1 ≤ k →
      let alone := start.after sink (List.replicate k .run)
      alone.result? = some (s.run sink frames n state) ∧
        alone.calls = s.calls sink frames n state) ∧
    (m.stopped = true ↔
      s.stopped = true ∨ .stop ∈ turns ∨ ∃ call ∈ m.calls, call.reply.stop = true) ∧
    (m.stopped = true → ∀ later,
      (m.after sink later).stopped = true ∧ m.OneMore (m.after sink later)) ∧
    (∀ later, m.OneMore (m.after sink (.stop :: later))) ∧
    (∀ k call, m.calls[k]? = some call →
      ∃ frame, frames[k]? = some frame ∧
        call.packet = ((n.advanceBy k).header frame.isFirst).packet frame.payload ∧
        call.packet.length = 12 + frame.payload.length) ∧
    (5 * frames.length + 1 ≤ turns.countP Turn.isRun → ∃ r, m.result? = some r) ∧
    (∀ r, m.result? = some r →
      r.stopped = m.stopped ∧
      r.numbering = Rtp.Numbering.advance^[m.calls.length] n ∧
      ((∀ call ∈ m.calls, call.Taken) ↔ ∃ summary, r.outcome = .ok summary) ∧
      ∀ summary, r.outcome = .ok summary →
        summary.packetsSent = m.calls.length ∧
        summary.payloadBytes = ((frames.take m.calls.length).map (·.payload.length)).sum ∧
        (summary.cancelled = true ↔ start.CheckedStopped sink turns) ∧
        (summary.cancelled = false → m.calls.length = frames.length)) ∧
    (∀ frame, m.point = .cleared frame → m.unread = [] → ∀ later r,
      (m.after sink later).result? = some r → ∀ summary, r.outcome = .ok summary →
        summary.cancelled = false ∧ (m.after sink later).calls.length = frames.length) ∧
    (m.stopped = true → ∀ (τ : Type) (sink' : Sink τ) (frames' : List Pcm.Frame)
      (n' : Rtp.Numbering) (state' : τ),
      let next : Sender := { s with stopped := m.stopped }
      (∀ turns',
        let m' := (next.machine frames' n' state').after sink' turns'
        m'.calls = [] ∧ m'.stopped = true ∧ m'.loop.numbering = n' ∧
          ∀ r, m'.result? = some r → r.outcome = .ok ⟨0, 0, !frames'.isEmpty⟩) ∧
      (next.run sink' frames' n' state').outcome = .ok ⟨0, 0, !frames'.isEmpty⟩ ∧
      (next.run sink' frames' n' state').numbering = n' ∧
      next.calls sink' frames' n' state' = []) := by
  intro start m
  have hstands : Machine.Stands (s.opening n) frames m :=
    (s.stands_machine frames n state).after sink turns
  refine ⟨?_, ?_, ?_, ?_, ?_, ?_, ?_, ?_, ?_⟩
  · intro k hk
    exact s.machine_alone sink frames n state hk
  · exact Machine.stopped_iff rfl turns
  · intro hstopped later
    exact ⟨Machine.stopped_after hstopped later, Machine.oneMore_of_stopped hstopped later⟩
  · intro later
    -- The stop itself moves neither the calls nor the point.
    exact Machine.oneMore_of_stopped (m := m.turn sink .stop) rfl later
  · intro k call hcall
    rcases hstands.packet_of_call hcall with ⟨frame, hframe, hpacket⟩
    refine ⟨frame, hframe, hpacket, ?_⟩
    rw [hpacket]
    exact Rtp.Header.length_packet _ _
  · intro hturns
    rcases s.exists_outcome sink frames n state hturns with ⟨outcome, hpoint⟩
    exact ⟨_, Machine.result?_eq_some_iff.mpr ⟨outcome, hpoint, rfl⟩⟩
  · intro r hr
    rcases Machine.result?_eq_some_iff.mp hr with ⟨outcome, hpoint, rfl⟩
    refine ⟨rfl, ?_, hstands.taken_iff hr, ?_⟩
    · rw [Rtp.Numbering.iterate_advance]
      exact hstands.numbering hr
    · intro summary hok
      cases hok
      have h := hstands.finished hr rfl
      have hsent := h.packetsSent
      have hbytes := h.payloadBytes
      simp only [opening, Nat.zero_add] at hsent hbytes
      refine ⟨hsent, hbytes, ⟨?_, ?_⟩, h.complete⟩
      · exact Machine.checkedStopped_of_cancelled rfl hpoint
      · exact Machine.cancelled_of_checkedStopped hpoint
  · intro frame hcleared hunread later r hr summary hok
    have hpast : m.PastChecks := ⟨hunread, by simp [hcleared], by simp [hcleared]⟩
    have hfinished := (hstands.after sink later).finished hr hok
    rcases Machine.result?_eq_some_iff.mp hr with ⟨outcome, hpoint, rfl⟩
    cases hok
    have hcancelled := (hpast.after sink later).not_cancelled summary hpoint
    exact ⟨hcancelled, hfinished.complete hcancelled⟩
  · intro hstopped τ sink' frames' n' state' next
    exact refuses hstopped sink' frames' n' state'

/-- One frame: a stop right before the check cancels the run, one right behind it is too late. -/
example (s : Sender) (n : Rtp.Numbering) :
    let taking : Sink Unit := ⟨fun _ packet => { state := (), result := .ok packet.length }⟩
    let start := { s with stopped := false }.machine [⟨[0, 0], true⟩] n ()
    let outcome (turns : List (Turn Unit)) := (start.after taking turns).result?.map (·.outcome)
    outcome [.run, .stop, .run] = some (.ok ⟨0, 0, true⟩) ∧
      outcome [.run, .run, .stop, .run, .run, .run, .run] = some (.ok ⟨1, 2, false⟩) :=
  ⟨rfl, rfl⟩

end Sender
end PacedRtp
