import Mathlib
import PacedRtp.Proofs.Sender.Progress

/-!
# The log of a run

A run reports its progress whenever the packets it has counted are a multiple of the interval, and
it closes with the events of one of three endings. `Machine.Logged` says what the log holds at every
point of a run. Every turn keeps it, so whatever is done between the steps of a run, its log tells
how many packets the sink took and how the run ended.

The times and rates of some events come from a clock and are not modelled. The audio time of a
report does not: it is computed from the packets counted.
-/

namespace PacedRtp
namespace Sender

variable {σ : Type}

/-! ## Reports -/

namespace Config

/-- The reports of a run that has counted `sent` packets. -/
def reports (c : Config) (sent : Nat) : List Event :=
  ((List.range' 1 sent).filter fun k =>
      0 < c.progressInterval.toNat ∧ c.progressInterval.toNat ∣ k).map
    fun k => .progress k (c.audioSeconds k)

theorem reportsAt_iff (c : Config) (k : Nat) :
    c.reportsAt k = true ↔ 0 < c.progressInterval.toNat ∧ c.progressInterval.toNat ∣ k := by
  rw [reportsAt, Bool.and_eq_true, beq_iff_eq, decide_eq_true_iff, Nat.dvd_iff_mod_eq_zero]
  rfl

/-- One more packet adds the report that is due then, if one is. -/
theorem reports_succ (c : Config) (sent : Nat) :
    c.reports (sent + 1) = c.reports sent ++
      if c.reportsAt (sent + 1) then [.progress (sent + 1) (c.audioSeconds (sent + 1))]
      else [] := by
  rw [reports, List.range'_1_concat, List.filter_append, List.map_append, Nat.add_comm 1 sent]
  congr 1
  by_cases h : c.reportsAt (sent + 1)
  · rw [if_pos h, List.filter_cons_of_pos (by simpa using (c.reportsAt_iff _).mp h)]
    rfl
  · rw [if_neg h, List.filter_cons_of_neg (by simpa using mt (c.reportsAt_iff _).mpr h)]
    rfl

/-- There are as many reports as the interval goes into the packets; none without an interval. -/
theorem length_reports (c : Config) (sent : Nat) :
    (c.reports sent).length = sent / c.progressInterval.toNat := by
  induction sent with
  | zero => simp [reports]
  | succ sent ih =>
    -- A multiple of nothing is no positive number, so the first condition is in the second.
    have hdue : c.reportsAt (sent + 1) = true ↔ c.progressInterval.toNat ∣ sent + 1 := by
      rw [reportsAt_iff, and_iff_right_of_imp (Nat.pos_of_dvd_of_pos · sent.succ_pos)]
    rw [reports_succ, List.length_append, ih, Nat.succ_div]
    by_cases h : c.progressInterval.toNat ∣ sent + 1
    · rw [if_pos (hdue.mpr h), if_pos h, List.length_singleton]
    · rw [if_neg (mt hdue.mp h), if_neg h, List.length_nil]

/-- All reports have one level and one message. -/
theorem headlines_reports (c : Config) (sent : Nat) :
    (c.reports sent).map (fun event => (event.level, event.message)) =
      List.replicate (sent / c.progressInterval.toNat) (.info, "progress") := by
  rw [← c.length_reports, List.eq_replicate_iff, List.length_map]
  refine ⟨rfl, ?_⟩
  intro headline hheadline
  rw [reports, List.map_map, List.mem_map] at hheadline
  rcases hheadline with ⟨k, -, rfl⟩
  rfl

end Config

namespace Loop

/-- What a run has logged that has come to `l` and not ended. -/
def logged (l : Loop) : List Event :=
  l.config.reports l.packetsSent

theorem logged_counted (l : Loop) (frame : Pcm.Frame) :
    (l.counted frame).logged = l.logged ++ (l.counted frame).report :=
  l.config.reports_succ l.packetsSent

end Loop

/-! ## Calls that were taken -/

/-- How many of the calls the sink took. -/
def takenCount (calls : List (Call σ)) : Nat :=
  calls.countP (·.reply.result.isOk)

theorem Call.Taken.isOk {call : Call σ} (h : call.Taken) : call.reply.result.isOk = true := by
  rcases h with ⟨octets, hoctets⟩
  rw [hoctets]
  rfl

theorem takenCount_cons_of_taken {call : Call σ} (h : call.Taken) (calls : List (Call σ)) :
    takenCount (call :: calls) = takenCount calls + 1 :=
  List.countP_cons_of_pos (p := fun c : Call σ => c.reply.result.isOk) h.isOk

theorem takenCount_of_refused {call : Call σ} {cause : Error}
    (h : call.reply.result = .error cause) : takenCount [call] = 0 := by
  rw [takenCount, List.countP_singleton, h]
  rfl

theorem takenCount_of_taken {calls : List (Call σ)} (h : ∀ call ∈ calls, call.Taken) :
    takenCount calls = calls.length := by
  rw [takenCount, List.countP_eq_length]
  exact fun call hcall => (h call hcall).isOk

theorem takenCount_of_failed {taken : List (Call σ)} {last : Call σ} {cause : Error}
    (h : ∀ call ∈ taken, call.Taken) (hlast : last.reply.result = .error cause) :
    takenCount (taken ++ [last]) = taken.length := by
  have hnone := takenCount_of_refused hlast
  have htaken := takenCount_of_taken h
  rw [takenCount] at hnone htaken ⊢
  rw [List.countP_append, hnone, htaken, Nat.add_zero]

/-! ## The log at every point -/

namespace Machine

/-- What the log of a run holds at each of its points. -/
inductive Logged : Machine σ → Prop where
  | ready {l : Loop} {state : σ} {stopped : Bool} {unread : List Pcm.Frame}
      {calls : List (Call σ)} :
      Logged ⟨.ready, l, state, stopped, unread, l.logged, calls⟩
  | pulled {l : Loop} {frame : Pcm.Frame} {state : σ} {stopped : Bool} {unread : List Pcm.Frame}
      {calls : List (Call σ)} :
      Logged ⟨.pulled frame, l, state, stopped, unread, l.logged, calls⟩
  | cleared {l : Loop} {frame : Pcm.Frame} {state : σ} {stopped : Bool} {unread : List Pcm.Frame}
      {calls : List (Call σ)} :
      Logged ⟨.cleared frame, l, state, stopped, unread, l.logged, calls⟩
  | answered {l : Loop} {frame : Pcm.Frame} {state : σ} {stopped : Bool} {unread : List Pcm.Frame}
      {calls : List (Call σ)} {packet : List UInt8} {reply : Reply σ} :
      Logged ⟨.answered frame reply.result, l, state, stopped, unread, l.logged,
        calls ++ [⟨packet, reply⟩]⟩
  | advanced {l : Loop} {frame : Pcm.Frame} {state : σ} {stopped : Bool} {unread : List Pcm.Frame}
      {calls : List (Call σ)} {packet : List UInt8} {reply : Reply σ} :
      Logged ⟨.advanced frame reply.result, l, state, stopped, unread, l.logged,
        calls ++ [⟨packet, reply⟩]⟩
  | ended {l : Loop} {state : σ} {stopped cancelled : Bool} {unread : List Pcm.Frame}
      {calls : List (Call σ)} :
      Logged ⟨.finished (.ok (l.summary cancelled)), l, state, stopped, unread,
        l.logged ++ l.closing cancelled, calls⟩
  | failed {l : Loop} {state : σ} {stopped : Bool} {unread : List Pcm.Frame}
      {calls : List (Call σ)} {packet : List UInt8} {reply : Reply σ} {cause : Error} :
      reply.result = .error cause →
      Logged ⟨.finished (.error (l.failure cause)), l, state, stopped, unread,
        l.logged ++ [.sendFailed l.packetsSent cause], calls ++ [⟨packet, reply⟩]⟩

namespace Logged

variable {m : Machine σ}

theorem step (h : m.Logged) (sink : Sink σ) : (m.step sink).Logged := by
  cases h with
  | @ready l state stopped unread calls =>
    cases unread with
    | nil => exact .ended
    | cons frame rest => exact .pulled
  | @pulled l frame state stopped unread calls =>
    cases stopped with
    | true => exact .ended
    | false => exact .cleared
  | cleared => exact .answered
  | answered => exact .advanced
  | @advanced l frame state stopped unread calls packet reply =>
    rcases reply with ⟨_, result, _⟩
    cases result with
    | error cause => exact .failed rfl
    | ok octets =>
      -- The packet is counted, and the report that falls due with it is logged.
      change Logged ⟨.ready, l.counted frame, _, _, _, l.logged ++ (l.counted frame).report, _⟩
      rw [← Loop.logged_counted]
      exact .ready
  | ended => exact .ended
  | failed hcause => exact .failed hcause

/-- Neither a stop nor a change outside is logged. -/
theorem turn (h : m.Logged) (sink : Sink σ) (t : Turn σ) : (m.turn sink t).Logged := by
  cases t with
  | run => exact h.step sink
  | stop =>
    cases h with
    | failed hcause => exact .failed hcause
    | _ => constructor
  | outside change =>
    cases h with
    | failed hcause => exact .failed hcause
    | _ => constructor

theorem after (h : m.Logged) (sink : Sink σ) (turns : List (Turn σ)) :
    (m.after sink turns).Logged :=
  after_induction h (fun _ t h => h.turn sink t) turns

/-- The log of a run that ended well. -/
theorem log_of_ok (h : m.Logged) {r : Run σ} {summary : Summary} (hr : m.result? = some r)
    (hok : r.outcome = .ok summary) :
    summary.packetsSent = m.loop.packetsSent ∧
      r.log = m.loop.logged ++ m.loop.closing summary.cancelled := by
  cases h with
  | ended =>
    cases hr
    cases hok
    exact ⟨rfl, rfl⟩
  | failed =>
    cases hr
    cases hok
  | _ => cases hr

/-- The log of a run that failed tells the cause of its last call. -/
theorem log_of_error (h : m.Logged) {r : Run σ} {e : Error} (hr : m.result? = some r)
    (herror : r.outcome = .error e) :
    ∃ earlier last cause, m.calls = earlier ++ [last] ∧ last.reply.result = .error cause ∧
      e = m.loop.failure cause ∧
      r.log = m.loop.logged ++ [.sendFailed m.loop.packetsSent cause] := by
  cases h with
  | ended =>
    cases hr
    cases herror
  | failed hcause =>
    cases hr
    cases herror
    exact ⟨_, _, _, rfl, hcause, rfl, rfl⟩
  | _ => cases hr

end Logged

/-! ## The packets that were counted -/

namespace Stands

variable {l : Loop} {frames : List Pcm.Frame} {m : Machine σ}

theorem config (h : Stands l frames m) : m.loop.config = l.config := by
  cases h <;> exact l.config_past _

/-- In the end the packets counted are those that the sink took. -/
theorem packetsSent (h : Stands l frames m) {r : Run σ} (hr : m.result? = some r) :
    m.loop.packetsSent = l.packetsSent + takenCount m.calls := by
  cases h with
  | complete hsent | cancelled hsent =>
    rw [takenCount_of_taken hsent.taken, hsent.length_eq]
    exact l.packetsSent_past _
  | failed hsent hcause =>
    rw [takenCount_of_failed hsent.taken hcause, hsent.length_eq]
    exact l.packetsSent_past _
  | _ => cases hr

/-- No call but the last one of a run that failed was refused. -/
theorem error_of_refused (h : Stands l frames m) {r : Run σ} (hr : m.result? = some r)
    {call : Call σ} (hcall : call ∈ m.calls) {cause : Error}
    (hcause : call.reply.result = .error cause) :
    (∃ e, r.outcome = .error e) ∧ m.calls.getLast? = some call := by
  cases houtcome : r.outcome with
  | ok summary => exact absurd hcause (((h.finished hr houtcome).taken call hcall).ne_error cause)
  | error e =>
    rcases (h.failed_of_error hr houtcome).last_failed with ⟨taken, last, -, hcalls, htaken, -⟩
    refine ⟨⟨e, rfl⟩, ?_⟩
    rw [hcalls, List.mem_append, List.mem_singleton] at hcall
    rcases hcall with hearlier | rfl
    · exact absurd hcause ((htaken call hearlier).ne_error cause)
    · rw [hcalls, List.getLast?_concat]

end Stands
end Machine

/-! ## What the log tells -/

/-- With other turns between its steps, the run can end as `r` after these calls. -/
def ComesTo (s : Sender) (sink : Sink σ) (frames : List Pcm.Frame) (n : Rtp.Numbering) (state : σ)
    (calls : List (Call σ)) (r : Run σ) : Prop :=
  ∃ turns, ((s.machine frames n state).after sink turns).result? = some r ∧
    ((s.machine frames n state).after sink turns).calls = calls

/-- Left alone, a run comes to its result. -/
theorem comesTo_run (s : Sender) (sink : Sink σ) (frames : List Pcm.Frame) (n : Rtp.Numbering)
    (state : σ) :
    s.ComesTo sink frames n state (s.calls sink frames n state) (s.run sink frames n state) :=
  ⟨_, s.machine_alone sink frames n state (Nat.le_refl _)⟩

/-- The log of a run, left alone or with stops and other turns between its steps: a report for each
multiple of the interval among the packets that the sink took, and then the events of the ending.
All of them count the packets as the result of the run does. -/
theorem run_log (s : Sender) (sink : Sink σ) (frames : List Pcm.Frame) (n : Rtp.Numbering)
    (state : σ) :
    s.ComesTo sink frames n state (s.calls sink frames n state) (s.run sink frames n state) ∧
    ∀ (calls : List (Call σ)) (r : Run σ), s.ComesTo sink frames n state calls r →
      let q := s.config.progressInterval.toNat
      let sent := calls.countP (·.reply.result.isOk)
      let reports := ((List.range' 1 sent).filter fun k => 0 < q ∧ q ∣ k).map fun k =>
        Event.progress k (s.config.audioSeconds k)
      let headlines := r.log.map fun event => (event.level, event.message)
      reports.length = sent / q ∧
      (∀ call ∈ calls, ∀ cause, call.reply.result = .error cause →
        r.log = reports ++ [Event.sendFailed sent cause] ∧
        headlines = List.replicate (sent / q) (Level.info, "progress") ++
          [(Level.warn, "send failed, stopping stream")] ∧
        r.outcome = .error (match cause with
          | .io source => .transmission sent source
          | other => other)) ∧
      ((∀ call ∈ calls, call.Taken) → ∃ summary, r.outcome = .ok summary ∧
        summary.packetsSent = sent ∧
        r.log = reports ++ (if summary.cancelled then [Event.stoppedByUser sent] else []) ++
          [Event.complete sent] ∧
        headlines = List.replicate (sent / q) (Level.info, "progress") ++
          (if summary.cancelled then [(Level.warn, "streaming stopped by user")] else []) ++
          [(Level.info, "streaming complete")]) := by
  refine ⟨s.comesTo_run sink frames n state, ?_⟩
  rintro calls r ⟨turns, hr, hcalls⟩
  have hstands := (s.stands_machine frames n state).after sink turns
  have hlogged : ((s.machine frames n state).after sink turns).Logged :=
    Machine.Logged.ready.after sink turns
  generalize (s.machine frames n state).after sink turns = m at hr hcalls hstands hlogged
  subst hcalls
  intro q sent reports headlines
  have hsent : m.loop.packetsSent = sent := by
    rw [hstands.packetsSent hr]
    exact Nat.zero_add _
  have hreports : m.loop.logged = reports := by
    rw [Loop.logged, hstands.config, hsent]
    rfl
  have hheadlines := s.config.headlines_reports sent
  refine ⟨s.config.length_reports sent, ?_, ?_⟩
  · intro call hcall cause hcause
    rcases hstands.error_of_refused hr hcall hcause with ⟨⟨e, he⟩, hlast⟩
    rcases hlogged.log_of_error hr he with ⟨earlier, last, cause', hcalls, hcause', rfl, hlog⟩
    -- The refused call is the last one, so it has the cause that the log tells.
    rw [hcalls, List.getLast?_concat, Option.some.injEq] at hlast
    rw [hlast, hcause, Except.error.injEq] at hcause'
    subst hcause'
    rw [hreports, hsent] at hlog
    refine ⟨hlog, ?_, ?_⟩
    · simp only [headlines, hlog, List.map_append]
      rw [show reports.map _ = _ from hheadlines]
      rfl
    · rw [he, ← hsent]
      cases cause <;> rfl
  · intro htaken
    rcases (hstands.taken_iff hr).mp htaken with ⟨summary, hok⟩
    rcases hlogged.log_of_ok hr hok with ⟨hsummary, hlog⟩
    rw [hreports, Loop.closing, hsent, ← List.append_assoc] at hlog
    refine ⟨summary, hok, hsummary.trans hsent, hlog, ?_⟩
    simp only [headlines, hlog, List.map_append]
    rw [show reports.map _ = _ from hheadlines]
    cases summary.cancelled <;> rfl

end Sender
end PacedRtp
