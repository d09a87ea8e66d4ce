import Mathlib
import PacedRtp.Proofs.Sender.Accounting

/-!
# Runs one after the other

A run over `xs ++ ys` makes the calls of a run over `xs`, and, if that run ends well, those of a run
over `ys` that goes on with its numbering, its sink and its stop flag. What the two report adds up
to the report of the single run. The events do not: reports fall due by the packets of one run.
-/

namespace PacedRtp
namespace Sender

variable {σ : Type}

/-- Two runs that leave the same behind them: numbering, sink and stop flag. -/
structure Run.EndsAs (r r' : Run σ) : Prop where
  numbering : r.numbering = r'.numbering
  sink : r.sink = r'.sink
  stopped : r.stopped = r'.stopped

theorem Run.EndsAs.trans {r r' r'' : Run σ} (h : r.EndsAs r') (h' : r'.EndsAs r'') :
    r.EndsAs r'' :=
  ⟨h.numbering.trans h'.numbering, h.sink.trans h'.sink, h.stopped.trans h'.stopped⟩

/-! ## Loops that go on -/

/-- The loop with counts to start from. -/
def Loop.ahead (l : Loop) (packets bytes : Nat) : Loop :=
  { l with packetsSent := packets + l.packetsSent, payloadBytes := bytes + l.payloadBytes }

def Summary.ahead (a : Summary) (packets bytes : Nat) : Summary :=
  { a with packetsSent := packets + a.packetsSent, payloadBytes := bytes + a.payloadBytes }

/-- The loop that goes on where a run of `l` ended. -/
def Loop.resumed (l : Loop) (n : Rtp.Numbering) (a : Summary) : Loop :=
  { l with numbering := n, packetsSent := a.packetsSent, payloadBytes := a.payloadBytes }

/-- What the second of two runs adds to the first: its counts stand for both already. -/
def Summary.continuedBy (a b : Summary) : Summary :=
  { b with cancelled := a.cancelled || b.cancelled }

namespace Loop

theorem ahead_counted (l : Loop) (frame : Pcm.Frame) (packets bytes : Nat) :
    (l.ahead packets bytes).handedOver.counted frame =
      (l.handedOver.counted frame).ahead packets bytes := by
  simp [ahead, counted, handedOver, Nat.add_assoc]

/-- Only a failure of the system is reported with a count. -/
theorem failure_of_not_io (l : Loop) {cause : Error} (h : ∀ source, cause ≠ .io source) :
    l.failure cause = cause := by
  cases cause with
  | io source => exact absurd rfl (h source)
  | _ => rfl

theorem resumed_opening (s : Sender) (n n' : Rtp.Numbering) (a : Summary) :
    (s.opening n).resumed n' a = (s.opening n').ahead a.packetsSent a.payloadBytes :=
  rfl

namespace Runs

variable {sink : Sink σ} {l : Loop} {state : σ} {stopped : Bool} {xs ys frames : List Pcm.Frame}
  {calls calls' : List (Call σ)} {r r' : Run σ}

/-- The rules leave no choice. -/
theorem unique (h : Runs sink l state stopped frames calls r)
    (h' : Runs sink l state stopped frames calls' r') : calls' = calls ∧ r' = r := by
  induction h generalizing calls' r' with
  | complete =>
    cases h' with
    | complete => exact ⟨rfl, rfl⟩
  | cancelled =>
    cases h' with
    | cancelled => exact ⟨rfl, rfl⟩
  | failed l state frame rest hresult =>
    cases h' with
    | failed _ _ _ _ hresult' =>
      rw [hresult] at hresult'
      cases hresult'
      exact ⟨rfl, rfl⟩
    | sent _ _ _ hresult' =>
      rw [hresult] at hresult'
      cases hresult'
  | sent l state frame hresult _ ih =>
    cases h' with
    | failed _ _ _ _ hresult' =>
      rw [hresult] at hresult'
      cases hresult'
    | sent _ _ _ _ hrest =>
      rcases ih hrest with ⟨rfl, rfl⟩
      exact ⟨rfl, rfl⟩

/-- Counts to start from change no call and no ending, only what is reported. -/
theorem ahead (h : Runs sink l state stopped frames calls r) (packets bytes : Nat) :
    ∃ r', Runs sink (l.ahead packets bytes) state stopped frames calls r' ∧ r'.EndsAs r ∧
      (∀ b, r.outcome = .ok b → r'.outcome = .ok (b.ahead packets bytes)) ∧
      (∀ e, r.outcome = .error e → ∃ e', r'.outcome = .error e') := by
  induction h with
  | complete l state stopped =>
    refine ⟨_, .complete (l.ahead packets bytes) state stopped, ⟨rfl, rfl, rfl⟩, ?_, ?_⟩
    · intro b hok
      cases hok
      rfl
    · intro e herror
      cases herror
  | cancelled l state frame rest =>
    refine ⟨_, .cancelled (l.ahead packets bytes) state frame rest, ⟨rfl, rfl, rfl⟩, ?_, ?_⟩
    · intro b hok
      cases hok
      rfl
    · intro e herror
      cases herror
  | failed l state frame rest hresult =>
    refine ⟨_, .failed (l.ahead packets bytes) state frame rest hresult, ⟨rfl, rfl, rfl⟩, ?_, ?_⟩
    · intro b hok
      cases hok
    · exact fun e _ => ⟨_, rfl⟩
  | sent l state frame hresult _ ih =>
    rcases ih with ⟨r', hrest, hends, hok, herror⟩
    rw [← ahead_counted] at hrest
    exact ⟨_, .sent (l.ahead packets bytes) state frame hresult hrest,
      ⟨hends.numbering, hends.sink, hends.stopped⟩, hok, herror⟩

/-- Two failed runs with the same calls failed for the same cause, each after its own count. -/
theorem failures_of_calls {l' : Loop} {state' : σ} {stopped' : Bool} {frames' : List Pcm.Frame}
    {e e' : Error} (h : Runs sink l state stopped frames calls r)
    (h' : Runs sink l' state' stopped' frames' calls r') (he : r.outcome = .error e)
    (he' : r'.outcome = .error e') :
    ∃ taken last cause, calls = taken ++ [last] ∧ (∀ c ∈ taken, c.Taken) ∧
      last.reply.result = .error cause ∧
      e = ({ l with packetsSent := l.packetsSent + taken.length } : Loop).failure cause ∧
      e' = ({ l' with packetsSent := l'.packetsSent + taken.length } : Loop).failure cause := by
  rcases (h.failed_of_error he).last_failed with ⟨taken, last, cause, rfl, htaken, hcause, hfailure⟩
  rcases (h'.failed_of_error he').last_failed with
    ⟨taken', last', cause', hlast, -, hcause', hfailure'⟩
  rcases List.append_inj' hlast rfl with ⟨rfl, hsingle⟩
  cases hsingle
  rw [hcause] at hcause'
  cases hcause'
  exact ⟨taken, last, cause, rfl, htaken, hcause, hfailure, hfailure'⟩

/-! ## Two parts -/

/-- A run that fails never sees the frames behind. -/
theorem append_of_error {e : Error} (h : Runs sink l state stopped xs calls r)
    (herror : r.outcome = .error e) (ys : List Pcm.Frame) :
    Runs sink l state stopped (xs ++ ys) calls { r with unread := r.unread ++ ys } := by
  induction h with
  | complete => cases herror
  | cancelled => cases herror
  | failed l state frame rest hresult => exact .failed l state frame (rest ++ ys) hresult
  | sent l state frame hresult _ ih => exact .sent l state frame hresult (ih herror)

/-- A run that ends well goes on with the frames behind as a run of its own does. -/
theorem append_of_ok {a : Summary} (h : Runs sink l state stopped xs calls r)
    (hok : r.outcome = .ok a)
    (hnext : Runs sink (l.resumed r.numbering a) r.sink r.stopped ys calls' r') :
    ∃ whole, Runs sink l state stopped (xs ++ ys) (calls ++ calls') whole ∧ whole.EndsAs r' ∧
      whole.outcome = r'.outcome.map a.continuedBy := by
  induction h with
  | complete l state stopped =>
    cases hok
    refine ⟨r', hnext, ⟨rfl, rfl, rfl⟩, ?_⟩
    -- A run that was not cancelled adds nothing to the second summary.
    cases r'.outcome <;> rfl
  | cancelled l state frame rest =>
    cases hok
    -- The flag is up, so the second run has no frames or is cancelled as well.
    have hwhole : Runs sink l state true (frame :: rest ++ ys) []
        ⟨.ok (l.summary true), l.numbering, state, true, rest ++ ys, l.closing true⟩ :=
      .cancelled l state frame (rest ++ ys)
    cases hnext with
    | complete => exact ⟨_, hwhole, ⟨rfl, rfl, rfl⟩, rfl⟩
    | cancelled => exact ⟨_, hwhole, ⟨rfl, rfl, rfl⟩, rfl⟩
  | failed => cases hok
  | sent l state frame hresult _ ih =>
    rcases ih hok hnext with ⟨whole, hwhole, hends, houtcome⟩
    exact ⟨_, .sent l state frame hresult hwhole, ⟨hends.numbering, hends.sink, hends.stopped⟩,
      houtcome⟩

end Runs
end Loop

/-! ## Splitting a run -/

/-- One run over `xs ++ ys` beside a run over `xs` and, if that ends well, a run over `ys` that goes
on from it: the same calls, the same state in the end, and a report that adds up. -/
theorem run_append (s : Sender) (sink : Sink σ) (xs ys : List Pcm.Frame) (n : Rtp.Numbering)
    (state : σ) :
    let first := s.run sink xs n state
    let next : Sender := { s with stopped := first.stopped }
    let second := next.run sink ys first.numbering first.sink
    let whole := s.run sink (xs ++ ys) n state
    (∀ e, first.outcome = .error e →
      s.calls sink (xs ++ ys) n state = s.calls sink xs n state ∧ whole.EndsAs first ∧
      whole.outcome = .error e) ∧
    (∀ a, first.outcome = .ok a →
      s.calls sink (xs ++ ys) n state =
        s.calls sink xs n state ++ next.calls sink ys first.numbering first.sink ∧
      whole.EndsAs second ∧
      (∀ b, second.outcome = .ok b →
        whole.outcome = .ok ⟨a.packetsSent + b.packetsSent, a.payloadBytes + b.payloadBytes,
          a.cancelled || b.cancelled⟩) ∧
      (∀ e, second.outcome = .error e →
        ∃ taken last cause,
          next.calls sink ys first.numbering first.sink = taken ++ [last] ∧
          (∀ call ∈ taken, call.Taken) ∧ last.reply.result = .error cause ∧
          (∀ source, cause = .io source → e = .transmission taken.length source ∧
            whole.outcome = .error (.transmission (a.packetsSent + taken.length) source)) ∧
          ((∀ source, cause ≠ .io source) → e = cause ∧ whole.outcome = .error cause))) := by
  intro first next second whole
  have hfirst : Loop.Runs sink (s.opening n) state s.stopped xs (s.calls sink xs n state) first :=
    s.runs_calls sink xs n state
  have hsecond : Loop.Runs sink (s.opening first.numbering) first.sink first.stopped ys
      (next.calls sink ys first.numbering first.sink) second :=
    next.runs_calls sink ys first.numbering first.sink
  have hwhole : Loop.Runs sink (s.opening n) state s.stopped (xs ++ ys)
      (s.calls sink (xs ++ ys) n state) whole := s.runs_calls sink (xs ++ ys) n state
  refine ⟨?_, ?_⟩
  · intro e herror
    rcases (hfirst.append_of_error herror ys).unique hwhole with ⟨hcalls, hrun⟩
    rw [hrun]
    exact ⟨hcalls, ⟨rfl, rfl, rfl⟩, herror⟩
  · intro a hok
    -- The second run with the counts of the first is the tail of the single run.
    rcases hsecond.ahead a.packetsSent a.payloadBytes with
      ⟨tail, htail, hends, htailOk, htailError⟩
    rw [← Loop.resumed_opening s n] at htail
    rcases hfirst.append_of_ok hok htail with ⟨joined, hjoined, hjoinedEnds, houtcome⟩
    rcases hjoined.unique hwhole with ⟨hcalls, hrun⟩
    rw [hrun]
    refine ⟨hcalls, hjoinedEnds.trans hends, ?_, ?_⟩
    · intro b hb
      rw [houtcome, htailOk b hb]
      rfl
    · intro e he
      rcases htailError e he with ⟨e', he'⟩
      rcases hsecond.failures_of_calls htail he he' with
        ⟨taken, last, cause, hlast, htaken, hcause, hfailure, hfailure'⟩
      refine ⟨taken, last, cause, hlast, htaken, hcause, ?_, ?_⟩
      · intro source hsource
        rw [hsource] at hfailure hfailure'
        simp only [opening, Loop.failure, Nat.zero_add] at hfailure
        rw [houtcome, he', hfailure']
        exact ⟨hfailure, rfl⟩
      · intro hnot
        rw [Loop.failure_of_not_io _ hnot] at hfailure hfailure'
        rw [houtcome, he', hfailure']
        exact ⟨hfailure, rfl⟩

end Sender
end PacedRtp
