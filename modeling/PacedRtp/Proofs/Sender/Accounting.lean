import Mathlib
import PacedRtp.Proofs.Rtp.Numbering
import PacedRtp.Proofs.Sender.Calls

/-!
# Accounts of a run

What a run says about itself agrees with the calls it made, whichever way it ended. The calls carry
a prefix of the frames, in order and under consecutive numbers, and no call is made once the stop
flag is up. A run that ends well has counted every call; one that fails has counted all but its
last.
-/

namespace PacedRtp
namespace Sender

variable {σ : Type}

/-- Whether a run was ended early by the stop flag. -/
def Run.cancelled (r : Run σ) : Bool :=
  match r.outcome with
  | .ok summary => summary.cancelled
  | .error _ => false

namespace Loop
namespace Runs

variable {sink : Sink σ} {l : Loop} {state : σ} {stopped : Bool} {frames : List Pcm.Frame}
  {calls : List (Call σ)} {r : Run σ}

/-! ## Calls and numbers -/

theorem length_le (h : Runs sink l state stopped frames calls r) :
    calls.length ≤ frames.length := by
  induction h with
  | complete => simp
  | cancelled => simp
  | failed => simp
  | sent _ _ _ _ _ ih => simpa using ih

theorem packets (h : Runs sink l state stopped frames calls r) :
    calls.map (·.packet) = l.numbering.packets (frames.take calls.length) := by
  induction h with
  | complete => rfl
  | cancelled => rfl
  | failed => rfl
  | sent l state frame hresult hruns ih =>
    simp only [List.map_cons, List.length_cons, List.take_succ_cons, ih]
    rfl

theorem answered (h : Runs sink l state stopped frames calls r) :
    Answered sink state calls r.sink := by
  induction h with
  | complete => exact .nil _
  | cancelled => exact .nil _
  | failed => exact .cons (.nil _)
  | sent _ _ _ _ _ ih => exact .cons ih

theorem numbering (h : Runs sink l state stopped frames calls r) :
    r.numbering = l.numbering.advanceBy calls.length := by
  induction h with
  | complete => simp
  | cancelled => simp
  | failed l => simp [Rtp.Numbering.advanceBy_succ]
  | sent l state frame hresult hruns ih =>
    rw [List.length_cons, Rtp.Numbering.advanceBy_succ]
    exact ih

/-! ## The stop flag -/

/-- The flag before the first call and after each. -/
def flags (stopped : Bool) (calls : List (Call σ)) : List Bool :=
  stopped :: calls.map (·.reply.stop)

/-- The flag was down before every call. -/
theorem flags_down (h : Runs sink l state stopped frames calls r) :
    ∀ k < calls.length, (flags stopped calls)[k]? = some false := by
  induction h with
  | complete => simp
  | cancelled => simp
  | failed => simp [flags]
  | sent l state frame hresult hruns ih =>
    intro k hk
    -- The first call was made with the flag down; the others belong to the rest of the run.
    cases k with
    | zero => rfl
    | succ k => exact ih k (by simpa using hk)

theorem stopped_eq (h : Runs sink l state stopped frames calls r) :
    (flags stopped calls)[calls.length]? = some r.stopped := by
  induction h with
  | complete => rfl
  | cancelled => rfl
  | failed => rfl
  | sent l state frame hresult hruns ih => exact ih

/-! ## Endings -/

/-- What a run without a failed send has done. -/
structure Finished (l : Loop) (frames : List Pcm.Frame) (calls : List (Call σ)) (r : Run σ)
    (summary : Summary) : Prop where
  taken : ∀ c ∈ calls, c.Taken
  packetsSent : summary.packetsSent = l.packetsSent + calls.length
  payloadBytes : summary.payloadBytes =
    l.payloadBytes + ((frames.take calls.length).map (·.payload.length)).sum
  cancelled_iff : summary.cancelled = true ↔ calls.length < frames.length ∧ r.stopped = true
  complete : summary.cancelled = false → calls.length = frames.length
  unread : r.unread = frames.drop (calls.length + summary.cancelled.toNat)

theorem finished {summary : Summary} (h : Runs sink l state stopped frames calls r)
    (hok : r.outcome = .ok summary) : Finished l frames calls r summary := by
  induction h with
  | complete l state stopped =>
    cases hok
    exact ⟨by simp, rfl, rfl, by simp [summary], fun _ => rfl, rfl⟩
  | cancelled l state frame rest =>
    cases hok
    exact ⟨by simp, rfl, rfl, by simp [summary], by simp [summary], rfl⟩
  | failed => cases hok
  | sent l state frame hresult hruns ih =>
    have hrest := ih hok
    -- The account of the rest, with this call, frame and payload in front of it.
    refine ⟨?_, ?_, ?_, ?_, ?_, ?_⟩
    · intro c hc
      rcases List.mem_cons.mp hc with rfl | hc
      · exact ⟨_, hresult⟩
      · exact hrest.taken c hc
    · rw [hrest.packetsSent, List.length_cons]
      simp only [counted, handedOver]
      omega
    · rw [hrest.payloadBytes, List.length_cons]
      simp only [counted, handedOver, List.take_succ_cons, List.map_cons, List.sum_cons]
      omega
    · rw [hrest.cancelled_iff, List.length_cons, List.length_cons, Nat.add_lt_add_iff_right]
      rfl
    · intro hwhole
      rw [List.length_cons, List.length_cons, hrest.complete hwhole]
    · rw [List.length_cons, Nat.add_right_comm, List.drop_succ_cons]
      exact hrest.unread

/-- What a run that ended in a failed send has done. -/
structure Failed (l : Loop) (frames : List Pcm.Frame) (calls : List (Call σ)) (r : Run σ)
    (e : Error) : Prop where
  last_failed : ∃ taken last cause, calls = taken ++ [last] ∧ (∀ c ∈ taken, c.Taken) ∧
    last.reply.result = .error cause ∧
    e = ({ l with packetsSent := l.packetsSent + taken.length } : Loop).failure cause
  unread : r.unread = frames.drop calls.length

theorem failure_congr {l l' : Loop} (h : l.packetsSent = l'.packetsSent) (cause : Error) :
    l.failure cause = l'.failure cause := by
  cases cause <;> simp [failure, h]

theorem failed_of_error {e : Error} (h : Runs sink l state stopped frames calls r)
    (herror : r.outcome = .error e) : Failed l frames calls r e := by
  induction h with
  | complete => cases herror
  | cancelled => cases herror
  | failed l state frame rest hresult =>
    cases herror
    exact ⟨⟨[], _, _, rfl, by simp, hresult, failure_congr rfl _⟩, rfl⟩
  | sent l state frame hresult hruns ih =>
    have hrest := ih herror
    -- The same call failed; one more was taken before it.
    rcases hrest.last_failed with ⟨taken, last, cause, rfl, htaken, hcause, he⟩
    refine ⟨⟨_ :: taken, last, cause, rfl, ?_, hcause, ?_⟩, hrest.unread⟩
    · intro c hc
      rcases List.mem_cons.mp hc with rfl | hc
      · exact ⟨_, hresult⟩
      · exact htaken c hc
    · rw [he, failure_congr]
      simp only [counted, handedOver, List.length_cons]
      omega

/-! ## Frames taken -/

/-- Every call takes a frame, and so does the look at the flag that ends a run early. -/
theorem unread_eq (h : Runs sink l state stopped frames calls r) :
    r.unread = frames.drop (calls.length + r.cancelled.toNat) := by
  cases houtcome : r.outcome with
  | ok summary =>
    rw [(h.finished houtcome).unread, Run.cancelled, houtcome]
  | error e =>
    rw [(h.failed_of_error houtcome).unread, Run.cancelled, houtcome]
    rfl

theorem taken_le (h : Runs sink l state stopped frames calls r) :
    calls.length + r.cancelled.toNat ≤ frames.length := by
  have hle := h.length_le
  cases hcancelled : r.cancelled with
  | false => exact hle
  | true =>
    unfold Run.cancelled at hcancelled
    split at hcancelled
    · rename_i summary houtcome
      exact ((h.finished houtcome).cancelled_iff.mp hcancelled).1
    · cases hcancelled

/-! ## Runs without a refusal -/

/-- A run is complete if the flag is down at its start, the sink takes every call, and no call
raises the flag. -/
theorem complete_of_taken (h : Runs sink l state stopped frames calls r)
    (hstopped : stopped = false) (htaken : ∀ c ∈ calls, c.Taken)
    (hdown : ∀ c ∈ calls, c.reply.stop = false) :
    calls.length = frames.length ∧ r.stopped = false ∧
      r.outcome = .ok ⟨l.packetsSent + frames.length,
        l.payloadBytes + (frames.map (·.payload.length)).sum, false⟩ := by
  induction h with
  | complete => exact ⟨rfl, hstopped, rfl⟩
  | cancelled => cases hstopped
  | failed l state frame rest hresult =>
    exact absurd hresult ((htaken _ List.mem_cons_self).ne_error _)
  | sent l state frame hresult hruns ih =>
    rcases ih (hdown _ List.mem_cons_self) (fun c hc => htaken c (List.mem_cons_of_mem _ hc))
        (fun c hc => hdown c (List.mem_cons_of_mem _ hc)) with
      ⟨hlength, hflag, houtcome⟩
    refine ⟨congrArg (· + 1) hlength, hflag, ?_⟩
    -- The counts of the rest start one packet further on.
    rw [Run.after, houtcome]
    simp only [counted, handedOver, List.length_cons, List.map_cons, List.sum_cons,
      Nat.add_assoc, Nat.add_comm 1]

end Runs
end Loop

/-! ## The account of a run -/

/-- The packet of the `k`-th call. -/
theorem packet_of_call (s : Sender) (sink : Sink σ) (frames : List Pcm.Frame)
    (n : Rtp.Numbering) (state : σ) {k : Nat} (hk : k < (s.calls sink frames n state).length) :
    ∃ call frame, (s.calls sink frames n state)[k]? = some call ∧ frames[k]? = some frame ∧
      call.packet = ((n.advanceBy k).header frame.isFirst).packet frame.payload := by
  have hruns := s.runs_calls sink frames n state
  have hlt : k < frames.length := Nat.lt_of_lt_of_le hk hruns.length_le
  -- The packets of the calls are those of the frames, position by position.
  have hpacket := congrArg (·[k]?) hruns.packets
  simp only [List.getElem?_map, Rtp.Numbering.getElem?_packets, List.getElem?_take, if_pos hk,
    List.getElem?_eq_getElem hk, List.getElem?_eq_getElem hlt, Option.map_some,
    Option.some.injEq] at hpacket
  exact ⟨_, _, List.getElem?_eq_getElem hk, List.getElem?_eq_getElem hlt, hpacket⟩

/-- Every run, over any sink: which calls it made, the numbering it left, and what it reports in
each of its endings. -/
theorem run_account (s : Sender) (sink : Sink σ) (frames : List Pcm.Frame)
    (n : Rtp.Numbering) (state : σ) :
    let r := s.run sink frames n state
    let calls := s.calls sink frames n state
    let c := calls.length
    (s.run sink.recorded frames n (state, [])).mapSink Prod.fst = r ∧
    Answered sink state calls r.sink ∧
    c ≤ frames.length ∧
    (∀ k < c, ∃ call frame, calls[k]? = some call ∧ frames[k]? = some frame ∧
      call.packet = Rtp.Header.packet
        { marker := frame.isFirst
          payloadType := n.payloadType
          sequence := n.sequence + .ofNat k
          timestamp := n.timestamp + .ofNat k * n.samplesPerFrame
          ssrc := n.ssrc } frame.payload) ∧
    (∀ k < c, (Loop.Runs.flags s.stopped calls)[k]? = some false) ∧
    (Loop.Runs.flags s.stopped calls)[c]? = some r.stopped ∧
    r.numbering = Rtp.Numbering.advance^[c] n ∧
    (∀ summary, r.outcome = .ok summary →
      (∀ call ∈ calls, call.Taken) ∧
      summary.packetsSent = c ∧
      summary.payloadBytes = ((frames.take c).map (·.payload.length)).sum ∧
      (summary.cancelled = true ↔ c < frames.length ∧ r.stopped = true) ∧
      (summary.cancelled = false → c = frames.length) ∧
      r.unread = frames.drop (c + summary.cancelled.toNat)) ∧
    (∀ e, r.outcome = .error e →
      ∃ taken last cause, calls = taken ++ [last] ∧
        (∀ call ∈ taken, call.Taken) ∧ last.reply.result = .error cause ∧
        r.unread = frames.drop c ∧
        e = match cause with
          | .io source => .transmission taken.length source
          | other => other) := by
  intro r calls c
  have hruns : Loop.Runs sink (s.opening n) state s.stopped frames calls r :=
    s.runs_calls sink frames n state
  refine ⟨s.run_recorded_eq sink frames n state, hruns.answered, hruns.length_le,
    fun k hk => s.packet_of_call sink frames n state hk, hruns.flags_down, hruns.stopped_eq, ?_,
    ?_, ?_⟩
  · rw [Rtp.Numbering.iterate_advance]
    exact hruns.numbering
  · intro summary hok
    have h := hruns.finished hok
    have hsent := h.packetsSent
    have hbytes := h.payloadBytes
    simp only [opening, Nat.zero_add] at hsent hbytes
    exact ⟨h.taken, hsent, hbytes, h.cancelled_iff, h.complete, h.unread⟩
  · intro e herror
    have h := hruns.failed_of_error herror
    rcases h.last_failed with ⟨taken, last, cause, hcalls, htaken, hcause, he⟩
    refine ⟨taken, last, cause, hcalls, htaken, hcause, h.unread, ?_⟩
    rw [he]
    cases cause <;> simp [Loop.failure, opening]

end Sender
end PacedRtp
