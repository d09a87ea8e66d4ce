import Mathlib
import PacedRtp.Proofs.Sender.Accounting
import PacedRtp.Proofs.Sender.Machine

/-!
# How far a run has come

Whatever happens between its steps, a run takes its frames in order and hands each of them over once
and whole. `Machine.Stands` says for every point of a run what it has done by then. Every turn keeps
it, so the account that a run gives of itself holds under any interleaving as it does for a run that
is left alone.
-/

namespace PacedRtp
namespace Sender

variable {σ : Type}

/-! ## Frames that were sent -/

namespace Loop

/-- The loop behind frames that were sent. -/
def past (l : Loop) (done : List Pcm.Frame) : Loop :=
  done.foldl (fun l frame => l.handedOver.counted frame) l

variable (l : Loop) (done : List Pcm.Frame) (frame : Pcm.Frame)

theorem past_concat : l.past (done ++ [frame]) = (l.past done).handedOver.counted frame :=
  List.foldl_append

theorem numbering_past : (l.past done).numbering = l.numbering.advanceBy done.length := by
  induction done generalizing l with
  | nil => exact l.numbering.advanceBy_zero.symm
  | cons frame rest ih =>
    rw [List.length_cons, Rtp.Numbering.advanceBy_succ]
    exact ih (l.handedOver.counted frame)

theorem packetsSent_past : (l.past done).packetsSent = l.packetsSent + done.length := by
  induction done generalizing l with
  | nil => rfl
  | cons frame rest ih =>
    rw [List.length_cons, Nat.add_comm rest.length, ← Nat.add_assoc]
    exact ih (l.handedOver.counted frame)

theorem payloadBytes_past :
    (l.past done).payloadBytes = l.payloadBytes + (done.map (·.payload.length)).sum := by
  induction done generalizing l with
  | nil => rfl
  | cons frame rest ih =>
    rw [List.map_cons, List.sum_cons, ← Nat.add_assoc]
    exact ih (l.handedOver.counted frame)

theorem config_past : (l.past done).config = l.config := by
  induction done generalizing l with
  | nil => rfl
  | cons frame rest ih => exact ih (l.handedOver.counted frame)

/-- The call that hands over the frame behind those that were sent. -/
def callPast (reply : Reply σ) : Call σ :=
  ⟨(l.past done).packet frame, reply⟩

/-- The calls carry the packets of the frames, and the sink took every one. -/
structure SentAll (calls : List (Call σ)) : Prop where
  packets : calls.map (·.packet) = l.numbering.packets done
  taken : ∀ call ∈ calls, call.Taken

variable {l done frame} {calls : List (Call σ)}

theorem SentAll.length_eq (h : l.SentAll done calls) : calls.length = done.length := by
  simpa using congrArg List.length h.packets

/-- Taken or not, one more call carries one more packet. -/
theorem SentAll.packets_concat (h : l.SentAll done calls) (reply : Reply σ) :
    (calls ++ [l.callPast done frame reply]).map (·.packet) =
      l.numbering.packets (done ++ [frame]) := by
  rw [List.map_append, h.packets, Rtp.Numbering.packets_append, ← numbering_past]
  rfl

theorem SentAll.concat (h : l.SentAll done calls) {reply : Reply σ} {octets : Nat}
    (hreply : reply.result = .ok octets) :
    l.SentAll (done ++ [frame]) (calls ++ [l.callPast done frame reply]) where
  packets := h.packets_concat reply
  taken := by
    intro call hcall
    rcases List.mem_append.mp hcall with hcall | hcall
    · exact h.taken call hcall
    · cases List.mem_singleton.mp hcall
      exact ⟨octets, hreply⟩

end Loop

/-! ## Points of a run -/

namespace Machine

/-- How a run over `frames` stands that began with the loop `l`, at each of its points. -/
inductive Stands (l : Loop) : List Pcm.Frame → Machine σ → Prop where
  | ready {done rest : List Pcm.Frame} {state : σ} {stopped : Bool} {log : List Event}
      {calls : List (Call σ)} : l.SentAll done calls →
      Stands l (done ++ rest) ⟨.ready, l.past done, state, stopped, rest, log, calls⟩
  | pulled {done rest : List Pcm.Frame} {frame : Pcm.Frame} {state : σ} {stopped : Bool}
      {log : List Event} {calls : List (Call σ)} : l.SentAll done calls →
      Stands l (done ++ frame :: rest)
        ⟨.pulled frame, l.past done, state, stopped, rest, log, calls⟩
  | cleared {done rest : List Pcm.Frame} {frame : Pcm.Frame} {state : σ} {stopped : Bool}
      {log : List Event} {calls : List (Call σ)} : l.SentAll done calls →
      Stands l (done ++ frame :: rest)
        ⟨.cleared frame, l.past done, state, stopped, rest, log, calls⟩
  | answered {done rest : List Pcm.Frame} {frame : Pcm.Frame} {state : σ} {stopped : Bool}
      {log : List Event} {calls : List (Call σ)} {reply : Reply σ} : l.SentAll done calls →
      Stands l (done ++ frame :: rest)
        ⟨.answered frame reply.result, l.past done, state, stopped, rest, log,
          calls ++ [l.callPast done frame reply]⟩
  | advanced {done rest : List Pcm.Frame} {frame : Pcm.Frame} {state : σ} {stopped : Bool}
      {log : List Event} {calls : List (Call σ)} {reply : Reply σ} : l.SentAll done calls →
      Stands l (done ++ frame :: rest)
        ⟨.advanced frame reply.result, (l.past done).handedOver, state, stopped, rest, log,
          calls ++ [l.callPast done frame reply]⟩
  | complete {frames : List Pcm.Frame} {state : σ} {stopped : Bool} {log : List Event}
      {calls : List (Call σ)} : l.SentAll frames calls →
      Stands l frames
        ⟨.finished (.ok ((l.past frames).summary false)), l.past frames, state, stopped, [], log,
          calls⟩
  | cancelled {done rest : List Pcm.Frame} {frame : Pcm.Frame} {state : σ} {log : List Event}
      {calls : List (Call σ)} : l.SentAll done calls →
      Stands l (done ++ frame :: rest)
        ⟨.finished (.ok ((l.past done).summary true)), l.past done, state, true, rest, log, calls⟩
  | failed {done rest : List Pcm.Frame} {frame : Pcm.Frame} {state : σ} {stopped : Bool}
      {log : List Event} {calls : List (Call σ)} {reply : Reply σ} {cause : Error} :
      l.SentAll done calls → reply.result = .error cause →
      Stands l (done ++ frame :: rest)
        ⟨.finished (.error ((l.past done).failure cause)), (l.past done).handedOver, state, stopped,
          rest, log, calls ++ [l.callPast done frame reply]⟩

namespace Stands

variable {sink : Sink σ} {l : Loop} {frames : List Pcm.Frame} {m : Machine σ}

theorem step (h : Stands l frames m) (sink : Sink σ) : Stands l frames (m.step sink) := by
  cases h with
  | @ready done rest _ _ _ _ hsent =>
    cases rest with
    | nil =>
      rw [List.append_nil]
      exact .complete hsent
    | cons frame rest => exact .pulled hsent
  | @pulled _ _ _ _ stopped _ _ hsent =>
    cases stopped with
    | true => exact .cancelled hsent
    | false => exact .cleared hsent
  | cleared hsent => exact .answered hsent
  | answered hsent => exact .advanced hsent
  | @advanced done rest frame _ stopped _ _ reply hsent =>
    rcases reply with ⟨_, result, _⟩
    cases result with
    | error cause => exact .failed hsent rfl
    | ok octets =>
      -- The frame counts as sent from here on.
      change Stands l (done ++ frame :: rest)
        ⟨.ready, (l.past done).handedOver.counted frame, _, stopped, rest, _, _⟩
      rw [List.append_cons, ← Loop.past_concat]
      exact .ready (hsent.concat rfl)
  | complete hsent => exact .complete hsent
  | cancelled hsent => exact .cancelled hsent
  | failed hsent hcause => exact .failed hsent hcause

/-- Neither a stop nor a change outside moves a run. -/
theorem turn (h : Stands l frames m) (sink : Sink σ) (t : Turn σ) :
    Stands l frames (m.turn sink t) := by
  cases t with
  | run => exact h.step sink
  | stop => cases h <;> constructor <;> assumption
  | outside change => cases h <;> constructor <;> assumption

theorem after (h : Stands l frames m) (sink : Sink σ) (turns : List (Turn σ)) :
    Stands l frames (m.after sink turns) :=
  after_induction h (fun _ t h => h.turn sink t) turns

/-! ## The account -/

/-- The calls are those of the first frames. -/
theorem packets (h : Stands l frames m) :
    ∃ handed rest, frames = handed ++ rest ∧
      m.calls.map (·.packet) = l.numbering.packets handed := by
  cases h with
  | ready hsent => exact ⟨_, _, rfl, hsent.packets⟩
  | pulled hsent => exact ⟨_, _, rfl, hsent.packets⟩
  | cleared hsent => exact ⟨_, _, rfl, hsent.packets⟩
  | complete hsent => exact ⟨_, [], (List.append_nil _).symm, hsent.packets⟩
  | cancelled hsent => exact ⟨_, _, rfl, hsent.packets⟩
  | answered hsent => exact ⟨_, _, List.append_cons _ _ _, hsent.packets_concat _⟩
  | advanced hsent => exact ⟨_, _, List.append_cons _ _ _, hsent.packets_concat _⟩
  | failed hsent _ => exact ⟨_, _, List.append_cons _ _ _, hsent.packets_concat _⟩

theorem packet_of_call (h : Stands l frames m) {k : Nat} {call : Call σ}
    (hcall : m.calls[k]? = some call) :
    ∃ frame, frames[k]? = some frame ∧
      call.packet = ((l.numbering.advanceBy k).header frame.isFirst).packet frame.payload := by
  rcases h.packets with ⟨handed, rest, rfl, hpackets⟩
  have hpacket := congrArg (·[k]?) hpackets
  simp only [List.getElem?_map, hcall, Option.map_some, Rtp.Numbering.getElem?_packets] at hpacket
  rcases Option.map_eq_some_iff.mp hpacket.symm with ⟨frame, hframe, hpacketEq⟩
  refine ⟨frame, ?_, hpacketEq.symm⟩
  rw [List.getElem?_append_left (List.getElem?_eq_some_iff.mp hframe).1]
  exact hframe

theorem numbering (h : Stands l frames m) {r : Run σ} (hr : m.result? = some r) :
    r.numbering = l.numbering.advanceBy m.calls.length := by
  cases h with
  | complete hsent =>
    cases hr
    rw [hsent.length_eq]
    exact l.numbering_past _
  | cancelled hsent =>
    cases hr
    rw [hsent.length_eq]
    exact l.numbering_past _
  | @failed done _ _ _ _ _ _ _ _ hsent _ =>
    cases hr
    rw [List.length_append, hsent.length_eq, ← Rtp.Numbering.iterate_advance,
      List.length_singleton, Function.iterate_succ_apply', Rtp.Numbering.iterate_advance,
      ← l.numbering_past]
    rfl
  | _ => cases hr

/-- A run that ended well under any interleaving has done what a run left alone has done. -/
theorem finished (h : Stands l frames m) {r : Run σ} {summary : Summary} (hr : m.result? = some r)
    (hok : r.outcome = .ok summary) : Loop.Runs.Finished l frames m.calls r summary := by
  cases h with
  | complete hsent =>
    cases hr
    cases hok
    refine ⟨hsent.taken, ?_, ?_, ?_, fun _ => hsent.length_eq, ?_⟩
    · rw [hsent.length_eq]
      exact l.packetsSent_past _
    · rw [hsent.length_eq, List.take_length]
      exact l.payloadBytes_past _
    · simp [Loop.summary, hsent.length_eq]
    · simp [Loop.summary, hsent.length_eq]
  | @cancelled done rest frame _ _ _ hsent =>
    cases hr
    cases hok
    refine ⟨hsent.taken, ?_, ?_, ?_, ?_, ?_⟩
    · rw [hsent.length_eq]
      exact l.packetsSent_past done
    · rw [hsent.length_eq, List.take_left]
      exact l.payloadBytes_past done
    · simp [Loop.summary, hsent.length_eq]
    · simp [Loop.summary]
    · simp [Loop.summary, hsent.length_eq]
  | failed =>
    cases hr
    cases hok
  | _ => cases hr

theorem failed_of_error (h : Stands l frames m) {r : Run σ} {e : Error} (hr : m.result? = some r)
    (herror : r.outcome = .error e) : Loop.Runs.Failed l frames m.calls r e := by
  cases h with
  | @failed done rest frame _ _ _ calls reply cause hsent hcause =>
    cases hr
    cases herror
    refine ⟨⟨calls, _, cause, rfl, hsent.taken, hcause, ?_⟩, ?_⟩
    · apply Loop.Runs.failure_congr
      rw [l.packetsSent_past, hsent.length_eq]
    · simp [hsent.length_eq]
  | complete =>
    cases hr
    cases herror
  | cancelled =>
    cases hr
    cases herror
  | _ => cases hr

/-- A run ends well exactly if no send failed. -/
theorem taken_iff (h : Stands l frames m) {r : Run σ} (hr : m.result? = some r) :
    (∀ call ∈ m.calls, call.Taken) ↔ ∃ summary, r.outcome = .ok summary := by
  refine ⟨?_, ?_⟩
  · intro htaken
    cases houtcome : r.outcome with
    | ok summary => exact ⟨summary, rfl⟩
    | error e =>
      rcases (h.failed_of_error hr houtcome).last_failed with
        ⟨taken, last, cause, hcalls, -, hcause, -⟩
      exact absurd hcause ((htaken last (by simp [hcalls])).ne_error cause)
  · rintro ⟨summary, hok⟩
    exact (h.finished hr hok).taken

end Stands
end Machine

theorem stands_machine (s : Sender) (frames : List Pcm.Frame) (n : Rtp.Numbering) (state : σ) :
    Machine.Stands (s.opening n) frames (s.machine frames n state) := by
  have hnone : (s.opening n).SentAll [] ([] : List (Call σ)) :=
    ⟨rfl, fun _ hcall => absurd hcall List.not_mem_nil⟩
  exact .ready hnone

end Sender
end PacedRtp
