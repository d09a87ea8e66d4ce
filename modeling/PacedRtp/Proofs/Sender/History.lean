import Mathlib
import PacedRtp.Proofs.Pcm.Frames
import PacedRtp.Proofs.Sender.Accounting
import PacedRtp.Proofs.Sender.Session

/-!
# Runs that share a stream

Several runs, one after the other, may use up one numbering and the frames of one clip, each with a
sender, a sink and an ending of its own. The calls of all of them carry consecutive numbers, and
their frames come in the order of the clip. A cancelled run has taken one frame that it does not
send, so from there on the frames are one further ahead of the numbers.

The history of such runs is read off as a list of entries, one for each run. `attempted` and `lost`
count through it and give the places in the clip of the frames that were handed to a sink and of
those that were not. A run that has no buffer for a frame or a packet is a panic and ends the history
without an entry.
-/

namespace PacedRtp
namespace Sender

/-! ## Histories -/

/-- What the runs of a history share. -/
structure Shared where
  numbering : Rtp.Numbering
  frames : Pcm.Frames

/-- One run of a history. -/
structure Use where
  {σ : Type}
  sender : Sender
  sink : Sink σ
  state : σ

/-- What shows of a run in a history. -/
structure Entry where
  /-- The packets of its calls, in order. -/
  packets : List (List UInt8)
  cancelled : Bool

/-- One run: what shows of it, and what it leaves for the next one. -/
def Use.step (u : Use) (sh : Shared) : Except Panic (Entry × Shared) := do
  let frames ← u.sender.pull sh.frames
  let run := u.sender.run u.sink frames sh.numbering u.state
  let calls := u.sender.calls u.sink frames sh.numbering u.state
  let left ← sh.frames.drop (frames.length - run.unread.length)
  return (⟨calls.map (·.packet), run.cancelled⟩, ⟨run.numbering, left⟩)

/-- Runs one after the other, and what is left behind the last. -/
def history : List Use → Shared → Except Panic (List Entry × Shared)
  | [], sh => .ok ([], sh)
  | u :: later, sh => do
    let (e, next) ← u.step sh
    let (es, last) ← history later next
    return (e :: es, last)

theorem history_cons {u : Use} {later : List Use} {sh last : Shared} {es : List Entry}
    (h : history (u :: later) sh = .ok (es, last)) :
    ∃ e next es', u.step sh = .ok (e, next) ∧ history later next = .ok (es', last) ∧
      es = e :: es' := by
  rw [history] at h
  cases hstep : u.step sh with
  | error p =>
    rw [hstep] at h
    cases h
  | ok pair =>
    rcases pair with ⟨e, next⟩
    rw [hstep] at h
    cases hlater : history later next with
    | error p =>
      simp only [bind, Except.bind, hlater] at h
      cases h
    | ok pair =>
      rcases pair with ⟨es', last'⟩
      simp only [bind, Except.bind, hlater] at h
      cases h
      exact ⟨e, next, es', rfl, hlater, rfl⟩

/-! ## Counting through a history -/

/-- The calls of all runs. -/
def callCount (es : List Entry) : Nat :=
  (es.flatMap (·.packets)).length

def cancelCount (es : List Entry) : Nat :=
  es.countP (·.cancelled)

/-- The places in the clip of the frames of all calls, from `start` on. -/
def attempted : Nat → List Entry → List Nat
  | _, [] => []
  | start, e :: later =>
    List.range' start e.packets.length ++
      attempted (start + e.packets.length + e.cancelled.toNat) later

/-- The places of the frames that cancelled runs took and did not send. -/
def lost : Nat → List Entry → List Nat
  | _, [] => []
  | start, e :: later =>
    List.range' (start + e.packets.length) e.cancelled.toNat ++
      lost (start + e.packets.length + e.cancelled.toNat) later

@[simp] theorem callCount_cons (e : Entry) (es : List Entry) :
    callCount (e :: es) = e.packets.length + callCount es := by
  simp [callCount]

@[simp] theorem cancelCount_cons (e : Entry) (es : List Entry) :
    cancelCount (e :: es) = e.cancelled.toNat + cancelCount es := by
  cases h : e.cancelled <;> simp [cancelCount, h, Nat.add_comm]

@[simp] theorem length_attempted (start : Nat) (es : List Entry) :
    (attempted start es).length = callCount es := by
  induction es generalizing start with
  | nil => rfl
  | cons e later ih => rw [attempted, List.length_append, List.length_range', ih, callCount_cons]

@[simp] theorem length_lost (start : Nat) (es : List Entry) :
    (lost start es).length = cancelCount es := by
  induction es generalizing start with
  | nil => rfl
  | cons e later ih => rw [lost, List.length_append, List.length_range', ih, cancelCount_cons]

theorem attempted_append (start : Nat) (es es' : List Entry) :
    attempted start (es ++ es') =
      attempted start es ++ attempted (start + callCount es + cancelCount es) es' := by
  induction es generalizing start with
  | nil => rfl
  | cons e later ih =>
    rw [List.cons_append, attempted, attempted, ih, List.append_assoc, callCount_cons,
      cancelCount_cons]
    congr 3
    omega

theorem lost_append (start : Nat) (es es' : List Entry) :
    lost start (es ++ es') =
      lost start es ++ lost (start + callCount es + cancelCount es) es' := by
  induction es generalizing start with
  | nil => rfl
  | cons e later ih =>
    rw [List.cons_append, lost, lost, ih, List.append_assoc, callCount_cons, cancelCount_cons]
    congr 3
    omega

/-- The places of all frames that were taken, run by run. -/
theorem range'_cons (start : Nat) (e : Entry) (es : List Entry) :
    List.range' start (callCount (e :: es) + cancelCount (e :: es)) =
      List.range' start e.packets.length ++
        (List.range' (start + e.packets.length) e.cancelled.toNat ++
          List.range' (start + e.packets.length + e.cancelled.toNat)
            (callCount es + cancelCount es)) := by
  rw [List.range'_append_1, List.range'_append_1, callCount_cons, cancelCount_cons]
  congr 1
  omega

theorem attempted_sublist (start : Nat) (es : List Entry) :
    (attempted start es).Sublist (List.range' start (callCount es + cancelCount es)) := by
  induction es generalizing start with
  | nil => exact List.Sublist.refl _
  | cons e later ih =>
    rw [range'_cons, attempted]
    exact (List.Sublist.refl _).append ((ih _).trans (List.sublist_append_right _ _))

/-- Frames are attempted in the order of the clip, none of them twice. -/
theorem pairwise_attempted (start : Nat) (es : List Entry) :
    (attempted start es).Pairwise (· < ·) :=
  List.Pairwise.sublist (attempted_sublist start es) List.pairwise_lt_range'

/-- Every frame that was taken was either attempted or lost. -/
theorem attempted_append_lost_perm (start : Nat) (es : List Entry) :
    (attempted start es ++ lost start es).Perm
      (List.range' start (callCount es + cancelCount es)) := by
  induction es generalizing start with
  | nil => exact List.Perm.refl _
  | cons e later ih =>
    rw [range'_cons, attempted, lost, List.append_assoc]
    refine List.Perm.append_left _ ?_
    -- The frame that this run lost stands in front of the later ones.
    refine (List.perm_append_comm_assoc _ _ _).trans ?_
    exact List.Perm.append_left _ (ih _)

/-! ## One run -/

/-- What a run of a history has done: its calls and its ending are those of a run over the frames
that were left. -/
structure Use.Steps (u : Use) (sh : Shared) (e : Entry) (next : Shared) : Prop where
  room : u.sender.HasRoom sh.frames
  packets : e.packets =
    (u.sender.calls u.sink sh.frames.toList sh.numbering u.state).map (·.packet)
  cancelled : e.cancelled =
    (u.sender.run u.sink sh.frames.toList sh.numbering u.state).cancelled
  numbering : next.numbering =
    (u.sender.run u.sink sh.frames.toList sh.numbering u.state).numbering
  frames : next.frames = Pcm.Frames.rest^[sh.frames.count -
    (u.sender.run u.sink sh.frames.toList sh.numbering u.state).unread.length] sh.frames

theorem Use.step_of_hasRoom {u : Use} {sh : Shared} (h : u.sender.HasRoom sh.frames) :
    ∃ e next, u.step sh = .ok (e, next) ∧ u.Steps sh e next := by
  have hdrop := fun k => Pcm.Frames.drop_of_hasRoom h.1 k
  let calls := u.sender.calls u.sink sh.frames.toList sh.numbering u.state
  let run := u.sender.run u.sink sh.frames.toList sh.numbering u.state
  refine ⟨⟨calls.map (·.packet), run.cancelled⟩,
    ⟨run.numbering, Pcm.Frames.rest^[sh.frames.count - run.unread.length] sh.frames⟩, ?_,
    ⟨h, rfl, rfl, rfl, rfl⟩⟩
  simp only [step, pull_of_hasRoom h, bind, Except.bind, hdrop, Pcm.Frames.length_toList]
  rfl

theorem Use.steps_of_step {u : Use} {sh next : Shared} {e : Entry}
    (h : u.step sh = .ok (e, next)) : u.Steps sh e next := by
  by_cases hroom : u.sender.HasRoom sh.frames
  · rcases u.step_of_hasRoom hroom with ⟨e', next', hstep, hsteps⟩
    cases h.symm.trans hstep
    exact hsteps
  · rw [step, pull_of_overflow hroom] at h
    cases h

/-- `sh` is what `calls` packets and `cancelled` runs have left of `origin`. -/
structure Shared.Behind (origin : Shared) (calls cancelled : Nat) (sh : Shared) : Prop where
  numbering : sh.numbering = origin.numbering.advanceBy calls
  frames : sh.frames.toList = origin.frames.toList.drop (calls + cancelled)
  le : calls + cancelled ≤ origin.frames.toList.length

namespace Shared.Behind

variable {origin sh : Shared} {calls cancelled : Nat}

theorem refl (sh : Shared) : sh.Behind 0 0 sh :=
  ⟨by simp, rfl, Nat.zero_le _⟩

theorem next (h : origin.Behind calls cancelled sh) {u : Use} {e : Entry} {next : Shared}
    (hsteps : u.Steps sh e next) :
    origin.Behind (calls + e.packets.length) (cancelled + e.cancelled.toNat) next := by
  have hruns := u.sender.runs_calls u.sink sh.frames.toList sh.numbering u.state
  have hlength : e.packets.length =
      (u.sender.calls u.sink sh.frames.toList sh.numbering u.state).length := by
    rw [hsteps.packets, List.length_map]
  have hunread := hruns.unread_eq
  have htaken := hruns.taken_le
  rw [← hlength, ← hsteps.cancelled] at hunread htaken
  have hle := h.le
  have hleft := congrArg List.length h.frames
  rw [List.length_drop] at hleft
  refine ⟨?_, ?_, by omega⟩
  · rw [hsteps.numbering, ← Rtp.Numbering.advanceBy_advanceBy, ← h.numbering, hlength]
    exact hruns.numbering
  · -- What the iterator has left are the frames that the run has not read.
    have hcount : sh.frames.count -
        (u.sender.run u.sink sh.frames.toList sh.numbering u.state).unread.length =
          e.packets.length + e.cancelled.toNat := by
      rw [hunread, List.length_drop, ← Pcm.Frames.length_toList]
      omega
    rw [hsteps.frames, Pcm.Frames.toList_iterate_rest, hcount, h.frames, List.drop_drop]
    congr 1
    omega

/-- The packet of a call in a run that comes after others. -/
theorem packet (h : origin.Behind calls cancelled sh) {u : Use} {e : Entry} {next : Shared}
    (hsteps : u.Steps sh e next) {i : Nat} {packet : List UInt8}
    (hpacket : e.packets[i]? = some packet) :
    ∃ frame, origin.frames.toList[calls + i + cancelled]? = some frame ∧
      packet =
        ((origin.numbering.advanceBy (calls + i)).header frame.isFirst).packet frame.payload := by
  have hruns := u.sender.runs_calls u.sink sh.frames.toList sh.numbering u.state
  rw [hsteps.packets, hruns.packets, Rtp.Numbering.packets_take, List.getElem?_take] at hpacket
  split at hpacket
  · rw [Rtp.Numbering.getElem?_packets, Option.map_eq_some_iff] at hpacket
    rcases hpacket with ⟨frame, hframe, rfl⟩
    refine ⟨frame, ?_, ?_⟩
    · rw [h.frames, List.getElem?_drop] at hframe
      rw [← hframe]
      congr 1
      omega
    · rw [opening, h.numbering, Rtp.Numbering.advanceBy_advanceBy]
  · cases hpacket

/-! ## Every history -/

theorem after {last : Shared} {es : List Entry} {uses : List Use}
    (h : origin.Behind calls cancelled sh) (hhistory : history uses sh = .ok (es, last)) :
    origin.Behind (calls + callCount es) (cancelled + cancelCount es) last := by
  induction uses generalizing sh calls cancelled es with
  | nil =>
    cases hhistory
    exact h
  | cons u later ih =>
    rcases history_cons hhistory with ⟨e, next, es, hstep, hlater, rfl⟩
    have hnext := ih (h.next (Use.steps_of_step hstep)) hlater
    rw [Nat.add_assoc, Nat.add_assoc] at hnext
    rw [callCount_cons, cancelCount_cons]
    exact hnext

theorem packet_of_entry {last : Shared} {uses : List Use} {earlier later : List Entry} {e : Entry}
    (h : origin.Behind calls cancelled sh)
    (hhistory : history uses sh = .ok (earlier ++ e :: later, last))
    {i : Nat} {packet : List UInt8} (hpacket : e.packets[i]? = some packet) :
    ∃ frame,
      origin.frames.toList[calls + callCount earlier + i + (cancelled + cancelCount earlier)]? =
        some frame ∧
      packet = ((origin.numbering.advanceBy (calls + callCount earlier + i)).header
        frame.isFirst).packet frame.payload := by
  -- The first run of the history is the one, or the history goes on behind it.
  induction uses generalizing sh calls cancelled earlier with
  | nil => simp [history] at hhistory
  | cons u rest ih =>
    rcases history_cons hhistory with ⟨first, next, es, hstep, hlater, hes⟩
    have hsteps := Use.steps_of_step hstep
    cases earlier with
    | nil =>
      cases hes
      exact h.packet hsteps hpacket
    | cons _ earlier =>
      rw [List.cons_append, List.cons.injEq] at hes
      rcases hes with ⟨rfl, rfl⟩
      have hbehind := ih (h.next hsteps) hlater
      rw [Nat.add_assoc calls, Nat.add_assoc cancelled] at hbehind
      rw [callCount_cons, cancelCount_cons]
      exact hbehind

end Shared.Behind

/-- Where there is a buffer for every packet, every history comes to its end. -/
theorem exists_history (uses : List Use) {sh : Shared}
    (h : sh.frames.remaining = [] ∨ Rtp.headerLength + sh.frames.frameSize ≤ capacityLimit) :
    ∃ es last, history uses sh = .ok (es, last) := by
  induction uses generalizing sh with
  | nil => exact ⟨[], sh, rfl⟩
  | cons u later ih =>
    rcases u.step_of_hasRoom (hasRoom_of_le h) with ⟨e, next, hstep, hsteps⟩
    have hnext : next.frames.remaining = [] ∨
        Rtp.headerLength + next.frames.frameSize ≤ capacityLimit := by
      rw [hsteps.frames, Pcm.Frames.frameSize_iterate_rest]
      refine h.imp_left fun hempty => ?_
      rw [Pcm.Frames.iterate_rest_of_empty hempty, hempty]
    rcases ih hnext with ⟨es, last, hlater⟩
    refine ⟨e :: es, last, ?_⟩
    simp only [history, hstep, bind, Except.bind, hlater, pure, Except.pure]

/-! ## Fresh streams -/

/-- Any history of runs over one clip and one fresh numbering. Call `k` of the whole history is
numbered `k` and carries frame `k + c`, where `c` runs were cancelled before the run of that call;
each cancelled run loses one frame, and only frame 0 is marked. -/
theorem history_numbers (ssrc samplesPerFrame : UInt32) (payloadType : UInt8)
    (framing : Pcm.Framing) (pcm : List UInt8) (uses : List Use) :
    let clip := (framing.frames pcm).toList
    let start : Shared := ⟨{ ssrc, payloadType, samplesPerFrame }, framing.frames pcm⟩
    (∀ frames, (framing.frames pcm).collect = .ok frames → frames = clip) ∧
    (pcm = [] ∨ 12 + framing.frameSize ≤ capacityLimit →
      ∃ es last, history uses start = .ok (es, last)) ∧
    ∀ es last, history uses start = .ok (es, last) →
      (∀ earlier e later, es = earlier ++ e :: later →
        ∀ i packet, e.packets[i]? = some packet →
          let k := callCount earlier + i
          let c := cancelCount earlier
          (attempted 0 es)[k]? = some (k + c) ∧
          ∃ (header : Rtp.Header) (frame : Pcm.Frame), clip[k + c]? = some frame ∧
            packet = header.packet frame.payload ∧
            header.sequence.toNat = k % 2 ^ 16 ∧
            header.timestamp.toNat = k * samplesPerFrame.toNat % 2 ^ 32 ∧
            header.marker = decide (k + c = 0) ∧
            header.payloadType = payloadType ∧ header.ssrc = ssrc) ∧
      (∀ earlier e later, es = earlier ++ e :: later → e.cancelled = true →
        callCount earlier + e.packets.length + cancelCount earlier ∈ lost 0 es) ∧
      (attempted 0 es).Pairwise (· < ·) ∧
      (attempted 0 es ++ lost 0 es).Perm (List.range (callCount es + cancelCount es)) ∧
      (attempted 0 es).length = callCount es ∧ (lost 0 es).length = cancelCount es ∧
      callCount es + cancelCount es ≤ clip.length ∧
      last.frames.toList = clip.drop (callCount es + cancelCount es) ∧
      last.numbering = Rtp.Numbering.advance^[callCount es] start.numbering := by
  intro clip start
  refine ⟨fun frames h => (Pcm.Frames.collect_eq_ok_iff.mp h).2,
    fun hroom => @exists_history uses start hroom, ?_⟩
  intro es last hhistory
  have hend : start.Behind (callCount es) (cancelCount es) last := by
    simpa using (Shared.Behind.refl start).after hhistory
  refine ⟨?_, ?_, pairwise_attempted 0 es, ?_, length_attempted 0 es, length_lost 0 es, hend.le,
    hend.frames, ?_⟩
  · intro earlier e later hes i packet hpacket k c
    have hi : i < e.packets.length := (List.getElem?_eq_some_iff.mp hpacket).1
    rw [hes] at hhistory
    rcases (Shared.Behind.refl start).packet_of_entry hhistory hpacket with
      ⟨frame, hframe, hpacketEq⟩
    simp only [Nat.zero_add] at hframe hpacketEq
    refine ⟨?_, _, frame, hframe, hpacketEq, ?_, ?_, ?_, rfl, rfl⟩
    · rw [hes, attempted_append, attempted, List.getElem?_append_right (by simp [k]),
        List.getElem?_append_left (by simp [k, hi]), List.getElem?_range' (by simp [k, hi])]
      simp only [length_attempted, Option.some.injEq, k, c]
      omega
    · have h := Rtp.Numbering.toNat_sequence_advanceBy start.numbering k
      rwa [show start.numbering.sequence.toNat = 0 from rfl, Nat.zero_add] at h
    · have h := Rtp.Numbering.toNat_timestamp_advanceBy start.numbering k
      rwa [show start.numbering.timestamp.toNat = 0 from rfl, Nat.zero_add] at h
    · -- Only the first frame of a clip is flagged.
      have hlt : k + c < (framing.frames pcm).count := by
        rw [← Pcm.Frames.length_toList]
        exact (List.getElem?_eq_some_iff.mp hframe).1
      rw [Pcm.Frames.getElem?_toList _ hlt] at hframe
      cases hframe
      rfl
  · intro earlier e later hes hcancelled
    rw [hes, lost_append, lost, hcancelled, List.mem_append, List.mem_append]
    refine .inr (.inl ?_)
    rw [List.mem_range'_1]
    simp only [Bool.toNat_true]
    omega
  · rw [List.range_eq_range']
    exact attempted_append_lost_perm 0 es
  · rw [Rtp.Numbering.iterate_advance]
    exact hend.numbering

end Sender
end PacedRtp
