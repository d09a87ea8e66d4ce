import Mathlib
import PacedRtp.Proofs.Pcm.Frames

/-!
# Calling for frames

`Frames.next` is a function of what is left of a clip. A consumer holds one iterator and calls it
over and over, past the end as well: `call` is one such call, which answers a frame or `none` and
moves the iterator in place, and `Collects` is the loop that calls until the first `none`.

`frames_partition` says what the loop gives over a whole clip, and `sizeHint_exact` what is known of
every iterator on the way, after any number of calls. Both are about frames that fit into a buffer:
settings whose frames do not are accepted too, and with them the first call is a panic
(`frames_partition_overflow`, `sizeHint_exact_overflow`). Running out of memory before that is not
modelled.
-/

namespace PacedRtp
namespace Pcm
namespace Frames

/-! ## Calls -/

/-- One call: its answer and the iterator behind it. At the end nothing moves. -/
def call (fs : Frames) : Except Panic (Option Frame × Frames) :=
  fs.next.map fun
    | some (frame, rest) => (some frame, rest)
    | none => (none, fs)

/-- The iterator behind `k` calls. -/
def after (fs : Frames) : Nat → Except Panic Frames
  | 0 => .ok fs
  | k + 1 => do
    let (_, rest) ← fs.call
    rest.after k

/-- What `k` calls in a row answer. -/
def answers (fs : Frames) : Nat → Except Panic (List (Option Frame))
  | 0 => .ok []
  | k + 1 => do
    let (answer, rest) ← fs.call
    return answer :: (← rest.answers k)

/-- The loop that calls until there is no answer, and keeps the frames. -/
inductive Collects : Frames → List Frame → Prop
  | done {fs rest : Frames} (h : fs.call = .ok (none, rest)) : Collects fs []
  | more {fs rest : Frames} {frame : Frame} {frames : List Frame}
      (h : fs.call = .ok (some frame, rest)) (later : Collects rest frames) :
      Collects fs (frame :: frames)

variable {fs : Frames}

/-! ## One call -/

theorem call_of_hasRoom (h : fs.HasRoom) : fs.call = .ok (fs.toList.head?, fs.rest) := by
  by_cases hempty : fs.remaining = []
  · rw [call, next_of_empty hempty, toList_of_empty hempty, rest_of_empty hempty]
    rfl
  · rw [call, next_of_ne hempty (h.resolve_left hempty), toList_of_ne hempty, rest_of_ne hempty]
    rfl

theorem call_of_overflow (h : ¬fs.HasRoom) : fs.call = .error .capacityOverflow := by
  rcases not_or.mp h with ⟨hne, hlong⟩
  rw [call, next_of_overflow hne (Nat.lt_of_not_le hlong)]
  rfl

theorem call_eq_ok_iff {answer : Option Frame} {behind : Frames} :
    fs.call = .ok (answer, behind) ↔
      fs.HasRoom ∧ answer = fs.toList.head? ∧ behind = fs.rest := by
  by_cases h : fs.HasRoom
  · simp [call_of_hasRoom h, h, eq_comm]
  · simp [call_of_overflow h, h]

/-! ## Many calls -/

/-- Each call takes one frame off, as long as there is one. -/
theorem after_of_hasRoom (h : fs.HasRoom) (k : Nat) : fs.after k = .ok (rest^[k] fs) := by
  induction k generalizing fs with
  | zero => rfl
  | succ k ih =>
    rw [after, call_of_hasRoom h]
    exact ih h.rest

theorem frameSize_of_after {behind : Frames} {k : Nat} (h : fs.after k = .ok behind) :
    behind.frameSize = fs.frameSize := by
  by_cases hroom : fs.HasRoom
  · cases (after_of_hasRoom hroom k).symm.trans h
    exact frameSize_iterate_rest fs k
  · cases k with
    | zero =>
      cases h
      rfl
    | succ k =>
      rw [after, call_of_overflow hroom] at h
      cases h

theorem count_iterate_rest (fs : Frames) (k : Nat) : (rest^[k] fs).count = fs.count - k := by
  rw [← length_toList, toList_iterate_rest, List.length_drop, length_toList]

theorem call_iterate_rest (h : fs.HasRoom) (k : Nat) :
    (rest^[k] fs).call = .ok (fs.toList[k]?, rest^[k + 1] fs) := by
  rw [call_of_hasRoom (h.iterate_rest k), toList_iterate_rest, List.head?_drop,
    Function.iterate_succ_apply']

/-- The frames that are left come first, one a call, and after them every call answers `none`. -/
theorem answers_of_hasRoom (h : fs.HasRoom) (k : Nat) :
    fs.answers (fs.count + k) = .ok (fs.toList.map some ++ List.replicate k none) := by
  induction fs using Frames.induction with
  | empty fs hempty =>
    -- The iterator stands still, so its answers are all the same.
    rw [count_of_empty hempty, toList_of_empty hempty, Nat.zero_add, List.map_nil, List.nil_append]
    induction k with
    | zero => rfl
    | succ k ih =>
      rw [answers, call_of_hasRoom h, rest_of_empty hempty, toList_of_empty hempty]
      simp only [bind, Except.bind, ih, pure, Except.pure, List.replicate_succ, List.head?_nil]
  | cons fs hne ih =>
    rw [count_of_ne hne, Nat.add_right_comm, answers, call_of_hasRoom h, rest_of_ne hne,
      toList_of_ne hne]
    simp only [bind, Except.bind, ih h.tail, pure, Except.pure, List.head?_cons, List.map_cons,
      List.cons_append]

/-! ## Collecting -/

theorem collects_toList (h : fs.HasRoom) : fs.Collects fs.toList := by
  induction fs using Frames.induction with
  | empty fs hempty =>
    rw [toList_of_empty hempty]
    exact .done (call_eq_ok_iff.mpr ⟨h, by rw [toList_of_empty hempty]; rfl, rfl⟩)
  | cons fs hne ih =>
    have hcall := call_of_hasRoom h
    rw [toList_of_ne hne, List.head?_cons, rest_of_ne hne] at hcall
    rw [toList_of_ne hne]
    exact .more hcall (ih h.tail)

theorem Collects.eq_toList {frames : List Frame} (h : fs.Collects frames) :
    fs.HasRoom ∧ frames = fs.toList := by
  induction h with
  | @done fs _ h =>
    rcases call_eq_ok_iff.mp h with ⟨hroom, hhead, -⟩
    exact ⟨hroom, (List.head?_eq_none_iff.mp hhead.symm).symm⟩
  | @more fs _ frame frames h _ ih =>
    -- The answer is the head of the list, and the loop goes on over its tail.
    rcases call_eq_ok_iff.mp h with ⟨hroom, hhead, rfl⟩
    refine ⟨hroom, ?_⟩
    rw [ih.2, toList_rest]
    exact List.cons_head?_tail hhead.symm

/-- The loop comes to an end if there is room, with one list of frames. -/
theorem collects_iff {frames : List Frame} :
    fs.Collects frames ↔ fs.collect = .ok frames := by
  rw [collect_eq_ok_iff]
  constructor
  · exact Collects.eq_toList
  · rintro ⟨hroom, rfl⟩
    exact collects_toList hroom

end Frames

/-! ## Whole clips -/

/-- Collecting the frames of a clip ends with as many frames as the frame size goes into the clip,
the last one rounded up. Each has that size, together they are the clip and fewer zero bytes than a
frame holds, the first one only is flagged, and behind the end there is nothing ever again. -/
theorem frames_partition (framing : Framing) (pcm : List UInt8)
    (hroom : pcm = [] ∨ framing.frameSize ≤ capacityLimit) :
    let F := framing.frameSize
    let n := pcm.length ⌈/⌉ F
    let clip := framing.frames pcm
    ∃ frames, clip.collect = .ok frames ∧
      (∀ collected, clip.Collects collected ↔ collected = frames) ∧
      frames.length = n ∧
      (∀ frame ∈ frames, frame.payload.length = F) ∧
      (frames.map (·.payload)).flatten = pcm ++ List.replicate (n * F - pcm.length) 0 ∧
      pcm.length ≤ n * F ∧ n * F - pcm.length < F ∧
      (∀ i frame, frames[i]? = some frame → frame.isFirst = decide (i = 0)) ∧
      (∀ k, ∃ fs rest, clip.after k = .ok fs ∧ fs.call = .ok (frames[k]?, rest)) ∧
      ∀ k fs rest, clip.after k = .ok fs → fs.call = .ok (none, rest) →
        ∀ later ≥ k, ∃ fs' rest', clip.after later = .ok fs' ∧ fs'.call = .ok (none, rest') := by
  intro F n clip
  have hcount : clip.count = n := Frames.count_eq clip
  have hclip : clip.HasRoom := hroom
  have hcollect : clip.collect = .ok clip.toList := Frames.collect_of_hasRoom hclip
  refine ⟨clip.toList, hcollect, ?_, ?_, fun frame => Frames.length_of_mem_toList, ?_, ?_, ?_, ?_,
    fun k => ⟨_, _, Frames.after_of_hasRoom hclip k, Frames.call_iterate_rest hclip k⟩, ?_⟩
  · intro collected
    rw [Frames.collects_iff, hcollect, Except.ok.injEq, eq_comm]
  · rw [Frames.length_toList, hcount]
  · rw [← hcount]
    exact Frames.flatten_toList clip
  · rw [← hcount]
    exact Frames.length_le_count_mul clip
  · have hpos : 0 < F := framing.frameSize_pos
    have hlt : n * F < pcm.length + F := by
      rw [← hcount]
      exact Frames.count_mul_lt clip
    omega
  · intro i frame hframe
    have hi : i < clip.count := by
      rw [← Frames.length_toList]
      exact (List.getElem?_eq_some_iff.mp hframe).1
    rw [Frames.getElem?_toList clip hi] at hframe
    cases hframe
    rfl
  · intro k fs rest hafter hnone later hlater
    cases (Frames.after_of_hasRoom hclip k).symm.trans hafter
    rw [Frames.call_iterate_rest hclip, Except.ok.injEq, Prod.mk.injEq,
      List.getElem?_eq_none_iff] at hnone
    refine ⟨_, Frames.rest^[later + 1] clip, Frames.after_of_hasRoom hclip later, ?_⟩
    rw [Frames.call_iterate_rest hclip, List.getElem?_eq_none (hnone.1.trans hlater)]

/-- Frames of two bytes. -/
def shortFraming : Framing := ⟨⟨1000, 1, 1⟩, 2, 2, 2, Nat.two_pos⟩

theorem frames_partition_short :
    shortFraming.frameSize ≤ capacityLimit ∧
      ∃ frames, (shortFraming.frames [1, 2, 3]).collect = .ok frames ∧
        frames.length = 2 ∧ (frames.map (·.payload)).flatten = [1, 2, 3, 0] := by
  have hroom : shortFraming.frameSize ≤ capacityLimit := by decide
  rcases frames_partition shortFraming [1, 2, 3] (.inr hroom) with
    ⟨frames, hcollect, -, hlength, -, hbytes, -⟩
  exact ⟨hroom, frames, hcollect, hlength, hbytes⟩

/-! ### Frames without a buffer -/

/-- The longest sample frames at the highest rate. -/
def hugeFormat : Format := ⟨4294967295, 65535, 65535⟩

/-- A second of it. -/
def hugeFraming : Framing := ⟨hugeFormat, 1000, 4294967295, 18446181123756261375, by decide⟩

theorem new_hugeFormat : Framing.new hugeFormat 1000 = .ok hugeFraming := by
  decide +kernel

theorem lt_frameSize_hugeFraming : capacityLimit < hugeFraming.frameSize := by
  decide

theorem not_hasRoom_hugeFraming {pcm : List UInt8} (h : pcm ≠ []) :
    ¬(hugeFraming.frames pcm).HasRoom :=
  not_or.mpr ⟨h, Nat.not_le.mpr lt_frameSize_hugeFraming⟩

/-- The settings are accepted and the clip has a byte, but collecting its frames gives nothing. -/
theorem frames_partition_overflow :
    Framing.new hugeFormat 1000 = .ok hugeFraming ∧
      (hugeFraming.frames [1]).collect = .error .capacityOverflow ∧
      ¬∃ collected, (hugeFraming.frames [1]).Collects collected := by
  have hcollect : (hugeFraming.frames [1]).collect = .error .capacityOverflow :=
    Frames.collect_of_overflow (not_hasRoom_hugeFraming (by simp))
  refine ⟨new_hugeFormat, hcollect, ?_⟩
  rintro ⟨collected, h⟩
  cases hcollect.symm.trans (Frames.collects_iff.mp h)

/-! ## Hints -/

/-- The hint of an iterator, after any number of calls, is the number of frames that it still
answers: the calls that follow answer the frames of the clip from that place on, and then `none`. -/
theorem sizeHint_exact (framing : Framing) (pcm : List UInt8) (k : Nat)
    (hroom : pcm = [] ∨ framing.frameSize ≤ capacityLimit) :
    let clip := framing.frames pcm
    let m := pcm.length ⌈/⌉ framing.frameSize - k
    ∃ frames fs, clip.collect = .ok frames ∧ clip.Collects frames ∧ clip.after k = .ok fs ∧
      fs.sizeHint = (m, some m) ∧
      (frames.drop k).length = m ∧
      (∀ j, ∃ fs' answer rest, fs.after j = .ok fs' ∧ fs'.call = .ok (answer, rest) ∧
        (answer.isSome ↔ j < m)) ∧
      (∃ answer rest, fs.call = .ok (answer, rest) ∧ (answer = none ↔ m = 0)) ∧
      fs.answers m = .ok ((frames.drop k).map some) ∧
      ∀ extra, fs.answers (m + extra) =
        .ok ((frames.drop k).map some ++ List.replicate extra none) := by
  intro clip m
  have hclip : clip.HasRoom := hroom
  have hcount : clip.count = pcm.length ⌈/⌉ framing.frameSize := Frames.count_eq clip
  let fs := Frames.rest^[k] clip
  have hfs : fs.HasRoom := hclip.iterate_rest k
  have hm : fs.count = m := by
    simp only [fs, m]
    rw [Frames.count_iterate_rest, hcount]
  have hrest : fs.toList = clip.toList.drop k := Frames.toList_iterate_rest clip k
  have hanswers : ∀ extra, fs.answers (m + extra) =
      .ok ((clip.toList.drop k).map some ++ List.replicate extra none) := by
    intro extra
    rw [← hm, ← hrest]
    exact Frames.answers_of_hasRoom hfs extra
  refine ⟨clip.toList, fs, Frames.collect_of_hasRoom hclip, Frames.collects_toList hclip,
    Frames.after_of_hasRoom hclip k, ?_, ?_, ?_, ?_, ?_, hanswers⟩
  · rw [Frames.sizeHint, hm]
  · rw [← hrest, Frames.length_toList, hm]
  · intro j
    refine ⟨_, _, _, Frames.after_of_hasRoom hfs j, Frames.call_iterate_rest hfs j, ?_⟩
    rw [← hm, ← Frames.length_toList, isSome_getElem?]
  · refine ⟨_, _, Frames.call_of_hasRoom hfs, ?_⟩
    rw [List.head?_eq_none_iff, ← List.length_eq_zero_iff, Frames.length_toList, hm]
  · simpa using hanswers 0

/-- One of two frames has been taken. -/
theorem sizeHint_exact_short :
    shortFraming.frameSize ≤ capacityLimit ∧
      ∃ fs, (shortFraming.frames [1, 2, 3]).after 1 = .ok fs ∧ fs.sizeHint = (1, some 1) := by
  have hroom : shortFraming.frameSize ≤ capacityLimit := by decide
  rcases sizeHint_exact shortFraming [1, 2, 3] 1 (.inr hroom) with ⟨-, fs, -, -, hafter, hhint, -⟩
  exact ⟨hroom, fs, hafter, hhint⟩

/-- The hint is one frame, and the call for it gives none. -/
theorem sizeHint_exact_overflow :
    Framing.new hugeFormat 1000 = .ok hugeFraming ∧
      (hugeFraming.frames [1, 2, 3]).sizeHint = (1, some 1) ∧
      ¬∃ answer rest, (hugeFraming.frames [1, 2, 3]).call = .ok (answer, rest) := by
  refine ⟨new_hugeFormat, by decide +kernel, ?_⟩
  rintro ⟨answer, rest, hcall⟩
  cases (Frames.call_of_overflow (not_hasRoom_hugeFraming (by simp))).symm.trans hcall

end Pcm
end PacedRtp
