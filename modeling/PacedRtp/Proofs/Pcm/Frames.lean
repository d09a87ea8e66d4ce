import Mathlib
import PacedRtp.Pcm.Framing

/-!
# The frames of a clip

The frames of a clip stand at multiples of the frame size, as many as the size goes into the clip's
length with the last one rounded up. Each is as long as the size says, and together they are the
clip, filled up with zero bytes.

`toList` are these frames whatever their size. An iterator that `HasRoom` gives them one by one
(`collect_of_hasRoom`), and any other is a panic at its first frame (`collect_of_overflow`).
-/

namespace PacedRtp
namespace Pcm
namespace Frames

/-! ## One frame -/

@[simp] theorem length_padded (size : Nat) (bytes : List UInt8) :
    (padded size bytes).length = size := by
  simp [padded]

/-- A frame is its part of the clip, followed by fewer zero bytes than its size. -/
theorem padded_eq (size : Nat) (bytes : List UInt8) :
    padded size bytes = bytes.take size ++ List.replicate (size - bytes.length) 0 := by
  have hlen : size - (bytes.take size).length = size - bytes.length := by
    rw [List.length_take]
    omega
  rw [padded, hlen]

/-- What one frame leaves of a clip. -/
def tail (fs : Frames) : Frames :=
  { fs with remaining := fs.remaining.drop fs.frameSize, isStart := false }

/-- A frame fits into a buffer, or there is none. -/
def HasRoom (fs : Frames) : Prop :=
  fs.remaining = [] ∨ fs.frameSize ≤ capacityLimit

theorem HasRoom.tail {fs : Frames} (h : fs.HasRoom) : fs.tail.HasRoom := by
  rcases h with hempty | hle
  · refine .inl ?_
    rw [Frames.tail, hempty, List.drop_nil]
  · exact .inr hle

theorem next_of_empty {fs : Frames} (h : fs.remaining = []) : fs.next = .ok none := by
  rcases fs.next_cases with ⟨-, hnext⟩ | ⟨hne, -⟩
  · exact hnext
  · exact absurd h hne

theorem next_of_ne {fs : Frames} (h : fs.remaining ≠ []) (hroom : fs.frameSize ≤ capacityLimit) :
    fs.next = .ok (some (⟨padded fs.frameSize fs.remaining, fs.isStart⟩, fs.tail)) := by
  have hempty : fs.remaining.isEmpty = false := by simpa using h
  rw [next, hempty, reserve_of_le hroom]
  rfl

theorem next_of_overflow {fs : Frames} (h : fs.remaining ≠ [])
    (hlong : capacityLimit < fs.frameSize) : fs.next = .error .capacityOverflow := by
  have hempty : fs.remaining.isEmpty = false := by simpa using h
  rw [next, hempty, reserve_of_lt hlong]
  rfl

/-- Induction over a clip, frame by frame. -/
theorem induction {motive : Frames → Prop} (fs : Frames)
    (empty : ∀ fs, fs.remaining = [] → motive fs)
    (cons : ∀ fs, fs.remaining ≠ [] → motive fs.tail → motive fs) : motive fs := by
  induction hlength : fs.remaining.length using Nat.strong_induction_on generalizing fs with
  | _ length ih =>
    by_cases hempty : fs.remaining = []
    · exact empty fs hempty
    · have hpos := fs.frameSize_pos
      have hne := List.length_pos_iff.mpr hempty
      refine cons fs hempty (ih fs.tail.remaining.length ?_ fs.tail rfl)
      rw [tail, List.length_drop]
      omega

/-! ## Counting -/

theorem count_eq (fs : Frames) : fs.count = fs.remaining.length ⌈/⌉ fs.frameSize := by
  have hpos := fs.frameSize_pos
  rw [count, Nat.ceilDiv_eq_add_pred_div, Nat.add_sub_assoc hpos]

/-- A frame is there if it starts within the clip. -/
theorem lt_count_iff {fs : Frames} {i : Nat} :
    i < fs.count ↔ i * fs.frameSize < fs.remaining.length := by
  have hpos := fs.frameSize_pos
  rw [count, ← Nat.succ_le_iff, Nat.le_div_iff_mul_le hpos, Nat.succ_mul]
  omega

theorem count_mul_lt (fs : Frames) :
    fs.count * fs.frameSize < fs.remaining.length + fs.frameSize := by
  have hpos := fs.frameSize_pos
  have hle := Nat.div_mul_le_self (fs.remaining.length + (fs.frameSize - 1)) fs.frameSize
  rw [count]
  omega

/-- The frames of a clip cover it. -/
theorem length_le_count_mul (fs : Frames) : fs.remaining.length ≤ fs.count * fs.frameSize := by
  by_contra hlt
  -- Otherwise one more frame would start within the clip.
  have hnext : fs.count < fs.count := lt_count_iff.mpr (Nat.lt_of_not_le hlt)
  exact Nat.lt_irrefl _ hnext

theorem count_of_empty {fs : Frames} (h : fs.remaining = []) : fs.count = 0 := by
  have hpos := fs.frameSize_pos
  rw [count, h]
  exact Nat.div_eq_of_lt (by simpa using hpos)

/-- Taking one frame leaves one fewer. -/
theorem count_of_ne {fs : Frames} (h : fs.remaining ≠ []) : fs.count = fs.tail.count + 1 := by
  have hpos := fs.frameSize_pos
  have hne : 0 < fs.remaining.length := List.length_pos_iff.mpr h
  simp only [count, tail, List.length_drop]
  rw [← Nat.add_div_right _ hpos]
  -- Either a whole frame is taken, or the last one and nothing is left.
  by_cases hle : fs.frameSize ≤ fs.remaining.length
  · congr 1
    omega
  · have hone : (fs.remaining.length + (fs.frameSize - 1)) / fs.frameSize = 1 :=
      Nat.div_eq_of_lt_le (by omega) (by omega)
    rw [hone, Nat.sub_eq_zero_of_le (Nat.le_of_not_le hle)]
    exact (Nat.div_eq_of_lt_le (by omega) (by omega)).symm

/-! ## All frames -/

/-- Frame `i` of a clip starts `i` frame sizes into it. -/
def toList (fs : Frames) : List Frame :=
  (List.range fs.count).map fun i =>
    ⟨padded fs.frameSize (fs.remaining.drop (i * fs.frameSize)), fs.isStart && i == 0⟩

@[simp] theorem length_toList (fs : Frames) : fs.toList.length = fs.count := by
  rw [toList, List.length_map, List.length_range]

theorem getElem?_toList (fs : Frames) {i : Nat} (hi : i < fs.count) :
    fs.toList[i]? =
      some ⟨padded fs.frameSize (fs.remaining.drop (i * fs.frameSize)), fs.isStart && i == 0⟩ := by
  rw [toList, List.getElem?_map, List.getElem?_range hi, Option.map_some]

theorem toList_of_empty {fs : Frames} (h : fs.remaining = []) : fs.toList = [] := by
  rw [toList, count_of_empty h, List.range_zero, List.map_nil]

/-- Frame `i + 1` of a clip is frame `i` of its tail, one frame size further on. -/
theorem toList_of_ne {fs : Frames} (h : fs.remaining ≠ []) :
    fs.toList = ⟨padded fs.frameSize fs.remaining, fs.isStart⟩ :: fs.tail.toList := by
  rw [toList, count_of_ne h, List.range_succ_eq_map, List.map_cons, List.map_map]
  congr 1
  · simp
  · rw [toList]
    apply List.map_congr_left
    intro i _
    simp [tail, Nat.succ_mul, Nat.add_comm]

theorem length_of_mem_toList {fs : Frames} {frame : Frame} (h : frame ∈ fs.toList) :
    frame.payload.length = fs.frameSize := by
  rw [toList, List.mem_map] at h
  rcases h with ⟨i, -, rfl⟩
  exact length_padded _ _

theorem sum_lengths (fs : Frames) :
    (fs.toList.map (·.payload.length)).sum = fs.count * fs.frameSize := by
  rw [List.map_congr_left fun _ => length_of_mem_toList, List.map_const', List.sum_replicate,
    length_toList, smul_eq_mul]

/-- The frames of a clip hold the clip, filled up with zero bytes to whole frames. -/
theorem flatten_toList (fs : Frames) :
    (fs.toList.map (·.payload)).flatten =
      fs.remaining ++ List.replicate (fs.count * fs.frameSize - fs.remaining.length) 0 := by
  induction fs using Frames.induction with
  | empty fs h => simp [toList_of_empty h, count_of_empty h, h]
  | cons fs h ih =>
    rw [toList_of_ne h, List.map_cons, List.flatten_cons, ih, padded_eq, count_of_ne h,
      Nat.succ_mul]
    -- Zeros are added in the last frame only.
    by_cases hle : fs.frameSize ≤ fs.remaining.length
    · have hzeros : fs.tail.count * fs.frameSize - (fs.remaining.length - fs.frameSize) =
          fs.tail.count * fs.frameSize + fs.frameSize - fs.remaining.length := by omega
      simp only [tail, List.length_drop, Nat.sub_eq_zero_of_le hle, List.replicate_zero,
        List.append_nil]
      rw [← List.append_assoc, List.take_append_drop]
      exact congrArg (fun k => fs.remaining ++ List.replicate k 0) hzeros
    -- The last frame: nothing is left of the clip.
    · have hlt : fs.remaining.length ≤ fs.frameSize := Nat.le_of_not_le hle
      have hrest : fs.tail.remaining = [] := List.drop_eq_nil_of_le hlt
      rw [count_of_empty hrest, hrest, List.take_of_length_le hlt]
      simp

/-! ## Iterating -/

theorem collect_of_end {fs : Frames} (h : fs.next = .ok none) : fs.collect = .ok [] := by
  rw [collect]
  split <;> simp_all

theorem collect_of_next {fs rest : Frames} {frame : Frame}
    (h : fs.next = .ok (some (frame, rest))) : fs.collect = rest.collect.map (frame :: ·) := by
  rw [collect]
  split <;> simp_all

theorem collect_of_panic {fs : Frames} {p : Panic} (h : fs.next = .error p) :
    fs.collect = .error p := by
  rw [collect]
  split <;> simp_all

theorem collect_of_hasRoom {fs : Frames} (h : fs.HasRoom) : fs.collect = .ok fs.toList := by
  induction fs using Frames.induction with
  | empty fs hempty => rw [collect_of_end (next_of_empty hempty), toList_of_empty hempty]
  | cons fs hne ih =>
    rw [collect_of_next (next_of_ne hne (h.resolve_left hne)), ih h.tail, toList_of_ne hne]
    rfl

/-- A clip that has a frame, but no buffer for it. -/
theorem collect_of_overflow {fs : Frames} (h : ¬fs.HasRoom) :
    fs.collect = .error .capacityOverflow := by
  rcases not_or.mp h with ⟨hne, hlong⟩
  exact collect_of_panic (next_of_overflow hne (Nat.lt_of_not_le hlong))

theorem collect_eq_ok_iff {fs : Frames} {frames : List Frame} :
    fs.collect = .ok frames ↔ fs.HasRoom ∧ frames = fs.toList := by
  by_cases h : fs.HasRoom
  · simp [collect_of_hasRoom h, h, eq_comm]
  · simp [collect_of_overflow h, h]

/-- What is left behind one call of an iterator; at the end nothing moves. -/
def rest (fs : Frames) : Frames :=
  if fs.remaining = [] then fs else fs.tail

theorem rest_of_empty {fs : Frames} (h : fs.remaining = []) : fs.rest = fs :=
  if_pos h

theorem rest_of_ne {fs : Frames} (h : fs.remaining ≠ []) : fs.rest = fs.tail :=
  if_neg h

theorem HasRoom.rest {fs : Frames} (h : fs.HasRoom) : fs.rest.HasRoom := by
  rw [Frames.rest]
  split_ifs
  · exact h
  · exact h.tail

theorem HasRoom.iterate_rest {fs : Frames} (h : fs.HasRoom) (k : Nat) :
    (Frames.rest^[k] fs).HasRoom := by
  induction k generalizing fs with
  | zero => exact h
  | succ k ih => exact ih h.rest

theorem frameSize_rest (fs : Frames) : fs.rest.frameSize = fs.frameSize := by
  rw [rest]
  split_ifs <;> rfl

theorem frameSize_iterate_rest (fs : Frames) (k : Nat) :
    (rest^[k] fs).frameSize = fs.frameSize := by
  induction k generalizing fs with
  | zero => rfl
  | succ k ih => rw [Function.iterate_succ_apply, ih, frameSize_rest]

theorem iterate_rest_of_empty {fs : Frames} (h : fs.remaining = []) (k : Nat) :
    rest^[k] fs = fs :=
  Function.iterate_fixed (rest_of_empty h) k

theorem toList_rest (fs : Frames) : fs.rest.toList = fs.toList.tail := by
  by_cases h : fs.remaining = []
  · rw [rest_of_empty h, toList_of_empty h, List.tail_nil]
  · rw [rest_of_ne h, toList_of_ne h, List.tail_cons]

theorem toList_iterate_rest (fs : Frames) (k : Nat) :
    (rest^[k] fs).toList = fs.toList.drop k := by
  induction k generalizing fs with
  | zero => rfl
  | succ k ih => rw [Function.iterate_succ_apply, ih, toList_rest, List.drop_tail]

/-- Taking frames off the iterator. -/
theorem drop_of_hasRoom {fs : Frames} (h : fs.HasRoom) (k : Nat) :
    fs.drop k = .ok (rest^[k] fs) := by
  induction k generalizing fs with
  | zero => rfl
  | succ k ih =>
    rw [Function.iterate_succ_apply, drop]
    by_cases hempty : fs.remaining = []
    · rw [next_of_empty hempty, rest_of_empty hempty, iterate_rest_of_empty hempty]
    · rw [next_of_ne hempty (h.resolve_left hempty), rest_of_ne hempty]
      exact ih h.tail

end Frames
end Pcm
end PacedRtp
