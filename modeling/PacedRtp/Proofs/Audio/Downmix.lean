import Mathlib
import PacedRtp.Audio.Downmix

/-!
# Downmixing in pieces

Cutting a list into chunks undoes joining chunks of that length, so the downmix of a buffer of whole
sample frames is the average of each frame, and buffers of whole frames may be joined before or
after they are mixed down. Nothing is said of buffers that end within a frame.
-/

namespace PacedRtp
namespace Audio

/-! ## Chunks -/

section Chunks

variable {α : Type} {n : Nat}

/-- Chunks that were joined are found again, whatever follows them. -/
theorem chunks_flatten {frames : List (List α)} (h : ∀ f ∈ frames, f.length = n) (rest : List α) :
    chunks n frames.length (frames.flatten ++ rest) = frames := by
  induction frames with
  | nil => rfl
  | cons frame frames ih =>
    have hframe : frame.length = n := h frame List.mem_cons_self
    have hframes := ih fun f hf => h f (List.mem_cons_of_mem _ hf)
    rw [List.length_cons, chunks, List.flatten_cons, List.append_assoc,
      List.take_left' hframe, List.drop_left' hframe, hframes]

theorem length_flatten_of_forall {frames : List (List α)} (h : ∀ f ∈ frames, f.length = n) :
    frames.flatten.length = frames.length * n := by
  rw [List.length_flatten, List.map_congr_left h, List.map_const', List.sum_replicate,
    smul_eq_mul]

theorem wholeChunks_flatten (hn : 0 < n) {frames : List (List α)}
    (h : ∀ f ∈ frames, f.length = n) : wholeChunks n frames.flatten = frames := by
  rw [wholeChunks, length_flatten_of_forall h, Nat.mul_div_cancel _ hn]
  simpa using chunks_flatten h []

/-- A list whose length is a multiple of `n` is made of chunks of that length. -/
theorem exists_frames {xs : List α} (h : n ∣ xs.length) :
    ∃ frames : List (List α), (∀ f ∈ frames, f.length = n) ∧ frames.flatten = xs := by
  rcases h with ⟨k, hk⟩
  induction k generalizing xs with
  | zero => exact ⟨[], by simp, (List.length_eq_zero_iff.mp hk).symm⟩
  | succ k ih =>
    -- The first chunk is taken off; the others are those of the rest.
    have hrest : (xs.drop n).length = n * k := by
      rw [List.length_drop, hk, Nat.mul_succ, Nat.add_sub_cancel]
    have hfirst : (xs.take n).length = n := by
      rw [List.length_take, hk, Nat.mul_succ]
      omega
    rcases ih hrest with ⟨frames, hframes, hjoined⟩
    refine ⟨xs.take n :: frames, ?_, ?_⟩
    · intro f hf
      rcases List.mem_cons.mp hf with rfl | hf
      · exact hfirst
      · exact hframes f hf
    · rw [List.flatten_cons, hjoined, List.take_append_drop]

end Chunks

/-! ## Averages -/

section Downmix

variable {channels : Nat}

/-- A buffer of whole sample frames. One channel, or none, has no partial frames. -/
def IsWhole (channels : Nat) (interleaved : List Sample) : Prop :=
  1 < channels → channels ∣ interleaved.length

theorem downmix_of_le_one (h : channels ≤ 1) (interleaved : List Sample) :
    downmix channels interleaved = interleaved :=
  if_pos h

/-- Sample frames that are joined to a buffer are averaged one by one. -/
theorem downmix_frames (h : 1 < channels) {frames : List (List Sample)}
    (hframes : ∀ f ∈ frames, f.length = channels) :
    downmix channels frames.flatten = frames.map (average · channels) := by
  rw [downmix, if_neg (Nat.not_le_of_lt h), wholeChunks_flatten (Nat.zero_lt_of_lt h) hframes]

theorem downmix_append {xs ys : List Sample} (hxs : IsWhole channels xs)
    (hys : IsWhole channels ys) :
    downmix channels (xs ++ ys) = downmix channels xs ++ downmix channels ys := by
  by_cases h : channels ≤ 1
  · rw [downmix_of_le_one h, downmix_of_le_one h, downmix_of_le_one h]
  · have hlt := Nat.lt_of_not_le h
    rcases exists_frames (hxs hlt) with ⟨frames, hframes, rfl⟩
    rcases exists_frames (hys hlt) with ⟨frames', hframes', rfl⟩
    have hboth : ∀ f ∈ frames ++ frames', f.length = channels := by
      intro f hf
      rcases List.mem_append.mp hf with hf | hf
      · exact hframes f hf
      · exact hframes' f hf
    rw [← List.flatten_append, downmix_frames hlt hboth, downmix_frames hlt hframes,
      downmix_frames hlt hframes', List.map_append]

theorem isWhole_nil : IsWhole channels [] :=
  fun _ => Nat.dvd_zero _

@[simp] theorem downmix_nil : downmix channels [] = [] := by
  simp [downmix, wholeChunks, chunks]

theorem IsWhole.append {xs ys : List Sample} (hxs : IsWhole channels xs)
    (hys : IsWhole channels ys) : IsWhole channels (xs ++ ys) := by
  intro h
  rw [List.length_append]
  exact Nat.dvd_add (hxs h) (hys h)

end Downmix

end Audio
end PacedRtp
