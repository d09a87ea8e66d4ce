import Mathlib
import PacedRtp.Proofs.Audio.Downmix

/-!
# Buffers that are cut anywhere

Mixing down appends one sample for every whole sample frame, and each of these samples is made from
its own frame alone. So a buffer may be handed over in pieces if the cuts lie between frames. A cut
within a frame loses that frame: how many frames a list of pieces loses is told by the samples that
are left over at the ends of the pieces.
-/

namespace PacedRtp
namespace Audio

/-! ## Chunks by number -/

section Chunks

variable {α : Type} {n k j : Nat}

/-- The chunk with the number `j`; past the whole chunks it is shorter than `n`. -/
def chunkAt (n : Nat) (xs : List α) (j : Nat) : List α :=
  (xs.drop (j * n)).take n

theorem getElem?_chunks (hj : j < k) (xs : List α) :
    (chunks n k xs)[j]? = some (chunkAt n xs j) := by
  -- Each chunk is cut from what the chunks before it have left.
  induction k generalizing j xs with
  | zero => exact absurd hj (Nat.not_lt_zero j)
  | succ k ih =>
    cases j with
    | zero => simp [chunks, chunkAt]
    | succ j =>
      have hdrop : n + j * n = (j + 1) * n := by ring
      simpa [chunks, chunkAt, hdrop] using ih (Nat.lt_of_succ_lt_succ hj) (xs.drop n)

/-- The whole chunks are those that lie within the list. -/
theorem length_chunkAt_iff (hn : 0 < n) (xs : List α) :
    (chunkAt n xs j).length = n ↔ j < xs.length / n := by
  have hend : (j + 1) * n ≤ xs.length ↔ j < xs.length / n := (Nat.le_div_iff_mul_le hn).symm
  rw [← hend, chunkAt, List.length_take, List.length_drop, Nat.succ_mul]
  omega

end Chunks

/-! ## The appended samples -/

section Appended

variable {channels j : Nat} {xs rest : List Sample}

theorem length_downmix (h : 1 < channels) (xs : List Sample) :
    (downmix channels xs).length = xs.length / channels := by
  rw [downmix, if_neg (Nat.not_le_of_lt h), List.length_map, wholeChunks, length_chunks]

theorem getElem?_downmix (h : 1 < channels) (hj : j < xs.length / channels) :
    (downmix channels xs)[j]? = some (average (chunkAt channels xs j) channels) := by
  rw [downmix, if_neg (Nat.not_le_of_lt h), List.getElem?_map, wholeChunks, getElem?_chunks hj]
  rfl

/-- Samples behind the last whole frame are not heard. -/
theorem downmix_append_partial (hxs : IsWhole channels xs) (hrest : rest.length < channels) :
    downmix channels (xs ++ rest) = downmix channels xs := by
  rcases Nat.lt_or_ge 1 channels with h | h
  · rcases exists_frames (hxs h) with ⟨frames, hframes, rfl⟩
    have hcount : (frames.flatten ++ rest).length / channels = frames.length := by
      rw [List.length_append, length_flatten_of_forall hframes, Nat.add_comm,
        Nat.add_mul_div_right _ _ (Nat.zero_lt_of_lt h), Nat.div_eq_of_lt hrest, Nat.zero_add]
    have hchunks : wholeChunks channels (frames.flatten ++ rest) = frames := by
      rw [wholeChunks, hcount]
      exact chunks_flatten hframes rest
    rw [downmix_frames h hframes, downmix, if_neg (Nat.not_le_of_lt h), hchunks]
  · have hempty : rest = [] := List.length_eq_zero_iff.mp (by omega)
    rw [hempty, List.append_nil]

end Appended

/-! ## Pieces -/

/-- Mixes buffers down one after the other. -/
def downmixEach (channels : Nat) (buffers : List (List Sample)) (mixed : List Sample) :
    List Sample :=
  buffers.foldl (fun mixed interleaved => downmixInto channels interleaved mixed) mixed

section Pieces

variable {channels : Nat} {buffers : List (List Sample)}

theorem downmixEach_eq (channels : Nat) (buffers : List (List Sample)) (mixed : List Sample) :
    downmixEach channels buffers mixed = mixed ++ buffers.flatMap (downmix channels) := by
  induction buffers generalizing mixed with
  | nil => simp [downmixEach]
  | cons buffer buffers ih =>
    calc downmixEach channels (buffer :: buffers) mixed
        = downmixEach channels buffers (mixed ++ downmix channels buffer) := rfl
      _ = mixed ++ downmix channels buffer ++ buffers.flatMap (downmix channels) := ih _
      _ = mixed ++ (buffer :: buffers).flatMap (downmix channels) := by
        rw [List.flatMap_cons, List.append_assoc]

/-- Pieces of whole frames join to whole frames, which are mixed down as before. -/
theorem flatMap_downmix (h : ∀ b ∈ buffers, IsWhole channels b) :
    IsWhole channels buffers.flatten ∧
      buffers.flatMap (downmix channels) = downmix channels buffers.flatten := by
  induction buffers with
  | nil => exact ⟨isWhole_nil, downmix_nil.symm⟩
  | cons buffer buffers ih =>
    have hbuffer : IsWhole channels buffer := h buffer List.mem_cons_self
    rcases ih fun b hb => h b (List.mem_cons_of_mem _ hb) with ⟨hrest, hmixed⟩
    refine ⟨hbuffer.append hrest, ?_⟩
    rw [List.flatMap_cons, hmixed, List.flatten_cons, downmix_append hbuffer hrest]

theorem downmixEach_of_isWhole (h : ∀ b ∈ buffers, IsWhole channels b) (mixed : List Sample) :
    downmixEach channels buffers mixed = downmixInto channels buffers.flatten mixed := by
  rw [downmixEach_eq, (flatMap_downmix h).2]
  rfl

/-! ### What is lost -/

/-- The samples that are left over at the ends of the pieces. -/
def leftOver (channels : Nat) (buffers : List (List Sample)) : Nat :=
  (buffers.map fun b => b.length % channels).sum

/-- Every sample of the pieces is heard in a frame or left over. -/
theorem length_flatMap_downmix (h : 1 < channels) (buffers : List (List Sample)) :
    channels * (buffers.flatMap (downmix channels)).length + leftOver channels buffers =
      buffers.flatten.length := by
  induction buffers with
  | nil => rfl
  | cons buffer buffers ih =>
    have hbuffer := Nat.div_add_mod buffer.length channels
    have hover : leftOver channels (buffer :: buffers) =
        buffer.length % channels + leftOver channels buffers := by
      simp [leftOver]
    rw [List.flatMap_cons, List.flatten_cons, List.length_append, List.length_append,
      length_downmix h, hover, Nat.mul_add]
    omega

/-- The frames that the cuts have parted. -/
theorem length_lost (h : 1 < channels) (buffers : List (List Sample)) :
    channels * (buffers.flatMap (downmix channels)).length + leftOver channels buffers =
      channels * (downmix channels buffers.flatten).length + buffers.flatten.length % channels := by
  rw [length_flatMap_downmix h, length_downmix h, Nat.div_add_mod]

theorem length_flatMap_downmix_le (h : 1 < channels) (buffers : List (List Sample)) :
    (buffers.flatMap (downmix channels)).length ≤ (downmix channels buffers.flatten).length := by
  rw [length_downmix h, Nat.le_div_iff_mul_le (Nat.zero_lt_of_lt h), Nat.mul_comm]
  have hall := length_flatMap_downmix h buffers
  omega

end Pieces

/-! ## Any buffers -/

/-- Mixing down appends the average of every whole sample frame, and a mono buffer as it is; the
appended sample of a frame is the same in every buffer with that frame. Pieces of whole frames are
mixed down like the one buffer that they make up, and other pieces lose a frame for every `channels`
samples that are left over at their ends and not at the end of the whole. -/
theorem downmix_in_pieces (channels : Nat) (interleaved mixed : List Sample)
    (buffers : List (List Sample)) :
    (∃ appended, downmixInto channels interleaved mixed = mixed ++ appended ∧
      (channels ≤ 1 → appended = interleaved) ∧
      (1 < channels →
        appended.length = interleaved.length / channels ∧
        ∀ j < interleaved.length / channels,
          appended[j]? = some (average (chunkAt channels interleaved j) channels) ∧
          ∀ other mixed', chunkAt channels other j = chunkAt channels interleaved j →
            (downmixInto channels other mixed')[mixed'.length + j]? = appended[j]?)) ∧
    (∀ rest, channels ∣ interleaved.length → rest.length < channels →
      downmixInto channels (interleaved ++ rest) mixed = downmixInto channels interleaved mixed) ∧
    ((channels ≤ 1 ∨ ∀ b ∈ buffers, channels ∣ b.length) →
      downmixEach channels buffers mixed = downmixInto channels buffers.flatten mixed) ∧
    (1 < channels →
      (downmixEach channels buffers mixed).length ≤
        (downmixInto channels buffers.flatten mixed).length ∧
      ((downmixInto channels buffers.flatten mixed).length -
          (downmixEach channels buffers mixed).length : ℚ) =
        ((buffers.map fun b => b.length % channels).sum -
          (buffers.flatten.length % channels : Nat)) / channels) := by
  have hmono : channels ≤ 1 → downmix channels interleaved = interleaved :=
    fun h => downmix_of_le_one h interleaved
  refine ⟨⟨downmix channels interleaved, rfl, hmono, ?_⟩, ?_, ?_, ?_⟩
  · intro h
    refine ⟨length_downmix h interleaved, fun j hj => ⟨getElem?_downmix h hj, ?_⟩⟩
    intro other mixed' hframe
    have hpos : 0 < channels := Nat.zero_lt_of_lt h
    -- A frame that is whole here is whole there.
    have hother : j < other.length / channels := by
      rw [← length_chunkAt_iff hpos, hframe, length_chunkAt_iff hpos]
      exact hj
    rw [downmixInto, List.getElem?_append_right (Nat.le_add_right _ _), Nat.add_sub_cancel_left,
      getElem?_downmix h hother, getElem?_downmix h hj, hframe]
  · intro rest hwhole hrest
    rw [downmixInto, downmixInto, downmix_append_partial (fun _ => hwhole) hrest]
  · rintro (hone | hwhole)
    · exact downmixEach_of_isWhole (fun b _ h => absurd h (Nat.not_lt_of_le hone)) mixed
    · exact downmixEach_of_isWhole (fun b hb _ => hwhole b hb) mixed
  · intro h
    have hle := length_flatMap_downmix_le h buffers
    have hlost := length_lost h buffers
    rw [downmixEach_eq, downmixInto, List.length_append, List.length_append]
    refine ⟨Nat.add_le_add_left hle _, ?_⟩
    have hne : (channels : ℚ) ≠ 0 := by
      exact_mod_cast (Nat.zero_lt_of_lt h).ne'
    rw [leftOver] at hlost
    have hlostQ := congrArg (Nat.cast : Nat → ℚ) hlost
    rw [eq_div_iff hne]
    push_cast at hlostQ ⊢
    linarith

/-- Three stereo frames in two pieces of three samples. -/
def partedFrames : List (List Sample) :=
  [[.ofNat 1, .zero true, .ofNat 1], [.ofNat 1, .zero false, .ofNat 1]]

/-- The cut goes through the second frame, and that frame is lost. -/
theorem downmix_in_pieces_parted :
    (downmixEach 2 partedFrames []).length + 1 =
      (downmixInto 2 partedFrames.flatten []).length := by
  rcases downmix_in_pieces 2 [] [] partedFrames with ⟨-, -, -, hlost⟩
  rcases hlost (by decide) with ⟨-, hlost⟩
  have hone : ((downmixInto 2 partedFrames.flatten []).length -
      (downmixEach 2 partedFrames []).length : ℚ) = 1 := by
    rw [hlost]
    norm_num [partedFrames]
  have hsum := eq_add_of_sub_eq' hone
  exact_mod_cast hsum.symm

end Audio
end PacedRtp
