/-!
# Equal chunks of a list

`chunks n k` cuts `k` consecutive chunks of `n` elements; `wholeChunks n` cuts as many as the list
holds and leaves a shorter rest out.
-/

namespace PacedRtp
namespace Audio

variable {α : Type}

def chunks (n : Nat) : Nat → List α → List (List α)
  | 0, _ => []
  | k + 1, xs => xs.take n :: chunks n k (xs.drop n)

def wholeChunks (n : Nat) (xs : List α) : List (List α) :=
  chunks n (xs.length / n) xs

@[simp] theorem length_chunks (n k : Nat) (xs : List α) : (chunks n k xs).length = k := by
  induction k generalizing xs with
  | zero => rfl
  | succ k ih => simp [chunks, ih]

end Audio
end PacedRtp
