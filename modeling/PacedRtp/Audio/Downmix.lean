import PacedRtp.Audio.Chunks
import PacedRtp.Ieee.Arithmetic

/-!
# Downmixing to one channel

A sample frame of several channels becomes the average of its samples. The sum starts at minus zero,
the neutral element of binary addition, and adds from left to right; each step rounds to binary32.
-/

namespace PacedRtp
namespace Audio

open Ieee

/-- One sample of linear audio, nominally from minus one to one. -/
abbrev Sample := Binary32

/-- The average of one sample frame. -/
def average (frame : List Sample) (channels : Nat) : Sample :=
  frame.foldl (· + ·) (Number.zero true) / Number.ofNat channels

/-- The averages of the whole sample frames of an interleaved buffer. A buffer of one channel, or
of none, is mono already. -/
def downmix (channels : Nat) (interleaved : List Sample) : List Sample :=
  if channels ≤ 1 then interleaved
  else (wholeChunks channels interleaved).map (average · channels)

/-- Appends the downmix of a buffer to the samples mixed before. -/
def downmixInto (channels : Nat) (interleaved mixed : List Sample) : List Sample :=
  mixed ++ downmix channels interleaved

end Audio
end PacedRtp
