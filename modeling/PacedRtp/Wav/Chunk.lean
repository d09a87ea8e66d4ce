import PacedRtp.Wav.Fault
import PacedRtp.Octets

/-!
# Chunks of a RIFF file

A RIFF body is a sequence of chunks, each a four-octet name, a length, and that many octets, padded
to an even count. `Span` keeps count of the body while its chunks are read from the file.
-/

namespace PacedRtp
namespace Wav

/-! ## Reading octets -/

/-- Reads from the front of what is left of a file. -/
abbrev Reader := StateT (List UInt8) (Except Fault)

def fail {α : Type} (fault : Fault) : Reader α :=
  fun _ => .error fault

def octets (n : Nat) : Reader (List UInt8) := fun bytes =>
  let (head, rest) := bytes.splitAt n
  if head.length < n then .error .endOfStream else .ok (head, rest)

def number (width : Nat) : Reader Nat :=
  return Octets.ofLittleEndian (← octets width)

def ignore (n : Nat) : Reader Unit :=
  discard (octets n)

/-! ## Chunk headers -/

/-- A chunk length that stands for an unknown one. -/
def unknownLength : Nat := 0xffffffff

structure ChunkHeader where
  name : List UInt8
  length : Nat
  deriving DecidableEq, Repr

/-- A body of `length` octets, `consumed` of them counted so far. -/
structure Span where
  length : Nat
  consumed : Nat := 0
  deriving DecidableEq, Repr

/-- The header of the next chunk, or none if the body cannot hold another, and what is left then. A
chunk must fit in what is left of the body, unless the lengths of both are unknown. -/
def Span.next (s : Span) : Reader (Option ChunkHeader × Span) := do
  let mut consumed := s.consumed
  if consumed % 2 = 1 then
    ignore 1
    consumed := consumed + 1
  if s.length < consumed + 8 then return (none, { s with consumed })
  let name ← octets 4
  let length ← number 4
  consumed := consumed + 8
  if s.length - consumed < length ∧ ¬(s.length = length ∧ length = unknownLength) then
    fail .chunkOverrun
  return (some ⟨name, length⟩, { s with consumed := min (consumed + length) unknownLength })

/-- Skips what is left of the body and its padding. -/
def Span.finish (s : Span) : Reader Unit := do
  ignore (s.length - s.consumed)
  if s.length % 2 = 1 then ignore 1

/-! ## Information lists -/

/-- Reads the entries of an information list. Every entry takes eight octets at least, so `fuel`
need not exceed the length of the file. -/
def readInfo : Nat → Span → Reader Unit
  | 0, _ => fail .endOfStream
  | fuel + 1, span => do
    match ← span.next with
    | (none, span) => span.finish
    | (some entry, span) =>
      ignore entry.length
      readInfo fuel span

end Wav
end PacedRtp
