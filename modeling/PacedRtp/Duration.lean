import PacedRtp.Ieee.Arithmetic

/-!
# Durations

A duration is a whole number of nanoseconds below two to the 64 seconds. A binary64 count of seconds
becomes the nearest one, an exact half going to the even nanosecond; a negative count, and one that
is too large or not a number, has none.
-/

namespace PacedRtp

open Ieee

def nanosPerSecond : Nat := 1000000000

structure Duration where
  nanoseconds : Nat
  nanoseconds_lt : nanoseconds < UInt64.size * nanosPerSecond
  deriving DecidableEq

namespace Duration

def zero : Duration := ⟨0, by decide⟩

instance : Inhabited Duration := ⟨zero⟩

def isZero (d : Duration) : Bool :=
  d.nanoseconds == 0

/-! ## Seconds and nanoseconds -/

/-- The whole seconds. -/
def seconds (d : Duration) : Nat :=
  d.nanoseconds / nanosPerSecond

/-- The nanoseconds past the whole seconds. -/
def subsecond (d : Duration) : Nat :=
  d.nanoseconds % nanosPerSecond

def ofSeconds (s : UInt64) : Duration where
  nanoseconds := s.toNat * nanosPerSecond
  nanoseconds_lt := Nat.mul_lt_mul_of_pos_right s.toNat_lt_size (by decide)

/-- The given number of nanoseconds, if it is in range. -/
def ofNanoseconds? (n : Nat) : Option Duration :=
  if h : n < UInt64.size * nanosPerSecond then some ⟨n, h⟩ else none

/-! ## Floating-point seconds -/

inductive ConversionError
  | negative
  | tooLargeOrNaN
  deriving DecidableEq, Repr

def ConversionError.message : ConversionError → String
  | .negative => "cannot convert float seconds to Duration: value is negative"
  | .tooLargeOrNaN => "cannot convert float seconds to Duration: value is either too big or NaN"

/-- The duration nearest to `x` seconds. -/
def ofBinary64 (x : Binary64) : Except ConversionError Duration :=
  if x.lt (Number.zero false) then .error .negative
  else if !x.isFinite then .error .tooLargeOrNaN
  else
    let nearest := roundDiv (x.units * nanosPerSecond) (1 <<< Format.binary64.unitExponent)
    match ofNanoseconds? nearest with
    | some d => .ok d
    | none => .error .tooLargeOrNaN

/-- Seconds plus nanoseconds over a billion, each step rounded. -/
def toBinary64 (d : Duration) : Binary64 :=
  Number.ofNat d.seconds + Number.ofNat d.subsecond / Number.ofNat nanosPerSecond

end Duration
end PacedRtp
