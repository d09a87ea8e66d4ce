import PacedRtp.Duration

/-!
# Panics

What ends the program at once, whatever it was doing: a buffer of more bytes than any allocation may
have, or a count of seconds that is no duration. Running out of memory is not among them: a buffer
that may be asked for is there.
-/

namespace PacedRtp

inductive Panic
  | capacityOverflow
  | conversion (error : Duration.ConversionError)
  deriving DecidableEq, Repr

def Panic.message : Panic → String
  | .capacityOverflow => "capacity overflow"
  | .conversion e => e.message

/-! ## Buffers -/

/-- The most bytes of one allocation: the largest signed 64-bit number. -/
def capacityLimit : Nat := 0x7fffffffffffffff

/-- Asks for a buffer of so many bytes. -/
def reserve (bytes : Nat) : Except Panic Unit :=
  if capacityLimit < bytes then .error .capacityOverflow else .ok ()

theorem reserve_of_le {bytes : Nat} (h : bytes ≤ capacityLimit) : reserve bytes = .ok () :=
  if_neg (Nat.not_lt.mpr h)

theorem reserve_of_lt {bytes : Nat} (h : capacityLimit < bytes) :
    reserve bytes = .error .capacityOverflow :=
  if_pos h

end PacedRtp
