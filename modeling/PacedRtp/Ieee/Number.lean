/-!
# IEEE 754 binary numbers

A number is a sign and a magnitude pattern (exponent field above fraction field), so every bit
pattern is a number and nothing else is. Patterns of finite magnitudes are ordered like the values
they stand for, and every finite value is a whole number of *units*, the smallest subnormal: the
arithmetic over these numbers is therefore integer arithmetic followed by one rounding.
-/

namespace PacedRtp
namespace Ieee

/-! ## Formats -/

structure Format where
  /-- Significant bits, the hidden one included. -/
  precision : Nat
  exponentBits : Nat
  deriving DecidableEq, Repr

def Format.binary32 : Format := ⟨24, 8⟩

def Format.binary64 : Format := ⟨53, 11⟩

namespace Format

def fractionBits (F : Format) : Nat :=
  F.precision - 1

def magnitudeBits (F : Format) : Nat :=
  F.fractionBits + F.exponentBits

/-- The weight of the significant bit that a pattern leaves out. -/
def hiddenBit (F : Format) : Nat :=
  1 <<< F.fractionBits

/-- The weight of the sign bit; the magnitudes lie below it. -/
def signBit (F : Format) : Nat :=
  1 <<< F.magnitudeBits

/-- The magnitude pattern of infinity: all exponent bits set, no fraction bit. -/
def infinity (F : Format) : Nat :=
  (1 <<< F.exponentBits - 1) * F.hiddenBit

/-- One unit is two to the minus this. -/
def unitExponent (F : Format) : Nat :=
  1 <<< (F.exponentBits - 1) - 2 + F.fractionBits

theorem hiddenBit_pos (F : Format) : 0 < F.hiddenBit := by
  rw [hiddenBit, Nat.one_shiftLeft]
  exact Nat.two_pow_pos _

theorem signBit_pos (F : Format) : 0 < F.signBit := by
  rw [signBit, Nat.one_shiftLeft]
  exact Nat.two_pow_pos _

theorem infinity_lt (F : Format) : F.infinity < F.signBit := by
  have he := Nat.two_pow_pos F.exponentBits
  have hs : F.signBit = F.hiddenBit * 2 ^ F.exponentBits := by
    rw [signBit, magnitudeBits, Nat.shiftLeft_add, ← hiddenBit, Nat.shiftLeft_eq]
  rw [hs, infinity, Nat.one_shiftLeft, Nat.mul_comm]
  exact Nat.mul_lt_mul_of_pos_left (by omega) F.hiddenBit_pos

end Format

/-! ## Numbers -/

structure Number (F : Format) where
  negative : Bool
  magnitude : Nat
  magnitude_lt : magnitude < F.signBit
  deriving DecidableEq

abbrev Binary32 := Number .binary32

abbrev Binary64 := Number .binary64

namespace Number

variable {F : Format}

/-- The number with the low bits of `n` as its pattern. -/
def ofBits (F : Format) (n : Nat) : Number F where
  negative := n / F.signBit % 2 == 1
  magnitude := n % F.signBit
  magnitude_lt := Nat.mod_lt _ F.signBit_pos

def toBits (x : Number F) : Nat :=
  (if x.negative then F.signBit else 0) + x.magnitude

/-- Magnitudes from infinity's pattern on saturate there. -/
def ofMagnitude (negative : Bool) (magnitude : Nat) : Number F where
  negative := negative
  magnitude := min magnitude F.infinity
  magnitude_lt := Nat.lt_of_le_of_lt (Nat.min_le_right _ _) F.infinity_lt

def zero (negative : Bool) : Number F :=
  ofMagnitude negative 0

def infinite (negative : Bool) : Number F :=
  ofMagnitude negative F.infinity

/-- The quiet NaN that an operation without a value answers. -/
def nan : Number F :=
  ofBits F (F.infinity + F.hiddenBit / 2)

def isNaN (x : Number F) : Bool :=
  F.infinity < x.magnitude

def isInfinite (x : Number F) : Bool :=
  x.magnitude == F.infinity

def isFinite (x : Number F) : Bool :=
  x.magnitude < F.infinity

def isZero (x : Number F) : Bool :=
  x.magnitude == 0

/-! ## Finite values in units -/

/-- The significant bits, with the hidden bit of a normal number. -/
def significand (x : Number F) : Nat :=
  let fraction := x.magnitude % F.hiddenBit
  if x.magnitude < F.hiddenBit then fraction else fraction + F.hiddenBit

/-- How many places the significand stands above the units. -/
def shift (x : Number F) : Nat :=
  x.magnitude / F.hiddenBit - 1

/-- The absolute value of a finite number, counted in units. -/
def units (x : Number F) : Nat :=
  x.significand <<< x.shift

/-- The value of a finite number, counted in units shifted by `places` (for `places` up to its shift). -/
def scaled (x : Number F) (places : Nat) : Int :=
  let n : Int := (x.significand <<< (x.shift - places) : Nat)
  if x.negative then -n else n

/-- Position in the order of the values; the two zeros share one. -/
def rank (x : Number F) : Int :=
  if x.negative then -(x.magnitude : Int) else x.magnitude

end Number
end Ieee
end PacedRtp
