import PacedRtp.Ieee.Rounding

/-!
# Arithmetic on binary numbers

Each operation computes the exact result as a ratio of naturals in units and rounds it once. Signed
zeros, infinities and NaN follow IEEE 754: an exact zero sum is positive unless both terms are
negative, and the sign of a product or quotient is the exclusive or of the signs.
-/

namespace PacedRtp
namespace Ieee
namespace Number

variable {F G : Format}

/-! ## Sums -/

instance : Neg (Number F) where
  neg x := { x with negative := !x.negative }

/-- The sum of two finite numbers. -/
def addFinite (x y : Number F) : Number F :=
  let places := min x.shift y.shift
  let sum := x.scaled places + y.scaled places
  if sum = 0 then zero (x.negative && y.negative)
  else ofMagnitude (sum < 0) (F.round sum.natAbs 1 places 0)

def add (x y : Number F) : Number F :=
  if x.isNaN || y.isNaN then nan
  else if x.isInfinite then
    if y.isInfinite && x.negative != y.negative then nan else x
  else if y.isInfinite then y
  else addFinite x y

instance : Add (Number F) := ⟨add⟩

instance : Sub (Number F) := ⟨fun x y => add x (-y)⟩

/-! ## Products and quotients -/

def mul (x y : Number F) : Number F :=
  let negative := x.negative != y.negative
  if x.isNaN || y.isNaN then nan
  else if x.isInfinite || y.isInfinite then
    if x.isZero || y.isZero then nan else infinite negative
  else
    ofMagnitude negative
      (F.round (x.significand * y.significand) 1 (x.shift + y.shift) F.unitExponent)

instance : Mul (Number F) := ⟨mul⟩

def div (x y : Number F) : Number F :=
  let negative := x.negative != y.negative
  if x.isNaN || y.isNaN then nan
  else if x.isInfinite then
    if y.isInfinite then nan else infinite negative
  else if y.isInfinite then zero negative
  else if y.isZero then
    if x.isZero then nan else infinite negative
  else
    ofMagnitude negative
      (F.round x.significand y.significand (x.shift + F.unitExponent) y.shift)

instance : Div (Number F) := ⟨div⟩

/-! ## Order -/

/-- No comparison with NaN holds. -/
def lt (x y : Number F) : Bool :=
  !x.isNaN && !y.isNaN && x.rank < y.rank

def le (x y : Number F) : Bool :=
  !x.isNaN && !y.isNaN && x.rank ≤ y.rank

/-- The nearest point of the interval from `lo` to `hi`; NaN stays NaN. -/
def clamp (lo hi x : Number F) : Number F :=
  if x.lt lo then lo else if hi.lt x then hi else x

/-! ## Conversions -/

/-- The number nearest to `n / d`. -/
def ofRatio (n d : Nat) : Number F :=
  ofMagnitude false (F.round n d F.unitExponent 0)

def ofNat (n : Nat) : Number F :=
  ofRatio n 1

def ofInt (n : Int) : Number F :=
  if n < 0 then -ofNat n.natAbs else ofNat n.natAbs

/-- The same value rounded to another format. -/
def convert (x : Number F) : Number G :=
  if x.isNaN then nan
  else if x.isInfinite then infinite x.negative
  else ofMagnitude x.negative (G.round x.significand 1 (x.shift + G.unitExponent) F.unitExponent)

/-- The whole part of the absolute value of a finite number. -/
def floorAbs (x : Number F) : Nat :=
  if F.unitExponent ≤ x.shift then x.significand <<< (x.shift - F.unitExponent)
  else x.significand >>> (F.unitExponent - x.shift)

/-- The whole part of a finite number, its fraction dropped toward zero. -/
def truncate (x : Number F) : Int :=
  if x.negative then -(x.floorAbs : Int) else x.floorAbs

end Number
end Ieee
end PacedRtp
