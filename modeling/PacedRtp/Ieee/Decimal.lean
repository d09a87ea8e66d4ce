import PacedRtp.Ieee.Rounding

/-!
# Shortest decimal text

The text of a binary number is the shortest decimal that reads back as that number. The decimals
that read back fill an interval around the value, its ends included exactly when the significand is
even. The decimal grids (the multiples of a power of ten) are tried from coarse to fine; if a grid
meets the interval at all, it does so at one of the two neighbours of the value, so the first grid
with such a hit has the fewest digits. Of two hits the nearer one is taken, of two equally near the
greater.
-/

namespace PacedRtp
namespace Ieee
namespace Number

variable {F : Format}

/-! ## The interval that reads back -/

/-- A positive finite value with the decimals that round to it, all counted in quarter units. -/
structure Interval where
  low : Nat
  value : Nat
  high : Nat
  closed : Bool

/-- Half the distance to either neighbour; below a power of two the lower neighbour is only half as
far. -/
def interval (x : Number F) : Interval :=
  let gap := 1 <<< x.shift
  let value := 4 * x.units
  let below := if x.significand = F.hiddenBit ∧ 0 < x.shift then gap else 2 * gap
  ⟨value - below, value, value + 2 * gap, x.significand % 2 == 0⟩

def Interval.contains (i : Interval) (n d : Nat) : Bool :=
  if i.closed then i.low * d ≤ n && n ≤ i.high * d else i.low * d < n && n < i.high * d

/-! ## The search -/

/-- The multiple of `num / den` (a power of ten, in quarter units) that stands for the value on that
grid, if one of the value's two neighbours there reads back. -/
def Interval.hit? (i : Interval) (num den : Nat) : Option Nat :=
  let c := i.value * den / num
  let lower := i.contains (c * num) den
  let upper := i.contains ((c + 1) * num) den
  let nearUpper := (2 * c + 1) * num ≤ 2 * i.value * den
  if lower && upper then some (if nearUpper then c + 1 else c)
  else if lower then some c
  else if upper then some (c + 1)
  else none

/-- The grid of the multiples of ten to the `k`, in quarter units. -/
def grid (F : Format) (k : Int) : Nat × Nat :=
  let quarters := 1 <<< (F.unitExponent + 2)
  if 0 ≤ k then (quarters * Nat.pow 10 k.toNat, 1) else (quarters, Nat.pow 10 (-k).toNat)

/-- Exponents of ten from the coarsest grid that can matter to one that holds every value. -/
def gridExponents (F : Format) : List Int :=
  (List.range (2 * F.unitExponent + 1)).map fun i : Nat => (F.unitExponent : Int) - i

/-- Digits `c` and exponent `k` of the shortest decimal `c * 10 ^ k` of a positive finite number. -/
def shortest (x : Number F) : Nat × Int :=
  let i := x.interval
  let found := (gridExponents F).findSome? fun k =>
    let (num, den) := grid F k
    (i.hit? num den).map (·, k)
  found.getD (0, 0)

/-! ## Positional text -/

/-- The decimal `c * 10 ^ k` without an exponent. -/
def positional (c : Nat) (k : Int) : String :=
  let digits := Nat.toDigits 10 c
  if 0 ≤ k then String.ofList (digits ++ List.replicate k.toNat '0')
  else
    let places := (-k).toNat
    let padded := List.replicate (places + 1 - digits.length) '0' ++ digits
    let whole := padded.length - places
    String.ofList (padded.take whole ++ ['.'] ++ padded.drop whole)

/-- Whole numbers have no point, zero keeps its sign, and NaN has none. -/
def text (x : Number F) : String :=
  let sign := if x.negative then "-" else ""
  if x.isNaN then "NaN"
  else if x.isInfinite then sign ++ "inf"
  else if x.isZero then sign ++ "0"
  else
    let (c, k) := x.shortest
    sign ++ positional c k

/-- Rounded to so many places, a tie going to the even digit. -/
def fixed (places : Nat) (x : Number F) : String :=
  if x.isFinite then
    let sign := if x.negative then "-" else ""
    let scaled := roundDiv (x.units * Nat.pow 10 places) (1 <<< F.unitExponent)
    sign ++ positional scaled (-(places : Int))
  else x.text

end Number
end Ieee
end PacedRtp
