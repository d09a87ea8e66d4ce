import PacedRtp.Ieee.Number

/-!
# Rounding to nearest, ties to even

`roundDiv` rounds a quotient of naturals to a natural. `Format.round` rounds a non-negative
rational, counted in units of the format, to a magnitude pattern: it keeps `precision` bits of the
quotient and writes the number of dropped places above them, so a carry out of the significand runs
into the exponent field and a carry out of the largest exponent runs into infinity.
-/

namespace PacedRtp
namespace Ieee

/-- The natural nearest to `n / d`, the even one of two equally near. -/
def roundDiv (n d : Nat) : Nat :=
  let q := n / d
  let r := n % d
  if 2 * r < d then q
  else if d < 2 * r then q + 1
  else q + q % 2

namespace Format

/-- Places dropped below the last significant bit of `n * 2 ^ up / (d * 2 ^ down)`. The bit lengths
of the two decide up to one place, and one comparison of the aligned numbers decides that. -/
def droppedPlaces (F : Format) (n d up down : Nat) : Nat :=
  let fit := if n <<< d.log2 < d <<< n.log2 then 0 else 1
  (n.log2 + up + fit) - (d.log2 + down + F.precision)

/-- The magnitude pattern nearest to `n * 2 ^ up / (d * 2 ^ down)` units. Patterns from
`infinity` on stand for overflow. -/
def round (F : Format) (n d up down : Nat) : Nat :=
  if n = 0 then 0
  else
    let s := F.droppedPlaces n d up down
    let kept :=
      if up ≤ down + s then roundDiv n (d <<< (down + s - up))
      else roundDiv (n <<< (up - (down + s))) d
    s * F.hiddenBit + kept

end Format
end Ieee
end PacedRtp
