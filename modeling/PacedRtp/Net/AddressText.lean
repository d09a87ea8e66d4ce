import PacedRtp.Net.Address
import PacedRtp.Text.Numeral

/-!
# Reading addresses

Address literals and endpoints from text. The four numbers of a version 4 address have no leading
zeros. A version 6 address has groups of up to four hexadecimal digits, one gap of at least one zero
group written as two colons, and may end in a version 4 address. Nothing may follow.
-/

namespace PacedRtp
namespace Net

open Text

/-- Reads from the front of a text; gives the rest. -/
abbrev TextReader (α : Type) := List Char → Option (α × List Char)

/-! ## Numbers -/

/-- The digits at the front. -/
def spanDigits (radix : Nat) (cs : List Char) : List Char × List Char :=
  cs.span fun c => (digitValue? radix c).isSome

def digitsValue (radix : Nat) (digits : List Char) : Nat :=
  digits.foldl (fun n c => n * radix + (digitValue? radix c).getD 0) 0

/-- A decimal number up to 255, without leading zeros. -/
def octetNumber : TextReader UInt8 := fun cs =>
  let (digits, rest) := spanDigits 10 cs
  let n := digitsValue 10 digits
  if digits = [] ∨ 3 < digits.length ∨ 255 < n ∨ (digits.head? = some '0' ∧ 1 < digits.length) then
    none
  else some (.ofNat n, rest)

/-- A group of up to four hexadecimal digits. -/
def groupNumber : TextReader UInt16 := fun cs =>
  let (digits, rest) := spanDigits 16 cs
  if digits = [] ∨ 4 < digits.length then none else some (.ofNat (digitsValue 16 digits), rest)

/-- A decimal number up to `most`, leading zeros allowed. -/
def boundedNumber (most : Nat) : TextReader Nat := fun cs =>
  let (digits, rest) := spanDigits 10 cs
  let n := digitsValue 10 digits
  if digits = [] ∨ most < n then none else some (n, rest)

def given (c : Char) : TextReader Unit
  | c' :: rest => if c' = c then some ((), rest) else none
  | [] => none

/-! ## Version 4 -/

def readIPv4 : TextReader IPv4 := fun cs => do
  let (a, cs) ← octetNumber cs
  let (_, cs) ← given '.' cs
  let (b, cs) ← octetNumber cs
  let (_, cs) ← given '.' cs
  let (c, cs) ← octetNumber cs
  let (_, cs) ← given '.' cs
  let (d, cs) ← octetNumber cs
  return (⟨a, b, c, d⟩, cs)

/-! ## Version 6 -/

/-- Reads a separator in front of every item but the first. -/
def separator (isFirst : Bool) : TextReader Unit := fun cs =>
  if isFirst then some ((), cs) else given ':' cs

/-- Up to `limit` groups separated by colons, and whether a version 4 address ends them; it takes
the place of two groups. -/
def readGroups : Nat → Bool → List Char → List UInt16 × Bool × List Char
  | 0, _, cs => ([], false, cs)
  | limit + 1, isFirst, cs =>
    let embedded := do
      let (_, rest) ← separator isFirst cs
      readIPv4 rest
    match (if 1 ≤ limit then embedded else none) with
    | some (ip, rest) =>
      ([.ofNat (ip.a.toNat * 256 + ip.b.toNat), .ofNat (ip.c.toNat * 256 + ip.d.toNat)], true, rest)
    | none =>
      let group := do
        let (_, rest) ← separator isFirst cs
        groupNumber rest
      match group with
      | none => ([], false, cs)
      | some (g, rest) =>
        let (groups, endsInIPv4, rest) := readGroups limit false rest
        (g :: groups, endsInIPv4, rest)

/-- Eight groups, if there are as many. -/
def IPv6.ofGroups? (groups : List UInt16) : Option IPv6 :=
  if h : groups.length = 8 then some ⟨groups, h⟩ else none

def readIPv6 : TextReader IPv6 := fun cs => do
  let (head, endsInIPv4, rest) := readGroups 8 true cs
  if head.length = 8 then
    return (← IPv6.ofGroups? head, rest)
  if endsInIPv4 then none
  let (_, rest) ← given ':' rest
  let (_, rest) ← given ':' rest
  let (tail, _, rest) := readGroups (7 - head.length) true rest
  let zeros := List.replicate (8 - head.length - tail.length) 0
  return (← IPv6.ofGroups? (head ++ zeros ++ tail), rest)

/-! ## Whole texts -/

/-- What a reader makes of a whole text. -/
def whole? {α : Type} (read : TextReader α) (s : String) : Option α :=
  match read s.toList with
  | some (a, []) => some a
  | _ => none

/-- The longest text of a version 4 address. -/
def longestIPv4 : Nat := 15

def Address.ofText? (s : String) : Option Address :=
  match (if s.utf8ByteSize ≤ longestIPv4 then whole? readIPv4 s else none) with
  | some ip => some (.v4 ip)
  | none => (whole? readIPv6 s).map .v6

def readPort : TextReader UInt16 := fun cs => do
  let (_, cs) ← given ':' cs
  let (port, cs) ← boundedNumber 65535 cs
  return (.ofNat port, cs)

def readEndpointV4 : TextReader Endpoint := fun cs => do
  let (ip, cs) ← readIPv4 cs
  let (port, cs) ← readPort cs
  return ({ address := .v4 ip, port }, cs)

def readEndpointV6 : TextReader Endpoint := fun cs => do
  let (_, cs) ← given '[' cs
  let (ip, cs) ← readIPv6 cs
  let (scope, cs) ←
    match given '%' cs with
    | some (_, rest) => boundedNumber (UInt32.size - 1) rest
    | none => some (0, cs)
  let (_, cs) ← given ']' cs
  let (port, cs) ← readPort cs
  return ({ address := .v6 ip, port, scope := .ofNat scope }, cs)

def Endpoint.ofText? (s : String) : Option Endpoint :=
  (whole? readEndpointV4 s).orElse fun _ => whole? readEndpointV6 s

end Net
end PacedRtp
