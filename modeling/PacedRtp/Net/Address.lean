/-!
# Internet addresses

Addresses of both versions, endpoints with a port, and their text. A version 6 address is written
with its longest run of at least two zero groups left out (the first of equally long ones), and an
address that maps a version 4 address ends in that address.
-/

namespace PacedRtp
namespace Net

structure IPv4 where
  a : UInt8
  b : UInt8
  c : UInt8
  d : UInt8
  deriving DecidableEq, Repr

/-- Eight groups of sixteen bits. -/
structure IPv6 where
  groups : List UInt16
  length_groups : groups.length = 8
  deriving DecidableEq, Repr

inductive Address
  | v4 (ip : IPv4)
  | v6 (ip : IPv6)
  deriving DecidableEq, Repr

structure Endpoint where
  address : Address
  port : UInt16
  /-- The zone of a version 6 address; zero for none. -/
  scope : UInt32 := 0
  deriving DecidableEq, Repr

/-! ## Text -/

def IPv4.text (ip : IPv4) : String :=
  s!"{ip.a.toNat}.{ip.b.toNat}.{ip.c.toNat}.{ip.d.toNat}"

/-- The version 4 address in the last two groups. -/
def embeddedIPv4 (high low : UInt16) : IPv4 :=
  ⟨.ofNat (high.toNat / 256), .ofNat high.toNat, .ofNat (low.toNat / 256), .ofNat low.toNat⟩

/-- The length of the run of zeros at the front. -/
def zeroRun (groups : List UInt16) : Nat :=
  (groups.takeWhile (· == 0)).length

/-- Start and length of the longest run of zeros, the first of equally long ones. -/
def longestZeroRun (groups : List UInt16) : Nat × Nat :=
  (List.range groups.length).foldl
    (fun best i =>
      let run := zeroRun (groups.drop i)
      if best.2 < run then (i, run) else best)
    (0, 0)

def groupsText (groups : List UInt16) : String :=
  ":".intercalate (groups.map fun g => String.ofList (Nat.toDigits 16 g.toNat))

def IPv6.text (ip : IPv6) : String :=
  match ip.groups with
  | [0, 0, 0, 0, 0, 0xffff, high, low] => "::ffff:" ++ (embeddedIPv4 high low).text
  | groups =>
    let (start, run) := longestZeroRun groups
    if run < 2 then groupsText groups
    else groupsText (groups.take start) ++ "::" ++ groupsText (groups.drop (start + run))

def Endpoint.text (e : Endpoint) : String :=
  match e.address with
  | .v4 ip => s!"{ip.text}:{e.port.toNat}"
  | .v6 ip =>
    let zone := if e.scope = 0 then "" else s!"%{e.scope.toNat}"
    s!"[{ip.text}{zone}]:{e.port.toNat}"

/-! ## Well-known addresses -/

def IPv4.loopback : IPv4 := ⟨127, 0, 0, 1⟩

end Net
end PacedRtp
