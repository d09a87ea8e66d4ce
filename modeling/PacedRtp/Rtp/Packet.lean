import PacedRtp.Rtp.Header

/-!
# RTP packets

`Header.packet` writes a packet without optional parts. `parse` reads what any conforming sender may
emit: contributing sources and a header extension are skipped, and trailing padding is stripped.
-/

namespace PacedRtp
namespace Rtp

inductive ParseError
  /-- Fewer octets than a fixed header. -/
  | tooShort
  | badVersion (version : UInt8)
  /-- Contributing sources, extension or padding run past the end. -/
  | truncated
  deriving DecidableEq, Repr

def ParseError.message : ParseError → String
  | .tooShort => "packet too small for RTP header"
  | .badVersion v => s!"invalid RTP version {v.toNat}"
  | .truncated => "truncated header"

/-! ## Writing -/

def Header.packet (h : Header) (payload : List UInt8) : List UInt8 :=
  h.encode ++ payload

@[simp] theorem Header.length_packet (h : Header) (payload : List UInt8) :
    (h.packet payload).length = headerLength + payload.length := by
  simp [Header.packet]

/-! ## Optional parts -/

/-- What is left after `n` octets, if there are that many. -/
def skip (n : Nat) (bytes : List UInt8) : Option (List UInt8) :=
  if n ≤ bytes.length then some (bytes.drop n) else none

/-- Skips a header extension: two octets of profile, a count of 32-bit words, and the words. -/
def skipExtension : List UInt8 → Option (List UInt8)
  | _ :: _ :: high :: low :: rest => skip (4 * Octets.ofBigEndian [high, low]) rest
  | _ => none

/-- Removes padding, whose last octet counts it, itself included. -/
def stripPadding (bytes : List UInt8) : Option (List UInt8) :=
  match bytes.getLast? with
  | none => none
  | some count =>
    if count = 0 ∨ bytes.length < count.toNat then none
    else some (bytes.take (bytes.length - count.toNat))

/-- The payload behind the fixed header, whose first octet announces the optional parts. -/
def payload? (flags : UInt8) (body : List UInt8) : Option (List UInt8) := do
  let body ← skip (4 * (flags &&& 0x0f).toNat) body
  let body ← if flags &&& 0x10 ≠ 0 then skipExtension body else some body
  if flags &&& 0x20 ≠ 0 then stripPadding body else some body

/-! ## Reading -/

def parse : List UInt8 → Except ParseError (Header × List UInt8)
  | flags :: kind :: s₁ :: s₀ :: t₃ :: t₂ :: t₁ :: t₀ :: c₃ :: c₂ :: c₁ :: c₀ :: body =>
    if flags >>> 6 ≠ version then .error (.badVersion (flags >>> 6))
    else
      let header : Header :=
        { marker := kind &&& 0x80 ≠ 0
          payloadType := kind &&& 0x7f
          sequence := .ofNat (Octets.ofBigEndian [s₁, s₀])
          timestamp := .ofNat (Octets.ofBigEndian [t₃, t₂, t₁, t₀])
          ssrc := .ofNat (Octets.ofBigEndian [c₃, c₂, c₁, c₀]) }
      match payload? flags body with
      | some payload => .ok (header, payload)
      | none => .error .truncated
  | _ => .error .tooShort

end Rtp
end PacedRtp
