import Mathlib
import PacedRtp.Proofs.Rtp.Grammar

/-!
# Reading a packet by position

`parse` takes a packet apart from the front. A reader over a buffer computes positions instead, and
a wrong position would make it read past the end. Here every access by position may fail: the outer
`none` of `parseAt?` is an octet or a slice that lies outside the packet. `parseAt?_eq` shows that
no packet leads there, and that the two ways of reading agree.
-/

namespace PacedRtp
namespace Rtp

/-! ## Access -/

/-- The octets from `i` up to `j`, if that range lies inside. -/
def slice? (bytes : List UInt8) (i j : Nat) : Option (List UInt8) :=
  if i ≤ j ∧ j ≤ bytes.length then some ((bytes.drop i).take (j - i)) else none

theorem slice?_eq_some {bytes : List UInt8} {i j : Nat} (hij : i ≤ j) (hj : j ≤ bytes.length) :
    slice? bytes i j = some ((bytes.drop i).take (j - i)) := by
  rw [slice?, if_pos ⟨hij, hj⟩]

theorem slice?_append (front body : List UInt8) (i j : Nat) :
    slice? (front ++ body) (front.length + i) (front.length + j) = slice? body i j := by
  simp [slice?, List.drop_append, Nat.add_sub_add_left, List.drop_eq_nil_of_le]

/-! ## The reader -/

def headerAt? (p : List UInt8) : Option Header := do
  let kind ← p[1]?
  let sequence := [← p[2]?, ← p[3]?]
  let timestamp := [← p[4]?, ← p[5]?, ← p[6]?, ← p[7]?]
  let ssrc := [← p[8]?, ← p[9]?, ← p[10]?, ← p[11]?]
  return {
    marker := kind &&& 0x80 ≠ 0
    payloadType := kind &&& 0x7f
    sequence := .ofNat (Octets.ofBigEndian sequence)
    timestamp := .ofNat (Octets.ofBigEndian timestamp)
    ssrc := .ofNat (Octets.ofBigEndian ssrc) }

/-- Where the payload starts. The four octets in front of an extension are the one access that the
reader checks itself. -/
def payloadStart? (p : List UInt8) (flags : UInt8) : Option (Except ParseError Nat) :=
  let offset := headerLength + 4 * (flags &&& 0x0f).toNat
  if flags &&& 0x10 ≠ 0 then
    match slice? p offset (offset + 4) with
    | none => some (.error .truncated)
    | some extension => do
      let count := [← extension[2]?, ← extension[3]?]
      return .ok (offset + 4 + 4 * Octets.ofBigEndian count)
  else some (.ok offset)

/-- What stands in front of the padding that ends `rest`. -/
def unpadded? (rest : List UInt8) : Option (Except ParseError (List UInt8)) :=
  match rest.getLast? with
  | none => some (.error .truncated)
  | some count =>
    if count = 0 ∨ rest.length < count.toNat then some (.error .truncated)
    else (slice? rest 0 (rest.length - count.toNat)).map .ok

/-- The payload that starts at `start`. -/
def payloadFrom? (p : List UInt8) (flags : UInt8) (start : Nat) :
    Option (Except ParseError (List UInt8)) :=
  if p.length < start then some (.error .truncated)
  else
    (slice? p start p.length).bind fun rest =>
      if flags &&& 0x20 ≠ 0 then unpadded? rest else some (.ok rest)

def payloadAt? (p : List UInt8) (flags : UInt8) : Option (Except ParseError (List UInt8)) :=
  (payloadStart? p flags).bind fun
    | .error e => some (.error e)
    | .ok start => payloadFrom? p flags start

def parseAt? (p : List UInt8) : Option (Except ParseError (Header × List UInt8)) :=
  if p.length < headerLength then some (.error .tooShort)
  else
    match p[(0 : Nat)]? with
    | none => none
    | some flags =>
      if flags >>> 6 ≠ version then some (.error (.badVersion (flags >>> 6)))
      else do
        let header ← headerAt? p
        let payload ← payloadAt? p flags
        return payload.map (header, ·)

/-! ## Agreement -/

/-- The answer of a step that fails only for want of octets. -/
def orTruncated {α : Type} (result : Option α) : Except ParseError α :=
  result.elim (.error .truncated) .ok

theorem headerAt?_fixed (h : Header) (flags : UInt8) (body : List UInt8) :
    headerAt? (h.fixed flags ++ body) =
      some { h with payloadType := h.payloadType &&& 0x7f } := by
  rw [← h.read_fixed]
  rfl

theorem unpadded?_eq (rest : List UInt8) :
    unpadded? rest = some (orTruncated (stripPadding rest)) := by
  unfold unpadded? stripPadding
  cases rest.getLast? with
  | none => rfl
  | some count =>
    by_cases hcount : count = 0 ∨ rest.length < count.toNat
    · simp only [if_pos hcount]
      rfl
    · simp only [if_neg hcount, slice?_eq_some (Nat.zero_le _) (Nat.sub_le _ _)]
      rfl

theorem payloadFrom?_append (front body : List UInt8) (flags : UInt8) (i : Nat) :
    payloadFrom? (front ++ body) flags (front.length + i) =
      some (orTruncated ((skip i body).bind fun rest =>
        if flags &&& 0x20 ≠ 0 then stripPadding rest else some rest)) := by
  by_cases hi : i ≤ body.length
  · have hslice : slice? (front ++ body) (front.length + i) (front ++ body).length =
        some (body.drop i) := by
      rw [List.length_append, slice?_append, slice?_eq_some hi le_rfl]
      simp
    have hle : ¬(front ++ body).length < front.length + i := by
      rw [List.length_append]
      omega
    simp only [payloadFrom?, if_neg hle, hslice, skip, if_pos hi, Option.bind_some, unpadded?_eq]
    split <;> rfl
  · have hlt : (front ++ body).length < front.length + i := by
      rw [List.length_append]
      omega
    simp only [payloadFrom?, if_pos hlt, skip, if_neg hi]
    rfl

theorem payload?_eq_bind (flags : UInt8) (body : List UInt8) :
    payload? flags body =
      (skip (4 * (flags &&& 0x0f).toNat) body).bind fun afterSources =>
        (if flags &&& 0x10 ≠ 0 then skipExtension afterSources else some afterSources).bind
          fun rest => if flags &&& 0x20 ≠ 0 then stripPadding rest else some rest := by
  by_cases hx : flags &&& 0x10 = 0 <;> simp [payload?, hx]

/-- Skipping goes by the sum of the octets skipped. -/
theorem skip_add (i j : Nat) (bytes : List UInt8) :
    skip (i + j) bytes = (skip i bytes).bind (skip j) := by
  by_cases hi : i ≤ bytes.length
  · simp only [skip, if_pos hi, Option.bind_some, List.length_drop, List.drop_drop]
    congr 1
    simp only [eq_iff_iff]
    omega
  · have hij : ¬i + j ≤ bytes.length := by omega
    simp only [skip, if_neg hi, if_neg hij, Option.bind_none]

/-- Four octets at `i` start an extension: its words are skipped by their count. -/
theorem skipExtension_of_slice? {body extension : List UInt8} {i : Nat}
    (h : slice? body i (i + 4) = some extension) :
    ∃ p₁ p₀ high low, extension = [p₁, p₀, high, low] ∧
      (skip i body).bind skipExtension =
        skip (i + (4 + 4 * Octets.ofBigEndian [high, low])) body := by
  have hle : i + 4 ≤ body.length := by
    by_contra hout
    simp [slice?, hout] at h
  rw [slice?_eq_some (by omega) hle, Nat.add_sub_cancel_left] at h
  have hskip : skip i body = some (body.drop i) := if_pos (by omega)
  have hlen : 4 ≤ (body.drop i).length := by
    rw [List.length_drop]
    omega
  -- The four octets of the slice are the ones that `skipExtension` takes apart.
  match hdrop : body.drop i, hlen with
  | p₁ :: p₀ :: high :: low :: rest, _ =>
    rw [hdrop] at h
    refine ⟨p₁, p₀, high, low, (Option.some.inj h).symm, ?_⟩
    rw [skip_add, hskip, hdrop, Option.bind_some, Option.bind_some, skip_add]
    rfl

theorem skipExtension_of_length_lt {bytes : List UInt8} (h : bytes.length < 4) :
    skipExtension bytes = none := by
  rw [skipExtension]
  rintro p₁ p₀ high low rest rfl
  simp only [List.length_cons] at h
  omega

theorem skipExtension_of_no_slice {body : List UInt8} {i : Nat}
    (h : slice? body i (i + 4) = none) : (skip i body).bind skipExtension = none := by
  by_cases hi : i ≤ body.length
  · have hlen : (body.drop i).length < 4 := by
      by_contra hout
      rw [List.length_drop] at hout
      simp [slice?, show i + 4 ≤ body.length by omega] at h
    rw [skip, if_pos hi, Option.bind_some, skipExtension_of_length_lt hlen]
  · rw [skip, if_neg hi, Option.bind_none]

theorem payloadAt?_append {front : List UInt8} (hfront : front.length = headerLength)
    (body : List UInt8) (flags : UInt8) :
    payloadAt? (front ++ body) flags = some (orTruncated (payload? flags body)) := by
  -- The sources and the extension are skipped together, since the reader adds up their lengths.
  rw [payload?_eq_bind, ← Option.bind_assoc]
  by_cases hx : flags &&& 0x10 ≠ 0
  · have hslice := slice?_append front body (4 * (flags &&& 0x0f).toNat)
      (4 * (flags &&& 0x0f).toNat + 4)
    rw [hfront, ← Nat.add_assoc] at hslice
    simp only [payloadAt?, payloadStart?, if_pos hx, hslice]
    cases he : slice? body (4 * (flags &&& 0x0f).toNat) (4 * (flags &&& 0x0f).toNat + 4) with
    | none =>
      rw [skipExtension_of_no_slice he]
      rfl
    | some extension =>
      rcases skipExtension_of_slice? he with ⟨p₁, p₀, high, low, rfl, hskip⟩
      rw [hskip, ← payloadFrom?_append front, hfront, ← Nat.add_assoc, ← Nat.add_assoc]
      rfl
  · simp only [payloadAt?, payloadStart?, if_neg hx, Option.bind_some, ← hfront]
    rw [payloadFrom?_append, Option.bind_fun_some]

theorem parseAt?_eq (p : List UInt8) : parseAt? p = some (parse p) := by
  by_cases hlen : p.length < headerLength
  · rw [parseAt?, if_pos hlen, parse_tooShort_iff.mpr hlen]
  · rcases exists_fixed (Nat.le_of_not_lt hlen) with ⟨h, flags, body, hlt, rfl⟩
    have hfirst : (h.fixed flags ++ body)[0]? = some flags := rfl
    -- Both readers look at the version first and at the rest only then.
    have hpayload := payloadAt?_append (h.length_fixed flags) body flags
    rw [parseAt?, if_neg hlen, hfirst, parse_fixed, headerAt?_fixed]
    by_cases hversion : flags >>> 6 ≠ version
    · simp only [if_pos hversion]
    · simp only [if_neg hversion, hpayload]
      cases payload? flags body <;> rfl

end Rtp
end PacedRtp
