import Mathlib
import PacedRtp.Proofs.Rtp.Position

/-!
# What `parse` accepts, and why it refuses the rest

Every list of octets falls into one of four classes, and the answer names the class: it has a
layout, it is shorter than a fixed header, it is of another version, or one of its optional parts
runs past its end.
-/

namespace PacedRtp
namespace Rtp

/-! ## Refusals -/

/-- The top two bits of the first octet. -/
def versionField? (p : List UInt8) : Option UInt8 :=
  p.head?.map fun (first : UInt8) => first >>> 6

theorem versionField?_fixed (h : Header) (flags : UInt8) (body : List UInt8) :
    versionField? (h.fixed flags ++ body) = some (flags >>> 6) :=
  rfl

theorem parse_badVersion_iff {p : List UInt8} {v : UInt8} :
    parse p = .error (.badVersion v) ↔
      headerLength ≤ p.length ∧ versionField? p = some v ∧ v ≠ version := by
  by_cases hlen : p.length < headerLength
  · simp [parse_tooShort_iff.mpr hlen, Nat.not_le_of_lt hlen]
  · have hle := Nat.le_of_not_lt hlen
    rcases exists_fixed hle with ⟨h, flags, body, -, rfl⟩
    rw [parse_fixed, versionField?_fixed]
    -- Of version 2 the answer is never this error; of any other it is.
    by_cases hversion : flags >>> 6 = version
    · have hne : ¬(flags >>> 6 = v ∧ v ≠ version) := fun hv => hv.2 (hv.1 ▸ hversion)
      cases payload? flags body <;> simp_all
    · simp only [if_pos hversion, Except.error.injEq, ParseError.badVersion.injEq,
        Option.some.injEq, hle, true_and]
      constructor
      · rintro rfl
        exact ⟨rfl, hversion⟩
      · exact fun hv => hv.1

theorem parse_truncated_iff {p : List UInt8} :
    parse p = .error .truncated ↔
      headerLength ≤ p.length ∧ versionField? p = some version ∧ ¬∃ l : Layout, l.octets = p := by
  constructor
  · intro h
    have hlen : headerLength ≤ p.length := by
      by_contra hshort
      rw [parse_tooShort_iff.mpr (Nat.lt_of_not_le hshort)] at h
      cases h
    refine ⟨hlen, ?_, ?_⟩
    · rcases exists_fixed hlen with ⟨h', flags, body, -, rfl⟩
      rw [parse_fixed] at h
      by_cases hversion : flags >>> 6 = version
      · rw [versionField?_fixed, hversion]
      · rw [if_pos hversion] at h
        cases h
    · rintro ⟨l, rfl⟩
      rw [parse_octets] at h
      cases h
  · rintro ⟨hlen, hversion, hnone⟩
    -- The other three answers contradict one condition each.
    match hparse : parse p with
    | .ok (h, payload) =>
      rcases exists_layout hparse with ⟨l, hl, -, -⟩
      exact absurd ⟨l, hl⟩ hnone
    | .error .tooShort => exact absurd (parse_tooShort_iff.mp hparse) (Nat.not_lt_of_le hlen)
    | .error (.badVersion v) =>
      rcases parse_badVersion_iff.mp hparse with ⟨-, hv, hne⟩
      exact absurd (Option.some.inj (hv.symm.trans hversion)) hne
    | .error .truncated => rfl

/-! ## All answers -/

/-- The answer to any list of octets. The last part says that reading by position never leaves the
packet. -/
theorem parse_accepts_layouts (p : List UInt8) :
    (∀ h payload, parse p = .ok (h, payload) ↔
      ∃ l : Layout, l.octets = p ∧ l.header = h ∧ l.payload = payload) ∧
    (∀ l l' : Layout, l.octets = p → l'.octets = p → l = l') ∧
    (parse p = .error .tooShort ↔ p.length < headerLength) ∧
    (∀ v, parse p = .error (.badVersion v) ↔
      headerLength ≤ p.length ∧ versionField? p = some v ∧ v ≠ version) ∧
    (parse p = .error .truncated ↔
      headerLength ≤ p.length ∧ versionField? p = some version ∧
        ¬∃ l : Layout, l.octets = p) ∧
    parseAt? p = some (parse p) := by
  refine ⟨fun h payload => ⟨exists_layout, ?_⟩, ?_, parse_tooShort_iff,
    fun v => parse_badVersion_iff, parse_truncated_iff, parseAt?_eq p⟩
  · rintro ⟨l, rfl, rfl, rfl⟩
    exact parse_octets l
  · intro l l' hl hl'
    exact Layout.octets_injective (hl.trans hl'.symm)

/-- One contributing source, an extension of one word, and two octets of padding. -/
example :
    parse [0xb1, 0x8b, 0, 1, 0, 0, 3, 0xc0, 0, 0, 0, 7, 1, 2, 3, 4, 0xbe, 0xde, 0, 1, 5, 5, 5, 5,
        8, 9, 0, 2] =
      .ok (⟨true, linearAudio, 1, 960, 7⟩, [8, 9]) := by
  decide

end Rtp
end PacedRtp
