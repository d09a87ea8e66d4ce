import Mathlib
import PacedRtp.Proofs.Octets
import PacedRtp.Rtp.Packet

/-!
# The fixed header under any flags

`Header.fixed` writes the twelve octets of a header below a first octet of choice. Every list of
twelve octets or more starts with exactly one such header, and `parse` goes on from there by the
first octet alone.
-/

namespace PacedRtp
namespace Rtp

/-! ## The first octet -/

/-- Version 2, the padding and extension flags, and the count of contributing sources. -/
def flagOctet (padded extended : Bool) (sources : Fin 16) : UInt8 :=
  version <<< 6 ||| (if padded then 0x20 else 0) ||| (if extended then 0x10 else 0) |||
    .ofNat sources

theorem flagOctet_version :
    ∀ (padded extended : Bool) (sources : Fin 16),
      flagOctet padded extended sources >>> 6 = version := by
  decide

theorem flagOctet_padded :
    ∀ (padded extended : Bool) (sources : Fin 16),
      flagOctet padded extended sources &&& 0x20 ≠ 0 ↔ padded = true := by
  decide

theorem flagOctet_extended :
    ∀ (padded extended : Bool) (sources : Fin 16),
      flagOctet padded extended sources &&& 0x10 ≠ 0 ↔ extended = true := by
  decide

theorem flagOctet_sources :
    ∀ (padded extended : Bool) (sources : Fin 16),
      (flagOctet padded extended sources &&& 0x0f).toNat = sources := by
  decide

/-- Every octet of version 2 is made of its flags and count. -/
theorem exists_flagOctet {flags : UInt8} (h : flags >>> 6 = version) :
    ∃ padded extended sources, flags = flagOctet padded extended sources := by
  -- The parts are read off the octet itself; there are 256 cases.
  have hall : ∀ f : UInt8, f >>> 6 = version →
      f = flagOctet (f &&& 0x20 ≠ 0) (f &&& 0x10 ≠ 0) (Fin.ofNat 16 (f &&& 0x0f).toNat) := by
    decide +kernel
  exact ⟨_, _, _, hall flags h⟩

theorem flagOctet_inj {p p' x x' : Bool} {c c' : Fin 16}
    (h : flagOctet p x c = flagOctet p' x' c') : p = p' ∧ x = x' ∧ c = c' := by
  refine ⟨?_, ?_, ?_⟩
  · rw [Bool.eq_iff_iff, ← flagOctet_padded p x c, h, flagOctet_padded]
  · rw [Bool.eq_iff_iff, ← flagOctet_extended p x c, h, flagOctet_extended]
  · apply Fin.ext
    rw [← flagOctet_sources p x c, h, flagOctet_sources]

/-! ## The second octet -/

theorem typeOctet_marker (h : Header) : (decide (h.typeOctet &&& 0x80 ≠ 0)) = h.marker := by
  have hall : ∀ (m : Bool) (t : UInt8),
      decide (((if m then 0x80 else 0) ||| (t &&& 0x7f)) &&& 0x80 ≠ (0 : UInt8)) = m := by
    decide +kernel
  exact hall h.marker h.payloadType

theorem typeOctet_payloadType (h : Header) : h.typeOctet &&& 0x7f = h.payloadType &&& 0x7f := by
  have hall : ∀ (m : Bool) (t : UInt8),
      ((if m then 0x80 else 0) ||| (t &&& 0x7f)) &&& 0x7f = t &&& 0x7f := by
    decide +kernel
  exact hall h.marker h.payloadType

theorem and_payloadType {t : UInt8} (h : t < 0x80) : t &&& 0x7f = t := by
  have hall : ∀ t : UInt8, t < 0x80 → t &&& 0x7f = t := by decide +kernel
  exact hall t h

theorem and_payloadType_lt (t : UInt8) : t &&& 0x7f < 0x80 := by
  have hall : ∀ t : UInt8, t &&& 0x7f < 0x80 := by decide +kernel
  exact hall t

/-- The second octet is put together again from its two parts. -/
theorem typeOctet_split (t : UInt8) :
    ((if t &&& 0x80 ≠ 0 then 0x80 else 0) ||| (t &&& 0x7f &&& 0x7f)) = t := by
  have hall : ∀ t : UInt8,
      ((if t &&& 0x80 ≠ 0 then 0x80 else 0) ||| (t &&& 0x7f &&& 0x7f)) = t := by
    decide +kernel
  exact hall t

/-! ## Twelve octets -/

/-- The header's octets below a first octet of choice. -/
def Header.fixed (h : Header) (flags : UInt8) : List UInt8 :=
  [flags, h.typeOctet] ++ Octets.bigEndian 2 h.sequence.toNat ++
    Octets.bigEndian 4 h.timestamp.toNat ++ Octets.bigEndian 4 h.ssrc.toNat

theorem Header.encode_eq_fixed (h : Header) : h.encode = h.fixed (flagOctet false false 0) :=
  rfl

@[simp] theorem Header.length_fixed (h : Header) (flags : UInt8) :
    (h.fixed flags).length = headerLength := by
  simp [Header.fixed, headerLength]

/-- The header that is read back from the octets of a header: its payload type has seven bits. -/
theorem Header.read_fixed (h : Header) :
    ({ marker := h.typeOctet &&& 0x80 ≠ 0
       payloadType := h.typeOctet &&& 0x7f
       sequence := .ofNat (Octets.ofBigEndian (Octets.bigEndian 2 h.sequence.toNat))
       timestamp := .ofNat (Octets.ofBigEndian (Octets.bigEndian 4 h.timestamp.toNat))
       ssrc := .ofNat (Octets.ofBigEndian (Octets.bigEndian 4 h.ssrc.toNat)) } : Header) =
      { h with payloadType := h.payloadType &&& 0x7f } := by
  rw [typeOctet_marker, typeOctet_payloadType, Octets.ofBigEndian_word16,
    Octets.ofBigEndian_word32, Octets.ofBigEndian_word32, UInt16.ofNat_toNat, UInt32.ofNat_toNat,
    UInt32.ofNat_toNat]

/-- What `parse` makes of a fixed header: it reads the header back and leaves the rest to the flags
in the first octet. -/
theorem parse_fixed (h : Header) (flags : UInt8) (body : List UInt8) :
    parse (h.fixed flags ++ body) =
      if flags >>> 6 ≠ version then .error (.badVersion (flags >>> 6))
      else
        match payload? flags body with
        | some payload => .ok ({ h with payloadType := h.payloadType &&& 0x7f }, payload)
        | none => .error .truncated := by
  rw [← h.read_fixed]
  rfl

/-- A written packet is read back; its payload type has seven bits. -/
theorem parse_packet (h : Header) (payload : List UInt8) :
    parse (h.packet payload) = .ok ({ h with payloadType := h.payloadType &&& 0x7f }, payload) := by
  -- No flag is set, so everything behind the header is payload.
  have hversion : flagOctet false false 0 >>> 6 = version := flagOctet_version false false 0
  have hpayload : payload? (flagOctet false false 0) payload = some payload := rfl
  rw [Header.packet, Header.encode_eq_fixed, parse_fixed, hversion, hpayload]
  rfl

/-- Twelve octets or more start with a fixed header. -/
theorem exists_fixed {bytes : List UInt8} (hlen : headerLength ≤ bytes.length) :
    ∃ h flags body, h.payloadType < 0x80 ∧ bytes = Header.fixed h flags ++ body := by
  -- The twelve octets are named; the header is what `parse` would read off them.
  match bytes, hlen with
  | flags :: kind :: s₁ :: s₀ :: t₃ :: t₂ :: t₁ :: t₀ :: c₃ :: c₂ :: c₁ :: c₀ :: body, _ =>
    refine ⟨{ marker := decide (kind &&& 0x80 ≠ 0)
              payloadType := kind &&& 0x7f
              sequence := .ofNat (Octets.ofBigEndian [s₁, s₀])
              timestamp := .ofNat (Octets.ofBigEndian [t₃, t₂, t₁, t₀])
              ssrc := .ofNat (Octets.ofBigEndian [c₃, c₂, c₁, c₀]) }, flags, body,
      and_payloadType_lt kind, ?_⟩
    rw [Header.fixed, Octets.bigEndian_word16 rfl, Octets.bigEndian_word32 rfl,
      Octets.bigEndian_word32 rfl, Header.typeOctet]
    simp only [decide_eq_true_eq, typeOctet_split]
    rfl

/-- A list of octets starts with one fixed header at most. -/
theorem fixed_inj {h h' : Header} {flags flags' : UInt8} {body body' : List UInt8}
    (hlt : h.payloadType < 0x80) (hlt' : h'.payloadType < 0x80)
    (heq : h.fixed flags ++ body = h'.fixed flags' ++ body') :
    h = h' ∧ flags = flags' ∧ body = body' := by
  -- The fields have fixed lengths, so the octets are cut apart from behind.
  rcases List.append_inj heq (by simp) with ⟨hfixed, hbody⟩
  rcases List.append_inj hfixed (by simp) with ⟨hrest, hssrc⟩
  rcases List.append_inj hrest (by simp) with ⟨hrest, htime⟩
  rcases List.append_inj hrest (by simp) with ⟨hfirst, hseq⟩
  have hflags : flags = flags' := (List.cons.inj hfirst).1
  have htype : h.typeOctet = h'.typeOctet := (List.cons.inj (List.cons.inj hfirst).2).1
  -- Each field is what is read back from its octets.
  have hmarker : h.marker = h'.marker := by
    rw [← typeOctet_marker, htype, typeOctet_marker]
  have hkind : h.payloadType = h'.payloadType := by
    rw [← and_payloadType hlt, ← typeOctet_payloadType, htype, typeOctet_payloadType,
      and_payloadType hlt']
  have hsequence : h.sequence = h'.sequence := by
    rw [← UInt16.toNat_inj, ← Octets.ofBigEndian_word16, hseq, Octets.ofBigEndian_word16]
  have htimestamp : h.timestamp = h'.timestamp := by
    rw [← UInt32.toNat_inj, ← Octets.ofBigEndian_word32, htime, Octets.ofBigEndian_word32]
  have hsource : h.ssrc = h'.ssrc := by
    rw [← UInt32.toNat_inj, ← Octets.ofBigEndian_word32, hssrc, Octets.ofBigEndian_word32]
  refine ⟨?_, hflags, hbody⟩
  cases h
  cases h'
  simp_all

end Rtp
end PacedRtp
