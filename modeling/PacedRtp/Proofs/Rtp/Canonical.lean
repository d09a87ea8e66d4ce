import Mathlib
import PacedRtp.Proofs.Rtp.Grammar

/-!
# Canonical packets

A header and a payload have one written packet, `Header.packet`, which has no optional parts.
`canonical` takes any packet to the written packet of what is read off it: contributing sources,
extension and padding are gone, the header and the payload are the same.

Reading a written packet gives back its header, with seven bits of payload type, and its payload,
whatever octets the payload is made of. Of the packets that `parse` accepts, the written ones are
exactly those whose first octet announces no optional part.
-/

namespace PacedRtp
namespace Rtp

/-! ## Seven bits of payload type -/

theorem payloadType_le_iff {t : UInt8} : t ≤ 127 ↔ t < 0x80 := by
  rw [UInt8.le_iff_toNat_le, UInt8.lt_iff_toNat_lt]
  exact Nat.lt_succ_iff.symm

/-- The eighth bit of a payload type is not written, so it cannot reach the marker above it. -/
theorem Header.packet_and_payloadType (h : Header) (payload : List UInt8) :
    ({ h with payloadType := h.payloadType &&& 0x7f } : Header).packet payload =
      h.packet payload := by
  have htype : ({ h with payloadType := h.payloadType &&& 0x7f } : Header).typeOctet =
      h.typeOctet := by
    rw [typeOctet, typeOctet, and_payloadType (and_payloadType_lt h.payloadType)]
  simp only [packet, encode, htype]

/-- A header of seven bits is read back as it is. -/
theorem parse_packet_of_lt {h : Header} (hlt : h.payloadType < 0x80) (payload : List UInt8) :
    parse (h.packet payload) = .ok (h, payload) := by
  rw [parse_packet, and_payloadType hlt]

theorem injOn_packet :
    Set.InjOn (fun x : Header × List UInt8 => x.1.packet x.2) {x | x.1.payloadType ≤ 127} := by
  rintro ⟨h, payload⟩ hle ⟨h', payload'⟩ hle' heq
  have hread := parse_packet_of_lt (payloadType_le_iff.mp hle) payload
  have hread' := parse_packet_of_lt (payloadType_le_iff.mp hle') payload'
  -- Equal packets read the same.
  rw [show h.packet payload = h'.packet payload' from heq, hread'] at hread
  exact (Except.ok.inj hread).symm

/-! ## Layouts without optional parts -/

namespace Layout

theorem head?_octets (l : Layout) : l.octets.head? = some l.flags :=
  rfl

theorem flags_eq_iff (l : Layout) :
    l.flags = flagOctet false false 0 ↔
      l.padding = none ∧ l.extension = none ∧ l.sourceCount = 0 := by
  constructor
  · intro h
    rcases flagOctet_inj h with ⟨hpadding, hextension, hcount⟩
    exact ⟨by simpa using hpadding, by simpa using hextension, hcount⟩
  · rintro ⟨hpadding, hextension, hcount⟩
    rw [flags, hpadding, hextension, hcount]
    rfl

/-- The payload is part of the body, between the optional parts. -/
theorem length_payload_le (l : Layout) : l.payload.length ≤ l.body.length := by
  simp only [body, List.length_append]
  omega

theorem length_packet_le (l : Layout) :
    (l.header.packet l.payload).length ≤ l.octets.length := by
  have hle := l.length_payload_le
  rw [Header.length_packet, octets, List.length_append, Header.length_fixed]
  omega

theorem packet_eq_octets_iff (l : Layout) :
    l.header.packet l.payload = l.octets ↔ l.flags = flagOctet false false 0 := by
  constructor
  · intro h
    have hhead : some (flagOctet false false 0) = some l.flags := congrArg List.head? h
    exact (Option.some.inj hhead).symm
  · intro h
    rcases l.flags_eq_iff.mp h with ⟨hpadding, hextension, hcount⟩
    -- No part is announced, so the payload is all there is behind the header.
    have hsources : l.sources = [] := List.length_eq_zero_iff.mp (by
      rw [l.length_sources, hcount]
      rfl)
    have hbody : l.body = l.payload := by
      rw [body, hsources, hextension, hpadding]
      simp
    rw [octets, hbody, h, Header.packet, Header.encode_eq_fixed]

end Layout

/-! ## Canonical form -/

/-- The packet that is written for what is read off a packet. -/
def canonical (p : List UInt8) : Except ParseError (List UInt8) :=
  (parse p).map fun (h, payload) => h.packet payload

theorem canonical_of_parse {p payload : List UInt8} {h : Header}
    (hparse : parse p = .ok (h, payload)) : canonical p = .ok (h.packet payload) := by
  rw [canonical, hparse]
  rfl

/-- What is read off a packet is read again off its written packet. -/
theorem parse_packet_of_parse {p payload : List UInt8} {h : Header}
    (hparse : parse p = .ok (h, payload)) : parse (h.packet payload) = .ok (h, payload) := by
  rcases exists_layout hparse with ⟨l, -, rfl, rfl⟩
  exact parse_packet_of_lt l.payloadType_lt l.payload

theorem canonical_canonical {p q : List UInt8} (h : canonical p = .ok q) :
    canonical q = .ok q := by
  cases hparse : parse p with
  | error e =>
    rw [canonical, hparse] at h
    cases h
  | ok read =>
    rcases read with ⟨header, payload⟩
    rw [canonical_of_parse hparse] at h
    cases h
    exact canonical_of_parse (parse_packet_of_parse hparse)

/-- Writing and reading: a written packet is read back up to the eighth bit of its payload type, and
every packet has a written form, which reads the same, is no longer, and is the packet itself iff
the packet has no optional part. -/
theorem packet_canonical :
    (∀ (h : Header) (payload : List UInt8),
      parse (h.packet payload) =
        .ok ({ h with payloadType := h.payloadType &&& 0x7f }, payload) ∧
      ({ h with payloadType := h.payloadType &&& 0x7f } : Header).packet payload =
        h.packet payload) ∧
    Set.InjOn (fun x : Header × List UInt8 => x.1.packet x.2) {x | x.1.payloadType ≤ 127} ∧
    (∀ (p : List UInt8) (h : Header) (payload : List UInt8), parse p = .ok (h, payload) →
      h.payloadType ≤ 127 ∧
      parse (h.packet payload) = .ok (h, payload) ∧
      canonical p = .ok (h.packet payload) ∧
      (h.packet payload).length ≤ p.length ∧
      (h.packet payload = p ↔ p.head? = some 0x80) ∧
      ∀ l : Layout, l.octets = p →
        (p.head? = some 0x80 ↔
          l.padding = none ∧ l.extension = none ∧ l.sourceCount = 0)) ∧
    (∀ p q : List UInt8, canonical p = .ok q → canonical q = .ok q) := by
  refine ⟨fun h payload => ⟨parse_packet h payload, h.packet_and_payloadType payload⟩, injOn_packet,
    ?_, fun p q => canonical_canonical⟩
  intro p h payload hparse
  rcases exists_layout hparse with ⟨l, rfl, rfl, rfl⟩
  have hhead : l.octets.head? = some 0x80 ↔ l.flags = flagOctet false false 0 := by
    rw [l.head?_octets, Option.some.injEq]
    rfl
  refine ⟨payloadType_le_iff.mpr l.payloadType_lt, parse_packet_of_parse hparse,
    canonical_of_parse hparse, l.length_packet_le, ?_, ?_⟩
  · rw [hhead]
    exact l.packet_eq_octets_iff
  · intro l' hl'
    cases Layout.octets_injective hl'
    rw [hhead]
    exact l.flags_eq_iff

/-! ### A packet with every optional part -/

/-- One contributing source, an extension without words, and one octet of padding. -/
def adorned : List UInt8 :=
  [0xb1, 0x8b, 0, 1, 0, 0, 3, 0xc0, 0, 0, 0, 7, 1, 2, 3, 4, 0xbe, 0xde, 0, 0, 8, 9, 1]

theorem packet_canonical_adorned :
    parse adorned = .ok (⟨true, linearAudio, 1, 960, 7⟩, [8, 9]) ∧
      canonical adorned = .ok [0x80, 0x8b, 0, 1, 0, 0, 3, 0xc0, 0, 0, 0, 7, 8, 9] ∧
      (⟨true, linearAudio, 1, 960, 7⟩ : Header).packet [8, 9] ≠ adorned := by
  have hparse : parse adorned = .ok (⟨true, linearAudio, 1, 960, 7⟩, [8, 9]) := by decide
  rcases packet_canonical.2.2.1 adorned _ _ hparse with ⟨-, -, hcanonical, -, hself, -⟩
  exact ⟨hparse, hcanonical, fun h => absurd (hself.mp h) (by decide)⟩

end Rtp
end PacedRtp
