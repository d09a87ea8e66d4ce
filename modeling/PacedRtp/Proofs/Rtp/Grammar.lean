import Mathlib
import PacedRtp.Proofs.Rtp.Fixed

/-!
# The grammar of RTP packets

A `Layout` is a packet taken apart: the header, the contributing sources, the extension if there is
one, the payload, and the padding if there is any. `Layout.octets` puts it together.

`parse` accepts exactly the lists of octets that have a layout, and answers with its header and
payload; a list of octets has one layout at most; and the three errors are told apart by the length
and the version alone. Nothing here says that a payload is audio.
-/

namespace PacedRtp
namespace Rtp

/-! ## Layouts -/

/-- A header extension: two octets of any value, a count, and as many 32-bit words. -/
structure Extension where
  profile : UInt8 × UInt8
  count : UInt16
  words : List UInt8
  length_words : words.length = 4 * count.toNat

def Extension.octets (e : Extension) : List UInt8 :=
  [e.profile.1, e.profile.2] ++ Octets.bigEndian 2 e.count.toNat ++ e.words

/-- Padding: up to 254 octets of any value, and one that counts them all and itself. -/
structure Padding where
  filler : List UInt8
  length_filler : filler.length < 255

def Padding.count (q : Padding) : UInt8 :=
  .ofNat (q.filler.length + 1)

def Padding.octets (q : Padding) : List UInt8 :=
  q.filler ++ [q.count]

structure Layout where
  header : Header
  /-- Seven bits. -/
  payloadType_lt : header.payloadType < 0x80
  sourceCount : Fin 16
  sources : List UInt8
  length_sources : sources.length = 4 * sourceCount
  extension : Option Extension
  payload : List UInt8
  padding : Option Padding

namespace Layout

/-- The first octet announces every optional part. -/
def flags (l : Layout) : UInt8 :=
  flagOctet l.padding.isSome l.extension.isSome l.sourceCount

/-- Everything behind the fixed header. -/
def body (l : Layout) : List UInt8 :=
  l.sources ++ l.extension.elim [] Extension.octets ++ l.payload ++
    l.padding.elim [] Padding.octets

def octets (l : Layout) : List UInt8 :=
  l.header.fixed l.flags ++ l.body

end Layout

/-! ## Parts behind the fixed header -/

theorem skip_eq_some_iff {n : Nat} {bytes rest : List UInt8} :
    skip n bytes = some rest ↔ ∃ part, part.length = n ∧ bytes = part ++ rest := by
  constructor
  · intro h
    by_cases hn : n ≤ bytes.length
    · have hrest : bytes.drop n = rest := by simpa [skip, hn] using h
      exact ⟨bytes.take n, by simpa using hn, by rw [← hrest, List.take_append_drop]⟩
    · simp [skip, hn] at h
  · rintro ⟨part, rfl, rfl⟩
    simp [skip]

theorem skipExtension_octets (e : Extension) (rest : List UInt8) :
    skipExtension (e.octets ++ rest) = some rest := by
  have hskip : skip (4 * Octets.ofBigEndian (Octets.bigEndian 2 e.count.toNat))
      (e.words ++ rest) = some rest :=
    skip_eq_some_iff.mpr ⟨e.words, by rw [Octets.ofBigEndian_word16, e.length_words], rfl⟩
  exact hskip

theorem skipExtension_eq_some_iff {bytes rest : List UInt8} :
    skipExtension bytes = some rest ↔ ∃ e : Extension, bytes = e.octets ++ rest := by
  constructor
  · intro h
    -- Fewer than four octets have no extension, so this is the only shape.
    match bytes, h with
    | p₁ :: p₀ :: high :: low :: tail, h =>
      rcases skip_eq_some_iff.mp h with ⟨words, hlen, htail⟩
      refine ⟨⟨(p₁, p₀), .ofNat (Octets.ofBigEndian [high, low]), words, ?_⟩, ?_⟩
      · rw [hlen, Octets.toNat_word16 rfl]
      · rw [Extension.octets, Octets.bigEndian_word16 rfl, htail]
        rfl
  · rintro ⟨e, rfl⟩
    exact skipExtension_octets e rest

theorem Padding.toNat_count (q : Padding) : q.count.toNat = q.filler.length + 1 := by
  have hlt := q.length_filler
  rw [Padding.count, UInt8.toNat_ofNat', Nat.mod_eq_of_lt (by omega)]

@[simp] theorem Padding.length_octets (q : Padding) : q.octets.length = q.count.toNat := by
  rw [q.toNat_count]
  simp [Padding.octets]

theorem stripPadding_octets (front : List UInt8) (q : Padding) :
    stripPadding (front ++ q.octets) = some front := by
  have hlast : (front ++ q.octets).getLast? = some q.count := by
    simp [Padding.octets, ← List.append_assoc]
  -- The count counts itself.
  have hne : q.count ≠ 0 := by
    intro h0
    have hcount := q.toNat_count
    rw [h0] at hcount
    simp at hcount
  simp [stripPadding, hlast, hne]

theorem stripPadding_eq_some_iff {bytes rest : List UInt8} :
    stripPadding bytes = some rest ↔ ∃ q : Padding, bytes = rest ++ q.octets := by
  constructor
  · intro h
    -- The octets are taken apart from the end, where the count stands.
    rcases List.eq_nil_or_concat bytes with rfl | ⟨front, count, rfl⟩
    · simp [stripPadding] at h
    · simp only [stripPadding, List.concat_eq_append, List.getLast?_concat] at h
      split at h
      · cases h
      · rename_i hcount
        simp only [not_or, not_lt, List.length_append, List.length_singleton] at hcount
        rcases hcount with ⟨hne, hle⟩
        have hpos : count.toNat ≠ 0 := fun h0 => hne (UInt8.toNat_inj.mp h0)
        have hlt := count.toNat_lt
        have hrest : front.take (front.length + 1 - count.toNat) = rest := by
          rw [← Option.some.inj h, List.length_append, List.length_singleton,
            List.take_append_of_le_length (by omega)]
        -- The filler is what the count covers of the octets in front of it.
        have hlen : (front.drop (front.length + 1 - count.toNat)).length + 1 = count.toNat := by
          rw [List.length_drop]
          omega
        refine ⟨⟨front.drop (front.length + 1 - count.toNat), by omega⟩, ?_⟩
        rw [Padding.octets, Padding.count, hlen, UInt8.ofNat_toNat, ← hrest, ← List.append_assoc,
          List.take_append_drop, List.concat_eq_append]
  · rintro ⟨q, rfl⟩
    exact stripPadding_octets rest q

/-- The payload is what stands between the announced parts, and each is there iff its flag is. -/
theorem payload?_eq_some_iff {padded extended : Bool} {count : Fin 16}
    {body payload : List UInt8} :
    payload? (flagOctet padded extended count) body = some payload ↔
      ∃ (sources : List UInt8) (e : Option Extension) (q : Option Padding),
        sources.length = 4 * count ∧ e.isSome = extended ∧ q.isSome = padded ∧
          body = sources ++ e.elim [] Extension.octets ++ payload ++ q.elim [] Padding.octets := by
  -- The three parts one after the other, without the monad and the bit tests.
  have hsplit : payload? (flagOctet padded extended count) body = some payload ↔
      ∃ afterSources afterExtension, skip (4 * count) body = some afterSources ∧
        (if extended then skipExtension afterSources else some afterSources) =
          some afterExtension ∧
        (if padded then stripPadding afterExtension else some afterExtension) = some payload := by
    simp only [payload?, flagOctet_sources, flagOctet_extended, flagOctet_padded,
      Option.bind_eq_bind, Option.bind_eq_some_iff]
    cases extended <;> simp [Option.bind_eq_some_iff]
  rw [hsplit]
  constructor
  · rintro ⟨afterSources, afterExtension, hsources, hextension, hpadding⟩
    rcases skip_eq_some_iff.mp hsources with ⟨sources, hlen, rfl⟩
    -- An announced part is there, and one that is not announced is empty.
    have he : ∃ e : Option Extension, e.isSome = extended ∧
        afterSources = e.elim [] Extension.octets ++ afterExtension := by
      cases extended with
      | false => exact ⟨none, rfl, by simpa using hextension⟩
      | true =>
        rcases skipExtension_eq_some_iff.mp hextension with ⟨e, rfl⟩
        exact ⟨some e, rfl, rfl⟩
    have hq : ∃ q : Option Padding, q.isSome = padded ∧
        afterExtension = payload ++ q.elim [] Padding.octets := by
      cases padded with
      | false => exact ⟨none, rfl, by simpa using hpadding⟩
      | true =>
        rcases stripPadding_eq_some_iff.mp hpadding with ⟨q, rfl⟩
        exact ⟨some q, rfl, rfl⟩
    rcases he with ⟨e, hesome, rfl⟩
    rcases hq with ⟨q, hqsome, rfl⟩
    exact ⟨sources, e, q, hlen, hesome, hqsome, by simp only [List.append_assoc]⟩
  · rintro ⟨sources, e, q, hlen, rfl, rfl, rfl⟩
    refine ⟨e.elim [] Extension.octets ++ (payload ++ q.elim [] Padding.octets),
      payload ++ q.elim [] Padding.octets,
      skip_eq_some_iff.mpr ⟨sources, hlen, by simp only [List.append_assoc]⟩, ?_, ?_⟩
    · cases e with
      | none => rfl
      | some e => exact skipExtension_octets e _
    · cases q with
      | none => simp
      | some q => exact stripPadding_octets payload q

/-! ## Acceptance -/

theorem parse_octets (l : Layout) : parse l.octets = .ok (l.header, l.payload) := by
  have hbody : payload? l.flags l.body = some l.payload :=
    payload?_eq_some_iff.mpr ⟨l.sources, l.extension, l.padding, l.length_sources, rfl, rfl, rfl⟩
  rw [Layout.octets, parse_fixed, hbody, and_payloadType l.payloadType_lt, Layout.flags,
    flagOctet_version]
  simp

theorem parse_tooShort_iff {bytes : List UInt8} :
    parse bytes = .error .tooShort ↔ bytes.length < headerLength := by
  constructor
  · intro h
    by_contra hlen
    rcases exists_fixed (Nat.le_of_not_lt hlen) with ⟨h', flags, body, -, rfl⟩
    rw [parse_fixed] at h
    split at h
    · cases h
    · split at h <;> cases h
  · intro hlen
    rw [parse]
    rintro flags kind s₁ s₀ t₃ t₂ t₁ t₀ c₃ c₂ c₁ c₀ body rfl
    simp only [List.length_cons, headerLength] at hlen
    omega

theorem exists_layout {bytes payload : List UInt8} {h : Header}
    (hok : parse bytes = .ok (h, payload)) :
    ∃ l : Layout, l.octets = bytes ∧ l.header = h ∧ l.payload = payload := by
  have hlen : headerLength ≤ bytes.length := by
    by_contra hshort
    rw [parse_tooShort_iff.mpr (Nat.lt_of_not_le hshort)] at hok
    cases hok
  -- The layout is made of what the two refusals did not apply to.
  rcases exists_fixed hlen with ⟨h', flags, body, hlt, rfl⟩
  rw [parse_fixed, and_payloadType hlt] at hok
  split at hok
  · cases hok
  · rename_i hversion
    split at hok
    · rename_i payload' hbody
      cases hok
      rcases exists_flagOctet (not_not.mp hversion) with ⟨padded, extended, count, rfl⟩
      rcases payload?_eq_some_iff.mp hbody with ⟨sources, e, q, hsources, rfl, rfl, rfl⟩
      exact ⟨⟨h', hlt, count, sources, hsources, e, payload, q⟩, rfl, rfl, rfl⟩
    · cases hok

/-! ## One layout for each packet -/

theorem Extension.octets_append_inj {e e' : Extension} {rest rest' : List UInt8}
    (h : e.octets ++ rest = e'.octets ++ rest') : e = e' ∧ rest = rest' := by
  -- What is left behind an extension is determined by `skipExtension`.
  have hrest : rest = rest' := by
    have hskip := skipExtension_octets e rest
    rw [h, skipExtension_octets] at hskip
    exact (Option.some.inj hskip).symm
  subst hrest
  rcases List.append_inj (List.append_cancel_right h) (by simp) with ⟨hfront, hwords⟩
  rcases List.append_inj hfront (by simp) with ⟨hprofile, hcount⟩
  have hcount : e.count = e'.count := by
    rw [← UInt16.toNat_inj, ← Octets.ofBigEndian_word16, hcount, Octets.ofBigEndian_word16]
  cases e
  cases e'
  simp_all [Prod.ext_iff]

theorem Padding.append_octets_inj {q q' : Padding} {front front' : List UInt8}
    (h : front ++ q.octets = front' ++ q'.octets) : front = front' ∧ q = q' := by
  -- What is left in front of padding is determined by `stripPadding`.
  have hfront : front = front' := by
    have hstrip := stripPadding_octets front q
    rw [h, stripPadding_octets] at hstrip
    exact (Option.some.inj hstrip).symm
  subst hfront
  rcases List.append_inj' (List.append_cancel_left h) rfl with ⟨hfiller, -⟩
  cases q
  cases q'
  simp_all

theorem Layout.octets_injective : Function.Injective Layout.octets := by
  intro l l' h
  rcases fixed_inj l.payloadType_lt l'.payloadType_lt h with ⟨hheader, hflags, hbody⟩
  -- Equal first octets announce the same parts, so the bodies are cut at the same places.
  rcases flagOctet_inj hflags with ⟨hpadded, hextended, hcount⟩
  simp only [Layout.body, List.append_assoc] at hbody
  rcases List.append_inj hbody (by
      rw [l.length_sources, l'.length_sources, hcount]) with
    ⟨hsources, hbody⟩
  have hextension : l.extension = l'.extension ∧
      l.payload ++ l.padding.elim [] Padding.octets =
        l'.payload ++ l'.padding.elim [] Padding.octets := by
    cases he : l.extension with
    | none =>
      have he' : l'.extension = none := by simpa [he] using hextended
      exact ⟨he'.symm, by simpa [he, he'] using hbody⟩
    | some e =>
      rcases Option.isSome_iff_exists.mp (by simpa [he] using hextended.symm) with ⟨e', he'⟩
      rw [he, he'] at hbody
      rcases Extension.octets_append_inj hbody with ⟨rfl, hrest⟩
      exact ⟨he'.symm, hrest⟩
  have hpadding : l.padding = l'.padding ∧ l.payload = l'.payload := by
    have hrest := hextension.2
    cases hq : l.padding with
    | none =>
      have hq' : l'.padding = none := by simpa [hq] using hpadded
      exact ⟨hq'.symm, by simpa [hq, hq'] using hrest⟩
    | some q =>
      rcases Option.isSome_iff_exists.mp (by simpa [hq] using hpadded.symm) with ⟨q', hq'⟩
      rw [hq, hq'] at hrest
      rcases Padding.append_octets_inj hrest with ⟨hpayload, rfl⟩
      exact ⟨hq'.symm, hpayload⟩
  cases l
  cases l'
  simp_all

end Rtp
end PacedRtp
