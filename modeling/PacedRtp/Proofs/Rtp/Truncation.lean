import Mathlib
import PacedRtp.Proofs.Rtp.Acceptance

/-!
# Packets cut short and packets drawn out

A packet without padding tells where its payload starts and nothing about where it ends. Cut behind
that place it reads as a packet with less payload, cut before that place it is refused, and octets
added at its end are payload. A packet with padding is measured from its end; once the flag is
cleared, its padding is payload like the rest.

Only reading is looked at here. Nothing says that a cut packet holds whole sample frames.
-/

namespace PacedRtp
namespace Rtp

/-! ## The padding flag -/

/-- The first octet announces padding. -/
def announcesPadding (p : List UInt8) : Bool :=
  p.head?.any fun first => first &&& 0x20 ≠ 0

/-- The packet with its padding flag cleared and nothing else changed. -/
def clearPadding (p : List UInt8) : List UInt8 :=
  p.modifyHead (· &&& 0xdf)

theorem flagOctet_clear :
    ∀ (padded extended : Bool) (sources : Fin 16),
      flagOctet padded extended sources &&& 0xdf = flagOctet false extended sources := by
  decide

/-! ## Layouts around another payload -/

namespace Layout

/-- Everything in front of the payload. -/
def front (l : Layout) : List UInt8 :=
  l.header.fixed l.flags ++ l.sources ++ l.extension.elim [] Extension.octets

/-- The padding octets, if there are any. -/
def paddingOctets (l : Layout) : List UInt8 :=
  l.padding.elim [] Padding.octets

/-- The same parts around another payload. -/
def withPayload (l : Layout) (payload : List UInt8) : Layout :=
  { l with payload }

/-- The same packet with its padding read as payload. -/
def unpadded (l : Layout) : Layout :=
  { l with payload := l.payload ++ l.paddingOctets, padding := none }

theorem octets_eq (l : Layout) : l.octets = l.front ++ l.payload ++ l.paddingOctets := by
  simp only [octets, body, front, paddingOctets, List.append_assoc]

theorem headerLength_le_front (l : Layout) : headerLength ≤ l.front.length := by
  rw [front, List.append_assoc, List.length_append, Header.length_fixed]
  exact Nat.le_add_right _ _

theorem octets_withPayload {l : Layout} (h : l.padding = none) (payload : List UInt8) :
    (l.withPayload payload).octets = l.front ++ payload := by
  have hpadding : (l.withPayload payload).paddingOctets = [] := by
    rw [paddingOctets, show (l.withPayload payload).padding = none from h]
    rfl
  rw [octets_eq, hpadding, List.append_nil]
  rfl

theorem versionField?_octets (l : Layout) : versionField? l.octets = some version := by
  rw [octets, versionField?_fixed, flags, flagOctet_version]

theorem announcesPadding_octets (l : Layout) : announcesPadding l.octets = l.padding.isSome := by
  rw [Bool.eq_iff_iff, ← flagOctet_padded l.padding.isSome l.extension.isSome l.sourceCount]
  exact decide_eq_true_iff

theorem clearPadding_octets (l : Layout) : clearPadding l.octets = l.unpadded.octets := by
  have hflags : l.flags &&& 0xdf = l.unpadded.flags := flagOctet_clear _ _ _
  have hbody : l.unpadded.body = l.body := by
    simp only [body, unpadded, paddingOctets, Option.elim_none, List.append_nil, List.append_assoc]
  rw [octets, octets, hbody, ← hflags]
  rfl

end Layout

/-! ## Packets without padding -/

section Unpadded

variable {p payload : List UInt8} {h : Header} {m : Nat}

/-- An accepted packet without padding has a front, behind which everything is payload. -/
theorem exists_front (hparse : parse p = .ok (h, payload)) (hflag : announcesPadding p = false) :
    ∃ front, headerLength ≤ front.length ∧ p = front ++ payload ∧
      ∀ other, parse (front ++ other) = .ok (h, other) := by
  rcases exists_layout hparse with ⟨l, rfl, rfl, rfl⟩
  rw [l.announcesPadding_octets, Option.isSome_eq_false_iff, Option.isNone_iff_eq_none] at hflag
  refine ⟨l.front, l.headerLength_le_front, Layout.octets_withPayload hflag l.payload, ?_⟩
  intro other
  rw [← Layout.octets_withPayload hflag]
  exact parse_octets (l.withPayload other)

theorem parse_append (hparse : parse p = .ok (h, payload)) (hflag : announcesPadding p = false)
    (more : List UInt8) : parse (p ++ more) = .ok (h, payload ++ more) := by
  rcases exists_front hparse hflag with ⟨front, -, rfl, hfront⟩
  rw [List.append_assoc]
  exact hfront (payload ++ more)

/-- A cut within the payload leaves a packet with the start of it. -/
theorem parse_take_of_le (hparse : parse p = .ok (h, payload)) (hflag : announcesPadding p = false)
    (hle : p.length - payload.length ≤ m) :
    parse (p.take m) = .ok (h, payload.take (m - (p.length - payload.length))) := by
  rcases exists_front hparse hflag with ⟨front, -, rfl, hfront⟩
  rw [List.length_append, Nat.add_sub_cancel] at hle ⊢
  rw [List.take_append, List.take_of_length_le hle]
  exact hfront _

/-- A cut between the fixed header and the payload is noticed: were the packet accepted, the octets
cut off would be payload, and more than there is. -/
theorem parse_take_of_lt (hparse : parse p = .ok (h, payload)) (hflag : announcesPadding p = false)
    (hheader : headerLength ≤ m) (hlt : m < p.length - payload.length) :
    parse (p.take m) = .error .truncated := by
  -- The first octet stays, and with it the version and the padding flag.
  have hhead : (p.take m).head? = p.head? := by
    rw [List.head?_take, if_neg (Nat.ne_of_gt (Nat.lt_of_lt_of_le (by decide) hheader))]
  refine parse_truncated_iff.mpr ⟨?_, ?_, ?_⟩
  · rw [List.length_take]
    omega
  · rcases exists_layout hparse with ⟨l, rfl, -, -⟩
    rw [versionField?, hhead]
    exact l.versionField?_octets
  · rintro ⟨l, hl⟩
    have hcut : parse (p.take m) = .ok (l.header, l.payload) := by
      rw [← hl]
      exact parse_octets l
    have hcutFlag : announcesPadding (p.take m) = false := by
      rw [announcesPadding, hhead]
      exact hflag
    have hwhole := parse_append hcut hcutFlag (p.drop m)
    rw [List.take_append_drop, hparse, Except.ok.injEq, Prod.mk.injEq] at hwhole
    have hlength := congrArg List.length hwhole.2
    rw [List.length_append, List.length_drop] at hlength
    omega

end Unpadded

/-! ## Packets with padding -/

/-- An accepted packet with padding ends in it; without the flag the padding is payload. -/
theorem exists_padding {p payload : List UInt8} {h : Header}
    (hparse : parse p = .ok (h, payload)) (hflag : announcesPadding p = true) :
    ∃ (front : List UInt8) (padding : Padding), headerLength ≤ front.length ∧
      p = front ++ payload ++ padding.octets ∧
      parse (clearPadding p) = .ok (h, payload ++ padding.octets) := by
  rcases exists_layout hparse with ⟨l, rfl, rfl, rfl⟩
  rw [l.announcesPadding_octets] at hflag
  rcases Option.isSome_iff_exists.mp hflag with ⟨padding, hpadding⟩
  have hoctets : l.paddingOctets = padding.octets := by rw [Layout.paddingOctets, hpadding]; rfl
  refine ⟨l.front, padding, l.headerLength_le_front, ?_, ?_⟩
  · rw [l.octets_eq, hoctets]
  · rw [l.clearPadding_octets, parse_octets, ← hoctets]
    rfl

/-! ## Every cut and every extension -/

/-- What becomes of an accepted packet. Without padding, each cut of it is judged by where the
payload starts, and octets added to it are payload; with padding, clearing the flag turns the
padding, as many octets as the last one says, into the end of the payload. -/
theorem parse_cut {p payload : List UInt8} {h : Header} (hparse : parse p = .ok (h, payload)) :
    let o := p.length - payload.length
    headerLength ≤ o ∧
    (announcesPadding p = false →
      p.drop o = payload ∧
      (∀ m, parse (p.take m) =
        if m < headerLength then .error .tooShort
        else if m < o then .error .truncated
        else .ok (h, payload.take (m - o))) ∧
      ∀ more, parse (p ++ more) = .ok (h, payload ++ more)) ∧
    (announcesPadding p = true →
      ∃ front stripped count, headerLength ≤ front.length ∧
        p = front ++ payload ++ stripped ∧
        stripped.getLast? = some count ∧ stripped.length = count.toNat ∧ 1 ≤ count.toNat ∧
        announcesPadding (clearPadding p) = false ∧
        parse (clearPadding p) = .ok (h, payload ++ stripped)) := by
  intro o
  cases hflag : announcesPadding p with
  | false =>
    refine ⟨?_, fun _ => ⟨?_, ?_, parse_append hparse hflag⟩, nofun⟩
    · rcases exists_front hparse hflag with ⟨front, hfront, rfl, -⟩
      simpa [o] using hfront
    · rcases exists_front hparse hflag with ⟨front, -, rfl, -⟩
      simp [o]
    · intro m
      split_ifs with hshort hlt
      · rw [parse_tooShort_iff, List.length_take]
        exact Nat.lt_of_le_of_lt (Nat.min_le_left _ _) hshort
      · exact parse_take_of_lt hparse hflag (Nat.le_of_not_lt hshort) hlt
      · exact parse_take_of_le hparse hflag (Nat.le_of_not_lt hlt)
  | true =>
    rcases exists_padding hparse hflag with ⟨front, padding, hfront, hp, hcleared⟩
    have hlength : p.length = front.length + payload.length + padding.octets.length := by
      rw [hp, List.length_append, List.length_append]
    refine ⟨?_, nofun, fun _ => ⟨front, padding.octets, padding.count, hfront, hp,
      List.getLast?_concat, padding.length_octets, ?_, ?_, hcleared⟩⟩
    · simp only [o]
      omega
    · rw [padding.toNat_count]
      exact Nat.le_add_left _ _
    · rcases exists_layout hparse with ⟨l, rfl, -, -⟩
      rw [l.clearPadding_octets, Layout.announcesPadding_octets]
      rfl

/-! ### A packet with sources and an extension -/

/-- One contributing source and an extension of one word. -/
def extended : List UInt8 :=
  [0x91, 0x8b, 0, 1, 0, 0, 3, 0xc0, 0, 0, 0, 7, 1, 2, 3, 4, 0xbe, 0xde, 0, 1, 5, 5, 5, 5, 8, 9]

/-- The same packet with three octets of padding. -/
def extendedPadded : List UInt8 :=
  (extended ++ [0, 0, 3]).modifyHead (· ||| 0x20)

/-- Cuts in front of the extension's count, within its word, and within the payload; then an octet
more, and the padding read as payload. -/
theorem parse_cut_extended :
    parse extended = .ok (⟨true, linearAudio, 1, 960, 7⟩, [8, 9]) ∧
      parse (extended.take 18) = .error .truncated ∧
      parse (extended.take 23) = .error .truncated ∧
      parse (extended.take 25) = .ok (⟨true, linearAudio, 1, 960, 7⟩, [8]) ∧
      parse (extended ++ [6]) = .ok (⟨true, linearAudio, 1, 960, 7⟩, [8, 9, 6]) ∧
      parse extendedPadded = .ok (⟨true, linearAudio, 1, 960, 7⟩, [8, 9]) ∧
      ∃ stripped, stripped.length = 3 ∧
        parse (clearPadding extendedPadded) =
          .ok (⟨true, linearAudio, 1, 960, 7⟩, [8, 9] ++ stripped) := by
  have hparse : parse extended = .ok (⟨true, linearAudio, 1, 960, 7⟩, [8, 9]) := by decide
  have hpadded : parse extendedPadded = .ok (⟨true, linearAudio, 1, 960, 7⟩, [8, 9]) := by decide
  rcases (parse_cut hparse).2.1 (by decide) with ⟨-, hcut, hmore⟩
  rcases (parse_cut hpadded).2.2 (by decide) with
    ⟨front, stripped, count, hfront, hp, hlast, hlength, -, -, hcleared⟩
  refine ⟨hparse, hcut 18, hcut 23, hcut 25, hmore [6], hpadded, stripped, ?_, hcleared⟩
  -- The last octet of the padding is the last one of the packet.
  have hcount : extendedPadded.getLast? = some count := by
    rw [hp, List.getLast?_append, hlast]
    rfl
  cases hcount
  exact hlength

end Rtp
end PacedRtp
