import Mathlib
import PacedRtp.Text.Ssrc
import PacedRtp.Proofs.Text.Numeral

/-!
# The notations of a source identifier

`Written cs n` says which texts stand for the number `n`: a hexadecimal numeral behind a marker, or a
decimal numeral. A text has the marker or has it not, so it is read in one way only, and the reader
accepts exactly the notations of the numbers of 32 bits.

Which of its reasons the reader gives for a text that it refuses is not said here.
-/

namespace PacedRtp
namespace Text
namespace Ssrc

/-! ## Notations -/

/-- Behind a zero: hexadecimal digits follow. -/
def IsMarker (x : Char) : Prop :=
  x = 'x' ∨ x = 'X'

inductive Written : List Char → Nat → Prop where
  | hexadecimal {x : Char} {cs : List Char} {n : Nat} :
      IsMarker x → Numeral 16 cs n → Written ('0' :: x :: cs) n
  | decimal {cs : List Char} {n : Nat} :
      (∀ x rest, cs = '0' :: x :: rest → ¬IsMarker x) → Numeral 10 cs n → Written cs n

section Readings

variable {x : Char} {cs : List Char} {n : Nat}

theorem written_marked_iff (h : IsMarker x) : Written ('0' :: x :: cs) n ↔ Numeral 16 cs n := by
  constructor
  · rintro (⟨-, hn⟩ | ⟨hno, -⟩)
    · exact hn
    · exact absurd h (hno _ _ rfl)
  · exact .hexadecimal h

theorem written_unmarked_iff (h : ∀ x rest, cs = '0' :: x :: rest → ¬IsMarker x) :
    Written cs n ↔ Numeral 10 cs n := by
  constructor
  · rintro (⟨hmarker, -⟩ | ⟨-, hn⟩)
    · exact absurd hmarker (h _ _ rfl)
    · exact hn
  · exact .decimal h

theorem readChars_eq_ok_iff : readChars cs = .ok n ↔ Written cs n ∧ n ≤ largest := by
  unfold readChars
  split
  · rw [written_marked_iff (.inl rfl), readNat_eq_ok_iff (Nat.le_refl 16)]
  · rw [written_marked_iff (.inr rfl), readNat_eq_ok_iff (Nat.le_refl 16)]
  · rename_i hsmall hcapital
    have hno : ∀ x rest, cs = '0' :: x :: rest → ¬IsMarker x := by
      rintro _ rest rfl (rfl | rfl)
      · exact hsmall rest rfl
      · exact hcapital rest rfl
    rw [written_unmarked_iff hno, readNat_eq_ok_iff (by decide)]

/-- A marker is no decimal digit, so a decimal numeral never has one. -/
theorem not_isMarker_of_numeral (h : Numeral 10 ('0' :: x :: cs) n) : ¬IsMarker x := by
  have hplus : ∀ rest, '0' :: x :: cs ≠ '+' :: rest := by simp
  rw [numeral_unsigned_iff hplus, digits_cons_iff] at h
  rcases h with ⟨-, -, m, -, hrest, -⟩
  rcases digits_cons_iff.mp hrest with ⟨v, -, hv, -⟩
  rintro (rfl | rfl)
  · exact not_isDigit (by decide) (by decide) v hv
  · exact not_isDigit (by decide) (by decide) v hv

theorem written_of_numeral (h : Numeral 10 cs n) : Written cs n := by
  refine .decimal ?_ h
  rintro x rest rfl
  exact not_isMarker_of_numeral h

end Readings

/-! ## Reading -/

theorem parse_eq_ok_iff (s : String) (v : UInt32) :
    parse s = .ok v ↔ Written s.toList v.toNat := by
  have hchars : parse s = .ok v ↔ readChars s.toList = .ok v.toNat := by
    unfold parse
    split
    · rename_i n hn
      -- What was read fits into the word and is not cut.
      have hlt : n < UInt32.size := Nat.lt_succ_of_le (readChars_eq_ok_iff.mp hn).2
      rw [hn, Except.ok.injEq, Except.ok.injEq, ← UInt32.toNat_inj, UInt32.toNat_ofNat_of_lt' hlt]
    · rename_i cause hcause
      simp [hcause]
  have hle : v.toNat ≤ largest := Nat.le_pred_of_lt v.toNat_lt
  rw [hchars, readChars_eq_ok_iff, and_iff_left hle]

theorem exists_error_iff (s : String) :
    (∃ cause, parse s = .error ⟨s, cause⟩) ↔ ¬∃ n < UInt32.size, Written s.toList n := by
  constructor
  · rintro ⟨cause, herror⟩ ⟨n, hn, hwritten⟩
    have hok : parse s = .ok (.ofNat n) := by
      rwa [parse_eq_ok_iff, UInt32.toNat_ofNat_of_lt' hn]
    rw [herror] at hok
    cases hok
  · intro hno
    unfold parse
    split
    · rename_i n hn
      rcases readChars_eq_ok_iff.mp hn with ⟨hwritten, hle⟩
      exact absurd ⟨n, Nat.lt_succ_of_le hle, hwritten⟩ hno
    · exact ⟨_, rfl⟩

theorem written_toString (v : UInt32) : Written (toString v).toList v.toNat := by
  have htext : (toString v).toList = Nat.toDigits 10 v.toNat := by
    change v.toNat.repr.toList = _
    rw [Nat.repr_eq_ofList_toDigits, String.toList_ofList]
  rw [htext]
  exact written_of_numeral (numeral_toDigits (by decide) (by decide) _)

/-- A hexadecimal numeral behind either marker. -/
theorem written_marker_append {marker : String} (h : marker ∈ ["0x", "0X"]) {cs : List Char}
    {n : Nat} (hn : Numeral 16 cs n) : Written (marker ++ String.ofList cs).toList n := by
  rw [String.toList_append, String.toList_ofList]
  simp only [List.mem_cons, List.not_mem_nil, or_false] at h
  rcases h with rfl | rfl
  · exact .hexadecimal (.inl rfl) hn
  · exact .hexadecimal (.inr rfl) hn

/-- The reader accepts exactly the notations of the numbers of 32 bits, among them the decimal text
of every such number and its hexadecimal text in either case. -/
theorem parse_accepts_notations :
    (∀ s v, parse s = .ok v ↔ Written s.toList v.toNat) ∧
    (∀ s, (∃ cause, parse s = .error ⟨s, cause⟩) ↔ ¬∃ n < UInt32.size, Written s.toList n) ∧
    ∀ v : UInt32, parse (toString v) = .ok v ∧
      ∀ marker ∈ ["0x", "0X"],
        parse (marker ++ String.ofList (Nat.toDigits 16 v.toNat)) = .ok v ∧
        parse (marker ++ String.ofList ((Nat.toDigits 16 v.toNat).map Char.toUpper)) = .ok v := by
  refine ⟨parse_eq_ok_iff, exists_error_iff, fun v => ⟨?_, fun marker hmarker => ⟨?_, ?_⟩⟩⟩
  · exact (parse_eq_ok_iff _ _).mpr (written_toString v)
  · rw [parse_eq_ok_iff]
    exact written_marker_append hmarker (numeral_toDigits (by decide) (by decide) _)
  · rw [parse_eq_ok_iff]
    exact written_marker_append hmarker (numeral_toDigits_toUpper (by decide) (by decide) _)

example : parse "0x+00fF" = .ok 255 := by decide

example : parse "4294967296" = .error ⟨"4294967296", .tooLarge⟩ := by decide

end Ssrc
end Text
end PacedRtp
