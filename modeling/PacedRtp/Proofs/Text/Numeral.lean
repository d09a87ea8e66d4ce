import Mathlib
import PacedRtp.Text.Numeral

/-!
# Numerals and their values

`Digits radix cs n` says that the characters `cs` are digits of the radix with the positional value
`n`; a `Numeral` is one digit or more, behind at most one plus sign. Both are said without the
reader: a digit is a place in a row of sixteen characters, and the value is that of `Nat.ofDigits`.

`readNat` accepts exactly the numerals whose value is at most the bound. It looks at the bound after
every digit; that comes to the same as one look at the end because the value only grows.

Which error a text that is no such numeral meets is not said here, and neither is anything about
negative numbers.
-/

namespace PacedRtp
namespace Text

/-! ## Digits -/

/-- The digits in the order of their values. -/
def digitRow : List Char :=
  ['0', '1', '2', '3', '4', '5', '6', '7', '8', '9', 'a', 'b', 'c', 'd', 'e', 'f']

def capitalRow : List Char :=
  ['0', '1', '2', '3', '4', '5', '6', '7', '8', '9', 'A', 'B', 'C', 'D', 'E', 'F']

/-- The digit of value `v`, in either case. -/
def IsDigit (radix : Nat) (c : Char) (v : Nat) : Prop :=
  v < radix ∧ (digitRow[v]? = some c ∨ capitalRow[v]? = some c)

theorem code_digitRow :
    ∀ v < 16, (digitRow[v]?).map Char.toNat = some (if v < 10 then 48 + v else 87 + v) := by
  decide

theorem code_capitalRow :
    ∀ v < 16, (capitalRow[v]?).map Char.toNat = some (if v < 10 then 48 + v else 55 + v) := by
  decide

section Digits

variable {radix v : Nat} {c : Char}

/-- A character stands in a row where its code stands in the row of codes. -/
theorem getElem?_eq_some_iff_code (row : List Char) (v : Nat) (c : Char) :
    row[v]? = some c ↔ (row[v]?).map Char.toNat = some c.toNat := by
  rw [← Option.map_some]
  exact (Option.map_injective fun _ _ => Char.toNat_inj.mp).eq_iff.symm

theorem isDigit_iff_code (hradix : radix ≤ 16) :
    IsDigit radix c v ↔ v < radix ∧
      (c.toNat = (if v < 10 then 48 + v else 87 + v) ∨
        c.toNat = if v < 10 then 48 + v else 55 + v) := by
  refine and_congr_right fun hv => ?_
  have hv16 : v < 16 := by omega
  rw [getElem?_eq_some_iff_code, code_digitRow v hv16, getElem?_eq_some_iff_code,
    code_capitalRow v hv16, Option.some.injEq, Option.some.injEq, eq_comm,
    eq_comm (b := c.toNat)]

/-- What is read off a character is the value of a digit, and every digit's value is read. -/
theorem digitValue?_eq_some_iff (hradix : radix ≤ 16) :
    digitValue? radix c = some v ↔ IsDigit radix c v := by
  have hle (lo : Char) : lo ≤ c ↔ lo.toNat ≤ c.toNat := Char.le_def
  have hge (hi : Char) : c ≤ hi ↔ c.toNat ≤ hi.toNat := Char.le_def
  simp only [isDigit_iff_code hradix, digitValue?, hle, hge, Char.reduceToNat]
  split_ifs <;> simp only [Option.some.injEq, false_iff] <;> omega

theorem not_isDigit (hradix : radix ≤ 16) (h : digitValue? radix c = none) (v : Nat) :
    ¬IsDigit radix c v := by
  rw [← digitValue?_eq_some_iff hradix, h]
  exact nofun

end Digits

/-! ## Values -/

/-- Digits of the radix, first the most significant one, and the number that they denote. -/
def Digits (radix : Nat) (cs : List Char) (n : Nat) : Prop :=
  ∃ vs, List.Forall₂ (IsDigit radix) cs vs ∧ n = Nat.ofDigits radix vs.reverse

/-- One digit or more, behind at most one plus sign. -/
inductive Numeral (radix : Nat) : List Char → Nat → Prop where
  | unsigned {cs : List Char} {n : Nat} : cs ≠ [] → Digits radix cs n → Numeral radix cs n
  | plus {cs : List Char} {n : Nat} : cs ≠ [] → Digits radix cs n → Numeral radix ('+' :: cs) n

section Values

variable {radix most n m v : Nat} {c : Char} {cs : List Char}

theorem digits_nil_iff : Digits radix [] n ↔ n = 0 := by
  simp [Digits]

/-- The first digit weighs as much as there are numbers of the digits behind it. -/
theorem digits_cons_iff :
    Digits radix (c :: cs) n ↔
      ∃ v m, IsDigit radix c v ∧ Digits radix cs m ∧ n = v * radix ^ cs.length + m := by
  constructor
  · rintro ⟨_ | ⟨v, vs⟩, hdigits, rfl⟩
    · cases hdigits
    · rw [List.forall₂_cons] at hdigits
      refine ⟨v, _, hdigits.1, ⟨vs, hdigits.2, rfl⟩, ?_⟩
      rw [Nat.ofDigits_reverse_cons, hdigits.2.length_eq, Nat.mul_comm, Nat.add_comm]
  · rintro ⟨v, _, hv, ⟨vs, hvs, rfl⟩, rfl⟩
    refine ⟨v :: vs, .cons hv hvs, ?_⟩
    rw [Nat.ofDigits_reverse_cons, hvs.length_eq, Nat.mul_comm, Nat.add_comm]

theorem Digits.append_digit (h : Digits radix cs n) (hc : IsDigit radix c v) :
    Digits radix (cs ++ [c]) (n * radix + v) := by
  rcases h with ⟨vs, hvs, rfl⟩
  refine ⟨vs ++ [v], List.rel_append hvs (.cons hc .nil), ?_⟩
  rw [List.reverse_append, List.reverse_singleton, List.singleton_append, Nat.ofDigits_cons,
    Nat.mul_comm, Nat.add_comm]

/-- Digits behind a number `n` that was read already continue it. The bound holds on the way if it
holds in the end. -/
theorem readDigits_eq_ok_iff (hradix : radix ≤ 16) (hn : n ≤ most) :
    readDigits radix most n cs = .ok m ↔
      ∃ k, Digits radix cs k ∧ m = n * radix ^ cs.length + k ∧ m ≤ most := by
  induction cs generalizing n with
  | nil =>
    simp only [readDigits, Except.ok.injEq, digits_nil_iff, exists_eq_left, List.length_nil,
      pow_zero, Nat.mul_one, Nat.add_zero]
    omega
  | cons c cs ih =>
    -- What the whole text denotes, by what the first character and the others denote.
    have hsplit (v k : Nat) : n * radix ^ (cs.length + 1) + (v * radix ^ cs.length + k) =
        (n * radix + v) * radix ^ cs.length + k := by ring
    cases hvalue : digitValue? radix c with
    | none =>
      simp [readDigits, hvalue, digits_cons_iff, not_isDigit hradix hvalue]
    | some v =>
      have hdigit (w : Nat) : IsDigit radix c w ↔ v = w := by
        rw [← digitValue?_eq_some_iff hradix, hvalue, Option.some.injEq]
      have hradix_pos : 0 < radix := Nat.zero_lt_of_lt ((hdigit v).mpr rfl).1
      simp only [digits_cons_iff, hdigit]
      by_cases hle : n * radix + v ≤ most
      · simp only [readDigits, hvalue, if_pos hle, ih hle]
        constructor
        · rintro ⟨k, hk, rfl, hmost⟩
          exact ⟨_, ⟨v, k, rfl, hk, rfl⟩, (hsplit v k).symm, hmost⟩
        · rintro ⟨_, ⟨_, k, rfl, hk, rfl⟩, rfl, hmost⟩
          rw [List.length_cons, hsplit] at hmost ⊢
          exact ⟨k, hk, rfl, hmost⟩
      -- Past the bound there is no way back: further digits only add to the number.
      · simp only [readDigits, hvalue, if_neg hle, reduceCtorEq, false_iff]
        rintro ⟨_, ⟨_, k, rfl, hk, rfl⟩, rfl, hmost⟩
        rw [List.length_cons, hsplit] at hmost
        have hgrow : n * radix + v ≤ (n * radix + v) * radix ^ cs.length :=
          Nat.le_mul_of_pos_right _ (Nat.pow_pos hradix_pos)
        omega

theorem not_digits_plus (hradix : radix ≤ 16) : ¬Digits radix ('+' :: cs) n := by
  rw [digits_cons_iff]
  rintro ⟨v, _, hv, -⟩
  exact not_isDigit hradix (by simp [digitValue?]) v hv

theorem numeral_plus_iff (hradix : radix ≤ 16) :
    Numeral radix ('+' :: cs) n ↔ cs ≠ [] ∧ Digits radix cs n := by
  constructor
  · rintro (⟨-, hdigits⟩ | ⟨hne, hdigits⟩)
    · exact absurd hdigits (not_digits_plus hradix)
    · exact ⟨hne, hdigits⟩
  · rintro ⟨hne, hdigits⟩
    exact .plus hne hdigits

theorem numeral_unsigned_iff (hplus : ∀ rest, cs ≠ '+' :: rest) :
    Numeral radix cs n ↔ cs ≠ [] ∧ Digits radix cs n := by
  constructor
  · rintro (⟨hne, hdigits⟩ | ⟨-, -⟩)
    · exact ⟨hne, hdigits⟩
    · exact absurd rfl (hplus _)
  · rintro ⟨hne, hdigits⟩
    exact .unsigned hne hdigits

/-- The texts that are read as numbers up to the bound are the numerals of such numbers. -/
theorem readNat_eq_ok_iff (hradix : radix ≤ 16) :
    readNat radix most cs = .ok n ↔ Numeral radix cs n ∧ n ≤ most := by
  have hread (cs : List Char) :
      readDigits radix most 0 cs = .ok n ↔ Digits radix cs n ∧ n ≤ most := by
    simp [readDigits_eq_ok_iff hradix (Nat.zero_le most)]
  unfold readNat
  split
  · simp [numeral_unsigned_iff]
  · simp [numeral_plus_iff hradix]
  · rename_i cs hne
    rw [hread, numeral_plus_iff hradix, and_iff_right hne]
  · rename_i hempty _ hplus
    rw [hread, numeral_unsigned_iff fun rest h => hplus rest h, and_iff_right hempty]

end Values

/-! ## Written numbers -/

section Written

variable {radix n v : Nat} {c : Char} {cs : List Char}

theorem isDigit_digitChar (hradix : radix ≤ 16) (hv : v < radix) :
    IsDigit radix v.digitChar v := by
  have hrow : ∀ v < 16, digitRow[v]? = some v.digitChar := by decide
  exact ⟨hv, .inl (hrow v (hv.trans_le hradix))⟩

theorem IsDigit.toUpper (hradix : radix ≤ 16) (h : IsDigit radix c v) :
    IsDigit radix c.toUpper v := by
  have hsmall : ∀ v < 16, (digitRow[v]?).map Char.toUpper = capitalRow[v]? := by decide
  have hcapital : ∀ v < 16, (capitalRow[v]?).map Char.toUpper = capitalRow[v]? := by decide
  have hv16 := h.1.trans_le hradix
  refine ⟨h.1, .inr ?_⟩
  rcases h.2 with hrow | hrow
  · rw [← hsmall v hv16, hrow, Option.map_some]
  · rw [← hcapital v hv16, hrow, Option.map_some]

theorem Digits.toUpper (hradix : radix ≤ 16) (h : Digits radix cs n) :
    Digits radix (cs.map Char.toUpper) n := by
  rcases h with ⟨vs, hvs, rfl⟩
  refine ⟨vs, ?_, rfl⟩
  rw [List.forall₂_map_left_iff]
  exact hvs.imp fun _ _ hdigit => hdigit.toUpper hradix

/-- A number is denoted by its digits in the usual notation. -/
theorem digits_toDigits (hone : 1 < radix) (hradix : radix ≤ 16) (n : Nat) :
    Digits radix (Nat.toDigits radix n) n := by
  induction n using Nat.strong_induction_on with
  | h n ih =>
    by_cases hn : n < radix
    · rw [Nat.toDigits_of_lt_base hn, digits_cons_iff]
      exact ⟨n, 0, isDigit_digitChar hradix hn, digits_nil_iff.mpr rfl, by simp⟩
    · have hle := Nat.le_of_not_lt hn
      have hlt : n / radix < n := Nat.div_lt_self (by omega) hone
      have hlast := isDigit_digitChar hradix (Nat.mod_lt n (by omega))
      have h := (ih _ hlt).append_digit hlast
      rwa [Nat.div_add_mod', ← Nat.toDigits_of_base_le hone hle] at h

theorem numeral_toDigits (hone : 1 < radix) (hradix : radix ≤ 16) (n : Nat) :
    Numeral radix (Nat.toDigits radix n) n :=
  .unsigned Nat.toDigits_ne_nil (digits_toDigits hone hradix n)

theorem numeral_toDigits_toUpper (hone : 1 < radix) (hradix : radix ≤ 16) (n : Nat) :
    Numeral radix ((Nat.toDigits radix n).map Char.toUpper) n := by
  refine .unsigned ?_ ((digits_toDigits hone hradix n).toUpper hradix)
  rw [Ne, List.map_eq_nil_iff]
  exact Nat.toDigits_ne_nil

end Written

end Text
end PacedRtp
