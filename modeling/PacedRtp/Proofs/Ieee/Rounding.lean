import Mathlib
import PacedRtp.Ieee.Rounding

/-!
# Rounding respects the order

A magnitude pattern `m` stands for `F.unitsAt m` units. Rounding a ratio to a pattern never passes a
pattern on either side: a ratio up to `unitsAt m` is rounded to `m` at most, and one from `unitsAt m`
on to `m` at least. Exactness on the represented values and the order of the patterns follow. Of two
ratios the smaller one is never rounded to the larger pattern.

The bounds hold for patterns of any size; what happens from `infinity` on is not looked at here.
-/

namespace PacedRtp
namespace Ieee

/-! ## Quotients -/

theorem div_le_roundDiv (n d : Nat) : n / d ≤ roundDiv n d := by
  unfold roundDiv
  dsimp only
  split_ifs <;> omega

theorem roundDiv_le_succ (n d : Nat) : roundDiv n d ≤ n / d + 1 := by
  unfold roundDiv
  dsimp only
  split_ifs <;> omega

theorem roundDiv_le {n d m : Nat} (hd : 0 < d) (h : n ≤ m * d) : roundDiv n d ≤ m := by
  have hq : n / d ≤ m := by
    rw [Nat.div_le_iff_le_mul_add_pred hd]
    rw [Nat.mul_comm]
    omega
  rcases Nat.lt_or_eq_of_le hq with hlt | heq
  · exact (roundDiv_le_succ n d).trans hlt
  -- The quotient is as large as it may be, so it leaves no remainder.
  · have hrem : n % d = 0 := by
      have hdiv := Nat.div_add_mod n d
      rw [heq, Nat.mul_comm] at hdiv
      omega
    simp [roundDiv, hrem, heq, hd]

theorem le_roundDiv {n d m : Nat} (hd : 0 < d) (h : m * d ≤ n) : m ≤ roundDiv n d :=
  ((Nat.le_div_iff_mul_le hd).mpr h).trans (div_le_roundDiv n d)

/-- A common factor does not matter. -/
theorem roundDiv_mul_right (n d : Nat) {k : Nat} (hk : 0 < k) :
    roundDiv (n * k) (d * k) = roundDiv n d := by
  -- Quotient, remainder and both comparisons keep or share the factor.
  have hlt : 2 * (n % d * k) < d * k ↔ 2 * (n % d) < d := by
    rw [← Nat.mul_assoc]
    exact Nat.mul_lt_mul_right hk
  have hgt : d * k < 2 * (n % d * k) ↔ d < 2 * (n % d) := by
    rw [← Nat.mul_assoc]
    exact Nat.mul_lt_mul_right hk
  simp only [roundDiv, Nat.mul_div_mul_right _ _ hk, Nat.mul_mod_mul_right, hlt, hgt]

theorem roundDiv_mono_left {n n' : Nat} (d : Nat) (h : n ≤ n') : roundDiv n d ≤ roundDiv n' d := by
  have hquot : n / d ≤ n' / d := Nat.div_le_div_right h
  rcases Nat.lt_or_eq_of_le hquot with hlt | heq
  · calc roundDiv n d ≤ n / d + 1 := roundDiv_le_succ n d
      _ ≤ n' / d := hlt
      _ ≤ roundDiv n' d := div_le_roundDiv n' d
  -- At equal quotients the remainders decide.
  · have hn := Nat.div_add_mod n d
    have hn' := Nat.div_add_mod n' d
    rw [heq] at hn
    have hrem : n % d ≤ n' % d := by omega
    unfold roundDiv
    dsimp only
    rw [heq]
    split_ifs <;> omega

/-- Quotients are rounded in the order in which they stand. -/
theorem roundDiv_mono {n d n' d' : Nat} (hd : 0 < d) (hd' : 0 < d') (h : n * d' ≤ n' * d) :
    roundDiv n d ≤ roundDiv n' d' := by
  rw [← roundDiv_mul_right n d hd', ← roundDiv_mul_right n' d' hd, Nat.mul_comm d' d]
  exact roundDiv_mono_left _ h

namespace Format

variable (F : Format)

/-! ## Dropped places -/

/-- The mantissas of `n` and `d` decide the last place of the quotient's bit length. -/
def fit (n d : Nat) : Nat :=
  if n <<< d.log2 < d <<< n.log2 then 0 else 1

theorem droppedPlaces_eq (n d up down : Nat) :
    F.droppedPlaces n d up down =
      (n.log2 + up + fit n d) - (d.log2 + down + F.precision) :=
  rfl

theorem mul_log2_lt {n d : Nat} (hd : d ≠ 0) :
    n * 2 ^ d.log2 < d * 2 ^ (n.log2 + fit n d) := by
  unfold fit
  split_ifs with h
  · simpa [Nat.shiftLeft_eq] using h
  · calc n * 2 ^ d.log2 < 2 ^ (n.log2 + 1) * 2 ^ d.log2 :=
        Nat.mul_lt_mul_of_pos_right Nat.lt_log2_self (by positivity)
      _ ≤ 2 ^ (n.log2 + 1) * d := Nat.mul_le_mul_left _ (Nat.log2_self_le hd)
      _ = d * 2 ^ (n.log2 + 1) := Nat.mul_comm _ _

theorem le_mul_log2 {n d : Nat} (hn : n ≠ 0) :
    d * 2 ^ (n.log2 + fit n d) ≤ 2 * (n * 2 ^ d.log2) := by
  unfold fit
  split_ifs with h
  · calc d * 2 ^ (n.log2 + 0) ≤ 2 ^ (d.log2 + 1) * 2 ^ n.log2 :=
        Nat.mul_le_mul_right _ Nat.lt_log2_self.le
      _ ≤ 2 ^ (d.log2 + 1) * n := Nat.mul_le_mul_left _ (Nat.log2_self_le hn)
      _ = 2 * (n * 2 ^ d.log2) := by ring
  · simp only [Nat.shiftLeft_eq, not_lt] at h
    calc d * 2 ^ (n.log2 + 1) = 2 * (d * 2 ^ n.log2) := by ring
      _ ≤ 2 * (n * 2 ^ d.log2) := Nat.mul_le_mul_left _ h

/-- The places that are kept hold the quotient. -/
theorem lt_kept {n d : Nat} (hd : d ≠ 0) (up down : Nat) :
    n * 2 ^ up < d * 2 ^ down * 2 ^ (F.droppedPlaces n d up down + F.precision) := by
  -- The bit length of the quotient, by `fit`, less what is dropped fits the precision.
  have hplaces : n.log2 + fit n d + up ≤
      down + (F.droppedPlaces n d up down + F.precision) + d.log2 := by
    rw [droppedPlaces_eq]
    omega
  apply Nat.lt_of_mul_lt_mul_right (a := 2 ^ d.log2)
  calc n * 2 ^ up * 2 ^ d.log2 = n * 2 ^ d.log2 * 2 ^ up := by ring
    _ < d * 2 ^ (n.log2 + fit n d) * 2 ^ up :=
      Nat.mul_lt_mul_of_pos_right (mul_log2_lt hd) (by positivity)
    _ = d * 2 ^ (n.log2 + fit n d + up) := by ring
    _ ≤ d * 2 ^ (down + (F.droppedPlaces n d up down + F.precision) + d.log2) :=
      Nat.mul_le_mul_left _ (Nat.pow_le_pow_right (by decide) hplaces)
    _ = d * 2 ^ down * 2 ^ (F.droppedPlaces n d up down + F.precision) * 2 ^ d.log2 := by ring

/-- No place is dropped in vain. -/
theorem kept_le {n d : Nat} (hn : n ≠ 0) (up down : Nat)
    (hs : 0 < F.droppedPlaces n d up down) :
    d * 2 ^ down * 2 ^ (F.droppedPlaces n d up down + F.precision) ≤ 2 * (n * 2 ^ up) := by
  -- A place is dropped only if the quotient is longer than the precision.
  have hplaces : down + (F.droppedPlaces n d up down + F.precision) + d.log2 =
      n.log2 + fit n d + up := by
    rw [droppedPlaces_eq] at hs ⊢
    omega
  apply Nat.le_of_mul_le_mul_right (c := 2 ^ d.log2) _ (by positivity)
  calc d * 2 ^ down * 2 ^ (F.droppedPlaces n d up down + F.precision) * 2 ^ d.log2
      = d * 2 ^ (down + (F.droppedPlaces n d up down + F.precision) + d.log2) := by ring
    _ = d * 2 ^ (n.log2 + fit n d) * 2 ^ up := by rw [hplaces]; ring
    _ ≤ 2 * (n * 2 ^ d.log2) * 2 ^ up := Nat.mul_le_mul_right _ (le_mul_log2 hn)
    _ = 2 * (n * 2 ^ up) * 2 ^ d.log2 := by ring

/-! ## Patterns -/

theorem round_eq {n : Nat} (hn : n ≠ 0) (d up down : Nat) :
    F.round n d up down =
      F.droppedPlaces n d up down * F.hiddenBit +
        roundDiv (n * 2 ^ up) (d * 2 ^ down * 2 ^ F.droppedPlaces n d up down) := by
  generalize hs : F.droppedPlaces n d up down = s
  simp only [round, if_neg hn, hs]
  congr 1
  -- The shift stands on one side or the other; a common power of two makes both the same quotient.
  split_ifs with hup
  · have hsplit : d * 2 ^ down * 2 ^ s = d <<< (down + s - up) * 2 ^ up := by
      rw [Nat.shiftLeft_eq, Nat.mul_assoc, Nat.mul_assoc, ← Nat.pow_add, ← Nat.pow_add,
        Nat.sub_add_cancel hup]
    rw [hsplit, roundDiv_mul_right _ _ (by positivity)]
  · have hsplit : n * 2 ^ up = n <<< (up - (down + s)) * 2 ^ (down + s) := by
      rw [Nat.shiftLeft_eq, Nat.mul_assoc, ← Nat.pow_add, Nat.sub_add_cancel (by omega)]
    rw [hsplit, Nat.mul_assoc d, ← Nat.pow_add, roundDiv_mul_right _ _ (by positivity)]

/-- The significant bits of a pattern. -/
def significandAt (m : Nat) : Nat :=
  if m < F.hiddenBit then m else m % F.hiddenBit + F.hiddenBit

/-- The places between a pattern's significant bits and the units. -/
def shiftAt (m : Nat) : Nat :=
  m / F.hiddenBit - 1

/-- The value of a pattern, in units. -/
def unitsAt (m : Nat) : Nat :=
  F.significandAt m * 2 ^ F.shiftAt m

theorem two_mul_hiddenBit (hF : 0 < F.precision) : 2 * F.hiddenBit = 2 ^ F.precision := by
  rw [hiddenBit, fractionBits, Nat.one_shiftLeft, ← Nat.pow_succ', Nat.succ_eq_add_one,
    Nat.sub_add_cancel hF]

/-- A pattern is its shift above its significand; this counts the hidden bit as a shift. -/
theorem shiftAt_mul_add (m : Nat) : F.shiftAt m * F.hiddenBit + F.significandAt m = m := by
  have hpos := F.hiddenBit_pos
  unfold shiftAt significandAt
  split_ifs with hlt
  · simp [Nat.div_eq_of_lt hlt]
  -- From the hidden bit on, the shift is one below the exponent field.
  · have hone : 1 ≤ m / F.hiddenBit := Nat.div_pos (Nat.le_of_not_lt hlt) hpos
    calc (m / F.hiddenBit - 1) * F.hiddenBit + (m % F.hiddenBit + F.hiddenBit)
        = ((m / F.hiddenBit - 1) + 1) * F.hiddenBit + m % F.hiddenBit := by ring
      _ = m := by rw [Nat.sub_add_cancel hone, Nat.div_add_mod']

theorem significandAt_lt (m : Nat) : F.significandAt m < 2 * F.hiddenBit := by
  have hpos := F.hiddenBit_pos
  have hmod := Nat.mod_lt m hpos
  unfold significandAt
  split_ifs <;> omega

/-- A shifted significand has its hidden bit. -/
theorem le_significandAt {m : Nat} (h : 0 < F.shiftAt m) : F.hiddenBit ≤ F.significandAt m := by
  have hge : ¬m < F.hiddenBit := by
    intro hlt
    simp [shiftAt, Nat.div_eq_of_lt hlt] at h
  simp [significandAt, hge]

/-! ## Kept places -/

variable {F}

/-- Rounding may fill the precision up to the next place, but no further. -/
theorem kept_le_two_mul (hF : 0 < F.precision) {n d : Nat} (hd : 0 < d) (up down : Nat) :
    roundDiv (n * 2 ^ up) (d * 2 ^ down * 2 ^ F.droppedPlaces n d up down) ≤ 2 * F.hiddenBit := by
  have hlt := F.lt_kept (n := n) hd.ne' up down
  apply roundDiv_le (by positivity)
  rw [F.two_mul_hiddenBit hF]
  calc n * 2 ^ up ≤ d * 2 ^ down * 2 ^ (F.droppedPlaces n d up down + F.precision) := hlt.le
    _ = 2 ^ F.precision * (d * 2 ^ down * 2 ^ F.droppedPlaces n d up down) := by ring

/-- Where a place is dropped, the hidden bit is kept. -/
theorem hiddenBit_le_kept (hF : 0 < F.precision) {n d : Nat} (hn : n ≠ 0) (hd : 0 < d)
    (up down : Nat) (hs : 0 < F.droppedPlaces n d up down) :
    F.hiddenBit ≤ roundDiv (n * 2 ^ up) (d * 2 ^ down * 2 ^ F.droppedPlaces n d up down) := by
  have hle := F.kept_le (d := d) hn up down hs
  apply le_roundDiv (by positivity)
  have htwice : 2 * (F.hiddenBit * (d * 2 ^ down * 2 ^ F.droppedPlaces n d up down)) ≤
      2 * (n * 2 ^ up) := by
    calc 2 * (F.hiddenBit * (d * 2 ^ down * 2 ^ F.droppedPlaces n d up down))
        = 2 * F.hiddenBit * (d * 2 ^ down * 2 ^ F.droppedPlaces n d up down) := by ring
      _ = d * 2 ^ down * 2 ^ (F.droppedPlaces n d up down + F.precision) := by
          rw [F.two_mul_hiddenBit hF]
          ring
      _ ≤ 2 * (n * 2 ^ up) := hle
  omega

/-! ## Bounds -/

/-- A ratio up to the value of a pattern is rounded to that pattern at most. -/
theorem round_le (hF : 0 < F.precision) {n d up down m : Nat} (hd : 0 < d)
    (h : n * 2 ^ up ≤ F.unitsAt m * (d * 2 ^ down)) : F.round n d up down ≤ m := by
  by_cases hn : n = 0
  · simp [round, hn]
  have hbit := F.two_mul_hiddenBit hF
  have hsig := F.significandAt_lt m
  have hm := F.shiftAt_mul_add m
  have hle := F.kept_le (d := d) hn up down
  have hkept := kept_le_two_mul hF (n := n) hd up down
  rw [F.round_eq hn]
  generalize F.droppedPlaces n d up down = s at hle hkept ⊢
  have hscale : 0 < d * 2 ^ down := by positivity
  -- The dropped places stand in the pattern's upper part, so they decide unless they are equal.
  rcases Nat.lt_trichotomy s (F.shiftAt m) with hs | hs | hs
  -- Fewer places are dropped than the pattern has: even a full significand stays below.
  · have hhidden := F.le_significandAt (Nat.zero_lt_of_lt hs)
    have hshift : (s + 1) * F.hiddenBit ≤ F.shiftAt m * F.hiddenBit := Nat.mul_le_mul_right _ hs
    rw [Nat.succ_mul] at hshift
    omega
  -- At equal shifts the significands decide.
  · have hkept : roundDiv (n * 2 ^ up) (d * 2 ^ down * 2 ^ s) ≤ F.significandAt m := by
      apply roundDiv_le (by positivity)
      calc n * 2 ^ up ≤ F.unitsAt m * (d * 2 ^ down) := h
        _ = F.significandAt m * (d * 2 ^ down * 2 ^ s) := by rw [unitsAt, hs]; ring
    rw [hs] at hkept ⊢
    omega
  -- More places are dropped: then the ratio is above the pattern's value.
  · exfalso
    have hup : 2 ^ (s + F.precision) ≤ 2 * F.unitsAt m := by
      apply Nat.le_of_mul_le_mul_left (c := d * 2 ^ down) _ hscale
      calc d * 2 ^ down * 2 ^ (s + F.precision) ≤ 2 * (n * 2 ^ up) := hle (Nat.zero_lt_of_lt hs)
        _ ≤ 2 * (F.unitsAt m * (d * 2 ^ down)) := Nat.mul_le_mul_left _ h
        _ = d * 2 ^ down * (2 * F.unitsAt m) := by ring
    have hdown : 2 * F.unitsAt m < 2 ^ (s + F.precision) := by
      calc 2 * F.unitsAt m < 2 * (2 ^ F.precision * 2 ^ F.shiftAt m) := by
            rw [unitsAt, ← hbit]
            exact Nat.mul_lt_mul_of_pos_left
              (Nat.mul_lt_mul_of_pos_right hsig (by positivity)) (by decide)
        _ = 2 ^ (F.shiftAt m + 1 + F.precision) := by ring
        _ ≤ 2 ^ (s + F.precision) := Nat.pow_le_pow_right (by decide) (by omega)
    omega

/-- A ratio from the value of a pattern on is rounded to that pattern at least. -/
theorem le_round (hF : 0 < F.precision) {n d up down m : Nat} (hd : 0 < d)
    (h : F.unitsAt m * (d * 2 ^ down) ≤ n * 2 ^ up) : m ≤ F.round n d up down := by
  have hbit := F.two_mul_hiddenBit hF
  have hsig := F.significandAt_lt m
  have hm := F.shiftAt_mul_add m
  have hscale : 0 < d * 2 ^ down := by positivity
  by_cases hn : n = 0
  · have hunits : F.unitsAt m = 0 := by
      rw [hn, Nat.zero_mul, Nat.le_zero, Nat.mul_eq_zero] at h
      exact h.resolve_right hscale.ne'
    have hzero : F.significandAt m = 0 :=
      (Nat.mul_eq_zero.mp hunits).resolve_right (by positivity)
    -- A shifted pattern has its hidden bit and is not zero.
    have hshift : F.shiftAt m = 0 := by
      by_contra hne
      have hhidden := F.le_significandAt (Nat.pos_of_ne_zero hne)
      have hpos := F.hiddenBit_pos
      omega
    rw [hshift, hzero] at hm
    omega
  have hlt := F.lt_kept (n := n) hd.ne' up down
  have hhigh := hiddenBit_le_kept hF hn hd up down
  rw [F.round_eq hn]
  generalize F.droppedPlaces n d up down = s at hlt hhigh ⊢
  rcases Nat.lt_trichotomy s (F.shiftAt m) with hs | hs | hs
  -- Fewer places are dropped than the pattern has: then the ratio is below its value.
  · exfalso
    have hhidden := F.le_significandAt (Nat.zero_lt_of_lt hs)
    have hup : F.unitsAt m < 2 ^ (s + F.precision) := by
      apply Nat.lt_of_mul_lt_mul_left (a := d * 2 ^ down)
      calc d * 2 ^ down * F.unitsAt m = F.unitsAt m * (d * 2 ^ down) := Nat.mul_comm _ _
        _ ≤ n * 2 ^ up := h
        _ < d * 2 ^ down * 2 ^ (s + F.precision) := hlt
    have hdown : 2 ^ (s + F.precision) ≤ F.unitsAt m := by
      calc 2 ^ (s + F.precision) = 2 * F.hiddenBit * 2 ^ s := by rw [hbit]; ring
        _ = F.hiddenBit * 2 ^ (s + 1) := by ring
        _ ≤ F.significandAt m * 2 ^ F.shiftAt m :=
          Nat.mul_le_mul hhidden (Nat.pow_le_pow_right (by decide) hs)
    omega
  -- At equal shifts the significands decide.
  · have hkept : F.significandAt m ≤ roundDiv (n * 2 ^ up) (d * 2 ^ down * 2 ^ s) := by
      apply le_roundDiv (by positivity)
      calc F.significandAt m * (d * 2 ^ down * 2 ^ s) = F.unitsAt m * (d * 2 ^ down) := by
            rw [unitsAt, hs]
            ring
        _ ≤ n * 2 ^ up := h
    rw [hs] at hkept ⊢
    omega
  -- More places are dropped: even the hidden bit alone lies above.
  · have hkept := hhigh (Nat.zero_lt_of_lt hs)
    have hshift : (F.shiftAt m + 1) * F.hiddenBit ≤ s * F.hiddenBit := Nat.mul_le_mul_right _ hs
    rw [Nat.succ_mul] at hshift
    omega

/-- Represented values are rounded to themselves. -/
theorem round_unitsAt (hF : 0 < F.precision) (m : Nat) : F.round (F.unitsAt m) 1 0 0 = m :=
  Nat.le_antisymm (round_le hF Nat.one_pos (by simp)) (le_round hF Nat.one_pos (by simp))

/-- Patterns are ordered like their values. -/
theorem unitsAt_le_unitsAt (hF : 0 < F.precision) {m m' : Nat} (h : m ≤ m') :
    F.unitsAt m ≤ F.unitsAt m' := by
  by_contra hlt
  -- Otherwise the larger pattern would be rounded to the smaller one.
  have hle : F.round (F.unitsAt m') 1 0 0 ≤ m := round_le hF Nat.one_pos (by simp; omega)
  rw [round_unitsAt hF] at hle
  exact hlt (by rw [Nat.le_antisymm h hle])

/-! ## Order of ratios -/

/-- Of two ratios the smaller one is rounded to the smaller pattern. -/
theorem round_mono (hF : 0 < F.precision) {n d up down n' d' up' down' : Nat} (hd : 0 < d)
    (hd' : 0 < d') (h : n * 2 ^ up * (d' * 2 ^ down') ≤ n' * 2 ^ up' * (d * 2 ^ down)) :
    F.round n d up down ≤ F.round n' d' up' down' := by
  by_cases hn : n = 0
  · simp [round, hn]
  have hn' : n' ≠ 0 := by
    rintro rfl
    have hpos : 0 < n * 2 ^ up * (d' * 2 ^ down') := by positivity
    omega
  have hle := F.kept_le (d := d) hn up down
  have hkept := kept_le_two_mul hF (n := n) hd up down
  have hlt' := F.lt_kept (n := n') hd'.ne' up' down'
  have hkept' := hiddenBit_le_kept hF hn' hd' up' down'
  rw [F.round_eq hn, F.round_eq hn']
  generalize F.droppedPlaces n d up down = s at hle hkept ⊢
  generalize F.droppedPlaces n' d' up' down' = s' at hlt' hkept' ⊢
  rcases Nat.lt_trichotomy s s' with hs | hs | hs
  -- Fewer places are dropped of the smaller ratio: a full significand there is the hidden bit here.
  · have hhigh := hkept' (Nat.zero_lt_of_lt hs)
    have hshift : (s + 1) * F.hiddenBit ≤ s' * F.hiddenBit := Nat.mul_le_mul_right _ hs
    rw [Nat.succ_mul] at hshift
    omega
  -- At equal places the quotients are in the order of the ratios.
  · subst hs
    have hquot : n * 2 ^ up * (d' * 2 ^ down' * 2 ^ s) ≤ n' * 2 ^ up' * (d * 2 ^ down * 2 ^ s) := by
      calc n * 2 ^ up * (d' * 2 ^ down' * 2 ^ s) = n * 2 ^ up * (d' * 2 ^ down') * 2 ^ s := by ring
        _ ≤ n' * 2 ^ up' * (d * 2 ^ down) * 2 ^ s := Nat.mul_le_mul_right _ h
        _ = n' * 2 ^ up' * (d * 2 ^ down * 2 ^ s) := by ring
    exact Nat.add_le_add_left (roundDiv_mono (by positivity) (by positivity) hquot) _
  -- More places cannot be dropped of the smaller ratio.
  · exfalso
    have hhigh := hle (Nat.zero_lt_of_lt hs)
    have hpow : 2 * 2 ^ (s' + F.precision) ≤ 2 ^ (s + F.precision) := by
      rw [← Nat.pow_succ']
      exact Nat.pow_le_pow_right (by decide) (by omega)
    have htwice : 2 * (n * 2 ^ up * (d' * 2 ^ down')) < 2 * (n * 2 ^ up * (d' * 2 ^ down')) := by
      calc 2 * (n * 2 ^ up * (d' * 2 ^ down'))
          ≤ 2 * (n' * 2 ^ up' * (d * 2 ^ down)) := Nat.mul_le_mul_left _ h
        _ < 2 * (d' * 2 ^ down' * 2 ^ (s' + F.precision) * (d * 2 ^ down)) :=
          Nat.mul_lt_mul_of_pos_left (Nat.mul_lt_mul_of_pos_right hlt' (by positivity)) (by decide)
        _ = d * 2 ^ down * (2 * 2 ^ (s' + F.precision)) * (d' * 2 ^ down') := by ring
        _ ≤ d * 2 ^ down * 2 ^ (s + F.precision) * (d' * 2 ^ down') :=
          Nat.mul_le_mul_right _ (Nat.mul_le_mul_left _ hpow)
        _ ≤ 2 * (n * 2 ^ up) * (d' * 2 ^ down') := Nat.mul_le_mul_right _ hhigh
        _ = 2 * (n * 2 ^ up * (d' * 2 ^ down')) := Nat.mul_assoc _ _ _
    exact Nat.lt_irrefl _ htwice

end Format
end Ieee
end PacedRtp
