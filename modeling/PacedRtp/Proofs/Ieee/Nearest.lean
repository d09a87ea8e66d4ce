import Mathlib
import PacedRtp.Proofs.Ieee.Order

/-!
# How far rounding goes

A rounded quotient lies within half a unit of the exact one, and a pattern within half of the place
that was dropped last. What a format can hold is not changed at all: naturals up to two to the
precision, products with one, quotients by one, and quotients that come to such a natural.

`WithinHalf u n d gap` is the form of all these bounds. Overflow is left out: the results are taken
to be finite, or bounded by a pattern below infinity.
-/

namespace PacedRtp
namespace Ieee

/-! ## Quotients -/

/-- `u` lies within half of `gap` of `n / d`. -/
structure WithinHalf (u n d gap : Nat) : Prop where
  upper : 2 * (u * d) ≤ 2 * n + gap * d
  lower : 2 * n ≤ 2 * (u * d) + gap * d

theorem WithinHalf.cancel {u n d gap c : Nat} (hc : 0 < c)
    (h : WithinHalf u (n * c) (d * c) gap) : WithinHalf u n d gap where
  upper := by
    apply Nat.le_of_mul_le_mul_right (c := c) _ hc
    calc 2 * (u * d) * c = 2 * (u * (d * c)) := by ring
      _ ≤ 2 * (n * c) + gap * (d * c) := h.upper
      _ = (2 * n + gap * d) * c := by ring
  lower := by
    apply Nat.le_of_mul_le_mul_right (c := c) _ hc
    calc 2 * n * c = 2 * (n * c) := by ring
      _ ≤ 2 * (u * (d * c)) + gap * (d * c) := h.lower
      _ = (2 * (u * d) + gap * d) * c := by ring

theorem WithinHalf.mono {u n d gap gap' : Nat} (h : WithinHalf u n d gap) (hgap : gap ≤ gap') :
    WithinHalf u n d gap' := by
  have hmul : gap * d ≤ gap' * d := Nat.mul_le_mul_right d hgap
  exact ⟨h.upper.trans (Nat.add_le_add_left hmul _), h.lower.trans (Nat.add_le_add_left hmul _)⟩

theorem roundDiv_withinHalf {n d : Nat} (hd : 0 < d) : WithinHalf (roundDiv n d) n d 1 := by
  have hn := Nat.div_add_mod' n d
  have hr := Nat.mod_lt n hd
  unfold roundDiv
  dsimp only
  generalize n / d = q at *
  generalize n % d = r at *
  split_ifs with hdown hup
  · constructor <;> omega
  · have hsucc : (q + 1) * d = q * d + d := Nat.succ_mul q d
    constructor <;> omega
  -- Halfway between two naturals the even one is taken; both are half a unit away.
  · have hsucc : (q + 1) * d = q * d + d := Nat.succ_mul q d
    rcases Nat.mod_two_eq_zero_or_one q with hq | hq <;> rw [hq]
    · constructor <;> rw [Nat.add_zero] <;> omega
    · constructor <;> omega

theorem roundDiv_mul_self (m : Nat) {d : Nat} (hd : 0 < d) : roundDiv (m * d) d = m :=
  Nat.le_antisymm (roundDiv_le hd le_rfl) (le_roundDiv hd le_rfl)

/-- The natural that lies nearer than half a unit is the rounded quotient. -/
theorem roundDiv_eq_of_lt {n d m : Nat} (hd : 0 < d) (hlow : 2 * (m * d) < 2 * n + d)
    (hhigh : 2 * n < 2 * (m * d) + d) : roundDiv n d = m := by
  have hnear := roundDiv_withinHalf (n := n) hd
  have hupper := hnear.upper
  have hlower := hnear.lower
  generalize roundDiv n d = q at *
  apply Nat.le_antisymm
  · by_contra hlt
    have hmul : (m + 1) * d ≤ q * d := Nat.mul_le_mul_right d (Nat.lt_of_not_le hlt)
    rw [Nat.succ_mul] at hmul
    omega
  · by_contra hlt
    have hmul : (q + 1) * d ≤ m * d := Nat.mul_le_mul_right d (Nat.lt_of_not_le hlt)
    rw [Nat.succ_mul] at hmul
    omega

/-- From halfway below an even natural on, quotients are rounded up to it. -/
theorem le_roundDiv_of_even {n d m : Nat} (hd : 0 < d) (hm : m % 2 = 0)
    (h : 2 * (m * d) ≤ 2 * n + d) : m ≤ roundDiv n d := by
  by_contra hlt
  have hnear := roundDiv_withinHalf (n := n) hd
  have hlower := hnear.lower
  have hmul : (roundDiv n d + 1) * d ≤ m * d := Nat.mul_le_mul_right d (Nat.lt_of_not_le hlt)
  rw [Nat.succ_mul] at hmul
  -- Nothing but the exact half is left, and there the even natural is taken.
  have hhalf : 2 * n = 2 * (roundDiv n d * d) + d := by omega
  have hsucc : m = roundDiv n d + 1 := by
    have hle : m * d ≤ (roundDiv n d + 1) * d := by
      rw [Nat.succ_mul]
      omega
    exact Nat.le_antisymm (Nat.le_of_mul_le_mul_right hle hd) (Nat.lt_of_not_le hlt)
  have hq : n / d = roundDiv n d := by
    apply Nat.div_eq_of_lt_le
    · omega
    · rw [Nat.succ_mul]
      omega
  have hr := Nat.div_add_mod' n d
  rw [hq] at hr
  have heven : roundDiv n d = n / d + n / d % 2 := by
    unfold roundDiv
    dsimp only
    rw [if_neg (by omega), if_neg (by omega)]
  omega

namespace Format

variable {F : Format}

/-! ## Patterns -/

/-- A significand with its shift above it, up to a full one that carries. -/
theorem unitsAt_shifted {s significand : Nat} (hs : s = 0 ∨ F.hiddenBit ≤ significand)
    (hsig : significand ≤ 2 * F.hiddenBit) :
    F.unitsAt (s * F.hiddenBit + significand) = significand * 2 ^ s := by
  have hpos := F.hiddenBit_pos
  rcases Nat.lt_or_ge significand F.hiddenBit with hlt | hge
  -- Without the hidden bit nothing is shifted.
  · have hzero : s = 0 := hs.resolve_right (Nat.not_le_of_lt hlt)
    rw [hzero, Nat.zero_mul, Nat.zero_add, unitsAt, significandAt, if_pos hlt, shiftAt,
      Nat.div_eq_of_lt hlt]
  have hnormal : ¬s * F.hiddenBit + significand < F.hiddenBit := by omega
  rcases Nat.lt_or_eq_of_le hsig with hlt | heq
  · have hpattern : s * F.hiddenBit + significand =
        (significand - F.hiddenBit) + (s + 1) * F.hiddenBit := by
      rw [Nat.succ_mul]
      omega
    have hrest : significand - F.hiddenBit < F.hiddenBit := by omega
    rw [unitsAt, significandAt, shiftAt, if_neg hnormal, hpattern,
      Nat.add_mul_mod_self_right, Nat.mod_eq_of_lt hrest, Nat.add_mul_div_right _ _ hpos,
      Nat.div_eq_of_lt hrest, Nat.zero_add, Nat.add_sub_cancel, Nat.sub_add_cancel hge]
  · have hpattern : s * F.hiddenBit + significand = (s + 2) * F.hiddenBit := by
      rw [heq]
      ring
    rw [unitsAt, significandAt, shiftAt, if_neg hnormal, hpattern, Nat.mul_mod_left,
      Nat.mul_div_cancel _ hpos, Nat.zero_add, heq, Nat.add_succ_sub_one, pow_succ]
    ring

theorem unitsAt_le_iff (hF : 0 < F.precision) {m m' : Nat} :
    F.unitsAt m ≤ F.unitsAt m' ↔ m ≤ m' := by
  refine ⟨fun h => ?_, unitsAt_le_unitsAt hF⟩
  have hround : F.round (F.unitsAt m) 1 0 0 ≤ F.round (F.unitsAt m') 1 0 0 :=
    round_mono hF Nat.one_pos Nat.one_pos (by simpa using h)
  rwa [round_unitsAt hF, round_unitsAt hF] at hround

/-- A power of two is a full significand with its carry. -/
theorem powerAt_eq_carry (hF : F.Proper) {k : Nat} (hk : F.precision ≤ k) :
    F.powerAt k = (k + F.unitExponent - F.precision + 2) * F.hiddenBit := by
  have hp := hF.precision_pos
  have he : 2 ≤ 2 ^ (F.exponentBits - 1) :=
    Nat.le_self_pow (Nat.sub_ne_zero_of_lt hF.one_lt_exponentBits) 2
  rw [powerAt, unitExponent, Nat.one_shiftLeft, fractionBits]
  congr 1
  omega

section Rounding

variable {n d up down : Nat}

theorem unitsAt_round (hF : 0 < F.precision) (hn : n ≠ 0) (hd : 0 < d) :
    F.unitsAt (F.round n d up down) =
      roundDiv (n * 2 ^ up) (d * 2 ^ down * 2 ^ F.droppedPlaces n d up down) *
        2 ^ F.droppedPlaces n d up down := by
  rw [F.round_eq hn]
  apply unitsAt_shifted _ (kept_le_two_mul hF hd up down)
  rcases Nat.eq_zero_or_pos (F.droppedPlaces n d up down) with hs | hs
  · exact Or.inl hs
  · exact Or.inr (hiddenBit_le_kept hF hn hd up down hs)

/-- A ratio below two to the `k` loses no place beyond the precision. -/
theorem droppedPlaces_le {k : Nat} (hn : n ≠ 0) (hd : 0 < d)
    (h : n * 2 ^ up < 2 ^ k * (d * 2 ^ down)) : F.droppedPlaces n d up down ≤ k - F.precision := by
  rcases Nat.eq_zero_or_pos (F.droppedPlaces n d up down) with hs | hs
  · rw [hs]
    exact Nat.zero_le _
  have hscale : 0 < d * 2 ^ down := by positivity
  have hpow : 2 ^ (F.droppedPlaces n d up down + F.precision) < 2 ^ (k + 1) := by
    apply Nat.lt_of_mul_lt_mul_left (a := d * 2 ^ down)
    calc d * 2 ^ down * 2 ^ (F.droppedPlaces n d up down + F.precision)
        ≤ 2 * (n * 2 ^ up) := F.kept_le hn up down hs
      _ < 2 * (2 ^ k * (d * 2 ^ down)) := Nat.mul_lt_mul_of_pos_left h (by decide)
      _ = d * 2 ^ down * 2 ^ (k + 1) := by ring
  have hlt := (Nat.pow_lt_pow_iff_right (by decide)).mp hpow
  omega

theorem round_withinHalf (hF : 0 < F.precision) {k : Nat} (hd : 0 < d)
    (h : n * 2 ^ up < 2 ^ k * (d * 2 ^ down)) :
    WithinHalf (F.unitsAt (F.round n d up down)) (n * 2 ^ up) (d * 2 ^ down)
      (2 ^ (k - F.precision)) := by
  by_cases hn : n = 0
  · rw [hn, round, if_pos rfl]
    constructor <;> simp [unitsAt, significandAt, F.hiddenBit_pos]
  have hplaces := F.droppedPlaces_le hn hd h
  apply WithinHalf.mono _ (Nat.pow_le_pow_right (by decide) hplaces)
  rw [unitsAt_round hF hn hd]
  generalize F.droppedPlaces n d up down = s
  have hnear := roundDiv_withinHalf (n := n * 2 ^ up) (d := d * 2 ^ down * 2 ^ s) (by positivity)
  generalize roundDiv (n * 2 ^ up) (d * 2 ^ down * 2 ^ s) = q at hnear ⊢
  have hcomm : q * (d * 2 ^ down * 2 ^ s) = q * 2 ^ s * (d * 2 ^ down) := by ring
  have hgap : 1 * (d * 2 ^ down * 2 ^ s) = 2 ^ s * (d * 2 ^ down) := by ring
  rcases hnear with ⟨hupper, hlower⟩
  rw [hcomm, hgap] at hupper hlower
  exact ⟨hupper, hlower⟩

/-- The dropped places of a value that the precision can hold are zeros: the value is a multiple of
the last place that is kept. -/
theorem exists_kept (hF : 0 < F.precision) {a e : Nat} (hn : n ≠ 0) (hd : 0 < d)
    (ha : a ≤ 2 ^ F.precision) (h : n * 2 ^ up = a * 2 ^ e * (d * 2 ^ down)) :
    ∃ c, a * 2 ^ e = c * 2 ^ F.droppedPlaces n d up down := by
  have hle := F.kept_le (d := d) hn up down
  generalize F.droppedPlaces n d up down = s at hle ⊢
  rcases Nat.lt_or_ge e s with hlt | hge
  -- One place more than the exponent is dropped, and of the full significand only.
  · have hbound : 2 ^ F.precision * 2 ^ s ≤ a * 2 ^ (e + 1) := by
      apply Nat.le_of_mul_le_mul_left (c := d * 2 ^ down) _ (by positivity)
      calc d * 2 ^ down * (2 ^ F.precision * 2 ^ s)
          = d * 2 ^ down * 2 ^ (s + F.precision) := by ring
        _ ≤ 2 * (n * 2 ^ up) := hle (Nat.zero_lt_of_lt hlt)
        _ = d * 2 ^ down * (a * 2 ^ (e + 1)) := by rw [h]; ring
    have hs : s = e + 1 := by
      have hpow : 2 ^ s ≤ 2 ^ (e + 1) := by
        apply Nat.le_of_mul_le_mul_left (c := 2 ^ F.precision) _ (by positivity)
        exact hbound.trans (Nat.mul_le_mul_right _ ha)
      have hexp := (Nat.pow_le_pow_iff_right (by decide)).mp hpow
      omega
    have hfull : 2 ^ F.precision ≤ a := by
      rw [hs] at hbound
      exact Nat.le_of_mul_le_mul_right hbound (by positivity)
    refine ⟨F.hiddenBit, ?_⟩
    rw [Nat.le_antisymm ha hfull, ← F.two_mul_hiddenBit hF, hs]
    ring
  · refine ⟨a * 2 ^ (e - s), ?_⟩
    rw [Nat.mul_assoc, ← Nat.pow_add, Nat.sub_add_cancel hge]

/-- What the precision can hold is kept. -/
theorem unitsAt_round_of_eq (hF : 0 < F.precision) {a e : Nat} (hd : 0 < d)
    (ha : a ≤ 2 ^ F.precision) (h : n * 2 ^ up = a * 2 ^ e * (d * 2 ^ down)) :
    F.unitsAt (F.round n d up down) = a * 2 ^ e := by
  by_cases hn : n = 0
  · have hzero : a * 2 ^ e * (d * 2 ^ down) = 0 := by rw [← h, hn, Nat.zero_mul]
    rw [(Nat.mul_eq_zero.mp hzero).resolve_right (by positivity), hn, round, if_pos rfl]
    simp [unitsAt, significandAt, F.hiddenBit_pos]
  rcases exists_kept hF hn hd ha h with ⟨c, hc⟩
  rw [unitsAt_round hF hn hd, h, hc]
  generalize F.droppedPlaces n d up down = s
  have hquot : c * 2 ^ s * (d * 2 ^ down) = c * (d * 2 ^ down * 2 ^ s) := by ring
  rw [hquot, roundDiv_mul_self c (by positivity)]

/-- Between half of the full significand and the full one, exactly the places behind it are dropped.
-/
theorem droppedPlaces_of_half {s : Nat} (hF : 0 < F.precision) (hn : n ≠ 0) (hd : 0 < d)
    (hhigh : n * 2 ^ up < 2 ^ (s + F.precision) * (d * 2 ^ down))
    (hhalf : F.hiddenBit * (d * 2 ^ down * 2 ^ s) ≤ n * 2 ^ up) :
    F.droppedPlaces n d up down = s := by
  apply Nat.le_antisymm
  · have hle := F.droppedPlaces_le hn hd hhigh
    rwa [Nat.add_sub_cancel] at hle
  · have hpow : 2 ^ (s + F.precision) < 2 ^ (F.droppedPlaces n d up down + F.precision + 1) := by
      apply Nat.lt_of_mul_lt_mul_left (a := d * 2 ^ down)
      calc d * 2 ^ down * 2 ^ (s + F.precision)
          = 2 * (F.hiddenBit * (d * 2 ^ down * 2 ^ s)) := by
            rw [Nat.pow_add, ← F.two_mul_hiddenBit hF]
            ring
        _ ≤ 2 * (n * 2 ^ up) := Nat.mul_le_mul_left _ hhalf
        _ < 2 * (d * 2 ^ down * 2 ^ (F.droppedPlaces n d up down + F.precision)) :=
          Nat.mul_lt_mul_of_pos_left (F.lt_kept hd.ne' up down) (by decide)
        _ = d * 2 ^ down * 2 ^ (F.droppedPlaces n d up down + F.precision + 1) := by ring
    have hlt := (Nat.pow_lt_pow_iff_right (by decide)).mp hpow
    omega

/-- From halfway below a full significand on, rounding carries into the exponent. -/
theorem carry_le_round (hF : 0 < F.precision) {s : Nat} (hd : 0 < d)
    (hhigh : n * 2 ^ up < 2 ^ (s + F.precision) * (d * 2 ^ down))
    (hlow : 2 * (2 ^ F.precision * (d * 2 ^ down * 2 ^ s)) ≤
      2 * (n * 2 ^ up) + d * 2 ^ down * 2 ^ s) :
    (s + 2) * F.hiddenBit ≤ F.round n d up down := by
  have hpos : 0 < d * 2 ^ down * 2 ^ s := by positivity
  have hbit := F.two_mul_hiddenBit hF
  have hbitpos := F.hiddenBit_pos
  have hhalf : F.hiddenBit * (d * 2 ^ down * 2 ^ s) ≤ n * 2 ^ up := by
    have hone : 1 * (d * 2 ^ down * 2 ^ s) ≤ F.hiddenBit * (d * 2 ^ down * 2 ^ s) :=
      Nat.mul_le_mul_right _ hbitpos
    rw [← hbit, Nat.mul_assoc] at hlow
    omega
  have hn : n ≠ 0 := by
    rintro rfl
    have hmul : 0 < F.hiddenBit * (d * 2 ^ down * 2 ^ s) := Nat.mul_pos hbitpos hpos
    omega
  have hplaces := droppedPlaces_of_half hF hn hd hhigh hhalf
  have hkept : 2 * F.hiddenBit ≤ roundDiv (n * 2 ^ up) (d * 2 ^ down * 2 ^ s) := by
    apply le_roundDiv_of_even hpos (Nat.mul_mod_right 2 _)
    rw [hbit]
    exact hlow
  rw [F.round_eq hn, hplaces, Nat.add_mul]
  exact Nat.add_le_add_left hkept _

end Rounding

end Format

namespace Number

variable {F : Format} {x x' y : Number F} {m k n : Nat}

/-! ## Ratios in units -/

theorem significand_mul (x y : Number F) :
    x.significand * y.significand * 2 ^ (x.shift + y.shift) = x.units * y.units := by
  simp only [units, Nat.shiftLeft_eq]
  ring

theorem significand_scaled (x : Number F) :
    x.significand * 2 ^ (x.shift + F.unitExponent) = x.units * 2 ^ F.unitExponent := by
  simp only [units, Nat.shiftLeft_eq]
  ring

theorem significand_shifted (x : Number F) : x.significand * 2 ^ x.shift = x.units := by
  rw [units, Nat.shiftLeft_eq]

theorem significand_pos (h : 0 < x.units) : 0 < x.significand := by
  rw [← significand_shifted] at h
  exact Nat.pos_of_mul_pos_right h

theorem units_ofMagnitude {negative : Bool} (h : (ofMagnitude negative m : Number F).isFinite) :
    (ofMagnitude negative m : Number F).units = F.unitsAt m := by
  have hlt : min m F.infinity < F.infinity := of_decide_eq_true h
  have hmag : (ofMagnitude negative m : Number F).magnitude = m :=
    Nat.min_eq_left ((min_lt_iff.mp hlt).resolve_right (Nat.lt_irrefl _)).le
  rw [units_eq_unitsAt, hmag]

section Results

variable (hF : F.Proper)
include hF

/-! ## Products -/

theorem le_magnitude_mul (hx : x.isFinite) (hy : y.isFinite) (hm : m ≤ F.infinity)
    (h : F.unitsAt m * 2 ^ F.unitExponent ≤ x.units * y.units) : m ≤ (x * y).magnitude := by
  rw [mul_of_isFinite hx hy]
  apply Nat.le_min.mpr ⟨_, hm⟩
  apply Format.le_round hF.precision_pos Nat.one_pos
  rwa [significand_mul, Nat.one_mul]

theorem magnitude_mul_eq (hx : x.isFinite) (hy : y.isFinite) (hm : m ≤ F.infinity)
    (h : x.units * y.units = F.unitsAt m * 2 ^ F.unitExponent) : (x * y).magnitude = m :=
  Nat.le_antisymm (magnitude_mul_le hF hx hy h.le) (le_magnitude_mul hF hx hy hm h.ge)

theorem magnitude_mul_mono_right (hx : x.isFinite) (hx' : x'.isFinite) (hy : y.isFinite)
    (h : x.magnitude ≤ x'.magnitude) : (y * x).magnitude ≤ (y * x').magnitude := by
  have hcomm : ∀ z : Number F, z.isFinite → (y * z).magnitude = (z * y).magnitude := by
    intro z hz
    rw [mul_of_isFinite hy hz, mul_of_isFinite hz hy, Nat.mul_comm, Nat.add_comm z.shift]
    rfl
  rw [hcomm x hx, hcomm x' hx']
  exact magnitude_mul_mono hF hx hx' hy h

/-! ## Quotients -/

theorem le_magnitude_div (hx : x.isFinite) (hy : y.isFinite) (hpos : 0 < y.units)
    (hm : m ≤ F.infinity) (h : F.unitsAt m * y.units ≤ x.units * 2 ^ F.unitExponent) :
    m ≤ (x / y).magnitude := by
  rw [div_of_isFinite hx hy hpos]
  apply Nat.le_min.mpr ⟨_, hm⟩
  apply Format.le_round hF.precision_pos (significand_pos hpos)
  rwa [significand_scaled, significand_shifted]

theorem magnitude_div_eq (hx : x.isFinite) (hy : y.isFinite) (hpos : 0 < y.units)
    (hm : m ≤ F.infinity) (h : x.units * 2 ^ F.unitExponent = F.unitsAt m * y.units) :
    (x / y).magnitude = m :=
  Nat.le_antisymm (magnitude_div_le hF hx hy hpos h.le) (le_magnitude_div hF hx hy hpos hm h.ge)

theorem magnitude_div_mono (hx : x.isFinite) (hx' : x'.isFinite) (hy : y.isFinite)
    (hpos : 0 < y.units) (h : x.magnitude ≤ x'.magnitude) :
    (x / y).magnitude ≤ (x' / y).magnitude := by
  rw [div_of_isFinite hx hy hpos, div_of_isFinite hx' hy hpos]
  apply min_le_min_right
  apply Format.round_mono hF.precision_pos (significand_pos hpos) (significand_pos hpos)
  simp only [significand_scaled, significand_shifted]
  exact Nat.mul_le_mul_right _ (Nat.mul_le_mul_right _ (units_mono hF h))

theorem units_div_withinHalf (hx : x.isFinite) (hy : y.isFinite) (hpos : 0 < y.units)
    (hfinite : (x / y).isFinite) (h : x.units * 2 ^ F.unitExponent < 2 ^ k * y.units) :
    WithinHalf (x / y).units (x.units * 2 ^ F.unitExponent) y.units (2 ^ (k - F.precision)) := by
  rw [div_of_isFinite hx hy hpos] at hfinite ⊢
  rw [units_ofMagnitude hfinite, ← significand_scaled, ← significand_shifted y]
  apply Format.round_withinHalf hF.precision_pos (significand_pos hpos)
  rwa [significand_scaled, significand_shifted]

/-! ## Naturals -/

theorem isFinite_ofNat (hk : k < 2 ^ (F.exponentBits - 1)) (hn : n ≤ 2 ^ k) :
    (ofNat n : Number F).isFinite :=
  (UpTo.ofNat hF hk hn).isFinite

theorem units_ofNat (hk : k < 2 ^ (F.exponentBits - 1)) (hn : n ≤ 2 ^ k) (hkp : k ≤ F.precision) :
    (ofNat n : Number F).units = n * 2 ^ F.unitExponent := by
  have hfinite : (ofNat n : Number F).isFinite := isFinite_ofNat hF hk hn
  rw [ofNat, ofRatio] at hfinite ⊢
  rw [units_ofMagnitude hfinite]
  apply Format.unitsAt_round_of_eq hF.precision_pos Nat.one_pos
  · exact hn.trans (Nat.pow_le_pow_right (by decide) hkp)
  · simp

theorem units_ofNat_withinHalf (hk : k < 2 ^ (F.exponentBits - 1)) (hn : n < 2 ^ k) :
    WithinHalf (ofNat n : Number F).units (n * 2 ^ F.unitExponent) 1
      (2 ^ (k + F.unitExponent - F.precision)) := by
  have hfinite : (ofNat n : Number F).isFinite := isFinite_ofNat hF hk hn.le
  rw [ofNat, ofRatio] at hfinite ⊢
  rw [units_ofMagnitude hfinite]
  apply Format.round_withinHalf hF.precision_pos Nat.one_pos
  rw [Nat.pow_zero, Nat.mul_one, Nat.pow_add]
  exact Nat.mul_lt_mul_of_pos_right hn (by positivity)

/-- Half of the last place below a power of two is enough to be rounded up to it. -/
theorem powerAt_le_magnitude_ofNat (hk : k < 2 ^ (F.exponentBits - 1)) (hkp : F.precision < k)
    (h : 2 ^ k ≤ n + 2 ^ (k - F.precision - 1)) : F.powerAt k ≤ (ofNat n : Number F).magnitude := by
  have hinfinity := (Format.powerAt_lt_infinity hF hk).le
  rcases Nat.lt_or_ge n (2 ^ k) with hlt | hge
  · apply Nat.le_min.mpr ⟨_, hinfinity⟩
    rw [Format.powerAt_eq_carry hF hkp.le]
    have hplaces : k + F.unitExponent - F.precision + F.precision = k + F.unitExponent := by omega
    have hgap : 2 ^ (k + F.unitExponent - F.precision) =
        2 * 2 ^ (k - F.precision - 1) * 2 ^ F.unitExponent := by
      rw [← Nat.pow_succ', ← Nat.pow_add]
      congr 1
      omega
    apply Format.carry_le_round hF.precision_pos Nat.one_pos
    · rw [hplaces, Nat.pow_zero, Nat.mul_one, Nat.pow_add]
      exact Nat.mul_lt_mul_of_pos_right hlt (by positivity)
    · rw [Nat.pow_zero, Nat.mul_one, Nat.one_mul, ← Nat.pow_add, Nat.add_comm F.precision, hplaces,
        hgap]
      calc 2 * 2 ^ (k + F.unitExponent) = 2 * 2 ^ k * 2 ^ F.unitExponent := by ring
        _ ≤ 2 * (n + 2 ^ (k - F.precision - 1)) * 2 ^ F.unitExponent :=
          Nat.mul_le_mul_right _ (Nat.mul_le_mul_left _ h)
        _ = 2 * (n * 2 ^ F.unitExponent) + 2 * 2 ^ (k - F.precision - 1) * 2 ^ F.unitExponent := by
          ring
  · apply le_magnitude_ofNat hF hinfinity
    rw [Format.unitsAt_powerAt hF]
    exact Nat.mul_le_mul_right _ hge

/-! ## One -/

theorem units_one : (ofNat 1 : Number F).units = 2 ^ F.unitExponent := by
  have he := hF.one_lt_exponentBits
  have hone := units_ofNat hF (k := 0) (n := 1) (by positivity) le_rfl (Nat.zero_le _)
  rwa [Nat.one_mul] at hone

theorem magnitude_mul_one (hx : x.isFinite) : (x * ofNat 1).magnitude = x.magnitude := by
  have hone : (ofNat 1 : Number F).isFinite := isFinite_ofNat hF (k := 0) (by positivity) le_rfl
  have hfinite : x.magnitude < F.infinity := of_decide_eq_true hx
  apply magnitude_mul_eq hF hx hone hfinite.le
  rw [units_one hF, units_eq_unitsAt]

theorem magnitude_div_one (hx : x.isFinite) : (x / ofNat 1).magnitude = x.magnitude := by
  have hone : (ofNat 1 : Number F).isFinite := isFinite_ofNat hF (k := 0) (by positivity) le_rfl
  have hfinite : x.magnitude < F.infinity := of_decide_eq_true hx
  have hunits := units_one hF
  apply magnitude_div_eq hF hx hone _ hfinite.le
  · rw [hunits, units_eq_unitsAt]
  · rw [hunits]
    positivity

end Results

end Number
end Ieee
end PacedRtp
