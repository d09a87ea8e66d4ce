import Mathlib
import PacedRtp.Proofs.Rtp.Numbering

/-!
# The period of a stream's numbers

The sequence number counts packets modulo 2^16, and the timestamp moves on by the samples of a frame
modulo 2^32. The multiples of that stride come back to zero after a power of two, so the counters of
a stream have two cycles of which one divides the other, and both numbers together repeat exactly
with the longer one. `numbers_repeat` states this for every stride, zero included, and for every
place at which a stream may stand.
-/

namespace PacedRtp
namespace Rtp

/-! ## Congruences -/

/-- What the stride shares with the modulus shortens the cycle of its multiples. -/
theorem mul_modEq_mul_iff {m : Nat} (hm : 0 < m) (i j stride : Nat) :
    i * stride ≡ j * stride [MOD m] ↔ i ≡ j [MOD m / m.gcd stride] := by
  constructor
  · exact Nat.ModEq.cancel_right_div_gcd hm
  · intro h
    have hmultiple : m ∣ m / m.gcd stride * stride := by
      rw [Nat.div_mul_right_comm (Nat.gcd_dvd_left m stride),
        Nat.mul_div_assoc _ (Nat.gcd_dvd_right m stride)]
      exact Nat.dvd_mul_right _ _
    exact (h.mul_right' stride).of_dvd hmultiple

/-- Of two powers of two the greater one is a multiple of the other, so it decides. -/
theorem modEq_two_pow_and_iff (a b i j : Nat) :
    i ≡ j [MOD 2 ^ a] ∧ i ≡ j [MOD 2 ^ b] ↔ i ≡ j [MOD max (2 ^ a) (2 ^ b)] := by
  rcases le_total a b with hab | hba
  · have hdvd : 2 ^ a ∣ 2 ^ b := pow_dvd_pow 2 hab
    rw [max_eq_right (Nat.le_of_dvd (Nat.two_pow_pos b) hdvd)]
    exact ⟨And.right, fun h => ⟨h.of_dvd hdvd, h⟩⟩
  · have hdvd : 2 ^ b ∣ 2 ^ a := pow_dvd_pow 2 hba
    rw [max_eq_left (Nat.le_of_dvd (Nat.two_pow_pos a) hdvd)]
    exact ⟨And.left, fun h => ⟨h, h.of_dvd hdvd⟩⟩

namespace Numbering

/-! ## The cycles of the counters -/

/-- After how many packets the timestamp is back. -/
def timestampCycle (n : Numbering) : Nat :=
  2 ^ 32 / Nat.gcd n.samplesPerFrame.toNat (2 ^ 32)

/-- After how many packets both counters are back. -/
def period (n : Numbering) : Nat :=
  max (2 ^ 16) n.timestampCycle

theorem exists_timestampCycle (n : Numbering) : ∃ k, n.timestampCycle = 2 ^ k := by
  have hdvd : n.timestampCycle ∣ 2 ^ 32 := Nat.div_dvd_of_dvd (Nat.gcd_dvd_right _ _)
  rcases (Nat.dvd_prime_pow Nat.prime_two).mp hdvd with ⟨k, -, hk⟩
  exact ⟨k, hk⟩

theorem period_pos (n : Numbering) : 0 < n.period :=
  lt_max_of_lt_left (Nat.two_pow_pos 16)

theorem sequence_eq_iff (n : Numbering) (i j : Nat) :
    (n.advanceBy i).sequence = (n.advanceBy j).sequence ↔ i ≡ j [MOD 2 ^ 16] := by
  rw [← UInt16.toNat_inj, toNat_sequence_advanceBy, toNat_sequence_advanceBy]
  exact ⟨Nat.ModEq.add_left_cancel' _, Nat.ModEq.add_left _⟩

theorem timestamp_eq_iff (n : Numbering) (i j : Nat) :
    (n.advanceBy i).timestamp = (n.advanceBy j).timestamp ↔ i ≡ j [MOD n.timestampCycle] := by
  rw [← UInt32.toNat_inj, toNat_timestamp_advanceBy, toNat_timestamp_advanceBy, timestampCycle,
    Nat.gcd_comm, ← mul_modEq_mul_iff (Nat.two_pow_pos 32)]
  exact ⟨Nat.ModEq.add_left_cancel' _, Nat.ModEq.add_left _⟩

/-! ## Both counters -/

/-- Two packets of a stream carry the same numbers if their places differ by whole periods. -/
theorem numbers_eq_iff (n : Numbering) (i j : Nat) :
    (n.advanceBy i).sequence = (n.advanceBy j).sequence ∧
        (n.advanceBy i).timestamp = (n.advanceBy j).timestamp ↔
      i ≡ j [MOD n.period] := by
  rcases n.exists_timestampCycle with ⟨k, hk⟩
  rw [sequence_eq_iff, timestamp_eq_iff, period, hk]
  exact modEq_two_pow_and_iff 16 k i j

theorem advanceBy_eq_iff (n : Numbering) (i j : Nat) :
    n.advanceBy i = n.advanceBy j ↔ i ≡ j [MOD n.period] := by
  rw [← numbers_eq_iff]
  constructor
  · intro h
    exact ⟨congrArg sequence h, congrArg timestamp h⟩
  · -- The other fields stay as they are.
    rintro ⟨hsequence, htimestamp⟩
    simp only [advanceBy, mk.injEq, true_and] at hsequence htimestamp ⊢
    exact ⟨hsequence, htimestamp⟩

theorem isPeriodicPt_advance_iff (n : Numbering) (k : Nat) :
    Function.IsPeriodicPt advance k n ↔ n.period ∣ k := by
  have hback : advance^[k] n = n ↔ k ≡ 0 [MOD n.period] := by
    rw [← advanceBy_eq_iff, iterate_advance, advanceBy_zero]
  rw [← Nat.modEq_zero_iff_dvd]
  exact hback

theorem minimalPeriod_advance (n : Numbering) : Function.minimalPeriod advance n = n.period := by
  apply Nat.dvd_antisymm
  · have hperiodic : Function.IsPeriodicPt advance n.period n :=
      (isPeriodicPt_advance_iff n _).mpr dvd_rfl
    exact hperiodic.minimalPeriod_dvd
  · exact (isPeriodicPt_advance_iff n _).mp (Function.isPeriodicPt_minimalPeriod advance n)

example (n : Numbering) (h : n.samplesPerFrame = 960) : n.period = 67108864 := by
  rw [period, timestampCycle, h]
  rfl

/-! ## Repetition -/

/-- Where a stream stands after `i` packets, and when it stands there again. The numbers of two
packets are the same exactly if their places differ by a multiple of `P`, whatever their markers;
the stream itself is back after `P` packets and not before. -/
theorem numbers_repeat (n : Numbering) :
    let P : Nat := max (2 ^ 16) (2 ^ 32 / Nat.gcd n.samplesPerFrame.toNat (2 ^ 32))
    let headerAt (i : Nat) (marker : Bool) := (advance^[i] n).header marker
    (∀ i, (advance^[i] n).sequence.toNat = (n.sequence.toNat + i) % 2 ^ 16 ∧
      (advance^[i] n).timestamp.toNat =
        (n.timestamp.toNat + i * n.samplesPerFrame.toNat) % 2 ^ 32 ∧
      (advance^[i] n).ssrc = n.ssrc ∧ (advance^[i] n).payloadType = n.payloadType ∧
      (advance^[i] n).samplesPerFrame = n.samplesPerFrame) ∧
    (∀ (i j : Nat) (marker marker' : Bool),
      (headerAt i marker).sequence = (headerAt j marker').sequence ∧
          (headerAt i marker).timestamp = (headerAt j marker').timestamp ↔
        (P : Int) ∣ (i : Int) - j) ∧
    Function.minimalPeriod advance n = P ∧ 0 < P ∧
    ∀ (start : Nat) (markers : Nat → Bool),
      Set.InjOn (fun i => ((headerAt i (markers i)).sequence, (headerAt i (markers i)).timestamp))
        (Set.Ico start (start + P)) := by
  intro P headerAt
  have hP : P = n.period := rfl
  have hnumbers : ∀ (i j : Nat) (marker marker' : Bool),
      (headerAt i marker).sequence = (headerAt j marker').sequence ∧
          (headerAt i marker).timestamp = (headerAt j marker').timestamp ↔
        i ≡ j [MOD P] := by
    intro i j marker marker'
    simp only [headerAt, iterate_advance]
    rw [hP]
    exact numbers_eq_iff n i j
  refine ⟨?_, ?_, minimalPeriod_advance n, n.period_pos, ?_⟩
  · intro i
    rw [iterate_advance]
    exact ⟨toNat_sequence_advanceBy n i, toNat_timestamp_advanceBy n i, rfl, rfl, rfl⟩
  · intro i j marker marker'
    rw [hnumbers, Nat.ModEq.comm, Nat.modEq_iff_dvd]
  · -- Places in a window that are congruent modulo its length are the same.
    intro start markers i hi j hj heq
    have hcongr : i ≡ j [MOD P] := (hnumbers i j _ _).mp (Prod.mk.inj heq)
    rw [Set.mem_Ico] at hi hj
    have hshift : i - start ≡ j - start [MOD P] := by
      apply Nat.ModEq.add_left_cancel' start
      rwa [Nat.add_sub_cancel' hi.1, Nat.add_sub_cancel' hj.1]
    have hplace : i - start = j - start := hshift.eq_of_lt_of_lt (by omega) (by omega)
    omega

end Numbering
end Rtp
end PacedRtp
