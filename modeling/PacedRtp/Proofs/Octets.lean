import Mathlib
import PacedRtp.Octets

/-!
# Octets: writing and reading in network order

`ofBigEndian` and `bigEndian` undo each other: reading what was written gives the number modulo its
width, and writing what was read gives back the octets, as many as there were.
-/

namespace PacedRtp
namespace Octets

/-! ## Reading -/

/-- The accumulator of the left fold is the part of the number above the octets to come. -/
private theorem foldl_octets (bytes : List UInt8) (high : Nat) :
    bytes.foldl (fun n b => n * 256 + b.toNat) high =
      high * 256 ^ bytes.length + ofBigEndian bytes := by
  -- The accumulator grows on the way, so it is general in the induction.
  induction bytes generalizing high with
  | nil => simp [ofBigEndian]
  | cons b bytes ih =>
    simp only [ofBigEndian, List.foldl_cons, List.length_cons]
    rw [ih, ih (0 * 256 + b.toNat)]
    ring

theorem ofBigEndian_cons (b : UInt8) (bytes : List UInt8) :
    ofBigEndian (b :: bytes) = b.toNat * 256 ^ bytes.length + ofBigEndian bytes := by
  have h := foldl_octets bytes b.toNat
  simpa [ofBigEndian] using h

theorem ofBigEndian_lt (bytes : List UInt8) : ofBigEndian bytes < 256 ^ bytes.length := by
  induction bytes with
  | nil => simp [ofBigEndian]
  | cons b bytes ih =>
    have hb : b.toNat < 256 := b.toNat_lt
    -- The leading octet leaves room for one more of its weight.
    have hmul : b.toNat * 256 ^ bytes.length ≤ 255 * 256 ^ bytes.length :=
      Nat.mul_le_mul_right _ (by omega)
    rw [ofBigEndian_cons, List.length_cons, pow_succ]
    omega

/-! ## Round trips -/

/-- The leading octet of `w + 1` octets. -/
theorem toNat_leading (w n : Nat) : (UInt8.ofNat (n >>> (8 * w))).toNat = n / 256 ^ w % 256 := by
  rw [UInt8.toNat_ofNat', Nat.shiftRight_eq_div_pow, pow_mul]
  rfl

theorem ofBigEndian_bigEndian (w n : Nat) : ofBigEndian (bigEndian w n) = n % 256 ^ w := by
  induction w with
  | zero => simp [bigEndian, ofBigEndian, Nat.mod_one]
  | succ w ih =>
    -- The digit in front and the remainder behind it make the longer remainder.
    rw [bigEndian, ofBigEndian_cons, length_bigEndian, ih, toNat_leading, pow_succ, Nat.mod_mul]
    ring

/-- What `bigEndian` writes depends on the low octets only. -/
theorem bigEndian_add_mul (w n k : Nat) : bigEndian w (k * 256 ^ w + n) = bigEndian w n := by
  induction w generalizing k with
  | zero => rfl
  | succ w ih =>
    -- A multiple of the longer width is one of the shorter width, 256 times as large.
    have hsplit : k * 256 ^ (w + 1) + n = (k * 256) * 256 ^ w + n := by ring
    have hdiv : ((k * 256) * 256 ^ w + n) / 256 ^ w = k * 256 + n / 256 ^ w := by
      rw [Nat.add_comm, Nat.add_mul_div_right _ _ (by positivity), Nat.add_comm]
    have hleading : UInt8.ofNat ((k * 256 ^ (w + 1) + n) >>> (8 * w)) =
        UInt8.ofNat (n >>> (8 * w)) := by
      apply UInt8.toNat_inj.mp
      rw [toNat_leading, toNat_leading, hsplit, hdiv]
      omega
    rw [bigEndian, bigEndian, hleading, hsplit, ih]

theorem bigEndian_ofBigEndian (bytes : List UInt8) :
    bigEndian bytes.length (ofBigEndian bytes) = bytes := by
  induction bytes with
  | nil => rfl
  | cons b bytes ih =>
    -- Above the octets that follow stands the leading octet alone.
    have hdiv : (b.toNat * 256 ^ bytes.length + ofBigEndian bytes) / 256 ^ bytes.length =
        b.toNat := by
      rw [Nat.add_comm, Nat.add_mul_div_right _ _ (by positivity),
        Nat.div_eq_of_lt (ofBigEndian_lt bytes), Nat.zero_add]
    have hleading : UInt8.ofNat ((b.toNat * 256 ^ bytes.length + ofBigEndian bytes) >>>
        (8 * bytes.length)) = b := by
      apply UInt8.toNat_inj.mp
      rw [toNat_leading, hdiv]
      exact Nat.mod_eq_of_lt b.toNat_lt
    rw [List.length_cons, bigEndian, ofBigEndian_cons, hleading, bigEndian_add_mul, ih]

/-! ## Words -/

theorem ofBigEndian_word16 (n : UInt16) : ofBigEndian (bigEndian 2 n.toNat) = n.toNat := by
  have hlt : n.toNat < 256 ^ 2 := n.toNat_lt
  rw [ofBigEndian_bigEndian, Nat.mod_eq_of_lt hlt]

theorem ofBigEndian_word32 (n : UInt32) : ofBigEndian (bigEndian 4 n.toNat) = n.toNat := by
  have hlt : n.toNat < 256 ^ 4 := n.toNat_lt
  rw [ofBigEndian_bigEndian, Nat.mod_eq_of_lt hlt]

theorem toNat_word16 {bytes : List UInt8} (hlen : bytes.length = 2) :
    (UInt16.ofNat (ofBigEndian bytes)).toNat = ofBigEndian bytes := by
  have hlt : ofBigEndian bytes < 2 ^ 16 := by simpa [hlen] using ofBigEndian_lt bytes
  rw [UInt16.toNat_ofNat', Nat.mod_eq_of_lt hlt]

theorem toNat_word32 {bytes : List UInt8} (hlen : bytes.length = 4) :
    (UInt32.ofNat (ofBigEndian bytes)).toNat = ofBigEndian bytes := by
  have hlt : ofBigEndian bytes < 2 ^ 32 := by simpa [hlen] using ofBigEndian_lt bytes
  rw [UInt32.toNat_ofNat', Nat.mod_eq_of_lt hlt]

theorem bigEndian_word16 {bytes : List UInt8} (hlen : bytes.length = 2) :
    bigEndian 2 (UInt16.ofNat (ofBigEndian bytes)).toNat = bytes := by
  rw [toNat_word16 hlen, ← hlen, bigEndian_ofBigEndian]

theorem bigEndian_word32 {bytes : List UInt8} (hlen : bytes.length = 4) :
    bigEndian 4 (UInt32.ofNat (ofBigEndian bytes)).toNat = bytes := by
  rw [toNat_word32 hlen, ← hlen, bigEndian_ofBigEndian]

end Octets
end PacedRtp
