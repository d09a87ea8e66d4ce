/-!
# Octets: fixed-width numbers as byte lists

Wire and file formats write a number as a fixed count of octets, most significant first on the
network and least significant first in RIFF files and L16 buffers. Writers drop the bits above the
width; readers take any list.
-/

namespace PacedRtp
namespace Octets

/-! ## Network order -/

/-- The low `8 * w` bits of `n`, most significant octet first. -/
def bigEndian : Nat → Nat → List UInt8
  | 0, _ => []
  | w + 1, n => UInt8.ofNat (n >>> (8 * w)) :: bigEndian w n

def ofBigEndian (bytes : List UInt8) : Nat :=
  bytes.foldl (fun n b => n * 256 + b.toNat) 0

@[simp] theorem length_bigEndian (w n : Nat) : (bigEndian w n).length = w := by
  induction w with
  | zero => rfl
  | succ w ih => simp [bigEndian, ih]

/-! ## File order -/

/-- The low `8 * w` bits of `n`, least significant octet first. -/
def littleEndian : Nat → Nat → List UInt8
  | 0, _ => []
  | w + 1, n => UInt8.ofNat n :: littleEndian w (n / 256)

def ofLittleEndian : List UInt8 → Nat
  | [] => 0
  | b :: bytes => b.toNat + 256 * ofLittleEndian bytes

@[simp] theorem length_littleEndian (w n : Nat) : (littleEndian w n).length = w := by
  induction w generalizing n with
  | zero => rfl
  | succ w ih => simp [littleEndian, ih]

/-! ## Two's complement -/

/-- The signed reading of the low `bits` bits of `n`. -/
def signed (bits n : Nat) : Int :=
  Int.bmod n (1 <<< bits)

end Octets
end PacedRtp
