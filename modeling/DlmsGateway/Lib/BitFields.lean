import Mathlib.Algebra.Group.Nat.Defs

/-!
# Fields of a binary number

Masking a stretch of bits and putting stretches side by side, as arithmetic, and
the two decimal digits that are packed in one byte, the tens in its upper half.
A reader may look at a few bits of the tens only; `unpack` is told which, and
gives the number back whose tens fit in these bits.
-/
set_option autoImplicit false
namespace BitFields

theorem and_field (n width low : Nat) :
    n &&& ((2 ^ width - 1) <<< low) = (n >>> low % 2 ^ width) <<< low := by
  apply Nat.eq_of_testBit_eq
  intro i
  rw [← Nat.and_two_pow_sub_one_eq_mod, Nat.testBit_and, Nat.testBit_shiftLeft,
    Nat.testBit_shiftLeft, Nat.testBit_and, Nat.testBit_shiftRight]
  by_cases above : low ≤ i
  · rw [Nat.add_sub_cancel' above]
    simp [above]
  · simp [above]

theorem and_shiftedMask {n : Nat} (mask width low : Nat) (bits : mask = (2 ^ width - 1) * 2 ^ low) :
    n &&& mask = n / 2 ^ low % 2 ^ width * 2 ^ low := by
  rw [bits, ← Nat.shiftLeft_eq, and_field, Nat.shiftLeft_eq, Nat.shiftRight_eq_div_pow]

theorem or_fields {upper lower : Nat} (low : Nat) (aligned : upper % 2 ^ low = 0)
    (below : lower < 2 ^ low) : upper ||| lower = upper + lower := by
  obtain ⟨a, rfl⟩ := Nat.dvd_of_mod_eq_zero aligned
  exact (Nat.two_pow_add_eq_or_of_lt below a).symm

end BitFields

namespace PackedDecimal

def pack (n : UInt8) : UInt8 := (n / 10) <<< 4 ||| n % 10

def unpack (tens b : UInt8) : UInt8 := (b >>> 4 &&& tens) * 10 + (b &&& 0x0F)

theorem toNat_pack {n : UInt8} (small : n.toNat < 160) :
    (pack n).toNat = 16 * (n.toNat / 10) + n.toNat % 10 := by
  have upper : ((n / 10) <<< 4).toNat = 16 * (n.toNat / 10) := by
    rw [UInt8.toNat_shiftLeft, Nat.shiftLeft_eq]
    show n.toNat / 10 * 16 % 256 = 16 * (n.toNat / 10)
    omega
  have lower : (n % 10).toNat = n.toNat % 10 := UInt8.toNat_mod ..
  have digit : n.toNat % 10 < 2 ^ 4 := Nat.lt_trans (Nat.mod_lt _ (by decide)) (by decide)
  rw [pack, UInt8.toNat_or, upper, lower]
  exact (Nat.two_pow_add_eq_or_of_lt digit (n.toNat / 10)).symm

theorem toNat_unpack {bits : Nat} {tens : UInt8} (few : bits ≤ 4) (mask : tens.toNat = 2 ^ bits - 1)
    (b : UInt8) :
    (unpack tens b).toNat = 10 * (b.toNat / 16 % 2 ^ bits) + b.toNat % 16 := by
  have upper : (b >>> 4 &&& tens).toNat = b.toNat / 16 % 2 ^ bits := by
    rw [UInt8.toNat_and, mask, Nat.and_two_pow_sub_one_eq_mod, UInt8.toNat_shiftRight,
      Nat.shiftRight_eq_div_pow]
    rfl
  have lower : (b &&& 0x0F).toNat = b.toNat % 16 := by
    rw [UInt8.toNat_and]
    exact Nat.and_two_pow_sub_one_eq_mod _ 4
  have digits : 2 ^ bits ≤ 16 := Nat.pow_le_pow_right (by decide) few
  have part := Nat.mod_lt (b.toNat / 16) (Nat.two_pow_pos bits)
  rw [unpack, UInt8.toNat_add, UInt8.toNat_mul, upper, lower]
  show (b.toNat / 16 % 2 ^ bits * 10 % 256 + b.toNat % 16) % 256 = _
  omega

theorem unpack_pack {bits : Nat} {tens n : UInt8} (few : bits ≤ 4)
    (mask : tens.toNat = 2 ^ bits - 1) (fits : n.toNat < 10 * 2 ^ bits) :
    unpack tens (pack n) = n := by
  have digits : 2 ^ bits ≤ 16 := Nat.pow_le_pow_right (by decide) few
  have packed := toNat_pack (n := n) (by omega)
  have upper : (pack n).toNat / 16 = n.toNat / 10 := by omega
  apply UInt8.toNat_inj.mp
  rw [toNat_unpack few mask, upper, Nat.mod_eq_of_lt (by omega)]
  omega

end PackedDecimal
