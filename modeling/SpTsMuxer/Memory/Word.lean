import Mathlib.Algebra.Order.Ring.Nat
import Mathlib.Tactic.Common

/-!
# Cutting Machine Words into Bytes

Byte stores shift and mask a word before they truncate it.  Each lemma says which quotient of the
word the stored byte is.
-/

namespace SpTsMuxer.Memory

theorem byte_pos_iff (byte : UInt8) : byte > 0 ↔ 0 < byte.toNat :=
  UInt8.lt_iff_toNat_lt

theorem toUInt8_of_toNat {word : UInt64} {value : ℕ} (h : word.toNat % 256 = value % 256) :
    word.toUInt8 = UInt8.ofNat value := by
  apply UInt8.toNat_inj.mp
  rw [UInt64.toNat_toUInt8, UInt8.toNat_ofNat']
  exact h

theorem toUInt8_and_ff (word : UInt32) :
    (word &&& 0xff).toUInt8 = UInt8.ofNat word.toNat := by
  apply UInt8.toNat_inj.mp
  rw [UInt32.toNat_toUInt8, UInt32.toNat_and, UInt8.toNat_ofNat']
  change (word.toNat &&& (2 ^ 8 - 1)) % 2 ^ 8 = _
  rw [Nat.and_two_pow_sub_one_eq_mod, Nat.mod_mod]

theorem shiftRight_toUInt8 (word count : UInt32) (h : count.toNat < 32) :
    ((word >>> count) &&& 0xff).toUInt8 = UInt8.ofNat (word.toNat / 2 ^ count.toNat) := by
  rw [toUInt8_and_ff, UInt32.toNat_shiftRight, Nat.mod_eq_of_lt h, Nat.shiftRight_eq_div_pow]

/-- Shifting in a marker bit below a word that keeps its most significant bits free. -/
theorem shiftLeft_or_one (word : UInt64) (h : word.toNat < 2 ^ 62) :
    ((word <<< 1) ||| 1).toNat = 2 * word.toNat + 1 := by
  have hor := Nat.two_pow_add_eq_or_of_lt (show 1 < 2 ^ 1 by omega) word.toNat
  rw [UInt64.toNat_or, UInt64.toNat_shiftLeft, Nat.shiftLeft_eq,
    show (1 : UInt64).toNat % 64 = 1 by rfl, show (1 : UInt64).toNat = 1 by rfl,
    Nat.mod_eq_of_lt (by omega), Nat.mul_comm]
  exact hor.symm

end SpTsMuxer.Memory
