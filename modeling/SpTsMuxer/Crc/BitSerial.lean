import Mathlib.Algebra.Order.Ring.Nat
import Mathlib.Tactic.Common

/-!
# Bit-Serial CRC-32 over an Arbitrary Polynomial

The register is 32 bits wide and the message is fed most significant bit first, without
reflection.  One bit step shifts the register and adds the polynomial when the bit shifted out
differs from the message bit.

The step is linear in the register and the message bit together.  Feeding a register the byte it
would shift out only shifts it (`feedByte_top`), so a byte step is a shift plus a contribution of
the difference between the two bytes alone: that is the table-driven form (`feedByte_eq_table`).
The same fact read over four bytes says that a message followed by its own checksum leaves the
register at zero (`checksum_append_self`).
-/

namespace SpTsMuxer.Crc

variable (polynomial : BitVec 32)

/-- One message bit. -/
def feedBit (register : BitVec 32) (bit : Bool) : BitVec 32 :=
  if register.msb ^^ bit then (register <<< 1) ^^^ polynomial else register <<< 1

/-- One message byte, most significant bit first. -/
def feedByte (register : BitVec 32) (byte : BitVec 8) : BitVec 32 :=
  [7, 6, 5, 4, 3, 2, 1, 0].foldl
    (fun state position ↦ feedBit polynomial state (byte.getLsbD position)) register

/-- The register after a message. -/
def checksum (initial : BitVec 32) (message : List (BitVec 8)) : BitVec 32 :=
  message.foldl (feedByte polynomial) initial

@[simp]
theorem checksum_nil (initial : BitVec 32) : checksum polynomial initial [] = initial := rfl

@[simp]
theorem checksum_cons (initial : BitVec 32) (byte : BitVec 8) (message : List (BitVec 8)) :
    checksum polynomial initial (byte :: message) =
      checksum polynomial (feedByte polynomial initial byte) message := rfl

theorem checksum_append (initial : BitVec 32) (first second : List (BitVec 8)) :
    checksum polynomial initial (first ++ second) =
      checksum polynomial (checksum polynomial initial first) second :=
  List.foldl_append

/-! ## Linearity -/

theorem feedBit_xor (left right : BitVec 32) (bitLeft bitRight : Bool) :
    feedBit polynomial (left ^^^ right) (bitLeft ^^ bitRight) =
      feedBit polynomial left bitLeft ^^^ feedBit polynomial right bitRight := by
  have hcancel (a b : BitVec 32) : a ^^^ polynomial ^^^ (b ^^^ polynomial) = a ^^^ b := by
    rw [BitVec.xor_assoc, BitVec.xor_comm b, ← BitVec.xor_assoc polynomial, BitVec.xor_self,
      BitVec.zero_xor]
  unfold feedBit
  rw [BitVec.msb_xor, BitVec.shiftLeft_xor_distrib]
  cases left.msb <;> cases right.msb <;> cases bitLeft <;> cases bitRight <;>
    simp [hcancel] <;> ac_rfl

/-- A byte step is linear in the register and the byte together. -/
theorem feedByte_xor (left right : BitVec 32) (byteLeft byteRight : BitVec 8) :
    feedByte polynomial (left ^^^ right) (byteLeft ^^^ byteRight) =
      feedByte polynomial left byteLeft ^^^ feedByte polynomial right byteRight := by
  simp only [feedByte, List.foldl_cons, List.foldl_nil, BitVec.getLsbD_xor, feedBit_xor]

/-! ## Feeding the register its own bits -/

/-- A message bit equal to the bit shifted out does not reach the polynomial. -/
theorem feedBit_msb (register : BitVec 32) :
    feedBit polynomial register register.msb = register <<< 1 := by
  rw [feedBit, Bool.xor_self, if_neg Bool.false_ne_true]

theorem feedBit_shiftLeft (register : BitVec 32) (count : ℕ) :
    feedBit polynomial (register <<< count) (register.getMsbD count) =
      register <<< (count + 1) := by
  rw [← BitVec.msb_shiftLeft, feedBit_msb, BitVec.shiftLeft_add]

/-- The most significant byte of the register. -/
def topByte (register : BitVec 32) : BitVec 8 := register.extractLsb' 24 8

theorem feedByte_top (register : BitVec 32) :
    feedByte polynomial register (topByte register) = register <<< 8 := by
  have hbit (position : ℕ) (h : position < 8) :
      (topByte register).getLsbD position = register.getMsbD (7 - position) := by
    rw [topByte, BitVec.getLsbD_extractLsb', BitVec.getMsbD]
    simp only [h, decide_true, Bool.true_and, show 7 - position < 32 by omega]
    congr 1
    omega
  simp only [feedByte, List.foldl_cons, List.foldl_nil, hbit _ (show 7 < 8 by omega),
    hbit _ (show 6 < 8 by omega), hbit _ (show 5 < 8 by omega), hbit _ (show 4 < 8 by omega),
    hbit _ (show 3 < 8 by omega), hbit _ (show 2 < 8 by omega), hbit _ (show 1 < 8 by omega),
    hbit _ (show 0 < 8 by omega)]
  rw [show register.getMsbD (7 - 7) = register.msb by rfl, feedBit_msb,
    feedBit_shiftLeft, feedBit_shiftLeft, feedBit_shiftLeft, feedBit_shiftLeft,
    feedBit_shiftLeft, feedBit_shiftLeft, feedBit_shiftLeft]

/-- A byte step shifts the register by a byte and adds a word that depends only on the sum of the
byte shifted out and the message byte. -/
theorem feedByte_eq_table (register : BitVec 32) (byte : BitVec 8) :
    feedByte polynomial register byte =
      (register <<< 8) ^^^ feedByte polynomial 0 (topByte register ^^^ byte) := by
  have hbyte : topByte register ^^^ (topByte register ^^^ byte) = byte := by
    rw [← BitVec.xor_assoc, BitVec.xor_self, BitVec.zero_xor]
  calc
    feedByte polynomial register byte =
        feedByte polynomial (register ^^^ 0)
          (topByte register ^^^ (topByte register ^^^ byte)) := by
      rw [hbyte]
      simp
    _ = (register <<< 8) ^^^ feedByte polynomial 0 (topByte register ^^^ byte) := by
      rw [feedByte_xor, feedByte_top]

/-! ## A message followed by its checksum -/

/-- The four bytes of a register, most significant first. -/
def bytes (register : BitVec 32) : List (BitVec 8) :=
  [topByte register, topByte (register <<< 8), topByte (register <<< 16),
    topByte (register <<< 24)]

/-- A register fed its own four bytes ends at zero. -/
theorem checksum_bytes (register : BitVec 32) :
    checksum polynomial register (bytes register) = 0 := by
  have hshift (count : ℕ) : feedByte polynomial (register <<< count)
      (topByte (register <<< count)) = register <<< (count + 8) := by
    rw [feedByte_top, BitVec.shiftLeft_add]
  simp only [bytes, checksum_cons, checksum_nil]
  rw [feedByte_top, hshift, hshift, hshift]
  exact BitVec.shiftLeft_eq_zero (by omega)

/-- A receiver that runs over a message and its appended checksum ends at zero. -/
theorem checksum_append_self (initial : BitVec 32) (message : List (BitVec 8)) :
    checksum polynomial initial
      (message ++ bytes (checksum polynomial initial message)) = 0 := by
  rw [checksum_append, checksum_bytes]

end SpTsMuxer.Crc
