import Mathlib.Logic.Function.Basic
import SpTsMuxer.Crc.BitSerial

/-!
# What a Checksum Notices

When the constant term of the polynomial is one, a bit step loses nothing of the register: no two
registers lead to the same one by the same bit.  Neither does any message (`checksum_injective`).

Feeding a word of four bytes comes to adding it to the register and feeding four zero bytes
(`checksum_bytes_eq`).  So two different words lead to different registers, whatever comes before
and after them.
-/

namespace SpTsMuxer.Crc

/-! ## Messages as bits -/

/-- The bits of a byte, most significant bit first. -/
def bits (byte : BitVec 8) : List Bool := [7, 6, 5, 4, 3, 2, 1, 0].map byte.getLsbD

theorem checksum_eq_foldl_bits (polynomial initial : BitVec 32) (message : List (BitVec 8)) :
    checksum polynomial initial message =
      (message.flatMap bits).foldl (feedBit polynomial) initial := by
  induction message generalizing initial with
  | nil => rfl
  | cons byte rest ih =>
      rw [checksum_cons, ih, List.flatMap_cons, List.foldl_append]
      rfl

/-! ## Nothing of the register is lost -/

theorem foldl_injective {State Input : Type} {step : State → Input → State}
    (hstep : ∀ input, Function.Injective fun state ↦ step state input) (inputs : List Input) :
    Function.Injective fun state ↦ inputs.foldl step state := by
  induction inputs with
  | nil => exact Function.injective_id
  | cons input rest ih => exact ih.comp (hstep input)

section Injective

variable {polynomial : BitVec 32} (hodd : polynomial.getLsbD 0 = true)
include hodd

theorem eq_zero_of_feedBit {register : BitVec 32} (h : feedBit polynomial register false = 0) :
    register = 0 := by
  rw [feedBit, Bool.xor_false] at h
  cases hmsb : register.msb with
  | true =>
      rw [hmsb, if_pos rfl] at h
      have hlast : (register <<< 1 ^^^ polynomial).getLsbD 0 = false := by rw [h]; rfl
      rw [BitVec.getLsbD_xor, hodd] at hlast
      simp at hlast
  | false =>
      rw [hmsb, if_neg Bool.false_ne_true] at h
      apply BitVec.eq_of_getMsbD_eq
      intro position hposition
      cases position with
      | zero => simpa [BitVec.msb] using hmsb
      | succ position =>
          have hbit := congrArg (BitVec.getMsbD · position) h
          simpa [BitVec.getMsbD_shiftLeft, Nat.add_comm] using hbit

theorem feedBit_injective (bit : Bool) :
    Function.Injective fun register ↦ feedBit polynomial register bit := by
  intro left right h
  have hsum := feedBit_xor polynomial left right bit bit
  rw [show feedBit polynomial left bit = feedBit polynomial right bit from h, BitVec.xor_self,
    Bool.xor_self] at hsum
  exact BitVec.xor_eq_zero_iff.mp (eq_zero_of_feedBit hodd hsum)

/-- No message loses anything of the register. -/
theorem checksum_injective (message : List (BitVec 8)) :
    Function.Injective fun register ↦ checksum polynomial register message := by
  simp only [checksum_eq_foldl_bits]
  exact foldl_injective (feedBit_injective hodd) _

end Injective

/-! ## Words of four bytes -/

theorem topByte_xor (left right : BitVec 32) :
    topByte (left ^^^ right) = topByte left ^^^ topByte right := by
  rw [topByte, topByte, topByte, BitVec.extractLsb'_xor]

theorem checksum_bytes_xor (polynomial left right wordLeft wordRight : BitVec 32) :
    checksum polynomial (left ^^^ right) (bytes (wordLeft ^^^ wordRight)) =
      checksum polynomial left (bytes wordLeft) ^^^
        checksum polynomial right (bytes wordRight) := by
  simp only [bytes, checksum_cons, checksum_nil, BitVec.shiftLeft_xor_distrib, topByte_xor,
    feedByte_xor]

/-- A word is added to the register, and shifted out of it by four zero bytes. -/
theorem checksum_bytes_eq (polynomial register word : BitVec 32) :
    checksum polynomial register (bytes word) =
      checksum polynomial (register ^^^ word) (bytes 0) := by
  have hregister : register ^^^ word ^^^ word = register := by
    rw [BitVec.xor_assoc, BitVec.xor_self, BitVec.xor_zero]
  calc
    checksum polynomial register (bytes word) =
        checksum polynomial (register ^^^ word ^^^ word) (bytes (0 ^^^ word)) := by
      simp [hregister]
    _ = checksum polynomial (register ^^^ word) (bytes 0) ^^^
        checksum polynomial word (bytes word) := checksum_bytes_xor _ _ _ _ _
    _ = checksum polynomial (register ^^^ word) (bytes 0) := by
      simp [checksum_bytes]

/-- The word of four bytes, most significant byte first. -/
def ofBytes (first second third fourth : BitVec 8) : BitVec 32 := first ++ second ++ third ++ fourth

theorem bytes_ofBytes (first second third fourth : BitVec 8) :
    bytes (ofBytes first second third fourth) = [first, second, third, fourth] := by
  simp only [bytes, ofBytes, topByte, List.cons.injEq, and_true]
  refine ⟨?_, ?_, ?_, ?_⟩ <;>
  · apply BitVec.eq_of_getLsbD_eq
    intro position hposition
    simp only [BitVec.getLsbD_extractLsb', BitVec.getLsbD_shiftLeft, BitVec.getLsbD_append]
    grind

section Words

variable {polynomial : BitVec 32} (hodd : polynomial.getLsbD 0 = true)
include hodd

/-- No two words lead to the same register. -/
theorem checksum_bytes_injective (register : BitVec 32) :
    Function.Injective fun word ↦ checksum polynomial register (bytes word) := by
  intro left right h
  change checksum polynomial register (bytes left) = checksum polynomial register (bytes right) at h
  rw [checksum_bytes_eq, checksum_bytes_eq polynomial register right] at h
  exact (BitVec.xor_right_inj register).mp (checksum_injective hodd _ h)

theorem checksum_bytes_eq_zero_iff (register word : BitVec 32) :
    checksum polynomial register (bytes word) = 0 ↔ word = register := by
  constructor
  · intro h
    exact checksum_bytes_injective hodd register (h.trans (checksum_bytes polynomial register).symm)
  · rintro rfl
    exact checksum_bytes polynomial word

end Words

end SpTsMuxer.Crc
