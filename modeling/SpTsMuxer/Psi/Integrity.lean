import Mathlib.Data.List.Basic
import SpTsMuxer.Crc.ErrorDetection
import SpTsMuxer.Psi.Crc

/-!
# What the CRC of a Section Notices

`calc_crc32` feeds its bytes to the CRC-32 register bit by bit.  The polynomial has constant term
one, so the four bytes that make the checksum of a whole zero are those of its own checksum and no
others, and two data that differ in four bytes at one place have different checksums.
-/

namespace SpTsMuxer.Psi

open Crc Memory Transport

/-- The table-driven loop is the bit-serial CRC-32, most significant bit first, without reflection
and without a final sum. -/
theorem calcCrc32_eq_bitSerial (data : List UInt8) :
    (calcCrc32 data).toBitVec =
      (data.flatMap fun byte ↦ bits byte.toBitVec).foldl (feedBit 0x04C11DB7#32) 0xFFFFFFFF#32 := by
  rw [calcCrc32_toBitVec, mpegCrc, checksum_eq_foldl_bits, List.flatMap_map]
  rfl

theorem mpegPolynomial_odd : mpegPolynomial.getLsbD 0 = true := by decide

theorem calcCrc32_append (first second : List UInt8) :
    (calcCrc32 (first ++ second)).toBitVec =
      checksum mpegPolynomial (calcCrc32 first).toBitVec (second.map UInt8.toBitVec) := by
  rw [calcCrc32, List.foldl_append, foldl_calcCrc32Step_toBitVec]
  rfl

theorem exists_bytes (field : Block UInt8 4) :
    ∃ word, field.cells.map UInt8.toBitVec = bytes word := by
  obtain ⟨cells, hlength⟩ := field
  obtain ⟨first, second, third, fourth, rfl⟩ := List.length_eq_four.mp hlength
  exact ⟨ofBytes _ _ _ _, (bytes_ofBytes _ _ _ _).symm⟩

theorem map_toBitVec_injective : Function.Injective (List.map UInt8.toBitVec) :=
  List.map_injective_iff.mpr fun _ _ ↦ UInt8.toBitVec_inj.mp

theorem map_toBitVec_crcBytes (data : List UInt8) :
    (crcBytes (calcCrc32 data)).map UInt8.toBitVec = bytes (calcCrc32 data).toBitVec := by
  rw [crcBytes_calcCrc32, crcField, List.map_map, calcCrc32_toBitVec]
  exact List.map_id _

/-- Receivers accept exactly the right CRC: the four bytes that the builders store after the data,
and no others. -/
theorem calcCrc32_append_eq_zero_iff (data : List UInt8) (field : Block UInt8 4) :
    calcCrc32 (data ++ field.cells) = 0 ↔ field.cells = crcBytes (calcCrc32 data) := by
  obtain ⟨word, hword⟩ := exists_bytes field
  let register := (calcCrc32 data).toBitVec
  have hbytes : bytes word = bytes register ↔ word = register :=
    (checksum_bytes_injective mpegPolynomial_odd register).of_comp.eq_iff
  calc
    calcCrc32 (data ++ field.cells) = 0 ↔ checksum mpegPolynomial register (bytes word) = 0 := by
      rw [← UInt32.toBitVec_inj, calcCrc32_append, hword]
      rfl
    _ ↔ word = register := checksum_bytes_eq_zero_iff mpegPolynomial_odd register word
    _ ↔ bytes word = bytes register := hbytes.symm
    _ ↔ field.cells.map UInt8.toBitVec = (crcBytes (calcCrc32 data)).map UInt8.toBitVec := by
      rw [hword, map_toBitVec_crcBytes]
    _ ↔ field.cells = crcBytes (calcCrc32 data) := map_toBitVec_injective.eq_iff

/-- No change of four bytes goes unnoticed, whatever is before and after them. -/
theorem calcCrc32_append_inj (before after : List UInt8) (left right : Block UInt8 4) :
    calcCrc32 (before ++ left.cells ++ after) = calcCrc32 (before ++ right.cells ++ after) ↔
      left = right := by
  refine ⟨fun h ↦ ?_, fun h ↦ by rw [h]⟩
  obtain ⟨wordLeft, hleft⟩ := exists_bytes left
  obtain ⟨wordRight, hright⟩ := exists_bytes right
  have hregister := congrArg UInt32.toBitVec h
  rw [calcCrc32_append, calcCrc32_append _ after] at hregister
  have hword := checksum_injective mpegPolynomial_odd _ hregister
  rw [calcCrc32_append, calcCrc32_append, hleft, hright] at hword
  have hsame := checksum_bytes_injective mpegPolynomial_odd _ hword
  apply Block.ext
  apply map_toBitVec_injective
  rw [hleft, hright, hsame]

/-- Receivers accept exactly the right CRC and notice any corruption of four bytes. -/
theorem crc_detects :
    (∀ data, calcCrc32 (data ++ crcBytes (calcCrc32 data)) = 0) ∧
      (∀ data (field : Block UInt8 4),
        calcCrc32 (data ++ field.cells) = 0 ↔ field.cells = crcBytes (calcCrc32 data)) ∧
      ∀ before after (left right : Block UInt8 4),
        calcCrc32 (before ++ left.cells ++ after) = calcCrc32 (before ++ right.cells ++ after) ↔
          left = right :=
  ⟨fun data ↦ (calcCrc32_append_eq_zero_iff data ⟨crcBytes (calcCrc32 data), rfl⟩).mpr rfl,
    calcCrc32_append_eq_zero_iff, calcCrc32_append_inj⟩

end SpTsMuxer.Psi
