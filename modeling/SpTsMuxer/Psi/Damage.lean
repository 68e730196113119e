import SpTsMuxer.Crc.Burst
import SpTsMuxer.Psi.Integrity

/-!
# Damaged Sections

A receiver has nothing but the CRC to tell a damaged table from a sound one.  The table-driven CRC
of the source notices every burst of up to 32 wrong bits, wherever it begins, and every pair of
wrong bits in what fits one packet.
-/

namespace SpTsMuxer.Psi

open Crc Memory Transport

/-- The bits of some bytes in the order of transmission. -/
def messageBits (data : List UInt8) : List Bool := data.flatMap fun byte ↦ bits byte.toBitVec

/-- The bits that have been received wrong. -/
def errorBits (sent received : List UInt8) : List Bool :=
  List.zipWith (fun bit other ↦ bit ^^ other) (messageBits sent) (messageBits received)

/-- Damage to some bytes: a burst, or two bits. -/
def Damaged (sent received : List UInt8) : Prop :=
  received.length = sent.length ∧
    (IsBurst (errorBits sent received) ∨ IsPair 1472 (errorBits sent received))

theorem length_messageBits (data : List UInt8) : (messageBits data).length = 8 * data.length := by
  induction data with
  | nil => rfl
  | cons byte rest ih =>
      have hbyte : (bits byte.toBitVec).length = 8 := rfl
      rw [messageBits, List.flatMap_cons, List.length_append, hbyte, List.length_cons]
      change 8 + (messageBits rest).length = _
      rw [ih]
      omega

/-- A payload of a packet has 1472 bits. -/
theorem clearsNone_mpegPolynomial : clearsNone mpegPolynomial 1472 mpegPolynomial = true := by
  decide +kernel

/-- Equal checksums are equal residues. -/
theorem calcCrc32_eq_iff {sent received : List UInt8} (hlength : received.length = sent.length) :
    calcCrc32 sent = calcCrc32 received ↔
      residue mpegPolynomial (errorBits sent received) = 0 := by
  have hbits : (messageBits sent).length = (messageBits received).length := by
    rw [length_messageBits, length_messageBits, hlength]
  rw [← UInt32.toBitVec_inj, calcCrc32_eq_bitSerial, calcCrc32_eq_bitSerial]
  exact foldl_feedBit_eq_iff mpegPolynomial 0xFFFFFFFF#32 hbits

theorem residue_ne_zero_of_damaged {sent received : List UInt8} (h : Damaged sent received) :
    residue mpegPolynomial (errorBits sent received) ≠ 0 := by
  rcases h.2 with hburst | hpair
  · exact residue_ne_zero_of_isBurst mpegPolynomial_odd hburst
  · exact residue_ne_zero_of_isPair mpegPolynomial_odd clearsNone_mpegPolynomial hpair

/-- Damage is noticed.  A burst of up to 32 wrong bits at any bit position, and any two wrong bits
with fewer than 1472 bits between them, change the CRC of any message. -/
theorem calcCrc32_notices_damage {sent received : List UInt8} (h : Damaged sent received) :
    calcCrc32 received ≠ calcCrc32 sent := by
  intro hsame
  exact residue_ne_zero_of_damaged h ((calcCrc32_eq_iff h.1).mp hsame.symm)

/-- Five bytes with a burst that begins in the first and ends in the last. -/
theorem calcCrc32_notices_damage_five_bytes :
    calcCrc32 [0x13, 0x22, 0x33, 0x44, 0xd5] ≠ calcCrc32 [0x11, 0x22, 0x33, 0x44, 0x55] := by
  refine calcCrc32_notices_damage ⟨rfl, .inl ?_⟩
  refine ⟨6, List.replicate 25 false ++ [true], 7, by decide, by decide⟩

/-- A receiver drops a section that has been damaged. -/
theorem readLongSection_of_damaged {payload damaged : List UInt8} {psi : LongSection}
    (hread : readLongSection payload = some psi)
    (h : Damaged (sectionBytes payload) (sectionBytes damaged)) :
    readLongSection damaged = none := by
  have hvalid : mpegCrc (sectionBytes payload) = 0 := by
    by_contra hinvalid
    unfold readLongSection at hread
    dsimp only at hread
    rw [if_neg hinvalid] at hread
    cases hread
  have hnoticed : mpegCrc (sectionBytes damaged) ≠ 0 := by
    intro hzero
    apply residue_ne_zero_of_damaged h
    apply (calcCrc32_eq_iff h.1).mp
    rw [← UInt32.toBitVec_inj, calcCrc32_toBitVec, calcCrc32_toBitVec, hvalid, hzero]
  unfold readLongSection
  dsimp only
  rw [if_neg hnoticed]

end SpTsMuxer.Psi
