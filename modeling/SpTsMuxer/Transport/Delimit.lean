import SpTsMuxer.Transport.Demux

/-!
# PES Packets Delimited by Their Length

The length field of a PES packet counts the bytes that follow it, in 16 bits.  Zero stands for a
length that is not given, which is allowed in video streams only.  A receiver of audio can cut a
PES packet at this length instead of waiting for the next one.
-/

namespace SpTsMuxer.Transport

/-- The bytes from the first start code on. -/
def fromStartCode : List UInt8 → List UInt8
  | [] => []
  | byte :: rest =>
      if [0x00, 0x00, 0x01] <+: byte :: rest then byte :: rest else fromStartCode rest

/-- The `PES_packet_length`. -/
def pesPacketLength (bytes : List UInt8) : ℕ := byteAt bytes 4 * 256 + byteAt bytes 5

/-- The stream identifiers of video are `0xe0` to `0xef`. -/
def isVideoStreamId (streamId : ℕ) : Bool := streamId / 16 = 14

/-- The length field counts the bytes after it, or is zero and in a video stream. -/
def LengthTrue (bytes : List UInt8) : Prop :=
  bytes.length = 6 + pesPacketLength bytes ∨
    (pesPacketLength bytes = 0 ∧ isVideoStreamId (byteAt bytes 3) = true)

/-- Cut a PES packet at its length. -/
def delimited (streamId : UInt8) (bytes : List UInt8) : Option AccessUnit :=
  if startCode streamId <+: bytes then some (parsePes (bytes.take (6 + pesPacketLength bytes)))
  else none

section Header

variable (streamId : UInt8) (packetLength pts : ℕ) (data : List UInt8)

theorem fromStartCode_pesHeader :
    fromStartCode (pesHeader streamId packetLength pts ++ data) =
      pesHeader streamId packetLength pts ++ data := by
  change (if [0x00, 0x00, 0x01] <+: _ then _ else _) = _
  exact if_pos ⟨_, rfl⟩

theorem fromStartCode_zero_pesHeader :
    fromStartCode (0x00 :: (pesHeader streamId packetLength pts ++ data)) =
      pesHeader streamId packetLength pts ++ data := by
  have hzero : ¬[0x00, 0x00, 0x01] <+: 0x00 :: (pesHeader streamId packetLength pts ++ data) := by
    rintro ⟨tail, htail⟩
    simp [pesHeader] at htail
  rw [fromStartCode, if_neg hzero, fromStartCode_pesHeader]

/-- The field holds the lower 16 bits of the length. -/
theorem pesPacketLength_pesHeader :
    pesPacketLength (pesHeader streamId packetLength pts ++ data) = packetLength % 2 ^ 16 := by
  change (UInt8.ofNat _).toNat * 256 + (UInt8.ofNat _).toNat = _
  rw [UInt8.toNat_ofNat', UInt8.toNat_ofNat']
  omega

/-- Outside of video the field is true exactly if the length fits 16 bits. -/
theorem lengthTrue_pesHeader_iff (hid : isVideoStreamId streamId.toNat = false) :
    LengthTrue (pesHeader streamId (data.length + 8) pts ++ data) ↔ data.length ≤ 65527 := by
  have hbyte : byteAt (pesHeader streamId (data.length + 8) pts ++ data) 3 = streamId.toNat := rfl
  rw [LengthTrue, hbyte, hid, pesPacketLength_pesHeader, List.length_append, length_pesHeader]
  simp only [Bool.false_eq_true, and_false, or_false]
  omega

theorem length_payload_parsePes_le (bytes : List UInt8) :
    (parsePes bytes).payload.length ≤ bytes.length - 9 := by
  change (bytes.drop (9 + byteAt bytes 8)).length ≤ _
  rw [List.length_drop]
  omega

/-- A receiver that goes by the length sees the whole packet exactly if the length fits 16 bits. -/
theorem delimited_pesHeader_iff :
    delimited streamId (pesHeader streamId (data.length + 8) pts ++ data) =
        some ⟨some (pts % 2 ^ 33), data⟩ ↔ data.length ≤ 65527 := by
  rw [delimited, if_pos (startCode_prefix_pesHeader _ _ _ _), Option.some.injEq,
    pesPacketLength_pesHeader]
  constructor
  · intro hparse
    by_contra hlong
    have hlength := length_payload_parsePes_le
      ((pesHeader streamId (data.length + 8) pts ++ data).take
        (6 + (data.length + 8) % 2 ^ 16))
    rw [hparse, List.length_take] at hlength
    change data.length ≤ _ at hlength
    omega
  · intro hshort
    rw [List.take_of_length_le, parsePes_pesHeader]
    rw [List.length_append, length_pesHeader]
    omega

/-- A stray byte hides the packet from a receiver that looks at the beginning only. -/
theorem delimited_zero_pesHeader :
    delimited streamId (0x00 :: (pesHeader streamId packetLength pts ++ data)) = none := by
  refine if_neg ?_
  rintro ⟨tail, htail⟩
  simp [startCode, pesHeader] at htail

end Header

end SpTsMuxer.Transport
