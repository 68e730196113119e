import SpTsMuxer.Crc.BitSerial
import SpTsMuxer.Transport.Packet

/-!
# Program Specific Information of ISO 13818-1

A long section starts after the pointer field of a payload and ends with a CRC over everything
before it.  A receiver cuts it out by its own length field and drops it unless the bit-serial
CRC over all of it is zero.  Program association and program map sections list their entries in
the contents of such a section.

For each of the three levels the module has an encoding and a reader, and the reader gives back
what was encoded.
-/

namespace SpTsMuxer.Transport

/-! ## The checksum -/

def mpegPolynomial : BitVec 32 := 0x04C11DB7#32

/-- The CRC-32 of the standard: initial register all ones, most significant bit first. -/
def mpegCrc (data : List UInt8) : BitVec 32 :=
  Crc.checksum mpegPolynomial 0xFFFFFFFF#32 (data.map UInt8.toBitVec)

/-- The `CRC_32` field for the bytes before it. -/
def crcField (data : List UInt8) : List UInt8 :=
  (Crc.bytes (mpegCrc data)).map UInt8.ofBitVec

@[simp]
theorem length_crcField (data : List UInt8) : (crcField data).length = 4 := rfl

/-- A section that ends with its `CRC_32` field is valid. -/
theorem mpegCrc_append_crcField (data : List UInt8) : mpegCrc (data ++ crcField data) = 0 := by
  have hbytes : (crcField data).map UInt8.toBitVec = Crc.bytes (mpegCrc data) := by
    rw [crcField, List.map_map]
    exact List.map_id _
  rw [mpegCrc, List.map_append, hbytes]
  exact Crc.checksum_append_self _ _ _

/-! ## Long sections -/

/-- A section by its table, the number in its header and its contents. -/
@[ext]
structure LongSection where
  tableId : ℕ
  number : ℕ
  contents : List UInt8
  deriving DecidableEq, Repr

/-- The bytes the CRC covers: version 0, current, section 0 of 0. -/
def LongSection.covered (psi : LongSection) : List UInt8 :=
  [UInt8.ofNat psi.tableId, UInt8.ofNat (0xb0 + (psi.contents.length + 9) / 256),
    UInt8.ofNat (psi.contents.length + 9), UInt8.ofNat (psi.number / 256),
    UInt8.ofNat psi.number, 0xc1, 0x00, 0x00] ++ psi.contents

/-- A payload that starts with the section: pointer field, section, and `0xff` to the end. -/
def LongSection.payload (psi : LongSection) : List UInt8 :=
  0x00 :: psi.covered ++ crcField psi.covered ++
    List.replicate (171 - psi.contents.length) 0xff

/-- The bytes of the section a payload starts with, as far as its length field says. -/
def sectionBytes (payload : List UInt8) : List UInt8 :=
  let start := payload.drop (1 + byteAt payload 0)
  start.take (3 + (byteAt start 1 % 16 * 256 + byteAt start 2))

/-- The section a payload starts with, if its CRC is valid. -/
def readLongSection (payload : List UInt8) : Option LongSection :=
  let bytes := sectionBytes payload
  if mpegCrc bytes = 0 then
    some {
      tableId := byteAt bytes 0
      number := byteAt bytes 3 * 256 + byteAt bytes 4
      contents := (bytes.drop 8).take (bytes.length - 12) }
  else none

@[simp]
theorem LongSection.length_covered (psi : LongSection) :
    psi.covered.length = psi.contents.length + 8 := by
  simp [covered]

theorem LongSection.length_payload (psi : LongSection) (h : psi.contents.length ≤ 171) :
    psi.payload.length = 184 := by
  simp only [payload, List.cons_append, List.length_cons, List.length_append, length_covered,
    length_crcField, List.length_replicate]
  omega

theorem LongSection.sectionBytes_payload (psi : LongSection) (h : psi.contents.length ≤ 171) :
    sectionBytes psi.payload = psi.covered ++ crcField psi.covered := by
  have hstart : psi.payload.drop (1 + byteAt psi.payload 0) =
      (psi.covered ++ crcField psi.covered) ++
        List.replicate (171 - psi.contents.length) 0xff := rfl
  have hlength : byteAt ((psi.covered ++ crcField psi.covered) ++
      List.replicate (171 - psi.contents.length) 0xff) 1 % 16 * 256 +
        byteAt ((psi.covered ++ crcField psi.covered) ++
          List.replicate (171 - psi.contents.length) 0xff) 2 = psi.contents.length + 9 := by
    change (UInt8.ofNat _).toNat % 16 * 256 + (UInt8.ofNat _).toNat = _
    rw [UInt8.toNat_ofNat', UInt8.toNat_ofNat']
    omega
  unfold sectionBytes
  dsimp only
  rw [hstart, hlength]
  apply List.take_left'
  rw [List.length_append, LongSection.length_covered, length_crcField]
  omega

/-- A receiver reads back the section that was sent. -/
theorem readLongSection_payload (psi : LongSection) (htable : psi.tableId < 256)
    (hnumber : psi.number < 65536) (h : psi.contents.length ≤ 171) :
    readLongSection psi.payload = some psi := by
  unfold readLongSection
  dsimp only
  rw [psi.sectionBytes_payload h, if_pos (mpegCrc_append_crcField _)]
  congr 1
  ext1
  · change (UInt8.ofNat _).toNat = _
    rw [UInt8.toNat_ofNat']
    omega
  · change (UInt8.ofNat _).toNat * 256 + (UInt8.ofNat _).toNat = _
    rw [UInt8.toNat_ofNat', UInt8.toNat_ofNat']
    omega
  · rw [List.length_append, LongSection.length_covered, length_crcField,
      show psi.contents.length + 8 + 4 - 12 = psi.contents.length by omega]
    change ((psi.contents ++ crcField psi.covered).take psi.contents.length) = _
    exact List.take_left

/-! ## Program association -/

/-- Program number and PID, with three reserved bits set. -/
def patEntry (entry : ℕ × ℕ) : List UInt8 :=
  [UInt8.ofNat (entry.1 / 256), UInt8.ofNat entry.1, UInt8.ofNat (0xe0 + entry.2 / 256),
    UInt8.ofNat entry.2]

/-- The entries of a program association section. -/
def readPatEntries : List UInt8 → List (ℕ × ℕ)
  | a :: b :: c :: d :: rest =>
      (a.toNat * 256 + b.toNat, c.toNat % 32 * 256 + d.toNat) :: readPatEntries rest
  | _ => []

theorem readPatEntries_flatMap (entries : List (ℕ × ℕ))
    (h : ∀ entry ∈ entries, entry.1 < 65536 ∧ entry.2 < 8192) :
    readPatEntries (entries.flatMap patEntry) = entries := by
  induction entries with
  | nil => rfl
  | cons entry rest ih =>
      obtain ⟨hnumber, hpid⟩ := h entry (by simp)
      have htail := ih fun other hmem ↦ h other (by simp [hmem])
      rw [List.flatMap_cons, patEntry]
      simp only [List.cons_append, List.nil_append, readPatEntries, htail, UInt8.toNat_ofNat']
      refine congrArg (· :: rest) (Prod.ext ?_ ?_) <;> dsimp only <;> omega

/-- The program association a payload carries, if it starts with a valid section of that table. -/
def readProgramAssociation (payload : List UInt8) : Option (List (ℕ × ℕ)) :=
  match readLongSection payload with
  | none => none
  | some psi => if psi.tableId = 0 then some (readPatEntries psi.contents) else none

/-- A receiver reads back the program association that was sent. -/
theorem readProgramAssociation_payload {psi : LongSection} (htable : psi.tableId = 0)
    (hnumber : psi.number < 65536) (hlength : psi.contents.length ≤ 171)
    {entries : List (ℕ × ℕ)} (hcontents : psi.contents = entries.flatMap patEntry)
    (hentries : ∀ entry ∈ entries, entry.1 < 65536 ∧ entry.2 < 8192) :
    readProgramAssociation psi.payload = some entries := by
  rw [readProgramAssociation, readLongSection_payload psi (by omega) hnumber hlength]
  dsimp only
  rw [if_pos htable, hcontents, readPatEntries_flatMap entries hentries]

/-! ## Program map -/

/-- What a program map section says of its program. -/
@[ext]
structure ProgramMap where
  programNumber : ℕ
  pcrPid : ℕ
  streams : List (ℕ × ℕ)
  deriving DecidableEq, Repr

/-- The numbers of a program map fit their fields, and the section fits one payload. -/
structure ProgramMap.Fits (map : ProgramMap) : Prop where
  programNumber_lt : map.programNumber < 65536
  pcrPid_lt : map.pcrPid < 8192
  streams_lt : ∀ stream ∈ map.streams, stream.1 < 256 ∧ stream.2 < 8192
  length_le : map.streams.length ≤ 33

/-- Stream type and PID, without descriptors. -/
def pmtEntry (stream : ℕ × ℕ) : List UInt8 :=
  [UInt8.ofNat stream.1, UInt8.ofNat (0xe0 + stream.2 / 256), UInt8.ofNat stream.2, 0xf0, 0x00]

/-- The section of a program map: PCR PID, no program descriptors, the streams in order. -/
def ProgramMap.toSection (map : ProgramMap) : LongSection where
  tableId := 2
  number := map.programNumber
  contents := [UInt8.ofNat (0xe0 + map.pcrPid / 256), UInt8.ofNat map.pcrPid, 0xf0, 0x00] ++
    map.streams.flatMap pmtEntry

/-- The streams of a program map section, each with its descriptors skipped. -/
def readPmtEntries : List UInt8 → List (ℕ × ℕ)
  | type :: high :: low :: infoHigh :: infoLow :: rest =>
      (type.toNat, high.toNat % 32 * 256 + low.toNat) ::
        readPmtEntries (rest.drop (infoHigh.toNat % 16 * 256 + infoLow.toNat))
  | _ => []
termination_by bytes => bytes.length
decreasing_by
  simp only [List.length_drop, List.length_cons]
  omega

/-- The program map a payload carries, if it starts with a valid program map section. -/
def readProgramMap (payload : List UInt8) : Option ProgramMap :=
  match readLongSection payload with
  | none => none
  | some psi =>
      if psi.tableId = 2 then
        some {
          programNumber := psi.number
          pcrPid := byteAt psi.contents 0 % 32 * 256 + byteAt psi.contents 1
          streams := readPmtEntries (psi.contents.drop
            (4 + (byteAt psi.contents 2 % 16 * 256 + byteAt psi.contents 3))) }
      else none

theorem readPmtEntries_flatMap (streams : List (ℕ × ℕ))
    (h : ∀ stream ∈ streams, stream.1 < 256 ∧ stream.2 < 8192) :
    readPmtEntries (streams.flatMap pmtEntry) = streams := by
  induction streams with
  | nil => simp [readPmtEntries]
  | cons stream rest ih =>
      obtain ⟨htype, hpid⟩ := h stream (by simp)
      have htail := ih fun other hmem ↦ h other (by simp [hmem])
      rw [List.flatMap_cons, pmtEntry]
      simp only [List.cons_append, List.nil_append, readPmtEntries, List.drop_zero, htail,
        show (0xf0 : UInt8).toNat % 16 * 256 + (0x00 : UInt8).toNat = 0 from rfl,
        UInt8.toNat_ofNat']
      refine congrArg (· :: rest) (Prod.ext ?_ ?_) <;> dsimp only <;> omega

@[simp]
theorem length_flatMap_pmtEntry (streams : List (ℕ × ℕ)) :
    (streams.flatMap pmtEntry).length = 5 * streams.length := by
  induction streams with
  | nil => rfl
  | cons stream rest ih =>
      have hentry : (pmtEntry stream).length = 5 := rfl
      rw [List.flatMap_cons, List.length_append, ih, List.length_cons, hentry]
      omega

@[simp]
theorem ProgramMap.length_contents (map : ProgramMap) :
    map.toSection.contents.length = 4 + 5 * map.streams.length := by
  simp only [toSection, List.length_append, length_flatMap_pmtEntry]
  rfl

/-- A receiver reads back the program map that was sent. -/
theorem readProgramMap_payload (map : ProgramMap) (h : map.Fits) :
    readProgramMap map.toSection.payload = some map := by
  have hlength := h.length_le
  have hpcr := h.pcrPid_lt
  have hread := readLongSection_payload map.toSection (by simp [ProgramMap.toSection])
    h.programNumber_lt (by rw [ProgramMap.length_contents]; omega)
  have hinfo : 4 + (byteAt map.toSection.contents 2 % 16 * 256 +
      byteAt map.toSection.contents 3) = 4 := by
    change 4 + ((0xf0 : UInt8).toNat % 16 * 256 + (0x00 : UInt8).toNat) = 4
    decide
  rw [readProgramMap, hread]
  dsimp only
  rw [if_pos (show map.toSection.tableId = 2 from rfl), hinfo]
  refine congrArg some ?_
  ext1
  · rfl
  · change (UInt8.ofNat _).toNat % 32 * 256 + (UInt8.ofNat _).toNat = _
    rw [UInt8.toNat_ofNat', UInt8.toNat_ofNat']
    omega
  · exact readPmtEntries_flatMap _ h.streams_lt

end SpTsMuxer.Transport
