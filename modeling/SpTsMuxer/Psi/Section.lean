import SpTsMuxer.Memory.Block
import SpTsMuxer.Psi.Crc

/-!
# Program Specific Information as `psi.c` Writes It

The PAT and the PMT are built in place, in the payload of a packet of 188 bytes.  A section is
known to the functions by a pointer into that packet, here the offset `data`; every store is
checked against the end of the packet.

The PMT changes over time: each stream that is added overwrites the old CRC, moves the end of the
section by five bytes and stores a new CRC, and setting the PCR PID stores a new CRC in place.
-/

namespace SpTsMuxer.Psi

open Memory Transport

def patPid : UInt16 := 0x0

def psiSectionHeaderLength : ℕ := 8

def streamTypeReserved : UInt8 := 0x00

def streamTypeVideoH264 : UInt8 := 0x1b

def streamTypeAudioAac : UInt8 := 0x0f

/-- `struct _PsiSectionHeadInfo`, less the pointer field that no function reads. -/
structure PsiSectionHeadInfo where
  tableId : UInt8
  sectionLength : UInt16
  id : UInt16
  versionNumber : UInt8
  sectionNumber : UInt8
  lastSectionNumber : UInt8
  deriving DecidableEq

/-- `struct _PsiPmtSectionInfo`. -/
structure PsiPmtSectionInfo where
  sectionLength : UInt16
  programNumber : UInt16
  pcrPid : UInt16
  programInfoLength : UInt16
  videoPid : UInt16
  videoStreamType : UInt8
  audioPid : UInt16
  audioStreamType : UInt8
  deriving DecidableEq

/-- `struct _PsiPmtSection`: `data` is the offset of the section in its packet. -/
structure PsiPmtSection where
  sectionInfo : PsiPmtSectionInfo
  data : ℕ
  deriving DecidableEq

/-- The two bytes of a word, after `bits` are set in the first. -/
def wordBytes (bits : UInt16) (word : UInt16) : List UInt8 :=
  [(bits ||| (word >>> 8)).toUInt8, (0xff &&& word).toUInt8]

/-- The bytes `psi_section_header_set` stores, the pointer field first. -/
def psiSectionHeaderBytes (info : PsiSectionHeadInfo) : List UInt8 :=
  [0x00, info.tableId] ++ wordBytes 0xb0 info.sectionLength ++ wordBytes 0x00 info.id ++
    [(0xc0 : UInt8) ||| (info.versionNumber <<< 1) ||| 0x01, info.sectionNumber,
      info.lastSectionNumber]

section Stores

variable {size : ℕ} (memory : Block UInt8 size)

/-- `psi_section_header_set`. -/
def psiSectionHeaderSet (psi : ℕ) (info : PsiSectionHeadInfo) : Except Fault (Block UInt8 size) :=
  memory.store psi (psiSectionHeaderBytes info)

/-- The last stores of each builder: the CRC over the `length` bytes after the pointer field of
the section at `data`, stored at `buf`. -/
def crcStore (data length buf : ℕ) : Except Fault (Block UInt8 size) := do
  let covered ← load memory.cells (data + 1) length
  memory.store buf (crcBytes (calcCrc32 covered))

/-- `psi_pat_section_set`. -/
def psiPatSectionSet (patSection : ℕ) (programNumber pmtPid : UInt16) :
    Except Fault (Block UInt8 size) := do
  let memory ← psiSectionHeaderSet memory patSection {
    tableId := 0
    sectionLength := 0x0d
    id := 0x01
    versionNumber := 0x0
    sectionNumber := 0x0
    lastSectionNumber := 0x0 }
  let buf := patSection + psiSectionHeaderLength + 1
  let memory ← memory.store buf (wordBytes 0x00 programNumber ++ wordBytes 0xe0 pmtPid)
  let buf := buf + 4
  crcStore memory patSection (buf - patSection - 1) buf

/-- `psi_pmt_section_init`.  It stores no CRC. -/
def psiPmtSectionInit (pmtSection : PsiPmtSection) (programNumber : UInt16) :
    Except Fault (Block UInt8 size × PsiPmtSection) := do
  let memory ← psiSectionHeaderSet memory pmtSection.data {
    tableId := 0x02
    sectionLength := 0x0d
    id := programNumber
    versionNumber := 0x0
    sectionNumber := 0x0
    lastSectionNumber := 0x0 }
  let buf := pmtSection.data + psiSectionHeaderLength + 1
  let memory ← memory.store buf [0xe0, 0x00, 0xf0, 0x00]
  pure (memory, { pmtSection with
    sectionInfo := {
      sectionLength := 0x0d
      programNumber := programNumber
      programInfoLength := 0
      pcrPid := 0
      videoPid := 0
      videoStreamType := streamTypeReserved
      audioPid := 0
      audioStreamType := streamTypeReserved } })

/-- `psi_pmt_section_pcr_pid_set`. -/
def psiPmtSectionPcrPidSet (pmtSection : PsiPmtSection) (pcrPid : UInt16) :
    Except Fault (Block UInt8 size × PsiPmtSection) := do
  let buf := pmtSection.data + psiSectionHeaderLength + 1
  let pmtSection := { pmtSection with
    sectionInfo := { pmtSection.sectionInfo with pcrPid := pcrPid } }
  let memory ← memory.store buf (wordBytes 0xe0 pcrPid)
  let length := pmtSection.sectionInfo.sectionLength.toNat
  let memory ← crcStore memory pmtSection.data (length - 1) (pmtSection.data + length)
  pure (memory, pmtSection)

/-- The `switch` of `psi_pmt_section_stream_add`: the stream type byte, if the type is one of the
two that are known, and the fields that remember the stream. -/
def streamTypeCase (info : PsiPmtSectionInfo) (streamType : UInt8) (streamPid : UInt16) :
    List UInt8 × PsiPmtSectionInfo :=
  if streamType = streamTypeVideoH264 then
    ([streamTypeVideoH264], { info with videoPid := streamPid, videoStreamType := streamType })
  else if streamType = streamTypeAudioAac then
    ([streamTypeAudioAac], { info with audioPid := streamPid, audioStreamType := streamType })
  else ([], info)

/-- `psi_pmt_section_stream_add`. -/
def psiPmtSectionStreamAdd (pmtSection : PsiPmtSection) (streamType : UInt8)
    (streamPid : UInt16) : Except Fault (Block UInt8 size × PsiPmtSection) := do
  let info := { pmtSection.sectionInfo with
    sectionLength := pmtSection.sectionInfo.sectionLength + 5 }
  let length := info.sectionLength.toNat
  let memory ← memory.store (pmtSection.data + 2) (wordBytes 0xb0 info.sectionLength)
  let buf := pmtSection.data + length - 5
  let (typeByte, info) := streamTypeCase info streamType streamPid
  let entry := typeByte ++ wordBytes 0xe0 streamPid ++ [0xf0, 0x00]
  let memory ← memory.store buf entry
  let buf := buf + entry.length
  let memory ← crcStore memory pmtSection.data (length - 1) buf
  pure (memory, { pmtSection with sectionInfo := info })

end Stores

end SpTsMuxer.Psi
