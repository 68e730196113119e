import SpTsMuxer.Psi.Section

/-!
# The PMT Packet Represents a Program Map

The abstract object behind a PMT packet is a `ProgramMap`.  Adding a stream appends it to the
map, setting the PCR PID replaces that field.  `PmtShape` says that a packet holds the section of
a map up to its CRC, and `PmtRep` that the CRC is there as well.  Every operation leads from the
shape of a map to the representation of the changed map, so after any sequence of operations the
packet holds the ISO 13818-1 encoding of what was asked for, and nothing else.
-/

namespace SpTsMuxer.Psi

open Memory Transport

/-! ## Two-byte fields -/

theorem word_low (word : UInt16) : (0xff &&& word).toUInt8 = UInt8.ofNat word.toNat := by
  apply UInt8.toNat_inj.mp
  rw [UInt16.toNat_toUInt8, UInt16.toNat_and, UInt8.toNat_ofNat', Nat.and_comm]
  change (word.toNat &&& (2 ^ 8 - 1)) % 2 ^ 8 = _
  rw [Nat.and_two_pow_sub_one_eq_mod, Nat.mod_mod]

theorem word_high (word : UInt16) : word >>> 8 = UInt16.ofNat (word.toNat / 256) := by
  have hword := word.toNat_lt
  apply UInt16.toNat_inj.mp
  rw [UInt16.toNat_shiftRight, Nat.shiftRight_eq_div_pow, UInt16.toNat_ofNat']
  change word.toNat / 256 = _
  omega

theorem wordBytes_zero (word : UInt16) :
    wordBytes 0x00 word = [UInt8.ofNat (word.toNat / 256), UInt8.ofNat word.toNat] := by
  have hword := word.toNat_lt
  have hhigh : ((0x00 : UInt16) ||| (word >>> 8)).toUInt8 = UInt8.ofNat (word.toNat / 256) := by
    rw [word_high, UInt16.zero_or]
    apply UInt8.toNat_inj.mp
    rw [UInt16.toNat_toUInt8, UInt16.toNat_ofNat', UInt8.toNat_ofNat']
    omega
  rw [wordBytes, hhigh, word_low]

theorem wordBytes_pid (word : UInt16) (h : word.toNat < 8192) :
    wordBytes 0xe0 word = [UInt8.ofNat (0xe0 + word.toNat / 256), UInt8.ofNat word.toNat] := by
  have hbyte : ∀ high < 32, ((0xe0 : UInt16) ||| UInt16.ofNat high).toUInt8 =
      UInt8.ofNat (0xe0 + high) := by
    decide
  rw [wordBytes, word_high, hbyte _ (by omega), word_low]

theorem wordBytes_length (word : UInt16) (h : word.toNat < 4096) :
    wordBytes 0xb0 word = [UInt8.ofNat (0xb0 + word.toNat / 256), UInt8.ofNat word.toNat] := by
  have hbyte : ∀ high < 16, ((0xb0 : UInt16) ||| UInt16.ofNat high).toUInt8 =
      UInt8.ofNat (0xb0 + high) := by
    decide
  rw [wordBytes, word_high, hbyte _ (by omega), word_low]

@[simp]
theorem length_psiSectionHeaderBytes (info : PsiSectionHeadInfo) :
    (psiSectionHeaderBytes info).length = 9 := rfl

/-- The header of a single section of version 0, after the pointer field. -/
theorem psiSectionHeaderBytes_eq (tableId : UInt8) (sectionLength id : UInt16)
    (hlength : sectionLength.toNat < 4096) :
    psiSectionHeaderBytes {
      tableId := tableId, sectionLength := sectionLength, id := id, versionNumber := 0x0,
      sectionNumber := 0x0, lastSectionNumber := 0x0 } =
      [0x00, tableId, UInt8.ofNat (0xb0 + sectionLength.toNat / 256),
        UInt8.ofNat sectionLength.toNat, UInt8.ofNat (id.toNat / 256), UInt8.ofNat id.toNat,
        0xc1, 0x00, 0x00] := by
  have hversion : (0xc0 : UInt8) ||| ((0x0 : UInt8) <<< 1) ||| 0x01 = 0xc1 := by decide
  rw [psiSectionHeaderBytes, wordBytes_length _ hlength, wordBytes_zero]
  dsimp only
  rw [hversion]
  rfl

/-! ## Operations and the maps they leave -/

/-- The two ways in which a PMT section is changed after its initialization. -/
inductive PmtOp where
  | streamAdd (streamType : UInt8) (streamPid : UInt16)
  | pcrPidSet (pcrPid : UInt16)
  deriving DecidableEq

/-- The operation on the packet and its section record. -/
def PmtOp.apply (state : Block UInt8 188 × PsiPmtSection) :
    PmtOp → Except Fault (Block UInt8 188 × PsiPmtSection)
  | .streamAdd streamType streamPid =>
      psiPmtSectionStreamAdd state.1 state.2 streamType streamPid
  | .pcrPidSet pcrPid => psiPmtSectionPcrPidSet state.1 state.2 pcrPid

/-- The operation on the program map. -/
def PmtOp.record (map : ProgramMap) : PmtOp → ProgramMap
  | .streamAdd streamType streamPid =>
      { map with streams := map.streams ++ [(streamType.toNat, streamPid.toNat)] }
  | .pcrPidSet pcrPid => { map with pcrPid := pcrPid.toNat }

/-- The operation on the fields that remember the section. -/
def PmtOp.info (info : PsiPmtSectionInfo) : PmtOp → PsiPmtSectionInfo
  | .streamAdd streamType streamPid =>
      (streamTypeCase { info with sectionLength := info.sectionLength + 5 } streamType streamPid).2
  | .pcrPidSet pcrPid => { info with pcrPid := pcrPid }

/-- The stream types that are known, and PIDs of thirteen bits. -/
def PmtOp.Valid : PmtOp → Prop
  | .streamAdd streamType streamPid =>
      (streamType = streamTypeVideoH264 ∨ streamType = streamTypeAudioAac) ∧
        streamPid.toNat < 8192
  | .pcrPidSet pcrPid => pcrPid.toNat < 8192

/-- The stream an operation adds. -/
def PmtOp.added : PmtOp → Option (ℕ × ℕ)
  | .streamAdd streamType streamPid => some (streamType.toNat, streamPid.toNat)
  | .pcrPidSet _ => none

/-- The PCR PID an operation sets. -/
def PmtOp.assigned : PmtOp → Option ℕ
  | .streamAdd _ _ => none
  | .pcrPidSet pcrPid => some pcrPid.toNat

/-- The program map right after the initialization. -/
def emptyMap (programNumber : UInt16) : ProgramMap where
  programNumber := programNumber.toNat
  pcrPid := 0
  streams := []

/-- The program map that operations ask for: the last PCR PID set, 0 if there is none, and the
streams in the order of their addition. -/
def requestedMap (programNumber : UInt16) (ops : List PmtOp) : ProgramMap where
  programNumber := programNumber.toNat
  pcrPid := (ops.filterMap PmtOp.assigned).getLast?.getD 0
  streams := ops.filterMap PmtOp.added

theorem foldl_record (map : ProgramMap) (ops : List PmtOp) :
    ops.foldl PmtOp.record map = { map with
      pcrPid := (ops.filterMap PmtOp.assigned).getLast?.getD map.pcrPid
      streams := map.streams ++ ops.filterMap PmtOp.added } := by
  induction ops generalizing map with
  | nil => simp
  | cons op rest ih =>
      rw [List.foldl_cons, ih]
      cases op with
      | streamAdd streamType streamPid => simp [PmtOp.record, PmtOp.assigned, PmtOp.added]
      | pcrPidSet pcrPid =>
          simp [PmtOp.record, PmtOp.assigned, PmtOp.added, List.filterMap_cons, List.getLast?_cons]

theorem foldl_record_emptyMap (programNumber : UInt16) (ops : List PmtOp) :
    ops.foldl PmtOp.record (emptyMap programNumber) = requestedMap programNumber ops := by
  rw [foldl_record]
  simp [emptyMap, requestedMap]

/-! ## Shape and representation -/

/-- The bytes of a section before its streams. -/
def sectionFront (number pcrPid streams : ℕ) : List UInt8 :=
  [0x02, UInt8.ofNat (0xb0 + (13 + 5 * streams) / 256), UInt8.ofNat (13 + 5 * streams),
    UInt8.ofNat (number / 256), UInt8.ofNat number, 0xc1, 0x00, 0x00,
    UInt8.ofNat (0xe0 + pcrPid / 256), UInt8.ofNat pcrPid, 0xf0, 0x00]

@[simp]
theorem length_sectionFront (number pcrPid streams : ℕ) :
    (sectionFront number pcrPid streams).length = 12 := rfl

theorem covered_toSection (map : ProgramMap) :
    map.toSection.covered =
      sectionFront map.programNumber map.pcrPid map.streams.length ++
        map.streams.flatMap pmtEntry := by
  rw [LongSection.covered, ProgramMap.length_contents,
    show 4 + 5 * map.streams.length + 9 = 13 + 5 * map.streams.length by omega]
  rfl

/-- The cells of a packet that holds the section of `map` after `front`, with `crc` for its CRC. -/
def pmtCells (front : List UInt8) (map : ProgramMap) (crc : List UInt8) : List UInt8 :=
  front ++ [0x00] ++ sectionFront map.programNumber map.pcrPid map.streams.length ++
    map.streams.flatMap pmtEntry ++ crc ++ List.replicate (167 - 5 * map.streams.length) 0xff

/-- With its own CRC, the section is the payload of the standard. -/
theorem pmtCells_crcField (front : List UInt8) (map : ProgramMap) :
    pmtCells front map (crcField map.toSection.covered) = front ++ map.toSection.payload := by
  rw [pmtCells, LongSection.payload, ProgramMap.length_contents,
    show 171 - (4 + 5 * map.streams.length) = 167 - 5 * map.streams.length by omega]
  conv_rhs => rw [covered_toSection]
  simp [covered_toSection]

/-- The section record goes with a program map: its pointer, its length and the PCR PID. -/
structure Describes (pmtSection : PsiPmtSection) (map : ProgramMap) : Prop where
  data : pmtSection.data = 4
  length : pmtSection.sectionInfo.sectionLength.toNat = 13 + 5 * map.streams.length
  pcrPid : pmtSection.sectionInfo.pcrPid.toNat = map.pcrPid
  programNumber : pmtSection.sectionInfo.programNumber.toNat = map.programNumber

/-- The packet holds the section of `map` after the header bytes `front`, up to some CRC. -/
def PmtShape (front : List UInt8) (state : Block UInt8 188 × PsiPmtSection)
    (map : ProgramMap) : Prop :=
  Describes state.2 map ∧ ∃ crc : List UInt8, crc.length = 4 ∧
    state.1.cells = pmtCells front map crc

/-- The packet holds the whole section of `map` after the header bytes `front`. -/
def PmtRep (front : List UInt8) (state : Block UInt8 188 × PsiPmtSection)
    (map : ProgramMap) : Prop :=
  Describes state.2 map ∧ state.1.cells = front ++ map.toSection.payload

theorem PmtRep.shape {front : List UInt8} {state : Block UInt8 188 × PsiPmtSection}
    {map : ProgramMap} (h : PmtRep front state map) : PmtShape front state map :=
  ⟨h.1, crcField map.toSection.covered, rfl, by rw [h.2, pmtCells_crcField]⟩

/-! ## What the builders store -/

theorem exists_crcStore {size : ℕ} {memory : Block UInt8 size}
    {before covered old after : List UInt8} {data length buf : ℕ}
    (hcells : memory.cells = before ++ covered ++ old ++ after)
    (hdata : data + 1 = before.length) (hlength : length = covered.length)
    (hbuf : buf = before.length + covered.length) (hold : old.length = 4) :
    ∃ next, crcStore memory data length buf = .ok next ∧
      next.cells = before ++ covered ++ crcField covered ++ after := by
  have hload : load memory.cells (data + 1) length = .ok covered :=
    load_append (by rw [hcells, List.append_assoc (before ++ covered)]) hdata hlength
  obtain ⟨next, hstore, hnext⟩ : ∃ next,
      memory.store buf (crcField covered) = .ok next ∧
        next.cells = (before ++ covered) ++ crcField covered ++ after :=
    Block.exists_store_replace hcells (by rw [hbuf, List.length_append]) (by simp [hold])
  refine ⟨next, ?_, hnext⟩
  rw [crcStore, hload]
  change memory.store buf (crcBytes (calcCrc32 covered)) = _
  rw [crcBytes_calcCrc32, hstore]

theorem byteAt_sectionLength (map : ProgramMap) (h : map.streams.length ≤ 33) :
    byteAt map.toSection.payload 2 % 16 * 256 + byteAt map.toSection.payload 3 =
      13 + 5 * map.streams.length := by
  change (UInt8.ofNat (0xb0 + (map.toSection.contents.length + 9) / 256)).toNat % 16 * 256 +
    (UInt8.ofNat (map.toSection.contents.length + 9)).toNat = _
  rw [UInt8.toNat_ofNat', UInt8.toNat_ofNat', ProgramMap.length_contents]
  omega

section Operations

variable {front : List UInt8} (hfront : front.length = 4) {memory : Block UInt8 188}
  {pmtSection : PsiPmtSection} {map : ProgramMap}
include hfront

/-- Once everything before the CRC is that of `map`, the CRC makes it the section of `map`. -/
theorem exists_crcStore_payload {old : List UInt8} (hold : old.length = 4)
    (hcells : memory.cells = (front ++ [0x00]) ++ map.toSection.covered ++ old ++
      List.replicate (167 - 5 * map.streams.length) 0xff) :
    ∃ next, crcStore memory 4 (13 + 5 * map.streams.length - 1)
        (4 + (13 + 5 * map.streams.length)) = .ok next ∧
      next.cells = front ++ map.toSection.payload := by
  have hcovered : map.toSection.covered.length = 12 + 5 * map.streams.length := by
    rw [LongSection.length_covered, ProgramMap.length_contents]
    omega
  have hbefore : (front ++ [0x00]).length = 5 := by simp [hfront]
  obtain ⟨next, hnext, hnextCells⟩ : ∃ next,
      crcStore memory 4 (13 + 5 * map.streams.length - 1) (4 + (13 + 5 * map.streams.length)) =
        .ok next ∧ next.cells = _ :=
    exists_crcStore hcells (by rw [hbefore]) (by rw [hcovered]; omega)
      (by rw [hbefore, hcovered]; omega) hold
  refine ⟨next, hnext, ?_⟩
  rw [hnextCells, LongSection.payload, ProgramMap.length_contents,
    show 171 - (4 + 5 * map.streams.length) = 167 - 5 * map.streams.length by omega]
  simp

/-- Setting the PCR PID replaces that field and renews the CRC. -/
theorem exists_psiPmtSectionPcrPidSet (h : PmtShape front (memory, pmtSection) map)
    (pcrPid : UInt16) (hpid : pcrPid.toNat < 8192) :
    ∃ next, psiPmtSectionPcrPidSet memory pmtSection pcrPid =
        .ok (next, { pmtSection with
          sectionInfo := PmtOp.info pmtSection.sectionInfo (.pcrPidSet pcrPid) }) ∧
      next.cells = front ++ (PmtOp.record map (.pcrPidSet pcrPid)).toSection.payload := by
  obtain ⟨hdescribes, crc, hcrc, hcells⟩ := h
  have hdata : pmtSection.data = 4 := hdescribes.data
  have hlength : pmtSection.sectionInfo.sectionLength.toNat = 13 + 5 * map.streams.length :=
    hdescribes.length
  have hold : memory.cells = (front ++ [0x00] ++ (sectionFront map.programNumber map.pcrPid
      map.streams.length).take 8) ++
        [UInt8.ofNat (0xe0 + map.pcrPid / 256), UInt8.ofNat map.pcrPid] ++
          ([0xf0, 0x00] ++ map.streams.flatMap pmtEntry ++ crc ++
            List.replicate (167 - 5 * map.streams.length) 0xff) := by
    rw [hcells]
    simp [pmtCells, sectionFront]
  obtain ⟨first, hfirst, hfirstCells⟩ : ∃ next,
      memory.store (4 + 8 + 1) (wordBytes 0xe0 pcrPid) = .ok next ∧ next.cells = _ :=
    Block.exists_store_replace hold (by simp [hfront]) rfl
  have hcovered : first.cells = (front ++ [0x00]) ++
      (PmtOp.record map (.pcrPidSet pcrPid)).toSection.covered ++ crc ++
        List.replicate (167 - 5 * map.streams.length) 0xff := by
    rw [hfirstCells, wordBytes_pid pcrPid hpid, covered_toSection]
    simp [PmtOp.record, sectionFront]
  obtain ⟨next, hnext, hnextCells⟩ := exists_crcStore_payload hfront hcrc hcovered
  refine ⟨next, ?_, hnextCells⟩
  unfold psiPmtSectionPcrPidSet
  simp only [psiSectionHeaderLength, hdata, hlength, hfirst, bind, Except.bind]
  rw [show crcStore first 4 (13 + 5 * map.streams.length - 1)
    (4 + (13 + 5 * map.streams.length)) = .ok next from hnext]
  rfl

/-- The first two stores of an addition: the length, and the entry over the old CRC and the first
stuffing byte. -/
theorem exists_entryStore (h : PmtShape front (memory, pmtSection) map)
    (hcount : map.streams.length < 33) (length : UInt16)
    (hlength : length.toNat = 13 + 5 * (map.streams.length + 1)) (stream : ℕ × ℕ) :
    ∃ first second, memory.store (4 + 2) (wordBytes 0xb0 length) = .ok first ∧
      first.store (4 + (13 + 5 * (map.streams.length + 1)) - 5) (pmtEntry stream) = .ok second ∧
      second.cells = (front ++ [0x00]) ++
        ({ map with streams := map.streams ++ [stream] } : ProgramMap).toSection.covered ++
          List.replicate 4 0xff ++ List.replicate (167 - 5 * (map.streams.length + 1)) 0xff := by
  obtain ⟨-, crc, hcrc, hcells⟩ := h
  have hold : memory.cells = (front ++ [0x00, 0x02]) ++
      [UInt8.ofNat (0xb0 + (13 + 5 * map.streams.length) / 256),
        UInt8.ofNat (13 + 5 * map.streams.length)] ++
          ((sectionFront map.programNumber map.pcrPid map.streams.length).drop 3 ++
            map.streams.flatMap pmtEntry ++ crc ++
              List.replicate (167 - 5 * map.streams.length) 0xff) := by
    rw [hcells]
    simp [pmtCells, sectionFront]
  obtain ⟨first, hfirst, hfirstCells⟩ : ∃ next,
      memory.store (4 + 2) (wordBytes 0xb0 length) = .ok next ∧ next.cells = _ :=
    Block.exists_store_replace hold (by simp [hfront]) rfl
  have hstuffing : List.replicate (167 - 5 * map.streams.length) (0xff : UInt8) =
      [0xff] ++ List.replicate 4 0xff ++
        List.replicate (167 - 5 * (map.streams.length + 1)) 0xff := by
    rw [show ([0xff] : List UInt8) = List.replicate 1 0xff from rfl,
      List.replicate_append_replicate, List.replicate_append_replicate]
    congr 1
    omega
  have hsplit : first.cells = (front ++ [0x00] ++ sectionFront map.programNumber map.pcrPid
      (map.streams.length + 1) ++ map.streams.flatMap pmtEntry) ++ (crc ++ [0xff]) ++
        (List.replicate 4 0xff ++ List.replicate (167 - 5 * (map.streams.length + 1)) 0xff) := by
    rw [hfirstCells, wordBytes_length _ (by rw [hlength]; omega), hlength, hstuffing]
    simp [sectionFront]
  have hposition : 4 + (13 + 5 * (map.streams.length + 1)) - 5 =
      (front ++ [0x00] ++ sectionFront map.programNumber map.pcrPid (map.streams.length + 1) ++
        map.streams.flatMap pmtEntry).length := by
    simp only [List.length_append, hfront, length_sectionFront, length_flatMap_pmtEntry,
      List.length_singleton]
    omega
  obtain ⟨second, hsecond, hsecondCells⟩ : ∃ next,
      first.store (4 + (13 + 5 * (map.streams.length + 1)) - 5) (pmtEntry stream) = .ok next ∧
        next.cells = _ :=
    Block.exists_store_replace hsplit hposition (by simp [hcrc, pmtEntry])
  refine ⟨first, second, hfirst, hsecond, ?_⟩
  rw [hsecondCells, covered_toSection]
  simp

/-- Adding a stream moves the end of the section by one entry and renews the CRC. -/
theorem exists_psiPmtSectionStreamAdd (h : PmtShape front (memory, pmtSection) map)
    (hcount : map.streams.length < 33) (streamType : UInt8) (streamPid : UInt16)
    (htype : streamType = streamTypeVideoH264 ∨ streamType = streamTypeAudioAac)
    (hpid : streamPid.toNat < 8192) :
    ∃ next, psiPmtSectionStreamAdd memory pmtSection streamType streamPid =
        .ok (next, { pmtSection with
          sectionInfo := PmtOp.info pmtSection.sectionInfo (.streamAdd streamType streamPid) }) ∧
      next.cells =
        front ++ (PmtOp.record map (.streamAdd streamType streamPid)).toSection.payload := by
  have hdata : pmtSection.data = 4 := h.1.data
  have hlength : pmtSection.sectionInfo.sectionLength.toNat = 13 + 5 * map.streams.length :=
    h.1.length
  have hgrown : (pmtSection.sectionInfo.sectionLength + 5).toNat =
      13 + 5 * (map.streams.length + 1) := by
    rw [UInt16.toNat_add, hlength]
    change (13 + 5 * map.streams.length + 5) % 2 ^ 16 = _
    omega
  have htypeByte : (streamTypeCase { pmtSection.sectionInfo with
      sectionLength := pmtSection.sectionInfo.sectionLength + 5 } streamType streamPid).1 =
        [streamType] := by
    rcases htype with rfl | rfl <;> rfl
  have hentry : [streamType] ++ wordBytes 0xe0 streamPid ++ [0xf0, 0x00] =
      pmtEntry (streamType.toNat, streamPid.toNat) := by
    rw [wordBytes_pid streamPid hpid, pmtEntry]
    simp
  obtain ⟨first, second, hfirst, hsecond, hcovered⟩ :=
    exists_entryStore hfront h hcount _ hgrown (streamType.toNat, streamPid.toNat)
  have hstreams : (PmtOp.record map (.streamAdd streamType streamPid)).streams.length =
      map.streams.length + 1 := by
    simp [PmtOp.record]
  have hbefore : second.cells = (front ++ [0x00]) ++
      (PmtOp.record map (.streamAdd streamType streamPid)).toSection.covered ++
        List.replicate 4 0xff ++ List.replicate (167 - 5 *
          (PmtOp.record map (.streamAdd streamType streamPid)).streams.length) 0xff := by
    rw [hstreams, hcovered]
    rfl
  obtain ⟨next, hnext, hnextCells⟩ :=
    exists_crcStore_payload hfront List.length_replicate hbefore
  rw [hstreams] at hnext
  refine ⟨next, ?_, hnextCells⟩
  unfold psiPmtSectionStreamAdd
  simp only [hdata, hgrown, hfirst, htypeByte, hentry, hsecond, bind, Except.bind]
  rw [show 4 + (13 + 5 * (map.streams.length + 1)) - 5 +
      (pmtEntry (streamType.toNat, streamPid.toNat)).length =
        4 + (13 + 5 * (map.streams.length + 1)) by
    simp only [pmtEntry, List.length_cons, List.length_nil]
    omega, hnext]
  rfl

end Operations

/-- The 34th stream does not fit. Its entry ends one byte before the end of the packet, and the CRC
is stored behind it. -/
theorem psiPmtSectionStreamAdd_full {memory : Block UInt8 188} {pmtSection : PsiPmtSection}
    {map : ProgramMap} (h : Describes pmtSection map) (hfull : map.streams.length = 33)
    (streamType : UInt8) (streamPid : UInt16)
    (htype : streamType = streamTypeVideoH264 ∨ streamType = streamTypeAudioAac) :
    psiPmtSectionStreamAdd memory pmtSection streamType streamPid = .error .outOfBounds := by
  have hlength : (pmtSection.sectionInfo.sectionLength + 5).toNat = 183 := by
    rw [UInt16.toNat_add, h.length, hfull]
    rfl
  have htypeByte : ∃ info, streamTypeCase { pmtSection.sectionInfo with
      sectionLength := pmtSection.sectionInfo.sectionLength + 5 } streamType streamPid =
        ([streamType], info) := by
    rcases htype with rfl | rfl
    · exact ⟨_, rfl⟩
    · exact ⟨_, rfl⟩
  obtain ⟨info, hcase⟩ := htypeByte
  obtain ⟨first, hfirst, -⟩ : ∃ next, memory.store (4 + 2) (wordBytes 0xb0
      (pmtSection.sectionInfo.sectionLength + 5)) = .ok next ∧ next.cells = _ :=
    Block.exists_store (by simp [wordBytes])
  obtain ⟨second, hsecond, -⟩ : ∃ next, first.store (4 + 183 - 5)
      ([streamType] ++ wordBytes 0xe0 streamPid ++ [0xf0, 0x00]) = .ok next ∧ next.cells = _ :=
    Block.exists_store (by simp [wordBytes])
  have hcrc : crcStore second 4 (183 - 1) (4 + 183 - 5 + 5) = .error .outOfBounds := by
    obtain ⟨covered, hload⟩ : ∃ covered, load second.cells (4 + 1) (183 - 1) = .ok covered :=
      ⟨_, load_of_le (by rw [second.length_cells]; omega)⟩
    rw [crcStore, hload]
    change second.store (4 + 183 - 5 + 5) (crcBytes (calcCrc32 covered)) = _
    apply Block.store_of_lt
    rw [length_crcBytes]
    omega
  have hentry : ([streamType] ++ wordBytes 0xe0 streamPid ++ [0xf0, 0x00]).length = 5 := rfl
  unfold psiPmtSectionStreamAdd
  simp only [h.data, hlength, hfirst, hcase, hsecond, hentry, hcrc, bind, Except.bind]

/-! ## Whole runs -/

theorem Describes.apply {pmtSection : PsiPmtSection} {map : ProgramMap}
    (h : Describes pmtSection map) (op : PmtOp) (hroom : (op.record map).streams.length ≤ 33) :
    Describes { pmtSection with sectionInfo := op.info pmtSection.sectionInfo }
      (op.record map) := by
  cases op with
  | pcrPidSet pcrPid => exact ⟨h.data, h.length, rfl, h.programNumber⟩
  | streamAdd streamType streamPid =>
      have hlength := h.length
      have hstreams : (PmtOp.record map (.streamAdd streamType streamPid)).streams.length =
          map.streams.length + 1 := by
        simp [PmtOp.record]
      have hgrown : (pmtSection.sectionInfo.sectionLength + 5).toNat =
          13 + 5 * (PmtOp.record map (.streamAdd streamType streamPid)).streams.length := by
        rw [UInt16.toNat_add, hlength]
        change (13 + 5 * map.streams.length + 5) % 2 ^ 16 = _
        omega
      simp only [PmtOp.info, streamTypeCase]
      split_ifs
      all_goals exact ⟨h.data, hgrown, h.pcrPid, h.programNumber⟩

theorem streams_le_foldl_record (map : ProgramMap) (ops : List PmtOp) :
    map.streams.length ≤ (ops.foldl PmtOp.record map).streams.length := by
  rw [foldl_record, List.length_append]
  omega

section Runs

variable {front : List UInt8} (hfront : front.length = 4)
include hfront

/-- One operation on any shape of a map leaves the whole section of the changed map. -/
theorem PmtShape.apply {memory : Block UInt8 188} {pmtSection : PsiPmtSection} {map : ProgramMap}
    (h : PmtShape front (memory, pmtSection) map) (op : PmtOp) (hvalid : op.Valid)
    (hroom : (op.record map).streams.length ≤ 33) :
    ∃ next, op.apply (memory, pmtSection) =
        .ok (next, { pmtSection with sectionInfo := op.info pmtSection.sectionInfo }) ∧
      PmtRep front (next, { pmtSection with sectionInfo := op.info pmtSection.sectionInfo })
        (op.record map) := by
  have hdescribes := h.1.apply op hroom
  cases op with
  | streamAdd streamType streamPid =>
      have hcount : map.streams.length < 33 := by
        simp only [PmtOp.record, List.length_append, List.length_singleton] at hroom
        omega
      obtain ⟨next, hnext, hcells⟩ :=
        exists_psiPmtSectionStreamAdd hfront h hcount streamType streamPid hvalid.1 hvalid.2
      exact ⟨next, hnext, hdescribes, hcells⟩
  | pcrPidSet pcrPid =>
      obtain ⟨next, hnext, hcells⟩ := exists_psiPmtSectionPcrPidSet hfront h pcrPid hvalid
      exact ⟨next, hnext, hdescribes, hcells⟩

theorem exists_run {state : Block UInt8 188 × PsiPmtSection} {map : ProgramMap}
    (h : PmtShape front state map) (ops : List PmtOp) (hvalid : ∀ op ∈ ops, op.Valid)
    (hroom : (ops.foldl PmtOp.record map).streams.length ≤ 33) :
    ∃ final, ops.foldlM PmtOp.apply state = .ok final ∧
      PmtShape front final (ops.foldl PmtOp.record map) ∧
        (ops ≠ [] → PmtRep front final (ops.foldl PmtOp.record map)) := by
  induction ops generalizing state map with
  | nil => exact ⟨state, rfl, h, fun hnil ↦ absurd rfl hnil⟩
  | cons op rest ih =>
      obtain ⟨next, hnext, hrep⟩ := h.apply hfront op (hvalid op (by simp))
        (Nat.le_trans (streams_le_foldl_record _ rest) hroom)
      obtain ⟨final, hfinal, hshape, hrest⟩ :=
        ih hrep.shape (fun other hmem ↦ hvalid other (by simp [hmem])) hroom
      refine ⟨final, ?_, hshape, fun _ ↦ ?_⟩
      · rw [foldlM_cons_of_ok hnext]
        exact hfinal
      · cases rest with
        | nil =>
            cases hfinal
            exact hrep
        | cons other tail => exact hrest (by simp)

theorem PmtShape.exchange {state : Block UInt8 188 × PsiPmtSection} {map : ProgramMap}
    (h : PmtShape front state map) (hcount : map.streams.length < 33) {streamType : UInt8}
    {streamPid pcrPid : UInt16} (hadd : (PmtOp.streamAdd streamType streamPid).Valid)
    (hset : (PmtOp.pcrPidSet pcrPid).Valid) :
    [PmtOp.streamAdd streamType streamPid, .pcrPidSet pcrPid].foldlM PmtOp.apply state =
      [PmtOp.pcrPidSet pcrPid, .streamAdd streamType streamPid].foldlM PmtOp.apply state := by
  have hadded : (PmtOp.record map (.streamAdd streamType streamPid)).streams.length ≤ 33 := by
    simp only [PmtOp.record, List.length_append, List.length_singleton]
    omega
  obtain ⟨added, hadded', haddedRep⟩ := h.apply hfront _ hadd hadded
  obtain ⟨addedSet, haddedSet, haddedSetRep⟩ := haddedRep.shape.apply hfront _ hset hadded
  obtain ⟨assigned, hassigned, hassignedRep⟩ := h.apply hfront _ hset (Nat.le_of_lt hcount)
  obtain ⟨assignedAdd, hassignedAdd, hassignedAddRep⟩ :=
    hassignedRep.shape.apply hfront _ hadd hadded
  have hcells : addedSet = assignedAdd :=
    Block.ext (haddedSetRep.2.trans hassignedAddRep.2.symm)
  have hinfo : PmtOp.info (PmtOp.info state.2.sectionInfo (.streamAdd streamType streamPid))
      (.pcrPidSet pcrPid) =
        PmtOp.info (PmtOp.info state.2.sectionInfo (.pcrPidSet pcrPid))
          (.streamAdd streamType streamPid) := by
    simp only [PmtOp.info, streamTypeCase]
    split_ifs <;> rfl
  rw [foldlM_cons_of_ok hadded', foldlM_cons_of_ok haddedSet, foldlM_cons_of_ok hassigned,
    foldlM_cons_of_ok hassignedAdd, hcells]
  dsimp only
  rw [hinfo]

end Runs

/-- What the initialization remembers of the section. -/
def initialInfo (programNumber : UInt16) : PsiPmtSectionInfo where
  sectionLength := 0x0d
  programNumber := programNumber
  pcrPid := 0
  programInfoLength := 0
  videoPid := 0
  videoStreamType := streamTypeReserved
  audioPid := 0
  audioStreamType := streamTypeReserved

theorem exists_psiPmtSectionInit {front : List UInt8} (hfront : front.length = 4)
    {memory : Block UInt8 188} (hcells : memory.cells = front ++ List.replicate 184 0xff)
    {pmtSection : PsiPmtSection} (hdata : pmtSection.data = 4) (programNumber : UInt16) :
    ∃ next, psiPmtSectionInit memory pmtSection programNumber =
        .ok (next, { pmtSection with sectionInfo := initialInfo programNumber }) ∧
      PmtShape front (next, { pmtSection with sectionInfo := initialInfo programNumber })
        (emptyMap programNumber) := by
  obtain ⟨first, hfirst, hfirstCells⟩ : ∃ next, memory.store 4 (psiSectionHeaderBytes {
      tableId := 0x02, sectionLength := 0x0d, id := programNumber, versionNumber := 0x0,
      sectionNumber := 0x0, lastSectionNumber := 0x0 }) = .ok next ∧ next.cells = _ :=
    Block.exists_store_append hcells hfront.symm
      (by rw [length_psiSectionHeaderBytes, List.length_replicate]; omega)
  rw [length_psiSectionHeaderBytes, List.drop_replicate] at hfirstCells
  obtain ⟨next, hnext, hnextCells⟩ : ∃ next,
      first.store (4 + 8 + 1) [0xe0, 0x00, 0xf0, 0x00] = .ok next ∧ next.cells = _ :=
    Block.exists_store_append hfirstCells
      (by rw [List.length_append, hfront, length_psiSectionHeaderBytes])
      (by rw [List.length_replicate]; decide)
  refine ⟨next, ?_, ⟨hdata, rfl, rfl, rfl⟩, List.replicate 4 0xff, rfl, ?_⟩
  · simp only [psiPmtSectionInit, psiSectionHeaderSet, psiSectionHeaderLength, hdata, hfirst,
      hnext, bind, Except.bind, pure, Except.pure]
    rfl
  · change next.cells = _
    rw [hnextCells, psiSectionHeaderBytes_eq _ _ _ (by decide)]
    simp [pmtCells, sectionFront, emptyMap]

/-- On a fresh packet, after any nonempty sequence of at most 33 additions and any number of PCR PID
updates, the payload is the section of the requested map, the TS header is untouched, and the
recorded section length is the encoded one. An addition and a PCR PID update next to each other can
be exchanged without any difference in the result. -/
theorem pmt_represents_requests {front : List UInt8} (hfront : front.length = 4)
    {memory : Block UInt8 188} (hcells : memory.cells = front ++ List.replicate 184 0xff)
    {pmtSection : PsiPmtSection} (hdata : pmtSection.data = 4) (programNumber : UInt16)
    {ops : List PmtOp} (hops : ops ≠ []) (hvalid : ∀ op ∈ ops, op.Valid)
    (hcount : (ops.filterMap PmtOp.added).length ≤ 33) :
    ∃ start final, psiPmtSectionInit memory pmtSection programNumber = .ok start ∧
      ops.foldlM PmtOp.apply start = .ok final ∧
      final.1.cells = front ++ (requestedMap programNumber ops).toSection.payload ∧
      final.2.sectionInfo.sectionLength.toNat = 13 + 5 * (ops.filterMap PmtOp.added).length ∧
      final.2.sectionInfo.sectionLength.toNat =
        byteAt (final.1.cells.drop 4) 2 % 16 * 256 + byteAt (final.1.cells.drop 4) 3 ∧
      ∀ before streamType streamPid pcrPid after,
        ops = before ++ [.streamAdd streamType streamPid, .pcrPidSet pcrPid] ++ after →
        (before ++ [.pcrPidSet pcrPid, .streamAdd streamType streamPid] ++ after).foldlM
          PmtOp.apply start = .ok final := by
  obtain ⟨next, hstart, hshape⟩ := exists_psiPmtSectionInit hfront hcells hdata programNumber
  obtain ⟨final, hfinal, -, hrep⟩ := exists_run hfront hshape ops hvalid
    (by rw [foldl_record_emptyMap]; exact hcount)
  rw [foldl_record_emptyMap] at hrep
  obtain ⟨hdescribes, hpayload⟩ := hrep hops
  have hlength : final.2.sectionInfo.sectionLength.toNat =
      13 + 5 * (ops.filterMap PmtOp.added).length := hdescribes.length
  refine ⟨_, final, hstart, hfinal, hpayload, hlength, ?_, ?_⟩
  · rw [hlength, hpayload, ← hfront, List.drop_left]
    exact (byteAt_sectionLength (requestedMap programNumber ops) hcount).symm
  · intro before streamType streamPid pcrPid after hsplit
    subst hsplit
    have hmembers : ∀ op ∈ before, op.Valid := fun op hmem ↦ hvalid op (by simp [hmem])
    have hbefore : (before.foldl PmtOp.record (emptyMap programNumber)).streams.length < 33 := by
      rw [foldl_record_emptyMap]
      simp only [requestedMap, List.filterMap_append, List.length_append] at hcount ⊢
      have hpair : ([PmtOp.streamAdd streamType streamPid, .pcrPidSet pcrPid].filterMap
          PmtOp.added).length = 1 := rfl
      omega
    obtain ⟨middle, hmiddle, hmiddleShape, -⟩ :=
      exists_run hfront hshape before hmembers (Nat.le_of_lt hbefore)
    rw [← hfinal]
    simp only [List.foldlM_append, hmiddle, bind, Except.bind]
    rw [hmiddleShape.exchange hfront hbefore (hvalid _ (by simp)) (hvalid _ (by simp))]

/-- Two streams and a PCR PID on the packet of a fresh PMT. -/
theorem pmt_represents_requests_two_streams :
    ∃ start final, psiPmtSectionInit
        (⟨[0x47, 0x60, 0x20, 0x10] ++ List.replicate 184 0xff, rfl⟩ : Block UInt8 188)
        ⟨⟨0, 0, 0, 0, 0, 0, 0, 0⟩, 4⟩ 0x16 = .ok start ∧
      [PmtOp.streamAdd 0x1b 0x40, .pcrPidSet 0x40, .streamAdd 0x0f 0x41].foldlM PmtOp.apply start =
        .ok final ∧
      final.1.cells = [0x47, 0x60, 0x20, 0x10] ++ (requestedMap 0x16
        [.streamAdd 0x1b 0x40, .pcrPidSet 0x40, .streamAdd 0x0f 0x41]).toSection.payload := by
  obtain ⟨start, final, hstart, hfinal, hcells, -⟩ := pmt_represents_requests
    (show [0x47, 0x60, 0x20, 0x10].length = 4 from rfl)
    (show (⟨[0x47, 0x60, 0x20, 0x10] ++ List.replicate 184 0xff, rfl⟩ : Block UInt8 188).cells = _
      from rfl)
    (show (⟨⟨0, 0, 0, 0, 0, 0, 0, 0⟩, 4⟩ : PsiPmtSection).data = 4 from rfl) 0x16
    (show [PmtOp.streamAdd 0x1b 0x40, .pcrPidSet 0x40, .streamAdd 0x0f 0x41] ≠ [] by decide)
    (by
      intro op hmem
      simp only [List.mem_cons, List.not_mem_nil, or_false] at hmem
      rcases hmem with rfl | rfl | rfl
      · exact ⟨.inl rfl, by decide⟩
      · change (0x40 : UInt16).toNat < 8192
        decide
      · exact ⟨.inr rfl, by decide⟩)
    (by decide)
  exact ⟨start, final, hstart, hfinal, hcells⟩

/-! ## The PAT packet -/

/-- The program association section of one program. -/
def patSectionOf (programNumber pmtPid : UInt16) : LongSection where
  tableId := 0
  number := 1
  contents := patEntry (programNumber.toNat, pmtPid.toNat)

/-- The PAT builder leaves the section of its program on a fresh payload. -/
theorem exists_psiPatSectionSet {front : List UInt8} (hfront : front.length = 4)
    {memory : Block UInt8 188} (hcells : memory.cells = front ++ List.replicate 184 0xff)
    (programNumber pmtPid : UInt16) (hpid : pmtPid.toNat < 8192) :
    ∃ next, psiPatSectionSet memory 4 programNumber pmtPid = .ok next ∧
      next.cells = front ++ (patSectionOf programNumber pmtPid).payload := by
  have hentry : wordBytes 0x00 programNumber ++ wordBytes 0xe0 pmtPid =
      patEntry (programNumber.toNat, pmtPid.toNat) := by
    rw [wordBytes_zero, wordBytes_pid pmtPid hpid]
    rfl
  obtain ⟨first, hfirst, hfirstCells⟩ : ∃ next, memory.store 4 (psiSectionHeaderBytes {
      tableId := 0, sectionLength := 0x0d, id := 0x01, versionNumber := 0x0,
      sectionNumber := 0x0, lastSectionNumber := 0x0 }) = .ok next ∧ next.cells = _ :=
    Block.exists_store_append hcells hfront.symm
      (by rw [length_psiSectionHeaderBytes, List.length_replicate]; omega)
  rw [length_psiSectionHeaderBytes, List.drop_replicate] at hfirstCells
  obtain ⟨second, hsecond, hsecondCells⟩ : ∃ next, first.store (4 + 8 + 1)
      (patEntry (programNumber.toNat, pmtPid.toNat)) = .ok next ∧ next.cells = _ :=
    Block.exists_store_append hfirstCells
      (by rw [List.length_append, hfront, length_psiSectionHeaderBytes])
      (by rw [List.length_replicate]; change 4 ≤ 184 - 9; decide)
  have hcovered : second.cells = (front ++ [0x00]) ++ (patSectionOf programNumber pmtPid).covered ++
      List.replicate 4 0xff ++ List.replicate 167 0xff := by
    rw [hsecondCells, psiSectionHeaderBytes_eq _ _ _ (by decide), List.drop_replicate]
    simp [patSectionOf, LongSection.covered, patEntry]
  obtain ⟨next, hnext, hnextCells⟩ : ∃ next, crcStore second 4 (4 + 8 + 1 + 4 - 4 - 1)
      (4 + 8 + 1 + 4) = .ok next ∧ next.cells = _ :=
    exists_crcStore hcovered (by simp [hfront]) (by simp [patSectionOf, patEntry])
      (by simp [hfront, patSectionOf, patEntry]) List.length_replicate
  refine ⟨next, ?_, ?_⟩
  · simp only [psiPatSectionSet, psiSectionHeaderSet, psiSectionHeaderLength, hfirst, hentry,
      hsecond, hnext, bind, Except.bind]
  · rw [hnextCells]
    simp [patSectionOf, LongSection.payload, patEntry]

end SpTsMuxer.Psi
