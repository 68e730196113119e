import SpTsMuxer.Memory.Block

/-!
# Transport Packets of ISO 13818-1

The first half of the module reads the fields of a transport packet from its raw bytes, in the
layout of the standard: header, adaptation field, program clock reference, payload.  The second
half is an abstract packet, which names its fields, and its encoding.  The adaptation field of an
abstract packet is determined by what it has to hold: an optional clock reference, and as much
stuffing as fills the 188 bytes.  An abstract packet that does not fit cannot be built.

The reading functions and the encoding are written independently of each other; every reader is
shown to return the named field of an encoded packet.
-/

namespace SpTsMuxer.Transport

/-! ## Reading raw bytes -/

/-- The byte at a position, as a number; zero past the end. -/
def byteAt (bytes : List UInt8) (position : ℕ) : ℕ :=
  (bytes.getD position 0).toNat

theorem byteAt_lt (bytes : List UInt8) (position : ℕ) : byteAt bytes position < 256 :=
  (bytes.getD position 0).toNat_lt

@[simp]
theorem byteAt_zero_cons (head : UInt8) (tail : List UInt8) :
    byteAt (head :: tail) 0 = head.toNat := rfl

@[simp]
theorem byteAt_succ_cons (head : UInt8) (tail : List UInt8) (position : ℕ) :
    byteAt (head :: tail) (position + 1) = byteAt tail position := rfl

theorem byteAt_append_left {front : List UInt8} {position : ℕ} (h : position < front.length)
    (rest : List UInt8) : byteAt (front ++ rest) position = byteAt front position := by
  simp only [byteAt, List.getD_eq_getElem?_getD, List.getElem?_append_left h]

theorem byteAt_append_right {front : List UInt8} {position : ℕ} (h : front.length ≤ position)
    (rest : List UInt8) :
    byteAt (front ++ rest) position = byteAt rest (position - front.length) := by
  simp only [byteAt, List.getD_eq_getElem?_getD, List.getElem?_append_right h]

theorem byteAt_take {bytes : List UInt8} {count position : ℕ} (h : position < count) :
    byteAt (bytes.take count) position = byteAt bytes position := by
  simp only [byteAt, List.getD_eq_getElem?_getD, List.getElem?_take_of_lt h]

theorem byteAt_drop (bytes : List UInt8) (count position : ℕ) :
    byteAt (bytes.drop count) position = byteAt bytes (count + position) := by
  simp only [byteAt, List.getD_eq_getElem?_getD, List.getElem?_drop]

def syncByte (packet : List UInt8) : ℕ := byteAt packet 0

def transportErrorIndicator (packet : List UInt8) : Bool := byteAt packet 1 / 128 % 2 == 1

def payloadUnitStartIndicator (packet : List UInt8) : Bool := byteAt packet 1 / 64 % 2 == 1

def transportPriority (packet : List UInt8) : Bool := byteAt packet 1 / 32 % 2 == 1

def pid (packet : List UInt8) : ℕ := byteAt packet 1 % 32 * 256 + byteAt packet 2

def scramblingControl (packet : List UInt8) : ℕ := byteAt packet 3 / 64

def adaptationFieldControl (packet : List UInt8) : ℕ := byteAt packet 3 / 16 % 4

def continuityCounter (packet : List UInt8) : ℕ := byteAt packet 3 % 16

def adaptationFieldLength (packet : List UInt8) : ℕ := byteAt packet 4

/-- The payload bytes: all after the header when there is no adaptation field, those after the
adaptation field when there is one. -/
def payload (packet : List UInt8) : List UInt8 :=
  if adaptationFieldControl packet = 1 then packet.drop 4
  else if adaptationFieldControl packet = 3 then packet.drop (5 + adaptationFieldLength packet)
  else []

/-- A program clock reference: a 33-bit base in units of 90 kHz and a 9-bit extension. -/
@[ext]
structure Pcr where
  base : ℕ
  extension : ℕ
  base_lt : base < 2 ^ 33
  extension_lt : extension < 512
  deriving DecidableEq

/-- The clock reference in six bytes: 33 bits of base, six reserved bits, nine of extension. -/
def readPcr (bytes : List UInt8) : Pcr where
  base := byteAt bytes 0 * 2 ^ 25 + byteAt bytes 1 * 2 ^ 17 + byteAt bytes 2 * 2 ^ 9 +
    byteAt bytes 3 * 2 + byteAt bytes 4 / 128
  extension := byteAt bytes 4 % 2 * 256 + byteAt bytes 5
  base_lt := by
    have h0 := byteAt_lt bytes 0
    have h1 := byteAt_lt bytes 1
    have h2 := byteAt_lt bytes 2
    have h3 := byteAt_lt bytes 3
    have h4 := byteAt_lt bytes 4
    omega
  extension_lt := by
    have h5 := byteAt_lt bytes 5
    omega

/-- The clock reference a packet carries, if its adaptation field has one. -/
def programClockReference (packet : List UInt8) : Option Pcr :=
  if adaptationFieldControl packet / 2 = 1 ∧ 0 < adaptationFieldLength packet ∧
      byteAt packet 5 / 16 % 2 = 1 then
    some (readPcr (packet.drop 6))
  else none

/-! ## Headers -/

/-- The four header bytes. -/
def header (unitStart priority : Bool) (pid control counter : ℕ) : List UInt8 :=
  [0x47, UInt8.ofNat (unitStart.toNat * 64 + priority.toNat * 32 + pid / 256), UInt8.ofNat pid,
    UInt8.ofNat (control * 16 + counter % 16)]

section Header

variable (unitStart priority : Bool) (number control counter : ℕ) (rest : List UInt8)

@[simp]
theorem length_header : (header unitStart priority number control counter).length = 4 := rfl

@[simp]
theorem syncByte_header :
    syncByte (header unitStart priority number control counter ++ rest) = 0x47 := rfl

theorem byteAt_one_header (h : number < 8192) :
    byteAt (header unitStart priority number control counter ++ rest) 1 =
      unitStart.toNat * 64 + priority.toNat * 32 + number / 256 := by
  have hunit := unitStart.toNat_lt
  have hpriority := priority.toNat_lt
  change (UInt8.ofNat _).toNat = _
  rw [UInt8.toNat_ofNat']
  omega

theorem byteAt_three_header (h : control < 4) :
    byteAt (header unitStart priority number control counter ++ rest) 3 =
      control * 16 + counter % 16 := by
  change (UInt8.ofNat _).toNat = _
  rw [UInt8.toNat_ofNat']
  omega

theorem transportErrorIndicator_header (h : number < 8192) :
    transportErrorIndicator (header unitStart priority number control counter ++ rest) =
      false := by
  have hunit := unitStart.toNat_lt
  have hpriority := priority.toNat_lt
  rw [transportErrorIndicator, byteAt_one_header _ _ _ _ _ _ h, beq_eq_false_iff_ne]
  omega

theorem payloadUnitStartIndicator_header (h : number < 8192) :
    payloadUnitStartIndicator (header unitStart priority number control counter ++ rest) =
      unitStart := by
  have hpriority := priority.toNat_lt
  rw [payloadUnitStartIndicator, byteAt_one_header _ _ _ _ _ _ h]
  cases unitStart
  · rw [beq_eq_false_iff_ne, Bool.toNat_false]
    omega
  · rw [beq_iff_eq, Bool.toNat_true]
    omega

theorem transportPriority_header (h : number < 8192) :
    transportPriority (header unitStart priority number control counter ++ rest) = priority := by
  rw [transportPriority, byteAt_one_header _ _ _ _ _ _ h]
  cases priority
  · rw [beq_eq_false_iff_ne, Bool.toNat_false]
    omega
  · rw [beq_iff_eq, Bool.toNat_true]
    omega

theorem pid_header (h : number < 8192) :
    pid (header unitStart priority number control counter ++ rest) = number := by
  have htwo : byteAt (header unitStart priority number control counter ++ rest) 2 =
      number % 256 := by
    change (UInt8.ofNat _).toNat = _
    rw [UInt8.toNat_ofNat']
  rw [pid, byteAt_one_header _ _ _ _ _ _ h, htwo]
  omega

theorem scramblingControl_header (h : control < 4) :
    scramblingControl (header unitStart priority number control counter ++ rest) = 0 := by
  rw [scramblingControl, byteAt_three_header _ _ _ _ _ _ h]
  omega

theorem adaptationFieldControl_header (h : control < 4) :
    adaptationFieldControl (header unitStart priority number control counter ++ rest) =
      control := by
  rw [adaptationFieldControl, byteAt_three_header _ _ _ _ _ _ h]
  omega

theorem continuityCounter_header (h : control < 4) :
    continuityCounter (header unitStart priority number control counter ++ rest) =
      counter % 16 := by
  rw [continuityCounter, byteAt_three_header _ _ _ _ _ _ h]
  omega

end Header

/-! ## Abstract packets -/

/-- The six bytes of a clock reference, its reserved bits set. -/
def Pcr.encode (pcr : Pcr) : List UInt8 :=
  [UInt8.ofNat (pcr.base / 2 ^ 25), UInt8.ofNat (pcr.base / 2 ^ 17),
    UInt8.ofNat (pcr.base / 2 ^ 9), UInt8.ofNat (pcr.base / 2),
    UInt8.ofNat (pcr.base % 2 * 128 + 126 + pcr.extension / 256),
    UInt8.ofNat pcr.extension]

@[simp]
theorem Pcr.length_encode (pcr : Pcr) : pcr.encode.length = 6 := rfl

/-- Reading back an encoded clock reference loses nothing. -/
theorem readPcr_encode (pcr : Pcr) (rest : List UInt8) : readPcr (pcr.encode ++ rest) = pcr := by
  have hbase := pcr.base_lt
  have hextension := pcr.extension_lt
  ext
  · simp only [readPcr, Pcr.encode, List.cons_append, byteAt_zero_cons, byteAt_succ_cons,
      UInt8.toNat_ofNat']
    omega
  · simp only [readPcr, Pcr.encode, List.cons_append, byteAt_zero_cons, byteAt_succ_cons,
      UInt8.toNat_ofNat']
    omega

/-- A packet by what it carries.  Its stuffing is whatever fills the 188 bytes. -/
structure Packet where
  unitStart : Bool
  priority : Bool
  pid : ℕ
  counter : ℕ
  pcr : Option Pcr
  payload : List UInt8
  pid_lt : pid < 8192
  payload_ne_nil : payload ≠ []
  fits : payload.length + (if pcr.isSome then 8 else 0) ≤ 184

namespace Packet

variable (packet : Packet)

/-- The adaptation field.  One missing byte is filled by a field of length zero, more of them by
a field with a flag byte and stuffing; a clock reference always has a field. -/
def field : List UInt8 :=
  match packet.pcr with
  | some pcr =>
      UInt8.ofNat (183 - packet.payload.length) :: 0x10 :: pcr.encode ++
        List.replicate (176 - packet.payload.length) 0xff
  | none =>
      if packet.payload.length = 184 then []
      else if packet.payload.length = 183 then [0]
      else UInt8.ofNat (183 - packet.payload.length) :: 0x00 ::
        List.replicate (182 - packet.payload.length) 0xff

/-- The adaptation field control of the header: whether there is an adaptation field. -/
def control : ℕ := if packet.pcr = none ∧ packet.payload.length = 184 then 1 else 3

/-- The bytes after the header. -/
def body : List UInt8 := packet.field ++ packet.payload

/-- The 188 bytes of the packet. -/
def encode : List UInt8 :=
  header packet.unitStart packet.priority packet.pid packet.control packet.counter ++ packet.body

/-- There is no adaptation field exactly when a full payload carries no clock reference. -/
theorem control_cases :
    (packet.control = 1 ∧ packet.pcr = none ∧ packet.payload.length = 184) ∨
      packet.control = 3 := by
  unfold control
  split_ifs with h
  · exact .inl ⟨rfl, h⟩
  · exact .inr rfl

theorem control_lt : packet.control < 4 := by
  rcases packet.control_cases with ⟨h, -⟩ | h <;> omega

theorem payload_pos : 0 < packet.payload.length :=
  List.length_pos_iff.mpr packet.payload_ne_nil

theorem payload_le : packet.payload.length ≤ 184 := by
  have hfits := packet.fits
  omega

theorem payload_le_of_pcr {pcr : Pcr} (h : packet.pcr = some pcr) :
    packet.payload.length ≤ 176 := by
  have hfits := packet.fits
  rw [h] at hfits
  simpa using hfits

@[simp]
theorem length_body : packet.body.length = 184 := by
  have hle := packet.payload_le
  unfold body field
  cases hpcr : packet.pcr with
  | some pcr =>
      have hpcrle := packet.payload_le_of_pcr hpcr
      simp only [List.length_append, List.length_cons, Pcr.length_encode, List.length_replicate]
      omega
  | none =>
      dsimp only
      split_ifs with hfull hone
      · simpa using hfull
      · simp [hone]
      · simp only [List.length_append, List.length_cons, List.length_replicate]
        omega

@[simp]
theorem length_encode : packet.encode.length = 188 := by
  rw [encode, List.length_append, length_body, length_header]

theorem encode_full (hpcr : packet.pcr = none) (hfull : packet.payload.length = 184) :
    packet.encode = header packet.unitStart packet.priority packet.pid 1 packet.counter ++
      packet.payload := by
  rw [encode, body, field, control, if_pos ⟨hpcr, hfull⟩, hpcr]
  dsimp only
  rw [if_pos hfull, List.nil_append]

/-- The packet as the 188-byte object that is handed on. -/
def block : Memory.Block UInt8 188 := ⟨packet.encode, packet.length_encode⟩

@[simp]
theorem block_cells : packet.block.cells = packet.encode := rfl

/-! ## Every reader returns the named field -/

@[simp]
theorem syncByte_encode : syncByte packet.encode = 0x47 :=
  syncByte_header _ _ _ _ _ _

@[simp]
theorem transportErrorIndicator_encode : transportErrorIndicator packet.encode = false :=
  transportErrorIndicator_header _ _ _ _ _ _ packet.pid_lt

@[simp]
theorem payloadUnitStartIndicator_encode :
    payloadUnitStartIndicator packet.encode = packet.unitStart :=
  payloadUnitStartIndicator_header _ _ _ _ _ _ packet.pid_lt

@[simp]
theorem transportPriority_encode : transportPriority packet.encode = packet.priority :=
  transportPriority_header _ _ _ _ _ _ packet.pid_lt

@[simp]
theorem pid_encode : Transport.pid packet.encode = packet.pid :=
  pid_header _ _ _ _ _ _ packet.pid_lt

@[simp]
theorem scramblingControl_encode : scramblingControl packet.encode = 0 :=
  scramblingControl_header _ _ _ _ _ _ packet.control_lt

@[simp]
theorem adaptationFieldControl_encode :
    adaptationFieldControl packet.encode = packet.control :=
  adaptationFieldControl_header _ _ _ _ _ _ packet.control_lt

@[simp]
theorem continuityCounter_encode : continuityCounter packet.encode = packet.counter % 16 :=
  continuityCounter_header _ _ _ _ _ _ packet.control_lt

@[simp]
theorem drop_four_encode : packet.encode.drop 4 = packet.body := rfl

/-- When there is an adaptation field, its length byte counts the rest of the field. -/
theorem adaptationFieldLength_encode (h : packet.control = 3) :
    adaptationFieldLength packet.encode = 183 - packet.payload.length ∧
      packet.payload.length ≤ 183 := by
  have hle := packet.payload_le
  change byteAt packet.body 0 = _ ∧ _
  unfold body field
  cases hpcr : packet.pcr with
  | some pcr =>
      have hpcrle := packet.payload_le_of_pcr hpcr
      simp only [List.cons_append, byteAt_zero_cons, UInt8.toNat_ofNat']
      omega
  | none =>
      have hfull : packet.payload.length ≠ 184 := by
        intro hfull
        simp [control, hpcr, hfull] at h
      dsimp only
      rw [if_neg hfull]
      split_ifs with hone
      · simp [hone]
      · simp only [List.cons_append, byteAt_zero_cons, UInt8.toNat_ofNat']
        omega

/-- A receiver finds exactly the payload. -/
@[simp]
theorem payload_encode : Transport.payload packet.encode = packet.payload := by
  rw [Transport.payload, adaptationFieldControl_encode]
  rcases packet.control_cases with ⟨hone, hpcr, hfull⟩ | hthree
  · rw [if_pos hone, drop_four_encode]
    simp [body, field, hpcr, hfull]
  · obtain ⟨hlength, hle⟩ := packet.adaptationFieldLength_encode hthree
    have hbody := packet.length_body
    rw [body, List.length_append] at hbody
    rw [if_neg (by omega), if_pos hthree, hlength,
      show 5 + (183 - packet.payload.length) = 4 + packet.field.length by omega,
      ← List.drop_drop, drop_four_encode, body, List.drop_left]

/-- A receiver finds exactly the clock reference. -/
@[simp]
theorem programClockReference_encode : programClockReference packet.encode = packet.pcr := by
  rw [programClockReference, adaptationFieldControl_encode]
  have hflags : byteAt packet.encode 5 = byteAt packet.body 1 := rfl
  have hpos := packet.payload_pos
  cases hpcr : packet.pcr with
  | some pcr =>
      have hpcrle := packet.payload_le_of_pcr hpcr
      have hcontrol : packet.control = 3 := by simp [control, hpcr]
      have hlength := (packet.adaptationFieldLength_encode hcontrol).1
      have hflag : byteAt packet.body 1 = 16 := by
        simp [body, field, hpcr]
      have hdrop : packet.encode.drop 6 = pcr.encode ++
          (List.replicate (176 - packet.payload.length) 0xff ++ packet.payload) := by
        change packet.body.drop 2 = _
        simp [body, field, hpcr]
      rw [if_pos ⟨by omega, by omega, by omega⟩, hdrop, readPcr_encode]
  | none =>
      rw [if_neg]
      rintro ⟨hhalf, hlength, hflag⟩
      have hcontrol : packet.control = 3 := by
        rcases packet.control_cases with ⟨hone, -⟩ | hthree <;> omega
      obtain ⟨hlengthEq, -⟩ := packet.adaptationFieldLength_encode hcontrol
      have hzero : byteAt packet.body 1 = 0 := by
        unfold body field
        rw [hpcr]
        dsimp only
        rw [if_neg (by omega), if_neg (by omega)]
        simp
      omega

end Packet

end SpTsMuxer.Transport
