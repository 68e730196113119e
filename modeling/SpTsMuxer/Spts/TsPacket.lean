import SpTsMuxer.Memory.Word
import SpTsMuxer.Transport.Packet

/-!
# The Transport Packet Helpers of `spts.c`

Every packet is an object of 188 bytes that is changed in place.  The helpers write its header,
change the start indicator, the adaptation field control and the continuity counter by masking a
byte, and fill in an adaptation field.

Each helper has one specification lemma in terms of `Transport.header` and of the bytes after it.
The lemma for the adaptation field without a clock reference has two cases: a field of length zero
still gets its flag byte written, so two bytes are stored for a field that occupies one.
-/

namespace SpTsMuxer.Spts

open Memory Transport

def tspacketHeaderLength : ℕ := 4

def tspacketPayloadLength : UInt32 := 184

def tspacketLength : UInt32 := 188

def scramblingCtlNotScrambled : UInt8 := 0

def adaptationFieldPayloadOnly : UInt8 := (0x1 : UInt8) <<< 4

def adaptationFieldAdaptationAndPayload : UInt8 := (0x3 : UInt8) <<< 4

def pcrFlag : UInt8 := 0x10

/-- The object in which a packet is built: `guint8 data[TSPACKET_LENGTH]`. -/
abbrev TsPacket := Block UInt8 188

/-- `struct _TsPacketHeaderInfo`, less the error indicator that no function reads. -/
structure TsPacketHeaderInfo where
  payloadUnitStartIndicator : UInt8
  transportPriority : UInt8
  PID : UInt16
  transportScramblingControl : UInt8
  adaptationFieldControl : UInt8
  continuityCounter : UInt8
  deriving DecidableEq

/-- `struct _TsPacketAdaptationInfo`. -/
structure TsPacketAdaptationInfo where
  fieldFlag : UInt8
  adaptationFieldLength : UInt8
  pcr : UInt64
  deriving DecidableEq

/-! ## Headers -/

/-- The four header bytes that both packet constructors store. -/
def headerBytes (info : TsPacketHeaderInfo) : List UInt8 :=
  [0x47,
    info.payloadUnitStartIndicator ||| info.transportPriority ||| (info.PID >>> 8).toUInt8,
    (0xff &&& info.PID).toUInt8,
    info.transportScramblingControl ||| info.adaptationFieldControl ||| info.continuityCounter]

/-- `spts_tspacket_header_init`: the old contents are overwritten with `0xff` first. -/
def sptsTspacketHeaderInit (_tspacket : TsPacket) (info : TsPacketHeaderInfo) :
    Except Fault TsPacket :=
  (Block.fill 188 0xff).store 0 (headerBytes info)

/-- `spts_tspacket_new`: the same bytes in a new object. -/
def sptsTspacketNew (info : TsPacketHeaderInfo) : Except Fault TsPacket :=
  (Block.fill 188 0xff).store 0 (headerBytes info)

/-- `spts_tspacket_header_set_start_unit_indicator`. -/
def sptsTspacketHeaderSetStartUnitIndicator (tspacket : TsPacket) (startUnitIndicator : UInt8) :
    TsPacket :=
  tspacket.update 1 fun buf ↦ (buf &&& 0xbf) ||| startUnitIndicator

/-- `spts_tspacket_header_set_adaptation_field_control`. -/
def sptsTspacketHeaderSetAdaptationFieldControl (tspacket : TsPacket)
    (adaptationFieldControl : UInt8) : TsPacket :=
  tspacket.update 3 fun buf ↦ (buf &&& 0xcf) ||| adaptationFieldControl

/-- `spts_tspacket_header_cc_inc`. -/
def sptsTspacketHeaderCcInc (tspacket : TsPacket) : TsPacket :=
  tspacket.update 3 fun buf ↦ (buf &&& 0xf0) ||| ((buf + 1) &&& 0x0f)

theorem headerBytes_eq {info : TsPacketHeaderInfo} (hunit : info.payloadUnitStartIndicator = 0x40)
    (hpriority : info.transportPriority = 0x20)
    (hscrambling : info.transportScramblingControl = scramblingCtlNotScrambled)
    (hcontrol : info.adaptationFieldControl = adaptationFieldPayloadOnly)
    (hcounter : info.continuityCounter = 0) (hpid : info.PID.toNat < 8192) :
    headerBytes info = header true true info.PID.toNat 1 0 := by
  have hsecond : ∀ high : Fin 32, (0x40 : UInt8) ||| 0x20 ||| UInt8.ofNat high =
      UInt8.ofNat (1 * 64 + 1 * 32 + high) := by
    decide
  have hhigh : (info.PID >>> 8).toUInt8 = UInt8.ofNat (info.PID.toNat / 256) := by
    apply UInt8.toNat_inj.mp
    rw [UInt16.toNat_toUInt8, UInt16.toNat_shiftRight, Nat.shiftRight_eq_div_pow,
      UInt8.toNat_ofNat']
    rfl
  have hlow : (0xff &&& info.PID).toUInt8 = UInt8.ofNat info.PID.toNat := by
    apply UInt8.toNat_inj.mp
    rw [UInt16.toNat_toUInt8, UInt16.toNat_and, UInt8.toNat_ofNat', Nat.and_comm]
    change (info.PID.toNat &&& (2 ^ 8 - 1)) % 2 ^ 8 = _
    rw [Nat.and_two_pow_sub_one_eq_mod, Nat.mod_mod]
  simp only [headerBytes, header, hunit, hpriority, hscrambling, hcontrol, hcounter, hhigh, hlow,
    List.cons.injEq, and_true, true_and, Bool.toNat_true]
  exact ⟨hsecond ⟨info.PID.toNat / 256, by omega⟩, rfl⟩

/-- A new packet has its header and `0xff` everywhere else. -/
theorem exists_sptsTspacketNew (info : TsPacketHeaderInfo) :
    ∃ tspacket, sptsTspacketNew info = .ok tspacket ∧
      tspacket.cells = headerBytes info ++ List.replicate 184 0xff := by
  obtain ⟨tspacket, hstore, hcells⟩ :
      ∃ next, (Block.fill 188 0xff).store 0 (headerBytes info) = .ok next ∧
        next.cells = ([] ++ headerBytes info) ++ (List.replicate 188 (0xff : UInt8)).drop 4 :=
    Block.exists_store_append rfl rfl (by rw [List.length_replicate]; simp [headerBytes])
  refine ⟨tspacket, hstore, ?_⟩
  rw [hcells, List.nil_append, List.drop_replicate]

section HeaderUpdates

variable {tspacket : TsPacket} {unitStart priority : Bool} {number control counter : ℕ}
  {body : List UInt8}

/-- Setting the start indicator changes that bit of the header and nothing else. -/
theorem startUnitIndicator_cells
    (hcells : tspacket.cells = header unitStart priority number control counter ++ body)
    (hpid : number < 8192) (next : Bool) :
    (sptsTspacketHeaderSetStartUnitIndicator tspacket (if next then 0x40 else 0x00)).cells =
      header next priority number control counter ++ body := by
  have hbyte : ∀ old prio next : Bool, ∀ high < 32,
      (UInt8.ofNat (old.toNat * 64 + prio.toNat * 32 + high) &&& 0xbf) |||
          (if next then 0x40 else 0x00) =
        UInt8.ofNat (next.toNat * 64 + prio.toNat * 32 + high) := by
    decide
  rw [sptsTspacketHeaderSetStartUnitIndicator, Block.update_cells, hcells]
  change 0x47 :: ((UInt8.ofNat _ &&& 0xbf) ||| _) :: _ = _
  rw [hbyte unitStart priority next (number / 256) (by omega)]
  rfl

/-- Setting the adaptation field control keeps the counter. -/
theorem adaptationFieldControl_cells
    (hcells : tspacket.cells = header unitStart priority number control counter ++ body)
    (hcontrol : control < 4) {value : UInt8} {next : ℕ}
    (hvalue : (value = adaptationFieldPayloadOnly ∧ next = 1) ∨
      (value = adaptationFieldAdaptationAndPayload ∧ next = 3)) :
    (sptsTspacketHeaderSetAdaptationFieldControl tspacket value).cells =
      header unitStart priority number next counter ++ body := by
  have hbyte : ∀ old < 4, ∀ low < 16,
      (UInt8.ofNat (old * 16 + low) &&& 0xcf) ||| adaptationFieldPayloadOnly =
          UInt8.ofNat (1 * 16 + low) ∧
        (UInt8.ofNat (old * 16 + low) &&& 0xcf) ||| adaptationFieldAdaptationAndPayload =
          UInt8.ofNat (3 * 16 + low) := by
    decide +kernel
  obtain ⟨honly, hboth⟩ := hbyte control hcontrol (counter % 16) (by omega)
  rw [sptsTspacketHeaderSetAdaptationFieldControl, Block.update_cells, hcells]
  change 0x47 :: _ :: _ :: ((UInt8.ofNat _ &&& 0xcf) ||| _) :: _ = _
  rcases hvalue with ⟨rfl, rfl⟩ | ⟨rfl, rfl⟩
  · rw [honly]
    rfl
  · rw [hboth]
    rfl

/-- The counter goes up by one modulo 16 and leaves the other bits of its byte alone. -/
theorem ccInc_cells
    (hcells : tspacket.cells = header unitStart priority number control counter ++ body)
    (hcontrol : control < 4) :
    (sptsTspacketHeaderCcInc tspacket).cells =
      header unitStart priority number control (counter + 1) ++ body := by
  have hbyte : ∀ old < 4, ∀ low < 16,
      (UInt8.ofNat (old * 16 + low) &&& 0xf0) ||| ((UInt8.ofNat (old * 16 + low) + 1) &&& 0x0f) =
        UInt8.ofNat (old * 16 + (low + 1) % 16) := by
    decide
  rw [sptsTspacketHeaderCcInc, Block.update_cells, hcells]
  change 0x47 :: _ :: _ :: ((UInt8.ofNat _ &&& 0xf0) ||| ((UInt8.ofNat _ + 1) &&& 0x0f)) :: _ = _
  rw [hbyte control hcontrol (counter % 16) (by omega), Nat.mod_add_mod]
  rfl

end HeaderUpdates

/-! ## Adaptation fields -/

/-- The six clock reference bytes as `spts_tspacket_adaptation_set` computes them. -/
def pcrBytes (pcr : UInt64) : List UInt8 :=
  let pcrBase := pcr / 300
  let pcrExt := pcr % 300
  [(pcrBase >>> 25).toUInt8, (pcrBase >>> 17).toUInt8, (pcrBase >>> 9).toUInt8,
    (pcrBase >>> 1).toUInt8, ((pcrBase <<< 7) ||| (pcrExt >>> 8) ||| 0x7e).toUInt8,
    (pcrExt &&& 0xff).toUInt8]

/-- The last part of `spts_tspacket_adaptation_set`: stuffing from the pointer `buf` up to the
length of the field.  The number of stuffing bytes is a difference of eight bits. -/
def adaptationStuffing (tspacket : TsPacket) (buf : ℕ) (adaptationFieldLength : UInt8) :
    Except Fault (TsPacket × ℕ) :=
  if adaptationFieldLength > 0 then
    let stuffingBytesLength : UInt8 :=
      adaptationFieldLength - UInt8.ofNat (buf - tspacketHeaderLength - 1)
    if stuffingBytesLength > 0 then do
      let tspacket ← tspacket.store buf (List.replicate stuffingBytesLength.toNat 0xff)
      pure (tspacket, buf + stuffingBytesLength.toNat)
    else pure (tspacket, buf)
  else pure (tspacket, buf)

/-- `spts_tspacket_adaptation_set`: length and flag byte, the clock reference if the flag asks for
it, then stuffing.  The pointer `buf` is its offset from `tspacket`; the number of bytes that it
has passed since the header is returned. -/
def sptsTspacketAdaptationSet (tspacket : TsPacket) (info : TsPacketAdaptationInfo) :
    Except Fault (TsPacket × UInt32) := do
  let tspacket ←
    tspacket.store tspacketHeaderLength [info.adaptationFieldLength, info.fieldFlag]
  let buf := tspacketHeaderLength + 2
  let (tspacket, buf) ←
    if info.fieldFlag &&& pcrFlag ≠ 0 then do
      let tspacket ← tspacket.store buf (pcrBytes info.pcr)
      pure (tspacket, buf + 6)
    else pure (tspacket, buf)
  let (tspacket, buf) ← adaptationStuffing tspacket buf info.adaptationFieldLength
  pure (tspacket, UInt32.ofNat (buf - tspacketHeaderLength))

/-- The clock reference of a 27 MHz time: the base counts multiples of 300, modulo `2 ^ 33`. -/
def pcrOf (time : ℕ) : Pcr where
  base := time / 300 % 2 ^ 33
  extension := time % 300
  base_lt := Nat.mod_lt _ (by omega)
  extension_lt := by omega

@[simp]
theorem length_pcrBytes (pcr : UInt64) : (pcrBytes pcr).length = 6 := rfl

/-- The fifth byte packs the last bit of the base, six set bits and the top of the extension. -/
theorem pcr_fifth_byte (base extension : UInt64) (h : extension.toNat < 300) :
    ((base <<< 7) ||| (extension >>> 8) ||| 0x7e).toUInt8 =
      UInt8.ofNat (base.toNat % 2 * 128 + 126 + extension.toNat / 256) := by
  have hsmall : ∀ low < 2, ∀ high < 2, (low <<< 7) ||| high ||| 0x7e = low * 128 + 126 + high := by
    decide
  apply UInt8.toNat_inj.mp
  rw [UInt64.toNat_toUInt8, UInt64.toNat_or, UInt64.toNat_or, UInt64.toNat_shiftLeft,
    UInt64.toNat_shiftRight, UInt8.toNat_ofNat', Nat.or_mod_two_pow, Nat.or_mod_two_pow,
    Nat.shiftRight_eq_div_pow]
  have hlow : base.toNat <<< ((7 : UInt64).toNat % 64) % 2 ^ 64 % 2 ^ 8 =
      (base.toNat % 2) <<< 7 := by
    rw [show (7 : UInt64).toNat % 64 = 7 by rfl, Nat.shiftLeft_eq, Nat.shiftLeft_eq]
    omega
  have hhigh : extension.toNat / 2 ^ ((8 : UInt64).toNat % 64) % 2 ^ 8 =
      extension.toNat / 256 := by
    rw [show (8 : UInt64).toNat % 64 = 8 by rfl]
    omega
  rw [hlow, hhigh, show (0x7e : UInt64).toNat % 2 ^ 8 = 0x7e by rfl,
    hsmall (base.toNat % 2) (by omega) (extension.toNat / 256) (by omega)]
  omega

/-- The stored clock reference is the one of the standard, for every 64-bit time. -/
theorem pcrBytes_eq (pcr : UInt64) : pcrBytes pcr = (pcrOf pcr.toNat).encode := by
  have hpcr := pcr.toNat_lt
  have hbase : (pcr / 300).toNat = pcr.toNat / 300 := by
    rw [UInt64.toNat_div]
    rfl
  have hext : (pcr % 300).toNat = pcr.toNat % 300 := by
    rw [UInt64.toNat_mod]
    rfl
  have hshift (word count : UInt64) (h : count.toNat < 64) :
      (word >>> count).toNat = word.toNat / 2 ^ count.toNat := by
    rw [UInt64.toNat_shiftRight, Nat.mod_eq_of_lt h, Nat.shiftRight_eq_div_pow]
  simp only [pcrBytes, Pcr.encode, pcrOf, List.cons.injEq, and_true]
  refine ⟨?_, ?_, ?_, ?_, ?_, ?_⟩
  · apply toUInt8_of_toNat
    rw [hshift _ 25 (by decide), hbase]
    simp only [UInt64.reduceToNat]
    omega
  · apply toUInt8_of_toNat
    rw [hshift _ 17 (by decide), hbase]
    simp only [UInt64.reduceToNat]
    omega
  · apply toUInt8_of_toNat
    rw [hshift _ 9 (by decide), hbase]
    simp only [UInt64.reduceToNat]
    omega
  · apply toUInt8_of_toNat
    rw [hshift _ 1 (by decide), hbase]
    simp only [UInt64.reduceToNat]
    omega
  · rw [pcr_fifth_byte _ _ (by omega), hbase, hext]
    congr 1
    omega
  · apply toUInt8_of_toNat
    rw [UInt64.toNat_and, hext]
    change (pcr.toNat % 300 &&& (2 ^ 8 - 1)) % 256 = _
    rw [Nat.and_two_pow_sub_one_eq_mod]
    omega

/-! ## What storing an adaptation field leaves in the packet -/

section AdaptationSet

variable {tspacket : TsPacket} {front body : List UInt8} {info : TsPacketAdaptationInfo}

/-- Stuffing fills a field of positive length from `buf` to its end. -/
theorem exists_adaptationStuffing {before after : List UInt8} {buf : ℕ} {length : UInt8}
    (hcells : tspacket.cells = before ++ after) (hbuf : buf = before.length)
    (hheader : 5 ≤ buf) (hused : buf - 5 ≤ length.toNat) (hpositive : 0 < length.toNat)
    (hfit : length.toNat + 5 ≤ 188) :
    ∃ next, adaptationStuffing tspacket buf length = .ok (next, length.toNat + 5) ∧
      next.cells = before ++ List.replicate (length.toNat + 5 - buf) 0xff ++
        after.drop (length.toNat + 5 - buf) := by
  have hafter : before.length + after.length = 188 := by
    rw [← List.length_append, ← hcells, tspacket.length_cells]
  have hstuffing : (length - UInt8.ofNat (buf - tspacketHeaderLength - 1)).toNat =
      length.toNat + 5 - buf := by
    have hsmall : (UInt8.ofNat (buf - tspacketHeaderLength - 1)).toNat = buf - 5 := by
      rw [UInt8.toNat_ofNat', tspacketHeaderLength]
      omega
    rw [UInt8.toNat_sub_of_le _ _ (UInt8.le_iff_toNat_le.mpr (by omega)), hsmall]
    omega
  unfold adaptationStuffing
  rw [if_pos ((byte_pos_iff length).mpr hpositive)]
  dsimp only
  by_cases hmore : buf < length.toNat + 5
  · obtain ⟨next, hstore, hnext⟩ : ∃ next,
        tspacket.store buf (List.replicate (length.toNat + 5 - buf) 0xff) = .ok next ∧
          next.cells = (before ++ List.replicate (length.toNat + 5 - buf) 0xff) ++
            after.drop (List.replicate (length.toNat + 5 - buf) (0xff : UInt8)).length :=
      Block.exists_store_append hcells hbuf (by rw [List.length_replicate]; omega)
    refine ⟨next, ?_, by simpa using hnext⟩
    rw [if_pos ((byte_pos_iff _).mpr (by omega)), hstuffing, hstore]
    simp only [bind, Except.bind, pure, Except.pure]
    rw [show buf + (length.toNat + 5 - buf) = length.toNat + 5 by omega]
  · refine ⟨tspacket, ?_, by simp [hcells, show length.toNat + 5 - buf = 0 by omega]⟩
    have hnone : ¬length - UInt8.ofNat (buf - tspacketHeaderLength - 1) > 0 := by
      rw [byte_pos_iff, hstuffing]
      omega
    rw [if_neg hnone, show length.toNat + 5 = buf by omega]
    rfl

variable (hcells : tspacket.cells = front ++ body) (hfront : front.length = 4)
include hcells hfront

theorem length_body_of_cells : body.length = 184 := by
  have hsize := tspacket.length_cells
  rw [hcells, List.length_append] at hsize
  omega

/-- With a clock reference: the field holds length, flag, clock and stuffing, and the returned
number of bytes is one more than the length. -/
theorem exists_adaptationSet_pcr (hflag : info.fieldFlag = pcrFlag)
    (hlow : 7 ≤ info.adaptationFieldLength.toNat)
    (hhigh : info.adaptationFieldLength.toNat ≤ 183) :
    ∃ next, sptsTspacketAdaptationSet tspacket info =
        .ok (next, UInt32.ofNat (info.adaptationFieldLength.toNat + 1)) ∧
      next.cells = front ++ (info.adaptationFieldLength :: pcrFlag :: pcrBytes info.pcr ++
        List.replicate (info.adaptationFieldLength.toNat - 7) 0xff) ++
          body.drop (info.adaptationFieldLength.toNat + 1) := by
  have hbody := length_body_of_cells hcells hfront
  obtain ⟨first, hfirst, hfirstCells⟩ : ∃ next,
      tspacket.store 4 [info.adaptationFieldLength, pcrFlag] = .ok next ∧
        next.cells = (front ++ [info.adaptationFieldLength, pcrFlag]) ++ body.drop 2 :=
    Block.exists_store_append hcells hfront.symm (by simp [hbody])
  obtain ⟨second, hsecond, hsecondCells⟩ : ∃ next,
      first.store 6 (pcrBytes info.pcr) = .ok next ∧
        next.cells = ((front ++ [info.adaptationFieldLength, pcrFlag]) ++ pcrBytes info.pcr) ++
          (body.drop 2).drop 6 :=
    Block.exists_store_append hfirstCells (by simp [hfront]) (by simp [hbody])
  obtain ⟨third, hthird, hthirdCells⟩ :=
    exists_adaptationStuffing hsecondCells (show 12 = _ by simp [hfront]) (by omega)
      (show _ ≤ info.adaptationFieldLength.toNat by omega) (by omega) (by omega)
  refine ⟨third, ?_, ?_⟩
  · simp only [sptsTspacketAdaptationSet, tspacketHeaderLength, hflag, hfirst, hsecond, hthird,
      bind, Except.bind, pure, Except.pure]
    rfl
  · rw [hthirdCells, List.drop_drop, List.drop_drop,
      show info.adaptationFieldLength.toNat + 5 - 12 =
        info.adaptationFieldLength.toNat - 7 by omega,
      show 2 + (6 + (info.adaptationFieldLength.toNat - 7)) =
        info.adaptationFieldLength.toNat + 1 by omega]
    simp

/-- Without a clock reference and of positive length: length, a zero flag byte and stuffing; the
returned number of bytes is again one more than the length. -/
theorem exists_adaptationSet_stuffing (hflag : info.fieldFlag = 0x00)
    (hlow : 0 < info.adaptationFieldLength.toNat)
    (hhigh : info.adaptationFieldLength.toNat ≤ 183) :
    ∃ next, sptsTspacketAdaptationSet tspacket info =
        .ok (next, UInt32.ofNat (info.adaptationFieldLength.toNat + 1)) ∧
      next.cells = front ++ (info.adaptationFieldLength :: 0x00 ::
        List.replicate (info.adaptationFieldLength.toNat - 1) 0xff) ++
          body.drop (info.adaptationFieldLength.toNat + 1) := by
  have hbody := length_body_of_cells hcells hfront
  obtain ⟨first, hfirst, hfirstCells⟩ : ∃ next,
      tspacket.store 4 [info.adaptationFieldLength, 0x00] = .ok next ∧
        next.cells = (front ++ [info.adaptationFieldLength, 0x00]) ++ body.drop 2 :=
    Block.exists_store_append hcells hfront.symm (by simp [hbody])
  obtain ⟨second, hsecond, hsecondCells⟩ :=
    exists_adaptationStuffing hfirstCells (show 6 = _ by simp [hfront]) (by omega)
      (show _ ≤ info.adaptationFieldLength.toNat by omega) (by omega) (by omega)
  refine ⟨second, ?_, ?_⟩
  · simp only [sptsTspacketAdaptationSet, tspacketHeaderLength, hflag, hfirst, hsecond,
      bind, Except.bind, pure, Except.pure, show ¬(0x00 &&& pcrFlag ≠ 0) by decide, if_false]
    rfl
  · rw [hsecondCells, List.drop_drop,
      show info.adaptationFieldLength.toNat + 5 - 6 =
        info.adaptationFieldLength.toNat - 1 by omega,
      show 2 + (info.adaptationFieldLength.toNat - 1) =
        info.adaptationFieldLength.toNat + 1 by omega]
    simp

/-- A field of length zero occupies one byte, but two are stored and two are returned. -/
theorem exists_adaptationSet_zero (hflag : info.fieldFlag = 0x00)
    (hzero : info.adaptationFieldLength = 0) :
    ∃ next, sptsTspacketAdaptationSet tspacket info = .ok (next, 2) ∧
      next.cells = front ++ [0x00, 0x00] ++ body.drop 2 := by
  have hbody := length_body_of_cells hcells hfront
  obtain ⟨first, hfirst, hfirstCells⟩ : ∃ next,
      tspacket.store 4 [0x00, 0x00] = .ok next ∧
        next.cells = (front ++ [0x00, 0x00]) ++ body.drop 2 :=
    Block.exists_store_append hcells hfront.symm (by simp [hbody])
  refine ⟨first, ?_, hfirstCells⟩
  simp only [sptsTspacketAdaptationSet, tspacketHeaderLength, hflag, hzero, hfirst,
    adaptationStuffing, bind, Except.bind, pure, Except.pure,
    show ¬(0x00 &&& pcrFlag ≠ 0) by decide, if_false, show ¬((0 : UInt8) > 0) by decide]
  rfl

end AdaptationSet

end SpTsMuxer.Spts
