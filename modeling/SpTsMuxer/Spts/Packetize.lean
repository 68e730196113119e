import SpTsMuxer.Spts.Model
import SpTsMuxer.Spts.Multiplex

/-!
# The Packetiser Emits the Packets of a Unit

A frame is packetised in one reused object.  The lemmas of this module follow that object through
the first packet and through the packet loop.  Of its old contents only the header survives a
packet, so the emitted packets are those of an abstract unit, whatever was sent before.

The two additions that guard the first packet wrap around for frames of almost `2 ^ 32` bytes.
Such a frame is a fault: its PES header would be stored past the end of the packet.
-/

namespace SpTsMuxer.Spts

open Memory Transport Pes

variable {W : Type}

/-! ## Emitting packets -/

/-- Hand packets on in order and count them. -/
def SpTs.emit (spts : SpTs W) (packets : List TsPacket) : SpTs W :=
  { spts with
    packetsCounter := spts.packetsCounter + UInt64.ofNat packets.length
    writeFuncData :=
      packets.foldl (fun data packet ↦ (spts.writeFunc data packet).2) spts.writeFuncData }

@[simp]
theorem SpTs.emit_nil (spts : SpTs W) : spts.emit [] = spts := by
  simp [emit]

theorem SpTs.emit_append (spts : SpTs W) (first second : List TsPacket) :
    spts.emit (first ++ second) = (spts.emit first).emit second := by
  simp [emit, UInt64.add_assoc]

theorem SpTs.emit_cons (spts : SpTs W) (packet : TsPacket) (rest : List TsPacket) :
    spts.emit (packet :: rest) = (spts.emit [packet]).emit rest :=
  spts.emit_append [packet] rest

/-- A stream record after `count` packets, the object and the remaining length as given. -/
def SpTsStream.advance (record : SpTsStream) (tspacket : TsPacket) (count : ℕ)
    (pesPacketLength : UInt32) : SpTsStream :=
  { record with
    tspacket := tspacket
    packetsCounter := record.packetsCounter + UInt64.ofNat count
    pesHeaderInfo := { record.pesHeaderInfo with pesPacketLength := pesPacketLength } }

theorem SpTsStream.advance_advance (record : SpTsStream) (first second : TsPacket)
    (count more : ℕ) (length rest : UInt32) :
    (record.advance first count length).advance second more rest =
      record.advance second (count + more) rest := by
  simp [advance, UInt64.add_assoc]

theorem sptsPacketWrite_eq (spts : SpTs W) (record : SpTsStream) (packet : TsPacket)
    (length : UInt32) :
    sptsPacketWrite spts record packet length =
      (spts.emit [packet], record.advance (sptsTspacketHeaderCcInc packet) 1 length) := rfl

/-! ## The packet object of a stream -/

/-- The object holds a header of the stream with the next counter; its flags and its body may be
anything. -/
def Bears (tspacket : TsPacket) (stream : ElementaryStream) (counter : ℕ) : Prop :=
  ∃ unitStart control body, control < 4 ∧
    tspacket.cells = header unitStart true stream.pid control counter ++ body

/-- The parts of a PES header that no frame changes. -/
structure InfoFor (info : PESHeaderInfo) (stream : ElementaryStream) : Prop where
  streamId : info.streamId = stream.streamId
  flag : info.pesHeaderFlag = 0x8080
  dataLength : info.pesHeaderDataLength = 5

/-! ## Packets after the first -/

section Continuation

variable {stream : ElementaryStream} {counter control : ℕ} {tspacket : TsPacket}
  {front body data : List UInt8} {buf count : ℕ}

theorem exists_sptsMiddlePacket
    (hcells : tspacket.cells = header false true stream.pid control counter ++ body)
    (hdata : buf + 184 ≤ data.length) :
    ∃ next, sptsMiddlePacket tspacket data buf = .ok next ∧
      next.cells = header false true stream.pid control counter ++ (data.drop buf).take 184 := by
  have hbody := length_body_of_cells hcells rfl
  have hpayload : ((data.drop buf).take 184).length = 184 := by
    rw [List.length_take, List.length_drop]
    omega
  have hload : load data buf tspacketPayloadLength.toNat = .ok ((data.drop buf).take 184) :=
    load_of_le hdata
  obtain ⟨next, hstore, hnext⟩ : ∃ next,
      tspacket.store tspacketHeaderLength ((data.drop buf).take 184) = .ok next ∧
        next.cells = _ :=
    Block.exists_store_append hcells rfl (Nat.le_of_eq (hpayload.trans hbody.symm))
  refine ⟨next, ?_, ?_⟩
  · rw [sptsMiddlePacket, hload]
    exact hstore
  · rw [hnext, hpayload, ← hbody, List.drop_length, List.append_nil]

/-- The adaptation field in front of a payload of `count` bytes without a clock reference. -/
def stuffingField (count : ℕ) : List UInt8 :=
  if count = 183 then [0]
  else UInt8.ofNat (183 - count) :: 0x00 :: List.replicate (182 - count) 0xff

theorem length_stuffingField (hcount : count ≤ 183) :
    (stuffingField count).length = 184 - count := by
  unfold stuffingField
  split_ifs with hfull
  · rw [hfull]
    rfl
  · simp only [List.length_cons, List.length_replicate]
    omega

/-- Whatever the helper returns, it leaves the adaptation field for the payload that is to come. -/
theorem exists_adaptationSet_field (hcells : tspacket.cells = front ++ body)
    (hfront : front.length = 4) {info : TsPacketAdaptationInfo} (hflag : info.fieldFlag = 0x00)
    (hcount : count ≤ 183) (hlength : info.adaptationFieldLength.toNat = 183 - count) :
    ∃ next length rest, sptsTspacketAdaptationSet tspacket info = .ok (next, length) ∧
      next.cells = front ++ stuffingField count ++ rest ∧ rest.length = count := by
  have hbody := length_body_of_cells hcells hfront
  by_cases hfull : count = 183
  · have hzero : info.adaptationFieldLength = 0 := by
      apply UInt8.toNat_inj.mp
      rw [hlength, hfull]
      rfl
    obtain ⟨next, hnext, hnextCells⟩ := exists_adaptationSet_zero hcells hfront hflag hzero
    refine ⟨next, 2, 0x00 :: body.drop 2, hnext, ?_, ?_⟩
    · rw [hnextCells, stuffingField, if_pos hfull]
      simp
    · rw [List.length_cons, List.length_drop, hbody, hfull]
  · obtain ⟨next, hnext, hnextCells⟩ :=
      exists_adaptationSet_stuffing hcells hfront hflag (by omega) (by omega)
    refine ⟨next, _, body.drop (184 - count), hnext, ?_, ?_⟩
    · have hbyte : info.adaptationFieldLength = UInt8.ofNat (183 - count) := by
        rw [← hlength, UInt8.ofNat_toNat]
      rw [hnextCells, stuffingField, if_neg hfull, hlength, hbyte,
        show 183 - count - 1 = 182 - count by omega,
        show 183 - count + 1 = 184 - count by omega]
    · rw [List.length_drop, hbody]
      omega

/-- The room that is left, less the length byte, fits a byte without loss. -/
theorem toNat_room_sub {room length : UInt32} (hroom : room.toNat ≤ 184)
    (hlt : length.toNat < room.toNat) :
    (room - length - 1).toUInt8.toNat = room.toNat - length.toNat - 1 := by
  have hdifference : (room - length).toNat = room.toNat - length.toNat :=
    UInt32.toNat_sub_of_le _ _ (UInt32.le_iff_toNat_le.mpr (Nat.le_of_lt hlt))
  have hone : (1 : UInt32).toNat = 1 := rfl
  have hrest : (room - length - 1).toNat = room.toNat - length.toNat - 1 := by
    rw [UInt32.toNat_sub_of_le _ _ (UInt32.le_iff_toNat_le.mpr (by omega)), hdifference, hone]
  rw [UInt32.toNat_toUInt8, hrest]
  omega

/-- The last packet fills up with stuffing in front of the bytes that are left. -/
theorem exists_sptsLastPacket {info : PESHeaderInfo}
    (hcells : tspacket.cells = header false true stream.pid control counter ++ body)
    (hcontrol : control < 4) (hlength : info.pesPacketLength.toNat = (data.drop buf).length)
    (hpos : 0 < (data.drop buf).length) (hlt : (data.drop buf).length < 184) :
    ∃ next, sptsLastPacket tspacket info data buf = .ok next ∧
      next.cells = header false true stream.pid 3 counter ++
        (stuffingField (data.drop buf).length ++ data.drop buf) := by
  have hboth := adaptationFieldControl_cells hcells hcontrol (.inr ⟨rfl, rfl⟩)
  have hfield : (tspacketPayloadLength - info.pesPacketLength - 1).toUInt8.toNat =
      183 - (data.drop buf).length := by
    have hroom : tspacketPayloadLength.toNat = 184 := rfl
    rw [toNat_room_sub (by omega) (by omega)]
    omega
  obtain ⟨first, length, rest, hfirst, hfirstCells, hrest⟩ :=
    exists_adaptationSet_field hboth rfl
      (show (⟨0x00, (tspacketPayloadLength - info.pesPacketLength - 1).toUInt8, 0⟩ :
        TsPacketAdaptationInfo).fieldFlag = 0x00 from rfl) (by omega) hfield
  have hload : load data buf info.pesPacketLength.toNat = .ok (data.drop buf) := by
    rw [List.length_drop] at hlength hpos
    rw [load_of_le (by omega), hlength, ← List.length_drop, List.take_length]
  obtain ⟨next, hnext, hnextCells⟩ : ∃ next,
      first.store (183 - (data.drop buf).length + 1 + 4) (data.drop buf) = .ok next ∧
        next.cells = _ :=
    Block.exists_store_append hfirstCells
      (by
        rw [List.length_append, length_header, length_stuffingField (by omega)]
        omega)
      (Nat.le_of_eq hrest.symm)
  refine ⟨next, ?_, ?_⟩
  · simp only [sptsLastPacket, tspacketHeaderLength, hfirst, hfield, hload, bind, Except.bind]
    exact hnext
  · rw [hnextCells, ← hrest, List.drop_length, List.append_nil, List.append_assoc]

theorem piece_encode_full (counter : ℕ) (hdata : data ≠ []) (hfull : 184 ≤ data.length) :
    (stream.piece counter data hdata).encode =
      header false true stream.pid 1 counter ++ data.take 184 := by
  have hlength : (data.take 184).length = 184 := by
    rw [List.length_take]
    omega
  exact (stream.piece counter data hdata).encode_full rfl hlength

theorem piece_encode_short (counter : ℕ) (hdata : data ≠ []) (hshort : data.length < 184) :
    (stream.piece counter data hdata).encode =
      header false true stream.pid 3 counter ++ (stuffingField data.length ++ data) := by
  have htake : data.take 184 = data := List.take_of_length_le (by omega)
  simp [Packet.encode, Packet.body, Packet.field, Packet.control, ElementaryStream.piece, htake,
    stuffingField, show data.length ≠ 184 by omega]

theorem sptsPacketLoop_zero (spts : SpTs W) (record : SpTsStream)
    (hlength : record.pesHeaderInfo.pesPacketLength = 0) :
    sptsPacketLoop spts record data buf = .ok (spts, record) := by
  rw [sptsPacketLoop, if_neg (by rw [hlength]; decide)]
  rfl

section Loop

variable (spts : SpTs W) (record : SpTsStream)
  (hcells : record.tspacket.cells = header false true stream.pid 1 counter ++ body)
  (hlength : record.pesHeaderInfo.pesPacketLength.toNat = (data.drop buf).length)
  (hnil : data.drop buf ≠ [])
include hcells hlength

/-- Fewer than 184 bytes that are left go into a last packet, which ends the loop. -/
theorem sptsPacketLoop_last (hshort : (data.drop buf).length < 184) :
    ∃ next, next = (stream.piece counter (data.drop buf) hnil).block ∧
      Bears (sptsTspacketHeaderCcInc next) stream (counter + 1) ∧
      sptsPacketLoop spts record data buf =
        .ok (spts.emit [next], record.advance (sptsTspacketHeaderCcInc next) 1 0) := by
  have hpos : 0 < (data.drop buf).length := List.length_pos_iff.mpr hnil
  have hpositive : record.pesHeaderInfo.pesPacketLength > 0 := by
    rw [gt_iff_lt, UInt32.lt_iff_toNat_lt, hlength]
    exact hpos
  have hless : record.pesHeaderInfo.pesPacketLength < tspacketPayloadLength := by
    rw [UInt32.lt_iff_toNat_lt, hlength]
    exact hshort
  obtain ⟨next, hnext, hnextCells⟩ :=
    exists_sptsLastPacket hcells (by omega) hlength hpos hshort
  refine ⟨next, Block.ext (hnextCells.trans (piece_encode_short counter hnil hshort).symm),
    ⟨false, 3, _, by omega, ccInc_cells hnextCells (by omega)⟩, ?_⟩
  rw [sptsPacketLoop, if_pos hpositive, if_pos hless, hnext]
  exact sptsPacketLoop_zero _ _ rfl

/-- Otherwise a full packet takes 184 bytes, and the loop goes on behind them. -/
theorem sptsPacketLoop_full (hlong : 184 ≤ (data.drop buf).length) :
    ∃ next, next = (stream.piece counter (data.drop buf) hnil).block ∧
      (∃ rest, (sptsTspacketHeaderCcInc next).cells =
        header false true stream.pid 1 (counter + 1) ++ rest) ∧
      (record.pesHeaderInfo.pesPacketLength - tspacketPayloadLength).toNat =
        (data.drop (buf + 184)).length ∧
      sptsPacketLoop spts record data buf =
        sptsPacketLoop (spts.emit [next])
          (record.advance (sptsTspacketHeaderCcInc next) 1
            (record.pesHeaderInfo.pesPacketLength - tspacketPayloadLength)) data (buf + 184) := by
  have hpositive : record.pesHeaderInfo.pesPacketLength > 0 := by
    rw [gt_iff_lt, UInt32.lt_iff_toNat_lt, hlength]
    exact List.length_pos_iff.mpr hnil
  have hle : tspacketPayloadLength ≤ record.pesHeaderInfo.pesPacketLength := by
    rw [UInt32.le_iff_toNat_le, hlength]
    exact hlong
  have hroom : buf + 184 ≤ data.length := by
    rw [List.length_drop] at hlong
    omega
  obtain ⟨next, hnext, hnextCells⟩ := exists_sptsMiddlePacket hcells hroom
  refine ⟨next, Block.ext (hnextCells.trans (piece_encode_full counter hnil hlong).symm),
    ⟨_, ccInc_cells hnextCells (by omega)⟩, ?_, ?_⟩
  · rw [UInt32.toNat_sub_of_le _ _ hle, hlength, List.length_drop, List.length_drop]
    change data.length - buf - 184 = _
    omega
  · rw [sptsPacketLoop, if_pos hpositive, if_neg (UInt32.not_lt.mpr hle), hnext]
    change sptsPacketLoop (sptsPacketWrite _ _ _ _).1 (sptsPacketWrite _ _ _ _).2 data
      (buf + 184) = _
    rw [sptsPacketWrite_eq]

end Loop

/-- The packet loop emits the continuation packets of the bytes that are left. -/
theorem exists_sptsPacketLoop (spts : SpTs W) (record : SpTsStream)
    (hcells : record.tspacket.cells = header false true stream.pid 1 counter ++ body)
    (hlength : record.pesHeaderInfo.pesPacketLength.toNat = (data.drop buf).length) :
    ∃ tspacket, Bears tspacket stream
        (counter + (stream.continuation counter (data.drop buf)).length) ∧
      sptsPacketLoop spts record data buf =
        .ok (spts.emit ((stream.continuation counter (data.drop buf)).map Packet.block),
          record.advance tspacket (stream.continuation counter (data.drop buf)).length 0) := by
  induction hremaining : (data.drop buf).length using Nat.strongRecOn
    generalizing spts record counter buf body with
  | ind remaining ih =>
      by_cases hnil : data.drop buf = []
      · have hzero : record.pesHeaderInfo.pesPacketLength = 0 := by
          apply UInt32.toNat_inj.mp
          rw [hlength, hnil]
          rfl
        refine ⟨record.tspacket, ?_, ?_⟩
        · rw [hnil, ElementaryStream.continuation_nil]
          exact ⟨false, 1, body, by omega, hcells⟩
        · rw [sptsPacketLoop_zero spts record hzero, hnil, ElementaryStream.continuation_nil]
          simp [SpTsStream.advance, ← hzero]
      rw [ElementaryStream.continuation_of_ne_nil stream counter hnil]
      by_cases hshort : (data.drop buf).length < 184
      · obtain ⟨next, hblock, hbears, hloop⟩ :=
          sptsPacketLoop_last spts record hcells hlength hnil hshort
        have hrest : (data.drop buf).drop 184 = [] := List.drop_eq_nil_of_le (by omega)
        rw [hrest, ElementaryStream.continuation_nil, List.map_singleton, ← hblock]
        exact ⟨sptsTspacketHeaderCcInc next, hbears, hloop⟩
      · have hlong : 184 ≤ (data.drop buf).length := Nat.le_of_not_lt hshort
        obtain ⟨next, hblock, ⟨rest, hnextCells⟩, hleft, hloop⟩ :=
          sptsPacketLoop_full spts record hcells hlength hnil hlong
        have hless : (data.drop (buf + 184)).length < remaining := by
          rw [← hremaining, ← List.drop_drop, List.length_drop]
          omega
        obtain ⟨tspacket, hbears, htail⟩ := ih _ hless (spts.emit [next])
          (record.advance (sptsTspacketHeaderCcInc next) 1
            (record.pesHeaderInfo.pesPacketLength - tspacketPayloadLength)) hnextCells hleft rfl
        rw [List.drop_drop, List.map_cons, ← hblock, SpTs.emit_cons, List.length_cons]
        refine ⟨tspacket, ?_, ?_⟩
        · rw [Nat.add_comm _ 1, ← Nat.add_assoc]
          exact hbears
        · rw [hloop, htail, SpTsStream.advance_advance, Nat.add_comm 1]

end Continuation

/-! ## The first packet of a frame -/

section Start

variable {stream : ElementaryStream} {counter control : ℕ} {tspacket : TsPacket}
  {body data : List UInt8} {info : PESHeaderInfo}

/-- The bytes of the start packet in front of its PES header: the adaptation field, and the stray
byte if there is one. -/
def startFront (stream : ElementaryStream) (counter pts : ℕ) (data : List UInt8) : List UInt8 :=
  (stream.start counter pts data).field ++ stream.lead data

theorem start_body (stream : ElementaryStream) (counter pts : ℕ) (data : List UInt8) :
    (stream.start counter pts data).body = startFront stream counter pts data ++
      (pesHeader stream.streamId (stream.packetLength data) pts ++
        data.take (stream.taken data)) := by
  rw [startFront, Packet.body, List.append_assoc]
  rfl

/-- The PES header begins where it leaves just the room it needs. -/
theorem length_startFront (stream : ElementaryStream) (counter pts : ℕ) (data : List UInt8) :
    (startFront stream counter pts data).length + 14 + min (stream.taken data) data.length =
      184 := by
  have hbody := (stream.start counter pts data).length_body
  rw [start_body] at hbody
  simp only [List.length_append, length_pesHeader, List.length_take] at hbody
  omega

theorem toNat_room (info : PESHeaderInfo) :
    (tspacketPayloadLength - pesHeaderLength info).toNat = 170 := by
  rw [pesHeaderLength]
  rfl

theorem toNat_plain_size (info : PESHeaderInfo) :
    (pesHeaderLength info + info.pesPacketLength).toNat =
      (14 + info.pesPacketLength.toNat) % 2 ^ 32 := by
  rw [pesHeaderLength, UInt32.toNat_add]
  rfl

theorem toNat_pcr_size (info : PESHeaderInfo) :
    ((0x7 : UInt8).toUInt32 + 1 + pesHeaderLength info + info.pesPacketLength).toNat =
      (22 + info.pesPacketLength.toNat) % 2 ^ 32 := by
  rw [pesHeaderLength, UInt32.toNat_add]
  rfl

theorem toNat_pcrAdaptationInfo_pcr (hpts : info.pts.toNat < 2 ^ 51) :
    (pcrAdaptationInfo info).pcr.toNat = (info.pts.toNat - 10250) * 300 := by
  have hconstant : (10250 : UInt64).toNat = 10250 := rfl
  rw [pcrAdaptationInfo]
  dsimp only
  split_ifs with hlt
  · rw [UInt64.lt_iff_toNat_lt, hconstant] at hlt
    rw [show info.pts.toNat - 10250 = 0 by omega]
    rfl
  · have hle : (10250 : UInt64) ≤ info.pts := UInt64.not_lt.mp hlt
    rw [UInt64.toNat_mul, UInt64.toNat_sub_of_le _ _ hle, hconstant]
    change (info.pts.toNat - 10250) * 300 % 2 ^ 64 = _
    omega

theorem pcrBytes_clock (hpts : info.pts.toNat < 2 ^ 51) :
    pcrBytes (pcrAdaptationInfo info).pcr = (ElementaryStream.clock info.pts.toNat).encode := by
  rw [pcrBytes_eq, toNat_pcrAdaptationInfo_pcr hpts, ElementaryStream.clock]

theorem toNat_pcrAdaptationInfo_length (hlength : info.pesPacketLength.toNat = data.length)
    (hsize : data.length < 2 ^ 32 - 22) :
    (pcrAdaptationInfo info).adaptationFieldLength.toNat = 169 - min 162 data.length := by
  have hsum : ((0x7 : UInt8).toUInt32 + 1 + pesHeaderLength info + info.pesPacketLength).toNat =
      22 + data.length := by
    rw [toNat_pcr_size, hlength]
    exact Nat.mod_eq_of_lt (by omega)
  have hroom := toNat_room info
  have hpayload : tspacketPayloadLength.toNat = 184 := rfl
  rw [pcrAdaptationInfo]
  dsimp only
  split_ifs with hshort
  · rw [gt_iff_lt, UInt32.lt_iff_toNat_lt, hsum, hpayload] at hshort
    rw [toNat_room_sub (by omega) (by omega), hroom, hlength]
    omega
  · rw [gt_iff_lt, UInt32.lt_iff_toNat_lt, hsum, hpayload] at hshort
    change 7 = _
    omega

theorem startFront_pcr (hpcr : stream.pcr = true) (counter pts : ℕ) (data : List UInt8) :
    startFront stream counter pts data =
      UInt8.ofNat (169 - min 162 data.length) :: pcrFlag :: (ElementaryStream.clock pts).encode ++
        List.replicate (162 - min 162 data.length) 0xff := by
  have hlead : stream.lead data = [] := by
    rw [ElementaryStream.lead, if_neg (by simp [hpcr])]
  have hclock : (stream.start counter pts data).pcr = some (ElementaryStream.clock pts) :=
    if_pos hpcr
  have hpayload : (stream.start counter pts data).payload.length = 14 + min 162 data.length := by
    rw [show (stream.start counter pts data).payload = stream.startPayload pts data from rfl,
      ElementaryStream.length_startPayload, hlead, ElementaryStream.taken, if_pos hpcr,
      List.length_nil, Nat.zero_add]
  rw [startFront, hlead, List.append_nil, Packet.field, hclock, hpayload,
    show 183 - (14 + min 162 data.length) = 169 - min 162 data.length by omega,
    show 176 - (14 + min 162 data.length) = 162 - min 162 data.length by omega]
  rfl

theorem exists_sptsFirstAdaptation_pcr (hpcr : stream.pcr = true)
    (hcells : tspacket.cells = header true true stream.pid control counter ++ body)
    (hcontrol : control < 4) (hlength : info.pesPacketLength.toNat = data.length)
    (hsize : data.length < 2 ^ 32 - 22) (hpts : info.pts.toNat < 2 ^ 51) :
    ∃ next, sptsFirstAdaptation true tspacket info =
        .ok (next, UInt32.ofNat (4 + (startFront stream counter info.pts.toNat data).length)) ∧
      next.cells = header true true stream.pid
          (stream.start counter info.pts.toNat data).control counter ++
        startFront stream counter info.pts.toNat data ++
          body.drop (startFront stream counter info.pts.toNat data).length := by
  have hboth := adaptationFieldControl_cells hcells hcontrol (.inr ⟨rfl, rfl⟩)
  have hfield := toNat_pcrAdaptationInfo_length hlength hsize
  have hcontrolEq : (stream.start counter info.pts.toNat data).control = 3 := by
    simp [Packet.control, ElementaryStream.start, hpcr]
  obtain ⟨next, hnext, hnextCells⟩ :=
    exists_adaptationSet_pcr hboth rfl (show (pcrAdaptationInfo info).fieldFlag = pcrFlag from rfl)
      (by omega) (by omega)
  have hbyte : (pcrAdaptationInfo info).adaptationFieldLength =
      UInt8.ofNat (169 - min 162 data.length) := by
    rw [← hfield, UInt8.ofNat_toNat]
  have hfront := startFront_pcr hpcr counter info.pts.toNat data
  have hfrontLength : (startFront stream counter info.pts.toNat data).length =
      170 - min 162 data.length := by
    have htotal := length_startFront stream counter info.pts.toNat data
    rw [ElementaryStream.taken, if_pos hpcr] at htotal
    omega
  refine ⟨next, ?_, ?_⟩
  · rw [sptsFirstAdaptation, if_pos rfl]
    simp only [hnext, hfield, hfrontLength, bind, Except.bind, pure, Except.pure,
      tspacketHeaderLength, ← UInt32.ofNat_add]
    rw [show 4 + (169 - min 162 data.length + 1) = 4 + (170 - min 162 data.length) by omega]
  · rw [hnextCells, hcontrolEq, hfrontLength, hfront, hfield, hbyte, pcrBytes_clock hpts,
      show 169 - min 162 data.length - 7 = 162 - min 162 data.length by omega,
      show 169 - min 162 data.length + 1 = 170 - min 162 data.length by omega]

theorem length_start_payload_plain (hpcr : stream.pcr = false) (counter pts : ℕ)
    (data : List UInt8) :
    (stream.start counter pts data).payload.length =
      if data.length = 169 then 183 else 14 + min 170 data.length := by
  rw [show (stream.start counter pts data).payload = stream.startPayload pts data from rfl,
    ElementaryStream.length_startPayload, ElementaryStream.lead, ElementaryStream.taken, hpcr]
  by_cases hstray : data.length = 169
  · simp [hstray]
  · simp [hstray]

/-- Off the PCR stream: nothing for a long frame, two bytes for a frame of 169, and stuffing for
a shorter one. -/
theorem startFront_plain (hpcr : stream.pcr = false) (counter pts : ℕ) (data : List UInt8) :
    startFront stream counter pts data =
      if 170 ≤ data.length then [] else if data.length = 169 then [0x00, 0x00]
      else stuffingField (14 + data.length) := by
  have hclock : (stream.start counter pts data).pcr = none := by
    simp [ElementaryStream.start, hpcr]
  have hpayload := length_start_payload_plain hpcr counter pts data
  rw [startFront, ElementaryStream.lead, hpcr, Packet.field, hclock, hpayload]
  dsimp only
  by_cases hlong : 170 ≤ data.length
  · rw [if_neg (show ¬data.length = 169 by omega), if_pos (by omega), if_neg (by omega),
      if_pos hlong, List.append_nil]
  · by_cases hstray : data.length = 169
    · simp [hstray]
    · rw [if_neg hlong, if_neg hstray, if_neg hstray, if_neg (by omega), if_neg (by omega),
        if_neg (by omega), List.append_nil, stuffingField, if_neg (by omega),
        Nat.min_eq_right (by omega)]

/-- The test for a stuffing field in the first packet. -/
theorem stuffing_needed_iff (hlength : info.pesPacketLength.toNat = data.length)
    (hsize : data.length < 2 ^ 32 - 14) :
    tspacketPayloadLength > pesHeaderLength info + info.pesPacketLength ↔ data.length < 170 := by
  have hsum : (pesHeaderLength info + info.pesPacketLength).toNat = 14 + data.length := by
    rw [toNat_plain_size, hlength]
    exact Nat.mod_eq_of_lt (by omega)
  have hpayload : tspacketPayloadLength.toNat = 184 := rfl
  rw [gt_iff_lt, UInt32.lt_iff_toNat_lt, hsum, hpayload]
  omega

theorem toNat_stuffingAdaptationInfo_length
    (hlength : info.pesPacketLength.toNat = data.length) (hshort : data.length < 170) :
    (stuffingAdaptationInfo info).adaptationFieldLength.toNat = 169 - data.length := by
  have hroom := toNat_room info
  rw [stuffingAdaptationInfo, toNat_room_sub (by omega) (by omega), hroom, hlength]
  omega

theorem exists_sptsFirstAdaptation_plain (hpcr : stream.pcr = false)
    (hcells : tspacket.cells = header true true stream.pid control counter ++ body)
    (hcontrol : control < 4) (hlength : info.pesPacketLength.toNat = data.length)
    (hsize : data.length < 2 ^ 32 - 14) :
    ∃ next, sptsFirstAdaptation false tspacket info =
        .ok (next, UInt32.ofNat (4 + (startFront stream counter info.pts.toNat data).length)) ∧
      next.cells = header true true stream.pid
          (stream.start counter info.pts.toNat data).control counter ++
        startFront stream counter info.pts.toNat data ++
          body.drop (startFront stream counter info.pts.toNat data).length := by
  have hneeded := stuffing_needed_iff hlength hsize
  have hclock : (stream.start counter info.pts.toNat data).pcr = none := by
    simp [ElementaryStream.start, hpcr]
  have hcontrolEq : (stream.start counter info.pts.toNat data).control =
      if 170 ≤ data.length then 1 else 3 := by
    have hfull : ((if data.length = 169 then 183 else 14 + min 170 data.length) = 184) ↔
        170 ≤ data.length := by
      split_ifs <;> omega
    rw [Packet.control, hclock, length_start_payload_plain hpcr]
    simp only [true_and, hfull]
  have hfront := startFront_plain hpcr counter info.pts.toNat data
  rw [sptsFirstAdaptation, if_neg (by decide), hcontrolEq, hfront]
  by_cases hlong : 170 ≤ data.length
  · rw [if_neg (fun h ↦ by have := hneeded.mp h; omega), if_pos hlong, if_pos hlong]
    have honly := adaptationFieldControl_cells hcells hcontrol (.inl ⟨rfl, rfl⟩)
    exact ⟨_, rfl, by rw [honly]; simp⟩
  have hboth := adaptationFieldControl_cells hcells hcontrol (.inr ⟨rfl, rfl⟩)
  have hfield := toNat_stuffingAdaptationInfo_length hlength (Nat.lt_of_not_le hlong)
  rw [if_pos (hneeded.mpr (Nat.lt_of_not_le hlong)), if_neg hlong, if_neg hlong]
  by_cases hstray : data.length = 169
  · -- The helper stores and returns two bytes for a field that occupies one.
    have hzero : (stuffingAdaptationInfo info).adaptationFieldLength = 0 := by
      apply UInt8.toNat_inj.mp
      rw [hfield, hstray]
      rfl
    obtain ⟨next, hnext, hnextCells⟩ := exists_adaptationSet_zero hboth rfl
      (show (stuffingAdaptationInfo info).fieldFlag = 0x00 from rfl) hzero
    rw [if_pos hstray]
    refine ⟨next, ?_, hnextCells⟩
    simp only [hnext, bind, Except.bind, pure, Except.pure]
    rfl
  · obtain ⟨next, hnext, hnextCells⟩ := exists_adaptationSet_stuffing hboth rfl
      (show (stuffingAdaptationInfo info).fieldFlag = 0x00 from rfl) (by omega) (by omega)
    have hbyte : (stuffingAdaptationInfo info).adaptationFieldLength =
        UInt8.ofNat (169 - data.length) := by
      rw [← hfield, UInt8.ofNat_toNat]
    rw [if_neg hstray, length_stuffingField (by omega)]
    refine ⟨next, ?_, ?_⟩
    · simp only [hnext, hfield, bind, Except.bind, pure, Except.pure, tspacketHeaderLength,
        ← UInt32.ofNat_add]
      rw [show 4 + (169 - data.length + 1) = 4 + (184 - (14 + data.length)) by omega]
    · rw [hnextCells, hfield, hbyte, stuffingField, if_neg (by omega),
        show 183 - (14 + data.length) = 169 - data.length by omega,
        show 182 - (14 + data.length) = 169 - data.length - 1 by omega,
        show 184 - (14 + data.length) = 169 - data.length + 1 by omega]

/-- The stored header is that of the unit; the length field is cut to 16 bits in both. -/
theorem pesHeaderBytes_unit (hinfo : InfoFor info stream)
    (hlength : info.pesPacketLength.toNat = data.length) :
    pesHeaderBytes info =
      pesHeader stream.streamId (stream.packetLength data) info.pts.toNat := by
  rw [pesHeaderBytes_eq hinfo.flag hinfo.dataLength, hinfo.streamId, writtenPacketLength,
    ElementaryStream.packetLength, hinfo.streamId]
  rw [show streamIdVideo = 0xe0 from rfl]
  by_cases hvideo : stream.streamId = 0xe0
  · rw [if_pos hvideo, if_pos hvideo]
    rfl
  · have hbyte (value other : ℕ) (h : value % 256 = other % 256) :
        UInt8.ofNat value = UInt8.ofNat other := by
      apply UInt8.toNat_inj.mp
      rw [UInt8.toNat_ofNat', UInt8.toNat_ofNat']
      exact h
    have hsum : (info.pesPacketLength + 8).toNat = (data.length + 8) % 2 ^ 32 := by
      rw [UInt32.toNat_add, hlength]
      rfl
    rw [if_neg hvideo, if_neg hvideo, hsum, pesHeader, pesHeader,
      hbyte ((data.length + 8) % 2 ^ 32 / 256) ((data.length + 8) / 256) (by omega),
      hbyte ((data.length + 8) % 2 ^ 32) (data.length + 8) (by omega)]

theorem exists_sptsFirstAdaptation
    (hcells : tspacket.cells = header true true stream.pid control counter ++ body)
    (hcontrol : control < 4) (hlength : info.pesPacketLength.toNat = data.length)
    (hsize : data.length < 2 ^ 32 - (if stream.pcr then 22 else 14))
    (hpts : info.pts.toNat < 2 ^ 51) :
    ∃ next, sptsFirstAdaptation stream.pcr tspacket info =
        .ok (next, UInt32.ofNat (4 + (startFront stream counter info.pts.toNat data).length)) ∧
      next.cells = header true true stream.pid
          (stream.start counter info.pts.toNat data).control counter ++
        startFront stream counter info.pts.toNat data ++
          body.drop (startFront stream counter info.pts.toNat data).length := by
  cases hpcr : stream.pcr with
  | true =>
      rw [hpcr, if_pos rfl] at hsize
      exact exists_sptsFirstAdaptation_pcr hpcr hcells hcontrol hlength hsize hpts
  | false =>
      rw [hpcr, if_neg (by decide)] at hsize
      exact exists_sptsFirstAdaptation_plain hpcr hcells hcontrol hlength hsize

/-- The first packet is the start packet of the unit, and takes its share of the frame. -/
theorem sptsFirstPacket_eq (hinfo : InfoFor info stream)
    (hcells : tspacket.cells = header true true stream.pid control counter ++ body)
    (hcontrol : control < 4) (hlength : info.pesPacketLength.toNat = data.length)
    (hsize : data.length < 2 ^ 32 - (if stream.pcr then 22 else 14))
    (hpts : info.pts.toNat < 2 ^ 51) :
    sptsFirstPacket stream.pcr tspacket info data =
      .ok ((stream.start counter info.pts.toNat data).block,
        UInt32.ofNat (min (stream.taken data) data.length)) := by
  have hbody := length_body_of_cells hcells rfl
  have htotal := length_startFront stream counter info.pts.toNat data
  obtain ⟨first, hfirst, hfirstCells⟩ :=
    exists_sptsFirstAdaptation hcells hcontrol hlength hsize hpts
  generalize hfront : startFront stream counter info.pts.toNat data = front at *
  generalize hcount : min (stream.taken data) data.length = count at *
  have htake : data.take (stream.taken data) = data.take count := by
    rw [← hcount]
    exact List.take_eq_take_min
  have hpayload : (data.take count).length = count := by
    rw [List.length_take]
    omega
  -- The header goes right behind the front, the payload right behind the header.
  obtain ⟨second, hsecond, hsecondCells⟩ : ∃ next,
      first.store (4 + front.length) (pesHeaderBytes info) = .ok next ∧ next.cells = _ :=
    Block.exists_store_append hfirstCells (by simp) (by simp [hbody]; omega)
  obtain ⟨third, hthird, hthirdCells⟩ : ∃ next,
      second.store (4 + front.length + 14) (data.take count) = .ok next ∧ next.cells = _ :=
    Block.exists_store_append hsecondCells (by simp [Nat.add_assoc]) (by simp [hbody]; omega)
  have hoffset : (UInt32.ofNat (4 + front.length)).toNat = 4 + front.length := by
    rw [UInt32.toNat_ofNat']
    omega
  have hnext : (UInt32.ofNat (4 + front.length) + 14).toNat = 4 + front.length + 14 := by
    rw [UInt32.toNat_add, hoffset]
    change (4 + front.length + 14) % 2 ^ 32 = _
    omega
  have hcountEq : (UInt32.ofNat count).toNat = count := by
    rw [UInt32.toNat_ofNat']
    omega
  have hsizeEq : tspacketLength - (UInt32.ofNat (4 + front.length) + 14) = UInt32.ofNat count := by
    have hle : UInt32.ofNat (4 + front.length) + 14 ≤ tspacketLength := by
      rw [UInt32.le_iff_toNat_le, hnext]
      change _ ≤ 188
      omega
    apply UInt32.toNat_inj.mp
    rw [UInt32.toNat_sub_of_le _ _ hle, hnext, hcountEq]
    change 188 - _ = count
    omega
  have hload : load data 0 count = .ok (data.take count) := load_of_le (by omega)
  have hblock : third = (stream.start counter info.pts.toNat data).block := by
    have hrest : (List.drop (pesHeaderBytes info).length (body.drop front.length)).drop
        (data.take count).length = [] := by
      apply List.drop_eq_nil_of_le
      simp only [List.length_drop, hpayload, hbody, length_pesHeaderBytes]
      omega
    apply Block.ext
    rw [hthirdCells, hrest, pesHeaderBytes_unit hinfo hlength, Packet.block_cells, Packet.encode,
      start_body, hfront, htake]
    simp only [List.append_assoc, List.append_nil]
    rfl
  rw [sptsFirstPacket, hfirst]
  simp only [bind, Except.bind, pesHeaderSet, hoffset, hsecond, pure, Except.pure]
  rw [show UInt32.ofNat (pesHeaderBytes info).length = 14 from rfl, hsizeEq, hcountEq, hload, hnext]
  dsimp only
  rw [hthird, hblock]

end Start

/-! ## Whole frames -/

/-- The record of a stream before its packet number `counter`. -/
structure StreamRefines (record : SpTsStream) (stream : ElementaryStream) (counter : ℕ) :
    Prop where
  tspacket : Bears record.tspacket stream counter
  pcrReference : record.pcrReference = stream.pcr
  info : InfoFor record.pesHeaderInfo stream
  packetsCounter : record.packetsCounter = UInt64.ofNat counter

/-- Frames whose length the additions of the first packet carry without wrapping around. -/
def ElementaryStream.Holds (stream : ElementaryStream) (data : List UInt8) : Prop :=
  data.length < 2 ^ 32 - (if stream.pcr then 22 else 14)

/-- The record after a frame: another object, more packets, a new time stamp. -/
def SpTsStream.written (record : SpTsStream) (tspacket : TsPacket) (count : ℕ) (pts : UInt64) :
    SpTsStream :=
  { record with pesHeaderInfo := { record.pesHeaderInfo with pts := pts } }.advance tspacket count 0

theorem StreamRefines.written {record : SpTsStream} {stream : ElementaryStream} {counter : ℕ}
    (h : StreamRefines record stream counter) {tspacket : TsPacket} {count : ℕ}
    (hbears : Bears tspacket stream (counter + count)) (pts : UInt64) :
    StreamRefines (record.written tspacket count pts) stream (counter + count) where
  tspacket := hbears
  pcrReference := h.pcrReference
  info := ⟨h.info.streamId, h.info.flag, h.info.dataLength⟩
  packetsCounter := by
    change record.packetsCounter + UInt64.ofNat count = _
    rw [h.packetsCounter, UInt64.ofNat_add]

theorem drop_min_length (data : List UInt8) (count : ℕ) :
    data.drop (min count data.length) = data.drop count := by
  rcases Nat.le_total count data.length with hle | hle
  · rw [Nat.min_eq_left hle]
  · rw [Nat.min_eq_right hle, List.drop_length, List.drop_eq_nil_of_le hle]

theorem gsttimeToMpegtime_lt (gst : UInt64Scale) (time : UInt64) :
    (gsttimeToMpegtime gst time).toNat < 2 ^ 51 := by
  have htime := time.toNat_lt
  rw [toNat_gsttimeToMpegtime]
  omega

theorem StreamRefines.firstPacket {record : SpTsStream} {stream : ElementaryStream} {counter : ℕ}
    (h : StreamRefines record stream counter) (gst : UInt64Scale) (buffer : GstBuffer)
    (hsize : stream.Holds buffer.data) :
    sptsFirstPacket record.pcrReference
        (sptsTspacketHeaderSetStartUnitIndicator record.tspacket 0x40)
        { record.pesHeaderInfo with
          pts := gsttimeToMpegtime gst buffer.timestamp
          pesPacketLength := buffer.size } buffer.data =
      .ok ((stream.start counter (gsttimeToMpegtime gst buffer.timestamp).toNat buffer.data).block,
        UInt32.ofNat (min (stream.taken buffer.data) buffer.data.length)) := by
  obtain ⟨unitStart, control, body, hcontrol, hcells⟩ := h.tspacket
  have hstarted := startUnitIndicator_cells hcells stream.pid_lt true
  rw [h.pcrReference]
  exact sptsFirstPacket_eq ⟨h.info.streamId, h.info.flag, h.info.dataLength⟩ hstarted hcontrol
    buffer.toNat_size hsize (gsttimeToMpegtime_lt gst buffer.timestamp)

/-- A frame is packetised into the packets of its unit, and nothing else changes. -/
theorem exists_sptsStreamWrite (gst : UInt64Scale) (spts : SpTs W) {record : SpTsStream}
    {stream : ElementaryStream} {counter : ℕ} (h : StreamRefines record stream counter)
    (buffer : GstBuffer) (hsize : stream.Holds buffer.data) :
    let pts := gsttimeToMpegtime gst buffer.timestamp
    let unit := stream.unit counter pts.toNat buffer.data
    ∃ tspacket, Bears tspacket stream (counter + unit.length) ∧
      sptsStreamWrite gst spts record buffer =
        .ok (spts.emit (unit.map Packet.block), record.written tspacket unit.length pts) := by
  intro pts unit
  let info := { record.pesHeaderInfo with pts := pts, pesPacketLength := buffer.size }
  let first := (stream.start counter pts.toNat buffer.data).block
  let count := UInt32.ofNat (min (stream.taken buffer.data) buffer.data.length)
  have hcount : count.toNat = min (stream.taken buffer.data) buffer.data.length := by
    have hsmall := buffer.size_lt
    rw [UInt32.toNat_ofNat']
    omega
  have hdrop : buffer.data.drop count.toNat = buffer.data.drop (stream.taken buffer.data) := by
    rw [hcount, drop_min_length]
  have hlength : info.pesPacketLength.toNat = buffer.data.length := buffer.toNat_size
  have hfirst : sptsFirstPacket record.pcrReference
      (sptsTspacketHeaderSetStartUnitIndicator record.tspacket 0x40) info buffer.data =
        .ok (first, count) :=
    h.firstPacket gst buffer hsize
  have hleft : (info.pesPacketLength - count).toNat = (buffer.data.drop count.toNat).length := by
    have hle : count ≤ info.pesPacketLength := by
      rw [UInt32.le_iff_toNat_le, hcount, hlength]
      exact Nat.min_le_right _ _
    rw [UInt32.toNat_sub_of_le _ _ hle, hlength, List.length_drop]
  -- Between the first packet and the loop the header is made that of a continuation.
  have hcontrolLt := (stream.start counter pts.toNat buffer.data).control_lt
  have hinc := ccInc_cells (show first.cells = _ from rfl) hcontrolLt
  have honly := adaptationFieldControl_cells hinc hcontrolLt (.inl ⟨rfl, rfl⟩)
  have hreset := startUnitIndicator_cells honly stream.pid_lt false
  obtain ⟨tspacket, hbears, hloop⟩ := exists_sptsPacketLoop (spts.emit [first])
    { (({ record with pesHeaderInfo := info } : SpTsStream).advance
        (sptsTspacketHeaderCcInc first) 1 (info.pesPacketLength - count)) with
      tspacket := _ } hreset hleft
  rw [hdrop] at hbears hloop
  have hunit : unit.length = 1 + (stream.continuation (counter + 1)
      (buffer.data.drop (stream.taken buffer.data))).length :=
    Nat.add_comm _ 1
  refine ⟨tspacket, ?_, ?_⟩
  · rw [hunit, ← Nat.add_assoc]
    exact hbears
  · change (sptsFirstPacket record.pcrReference _ info buffer.data).bind _ = _
    rw [hfirst, show unit.map Packet.block = first :: _ from rfl, SpTs.emit_cons, hunit]
    refine Eq.trans hloop ?_
    rw [SpTsStream.written, ← SpTsStream.advance_advance _ first]
    rfl

/-! ## Frames that are too long -/

section TooLong

variable {stream : ElementaryStream} {counter control : ℕ} {tspacket : TsPacket}
  {front body data : List UInt8} {info : PESHeaderInfo}

/-- The length of the adaptation field wraps around to a large byte. -/
theorem toNat_room_wrap (hlength : info.pesPacketLength.toNat = data.length)
    (hlow : 2 ^ 32 - 22 ≤ data.length) (hhigh : data.length < 2 ^ 32) :
    (tspacketPayloadLength - pesHeaderLength info - info.pesPacketLength - 1).toUInt8.toNat =
      169 + (2 ^ 32 - data.length) := by
  have hroom := toNat_room info
  rw [UInt32.toNat_toUInt8, UInt32.toNat_sub, UInt32.toNat_sub, hroom, hlength]
  change (2 ^ 32 - 1 + (2 ^ 32 - data.length + 170) % 2 ^ 32) % 2 ^ 32 % 2 ^ 8 = _
  omega

theorem adaptationStuffing_outOfBounds {buf : ℕ} {length : UInt8} (hheader : 5 ≤ buf)
    (hused : buf - 5 < length.toNat) (hlong : 183 < length.toNat) :
    adaptationStuffing tspacket buf length = .error .outOfBounds := by
  have hbyte := length.toNat_lt
  have hstuffing : (length - UInt8.ofNat (buf - tspacketHeaderLength - 1)).toNat =
      length.toNat + 5 - buf := by
    have hsmall : (UInt8.ofNat (buf - tspacketHeaderLength - 1)).toNat = buf - 5 := by
      rw [UInt8.toNat_ofNat', tspacketHeaderLength]
      omega
    rw [UInt8.toNat_sub_of_le _ _ (UInt8.le_iff_toNat_le.mpr (by omega)), hsmall]
    omega
  unfold adaptationStuffing
  rw [if_pos ((byte_pos_iff length).mpr (by omega))]
  dsimp only
  rw [if_pos ((byte_pos_iff _).mpr (by omega)), hstuffing,
    Block.store_of_lt (by rw [List.length_replicate]; omega)]
  rfl

/-- A field that does not end in front of the last fourteen bytes leaves no room for the header. -/
theorem sptsFirstPacket_of_adaptation {pcrReference : Bool} {next : TsPacket} {length : ℕ}
    (hfirst : sptsFirstAdaptation pcrReference tspacket info =
      .ok (next, UInt32.ofNat length)) (hlow : 174 < length) (hhigh : length < 2 ^ 32) :
    sptsFirstPacket pcrReference tspacket info data = .error .outOfBounds := by
  have hlengthEq : (UInt32.ofNat length).toNat = length := by
    rw [UInt32.toNat_ofNat']
    omega
  rw [sptsFirstPacket, hfirst]
  simp only [bind, Except.bind, pesHeaderSet, hlengthEq]
  rw [Block.store_of_lt (by rw [length_pesHeaderBytes]; omega)]

/-- With a clock reference the fault may already be in the stuffing. -/
theorem adaptationSet_pcr_outOfBounds (hcells : tspacket.cells = front ++ body)
    (hfront : front.length = 4) {adaptation : TsPacketAdaptationInfo}
    (hflag : adaptation.fieldFlag = pcrFlag)
    (hlong : 183 < adaptation.adaptationFieldLength.toNat) :
    sptsTspacketAdaptationSet tspacket adaptation = .error .outOfBounds := by
  have hbody := length_body_of_cells hcells hfront
  obtain ⟨first, hfirst, hfirstCells⟩ : ∃ next,
      tspacket.store 4 [adaptation.adaptationFieldLength, pcrFlag] = .ok next ∧
        next.cells = (front ++ [adaptation.adaptationFieldLength, pcrFlag]) ++ body.drop 2 :=
    Block.exists_store_append hcells hfront.symm (by simp [hbody])
  obtain ⟨second, hsecond, -⟩ : ∃ next,
      first.store 6 (pcrBytes adaptation.pcr) = .ok next ∧ next.cells = _ :=
    Block.exists_store_append hfirstCells (by simp [hfront]) (by simp [hbody])
  have hthird : adaptationStuffing second 12 adaptation.adaptationFieldLength =
      .error .outOfBounds :=
    adaptationStuffing_outOfBounds (by omega) (by omega) hlong
  simp only [sptsTspacketAdaptationSet, tspacketHeaderLength, hflag, hfirst, hsecond, hthird,
    bind, Except.bind, pure, Except.pure]
  rfl

theorem sptsFirstPacket_too_long_pcr
    (hcells : tspacket.cells = header true true stream.pid control counter ++ body)
    (hcontrol : control < 4) (hlength : info.pesPacketLength.toNat = data.length)
    (hlow : 2 ^ 32 - 22 ≤ data.length) (hhigh : data.length < 2 ^ 32) :
    sptsFirstPacket true tspacket info data = .error .outOfBounds := by
  have hboth := adaptationFieldControl_cells hcells hcontrol (.inr ⟨rfl, rfl⟩)
  have hshort : tspacketPayloadLength >
      (0x7 : UInt8).toUInt32 + 1 + pesHeaderLength info + info.pesPacketLength := by
    rw [gt_iff_lt, UInt32.lt_iff_toNat_lt, toNat_pcr_size, hlength]
    change (22 + data.length) % 2 ^ 32 < 184
    omega
  have hfield : (pcrAdaptationInfo info).adaptationFieldLength.toNat =
      169 + (2 ^ 32 - data.length) := by
    rw [pcrAdaptationInfo]
    dsimp only
    rw [if_pos hshort, toNat_room_wrap hlength hlow hhigh]
  by_cases hfits : (pcrAdaptationInfo info).adaptationFieldLength.toNat ≤ 183
  · obtain ⟨next, hnext, -⟩ := exists_adaptationSet_pcr hboth rfl
      (show (pcrAdaptationInfo info).fieldFlag = pcrFlag from rfl) (by omega) hfits
    have hfirst : sptsFirstAdaptation true tspacket info = .ok (next, UInt32.ofNat
        (4 + ((pcrAdaptationInfo info).adaptationFieldLength.toNat + 1))) := by
      rw [sptsFirstAdaptation, if_pos rfl]
      simp only [hnext, bind, Except.bind, pure, Except.pure, tspacketHeaderLength,
        ← UInt32.ofNat_add]
    exact sptsFirstPacket_of_adaptation hfirst (by omega) (by omega)
  · have hset := adaptationSet_pcr_outOfBounds hboth rfl
      (show (pcrAdaptationInfo info).fieldFlag = pcrFlag from rfl) (Nat.lt_of_not_le hfits)
    rw [sptsFirstPacket, sptsFirstAdaptation, if_pos rfl]
    simp only [hset, bind, Except.bind]

theorem sptsFirstPacket_too_long_plain
    (hcells : tspacket.cells = header true true stream.pid control counter ++ body)
    (hcontrol : control < 4) (hlength : info.pesPacketLength.toNat = data.length)
    (hlow : 2 ^ 32 - 14 ≤ data.length) (hhigh : data.length < 2 ^ 32) :
    sptsFirstPacket false tspacket info data = .error .outOfBounds := by
  have hboth := adaptationFieldControl_cells hcells hcontrol (.inr ⟨rfl, rfl⟩)
  have hshort : tspacketPayloadLength > pesHeaderLength info + info.pesPacketLength := by
    rw [gt_iff_lt, UInt32.lt_iff_toNat_lt, toNat_plain_size, hlength]
    change (14 + data.length) % 2 ^ 32 < 184
    omega
  have hfield : (stuffingAdaptationInfo info).adaptationFieldLength.toNat =
      169 + (2 ^ 32 - data.length) :=
    toNat_room_wrap hlength (by omega) hhigh
  obtain ⟨next, hnext, -⟩ := exists_adaptationSet_stuffing hboth rfl
    (show (stuffingAdaptationInfo info).fieldFlag = 0x00 from rfl) (by omega) (by omega)
  have hfirst : sptsFirstAdaptation false tspacket info = .ok (next, UInt32.ofNat
      (4 + ((stuffingAdaptationInfo info).adaptationFieldLength.toNat + 1))) := by
    rw [sptsFirstAdaptation, if_neg (by decide), if_pos hshort]
    simp only [hnext, bind, Except.bind, pure, Except.pure, tspacketHeaderLength,
      ← UInt32.ofNat_add]
  exact sptsFirstPacket_of_adaptation hfirst (by omega) (by omega)

end TooLong

/-- Only frames that the stream holds are packetised: any other one is a fault. -/
theorem holds_of_sptsStreamWrite {gst : UInt64Scale} {spts : SpTs W} {record : SpTsStream}
    {stream : ElementaryStream} {counter : ℕ} (h : StreamRefines record stream counter)
    {buffer : GstBuffer} {next : SpTs W × SpTsStream}
    (hwrite : sptsStreamWrite gst spts record buffer = .ok next) : stream.Holds buffer.data := by
  by_contra hlong
  obtain ⟨unitStart, control, body, hcontrol, hcells⟩ := h.tspacket
  have hstarted := startUnitIndicator_cells hcells stream.pid_lt true
  have hsmall := buffer.size_lt
  let info := { record.pesHeaderInfo with
    pts := gsttimeToMpegtime gst buffer.timestamp, pesPacketLength := buffer.size }
  have hlength : info.pesPacketLength.toNat = buffer.data.length := buffer.toNat_size
  have hfault : sptsFirstPacket record.pcrReference
      (sptsTspacketHeaderSetStartUnitIndicator record.tspacket 0x40) info buffer.data =
        .error .outOfBounds := by
    rw [h.pcrReference]
    rw [ElementaryStream.Holds] at hlong
    cases hpcr : stream.pcr with
    | true =>
        rw [hpcr, if_pos rfl] at hlong
        exact sptsFirstPacket_too_long_pcr hstarted hcontrol hlength (by omega) hsmall
    | false =>
        rw [hpcr, if_neg (by decide)] at hlong
        exact sptsFirstPacket_too_long_plain hstarted hcontrol hlength (by omega) hsmall
  change (sptsFirstPacket record.pcrReference _ info buffer.data).bind _ = _ at hwrite
  rw [hfault] at hwrite
  cases hwrite

end SpTsMuxer.Spts
