import SpTsMuxer.Memory.Tiling
import SpTsMuxer.Spts.Observation

/-!
# The Copies of a Frame

The packetiser once more, with a trace of what it copies from the frame: for each `memcpy` the
bytes of the frame, the offset in the packet, and the remaining length at that time.  Without the
trace these are the functions of the model.

The copies of a frame follow one another from its first byte to its last.  None of them takes more
than remains, so the unsigned length never wraps around, and each ends at the end of its packet.
-/

namespace SpTsMuxer.Spts

open Memory Transport Pes Machine

variable {W : Type}

/-! ## The traced functions -/

/-- A `memcpy` into a packet, and `pes_packet_length` before it. -/
structure PacketCopy where
  source : Span
  destination : ℕ
  remaining : UInt32
  deriving DecidableEq

/-- `sptsFirstPacket` with its copy. -/
def sptsFirstPacketTraced (pcrReference : Bool) (tspacket : TsPacket) (info : PESHeaderInfo)
    (data : List UInt8) : Except Fault ((TsPacket × UInt32) × PacketCopy) := do
  let (tspacket, offset) ← sptsFirstAdaptation pcrReference tspacket info
  let (tspacket, length) ← pesHeaderSet tspacket offset.toNat info
  let offset := offset + length
  let tspacketPayloadSize := tspacketLength - offset
  let payload ← load data 0 tspacketPayloadSize.toNat
  let tspacket ← tspacket.store offset.toNat payload
  pure ((tspacket, tspacketPayloadSize),
    ⟨⟨0, tspacketPayloadSize.toNat⟩, offset.toNat, info.pesPacketLength⟩)

/-- `sptsLastPacket` with its copy. -/
def sptsLastPacketTraced (tspacket : TsPacket) (info : PESHeaderInfo) (data : List UInt8)
    (buf : ℕ) : Except Fault (TsPacket × PacketCopy) := do
  let tspacket := sptsTspacketHeaderSetAdaptationFieldControl tspacket
    adaptationFieldAdaptationAndPayload
  let adaptationFieldLength := (tspacketPayloadLength - info.pesPacketLength - 1).toUInt8
  let (tspacket, _) ← sptsTspacketAdaptationSet tspacket
    { fieldFlag := 0x00, adaptationFieldLength := adaptationFieldLength, pcr := 0 }
  let offset := adaptationFieldLength.toNat + 1 + tspacketHeaderLength
  let payload ← load data buf info.pesPacketLength.toNat
  let tspacket ← tspacket.store offset payload
  pure (tspacket, ⟨⟨buf, info.pesPacketLength.toNat⟩, offset, info.pesPacketLength⟩)

/-- `sptsMiddlePacket` with its copy. -/
def sptsMiddlePacketTraced (tspacket : TsPacket) (info : PESHeaderInfo) (data : List UInt8)
    (buf : ℕ) : Except Fault (TsPacket × PacketCopy) := do
  let payload ← load data buf tspacketPayloadLength.toNat
  let tspacket ← tspacket.store tspacketHeaderLength payload
  pure (tspacket,
    ⟨⟨buf, tspacketPayloadLength.toNat⟩, tspacketHeaderLength, info.pesPacketLength⟩)

/-- `sptsPacketLoop` with its copies. -/
def sptsPacketLoopTraced (spts : SpTs W) (stream : SpTsStream) (data : List UInt8) (buf : ℕ) :
    Except Fault ((SpTs W × SpTsStream) × List PacketCopy) :=
  if stream.pesHeaderInfo.pesPacketLength > 0 then
    if stream.pesHeaderInfo.pesPacketLength < tspacketPayloadLength then do
      let (tspacket, copy) ← sptsLastPacketTraced stream.tspacket stream.pesHeaderInfo data buf
      let written := sptsPacketWrite spts stream tspacket 0
      let (result, copies) ← sptsPacketLoopTraced written.1 written.2 data buf
      pure (result, copy :: copies)
    else do
      let (tspacket, copy) ← sptsMiddlePacketTraced stream.tspacket stream.pesHeaderInfo data buf
      let written := sptsPacketWrite spts stream tspacket
        (stream.pesHeaderInfo.pesPacketLength - tspacketPayloadLength)
      let (result, copies) ← sptsPacketLoopTraced written.1 written.2 data
        (buf + tspacketPayloadLength.toNat)
      pure (result, copy :: copies)
  else pure ((spts, stream), [])
termination_by stream.pesHeaderInfo.pesPacketLength.toNat
decreasing_by
  · exact UInt32.lt_iff_toNat_lt.mp ‹_›
  · have hle : tspacketPayloadLength ≤ stream.pesHeaderInfo.pesPacketLength :=
      UInt32.not_lt.mp ‹_›
    have hle' := UInt32.le_iff_toNat_le.mp hle
    change (stream.pesHeaderInfo.pesPacketLength - tspacketPayloadLength).toNat < _
    rw [UInt32.toNat_sub_of_le _ _ hle]
    have hlength : tspacketPayloadLength.toNat = 184 := rfl
    omega

/-- `sptsStreamWrite` with its copies. -/
def sptsStreamWriteTraced (gst : UInt64Scale) (spts : SpTs W) (stream : SpTsStream)
    (buffer : GstBuffer) : Except Fault ((SpTs W × SpTsStream) × List PacketCopy) := do
  let tspacket := sptsTspacketHeaderSetStartUnitIndicator stream.tspacket 0x40
  let info := { stream.pesHeaderInfo with
    pts := gsttimeToMpegtime gst buffer.timestamp
    pesPacketLength := buffer.size }
  let ((tspacket, payloadSize), copy) ←
    sptsFirstPacketTraced stream.pcrReference tspacket info buffer.data
  let (spts, stream) := sptsPacketWrite spts { stream with pesHeaderInfo := info } tspacket
    (info.pesPacketLength - payloadSize)
  let tspacket := sptsTspacketHeaderSetAdaptationFieldControl stream.tspacket
    adaptationFieldPayloadOnly
  let tspacket := sptsTspacketHeaderSetStartUnitIndicator tspacket 0x00
  let (result, copies) ← sptsPacketLoopTraced spts { stream with tspacket := tspacket }
    buffer.data payloadSize.toNat
  pure (result, copy :: copies)

/-- `sptsWriteFrame` with its copies. -/
def sptsWriteFrameTraced (gst : UInt64Scale) (spts : SpTs W) (buffer : GstBuffer) :
    Except Fault ((Bool × SpTs W) × List PacketCopy) :=
  match buffer.caps with
  | .videoXH264 => do
      let stream ← deref spts.videoStream
      let stream := { stream with framesCounter := stream.framesCounter + 1 }
      let (spts, stream) ←
        if buffer.deltaUnit then pure (spts, stream) else sptsGopBegin spts stream
      let ((spts, stream), copies) ← sptsStreamWriteTraced gst spts stream buffer
      pure ((true, { spts with videoStream := some stream }), copies)
  | .audioMpeg =>
      if spts.packetsCounter = 0 then pure ((true, spts), [])
      else do
        let stream ← deref spts.audioStream
        let ((spts, stream), copies) ← sptsStreamWriteTraced gst spts stream buffer
        pure ((true, { spts with audioStream := some stream }), copies)
  | .other => .error .uninitialized

/-! ## Without the trace -/

theorem map_sptsFirstPacketTraced (pcrReference : Bool) (tspacket : TsPacket)
    (info : PESHeaderInfo) (data : List UInt8) :
    Prod.fst <$> sptsFirstPacketTraced pcrReference tspacket info data =
      sptsFirstPacket pcrReference tspacket info data := by
  simp only [sptsFirstPacketTraced, sptsFirstPacket, map_bind, map_pure]

theorem map_sptsLastPacketTraced (tspacket : TsPacket) (info : PESHeaderInfo)
    (data : List UInt8) (buf : ℕ) :
    Prod.fst <$> sptsLastPacketTraced tspacket info data buf =
      sptsLastPacket tspacket info data buf := by
  simp only [sptsLastPacketTraced, sptsLastPacket, map_bind, map_pure, bind_pure]

theorem map_sptsMiddlePacketTraced (tspacket : TsPacket) (info : PESHeaderInfo)
    (data : List UInt8) (buf : ℕ) :
    Prod.fst <$> sptsMiddlePacketTraced tspacket info data buf =
      sptsMiddlePacket tspacket data buf := by
  simp only [sptsMiddlePacketTraced, sptsMiddlePacket, map_bind, map_pure, bind_pure]

theorem map_sptsPacketLoopTraced (spts : SpTs W) (stream : SpTsStream) (data : List UInt8)
    (buf : ℕ) :
    Prod.fst <$> sptsPacketLoopTraced spts stream data buf =
      sptsPacketLoop spts stream data buf := by
  fun_induction sptsPacketLoop spts stream data buf with
  | case1 spts stream buf hleft hlast ih =>
      rw [sptsPacketLoopTraced, if_pos hleft, if_pos hlast, ← map_sptsLastPacketTraced]
      simp only [map_bind, bind_map_left, ← ih, bind_pure_comp, Functor.map_map]
  | case2 spts stream buf hleft hlast ih =>
      rw [sptsPacketLoopTraced, if_pos hleft, if_neg hlast,
        ← map_sptsMiddlePacketTraced _ stream.pesHeaderInfo]
      simp only [map_bind, bind_map_left, ← ih, bind_pure_comp, Functor.map_map]
  | case3 spts stream buf hleft =>
      rw [sptsPacketLoopTraced, if_neg hleft, map_pure]

theorem map_sptsStreamWriteTraced (gst : UInt64Scale) (spts : SpTs W) (stream : SpTsStream)
    (buffer : GstBuffer) :
    Prod.fst <$> sptsStreamWriteTraced gst spts stream buffer =
      sptsStreamWrite gst spts stream buffer := by
  simp only [sptsStreamWriteTraced, sptsStreamWrite, map_bind, bind_map_left,
    ← map_sptsFirstPacketTraced, ← map_sptsPacketLoopTraced, bind_pure_comp, Functor.map_map]

/-- Without its trace the traced call is the call. -/
theorem map_sptsWriteFrameTraced (gst : UInt64Scale) (spts : SpTs W) (buffer : GstBuffer) :
    Prod.fst <$> sptsWriteFrameTraced gst spts buffer = sptsWriteFrame gst spts buffer := by
  rw [sptsWriteFrameTraced, sptsWriteFrame]
  cases buffer.caps with
  | videoXH264 =>
      cases buffer.deltaUnit with
      | true => simp only [map_bind, map_pure, bind_map_left, ← map_sptsStreamWriteTraced, if_true]
      | false =>
          simp only [map_bind, map_pure, bind_map_left, ← map_sptsStreamWriteTraced,
            Bool.false_eq_true, if_false]
  | audioMpeg =>
      dsimp only
      split_ifs
      · rfl
      · simp only [map_bind, map_pure, bind_map_left, ← map_sptsStreamWriteTraced]
  | other => rfl

/-! ## Where the copies are -/

/-- The copy takes no more than remains of the frame, and fills its packet up to the end. -/
structure PacketCopy.Fits (copy : PacketCopy) (total : ℕ) : Prop where
  remaining : copy.source.start + copy.remaining.toNat = total
  count_le : copy.source.count ≤ copy.remaining.toNat
  destination_ge : 4 ≤ copy.destination
  destination_stop : copy.destination + copy.source.count = 188

section Copies

variable {tspacket next : TsPacket} {info : PESHeaderInfo} {data : List UInt8} {buf : ℕ}
  {copy : PacketCopy}

theorem firstCopy_of_ok {pcrReference : Bool} {size : UInt32}
    (h : sptsFirstPacketTraced pcrReference tspacket info data = .ok ((next, size), copy)) :
    copy.source = ⟨0, size.toNat⟩ ∧ copy.remaining = info.pesPacketLength ∧
      4 ≤ copy.destination ∧ copy.destination + size.toNat = 188 ∧ size.toNat ≤ data.length := by
  obtain ⟨⟨first, offset⟩, -, h⟩ := exists_of_bind_eq_ok h
  obtain ⟨⟨second, length⟩, hheader, h⟩ := exists_of_bind_eq_ok h
  obtain ⟨payload, hload, h⟩ := exists_of_bind_eq_ok h
  obtain ⟨third, hstore, h⟩ := exists_of_bind_eq_ok h
  obtain ⟨⟨-, rfl⟩, rfl⟩ := Prod.mk.inj (Except.ok.inj h) |>.imp_left Prod.mk.inj
  obtain ⟨stored, hset, hlength⟩ := exists_of_bind_eq_ok hheader
  obtain ⟨-, rfl⟩ := Prod.mk.inj (Except.ok.inj hlength)
  have hheaderLe := Block.le_of_store hset
  rw [length_pesHeaderBytes] at hheaderLe
  have hoffset : (offset + UInt32.ofNat (pesHeaderBytes info).length).toNat =
      offset.toNat + 14 := by
    rw [UInt32.toNat_add]
    change (offset.toNat + 14) % 2 ^ 32 = _
    omega
  have hsize : (tspacketLength - (offset + UInt32.ofNat (pesHeaderBytes info).length)).toNat =
      188 - (offset.toNat + 14) := by
    have hpacket : tspacketLength.toNat = 188 := rfl
    rw [UInt32.toNat_sub_of_le _ _ (by rw [UInt32.le_iff_toNat_le, hoffset, hpacket]; omega),
      hoffset, hpacket]
  obtain ⟨hwithin, -⟩ := load_eq_ok hload
  refine ⟨rfl, rfl, ?_, ?_, by rwa [Nat.zero_add] at hwithin⟩
  · change 4 ≤ (offset + UInt32.ofNat (pesHeaderBytes info).length).toNat
    omega
  · change (offset + UInt32.ofNat (pesHeaderBytes info).length).toNat + _ = 188
    omega

theorem lastCopy_of_ok (hshort : info.pesPacketLength.toNat < 184)
    (h : sptsLastPacketTraced tspacket info data buf = .ok (next, copy)) :
    copy = ⟨⟨buf, info.pesPacketLength.toNat⟩, 188 - info.pesPacketLength.toNat,
      info.pesPacketLength⟩ := by
  obtain ⟨⟨first, length⟩, -, h⟩ := exists_of_bind_eq_ok h
  obtain ⟨payload, -, h⟩ := exists_of_bind_eq_ok h
  obtain ⟨second, -, h⟩ := exists_of_bind_eq_ok h
  obtain ⟨-, rfl⟩ := Prod.mk.inj (Except.ok.inj h)
  have hroom : tspacketPayloadLength.toNat = 184 := rfl
  rw [toNat_room_sub (by omega) (by omega), hroom, tspacketHeaderLength,
    show 184 - info.pesPacketLength.toNat - 1 + 1 + 4 = 188 - info.pesPacketLength.toNat by omega]

theorem middleCopy_of_ok (h : sptsMiddlePacketTraced tspacket info data buf = .ok (next, copy)) :
    copy = ⟨⟨buf, 184⟩, 4, info.pesPacketLength⟩ := by
  obtain ⟨payload, -, h⟩ := exists_of_bind_eq_ok h
  obtain ⟨stored, -, h⟩ := exists_of_bind_eq_ok h
  exact (Prod.mk.inj (Except.ok.inj h)).2.symm

theorem sptsPacketWrite_length (spts : SpTs W) (stream : SpTsStream) (tspacket : TsPacket)
    (length : UInt32) :
    (sptsPacketWrite spts stream tspacket length).2.pesHeaderInfo.pesPacketLength = length := rfl

/-- The copies of the packet loop take what remains, 184 bytes at a time. -/
theorem copies_of_sptsPacketLoopTraced (spts : SpTs W) (stream : SpTsStream) (data : List UInt8)
    (buf : ℕ) {result : SpTs W × SpTsStream} {copies : List PacketCopy}
    (h : sptsPacketLoopTraced spts stream data buf = .ok (result, copies)) :
    let left := stream.pesHeaderInfo.pesPacketLength.toNat
    Tiles (buf + left) buf (copies.map PacketCopy.source) ∧
      (∀ copy ∈ copies, copy.Fits (buf + left)) ∧ copies.length = (left + 183) / 184 := by
  intro left
  fun_induction sptsPacketLoopTraced spts stream data buf generalizing copies with
  | case1 spts stream buf hpositive hshort ih =>
      obtain ⟨⟨tspacket, copy⟩, hlast, h⟩ := exists_of_bind_eq_ok h
      obtain ⟨⟨last, rest⟩, hrest, h⟩ := exists_of_bind_eq_ok h
      obtain ⟨rfl, rfl⟩ := Prod.mk.inj (Except.ok.inj h)
      rw [gt_iff_lt, UInt32.lt_iff_toNat_lt] at hpositive
      rw [UInt32.lt_iff_toNat_lt] at hshort
      change 0 < left at hpositive
      change left < 184 at hshort
      obtain rfl := lastCopy_of_ok hshort hlast
      -- Nothing remains behind the last copy.
      obtain ⟨-, -, hcount⟩ := ih tspacket hrest
      rw [sptsPacketWrite_length] at hcount
      obtain rfl : rest = [] := List.length_eq_zero_iff.mp hcount
      refine ⟨.step rfl .done, ?_, ?_⟩
      · rw [List.forall_mem_singleton]
        exact ⟨rfl, Nat.le_refl _, by dsimp only; omega, by dsimp only; omega⟩
      · rw [List.length_singleton]
        omega
  | case2 spts stream buf hpositive hlong ih =>
      obtain ⟨⟨tspacket, copy⟩, hmiddle, h⟩ := exists_of_bind_eq_ok h
      obtain ⟨⟨last, rest⟩, hrest, h⟩ := exists_of_bind_eq_ok h
      obtain ⟨rfl, rfl⟩ := Prod.mk.inj (Except.ok.inj h)
      have hle := UInt32.not_lt.mp hlong
      have hleft : (stream.pesHeaderInfo.pesPacketLength - tspacketPayloadLength).toNat =
          left - 184 :=
        UInt32.toNat_sub_of_le _ _ hle
      rw [UInt32.le_iff_toNat_le] at hle
      change 184 ≤ left at hle
      obtain rfl := middleCopy_of_ok hmiddle
      obtain ⟨htiles, hfits, hcount⟩ := ih tspacket hrest
      have hroom : tspacketPayloadLength.toNat = 184 := rfl
      rw [sptsPacketWrite_length, hleft] at hcount
      rw [sptsPacketWrite_length, hleft, hroom,
        show buf + 184 + (left - 184) = buf + left by omega] at htiles hfits
      refine ⟨.step rfl htiles, ?_, ?_⟩
      · rw [List.forall_mem_cons]
        exact ⟨⟨rfl, hle, Nat.le_refl 4, rfl⟩, hfits⟩
      · rw [List.length_cons, hcount]
        omega
  | case3 spts stream buf hnone =>
      obtain ⟨-, rfl⟩ := Prod.mk.inj (Except.ok.inj h)
      have hzero : left = 0 := by
        rw [gt_iff_lt, UInt32.lt_iff_toNat_lt] at hnone
        change ¬0 < left at hnone
        omega
      rw [hzero]
      exact ⟨.done, by simp, rfl⟩

end Copies

/-! ## The copies of a call -/

/-- The copies of a frame of `total` bytes: they tile it, and there is one for the first packet and
one for each 184 bytes, or part of them, that the first packet leaves. -/
structure FrameCopied (total : ℕ) (copies : List PacketCopy) : Prop where
  tiles : Tiles total 0 (copies.map PacketCopy.source)
  covers : ((copies.map PacketCopy.source).map Span.count).sum = total
  inside : ∀ span ∈ copies.map PacketCopy.source, span.start + span.count ≤ total
  fits : ∀ copy ∈ copies, copy.Fits total
  count : ∃ first rest, copies = first :: rest ∧
    copies.length = 1 + (total - first.source.count + 183) / 184

/-- The copies of a frame, on a record of its stream. -/
theorem StreamRefines.copies {gst : UInt64Scale} {spts : SpTs W} {record : SpTsStream}
    {stream : ElementaryStream} {counter : ℕ} (h : StreamRefines record stream counter)
    {buffer : GstBuffer} {written : SpTs W × SpTsStream} {copies : List PacketCopy}
    (htraced : sptsStreamWriteTraced gst spts record buffer = .ok (written, copies)) :
    FrameCopied buffer.data.length copies ∧
      copies.length = 1 + (buffer.data.length - stream.taken buffer.data + 183) / 184 ∧
      written.2.pesHeaderInfo.pesPacketLength = 0 := by
  have hwrite : sptsStreamWrite gst spts record buffer = .ok written := by
    rw [← map_sptsStreamWriteTraced, htraced]
    rfl
  have hsize := holds_of_sptsStreamWrite h hwrite
  have hzero : written.2.pesHeaderInfo.pesPacketLength = 0 := by
    obtain ⟨tspacket, -, hunit⟩ := exists_sptsStreamWrite gst spts h buffer hsize
    rw [hwrite] at hunit
    rw [Except.ok.inj hunit]
    rfl
  obtain ⟨⟨⟨tspacket, size⟩, copy⟩, hfirst, htraced⟩ := exists_of_bind_eq_ok htraced
  obtain ⟨⟨result, rest⟩, hloop, htraced⟩ := exists_of_bind_eq_ok htraced
  obtain ⟨rfl, rfl⟩ := Prod.mk.inj (Except.ok.inj htraced)
  have hcount : size.toNat = min (stream.taken buffer.data) buffer.data.length := by
    have herased := map_sptsFirstPacketTraced record.pcrReference
      (sptsTspacketHeaderSetStartUnitIndicator record.tspacket 0x40)
      { record.pesHeaderInfo with
        pts := gsttimeToMpegtime gst buffer.timestamp
        pesPacketLength := buffer.size } buffer.data
    rw [hfirst, h.firstPacket gst buffer hsize] at herased
    have hsmall := buffer.size_lt
    rw [(Prod.mk.inj (Except.ok.inj herased)).2, UInt32.toNat_ofNat']
    omega
  obtain ⟨hsource, hremaining, hlow, hstop, hle⟩ := firstCopy_of_ok hfirst
  obtain ⟨htiles, hfits, hrest⟩ := copies_of_sptsPacketLoopTraced _ _ _ _ hloop
  have hleft : (buffer.size - size).toNat = buffer.data.length - size.toNat := by
    rw [UInt32.toNat_sub_of_le _ _ (by rw [UInt32.le_iff_toNat_le, buffer.toNat_size]; exact hle),
      buffer.toNat_size]
  change Tiles (size.toNat + (buffer.size - size).toNat) _ _ at htiles
  change ∀ copy ∈ rest, copy.Fits (size.toNat + (buffer.size - size).toNat) at hfits
  change rest.length = ((buffer.size - size).toNat + 183) / 184 at hrest
  rw [hleft, Nat.add_sub_cancel' hle] at htiles hfits
  rw [hleft] at hrest
  have hall : Tiles buffer.data.length 0 ((copy :: rest).map PacketCopy.source) := by
    refine .step (by rw [hsource]) ?_
    rwa [hsource, Nat.zero_add]
  refine ⟨⟨hall, ?_, fun span hmem ↦ (hall.within span hmem).2, ?_, copy, rest, rfl, ?_⟩, ?_,
    hzero⟩
  · exact (Nat.zero_add _).symm.trans hall.sum_count
  · rw [List.forall_mem_cons]
    refine ⟨⟨?_, ?_, hlow, by rwa [hsource]⟩, hfits⟩
    · rw [hsource, hremaining]
      exact (Nat.zero_add _).trans buffer.toNat_size
    · rw [hsource, hremaining]
      exact hle.trans (Nat.le_of_eq buffer.toNat_size.symm)
  · rw [List.length_cons, hrest, hsource, Nat.add_comm]
  · rw [List.length_cons, hrest, hcount]
    omega

/-- A traced call drops an audio frame, or packetises the frame on a record of its stream. -/
theorem exists_record_of_sptsWriteFrameTraced {gst : UInt64Scale} {spts next : SpTs W}
    {buffer : GstBuffer} {result : Bool} {copies : List PacketCopy}
    (h : sptsWriteFrameTraced gst spts buffer = .ok ((result, next), copies)) :
    (buffer.caps = .audioMpeg ∧ spts.packetsCounter = 0 ∧ copies = []) ∨
      (buffer.caps = .audioMpeg → spts.packetsCounter ≠ 0) ∧
        ∃ (begun : SpTs W) (original record : SpTsStream) (written : SpTs W × SpTsStream),
          spts.streamOf buffer = some original ∧
          (∀ stream counter, StreamRefines original stream counter →
            StreamRefines record stream counter) ∧
          sptsStreamWriteTraced gst begun record buffer = .ok (written, copies) ∧
          next.streamOf buffer = some written.2 := by
  rw [sptsWriteFrameTraced] at h
  cases hcaps : buffer.caps with
  | other =>
      rw [hcaps] at h
      cases h
  | audioMpeg =>
      rw [hcaps] at h
      dsimp only at h
      have hkind : ¬buffer.isVideo = true := by simp [GstBuffer.isVideo, hcaps]
      split_ifs at h with hzero
      · exact .inl ⟨rfl, hzero, (Prod.mk.inj (Except.ok.inj h)).2.symm⟩
      obtain ⟨record, hrecord, h⟩ := exists_of_bind_eq_ok h
      obtain ⟨⟨written, rest⟩, hwrite, h⟩ := exists_of_bind_eq_ok h
      obtain ⟨hnext, rfl⟩ := Prod.mk.inj (Except.ok.inj h)
      refine .inr ⟨fun _ ↦ hzero, spts, record, record, written, ?_, fun _ _ hrefines ↦ hrefines,
        hwrite, ?_⟩
      · rw [SpTs.streamOf, if_neg hkind]
        exact eq_some_of_deref hrecord
      · rw [SpTs.streamOf, if_neg hkind, ← (Prod.mk.inj hnext).2]
  | videoXH264 =>
      rw [hcaps] at h
      dsimp only at h
      have hkind : buffer.isVideo = true := by simp [GstBuffer.isVideo, hcaps]
      obtain ⟨record, hrecord, h⟩ := exists_of_bind_eq_ok h
      let counted := { record with framesCounter := record.framesCounter + 1 }
      obtain ⟨begun, started, hrefines, h⟩ : ∃ (begun : SpTs W) (started : SpTsStream),
          (∀ stream counter, StreamRefines record stream counter →
            StreamRefines started stream counter) ∧
          (do
            let ((spts, stream), copies) ← sptsStreamWriteTraced gst begun started buffer
            pure ((true, { spts with videoStream := some stream }), copies)) =
              Except.ok ((result, next), copies) := by
        split_ifs at h with hdelta
        · exact ⟨spts, counted, fun _ _ hold ↦ hold.recount _ _, h⟩
        · obtain ⟨⟨begun, started⟩, hbegin, h⟩ := exists_of_bind_eq_ok h
          obtain ⟨audio, -, hbegin⟩ := exists_of_bind_eq_ok hbegin
          obtain ⟨-, rfl⟩ := Prod.mk.inj (Except.ok.inj hbegin)
          let started := { counted with lastGopFramesCounter := counted.framesCounter }.gopEnd
          exact ⟨begun, started, fun _ _ hold ↦ (hold.recount _ _).gopEnd, h⟩
      obtain ⟨⟨written, rest⟩, hwrite, h⟩ := exists_of_bind_eq_ok h
      obtain ⟨hnext, rfl⟩ := Prod.mk.inj (Except.ok.inj h)
      refine .inr ⟨(fun haudio ↦ by cases haudio), begun, record, started, written, ?_, hrefines,
        hwrite, ?_⟩
      · rw [SpTs.streamOf, if_pos hkind]
        exact eq_some_of_deref hrecord
      · rw [SpTs.streamOf, if_pos hkind, ← (Prod.mk.inj hnext).2]

/-- A frame is copied within its bounds, in every state of every run: its copies tile it, the
remaining length never underflows and ends at zero, and there are as many packets on the PID of the
stream as copies. -/
theorem frame_copied (gst : UInt64Scale) (results : List TsPacket → Bool) (setup : Setup)
    (videoPcr audioPcr : Bool) {before : List GstBuffer} {spts : SpTs (List TsPacket)}
    (hrun : runFrames gst results setup videoPcr audioPcr before = .ok spts) {buffer : GstBuffer}
    (hcaps : buffer.caps ≠ .other) (hsize : buffer.data.length < 2 ^ 32 - 22) :
    ∃ next copies packets,
      sptsWriteFrame gst spts buffer = .ok (true, next) ∧
      sptsWriteFrameTraced gst spts buffer = .ok ((true, next), copies) ∧
      next.writeFuncData = spts.writeFuncData ++ packets ∧
      ((buffer.caps = .audioMpeg ∧ spts.packetsCounter = 0 ∧ packets = [] ∧ copies = []) ∨
        FrameCopied buffer.data.length copies ∧
          (elementary buffer.streamPid packets).length = copies.length ∧
          ∃ record, next.streamOf buffer = some record ∧
            record.pesHeaderInfo.pesPacketLength = 0) := by
  obtain ⟨program, hcarries⟩ := setup.exists_carriesOut videoPcr audioPcr
  have hrefines := hcarries.refines gst results before spts hrun
  let state := stateAfter gst program before
  let packets := (muxStep program state (buffer.frame gst)).2.map Packet.block
  obtain ⟨next, hwrite, -⟩ := exists_sptsWriteFrame gst hrefines
    ((fits_of_length program hcaps hsize).accepts state)
  obtain ⟨⟨result, copies⟩, htraced, hresult⟩ : ∃ traced,
      sptsWriteFrameTraced gst spts buffer = .ok traced ∧ traced.1 = (true, next) := by
    rw [← map_sptsWriteFrameTraced] at hwrite
    exact exists_of_map_eq_ok hwrite
  obtain rfl : result = (true, next) := hresult
  have hdata : next.writeFuncData = spts.writeFuncData ++ packets :=
    hcarries.writeFuncData_of_call hrun hwrite
  have hcounter : spts.packetsCounter = 0 ↔ state.packets % 2 ^ 64 = 0 :=
    hrefines.packetsCounter_eq_zero_iff
  refine ⟨next, copies, packets, hwrite, htraced, hdata, ?_⟩
  have haudioStep (haudio : buffer.caps = .audioMpeg) : (buffer.frame gst).kind = .audio := by
    simp [GstBuffer.frame, haudio]
  rcases exists_record_of_sptsWriteFrameTraced htraced with ⟨haudio, hzero, hnone⟩ |
    ⟨hkept, begun, original, record, written, horiginal, hrecord, hstream, hnext⟩
  · refine .inl ⟨haudio, hzero, ?_, hnone⟩
    change ((muxStep program state (buffer.frame gst)).2.map Packet.block) = []
    rw [muxStep_dropped program state (haudioStep haudio) (hcounter.mp hzero)]
    rfl
  · obtain ⟨counter, hrelated⟩ := hrefines.exists_streamOf horiginal
    obtain ⟨hcopied, hcount, hleft⟩ := (hrecord _ _ hrelated).copies hstream
    refine .inr ⟨hcopied, ?_, written.2, hnext, hleft⟩
    have hok := writtenPackets_of_runFrames (runFrames_concat hrun hwrite)
    rw [hdata] at hok
    rcases elementary_of_call hcarries (writtenPackets_of_runFrames hrun) hok with
      ⟨haudio, hnone⟩ | ⟨number, hunit⟩
    · -- An audio frame that is not dropped has packets.
      have hpackets : (muxStep program state (buffer.frame gst)).2.map Packet.block = [] := hnone
      rw [muxStep_audio program state (haudioStep haudio) (mt hcounter.mpr (hkept haudio)),
        List.map_eq_nil_iff] at hpackets
      exact absurd hpackets (program.audio.unit_ne_nil _ _ _)
    · rw [hunit, List.length_map, ElementaryStream.length_unit, hcount]

/-- A video frame of 400 bytes at the beginning of a run goes into three packets or more. -/
theorem frame_copied_several_packets :
    ∃ (spts next : SpTs (List TsPacket)) (copies : List PacketCopy),
      runFrames gstUtilUint64Scale (fun _ ↦ true) plainSetup true false [] = .ok spts ∧
        sptsWriteFrameTraced gstUtilUint64Scale spts (filledFrame .videoXH264 400 (by decide)) =
          .ok ((true, next), copies) ∧
        FrameCopied 400 copies ∧ 3 ≤ copies.length := by
  obtain ⟨program, hcarries⟩ := plainSetup.exists_carriesOut true false
  obtain ⟨spts, hrun⟩ := hcarries.total gstUtilUint64Scale (fun _ ↦ true) [] (by simp)
  let buffer := filledFrame .videoXH264 400 (by decide)
  have hsize : buffer.data.length = 400 := List.length_replicate
  obtain ⟨next, copies, packets, -, htraced, -, ⟨haudio, -⟩ | ⟨hcopied, -⟩⟩ :=
    frame_copied gstUtilUint64Scale (fun _ ↦ true) plainSetup true false hrun
      (show buffer.caps ≠ .other by decide) (by rw [hsize]; decide)
  · cases haudio
  · rw [hsize] at hcopied
    obtain ⟨first, rest, rfl, hlength⟩ := hcopied.count
    have hfirst := hcopied.fits first List.mem_cons_self
    have hlow := hfirst.destination_ge
    have hstop := hfirst.destination_stop
    exact ⟨spts, next, _, hrun, htraced, hcopied, by omega⟩

end SpTsMuxer.Spts
