import SpTsMuxer.Pes.Header
import SpTsMuxer.Psi.Section
import SpTsMuxer.Spts.TsPacket

/-!
# The Single Program Transport Stream of `spts.c`

One `SpTs` holds the packets of the tables, a stream record for video and one for audio, the
packet and GOP counters, and the write function with its data.  A stream builds all its packets in
one object of 188 bytes, which is never cleared between packets.

The model is written with the widths of the source: counters are `UInt64`, lengths and offsets
`UInt32`, adaptation lengths `UInt8`.  Copies from the frame and stores into a packet are checked,
so the packetiser can fail with a fault.  The result of the write function is ignored, as in the
source.
-/

namespace SpTsMuxer.Spts

open Memory Pes Psi

def programNumber : UInt16 := 0x16

def pmtPid : UInt16 := 0x20

def videoPid : UInt16 := 0x0040

def audioPid : UInt16 := 0x0041

def clockBase : UInt64 := 90000

def gstSecond : UInt64 := 1000000000

/-- The packets of a GOP at the mux rate: `1830 + 270 + 2`. -/
def gopPackets : UInt64 := 1830 + 270 + 2

/-! ## What comes from GStreamer -/

/-- `gst_util_uint64_scale`: the product of its first two arguments over the third, rounded down,
whenever the result fits 64 bits. -/
structure UInt64Scale where
  scale : UInt64 → UInt64 → UInt64 → UInt64
  toNat_scale : ∀ value num denom, 0 < denom.toNat →
    value.toNat * num.toNat / denom.toNat < 2 ^ 64 →
      (scale value num denom).toNat = value.toNat * num.toNat / denom.toNat

/-- The documented function, which answers an overflow with the largest value. -/
def gstUtilUint64Scale : UInt64Scale where
  scale value num denom :=
    UInt64.ofNat (min (value.toNat * num.toNat / denom.toNat) (2 ^ 64 - 1))
  toNat_scale value num denom _ hfits := by
    rw [UInt64.toNat_ofNat', Nat.min_eq_left (by omega), Nat.mod_eq_of_lt hfits]

/-- The media types that `spts_write_frame` asks for by name. -/
inductive Caps where
  | videoXH264
  | audioMpeg
  | other
  deriving DecidableEq

/-- What `spts_write_frame` reads of a `GstBuffer`. -/
structure GstBuffer where
  caps : Caps
  deltaUnit : Bool
  timestamp : UInt64
  data : List UInt8
  size_lt : data.length < 2 ^ 32
  deriving DecidableEq

/-- `GST_BUFFER_SIZE`. -/
def GstBuffer.size (buffer : GstBuffer) : UInt32 := UInt32.ofNat buffer.data.length

@[simp]
theorem GstBuffer.toNat_size (buffer : GstBuffer) : buffer.size.toNat = buffer.data.length := by
  have hsize := buffer.size_lt
  rw [GstBuffer.size, UInt32.toNat_ofNat']
  omega

/-- `GSTTIME_TO_MPEGTIME`. -/
def gsttimeToMpegtime (gst : UInt64Scale) (time : UInt64) : UInt64 :=
  gst.scale time clockBase gstSecond

/-- The 90 kHz time is the rounded quotient, for every 64-bit time. -/
theorem toNat_gsttimeToMpegtime (gst : UInt64Scale) (time : UInt64) :
    (gsttimeToMpegtime gst time).toNat = time.toNat * 90000 / 10 ^ 9 := by
  have htime := time.toNat_lt
  have hvalue : clockBase.toNat = 90000 ∧ gstSecond.toNat = 10 ^ 9 := ⟨rfl, rfl⟩
  have hscale := gst.toNat_scale time clockBase gstSecond (by decide)
    (by rw [hvalue.1, hvalue.2]; omega)
  rw [gsttimeToMpegtime, hscale, hvalue.1, hvalue.2]

/-! ## Records -/

/-- `struct _SpTsStream`. -/
structure SpTsStream where
  tspacketHeaderInfo : TsPacketHeaderInfo
  tspacket : TsPacket
  pcrReference : Bool
  packetsCounter : UInt64
  lastGopPacketsCounter : UInt64
  maxGopPackets : UInt64
  framesCounter : UInt64
  lastGopFramesCounter : UInt64
  pesHeaderInfo : PESHeaderInfo

/-- `struct _SpTs`, less the fields that no modelled function reads.  The data of the write
function has the type `W`. -/
structure SpTs (W : Type) where
  pat : TsPacket
  pmtTspacket : TsPacket
  nullpacket : TsPacket
  pmtSection : PsiPmtSection
  audioStream : Option SpTsStream
  videoStream : Option SpTsStream
  packetsCounter : UInt64
  gopCounter : UInt64
  writeFunc : W → TsPacket → Bool × W
  writeFuncData : W

variable {W : Type}

/-! ## Set-up -/

/-- The header info of the packets on a PID, of the two tables and of the streams alike. -/
def psiHeaderInfo (pid : UInt16) : TsPacketHeaderInfo where
  payloadUnitStartIndicator := 0x40
  transportPriority := 0x20
  PID := pid
  transportScramblingControl := scramblingCtlNotScrambled
  adaptationFieldControl := adaptationFieldPayloadOnly
  continuityCounter := 0x0

/-- `spts_psi_pat_init`. -/
def sptsPsiPatInit : Except Fault TsPacket := do
  let pat ← sptsTspacketNew (psiHeaderInfo patPid)
  psiPatSectionSet pat tspacketHeaderLength programNumber pmtPid

/-- `spts_psi_pmt_init`.  The section record is zero before. -/
def sptsPsiPmtInit : Except Fault (TsPacket × PsiPmtSection) := do
  let pmtTspacket ← sptsTspacketNew (psiHeaderInfo pmtPid)
  psiPmtSectionInit pmtTspacket
    { sectionInfo := {
        sectionLength := 0, programNumber := 0, pcrPid := 0, programInfoLength := 0
        videoPid := 0, videoStreamType := 0, audioPid := 0, audioStreamType := 0 }
      data := tspacketHeaderLength } programNumber

/-- `spts_null_packet_init`. -/
def sptsNullPacketInit : TsPacket where
  cells := [0x47, 0x1f, 0xff, 0x10] ++ List.replicate (188 - 4) 0xff
  length_cells := rfl

/-- `spts_new`, followed by `spts_set_write_func`. -/
def sptsNew (writeFunc : W → TsPacket → Bool × W) (writeFuncData : W) :
    Except Fault (SpTs W) := do
  let pat ← sptsPsiPatInit
  let (pmtTspacket, pmtSection) ← sptsPsiPmtInit
  pure {
    pat := pat
    pmtTspacket := pmtTspacket
    nullpacket := sptsNullPacketInit
    pmtSection := pmtSection
    audioStream := none
    videoStream := none
    packetsCounter := 0
    gopCounter := 0
    writeFunc := writeFunc
    writeFuncData := writeFuncData }

/-- The stream record that `spts_add_stream` allocates, for a PID and a stream identifier. -/
def sptsStreamNew (pid : UInt16) (streamId : UInt8) : Except Fault SpTsStream := do
  let tspacketHeaderInfo := psiHeaderInfo pid
  let tspacket ← sptsTspacketHeaderInit (Block.fill 188 0x00) tspacketHeaderInfo
  pure {
    tspacketHeaderInfo := tspacketHeaderInfo
    tspacket := tspacket
    pcrReference := false
    packetsCounter := 0
    lastGopPacketsCounter := 0
    maxGopPackets := 0
    framesCounter := 0
    lastGopFramesCounter := 0
    pesHeaderInfo := {
      streamId := streamId
      pesPacketLength := 0
      pesHeaderFlag := 0x8080
      pesHeaderDataLength := 0x05
      pts := 0 } }

/-- `spts_add_stream`.  The PID argument is not used. -/
def sptsAddStream (spts : SpTs W) (streamType : UInt8) (_streamPid : UInt16) :
    Except Fault (SpTs W) :=
  if streamType = streamTypeVideoH264 then do
    let stream ← sptsStreamNew videoPid streamIdVideo
    pure { spts with videoStream := some stream }
  else do
    let stream ← sptsStreamNew audioPid streamIdAudio
    pure { spts with audioStream := some stream }

/-! ## Writing packets -/

/-- A call of the write function, its result thrown away. -/
def sptsWrite (spts : SpTs W) (tspacket : TsPacket) : SpTs W :=
  { spts with writeFuncData := (spts.writeFunc spts.writeFuncData tspacket).2 }

/-- `spts_psi_write`. -/
def sptsPsiWrite (spts : SpTs W) : SpTs W :=
  let spts := sptsWrite spts spts.pat
  let spts := { spts with
    pat := sptsTspacketHeaderCcInc spts.pat
    packetsCounter := spts.packetsCounter + 1 }
  let spts := sptsWrite spts spts.pmtTspacket
  { spts with
    pmtTspacket := sptsTspacketHeaderCcInc spts.pmtTspacket
    packetsCounter := spts.packetsCounter + 1 }

/-- The loop of `spts_write_frame` that fills the last GOP up with null packets. -/
def sptsNullPadding (spts : SpTs W) : SpTs W :=
  if spts.packetsCounter < spts.gopCounter * gopPackets then
    sptsNullPadding
      { sptsWrite spts spts.nullpacket with packetsCounter := spts.packetsCounter + 1 }
  else spts
termination_by (spts.gopCounter * gopPackets).toNat - spts.packetsCounter.toNat
decreasing_by
  have hlt : spts.packetsCounter.toNat < (spts.gopCounter * gopPackets).toNat :=
    UInt64.lt_iff_toNat_lt.mp ‹_›
  have hbound := (spts.gopCounter * gopPackets).toNat_lt
  have hnext : (spts.packetsCounter + 1).toNat = spts.packetsCounter.toNat + 1 := by
    rw [UInt64.toNat_add]
    exact Nat.mod_eq_of_lt (by change _ + 1 < 2 ^ 64; omega)
  change (spts.gopCounter * gopPackets).toNat - (spts.packetsCounter + 1).toNat <
    (spts.gopCounter * gopPackets).toNat - spts.packetsCounter.toNat
  omega

/-- The end of a GOP in the records of one stream. -/
def SpTsStream.gopEnd (stream : SpTsStream) : SpTsStream :=
  { stream with
    maxGopPackets :=
      if stream.packetsCounter - stream.lastGopPacketsCounter > stream.maxGopPackets then
        stream.packetsCounter - stream.lastGopPacketsCounter
      else stream.maxGopPackets
    lastGopPacketsCounter := stream.packetsCounter }

/-- What `spts_write_frame` does for a video frame that is not a delta unit, before the frame
itself: null packets, tables, and the GOP records of both streams. -/
def sptsGopBegin (spts : SpTs W) (stream : SpTsStream) :
    Except Fault (SpTs W × SpTsStream) := do
  let spts := sptsPsiWrite (sptsNullPadding spts)
  let spts := { spts with gopCounter := spts.gopCounter + 1 }
  let stream := { stream with lastGopFramesCounter := stream.framesCounter }
  let audioStream ← deref spts.audioStream
  pure ({ spts with audioStream := some audioStream.gopEnd }, stream.gopEnd)

/-- After a packet is built: hand it on, count it, and step the continuity counter. -/
def sptsPacketWrite (spts : SpTs W) (stream : SpTsStream) (tspacket : TsPacket)
    (pesPacketLength : UInt32) : SpTs W × SpTsStream :=
  let spts := sptsWrite spts tspacket
  ({ spts with packetsCounter := spts.packetsCounter + 1 },
    { stream with
      tspacket := sptsTspacketHeaderCcInc tspacket
      packetsCounter := stream.packetsCounter + 1
      pesHeaderInfo := { stream.pesHeaderInfo with pesPacketLength := pesPacketLength } })

/-! ## Frames -/

/-- The adaptation field of the first packet of a frame on the PCR stream. -/
def pcrAdaptationInfo (info : PESHeaderInfo) : TsPacketAdaptationInfo where
  fieldFlag := pcrFlag
  pcr := if info.pts < 10250 then 0 else (info.pts - 10250) * 300
  adaptationFieldLength :=
    if tspacketPayloadLength > (0x7 : UInt8).toUInt32 + 1 + pesHeaderLength info +
        info.pesPacketLength then
      (tspacketPayloadLength - pesHeaderLength info - info.pesPacketLength - 1).toUInt8
    else 0x7

/-- The adaptation field of the first packet of a short frame on any other stream. -/
def stuffingAdaptationInfo (info : PESHeaderInfo) : TsPacketAdaptationInfo where
  fieldFlag := 0x00
  pcr := 0
  adaptationFieldLength :=
    (tspacketPayloadLength - pesHeaderLength info - info.pesPacketLength - 1).toUInt8

/-- The two branches of the first packet up to its PES header: the packet, and the offset at which
the PES header goes. -/
def sptsFirstAdaptation (pcrReference : Bool) (tspacket : TsPacket) (info : PESHeaderInfo) :
    Except Fault (TsPacket × UInt32) :=
  let offset := UInt32.ofNat tspacketHeaderLength
  if pcrReference then do
    let tspacket := sptsTspacketHeaderSetAdaptationFieldControl tspacket
      adaptationFieldAdaptationAndPayload
    let (tspacket, length) ← sptsTspacketAdaptationSet tspacket (pcrAdaptationInfo info)
    pure (tspacket, offset + length)
  else if tspacketPayloadLength > pesHeaderLength info + info.pesPacketLength then do
    let tspacket := sptsTspacketHeaderSetAdaptationFieldControl tspacket
      adaptationFieldAdaptationAndPayload
    let (tspacket, length) ← sptsTspacketAdaptationSet tspacket (stuffingAdaptationInfo info)
    pure (tspacket, offset + length)
  else
    pure (sptsTspacketHeaderSetAdaptationFieldControl tspacket adaptationFieldPayloadOnly, offset)

/-- The first packet of a frame, and the number of its payload bytes.  Both branches of the source
end with the same stores. -/
def sptsFirstPacket (pcrReference : Bool) (tspacket : TsPacket) (info : PESHeaderInfo)
    (data : List UInt8) : Except Fault (TsPacket × UInt32) := do
  let (tspacket, offset) ← sptsFirstAdaptation pcrReference tspacket info
  let (tspacket, length) ← pesHeaderSet tspacket offset.toNat info
  let offset := offset + length
  let tspacketPayloadSize := tspacketLength - offset
  let payload ← load data 0 tspacketPayloadSize.toNat
  let tspacket ← tspacket.store offset.toNat payload
  pure (tspacket, tspacketPayloadSize)

/-- The last packet of a frame, from the position `buf` of the frame: stuffing in front of what is
left.  The offset is computed anew, not taken from what the helper returns.  The clock reference
of the adaptation info is a leftover of the first packet that nothing reads without its flag. -/
def sptsLastPacket (tspacket : TsPacket) (info : PESHeaderInfo) (data : List UInt8) (buf : ℕ) :
    Except Fault TsPacket := do
  let tspacket := sptsTspacketHeaderSetAdaptationFieldControl tspacket
    adaptationFieldAdaptationAndPayload
  let adaptationFieldLength := (tspacketPayloadLength - info.pesPacketLength - 1).toUInt8
  let (tspacket, _) ← sptsTspacketAdaptationSet tspacket
    { fieldFlag := 0x00, adaptationFieldLength := adaptationFieldLength, pcr := 0 }
  let offset := adaptationFieldLength.toNat + 1 + tspacketHeaderLength
  let payload ← load data buf info.pesPacketLength.toNat
  tspacket.store offset payload

/-- A packet in the middle of a frame. -/
def sptsMiddlePacket (tspacket : TsPacket) (data : List UInt8) (buf : ℕ) :
    Except Fault TsPacket := do
  let payload ← load data buf tspacketPayloadLength.toNat
  tspacket.store tspacketHeaderLength payload

/-- The packet loop of `spts_write_frame`. -/
def sptsPacketLoop (spts : SpTs W) (stream : SpTsStream) (data : List UInt8) (buf : ℕ) :
    Except Fault (SpTs W × SpTsStream) :=
  if stream.pesHeaderInfo.pesPacketLength > 0 then
    if stream.pesHeaderInfo.pesPacketLength < tspacketPayloadLength then do
      let tspacket ← sptsLastPacket stream.tspacket stream.pesHeaderInfo data buf
      let written := sptsPacketWrite spts stream tspacket 0
      sptsPacketLoop written.1 written.2 data buf
    else do
      let tspacket ← sptsMiddlePacket stream.tspacket data buf
      let written := sptsPacketWrite spts stream tspacket
        (stream.pesHeaderInfo.pesPacketLength - tspacketPayloadLength)
      sptsPacketLoop written.1 written.2 data (buf + tspacketPayloadLength.toNat)
  else pure (spts, stream)
termination_by stream.pesHeaderInfo.pesPacketLength.toNat
decreasing_by
  · exact UInt32.lt_iff_toNat_lt.mp ‹_›
  · have hle : tspacketPayloadLength ≤ stream.pesHeaderInfo.pesPacketLength :=
      UInt32.not_lt.mp ‹_›
    have hle' := UInt32.le_iff_toNat_le.mp hle
    change (stream.pesHeaderInfo.pesPacketLength - tspacketPayloadLength).toNat < _
    rw [UInt32.toNat_sub_of_le _ _ hle]
    have hlength : tspacketPayloadLength.toNat = 184 := rfl
    omega

/-- The part of `spts_write_frame` that packetises the frame on its stream. -/
def sptsStreamWrite (gst : UInt64Scale) (spts : SpTs W) (stream : SpTsStream)
    (buffer : GstBuffer) : Except Fault (SpTs W × SpTsStream) := do
  let tspacket := sptsTspacketHeaderSetStartUnitIndicator stream.tspacket 0x40
  let info := { stream.pesHeaderInfo with
    pts := gsttimeToMpegtime gst buffer.timestamp
    pesPacketLength := buffer.size }
  let (tspacket, payloadSize) ← sptsFirstPacket stream.pcrReference tspacket info buffer.data
  let (spts, stream) := sptsPacketWrite spts { stream with pesHeaderInfo := info } tspacket
    (info.pesPacketLength - payloadSize)
  let tspacket := sptsTspacketHeaderSetAdaptationFieldControl stream.tspacket
    adaptationFieldPayloadOnly
  let tspacket := sptsTspacketHeaderSetStartUnitIndicator tspacket 0x00
  sptsPacketLoop spts { stream with tspacket := tspacket } buffer.data payloadSize.toNat

/-- `spts_write_frame`.  With other caps the stream pointer is used without a value. -/
def sptsWriteFrame (gst : UInt64Scale) (spts : SpTs W) (buffer : GstBuffer) :
    Except Fault (Bool × SpTs W) :=
  match buffer.caps with
  | .videoXH264 => do
      let stream ← deref spts.videoStream
      let stream := { stream with framesCounter := stream.framesCounter + 1 }
      let (spts, stream) ←
        if buffer.deltaUnit then pure (spts, stream) else sptsGopBegin spts stream
      let (spts, stream) ← sptsStreamWrite gst spts stream buffer
      pure (true, { spts with videoStream := some stream })
  | .audioMpeg =>
      -- It should be a video frame at the beginning.
      if spts.packetsCounter = 0 then pure (true, spts)
      else do
        let stream ← deref spts.audioStream
        let (spts, stream) ← sptsStreamWrite gst spts stream buffer
        pure (true, { spts with audioStream := some stream })
  | .other => .error .uninitialized

/-- A call of `spts_write_frame`, its result thrown away. -/
def writeStep (gst : UInt64Scale) (spts : SpTs W) (buffer : GstBuffer) : Except Fault (SpTs W) :=
  (sptsWriteFrame gst spts buffer).map Prod.snd

/-- The calls of `spts_write_frame` for a sequence of frames. -/
def sptsWriteFrames (gst : UInt64Scale) (spts : SpTs W) (buffers : List GstBuffer) :
    Except Fault (SpTs W) :=
  buffers.foldlM (writeStep gst) spts

end SpTsMuxer.Spts
