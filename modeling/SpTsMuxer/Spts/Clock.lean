import SpTsMuxer.Spts.Receiver

/-!
# The Program Clock

The clock reference of a frame is computed from the time stamp of that frame alone: it runs 10250
ticks of 90 kHz behind, but not below zero.  The adaptation field gives back its 42 bits, and both
times are cut to 33 bits in the same way, so the distance between them survives the cut.

The frames come in decoding order, and where their time stamps go back, the clock goes back with
them.
-/

namespace SpTsMuxer.Spts

open Memory Transport Pes Machine

/-! ## Clock references -/

/-- A clock reference in ticks of 27 MHz. -/
def pcrTime (pcr : Pcr) : ℕ := pcr.base * 300 + pcr.extension

/-- The clock references of the packets that have one, in order. -/
def pcrTimes (packets : List TsPacket) : List ℕ :=
  packets.filterMap fun packet ↦ (programClockReference packet.cells).map pcrTime

/-- The time stamp of a buffer in ticks of 90 kHz. -/
def GstBuffer.mpegTime (buffer : GstBuffer) : ℕ := buffer.timestamp.toNat * 90000 / 10 ^ 9

theorem GstBuffer.pts_frame (gst : UInt64Scale) (buffer : GstBuffer) :
    (buffer.frame gst).pts = buffer.mpegTime :=
  toNat_gsttimeToMpegtime gst buffer.timestamp

theorem pcrTime_clock {pts : ℕ} (hpts : pts < 2 ^ 33) :
    pcrTime (ElementaryStream.clock pts) = (pts - 10250) * 300 := by
  change (pts - 10250) * 300 / 300 % 2 ^ 33 * 300 + (pts - 10250) * 300 % 300 = _
  omega

/-! ## The field of a clock reference -/

/-- Whatever was in the packet before, the bytes from `first` to `last` are stored anew, and no
other byte is. -/
structure StoresExactly (change : TsPacket → Except Fault (TsPacket × UInt32))
    (first last : ℕ) : Prop where
  stored : ∀ tspacket other next nextOther count countOther,
    change tspacket = .ok (next, count) → change other = .ok (nextOther, countOther) →
      ∀ position, first ≤ position → position ≤ last →
        byteAt next.cells position = byteAt nextOther.cells position
  kept : ∀ tspacket next count, change tspacket = .ok (next, count) →
    ∀ position, position < first ∨ last < position →
      byteAt next.cells position = byteAt tspacket.cells position

/-- What a receiver reads in the adaptation field of a clock of 27 MHz: six reserved bits that are
set lie between base and extension, and the rest of the field is stuffing. -/
structure HoldsClock (packet : List UInt8) (length time : ℕ) : Prop where
  fieldLength : adaptationFieldLength packet = length
  flag : byteAt packet 5 = pcrFlag.toNat
  clock : pcrTime (readPcr (packet.drop 6)) = time % (300 * 2 ^ 33)
  extension : (readPcr (packet.drop 6)).extension < 300
  reserved : byteAt packet 10 / 2 % 64 = 63
  stuffing : ∀ position, 12 ≤ position → position ≤ 4 + length → byteAt packet position = 0xff

theorem pcrTime_pcrOf (time : ℕ) : pcrTime (pcrOf time) = time % (300 * 2 ^ 33) := by
  rw [Nat.mod_mul, Nat.add_comm, Nat.mul_comm 300]
  rfl

section ClockField

variable {pcr : UInt64} {length : UInt8}

/-- The bytes of the adaptation field of a clock. -/
def clockField (pcr : UInt64) (length : UInt8) : List UInt8 :=
  length :: pcrFlag :: pcrBytes pcr ++ List.replicate (length.toNat - 7) 0xff

theorem length_clockField (hlow : 7 ≤ length.toNat) :
    (clockField pcr length).length = length.toNat + 1 := by
  simp only [clockField, List.length_append, List.length_cons, length_pcrBytes,
    List.length_replicate]
  omega

theorem exists_clockField (hlow : 7 ≤ length.toNat) (hhigh : length.toNat ≤ 183)
    (tspacket : TsPacket) :
    ∃ next count, sptsTspacketAdaptationSet tspacket ⟨pcrFlag, length, pcr⟩ = .ok (next, count) ∧
      count.toNat = length.toNat + 1 ∧
      next.cells = tspacket.cells.take 4 ++ clockField pcr length ++
        tspacket.cells.drop (5 + length.toNat) := by
  have hfront : (tspacket.cells.take 4).length = 4 := by
    rw [List.length_take, tspacket.length_cells]
    rfl
  obtain ⟨next, hnext, hcells⟩ := exists_adaptationSet_pcr
    (List.take_append_drop 4 tspacket.cells).symm hfront
    (show (⟨pcrFlag, length, pcr⟩ : TsPacketAdaptationInfo).fieldFlag = pcrFlag from rfl)
    hlow hhigh
  refine ⟨next, _, hnext, ?_, ?_⟩
  · rw [UInt32.toNat_ofNat']
    dsimp only
    omega
  · rw [hcells, List.drop_drop, show 4 + (length.toNat + 1) = 5 + length.toNat by omega]
    rfl

theorem byteAt_clockField (hlow : 7 ≤ length.toNat) {front : List UInt8}
    (hfront : front.length = 4) (rest : List UInt8) {position : ℕ}
    (hposition : position ≤ length.toNat) :
    byteAt (front ++ clockField pcr length ++ rest) (4 + position) =
      byteAt (clockField pcr length) position := by
  have hfield : (clockField pcr length).length = length.toNat + 1 := length_clockField hlow
  rw [List.append_assoc, byteAt_append_right (by omega), byteAt_append_left (by omega), hfront,
    Nat.add_sub_cancel_left]

/-- The field reads as the clock modulo its 33 bits of base. -/
theorem holdsClock_clockField (hlow : 7 ≤ length.toNat) {front rest : List UInt8}
    (hfront : front.length = 4) :
    HoldsClock (front ++ clockField pcr length ++ rest) length.toNat pcr.toNat := by
  have hbyte {position : ℕ} (hposition : position ≤ length.toNat) :
      byteAt (front ++ clockField pcr length ++ rest) (4 + position) =
        byteAt (clockField pcr length) position :=
    byteAt_clockField hlow hfront rest hposition
  have hclock : readPcr ((front ++ clockField pcr length ++ rest).drop 6) = pcrOf pcr.toNat := by
    have hdrop : (front ++ clockField pcr length ++ rest).drop 6 =
        (pcrOf pcr.toNat).encode ++ (List.replicate (length.toNat - 7) 0xff ++ rest) := by
      rw [List.append_assoc, List.drop_append, List.drop_eq_nil_of_le (by omega), hfront,
        ← pcrBytes_eq]
      simp [clockField]
    rw [hdrop, readPcr_encode]
  exact {
    fieldLength := by
      change byteAt _ (4 + 0) = _
      rw [hbyte (by omega)]
      rfl
    flag := by
      change byteAt _ (4 + 1) = _
      rw [hbyte (by omega)]
      rfl
    clock := by rw [hclock, pcrTime_pcrOf]
    extension := by
      rw [hclock]
      exact Nat.mod_lt _ (by decide)
    reserved := by
      change byteAt _ (4 + 6) / 2 % 64 = 63
      rw [hbyte (by omega), clockField, pcrBytes_eq]
      change (UInt8.ofNat _).toNat / 2 % 64 = 63
      have hextension : (pcrOf pcr.toNat).extension < 300 := Nat.mod_lt _ (by decide)
      rw [UInt8.toNat_ofNat']
      omega
    stuffing := by
      intro position hposition hlast
      have hcode : (length :: pcrFlag :: pcrBytes pcr).length = 8 := rfl
      rw [show position = 4 + (position - 4) by omega, hbyte (by omega), clockField,
        byteAt_append_right (by omega), hcode, byteAt, List.getD_eq_getElem?_getD,
        List.getElem?_replicate, if_pos (by omega)]
      rfl }

/-- The field of a clock reference loses nothing and touches nothing else, for every length that
holds the clock and fits the packet. -/
theorem clock_field_lossless (pcr : UInt64) (hlow : 7 ≤ length.toNat)
    (hhigh : length.toNat ≤ 183) :
    StoresExactly (sptsTspacketAdaptationSet · ⟨pcrFlag, length, pcr⟩) 4 (4 + length.toNat) ∧
      ∀ tspacket, ∃ next count,
        sptsTspacketAdaptationSet tspacket ⟨pcrFlag, length, pcr⟩ = .ok (next, count) ∧
          count.toNat = length.toNat + 1 ∧ HoldsClock next.cells length.toNat pcr.toNat := by
  have hfield : (clockField pcr length).length = length.toNat + 1 := length_clockField hlow
  have hfront (tspacket : TsPacket) : (tspacket.cells.take 4).length = 4 := by
    rw [List.length_take, tspacket.length_cells]
    rfl
  have hcells {tspacket next : TsPacket} {count : UInt32}
      (hset : sptsTspacketAdaptationSet tspacket ⟨pcrFlag, length, pcr⟩ = .ok (next, count)) :
      next.cells = tspacket.cells.take 4 ++ clockField pcr length ++
        tspacket.cells.drop (5 + length.toNat) := by
    obtain ⟨other, otherCount, hother, -, hcells⟩ := exists_clockField hlow hhigh tspacket
    rw [hset] at hother
    rwa [(Prod.mk.inj (Except.ok.inj hother)).1]
  refine ⟨⟨?_, ?_⟩, ?_⟩
  · intro tspacket other next nextOther count countOther hset hsetOther position hfirst hlast
    rw [hcells hset, hcells hsetOther, show position = 4 + (position - 4) by omega,
      byteAt_clockField hlow (hfront tspacket) _ (by omega),
      byteAt_clockField hlow (hfront other) _ (by omega)]
  · intro tspacket next count hset position houtside
    rw [hcells hset]
    rcases houtside with hbefore | hafter
    · rw [List.append_assoc, byteAt_append_left (by rw [hfront]; omega), byteAt_take hbefore]
    · rw [byteAt_append_right (by rw [List.length_append, hfront, hfield]; omega), byteAt_drop,
        List.length_append, hfront, hfield]
      congr 1
      omega
  · intro tspacket
    obtain ⟨next, count, hset, hcount, hnext⟩ := exists_clockField hlow hhigh tspacket
    refine ⟨next, count, hset, hcount, ?_⟩
    rw [hnext]
    exact holdsClock_clockField hlow (hfront tspacket)

/-- The largest time in a null packet, with twenty bytes of stuffing. -/
theorem clock_field_lossless_largest :
    ∃ next count, sptsTspacketAdaptationSet nullPacket.block ⟨pcrFlag, 27, 0xffffffffffffffff⟩ =
        .ok (next, count) ∧
      count.toNat = 28 ∧ HoldsClock next.cells 27 (2 ^ 64 - 1) := by
  have hlow : 7 ≤ (27 : UInt8).toNat := by decide
  have hhigh : (27 : UInt8).toNat ≤ 183 := by decide
  exact (clock_field_lossless 0xffffffffffffffff hlow hhigh).2 nullPacket.block

end ClockField

/-! ## The clock and the time stamp of one frame -/

/-- A receiver of the first packet of a frame finds a clock reference without extension and a time
stamp, which are as far apart as the time stamp is from zero, but not more than 10250 ticks. -/
structure ClockLocked (packet : List UInt8) (pts : ℕ) : Prop where
  start : payloadUnitStartIndicator packet = true
  clock : ∃ pcr, programClockReference packet = some pcr ∧ pcr.extension = 0 ∧
    ((readPts (Transport.payload packet) : ℤ) - pcr.base) % 2 ^ 33 = min pts 10250

/-- The clock of a frame is computed without overflow, from a time stamp that is exact. -/
theorem toNat_pcr (gst : UInt64Scale) (buffer : GstBuffer) {info : PESHeaderInfo}
    (hpts : info.pts = gsttimeToMpegtime gst buffer.timestamp) :
    info.pts.toNat = buffer.mpegTime ∧
      (pcrAdaptationInfo info).pcr.toNat = (buffer.mpegTime - 10250) * 300 := by
  have hexact : info.pts.toNat = buffer.mpegTime := by rw [hpts, toNat_gsttimeToMpegtime]; rfl
  have hsmall : info.pts.toNat < 2 ^ 51 := by
    rw [hpts]
    exact gsttimeToMpegtime_lt gst buffer.timestamp
  exact ⟨hexact, hexact ▸ toNat_pcrAdaptationInfo_pcr hsmall⟩

theorem clockLocked_start {stream : ElementaryStream} (hpcr : stream.pcr = true)
    (counter pts : ℕ) (data : List UInt8) :
    ClockLocked (stream.start counter pts data).encode pts where
  start := by
    rw [Packet.payloadUnitStartIndicator_encode]
    rfl
  clock := by
    have hlead : stream.lead data = [] := if_neg fun h ↦ by simp [hpcr] at h
    have hpayload : readPts (Transport.payload (stream.start counter pts data).encode) =
        pts % 2 ^ 33 := by
      rw [Packet.payload_encode]
      change readPts (stream.lead data ++ _) = _
      rw [hlead, List.nil_append, readPts_pesHeader]
    refine ⟨ElementaryStream.clock pts, ?_, ?_, ?_⟩
    · rw [Packet.programClockReference_encode]
      exact if_pos hpcr
    · exact Nat.mul_mod_left _ _
    · rw [hpayload]
      change ((pts % 2 ^ 33 : ℕ) - (((pts - 10250) * 300 / 300 % 2 ^ 33 : ℕ) : ℤ)) % 2 ^ 33 = _
      omega

/-- Whether the stream of a buffer carries the clock. -/
def GstBuffer.pcrReference (buffer : GstBuffer) (videoPcr audioPcr : Bool) : Bool :=
  if buffer.isVideo then videoPcr else audioPcr

/-- Clock and time stamp stay locked: in every run, on the stream with the clock, for every time
stamp of a frame. Only an audio frame that is dropped has no first packet. -/
theorem clock_locked (gst : UInt64Scale) (results : List TsPacket → Bool) (setup : Setup)
    (videoPcr audioPcr : Bool) {before : List GstBuffer} {buffer : GstBuffer}
    {prior packets : List TsPacket}
    (hprior : writtenPackets gst results setup videoPcr audioPcr before = .ok prior)
    (hok : writtenPackets gst results setup videoPcr audioPcr (before ++ [buffer]) =
      .ok (prior ++ packets))
    (hpcr : buffer.pcrReference videoPcr audioPcr = true) :
    (∀ info : PESHeaderInfo, info.pts = gsttimeToMpegtime gst buffer.timestamp →
      info.pts.toNat = buffer.mpegTime ∧
        (pcrAdaptationInfo info).pcr.toNat = (buffer.mpegTime - 10250) * 300) ∧
      ((buffer.caps = .audioMpeg ∧ packets = []) ∨
        ∃ first rest, elementary buffer.streamPid packets = first :: rest ∧
          ClockLocked first buffer.mpegTime) := by
  obtain ⟨program, hcarries⟩ := setup.exists_carriesOut videoPcr audioPcr
  refine ⟨fun info hpts ↦ toNat_pcr gst buffer hpts, ?_⟩
  have hstream : (program.streamOf buffer).pcr = true := by
    rw [← hpcr, Program.streamOf, GstBuffer.pcrReference, hcarries.video, hcarries.audio]
    split_ifs <;> rfl
  refine (elementary_of_call hcarries hprior hok).imp_right ?_
  rintro ⟨counter, hunit⟩
  refine ⟨_, _, hunit, ?_⟩
  rw [← buffer.pts_frame gst]
  exact clockLocked_start hstream _ _ _

/-- Frames of one byte with the given times. -/
def timedFrame (deltaUnit : Bool) (timestamp : UInt64) : GstBuffer where
  caps := .videoXH264
  deltaUnit := deltaUnit
  timestamp := timestamp
  data := [1]
  size_lt := by decide

/-- A time stamp that is past its 33 bits. -/
theorem clock_locked_past_wrap :
    ∃ packets first rest, writtenPackets gstUtilUint64Scale (fun _ ↦ true) plainSetup true false
        [timedFrame false 100000000000000] = .ok packets ∧
      elementary videoPid.toNat packets = first :: rest ∧ ClockLocked first 9000000000 := by
  obtain ⟨program, hcarries⟩ := plainSetup.exists_carriesOut true false
  have hok (buffers : List GstBuffer) (hcaps : ∀ buffer ∈ buffers, buffer.caps ≠ .other)
      (hsize : ∀ buffer ∈ buffers, buffer.data.length < 2 ^ 32 - 22) :=
    hcarries.written_of_length gstUtilUint64Scale (fun _ ↦ true) hcaps hsize
  have hnone := hok [] (by decide) (by decide)
  have hone := hok [timedFrame false 100000000000000] (by decide) (by decide)
  obtain ⟨-, ⟨haudio, -⟩ | ⟨first, rest, hfirst, hlocked⟩⟩ :=
    clock_locked gstUtilUint64Scale (fun _ ↦ true) plainSetup true false hnone hone rfl
  · cases haudio
  · exact ⟨_, first, rest, hone, hfirst, hlocked⟩

/-! ## The clock of a run -/

section Runs

variable {gst : UInt64Scale} {results : List TsPacket → Bool} {setup : Setup}
  {buffers : List GstBuffer} {packets : List TsPacket}
  (hok : writtenPackets gst results setup true false buffers = .ok packets)
include hok

/-- The clock of a run is that of its video frames, in decoding order. -/
theorem pcrTimes_eq
    (hpts : ∀ buffer ∈ buffers, buffer.isVideo = true → buffer.mpegTime < 2 ^ 33) :
    pcrTimes packets =
      (buffers.filter GstBuffer.isVideo).map fun buffer ↦ (buffer.mpegTime - 10250) * 300 := by
  obtain ⟨program, hcarries⟩ := setup.exists_carriesOut true false
  have hraw : (fun packet : Packet ↦
      (programClockReference packet.block.cells).map pcrTime) = fun packet ↦
        packet.pcr.map pcrTime := by
    funext packet
    rw [Packet.block_cells, Packet.programClockReference_encode]
  calc
    pcrTimes packets = (outputsOf gst program buffers).filterMap
        fun packet ↦ packet.pcr.map pcrTime := by
      rw [hcarries.written gst results buffers packets hok, pcrTimes, List.filterMap_map]
      exact congrArg (List.filterMap · _) hraw
    _ = ((outputsOf gst program buffers).filterMap Packet.pcr).map pcrTime := by
      rw [List.map_filterMap]
    _ = ((buffers.filter GstBuffer.isVideo).map fun buffer ↦
        ElementaryStream.clock (buffer.frame gst).pts).map pcrTime := by
      rw [filterMap_pcr_outputsOf gst hcarries]
    _ = (buffers.filter GstBuffer.isVideo).map fun buffer ↦ (buffer.mpegTime - 10250) * 300 := by
      rw [List.map_map]
      apply List.map_congr_left
      intro buffer hmem
      obtain ⟨hbuffer, hisVideo⟩ := List.mem_filter.mp hmem
      rw [Function.comp_apply, buffer.pts_frame gst, pcrTime_clock (hpts buffer hbuffer hisVideo)]

/-- The clock never runs backwards exactly if no time stamp of a video frame is below that of an
earlier one, except where the earlier one is in the first 10250 ticks. -/
theorem pcrTimes_nondecreasing_iff
    (hpts : ∀ buffer ∈ buffers, buffer.isVideo = true → buffer.mpegTime < 2 ^ 33) :
    (pcrTimes packets).Pairwise (· ≤ ·) ↔
      (buffers.filter GstBuffer.isVideo).Pairwise fun earlier later ↦
        earlier.mpegTime ≤ later.mpegTime ∨ earlier.mpegTime ≤ 10250 := by
  rw [pcrTimes_eq hok hpts, List.pairwise_map]
  apply List.Pairwise.iff
  intro earlier later
  omega

end Runs

/-- Three frames in the order of their times. -/
theorem pcrTimes_nondecreasing_three_frames :
    ∃ packets, writtenPackets gstUtilUint64Scale (fun _ ↦ true) plainSetup true false
        [timedFrame false 1000000000, timedFrame true 1040000000, timedFrame true 1080000000] =
          .ok packets ∧
      (pcrTimes packets).Pairwise (· ≤ ·) := by
  obtain ⟨program, hcarries⟩ := plainSetup.exists_carriesOut true false
  have hok := hcarries.written_of_length gstUtilUint64Scale (fun _ ↦ true)
    (show ∀ buffer ∈ [timedFrame false 1000000000, timedFrame true 1040000000,
      timedFrame true 1080000000], buffer.caps ≠ .other by decide) (by decide)
  exact ⟨_, hok, (pcrTimes_nondecreasing_iff hok (by decide)).mpr (by decide)⟩

/-- One frame that is decoded before the frame it follows in time. -/
theorem not_pcrTimes_nondecreasing_reordered :
    ∃ packets, writtenPackets gstUtilUint64Scale (fun _ ↦ true) plainSetup true false
        [timedFrame false 1000000000, timedFrame true 1080000000, timedFrame true 1040000000] =
          .ok packets ∧
      ¬(pcrTimes packets).Pairwise (· ≤ ·) := by
  obtain ⟨program, hcarries⟩ := plainSetup.exists_carriesOut true false
  have hok := hcarries.written_of_length gstUtilUint64Scale (fun _ ↦ true)
    (show ∀ buffer ∈ [timedFrame false 1000000000, timedFrame true 1080000000,
      timedFrame true 1040000000], buffer.caps ≠ .other by decide) (by decide)
  refine ⟨_, hok, ?_⟩
  rw [pcrTimes_eq hok (by decide)]
  decide

end SpTsMuxer.Spts
