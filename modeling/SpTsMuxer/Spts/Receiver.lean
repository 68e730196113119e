import Mathlib.Data.List.Basic
import SpTsMuxer.Spts.Observation

/-!
# What a Receiver Gets Back

The packets of one PID are read by the reference demultiplexer.  Video comes back frame by frame
in every run, and the clock reference is exactly in the first packet of each video frame.  Audio
comes back in the runs that neither drop an audio frame nor write one of 169 bytes, and in no
other run.
-/

namespace SpTsMuxer.Spts

open Memory Transport Pes Psi Machine

/-! ## Video -/

theorem filterMap_pcr_unit {stream : ElementaryStream} (hpcr : stream.pcr = true)
    (counter pts : ℕ) (data : List UInt8) :
    (stream.unit counter pts data).filterMap Packet.pcr = [ElementaryStream.clock pts] := by
  have hrest : (stream.continuation (counter + 1) (data.drop (stream.taken data))).filterMap
      Packet.pcr = [] := by
    rw [List.filterMap_eq_nil_iff]
    intro packet hmem
    exact (stream.continuation_fields _ _ packet hmem).2.2.2
  have hstart : (stream.start counter pts data).pcr = some (ElementaryStream.clock pts) :=
    if_pos hpcr
  rw [ElementaryStream.unit, List.filterMap_cons, hstart, hrest]

theorem filterMap_pcr_streamMachine {stream : ElementaryStream} (hpcr : stream.pcr = true)
    (counter : ℕ) (frames : List Frame) :
    ((streamMachine stream).run counter frames).2.filterMap Packet.pcr =
      frames.map fun frame ↦ ElementaryStream.clock frame.pts := by
  induction frames generalizing counter with
  | nil => rfl
  | cons frame rest ih =>
      rw [Mealy.run_cons_snd, List.filterMap_append, ih]
      change (stream.unit counter frame.pts frame.data).filterMap Packet.pcr ++ _ = _
      rw [filterMap_pcr_unit hpcr]
      rfl

/-- With the clock on video, a packet has a clock reference exactly if it starts a video frame. -/
theorem pcr_isSome_iff {program : Program} (hvideo : program.video = .h264 true)
    (haudio : program.audio = .aac false) {packet : Packet} (h : Emitted program packet) :
    packet.pcr.isSome = true ↔ packet.pid = videoPid.toNat ∧ packet.unitStart = true := by
  have hpids : (0x1fff : ℕ) ≠ videoPid.toNat ∧ 0 ≠ videoPid.toNat ∧ 0x20 ≠ videoPid.toNat ∧
      audioPid.toNat ≠ videoPid.toNat := by decide
  cases h with
  | null => simp [nullPacket]
  | pat counter => simp [Program.pat, hpids]
  | pmt counter => simp [Program.pmt, hpids]
  | start hstream counter pts data =>
      rcases hstream with rfl | rfl
      · simp [ElementaryStream.start, hvideo, ElementaryStream.h264]
      · simp [ElementaryStream.start, haudio, ElementaryStream.aac, hpids]
  | piece hstream counter data hdata => simp [ElementaryStream.piece]

/-- With the clock on video, each video frame has its clock reference, and there are no others. -/
theorem filterMap_pcr_outputsOf (gst : UInt64Scale) {setup : Setup} {program : Program}
    (hcarries : CarriesOut setup true false program) (buffers : List GstBuffer) :
    (outputsOf gst program buffers).filterMap Packet.pcr =
      (buffers.filter GstBuffer.isVideo).map fun buffer ↦
        ElementaryStream.clock (buffer.frame gst).pts := by
  have hpcr : program.video.pcr = true := by rw [hcarries.video]; rfl
  have hvideo : (outputsOf gst program buffers).filterMap Packet.pcr =
      ((outputsOf gst program buffers).filter (onPid program.video.pid)).filterMap
        Packet.pcr := by
    rw [List.filterMap_filter]
    apply List.filterMap_congr
    intro packet hmem
    have hiff := pcr_isSome_iff hcarries.video hcarries.audio
      (emitted_of_mem_run program .initial _ packet hmem)
    cases hsome : packet.pcr with
    | none => rw [ite_self]
    | some pcr =>
        rw [hsome] at hiff
        have hpid : onPid program.video.pid packet = true := by
          rw [hcarries.video_pid]
          exact decide_eq_true (hiff.mp rfl).1
        rw [if_pos hpid]
  rw [hvideo, filter_video_outputsOf gst hcarries.separate, filterMap_pcr_streamMachine hpcr,
    List.map_map]
  rfl

/-- With the clock on video, in every run over frames of the two kinds, the packets on the video PID
give back exactly the video frames, in order, each with its time stamp. The packets with a clock
reference are the start packets on the video PID, one for each video frame. -/
theorem video_round_trip (gst : UInt64Scale) (results : List TsPacket → Bool) (setup : Setup)
    {buffers : List GstBuffer} (hcaps : ∀ buffer ∈ buffers, buffer.caps ≠ .other)
    (hsize : ∀ buffer ∈ buffers, buffer.data.length < 2 ^ 32 - 22) :
    ∃ packets, writtenPackets gst results setup true false buffers = .ok packets ∧
      demux streamIdVideo (elementary videoPid.toNat packets) =
        some ((buffers.filter GstBuffer.isVideo).map GstBuffer.accessUnit) ∧
      (∀ packet ∈ packets, (programClockReference packet.cells).isSome = true ↔
        Transport.pid packet.cells = videoPid.toNat ∧
          payloadUnitStartIndicator packet.cells = true) ∧
      (packets.filter fun packet ↦ (programClockReference packet.cells).isSome).length =
        (buffers.filter GstBuffer.isVideo).length := by
  obtain ⟨program, hcarries⟩ := setup.exists_carriesOut true false
  have hvideo := hcarries.video
  have haudio := hcarries.audio
  refine ⟨_, hcarries.written_of_length gst results hcaps hsize, ?_⟩
  have hpcr : program.video.pcr = true := by rw [hvideo]; rfl
  have hview := filter_video_outputsOf gst hcarries.separate buffers
  rw [hcarries.video_pid] at hview
  have hemitted := emitted_of_mem_run program .initial (buffers.map (GstBuffer.frame gst))
  have hiff : ∀ packet ∈ (outputsOf gst program buffers),
      (packet.pcr.isSome = true ↔ packet.pid = videoPid.toNat ∧ packet.unitStart = true) :=
    fun packet hmem ↦ pcr_isSome_iff hvideo haudio (hemitted packet hmem)
  refine ⟨?_, ?_, ?_⟩
  · have hlead : ∀ frame ∈ (buffers.filter GstBuffer.isVideo).map (GstBuffer.frame gst),
        program.video.lead frame.data = [] :=
      fun frame _ ↦ if_neg fun h ↦ by simp [hpcr] at h
    have hdemux := demux_streamMachine program.video 0 hlead
    rw [elementary_blocks, hview, ← map_accessUnit_frames gst, ← hdemux, hvideo]
    rfl
  · intro packet hmem
    obtain ⟨origin, horigin, rfl⟩ := List.mem_map.mp hmem
    rw [Packet.block_cells, Packet.programClockReference_encode, Packet.pid_encode,
      Packet.payloadUnitStartIndicator_encode]
    exact hiff origin horigin
  · have hlength := congrArg List.length (filterMap_pcr_outputsOf gst hcarries buffers)
    rw [List.length_filterMap_eq_countP, List.length_map, List.countP_eq_length_filter] at hlength
    have hraw : ((fun packet : TsPacket ↦ (programClockReference packet.cells).isSome) ∘
        Packet.block) = fun packet ↦ packet.pcr.isSome := by
      funext packet
      rw [Function.comp_apply, Packet.block_cells, Packet.programClockReference_encode]
    rw [List.filter_map, List.length_map, hraw, hlength]

/-- A video frame of three bytes after one second, and an audio frame of one byte. -/
theorem video_round_trip_two_frames :
    ∃ packets, writtenPackets gstUtilUint64Scale (fun _ ↦ true) plainSetup true false
        [⟨.videoXH264, false, 1000000000, [1, 2, 3], by decide⟩,
          ⟨.audioMpeg, false, 1000000000, [4], by decide⟩] = .ok packets ∧
      demux streamIdVideo (elementary videoPid.toNat packets) =
        some [⟨some 90000, [1, 2, 3]⟩] := by
  obtain ⟨packets, hok, hdemux, -⟩ := video_round_trip gstUtilUint64Scale (fun _ ↦ true)
    plainSetup
    (show ∀ buffer ∈ ([⟨.videoXH264, false, 1000000000, [1, 2, 3], by decide⟩,
      ⟨.audioMpeg, false, 1000000000, [4], by decide⟩] : List GstBuffer),
        buffer.caps ≠ .other by decide) (by decide)
  exact ⟨packets, hok, hdemux⟩

/-! ## Audio -/

/-- The audio frames of a run come back, in order, each with its time stamp. -/
def AudioReturned (gst : UInt64Scale) (results : List TsPacket → Bool) (setup : Setup)
    (buffers : List GstBuffer) : Prop :=
  ∃ packets, writtenPackets gst results setup true false buffers = .ok packets ∧
    demux streamIdAudio (elementary audioPid.toNat packets) =
      some ((buffers.filter GstBuffer.isAudio).map GstBuffer.accessUnit)

/-- Where the first packet of a frame gets a stuffing field, the helper returns one byte more than
the length it wrote. -/
def ReservesField (buffer : GstBuffer) : Prop :=
  ∀ (info : PESHeaderInfo) (tspacket next : TsPacket) (length : UInt32),
    info.pesPacketLength = buffer.size →
    tspacketPayloadLength > pesHeaderLength info + info.pesPacketLength →
    sptsTspacketAdaptationSet tspacket (stuffingAdaptationInfo info) = .ok (next, length) →
    length.toNat = 1 + (stuffingAdaptationInfo info).adaptationFieldLength.toNat

/-- The helper fails to do so for a frame of 169 bytes, and for no other one. -/
theorem reservesField_iff {buffer : GstBuffer} (hsize : buffer.data.length < 2 ^ 32 - 14) :
    ReservesField buffer ↔ buffer.data.length ≠ 169 := by
  constructor
  · intro hreserves hstray
    let info : PESHeaderInfo := ⟨0, buffer.size, 0, 0, 0⟩
    have hlength : info.pesPacketLength.toNat = buffer.data.length := buffer.toNat_size
    have hfield := toNat_stuffingAdaptationInfo_length hlength (by omega)
    have hzero : (stuffingAdaptationInfo info).adaptationFieldLength = 0 := by
      apply UInt8.toNat_inj.mp
      rw [hfield, hstray]
      rfl
    obtain ⟨next, hnext, -⟩ := exists_adaptationSet_zero
      (show nullPacket.block.cells = _ ++ _ from rfl) rfl
      (show (stuffingAdaptationInfo info).fieldFlag = 0x00 from rfl) hzero
    have hreturned := hreserves info nullPacket.block next 2 rfl
      ((stuffing_needed_iff hlength hsize).mpr (by omega)) hnext
    rw [hfield, hstray] at hreturned
    exact absurd hreturned (by decide)
  · intro hstray info tspacket next length hinfo hneeded hset
    have hlength : info.pesPacketLength.toNat = buffer.data.length := by
      rw [hinfo, buffer.toNat_size]
    have hshort := (stuffing_needed_iff hlength hsize).mp hneeded
    have hfield := toNat_stuffingAdaptationInfo_length hlength hshort
    have hsplit : tspacket.cells = tspacket.cells.take 4 ++ tspacket.cells.drop 4 :=
      (List.take_append_drop 4 tspacket.cells).symm
    obtain ⟨other, hother, -⟩ := exists_adaptationSet_stuffing hsplit
      (by rw [List.length_take, tspacket.length_cells]; rfl)
      (show (stuffingAdaptationInfo info).fieldFlag = 0x00 from rfl) (by omega) (by omega)
    rw [hset] at hother
    obtain ⟨rfl, rfl⟩ := Prod.mk.inj (Except.ok.inj hother)
    rw [UInt32.toNat_ofNat', hfield]
    omega

theorem forall_reservesField {buffers : List GstBuffer}
    (hsize : ∀ buffer ∈ buffers, buffer.caps = .audioMpeg → buffer.data.length ≤ 65527)
    (hstray : ∀ buffer ∈ buffers, buffer.caps = .audioMpeg → buffer.data.length ≠ 169) :
    ∀ buffer ∈ buffers, buffer.caps = .audioMpeg → ReservesField buffer := by
  intro buffer hmem haudio
  have hshort := hsize buffer hmem haudio
  exact (reservesField_iff (by omega)).mpr (hstray buffer hmem haudio)

section Audio

variable {gst : UInt64Scale} {results : List TsPacket → Bool} {setup : Setup} {program : Program}
  (hcarries : CarriesOut setup true false program) {buffers : List GstBuffer}
include hcarries

theorem lead_audio_iff (data : List UInt8) :
    program.audio.lead data = [] ↔ data.length ≠ 169 := by
  have hpcr : program.audio.pcr = false := by
    rw [hcarries.audio]
    rfl
  rw [ElementaryStream.lead, hpcr]
  by_cases hstray : data.length = 169 <;> simp [hstray]

/-- The audio of a run comes back exactly if none is dropped and no frame has 169 bytes. -/
theorem audioReturned_iff_kept (hcaps : ∀ buffer ∈ buffers, buffer.caps ≠ .other)
    {packets : List TsPacket}
    (hok : writtenPackets gst results setup true false buffers = .ok packets) :
    AudioReturned gst results setup buffers ↔
      NoneDropped program .initial (buffers.map (GstBuffer.frame gst)) ∧
        ∀ buffer ∈ buffers, buffer.caps = .audioMpeg → buffer.data.length ≠ 169 := by
  let frames := buffers.map (GstBuffer.frame gst)
  let kept := keptAudio program .initial frames
  have haudio := filter_isAudio_frames gst hcaps
  have hreturned : AudioReturned gst results setup buffers ↔
      demux streamIdAudio (elementary audioPid.toNat packets) =
        some ((frames.filter Frame.isAudio).map Frame.accessUnit) := by
    rw [AudioReturned, haudio, map_accessUnit_frames, hok]
    refine ⟨?_, fun h ↦ ⟨packets, rfl, h⟩⟩
    rintro ⟨other, hother, h⟩
    rwa [Except.ok.inj hother]
  have hview : elementary audioPid.toNat packets =
      ((streamMachine program.audio).run 0 kept).2.map Packet.encode := by
    exact elementary_audio hcarries hok
  have hstream : program.audio.streamId = streamIdAudio := by
    rw [hcarries.audio]
    rfl
  have hstray : (∀ buffer ∈ buffers, buffer.caps = .audioMpeg → buffer.data.length ≠ 169) ↔
      ∀ frame ∈ frames.filter Frame.isAudio, program.audio.lead frame.data = [] := by
    rw [haudio]
    simp only [lead_audio_iff hcarries, List.forall_mem_map, List.mem_filter, GstBuffer.isAudio,
      decide_eq_true_eq, and_imp]
    rfl
  rw [hreturned, hview, hstray, ← hstream]
  constructor
  · intro hdemux
    have hlead : ∀ frame ∈ kept, program.audio.lead frame.data = [] := by
      intro frame hmem
      by_contra hlead
      rw [demux_streamMachine_eq_none program.audio 0 hmem hlead] at hdemux
      cases hdemux
    rw [demux_streamMachine program.audio 0 hlead] at hdemux
    have hlength := congrArg List.length (Option.some.inj hdemux)
    rw [List.length_map, List.length_map, length_keptAudio_iff] at hlength
    refine ⟨hlength, ?_⟩
    rw [← keptAudio_eq_filter hlength]
    exact hlead
  · rintro ⟨hnone, hlead⟩
    have hkept : kept = frames.filter Frame.isAudio := keptAudio_eq_filter hnone
    rw [hkept]
    exact demux_streamMachine program.audio 0 hlead

end Audio

/-- The audio frames of a run come back, and each field reserves its bytes, exactly if no audio
frame has 169 bytes or meets a packet counter of zero, and the video frames are short enough for the
run to go through. -/
theorem audio_round_trip_iff (gst : UInt64Scale) (results : List TsPacket → Bool) (setup : Setup)
    {buffers : List GstBuffer} (hcaps : ∀ buffer ∈ buffers, buffer.caps ≠ .other)
    (hsize : ∀ buffer ∈ buffers, buffer.caps = .audioMpeg → buffer.data.length ≤ 65527) :
    (AudioReturned gst results setup buffers ∧
        ∀ buffer ∈ buffers, buffer.caps = .audioMpeg → ReservesField buffer) ↔
      (∀ buffer ∈ buffers, buffer.caps = .videoXH264 → buffer.data.length < 2 ^ 32 - 22) ∧
        (∀ buffer ∈ buffers, buffer.caps = .audioMpeg → buffer.data.length ≠ 169) ∧
        AudioAdmitted gst results setup true false buffers := by
  obtain ⟨program, hcarries⟩ := setup.exists_carriesOut true false
  constructor
  · rintro ⟨hreturned, -⟩
    obtain ⟨packets, hok, -⟩ := id hreturned
    obtain ⟨hnone, hstray⟩ := (audioReturned_iff_kept hcarries hcaps hok).mp hreturned
    refine ⟨?_, hstray, (noneDropped_iff_admitted hcarries hok).mp hnone⟩
    intro buffer hmem hvideo
    obtain ⟨before, after, rfl⟩ := List.append_of_mem hmem
    have haccepts := hcarries.accepts gst results before buffer after packets hok
    rw [Accepts, hvideo, hcarries.video] at haccepts
    exact haccepts
  · rintro ⟨hvideo, hstray, hcounter⟩
    have hfits : ∀ buffer ∈ buffers, Fits program buffer := by
      intro buffer hmem
      refine fits_of_length program (hcaps buffer hmem) ?_
      cases hkind : buffer.caps with
      | videoXH264 => exact hvideo buffer hmem hkind
      | audioMpeg =>
          have hshort := hsize buffer hmem hkind
          omega
      | other => exact absurd hkind (hcaps buffer hmem)
    have hok := hcarries.exists_written gst results hfits
    have hnone := (noneDropped_iff_admitted hcarries hok).mpr hcounter
    exact ⟨(audioReturned_iff_kept hcarries hcaps hok).mpr ⟨hnone, hstray⟩,
      forall_reservesField hsize hstray⟩

/-- A video frame of three bytes, then an audio frame of one. -/
theorem audio_round_trip_iff_two_frames :
    AudioReturned gstUtilUint64Scale (fun _ ↦ true) plainSetup
      [⟨.videoXH264, false, 1000000000, [1, 2, 3], by decide⟩,
        ⟨.audioMpeg, false, 1000000000, [4], by decide⟩] := by
  let video : GstBuffer := ⟨.videoXH264, false, 1000000000, [1, 2, 3], by decide⟩
  let audio : GstBuffer := ⟨.audioMpeg, false, 1000000000, [4], by decide⟩
  have hcaps : ∀ buffer ∈ [video, audio], buffer.caps ≠ .other := by decide
  refine ((audio_round_trip_iff gstUtilUint64Scale (fun _ ↦ true) plainSetup hcaps
    (by decide)).mpr ⟨by decide, by decide, ?_⟩).1
  obtain ⟨program, hcarries⟩ := plainSetup.exists_carriesOut true false
  have hok := hcarries.exists_written gstUtilUint64Scale (fun _ ↦ true)
    (fun buffer hmem ↦ fits_of_length program (hcaps buffer hmem)
      ((by decide : ∀ buffer ∈ [video, audio], buffer.data.length < 2 ^ 32 - 22) buffer hmem))
  exact (noneDropped_iff_admitted hcarries hok).mp (noneDropped_pair program rfl (by decide))

/-- In a run that begins with a video frame only the lengths of the audio frames matter, as long as
the packet counter does not wrap around. -/
theorem audio_round_trip_of_video_first (gst : UInt64Scale) (results : List TsPacket → Bool)
    (setup : Setup) {first : GstBuffer} {rest : List GstBuffer} {packets : List TsPacket}
    (hok : writtenPackets gst results setup true false (first :: rest) = .ok packets)
    (hvideo : first.caps = .videoXH264) (hlength : packets.length < 2 ^ 64)
    (hsize : ∀ buffer ∈ first :: rest, buffer.caps = .audioMpeg → buffer.data.length ≤ 65527) :
    (AudioReturned gst results setup (first :: rest) ∧
        ∀ buffer ∈ first :: rest, buffer.caps = .audioMpeg → ReservesField buffer) ↔
      ∀ buffer ∈ first :: rest, buffer.caps = .audioMpeg → buffer.data.length ≠ 169 := by
  obtain ⟨program, hcarries⟩ := setup.exists_carriesOut true false
  have hcaps := caps_ne_other hcarries hok
  have hadmitted := admitted_of_length hcarries hok rfl hvideo hlength
  have hnone := (noneDropped_iff_admitted hcarries hok).mpr hadmitted
  rw [audioReturned_iff_kept hcarries hcaps hok, and_iff_right hnone]
  exact and_iff_left_of_imp (forall_reservesField hsize)

/-- An IDR frame without bytes and an audio frame of 169 bytes, both at time zero. -/
def strayBuffers : List GstBuffer :=
  [emptyIdr, filledFrame .audioMpeg 169 (by decide)]

/-- A frame of 169 bytes is lost: its packets do not begin with a start code. -/
theorem audio_lost_stray :
    ∃ packets,
      writtenPackets gstUtilUint64Scale (fun _ ↦ true) plainSetup true false strayBuffers =
        .ok packets ∧
      demux streamIdAudio (elementary audioPid.toNat packets) = none := by
  have hsize : ∀ buffer ∈ strayBuffers, buffer.data.length ≤ 169 := by
    rw [strayBuffers, List.forall_mem_cons, List.forall_mem_singleton]
    exact ⟨by decide, Nat.le_of_eq List.length_replicate⟩
  have hcaps : ∀ buffer ∈ strayBuffers, buffer.caps ≠ .other := by
    rw [strayBuffers, List.forall_mem_cons, List.forall_mem_singleton]
    exact ⟨by decide, by decide⟩
  obtain ⟨program, hcarries⟩ := plainSetup.exists_carriesOut true false
  have hok := hcarries.exists_written gstUtilUint64Scale (fun _ ↦ true) fun buffer hmem ↦
    fits_of_length program (hcaps buffer hmem) (Nat.lt_of_le_of_lt (hsize buffer hmem) (by decide))
  have hkept : keptAudio program .initial
      (strayBuffers.map (GstBuffer.frame gstUtilUint64Scale)) =
        (strayBuffers.map (GstBuffer.frame gstUtilUint64Scale)).filter Frame.isAudio :=
    keptAudio_eq_filter (noneDropped_pair program rfl (by decide))
  have hstream : program.audio.streamId = streamIdAudio := by
    rw [hcarries.audio]
    rfl
  refine ⟨_, hok, ?_⟩
  rw [elementary_audio hcarries hok, hkept, ← hstream, filter_isAudio_frames _ hcaps]
  refine demux_streamMachine_eq_none program.audio 0 List.mem_cons_self fun hlead ↦ ?_
  exact (lead_audio_iff hcarries _).mp hlead List.length_replicate

end SpTsMuxer.Spts
