import SpTsMuxer.Spts.Setup
import SpTsMuxer.Spts.Streams

/-!
# Observing a Run

Statements about a run speak of buffers that go in and of raw packets that come out.  This module
translates both: buffers to the frames of the abstract machine, and the PIDs of raw packets to
those of abstract ones.
-/

namespace SpTsMuxer.Spts

open Memory Transport Pes Psi Machine

/-! ## From buffers to frames -/

/-- What a receiver should get from a buffer. -/
def GstBuffer.accessUnit (buffer : GstBuffer) : AccessUnit where
  pts := some (buffer.timestamp.toNat * 90000 / 10 ^ 9 % 2 ^ 33)
  payload := buffer.data

def GstBuffer.isVideo (buffer : GstBuffer) : Bool := buffer.caps = .videoXH264

def GstBuffer.isAudio (buffer : GstBuffer) : Bool := buffer.caps = .audioMpeg

theorem GstBuffer.accessUnit_frame (gst : UInt64Scale) (buffer : GstBuffer) :
    (buffer.frame gst).accessUnit = buffer.accessUnit := by
  rw [Frame.accessUnit, GstBuffer.accessUnit, GstBuffer.frame, toNat_gsttimeToMpegtime]

theorem GstBuffer.isVideo_frame (gst : UInt64Scale) (buffer : GstBuffer) :
    (buffer.frame gst).isVideo = buffer.isVideo := by
  rw [Frame.isVideo, GstBuffer.isVideo, GstBuffer.frame]
  cases buffer.caps with
  | videoXH264 => cases buffer.deltaUnit <;> rfl
  | audioMpeg => rfl
  | other => rfl

theorem GstBuffer.isAudio_frame (gst : UInt64Scale) {buffer : GstBuffer}
    (hcaps : buffer.caps ≠ .other) : (buffer.frame gst).isAudio = buffer.isAudio := by
  rw [Frame.isAudio, GstBuffer.isAudio, GstBuffer.frame]
  cases hkind : buffer.caps with
  | videoXH264 => cases buffer.deltaUnit <;> rfl
  | audioMpeg => rfl
  | other => exact absurd hkind hcaps

theorem filter_isVideo_frames (gst : UInt64Scale) (buffers : List GstBuffer) :
    (buffers.map (GstBuffer.frame gst)).filter Frame.isVideo =
      (buffers.filter GstBuffer.isVideo).map (GstBuffer.frame gst) := by
  rw [List.filter_map]
  congr 2
  funext buffer
  exact buffer.isVideo_frame gst

/-- The packets on the video PID are computed from the video frames alone. -/
theorem filter_video_outputsOf (gst : UInt64Scale) {program : Program}
    (hseparate : program.Separate) (buffers : List GstBuffer) :
    (outputsOf gst program buffers).filter (onPid program.video.pid) =
      ((streamMachine program.video).run 0
        ((buffers.filter GstBuffer.isVideo).map (GstBuffer.frame gst))).2 := by
  rw [outputsOf, (observes_video hseparate).filter_run trivial, filter_isVideo_frames]
  rfl

theorem filter_isAudio_frames (gst : UInt64Scale) {buffers : List GstBuffer}
    (hcaps : ∀ buffer ∈ buffers, buffer.caps ≠ .other) :
    (buffers.map (GstBuffer.frame gst)).filter Frame.isAudio =
      (buffers.filter GstBuffer.isAudio).map (GstBuffer.frame gst) := by
  rw [List.filter_map]
  congr 1
  apply List.filter_congr
  intro buffer hmem
  exact GstBuffer.isAudio_frame gst (hcaps buffer hmem)

theorem map_accessUnit_frames (gst : UInt64Scale) (buffers : List GstBuffer) :
    (buffers.map (GstBuffer.frame gst)).map Frame.accessUnit =
      buffers.map GstBuffer.accessUnit := by
  rw [List.map_map]
  congr 1
  funext buffer
  exact buffer.accessUnit_frame gst

theorem length_nil_lt : ([] : List UInt8).length < 2 ^ 32 := Nat.two_pow_pos 32

theorem length_singleton_lt (byte : UInt8) : [byte].length < 2 ^ 32 := by
  rw [List.length_singleton]
  decide

/-- An IDR frame without bytes. -/
def emptyIdr : GstBuffer := ⟨.videoXH264, false, 0, [], length_nil_lt⟩

/-- A frame of one byte that depends on no other. -/
def byteFrame (caps : Caps) (timestamp : UInt64) (byte : UInt8) : GstBuffer :=
  ⟨caps, false, timestamp, [byte], length_singleton_lt byte⟩

/-- A frame of equal bytes at time zero. -/
def filledFrame (caps : Caps) (count : ℕ) (hcount : count < 2 ^ 32) : GstBuffer where
  caps := caps
  deltaUnit := false
  timestamp := 0
  data := List.replicate count 0x01
  size_lt := by rwa [List.length_replicate]

/-! ## From raw packets to abstract ones -/

/-- The raw packets on one PID, in order. -/
def elementary (number : ℕ) (packets : List TsPacket) : List (List UInt8) :=
  (packets.map Block.cells).filter fun packet ↦ Transport.pid packet = number

theorem elementary_blocks (number : ℕ) (packets : List Packet) :
    elementary number (packets.map Packet.block) =
      (packets.filter (onPid number)).map Packet.encode := by
  rw [elementary, List.map_map, List.filter_map]
  congr 1
  apply List.filter_congr
  intro packet _
  change decide (Transport.pid packet.encode = number) = decide (packet.pid = number)
  rw [Packet.pid_encode]

theorem h264_pid (videoPcr : Bool) : (ElementaryStream.h264 videoPcr).pid = videoPid.toNat := rfl

theorem aac_pid (audioPcr : Bool) : (ElementaryStream.aac audioPcr).pid = audioPid.toNat := rfl

section Carried

variable {setup : Setup} {videoPcr audioPcr : Bool} {program : Program}
  (h : CarriesOut setup videoPcr audioPcr program)
include h

theorem CarriesOut.video_pid : program.video.pid = videoPid.toNat := by
  rw [h.video, h264_pid]

theorem CarriesOut.audio_pid : program.audio.pid = audioPid.toNat := by
  rw [h.audio, aac_pid]

theorem CarriesOut.separate : program.Separate := by
  constructor
  · rw [h.video_pid, h.audio_pid]
    decide
  · rw [h.video_pid]
    decide
  · rw [h.audio_pid]
    decide

theorem CarriesOut.exists_emitted {gst : UInt64Scale} {results : List TsPacket → Bool}
    {buffers : List GstBuffer} {packets : List TsPacket}
    (hok : writtenPackets gst results setup videoPcr audioPcr buffers = .ok packets) :
    ∀ packet ∈ packets, ∃ origin : Packet, Emitted program origin ∧ packet = origin.block := by
  intro packet hmem
  rw [h.written gst results buffers packets hok] at hmem
  obtain ⟨origin, horigin, rfl⟩ := List.mem_map.mp hmem
  exact ⟨origin, emitted_of_mem_run program .initial _ origin horigin, rfl⟩

end Carried

theorem fits_of_length (program : Program) {buffer : GstBuffer} (hcaps : buffer.caps ≠ .other)
    (hsize : buffer.data.length < 2 ^ 32 - 22) : Fits program buffer := by
  have hholds (stream : ElementaryStream) : stream.Holds buffer.data := by
    rw [ElementaryStream.Holds]
    split_ifs <;> omega
  rw [Fits]
  cases hkind : buffer.caps with
  | videoXH264 => exact hholds _
  | audioMpeg => exact hholds _
  | other => exact absurd hkind hcaps

/-- Frames of the two kinds are written, if none of them is too long. -/
theorem CarriesOut.written_of_length {setup : Setup} {videoPcr audioPcr : Bool}
    {program : Program} (h : CarriesOut setup videoPcr audioPcr program) (gst : UInt64Scale)
    (results : List TsPacket → Bool) {buffers : List GstBuffer}
    (hcaps : ∀ buffer ∈ buffers, buffer.caps ≠ .other)
    (hsize : ∀ buffer ∈ buffers, buffer.data.length < 2 ^ 32 - 22) :
    writtenPackets gst results setup videoPcr audioPcr buffers =
      .ok ((outputsOf gst program buffers).map Packet.block) :=
  h.exists_written gst results fun buffer hmem ↦
    fits_of_length program (hcaps buffer hmem) (hsize buffer hmem)

/-! ## Dropped audio -/

/-- No audio frame of the run meets a packet counter of zero. -/
def AudioAdmitted (gst : UInt64Scale) (results : List TsPacket → Bool) (setup : Setup)
    (videoPcr audioPcr : Bool) (buffers : List GstBuffer) : Prop :=
  ∀ before buffer after, buffers = before ++ buffer :: after → buffer.caps = .audioMpeg →
    ∀ spts, runFrames gst results setup videoPcr audioPcr before = .ok spts →
      spts.packetsCounter ≠ 0

section Admitted

variable {gst : UInt64Scale} {results : List TsPacket → Bool} {setup : Setup}
  {videoPcr audioPcr : Bool} {program : Program}
  (hcarries : CarriesOut setup videoPcr audioPcr program) {buffers : List GstBuffer}
  {packets : List TsPacket}
  (hok : writtenPackets gst results setup videoPcr audioPcr buffers = .ok packets)
include hcarries hok

theorem caps_ne_other : ∀ buffer ∈ buffers, buffer.caps ≠ .other := by
  intro buffer hmem hother
  obtain ⟨before, after, rfl⟩ := List.append_of_mem hmem
  have haccepts := hcarries.accepts gst results before buffer after packets hok
  rw [Accepts, hother] at haccepts
  exact haccepts

/-- Whether audio is dropped can be read off the packet counter of the source. -/
theorem noneDropped_iff_admitted :
    NoneDropped program .initial (buffers.map (GstBuffer.frame gst)) ↔
      AudioAdmitted gst results setup videoPcr audioPcr buffers := by
  have hcaps := caps_ne_other hcarries hok
  have hcounter {before spts}
      (hrun : runFrames gst results setup videoPcr audioPcr before = .ok spts) :
      spts.packetsCounter ≠ 0 ↔ (stateAfter gst program before).packets % 2 ^ 64 ≠ 0 :=
    (hcarries.refines gst results before spts hrun).packetsCounter_eq_zero_iff.not
  constructor
  · intro hnone before buffer after hsplit haudio spts hrun
    refine (hcounter hrun).mpr (hnone _ (buffer.frame gst) (after.map (GstBuffer.frame gst)) ?_ ?_)
    · rw [hsplit, List.map_append, List.map_cons]
    · rw [GstBuffer.frame, haudio]
  · intro hadmitted before frame after hsplit haudio
    obtain ⟨first, rest, rfl, rfl, hrest⟩ := List.map_eq_append_iff.mp hsplit
    obtain ⟨buffer, last, rfl, rfl, rfl⟩ := List.map_eq_cons_iff.mp hrest
    have hbuffer : buffer.caps = .audioMpeg := by
      have hkind := GstBuffer.isAudio_frame gst (hcaps buffer (by simp))
      rw [Frame.isAudio, decide_eq_true haudio, GstBuffer.isAudio] at hkind
      exact of_decide_eq_true hkind.symm
    obtain ⟨final, hfinal, -⟩ := writtenPackets_eq_ok hok
    obtain ⟨spts, hrun, -⟩ := exists_runFrames_prefix hfinal
    exact (hcounter hrun).mp (hadmitted first buffer last rfl hbuffer spts hrun)

/-- On the audio PID of a run are the packets of the audio frames that were kept. -/
theorem elementary_audio :
    elementary audioPid.toNat packets =
      ((streamMachine program.audio).run 0
        (keptAudio program .initial (buffers.map (GstBuffer.frame gst)))).2.map Packet.encode := by
  rw [hcarries.written gst results buffers packets hok, elementary_blocks, ← hcarries.audio_pid,
    outputsOf, filter_audio_run hcarries.separate]
  rfl

/-- No audio is dropped after a first video frame as long as the counter does not wrap around. -/
theorem admitted_of_length {first : GstBuffer} {rest : List GstBuffer}
    (hsplit : buffers = first :: rest) (hvideo : first.caps = .videoXH264)
    (hlength : packets.length < 2 ^ 64) :
    AudioAdmitted gst results setup videoPcr audioPcr buffers := by
  have hwritten := hcarries.written gst results buffers packets hok
  rw [hwritten, List.length_map, outputsOf, hsplit] at hlength
  refine (noneDropped_iff_admitted hcarries hok).mp ?_
  rw [hsplit]
  refine noneDropped_of_length (fun haudio ↦ ?_) hlength
  have hkind := first.isVideo_frame gst
  rw [Frame.isVideo, haudio, GstBuffer.isVideo, hvideo] at hkind
  simp at hkind

end Admitted

/-! ## One call of a run -/

/-- The PID of the video stream or of the audio stream. -/
def streamPid (video : Bool) : ℕ := if video then videoPid.toNat else audioPid.toNat

/-- The PID of the stream that a buffer goes to. -/
def GstBuffer.streamPid (buffer : GstBuffer) : ℕ := Spts.streamPid buffer.isVideo

/-- The stream of a program that a buffer goes to. -/
def Program.streamOf (program : Program) (buffer : GstBuffer) : ElementaryStream :=
  if buffer.isVideo then program.video else program.audio

theorem CarriesOut.writeFuncData_of_call {gst : UInt64Scale} {results : List TsPacket → Bool}
    {setup : Setup} {videoPcr audioPcr : Bool} {program : Program}
    (h : CarriesOut setup videoPcr audioPcr program) {before : List GstBuffer}
    {buffer : GstBuffer} {spts next : SpTs (List TsPacket)} {result : Bool}
    (hrun : runFrames gst results setup videoPcr audioPcr before = .ok spts)
    (hwrite : sptsWriteFrame gst spts buffer = .ok (result, next)) :
    next.writeFuncData = spts.writeFuncData ++
      (muxStep program (stateAfter gst program before) (buffer.frame gst)).2.map Packet.block := by
  have hprior := h.written gst results _ _ (writtenPackets_of_runFrames hrun)
  have hok := h.written gst results _ _
    (writtenPackets_of_runFrames (runFrames_concat hrun hwrite))
  rw [hok, hprior, outputsOf_concat, List.map_append]

/-- The stream record that a buffer goes to. -/
def SpTs.streamOf {W : Type} (spts : SpTs W) (buffer : GstBuffer) : Option SpTsStream :=
  if buffer.isVideo then spts.videoStream else spts.audioStream

theorem Refines.exists_streamOf {W : Type} {spts : SpTs W} {program : Program} {state : MuxState}
    (h : Refines spts program state) {buffer : GstBuffer} {record : SpTsStream}
    (hrecord : spts.streamOf buffer = some record) :
    ∃ counter, StreamRefines record (program.streamOf buffer) counter := by
  rw [SpTs.streamOf] at hrecord
  rw [Program.streamOf]
  split_ifs at hrecord ⊢
  · obtain ⟨video, hvideo, hrefines⟩ := h.video
    obtain rfl := Option.some.inj (hrecord.symm.trans hvideo)
    exact ⟨_, hrefines⟩
  · obtain ⟨audio, haudio, hrefines⟩ := h.audio
    obtain rfl := Option.some.inj (hrecord.symm.trans haudio)
    exact ⟨_, hrefines⟩

section OneCall

variable {gst : UInt64Scale} {results : List TsPacket → Bool} {setup : Setup}
  {videoPcr audioPcr : Bool} {program : Program}
  (hcarries : CarriesOut setup videoPcr audioPcr program) {before : List GstBuffer}
  {buffer : GstBuffer} {prior packets : List TsPacket}
  (hprior : writtenPackets gst results setup videoPcr audioPcr before = .ok prior)
  (hok : writtenPackets gst results setup videoPcr audioPcr (before ++ [buffer]) =
    .ok (prior ++ packets))
include hcarries hprior hok

theorem packets_of_call :
    packets =
      (muxStep program (stateAfter gst program before) (buffer.frame gst)).2.map Packet.block := by
  have hwritten := hcarries.written gst results _ _ hok
  rw [outputsOf_concat, List.map_append, ← hcarries.written gst results _ _ hprior] at hwritten
  exact List.append_cancel_left hwritten

/-- The packets of a call on the PID of its stream are those of its frame, unless an audio frame is
dropped. -/
theorem elementary_of_call :
    (buffer.caps = .audioMpeg ∧ packets = []) ∨
      ∃ counter, elementary buffer.streamPid packets =
        ((program.streamOf buffer).unit counter (buffer.frame gst).pts buffer.data).map
          Packet.encode := by
  let state := stateAfter gst program before
  have hpackets := packets_of_call hcarries hprior hok
  have hother : buffer.caps ≠ .other := caps_ne_other hcarries hok buffer (by simp)
  have hview (number : ℕ) := elementary_blocks number
    (muxStep program state (buffer.frame gst)).2
  rw [← hpackets] at hview
  by_cases hvideo : buffer.isVideo = true
  · have hvisible : (buffer.frame gst).isVideo = true := by rw [buffer.isVideo_frame, hvideo]
    have hunit := (observes_video hcarries.separate).outputs_visible state _ trivial hvisible
    refine .inr ⟨state.video, ?_⟩
    rw [GstBuffer.streamPid, streamPid, if_pos hvideo, Program.streamOf, if_pos hvideo, hview,
      ← hcarries.video_pid]
    exact congrArg (List.map Packet.encode) hunit
  · have haudio : buffer.caps = .audioMpeg := by
      cases hcaps : buffer.caps with
      | videoXH264 => simp [GstBuffer.isVideo, hcaps] at hvideo
      | audioMpeg => rfl
      | other => exact absurd hcaps hother
    have hkind : (buffer.frame gst).kind = .audio := by simp [GstBuffer.frame, haudio]
    by_cases hzero : state.packets % 2 ^ 64 = 0
    · refine .inl ⟨haudio, ?_⟩
      rw [hpackets, muxStep_dropped program state hkind hzero]
      rfl
    · refine .inr ⟨state.audio, ?_⟩
      rw [GstBuffer.streamPid, streamPid, if_neg hvideo, Program.streamOf, if_neg hvideo, hview,
        ← hcarries.audio_pid, muxStep_audio program state hkind hzero]
      exact congrArg (List.map Packet.encode) (program.audio.filter_unit_self _ _ _)

end OneCall

end SpTsMuxer.Spts
