import SpTsMuxer.Muxer.Pads
import SpTsMuxer.Spts.Conformance
import SpTsMuxer.Spts.Index
import SpTsMuxer.Spts.Interference
import SpTsMuxer.Spts.Receiver

/-!
# The Tables Describe the Stream

A receiver looks for the program in the packets on PID 0, for its map on the PID found there, and
for the streams and the clock on the PIDs of the map.  In every run of a muxer with one video and
one audio pad it finds them, and what it finds is all there is.
-/

namespace SpTsMuxer.Muxer

open Memory Transport Pes Psi Machine Spts

/-! ## What a receiver finds -/

/-- Tables that lead a receiver from PID 0 to `map`, on the PID `mapPid`, and from there to every
other packet but the null packets. -/
structure ReadsProgram (map : ProgramMap) (mapPid : ℕ) (packets : List TsPacket) : Prop where
  association : ∀ packet ∈ packets, Transport.pid packet.cells = 0 →
    payloadUnitStartIndicator packet.cells = true ∧
      readProgramAssociation (Transport.payload packet.cells) = some [(map.programNumber, mapPid)]
  programMap : ∀ packet ∈ packets, Transport.pid packet.cells = mapPid →
    payloadUnitStartIndicator packet.cells = true ∧
      readProgramMap (Transport.payload packet.cells) = some map
  clock : ∀ packet ∈ packets, (programClockReference packet.cells).isSome = true →
    Transport.pid packet.cells = map.pcrPid
  listed : ∀ packet ∈ packets, Transport.pid packet.cells = 0 ∨
    Transport.pid packet.cells = mapPid ∨ packet = nullPacket.block ∨
    ∃ stream ∈ map.streams, Transport.pid packet.cells = stream.2

/-- The stream type of the data in a buffer. -/
def streamTypeOf (buffer : GstBuffer) : ℕ :=
  if buffer.isVideo then streamTypeVideoH264.toNat else streamTypeAudioAac.toNat

/-- The packets of one call carry their frame, behind a header of at most 15 bytes, on the PID that
the map lists for its type, unless the frame is audio and nothing is sent.  All other packets of
the call are tables or null packets. -/
def CarriesFrame (map : ProgramMap) (mapPid : ℕ) (buffer : GstBuffer) (call : List TsPacket) :
    Prop :=
  ∃ streamPid, (streamTypeOf buffer, streamPid) ∈ map.streams ∧
    (∀ packet ∈ call, Transport.pid packet.cells = streamPid ∨
      Transport.pid packet.cells = 0 ∨ Transport.pid packet.cells = mapPid ∨
      packet = nullPacket.block) ∧
    ((buffer.caps = .audioMpeg ∧ call = []) ∨
      ∃ front, front.length ≤ 15 ∧
        (elementary streamPid call).flatMap Transport.payload = front ++ buffer.data)

/-! ## What the muxer announces -/

/-- The map of the program of a muxer with one video and one audio pad. -/
def announcedMap (audioFirst : Bool) : ProgramMap where
  programNumber := programNumber.toNat
  pcrPid := videoPid.toNat
  streams :=
    if audioFirst then
      [(streamTypeAudioAac.toNat, audioPid.toNat), (streamTypeVideoH264.toNat, videoPid.toNat)]
    else
      [(streamTypeVideoH264.toNat, videoPid.toNat), (streamTypeAudioAac.toNat, audioPid.toNat)]

theorem requestedMap_padSetup (audioFirst : Bool) :
    requestedMap programNumber (padSetup audioFirst).pmtOps = announcedMap audioFirst := by
  cases audioFirst <;> rfl

theorem announcedMap_fits (audioFirst : Bool) : (announcedMap audioFirst).Fits := by
  cases audioFirst with
  | false => exact ⟨by decide, by decide, by decide, by decide⟩
  | true => exact ⟨by decide, by decide, by decide, by decide⟩

theorem mem_announcedMap (audioFirst : Bool) :
    (streamTypeVideoH264.toNat, videoPid.toNat) ∈ (announcedMap audioFirst).streams ∧
      (streamTypeAudioAac.toNat, audioPid.toNat) ∈ (announcedMap audioFirst).streams := by
  cases audioFirst <;> decide

theorem length_tableMachine_run (table : ℕ → Packet) (counter : ℕ) (frames : List Frame) :
    ((tableMachine table).run counter frames).2.length = (frames.filter Frame.isIdr).length := by
  induction frames generalizing counter with
  | nil => rfl
  | cons frame rest ih =>
      rw [Mealy.run_cons_snd, List.length_append, ih]
      by_cases hidr : frame.kind = .idr
      · simp [tableMachine, Frame.isIdr, hidr, Nat.add_comm]
      · simp [tableMachine, Frame.isIdr, hidr]

section Runs

variable {gst : UInt64Scale} {results : List TsPacket → Bool} {audioFirst : Bool}
  {program : Program} (hcarries : CarriesOut (padSetup audioFirst) true false program)
  {buffers : List GstBuffer} {packets : List TsPacket}
  (hok : writtenPackets gst results (padSetup audioFirst) true false buffers = .ok packets)
include hcarries

theorem readProgramAssociation_pat :
    readProgramAssociation program.patPayload = some [(programNumber.toNat, pmtPid.toNat)] := by
  rw [hcarries.patPayload]
  exact readProgramAssociation_payload rfl (by decide) (by decide) rfl (by decide)

theorem readProgramMap_pmt :
    readProgramMap program.pmtPayload = some (announcedMap audioFirst) := by
  have hops : (padSetup audioFirst).pmtOps ≠ [] := by
    intro hnil
    have hlength := congrArg List.length hnil
    simp [padSetup] at hlength
  rw [hcarries.pmtPayload hops, requestedMap_padSetup]
  exact readProgramMap_payload _ (announcedMap_fits audioFirst)

include hok

/-- A receiver finds the program in every run. -/
theorem readsProgram : ReadsProgram (announcedMap audioFirst) pmtPid.toNat packets := by
  have hseparate := hcarries.separate
  have hemitted := hcarries.exists_emitted hok
  constructor
  · intro packet hmem hpid
    obtain ⟨origin, horigin, rfl⟩ := hemitted packet hmem
    rw [Packet.block_cells, Packet.pid_encode] at hpid
    obtain ⟨counter, rfl⟩ := eq_pat_of_emitted hseparate horigin hpid
    rw [Packet.block_cells, Packet.payloadUnitStartIndicator_encode, Packet.payload_encode]
    exact ⟨rfl, readProgramAssociation_pat hcarries⟩
  · intro packet hmem hpid
    obtain ⟨origin, horigin, rfl⟩ := hemitted packet hmem
    rw [Packet.block_cells, Packet.pid_encode] at hpid
    obtain ⟨counter, rfl⟩ := eq_pmt_of_emitted hseparate horigin hpid
    rw [Packet.block_cells, Packet.payloadUnitStartIndicator_encode, Packet.payload_encode]
    exact ⟨rfl, readProgramMap_pmt hcarries⟩
  · intro packet hmem hclock
    obtain ⟨origin, horigin, rfl⟩ := hemitted packet hmem
    rw [Packet.block_cells, Packet.programClockReference_encode] at hclock
    rw [Packet.block_cells, Packet.pid_encode]
    exact ((pcr_isSome_iff hcarries.video hcarries.audio horigin).mp hclock).1
  · intro packet hmem
    rcases pid_or_nullPacket hcarries hok packet hmem with hpid | hnull
    · simp only [List.mem_cons, List.not_mem_nil, or_false] at hpid
      rcases hpid with hvideo | haudio | hpat | hpmt
      · exact .inr (.inr (.inr ⟨_, (mem_announcedMap audioFirst).1, hvideo⟩))
      · exact .inr (.inr (.inr ⟨_, (mem_announcedMap audioFirst).2, haudio⟩))
      · exact .inl hpat
      · exact .inr (.inl hpmt)
    · exact .inr (.inr (.inl hnull))

theorem length_elementary_table {number : ℕ} {table : ℕ → Packet}
    (htable : program.HasTable number table) :
    (elementary number packets).length = (buffers.filter GstBuffer.isIdr).length := by
  have hvideo : (buffers.filter GstBuffer.isVideo).filter GstBuffer.isIdr =
      buffers.filter GstBuffer.isIdr := by
    rw [List.filter_filter]
    apply List.filter_congr
    intro buffer _
    cases hkind : buffer.isVideo <;> simp [GstBuffer.isIdr, hkind]
  let frames := (buffers.filter GstBuffer.isVideo).map (GstBuffer.frame gst)
  calc
    (elementary number packets).length = ((tableMachine table).run 0 frames).2.length := by
      rw [elementary_of_observes hcarries hok (observes_table htable), List.length_map]
      rfl
    _ = (frames.filter Frame.isIdr).length := length_tableMachine_run table 0 frames
    _ = ((buffers.filter GstBuffer.isVideo).filter GstBuffer.isIdr).length :=
      length_filter_isIdr gst _
    _ = (buffers.filter GstBuffer.isIdr).length := by
      rw [hvideo]

omit hok in
/-- The data of a call is on the PID that the map lists. -/
theorem carriesFrame_muxStep (gst : UInt64Scale) {buffer : GstBuffer}
    (hcaps : buffer.caps ≠ .other) (state : MuxState) :
    CarriesFrame (announcedMap audioFirst) pmtPid.toNat buffer
      ((muxStep program state (buffer.frame gst)).2.map Packet.block) := by
  have hseparate := hcarries.separate
  have hpid := pid_stream_frame gst hcarries hcaps
  refine ⟨buffer.streamPid, ?_, ?_, ?_⟩
  · unfold streamTypeOf GstBuffer.streamPid streamPid
    split_ifs
    · exact (mem_announcedMap audioFirst).1
    · exact (mem_announcedMap audioFirst).2
  · intro raw hmem
    obtain ⟨packet, hpacket, rfl⟩ := List.mem_map.mp hmem
    rw [Packet.block_cells, Packet.pid_encode]
    rcases mem_muxStep hpacket with hfront | hstream
    · rcases List.mem_append.mp hfront with hnull | htables
      · rw [List.eq_of_mem_replicate hnull]
        exact .inr (.inr (.inr rfl))
      · rw [List.mem_cons, List.mem_singleton] at htables
        rcases htables with rfl | rfl
        · exact .inr (.inl rfl)
        · exact .inr (.inr (.inl rfl))
    · exact .inl (hstream.trans hpid)
  · rcases filter_muxStep hseparate state (buffer.frame gst) with
      ⟨hkind, hnil⟩ | ⟨counter, hunit⟩
    · rw [GstBuffer.isAudio_frame gst hcaps] at hkind
      exact .inl ⟨of_decide_eq_true hkind, by rw [hnil]; rfl⟩
    · let stream := (buffer.frame gst).stream program
      have hlead : (stream.lead buffer.data).length ≤ 1 := by
        unfold ElementaryStream.lead
        split_ifs <;> simp
      refine .inr ⟨stream.lead buffer.data ++ pesHeader stream.streamId
        (stream.packetLength buffer.data) (buffer.frame gst).pts, ?_, ?_⟩
      · rw [List.length_append, length_pesHeader]
        omega
      · rw [hpid] at hunit
        calc
          _ = (stream.unit counter (buffer.frame gst).pts buffer.data).flatMap Packet.payload := by
            rw [elementary_blocks, hunit, List.flatMap_map]
            simp only [Packet.payload_encode]
            rfl
          _ = _ := by
            rw [stream.flatMap_payload_unit, List.append_assoc]

end Runs

/-- The tables describe the stream. A muxer with one video and one audio pad, requested in either
order, writes every sequence of frames of the two kinds, none of them too long. In every run a
receiver finds the program with both streams and the clock on video, in as many packets as there are
IDR frames; and each call sends its frame on the PID that the map lists for it. -/
theorem psi_describes_stream (gst : UInt64Scale) (results : List TsPacket → Bool)
    (audioFirst : Bool) (buffers : List GstBuffer) :
    ((∀ buffer ∈ buffers, buffer.caps ≠ .other) →
      (∀ buffer ∈ buffers, buffer.data.length < 2 ^ 32 - 22) →
      ∃ packets, muxedPackets gst results (padOrder audioFirst) buffers = .ok packets) ∧
    ∀ packets, muxedPackets gst results (padOrder audioFirst) buffers = .ok packets →
      ReadsProgram (announcedMap audioFirst) pmtPid.toNat packets ∧
      (elementary patPid.toNat packets).length = (buffers.filter GstBuffer.isIdr).length ∧
      (elementary pmtPid.toNat packets).length = (buffers.filter GstBuffer.isIdr).length ∧
      ∀ before buffer after, buffers = before ++ buffer :: after →
        ∃ earlier call,
          muxedPackets gst results (padOrder audioFirst) before = .ok earlier ∧
          muxedPackets gst results (padOrder audioFirst) (before ++ [buffer]) =
            .ok (earlier ++ call) ∧
          CarriesFrame (announcedMap audioFirst) pmtPid.toNat buffer call := by
  obtain ⟨program, hcarries⟩ := (padSetup audioFirst).exists_carriesOut true false
  have hseparate := hcarries.separate
  simp only [muxedPackets_eq]
  refine ⟨fun hcaps hsize ↦ ⟨_, hcarries.written_of_length gst results hcaps hsize⟩, ?_⟩
  intro packets hok
  refine ⟨readsProgram hcarries hok, length_elementary_table hcarries hok (hasTable_pat hseparate),
    length_elementary_table hcarries hok (hasTable_pmt hseparate), ?_⟩
  rintro before buffer after rfl
  have hcaps : buffer.caps ≠ .other := caps_ne_other hcarries hok buffer (by simp)
  have hwhole : writtenPackets gst results (padSetup audioFirst) true false
      ((before ++ [buffer]) ++ after) = .ok packets := by
    rw [List.append_assoc]
    exact hok
  refine ⟨_, _, hcarries.written_prefix hok, ?_,
    carriesFrame_muxStep hcarries gst hcaps (stateAfter gst program before)⟩
  rw [hcarries.written_prefix hwhole, outputsOf_concat, List.map_append]

/-- A video frame of three bytes, then an audio frame of one, with the audio pad first. -/
theorem psi_describes_stream_two_frames :
    ∃ packets, muxedPackets gstUtilUint64Scale (fun _ ↦ true) [.audio, .video]
        [⟨.videoXH264, false, 1000000000, [1, 2, 3], by decide⟩,
          ⟨.audioMpeg, false, 1000000000, [4], by decide⟩] = .ok packets ∧
      ReadsProgram (announcedMap true) pmtPid.toNat packets ∧
      (elementary pmtPid.toNat packets).length = 1 := by
  let video : GstBuffer := ⟨.videoXH264, false, 1000000000, [1, 2, 3], by decide⟩
  let audio : GstBuffer := ⟨.audioMpeg, false, 1000000000, [4], by decide⟩
  obtain ⟨hexists, hruns⟩ :=
    psi_describes_stream gstUtilUint64Scale (fun _ ↦ true) true [video, audio]
  obtain ⟨packets, hok⟩ := hexists (by decide) (by decide)
  obtain ⟨hreads, -, hlength, -⟩ := hruns packets hok
  exact ⟨packets, hok, hreads, hlength⟩

end SpTsMuxer.Muxer
