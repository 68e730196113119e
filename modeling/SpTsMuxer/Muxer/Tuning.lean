import SpTsMuxer.Muxer.Program
import SpTsMuxer.Schedule.Cut
import SpTsMuxer.Transport.Tuner

/-!
# Tuning In

A receiver that begins anywhere in the stream of a muxer plays from the next IDR frame on.  This
is what the tables in front of each IDR frame are for.  The packets from one PAT up to the next
play the frames of one GOP, whatever a receiver has played before, so that a stream put together
from whole GOPs plays the frames of these GOPs.
-/

namespace SpTsMuxer.Muxer

open Memory Transport Pes Psi Machine Spts Schedule

/-! ## What a receiver gets of a frame -/

/-- An audio frame with a stray byte in front of its start code. -/
def isStray (buffer : GstBuffer) : Bool := buffer.isAudio && buffer.data.length = 169

/-- What a receiver gets of some frames, with their stream types. -/
def shown (buffers : List GstBuffer) : List (ℕ × AccessUnit) :=
  (buffers.filter fun buffer ↦ !isStray buffer).map fun buffer ↦
    (streamTypeOf buffer, buffer.accessUnit)

/-- The PES packet of a frame as a receiver has it. -/
def frameUnitOf (program : Program) (frame : Frame) : OpenUnit where
  streamType := if frame.isAudio then streamTypeAudioAac.toNat else streamTypeVideoH264.toNat
  pid := (frame.stream program).pid
  bytes := (frame.stream program).lead frame.data ++
    (pesHeader (frame.stream program).streamId ((frame.stream program).packetLength frame.data)
      frame.pts ++ frame.data)

/-- A stray byte hides the start code. -/
theorem deliver_frameUnitOf (program : Program) (frame : Frame) :
    (frameUnitOf program frame).deliver =
      if (frame.stream program).lead frame.data = [] then
        some ((frameUnitOf program frame).streamType, frame.accessUnit)
      else none := by
  have hlead : (frame.stream program).lead frame.data = [] ∨
      (frame.stream program).lead frame.data = [0x00] := by
    unfold ElementaryStream.lead
    split_ifs
    · exact .inr rfl
    · exact .inl rfl
  rw [OpenUnit.deliver, frameUnitOf]
  dsimp only
  rcases hlead with hnone | hstray
  · rw [hnone, if_pos rfl, List.nil_append, if_pos ⟨_, rfl⟩, parsePes_pesHeader]
    rfl
  · rw [hstray, if_neg (List.cons_ne_nil _ _), if_neg]
    rintro ⟨tail, htail⟩
    simp [pesHeader] at htail

/-- Packets from which a receiver that is not between the two tables gets some frames. -/
def RendersFrames (program : Program) (map : ProgramMap) (packets : List Packet)
    (frames : List Frame) : Prop :=
  Renders map (packets.map Packet.encode) (frames.map (frameUnitOf program))

theorem RendersFrames.nil (program : Program) (map : ProgramMap) :
    RendersFrames program map [] [] := Renders.nil map

theorem RendersFrames.append {program : Program} {map : ProgramMap}
    (first second : List Packet) (frames frames' : List Frame)
    (hfirst : RendersFrames program map first frames)
    (hsecond : RendersFrames program map second frames') :
    RendersFrames program map (first ++ second) (frames ++ frames') := by
  rw [RendersFrames, List.map_append, List.map_append]
  exact Renders.append hfirst hsecond

theorem distinct_announcedMap (audioFirst : Bool) :
    Distinct (announcedMap audioFirst) pmtPid.toNat where
  programNumber_ne := show programNumber.toNat ≠ 0 by decide
  mapPid_ne := by decide
  streams_ne := by cases audioFirst <;> decide

/-- A packet of each table, and packets of the streams that play the frames of a GOP. -/
def IsGop (program : Program) (map : ProgramMap) (packets : List Packet) (frames : List Frame) :
    Prop :=
  ∃ counter rest, packets = program.pat counter :: program.pmt counter :: rest ∧
    (∀ packet ∈ rest, packet.pid ≠ 0 ∧ packet.pid ≠ pmtPid.toNat) ∧
    Plays map (rest.map Packet.encode) (frames.map (frameUnitOf program))

section Carried

variable {audioFirst : Bool} {program : Program}
  (hcarries : CarriesOut (padSetup audioFirst) true false program)
include hcarries

/-- The stray byte is in front of audio frames of 169 bytes only. -/
theorem lead_frame_iff (gst : UInt64Scale) {buffer : GstBuffer} (hcaps : buffer.caps ≠ .other) :
    ((buffer.frame gst).stream program).lead (buffer.frame gst).data = [] ↔
      isStray buffer = false := by
  change ((buffer.frame gst).stream program).lead buffer.data = [] ↔ _
  rw [Frame.stream, GstBuffer.isAudio_frame gst hcaps, isStray]
  cases haudio : buffer.isAudio with
  | false =>
      have hpcr : program.video.pcr = true := by rw [hcarries.video]; rfl
      simp [ElementaryStream.lead, hpcr]
  | true =>
      rw [if_pos rfl, lead_audio_iff hcarries, Bool.true_and, decide_eq_false_iff_not]

/-- What a receiver gets of the frames of some buffers. -/
theorem filterMap_deliver_frames (gst : UInt64Scale) {buffers : List GstBuffer}
    (hcaps : ∀ buffer ∈ buffers, buffer.caps ≠ .other) :
    ((buffers.map (GstBuffer.frame gst)).map (frameUnitOf program)).filterMap OpenUnit.deliver =
      shown buffers := by
  induction buffers with
  | nil => rfl
  | cons buffer rest ih =>
      have hbuffer := hcaps buffer List.mem_cons_self
      have htail := ih fun other hmem ↦ hcaps other (List.mem_cons_of_mem _ hmem)
      have htype : (frameUnitOf program (buffer.frame gst)).streamType = streamTypeOf buffer := by
        change (if (buffer.frame gst).isAudio = true then _ else _) = _
        rw [GstBuffer.isAudio_frame gst hbuffer, streamTypeOf]
        cases hkind : buffer.caps with
        | videoXH264 => simp [GstBuffer.isAudio, GstBuffer.isVideo, hkind]
        | audioMpeg => simp [GstBuffer.isAudio, GstBuffer.isVideo, hkind]
        | other => exact absurd hkind hbuffer
      have hdeliver := deliver_frameUnitOf program (buffer.frame gst)
      rw [htype, GstBuffer.accessUnit_frame] at hdeliver
      have hlead := lead_frame_iff hcarries gst hbuffer
      by_cases hstray : isStray buffer = true
      · rw [if_neg fun h ↦ Bool.false_ne_true ((hlead.mp h).symm.trans hstray)] at hdeliver
        rw [List.map_cons, List.map_cons, List.filterMap_cons_none hdeliver, htail, shown, shown,
          List.filter_cons_of_neg (by simp [hstray])]
      · have hplain := Bool.eq_false_iff.mpr hstray
        rw [if_pos (hlead.mpr hplain)] at hdeliver
        rw [List.map_cons, List.map_cons, List.filterMap_cons_some hdeliver, htail, shown, shown,
          List.filter_cons_of_pos (by simp [hplain]), List.map_cons]

/-! ## The packets of a frame and of a GOP -/

theorem listed_stream (frame : Frame) :
    Listed (announcedMap audioFirst) (frameUnitOf program frame).streamType
      (frame.stream program).pid := by
  unfold frameUnitOf Frame.stream
  cases frame.isAudio with
  | false =>
      change Listed _ streamTypeVideoH264.toNat program.video.pid
      rw [hcarries.video_pid]
      cases audioFirst <;> exact rfl
  | true =>
      change Listed _ streamTypeAudioAac.toNat program.audio.pid
      rw [hcarries.audio_pid]
      cases audioFirst <;> exact rfl

/-- The packets of a frame play the frame. -/
theorem plays_unit (counter : ℕ) (frame : Frame) :
    Plays (announcedMap audioFirst)
      (((frame.stream program).unit counter frame.pts frame.data).map Packet.encode)
      [frameUnitOf program frame] := by
  let stream := frame.stream program
  let first := (stream.start counter frame.pts frame.data).encode
  let rest := (stream.continuation (counter + 1)
    (frame.data.drop (stream.taken frame.data))).map Packet.encode
  have hpayload := stream.flatMap_payload_unit counter frame.pts frame.data
  have hbytes : Transport.payload first ++ rest.flatMap Transport.payload =
      (frameUnitOf program frame).bytes := by
    rw [Packet.payload_encode, List.flatMap_map]
    simp only [Packet.payload_encode]
    exact hpayload
  have hrest : ∀ packet ∈ rest,
      Transport.pid packet = stream.pid ∧ payloadUnitStartIndicator packet = false := by
    intro raw hmem
    obtain ⟨packet, hpacket, rfl⟩ := List.mem_map.mp hmem
    obtain ⟨hstart, -, hpid, -⟩ := stream.continuation_fields _ _ packet hpacket
    rw [Packet.pid_encode, Packet.payloadUnitStartIndicator_encode]
    exact ⟨hpid, hstart⟩
  have hunit : Plays (announcedMap audioFirst) (first :: rest) [⟨_, stream.pid, _⟩] :=
    Plays.of_unit (listed_stream hcarries frame) (Packet.pid_encode _)
      (Packet.payloadUnitStartIndicator_encode _) hrest
  rw [hbytes] at hunit
  exact hunit

theorem associates_pat (counter : ℕ) :
    Associates (announcedMap audioFirst) pmtPid.toNat (program.pat counter).encode where
  pid := Packet.pid_encode _
  start := Packet.payloadUnitStartIndicator_encode _
  reads := by
    rw [Packet.payload_encode]
    exact readProgramAssociation_pat hcarries

theorem maps_pmt (counter : ℕ) :
    Maps (announcedMap audioFirst) pmtPid.toNat (program.pmt counter).encode where
  pid := Packet.pid_encode _
  start := Packet.payloadUnitStartIndicator_encode _
  reads := by
    rw [Packet.payload_encode]
    exact readProgramMap_pmt hcarries

theorem plays_muxStep_other {state : MuxState} {frame : Frame} (hother : ¬frame.isIdr = true)
    (hpackets : state.packets % 2 ^ 64 ≠ 0) :
    Plays (announcedMap audioFirst) ((muxStep program state frame).2.map Packet.encode)
      [frameUnitOf program frame] := by
  rcases muxStep_cases program state frame with ⟨-, hzero, -⟩ | ⟨counter, hsent, -⟩
  · exact absurd hzero hpackets
  · rw [hsent, if_neg fun hkind ↦ hother (decide_eq_true hkind), List.nil_append]
    exact plays_unit hcarries counter frame

theorem cutAt_muxStep_other {state : MuxState} {frame : Frame} (hother : ¬frame.isIdr = true)
    (rest : List Packet) :
    cutAt (onPid 0) ((muxStep program state frame).2 ++ rest) =
      ((muxStep program state frame).2 ++ (cutAt (onPid 0) rest).1, (cutAt (onPid 0) rest).2) := by
  refine cutAt_append_unmarked (fun packet hmem ↦ ?_) rest
  have hstream := onStream_muxStep hcarries.video_pid hcarries.audio_pid state hother packet.block
    (List.mem_map_of_mem hmem)
  rw [Packet.block_cells, Packet.pid_encode] at hstream
  rw [onPid, decide_eq_true_eq]
  rintro hpid
  rw [hpid] at hstream
  exact absurd hstream (by decide)

/-- An IDR frame ends the packets of the GOP before it with its padding, and begins a GOP. -/
theorem cutAt_muxStep_idr {state : MuxState} {frame : Frame} (hkind : frame.kind = .idr)
    (rest : List Packet) :
    cutAt (onPid 0) ((muxStep program state frame).2 ++ rest) =
      (List.replicate state.missing nullPacket,
        (program.pat state.gops :: program.pmt state.gops ::
          (program.video.unit state.video frame.pts frame.data ++ (cutAt (onPid 0) rest).1)) ::
        (cutAt (onPid 0) rest).2) := by
  have hnull : ∀ packet ∈ List.replicate state.missing nullPacket, ¬onPid 0 packet = true := by
    intro packet hmem
    rw [List.eq_of_mem_replicate hmem]
    decide
  have hunit : ∀ packet ∈ program.pmt state.gops ::
      program.video.unit state.video frame.pts frame.data, ¬onPid 0 packet = true := by
    intro packet hmem
    rw [onPid, decide_eq_true_eq]
    rcases List.mem_cons.mp hmem with rfl | hstream
    · exact (by decide : ¬0x20 = 0)
    · rw [program.video.unit_pid _ _ _ packet hstream]
      exact hcarries.separate.video.1
  rw [muxStep_idr program state hkind, gopFront, List.append_assoc, List.append_assoc,
    cutAt_append_unmarked hnull]
  change (_ ++ (cutAt (onPid 0) (program.pat state.gops :: ((program.pmt state.gops ::
    program.video.unit state.video frame.pts frame.data) ++ rest))).1, _) = _
  rw [cutAt_cons_marked (show onPid 0 (program.pat state.gops) = true from rfl), List.append_nil]
  change (_, (cutAt (onPid 0) (program.pat state.gops :: ((program.pmt state.gops ::
    program.video.unit state.video frame.pts frame.data) ++ rest))).2) = _
  rw [cutAt_cons_marked (show onPid 0 (program.pat state.gops) = true from rfl),
    cutAt_append_unmarked hunit]
  rfl

omit hcarries in
theorem pid_null_ne {count : ℕ} {packet : Packet}
    (hmem : packet ∈ List.replicate count nullPacket) :
    packet.pid ≠ pmtPid.toNat := by
  rw [List.eq_of_mem_replicate hmem]
  decide

theorem pid_muxStep_other {state : MuxState} {frame : Frame} (hother : ¬frame.isIdr = true)
    {packet : Packet} (hmem : packet ∈ (muxStep program state frame).2) :
    packet.pid ≠ pmtPid.toNat := by
  have hstream := onStream_muxStep hcarries.video_pid hcarries.audio_pid state hother packet.block
    (List.mem_map_of_mem hmem)
  rw [Packet.block_cells, Packet.pid_encode] at hstream
  intro hpid
  rw [hpid] at hstream
  exact absurd hstream (by decide)

/-- The packets from a PAT up to the next one are the packets of a GOP. -/
theorem gops_of_run {state : MuxState} {frames : List Frame}
    (hcount : state.packets + ((multiplexer program).run state frames).2.length < 2 ^ 64) :
    (∀ packet ∈ (cutAt (onPid 0) ((multiplexer program).run state frames).2).1,
      packet.pid ≠ pmtPid.toNat) ∧
    (0 < state.packets → Plays (announcedMap audioFirst)
      ((cutAt (onPid 0) ((multiplexer program).run state frames).2).1.map Packet.encode)
      ((cutAt Frame.isIdr frames).1.map (frameUnitOf program))) ∧
    List.Forall₂ (IsGop program (announcedMap audioFirst))
      (cutAt (onPid 0) ((multiplexer program).run state frames).2).2
      (cutAt Frame.isIdr frames).2 := by
  induction frames generalizing state with
  | nil => exact ⟨fun _ h ↦ absurd h List.not_mem_nil, fun _ ↦ Plays.nil _, .nil⟩
  | cons frame rest ih =>
      have hpackets := packets_muxStep program state frame
      rw [packets_run_cons] at hcount
      obtain ⟨hpids, hlead, hgroups⟩ := ih hcount
      rw [Mealy.run_cons_snd]
      change (∀ packet ∈ (cutAt (onPid 0) ((muxStep program state frame).2 ++ _)).1, _) ∧
        (_ → Plays _ ((cutAt (onPid 0) ((muxStep program state frame).2 ++ _)).1.map _) _) ∧
        List.Forall₂ _ (cutAt (onPid 0) ((muxStep program state frame).2 ++ _)).2 _
      by_cases hidr : frame.isIdr = true
      · have hkind : frame.kind = .idr := of_decide_eq_true hidr
        have hvideo : frame.kind ≠ .audio := by rw [hkind]; decide
        have hunit := plays_unit hcarries state.video frame
        rw [Frame.stream_of_video hvideo] at hunit
        have hplays := hunit.append (hlead (packets_pos_of_video hvideo))
        rw [← List.map_append] at hplays
        rw [cutAt_muxStep_idr hcarries hkind, cutAt_cons_marked hidr]
        refine ⟨fun packet hmem ↦ pid_null_ne hmem,
          fun _ ↦ Plays.of_unlisted fun raw hmem stream hstream ↦ ?_,
          .cons ⟨state.gops, _, rfl, fun packet hmem ↦ ?_, hplays⟩ hgroups⟩
        · obtain ⟨packet, hpacket, rfl⟩ := List.mem_map.mp hmem
          rw [List.eq_of_mem_replicate hpacket, Packet.pid_encode]
          revert stream
          cases audioFirst <;> decide
        · rcases List.mem_append.mp hmem with hvideo | htail
          · rw [program.video.unit_pid _ _ _ packet hvideo]
            exact ⟨hcarries.separate.video.1, hcarries.separate.video.2.1⟩
          · exact ⟨fun hpid ↦ not_mark_of_mem_lead htail (decide_eq_true hpid),
              hpids packet htail⟩
      · rw [cutAt_muxStep_other hcarries hidr, cutAt_cons_unmarked hidr, List.map_append]
        refine ⟨fun packet hmem ↦ ?_, fun hpos ↦ ?_, hgroups⟩
        · rcases List.mem_append.mp hmem with hframe | htail
          · exact pid_muxStep_other hcarries hidr hframe
          · exact hpids packet htail
        · have hframe : Plays (announcedMap audioFirst)
              ((muxStep program state frame).2.map Packet.encode) [frameUnitOf program frame] :=
            plays_muxStep_other hcarries hidr (by omega)
          exact hframe.append (hlead (by omega))

/-- A GOP plays its frames, whatever a receiver has played before. -/
theorem IsGop.renders {packets : List Packet} {frames : List Frame}
    (h : IsGop program (announcedMap audioFirst) packets frames) :
    RendersFrames program (announcedMap audioFirst) packets frames := by
  obtain ⟨counter, rest, rfl, -, hplays⟩ := h
  exact Renders.of_tables (distinct_announcedMap audioFirst) (associates_pat hcarries counter)
    (maps_pmt hcarries counter) hplays

end Carried

/-! ## From the packets of a run -/

/-- Packets at which a receiver can begin. -/
def isPat (packet : TsPacket) : Bool := Transport.pid packet.cells = patPid.toNat

theorem isPat_block : (fun packet : Packet ↦ isPat packet.block) = onPid 0 := by
  funext packet
  rw [isPat, Packet.block_cells, Packet.pid_encode]
  rfl

theorem isIdr_frame (gst : UInt64Scale) :
    (fun buffer ↦ Frame.isIdr (GstBuffer.frame gst buffer)) = GstBuffer.isIdr :=
  funext fun buffer ↦ GstBuffer.isIdr_frame gst buffer

section Runs

variable {gst : UInt64Scale} {results : List TsPacket → Bool} {audioFirst : Bool}
  {buffers : List GstBuffer} {packets : List TsPacket}
  (hok : muxedPackets gst results (padOrder audioFirst) buffers = .ok packets)
  (hcount : packets.length < 2 ^ 64)
include hok hcount

theorem exists_gops :
    ∃ program, CarriesOut (padSetup audioFirst) true false program ∧
      (∀ buffer ∈ buffers, buffer.caps ≠ .other) ∧ ∃ groups : List (List Packet),
        (cutAt isPat packets).2 = groups.map (List.map Packet.block) ∧
        List.Forall₂ (IsGop program (announcedMap audioFirst)) groups
          ((cutAt GstBuffer.isIdr buffers).2.map (List.map (GstBuffer.frame gst))) := by
  obtain ⟨program, hcarries⟩ := (padSetup audioFirst).exists_carriesOut true false
  rw [muxedPackets_eq] at hok
  refine ⟨program, hcarries, caps_ne_other hcarries hok,
    (cutAt (onPid 0) (outputsOf gst program buffers)).2, ?_, ?_⟩
  · rw [hcarries.written gst results buffers packets hok, cutAt_map, isPat_block]
  · rw [hcarries.written gst results buffers packets hok, List.length_map] at hcount
    have hrun : MuxState.initial.packets +
        ((multiplexer program).run .initial (buffers.map (GstBuffer.frame gst))).2.length <
          2 ^ 64 := by
      rw [MuxState.initial, Nat.zero_add]
      exact hcount
    obtain ⟨-, -, hgops⟩ := gops_of_run hcarries hrun
    rw [cutAt_map, isIdr_frame] at hgops
    exact hgops

theorem watch_choose :
    (cutAt isPat packets).2.length = (cutAt GstBuffer.isIdr buffers).2.length ∧
      ∀ order, watch ((choose (cutAt isPat packets).2 order).flatMap Block.cells) =
        shown (choose (cutAt GstBuffer.isIdr buffers).2 order) := by
  obtain ⟨program, hcarries, hcaps, groups, hgroups, hgops⟩ := exists_gops hok hcount
  have hrendered := hgops.imp fun packets frames hgop ↦ IsGop.renders hcarries hgop
  rw [hgroups]
  refine ⟨?_, fun order ↦ ?_⟩
  · have hlength := hrendered.length_eq
    rw [List.length_map] at hlength
    rw [List.length_map]
    exact hlength
  · have hchosen := choose_of_forall₂ (RendersFrames.nil program _) RendersFrames.append hrendered
      order
    rw [choose_map] at hchosen
    rw [choose_map]
    have hrenders : Renders (announcedMap audioFirst)
        (((choose groups order).map Packet.block).map Block.cells)
        (((choose (cutAt GstBuffer.isIdr buffers).2 order).map (GstBuffer.frame gst)).map
          (frameUnitOf program)) := by
      rw [List.map_map]
      exact hchosen
    rw [hrenders.watch_eq]
    exact filterMap_deliver_frames hcarries gst fun buffer hmem ↦
      hcaps buffer (mem_of_mem_choose hmem)

theorem watch_groups_drop (number : ℕ) :
    watch (((cutAt isPat packets).2.drop number).flatten.flatMap Block.cells) =
      shown ((cutAt GstBuffer.isIdr buffers).2.drop number).flatten := by
  obtain ⟨hlength, hchoose⟩ := watch_choose hok hcount
  rw [← choose_range', hlength, hchoose, choose_range']

/-- A receiver that begins between two packets gets the GOPs whose PAT is still to come. -/
theorem watch_drop (skipped : ℕ) :
    watch ((packets.flatMap Block.cells).drop (188 * skipped)) =
      shown ((cutAt GstBuffer.isIdr buffers).2.drop
        ((packets.take skipped).filter isPat).length).flatten := by
  have hsplit := append_flatten_cutAt isPat (packets.drop skipped)
  have hwait : ∀ block ∈ (cutAt isPat (packets.drop skipped)).1, Transport.pid block.cells ≠ 0 :=
    fun block hmem hpid ↦ not_mark_of_mem_lead hmem (decide_eq_true hpid)
  calc
    _ = watch ((packets.drop skipped).flatMap Block.cells) := by
      rw [drop_flatMap_cells]
    _ = watch ((cutAt isPat (packets.drop skipped)).2.flatten.flatMap Block.cells) := by
      conv_lhs => rw [← hsplit]
      exact watch_append_of_waiting hwait _
    _ = _ := by
      rw [groups_drop, watch_groups_drop hok hcount]

end Runs

/-! ## How many packets there can be -/

/-- Runs over frames that are neither too long nor too many. -/
theorem exists_muxedPackets (gst : UInt64Scale) (results : List TsPacket → Bool)
    (audioFirst : Bool) {buffers : List GstBuffer} {bound : ℕ}
    (hcaps : ∀ buffer ∈ buffers, buffer.caps ≠ .other)
    (hsize : ∀ buffer ∈ buffers, buffer.data.length ≤ bound) (hbound : bound < 2 ^ 32 - 22)
    (hcount : buffers.length * (2102 * buffers.length + bound + 3) < 2 ^ 64) :
    ∃ packets, muxedPackets gst results (padOrder audioFirst) buffers = .ok packets ∧
      packets.length < 2 ^ 64 := by
  rw [muxedPackets_eq]
  exact exists_writtenPackets gst results _ true false hcaps hsize hbound hcount

/-! ## Main results -/

/-- A receiver can tune in anywhere. If it begins between any two packets of the stream, it gets all
frames from the next IDR frame on whose PAT is still to come, each with its stream type, time stamp
and data, in the order in which they were written; only audio frames of 169 bytes are missing. -/
theorem tune_in_anywhere (gst : UInt64Scale) (results : List TsPacket → Bool) (audioFirst : Bool)
    {buffers : List GstBuffer} {packets : List TsPacket}
    (hok : muxedPackets gst results (padOrder audioFirst) buffers = .ok packets)
    (hcount : packets.length < 2 ^ 64) (skipped : ℕ) :
    watch ((packets.flatMap Block.cells).drop (188 * skipped)) =
      shown ((cutAt GstBuffer.isIdr buffers).2.drop
        ((packets.take skipped).filter isPat).length).flatten :=
  watch_drop hok hcount skipped

theorem exists_muxed_twoGops :
    ∃ packets, muxedPackets gstUtilUint64Scale (fun _ ↦ true) (padOrder false) twoGops =
      .ok packets ∧ packets.length < 2 ^ 64 := by
  have hsize : ∀ buffer ∈ twoGops, buffer.data.length ≤ 1 := by decide
  exact exists_muxedPackets _ _ false (by decide) hsize (by decide) (by decide)

theorem tune_in_anywhere_twoGops :
    ∃ packets, muxedPackets gstUtilUint64Scale (fun _ ↦ true) (padOrder false) twoGops =
      .ok packets ∧
      watch ((packets.flatMap Block.cells).drop (188 * 0)) =
        [(0x1b, ⟨some 90000, [1]⟩), (0x0f, ⟨some 90000, [2]⟩), (0x1b, ⟨some 180000, [3]⟩)] := by
  obtain ⟨packets, hok, hcount⟩ := exists_muxed_twoGops
  exact ⟨packets, hok, tune_in_anywhere _ _ false hok hcount 0⟩

/-- GOPs play by themselves, in any order. There are as many PATs as IDR frames. The packets from a
PAT up to the next one are a stream of their own, and any of these streams, one behind the other, in
any order and any number of times, play the frames of their GOPs, but for audio frames of 169
bytes. -/
theorem gops_play_in_any_order (gst : UInt64Scale) (results : List TsPacket → Bool)
    (audioFirst : Bool) {buffers : List GstBuffer} {packets : List TsPacket}
    (hok : muxedPackets gst results (padOrder audioFirst) buffers = .ok packets)
    (hcount : packets.length < 2 ^ 64) :
    (cutAt isPat packets).2.length = (cutAt GstBuffer.isIdr buffers).2.length ∧
      ∀ order, watch ((choose (cutAt isPat packets).2 order).flatMap Block.cells) =
        shown (choose (cutAt GstBuffer.isIdr buffers).2 order) :=
  watch_choose hok hcount

/-- The second GOP twice, then the first one. -/
theorem gops_play_in_any_order_twoGops :
    ∃ packets, muxedPackets gstUtilUint64Scale (fun _ ↦ true) (padOrder false) twoGops =
      .ok packets ∧
      watch ((choose (cutAt isPat packets).2 [1, 1, 0]).flatMap Block.cells) =
        [(0x1b, ⟨some 180000, [3]⟩), (0x1b, ⟨some 180000, [3]⟩), (0x1b, ⟨some 90000, [1]⟩),
          (0x0f, ⟨some 90000, [2]⟩)] := by
  obtain ⟨packets, hok, hcount⟩ := exists_muxed_twoGops
  exact ⟨packets, hok,
    (gops_play_in_any_order _ _ false hok hcount).2 [1, 1, 0]⟩

end SpTsMuxer.Muxer
