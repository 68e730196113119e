import SpTsMuxer.Spts.Observation
import SpTsMuxer.Transport.WellFormed

/-!
# The Packets of One Call

Every packet handed on is well formed.  A call of `spts_write_frame` hands on null packets and
tables, which are always the same but for their counters, and the unit of its frame: one packet
that starts the unit and others that do not, whose bytes after the header depend on the frame
alone.
-/

namespace SpTsMuxer.Spts

open Memory Transport Pes Psi Machine

/-! ## Bytes after the header -/

theorem map_body_continuation (stream : ElementaryStream) (counter other : ℕ)
    (data : List UInt8) :
    (stream.continuation counter data).map Packet.body =
      (stream.continuation other data).map Packet.body := by
  fun_induction ElementaryStream.continuation stream counter data generalizing other with
  | case1 => simp
  | case2 counter data hdata ih =>
      rw [stream.continuation_of_ne_nil other hdata, List.map_cons, List.map_cons,
        ih (other + 1)]
      rfl

theorem map_body_unit (stream : ElementaryStream) (counter other pts : ℕ) (data : List UInt8) :
    (stream.unit counter pts data).map Packet.body =
      (stream.unit other pts data).map Packet.body := by
  rw [ElementaryStream.unit, ElementaryStream.unit, List.map_cons, List.map_cons,
    map_body_continuation stream (counter + 1) (other + 1)]
  rfl

/-- The bytes after the header of the packets that no stream sends. -/
def Program.tableBody (program : Program) (number : ℕ) : List UInt8 :=
  if number = 0 then program.patPayload
  else if number = 0x20 then program.pmtPayload
  else List.replicate 184 0xff

theorem body_of_full {packet : Packet} (hpcr : packet.pcr = none)
    (hfull : packet.payload.length = 184) : packet.body = packet.payload :=
  congrArg (List.drop 4) (packet.encode_full hpcr hfull)

theorem body_of_emitted {program : Program} (hseparate : program.Separate) {packet : Packet}
    (h : Emitted program packet)
    (hpid : packet.pid = 0 ∨ packet.pid = 0x20 ∨ packet.pid = 0x1fff) :
    packet.body = program.tableBody packet.pid := by
  rcases hpid with hpat | hpmt | hnull
  · obtain ⟨counter, rfl⟩ := eq_pat_of_emitted hseparate h hpat
    exact body_of_full rfl program.length_patPayload
  · obtain ⟨counter, rfl⟩ := eq_pmt_of_emitted hseparate h hpmt
    exact body_of_full rfl program.length_pmtPayload
  · rw [eq_nullPacket_of_emitted hseparate h hnull]
    exact body_of_full rfl List.length_replicate

/-! ## One step -/

/-- The stream that a frame belongs to. -/
def Frame.stream (program : Program) (frame : Frame) : ElementaryStream :=
  if frame.isAudio then program.audio else program.video

theorem Frame.stream_of_video {program : Program} {frame : Frame} (h : frame.kind ≠ .audio) :
    frame.stream program = program.video := by
  refine if_neg fun haudio ↦ h ?_
  exact of_decide_eq_true haudio

theorem Frame.stream_of_audio {program : Program} {frame : Frame} (h : frame.kind = .audio) :
    frame.stream program = program.audio :=
  if_pos (decide_eq_true h)

/-- A step drops its frame, or sends the unit of the frame behind the front of the GOP that it
begins, and counts the packets of the unit on a stream. -/
theorem muxStep_cases (program : Program) (state : MuxState) (frame : Frame) :
    (frame.kind = .audio ∧ state.packets % 2 ^ 64 = 0 ∧
        muxStep program state frame = (state, [])) ∨
      ∃ counter,
        let unit := (frame.stream program).unit counter frame.pts frame.data
        (muxStep program state frame).2 =
            (if frame.kind = .idr then gopFront program state else []) ++ unit ∧
          (muxStep program state frame).1.video + (muxStep program state frame).1.audio =
            state.video + state.audio + unit.length := by
  cases hkind : frame.kind with
  | idr =>
      rw [Frame.stream_of_video (by rw [hkind]; decide), muxStep_idr program state hkind]
      exact .inr ⟨state.video, rfl, Nat.add_right_comm _ _ _⟩
  | delta =>
      rw [Frame.stream_of_video (by rw [hkind]; decide), muxStep_delta program state hkind]
      exact .inr ⟨state.video, rfl, Nat.add_right_comm _ _ _⟩
  | audio =>
      by_cases hpackets : state.packets % 2 ^ 64 = 0
      · exact .inl ⟨rfl, hpackets, muxStep_dropped program state hkind hpackets⟩
      · rw [Frame.stream_of_audio hkind, muxStep_audio program state hkind hpackets]
        exact .inr ⟨state.audio, rfl, (Nat.add_assoc _ _ _).symm⟩

theorem mem_muxStep {program : Program} {state : MuxState} {frame : Frame} {packet : Packet}
    (hmem : packet ∈ (muxStep program state frame).2) :
    packet ∈ gopFront program state ∨ packet.pid = (frame.stream program).pid := by
  rcases muxStep_cases program state frame with ⟨-, -, hdropped⟩ | ⟨counter, hsent, -⟩
  · rw [hdropped] at hmem
    exact absurd hmem List.not_mem_nil
  · rw [hsent] at hmem
    rcases List.mem_append.mp hmem with hfront | hunit
    · exact .inl (List.mem_ite_nil_right.mp hfront).2
    · exact .inr ((frame.stream program).unit_pid _ _ _ packet hunit)

/-- In front of a GOP exactly the tables start a unit. -/
theorem unitStart_gopFront {program : Program} {state : MuxState} {packet : Packet}
    (hmem : packet ∈ gopFront program state) :
    packet.unitStart = true ↔ packet.pid = 0 ∨ packet.pid = 0x20 := by
  rcases List.mem_append.mp hmem with hnull | htables
  · rw [List.eq_of_mem_replicate hnull]
    decide
  · rw [List.mem_cons, List.mem_singleton] at htables
    rcases htables with rfl | rfl
    · simp [Program.pat]
    · simp [Program.pmt]

/-- On the PID of a frame a step emits the unit of the frame, unless the frame is dropped. -/
theorem filter_muxStep {program : Program} (hseparate : program.Separate) (state : MuxState)
    (frame : Frame) :
    (frame.isAudio = true ∧ (muxStep program state frame).2 = []) ∨
      ∃ counter, (muxStep program state frame).2.filter (onPid (frame.stream program).pid) =
        (frame.stream program).unit counter frame.pts frame.data := by
  rcases muxStep_cases program state frame with ⟨haudio, -, hdropped⟩ | ⟨counter, hsent, -⟩
  · exact .inl ⟨decide_eq_true haudio, congrArg Prod.snd hdropped⟩
  · have hfront : (if frame.kind = .idr then gopFront program state else []).filter
        (onPid (frame.stream program).pid) = [] := by
      split_ifs
      · exact filter_gopFront (hseparate.of_stream (ite_eq_or_eq _ _ _).symm) program state
      · rfl
    rw [hsent, List.filter_append, hfront, List.nil_append]
    exact .inr ⟨counter, ElementaryStream.filter_unit_self _ _ _ _⟩

/-! ## One call -/

theorem pid_stream_frame (gst : UInt64Scale) {setup : Setup} {videoPcr audioPcr : Bool}
    {program : Program} (hcarries : CarriesOut setup videoPcr audioPcr program)
    {buffer : GstBuffer} (hcaps : buffer.caps ≠ .other) :
    ((buffer.frame gst).stream program).pid = buffer.streamPid := by
  rw [Frame.stream, GstBuffer.isAudio_frame gst hcaps, GstBuffer.streamPid, streamPid,
    hcarries.video, hcarries.audio]
  cases hkind : buffer.caps with
  | videoXH264 => simp [GstBuffer.isAudio, GstBuffer.isVideo, hkind, ElementaryStream.h264]
  | audioMpeg => simp [GstBuffer.isAudio, GstBuffer.isVideo, hkind, ElementaryStream.aac]
  | other => exact absurd hkind hcaps

/-- The packets of one frame: on its PID one packet that starts the unit and others that do not,
with these bytes after their headers; of the other packets the tables start units. -/
structure FramePackets (number : ℕ) (bodies : List (List UInt8)) (packets : List TsPacket) :
    Prop where
  starts : ∃ first rest, elementary number packets = first :: rest ∧
    payloadUnitStartIndicator first = true ∧
    ∀ packet ∈ rest, payloadUnitStartIndicator packet = false
  bodies : (elementary number packets).map (List.drop 4) = bodies
  others : ∀ packet ∈ packets, Transport.pid packet.cells ≠ number →
    (payloadUnitStartIndicator packet.cells = true ↔
      Transport.pid packet.cells = 0 ∨ Transport.pid packet.cells = 0x20)

theorem framePackets_muxStep {program : Program} {state : MuxState} {frame : Frame} {counter : ℕ}
    (hunit : (muxStep program state frame).2.filter (onPid (frame.stream program).pid) =
      (frame.stream program).unit counter frame.pts frame.data) :
    FramePackets (frame.stream program).pid
      (((frame.stream program).unit 0 frame.pts frame.data).map Packet.body)
      ((muxStep program state frame).2.map Packet.block) where
  starts := by
    rw [elementary_blocks, hunit]
    refine ⟨_, _, rfl, Packet.payloadUnitStartIndicator_encode _, ?_⟩
    intro raw hmem
    obtain ⟨packet, hpacket, rfl⟩ := List.mem_map.mp hmem
    rw [Packet.payloadUnitStartIndicator_encode]
    exact ((frame.stream program).continuation_fields _ _ packet hpacket).1
  bodies := by
    rw [elementary_blocks, hunit, List.map_map, map_body_unit _ 0 counter]
    rfl
  others := by
    intro raw hmem hpid
    obtain ⟨packet, hpacket, rfl⟩ := List.mem_map.mp hmem
    rw [Packet.block_cells, Packet.pid_encode] at hpid
    rw [Packet.block_cells, Packet.pid_encode, Packet.payloadUnitStartIndicator_encode]
    rcases mem_muxStep hpacket with hfront | hstream
    · exact unitStart_gopFront hfront
    · exact absurd hstream hpid

/-- Every emitted packet is well formed. A run over frames of the two kinds, none of them too long,
hands on well-formed packets of the five PIDs. The packets of a call start units as they should, and
their bytes after the header are determined by the frame or the table alone. -/
theorem packets_wellFormed (gst : UInt64Scale) (setup : Setup) (videoPcr audioPcr : Bool) :
    ∃ (unitBodies : GstBuffer → List (List UInt8)) (tableBody : ℕ → List UInt8),
      ∀ (results : List TsPacket → Bool) (buffers : List GstBuffer),
        (∀ buffer ∈ buffers, buffer.caps ≠ .other) →
        (∀ buffer ∈ buffers, buffer.data.length < 2 ^ 32 - 22) →
        ∃ packets, writtenPackets gst results setup videoPcr audioPcr buffers = .ok packets ∧
          (∀ packet ∈ packets, WellFormed packet.cells ∧
            (Transport.pid packet.cells = videoPid.toNat ∨
              Transport.pid packet.cells = audioPid.toNat ∨
              (Transport.pid packet.cells ∈ [patPid.toNat, pmtPid.toNat, 0x1fff] ∧
                packet.cells.drop 4 = tableBody (Transport.pid packet.cells)))) ∧
          ∀ before buffer after, buffers = before ++ buffer :: after →
            ∃ earlier call,
              writtenPackets gst results setup videoPcr audioPcr before = .ok earlier ∧
              writtenPackets gst results setup videoPcr audioPcr (before ++ [buffer]) =
                .ok (earlier ++ call) ∧
              ((buffer.caps = .audioMpeg ∧ call = []) ∨
                FramePackets buffer.streamPid (unitBodies buffer) call) := by
  obtain ⟨program, hcarries⟩ := setup.exists_carriesOut videoPcr audioPcr
  have hseparate := hcarries.separate
  let frameStream (buffer : GstBuffer) := (buffer.frame gst).stream program
  refine ⟨fun buffer ↦ ((frameStream buffer).unit 0 (buffer.frame gst).pts
    buffer.data).map Packet.body, program.tableBody, ?_⟩
  intro results buffers hcaps hsize
  have hfits : ∀ buffer ∈ buffers, Fits program buffer :=
    fun buffer hmem ↦ fits_of_length program (hcaps buffer hmem) (hsize buffer hmem)
  have hok := hcarries.exists_written gst results hfits
  refine ⟨_, hok, ?_, ?_⟩
  · intro raw hmem
    obtain ⟨packet, hemitted, rfl⟩ := hcarries.exists_emitted hok raw hmem
    refine ⟨packet.wellFormed_encode, ?_⟩
    rw [Packet.block_cells, Packet.pid_encode, Packet.drop_four_encode]
    have hpid := pid_of_emitted hemitted
    rw [hcarries.video, hcarries.audio] at hpid
    refine hpid.imp id (Or.imp id fun hother ↦ ⟨?_, body_of_emitted hseparate hemitted hother⟩)
    change packet.pid ∈ [0, 0x20, 0x1fff]
    simpa only [List.mem_cons, List.not_mem_nil, or_false] using hother
  · intro before buffer after hsplit
    have hkept : ∀ other ∈ before ++ [buffer], Fits program other := by
      intro other hmem
      refine hfits other ?_
      rw [hsplit]
      simp only [List.mem_append, List.mem_cons, List.not_mem_nil, or_false] at hmem ⊢
      exact hmem.imp id .inl
    let step := muxStep program (stateAfter gst program before) (buffer.frame gst)
    have hbefore := hcarries.exists_written gst results fun other hmem ↦
      hkept other (List.mem_append_left _ hmem)
    have hwhole := hcarries.exists_written gst results hkept
    rw [outputsOf_concat, List.map_append] at hwhole
    refine ⟨_, step.2.map Packet.block, hbefore, hwhole, ?_⟩
    have hknown : buffer.caps ≠ .other := hcaps buffer (by simp [hsplit])
    have haudio := GstBuffer.isAudio_frame gst hknown
    rcases filter_muxStep hseparate (stateAfter gst program before) (buffer.frame gst) with
      ⟨hkind, hnil⟩ | ⟨counter, hunit⟩
    · rw [haudio] at hkind
      exact .inl ⟨of_decide_eq_true hkind, by rw [hnil]; rfl⟩
    · rw [← pid_stream_frame gst hcarries hknown]
      exact .inr (framePackets_muxStep hunit)

end SpTsMuxer.Spts
