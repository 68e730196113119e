import SpTsMuxer.Muxer.Tuning
import SpTsMuxer.Spts.Continuity
import SpTsMuxer.Transport.Loss

/-!
# Lost Packets

The continuity counters of the muxer let a receiver notice every loss of fewer than sixteen packets
in a row on a PID.  So a loss costs whole frames, never a part of one: a receiver gets exactly the
frames all of whose packets arrive and the first packet of the next frame on the PID.
-/

namespace SpTsMuxer.Muxer

open Memory Transport Pes Psi Machine Spts Schedule

/-! ## The frames on a PID -/

/-- The frames that are sent on the PID of a stream; audio in front of all video is dropped. -/
def carriedOn (video : Bool) (buffers : List GstBuffer) : List GstBuffer :=
  if video then buffers.filter GstBuffer.isVideo
  else (buffers.dropWhile GstBuffer.isAudio).filter GstBuffer.isAudio

/-- What is read from a PES packet, if it begins with a start code. -/
def readUnit (bytes : List UInt8) : Option AccessUnit :=
  if [0x00, 0x00, 0x01] <+: bytes then some (parsePes bytes) else none

/-- Which audio is dropped, unless the packet counter wraps. -/
theorem keptAudio_of_length {program : Program} {state : MuxState} {frames : List Frame}
    (hcount : state.packets + ((multiplexer program).run state frames).2.length < 2 ^ 64) :
    keptAudio program state frames =
      (if state.packets = 0 then frames.dropWhile Frame.isAudio else frames).filter
        Frame.isAudio := by
  induction frames generalizing state with
  | nil => cases hzero : decide (state.packets = 0) <;> simp_all [keptAudio]
  | cons frame rest ih =>
      have hpackets := packets_muxStep program state frame
      rw [packets_run_cons] at hcount
      have htail := ih hcount
      have hmod : state.packets % 2 ^ 64 = state.packets := Nat.mod_eq_of_lt (by omega)
      rw [keptAudio, hmod, htail]
      cases haudio : frame.isAudio with
      | true =>
          have hkind : frame.kind = .audio := of_decide_eq_true haudio
          by_cases hzero : state.packets = 0
          · have hsame : (muxStep program state frame).1.packets = 0 := by
              rw [muxStep_dropped program state hkind (by rw [hmod, hzero])]
              exact hzero
            rw [if_neg fun hand ↦ hand.2 hzero, if_pos hsame, if_pos hzero,
              List.dropWhile_cons_of_pos haudio]
          · have hsome : (muxStep program state frame).1.packets ≠ 0 := by omega
            rw [if_pos ⟨hkind, hzero⟩, if_neg hsome, if_neg hzero, List.filter_cons_of_pos haudio]
      | false =>
          have hkind : frame.kind ≠ .audio := of_decide_eq_false haudio
          have hsome : (muxStep program state frame).1.packets ≠ 0 :=
            Nat.ne_of_gt (packets_pos_of_video hkind)
          have hfilter : (frame :: rest).filter Frame.isAudio = rest.filter Frame.isAudio :=
            List.filter_cons_of_neg (by simp [haudio])
          rw [if_neg fun hand ↦ hkind hand.1, if_neg hsome,
            List.dropWhile_cons_of_neg (by simp [haudio]), ite_self, hfilter]

/-- The packets of a stream, cut at their start indicators, are those of its frames. -/
theorem cutAt_streamMachine (stream : ElementaryStream) (counter : ℕ) (frames : List Frame) :
    (cutAt Packet.unitStart ((streamMachine stream).run counter frames).2).1 = [] ∧
      (cutAt Packet.unitStart ((streamMachine stream).run counter frames).2).2.map
          (List.flatMap Packet.payload) =
        frames.map fun frame ↦ stream.lead frame.data ++
          (pesHeader stream.streamId (stream.packetLength frame.data) frame.pts ++ frame.data) := by
  induction frames generalizing counter with
  | nil => exact ⟨rfl, rfl⟩
  | cons frame rest ih =>
      obtain ⟨hlead, hgroups⟩ := ih (counter + (stream.unit counter frame.pts frame.data).length)
      let continuation := stream.continuation (counter + 1)
        (frame.data.drop (stream.taken frame.data))
      let others := ((streamMachine stream).run
        (counter + (stream.unit counter frame.pts frame.data).length) rest).2
      have hcontinuation : ∀ packet ∈ continuation, ¬packet.unitStart = true := by
        intro packet hmem
        rw [(stream.continuation_fields _ _ packet hmem).1]
        exact Bool.false_ne_true
      have hcut : cutAt Packet.unitStart
          (stream.start counter frame.pts frame.data :: (continuation ++ others)) =
            ([], stream.unit counter frame.pts frame.data ::
              (cutAt Packet.unitStart others).2) := by
        rw [cutAt_cons_marked rfl, cutAt_append_unmarked hcontinuation, hlead, List.append_nil]
        rfl
      rw [Mealy.run_cons_snd]
      change (cutAt _ (stream.start _ _ _ :: (continuation ++ others))).1 = [] ∧
        (cutAt _ (stream.start _ _ _ :: (continuation ++ others))).2.map _ = _
      rw [hcut]
      refine ⟨rfl, ?_⟩
      rw [List.map_cons, List.map_cons, stream.flatMap_payload_unit]
      exact congrArg _ hgroups

theorem map_payloadOf_pesPackets {number : ℕ} {entries : List Arrival} {stream : ElementaryStream}
    {frames : List Frame}
    (hsent : (arrivalsOn number entries).map Prod.fst =
      ((streamMachine stream).run 0 frames).2.map Packet.encode) :
    (pesPackets number entries).map payloadOf =
      frames.map fun frame ↦ stream.lead frame.data ++
        (pesHeader stream.streamId (stream.packetLength frame.data) frame.pts ++ frame.data) := by
  have hpayload : (fun group : List Packet ↦ (group.map Packet.encode).flatMap Transport.payload) =
      List.flatMap Packet.payload := by
    funext group
    rw [List.flatMap_map]
    simp only [Packet.payload_encode]
  have hstart : (fun packet : Packet ↦ payloadUnitStartIndicator packet.encode) =
      Packet.unitStart := by
    funext packet
    rw [Packet.payloadUnitStartIndicator_encode]
  have hgroups : (pesPackets number entries).map (List.map Prod.fst) =
      (cutAt Packet.unitStart ((streamMachine stream).run 0 frames).2).2.map
        (List.map Packet.encode) := by
    have hcut := cutAt_map payloadUnitStartIndicator Prod.fst (arrivalsOn number entries)
    have hencode := cutAt_map payloadUnitStartIndicator Packet.encode
      ((streamMachine stream).run 0 frames).2
    rw [hsent, hencode, hstart] at hcut
    exact (Prod.mk.inj hcut).2.symm
  calc
    _ = ((pesPackets number entries).map (List.map Prod.fst)).map
        (List.flatMap Transport.payload) := by
      rw [List.map_map]
      refine List.map_congr_left fun group _ ↦ ?_
      rw [payloadOf, Function.comp_apply, List.flatMap_map]
    _ = (cutAt Packet.unitStart ((streamMachine stream).run 0 frames).2).2.map
        (List.flatMap Packet.payload) := by
      rw [hgroups, List.map_map]
      exact congrArg (fun translate ↦ List.map translate _) hpayload
    _ = _ := (cutAt_streamMachine stream 0 frames).2

theorem counted_streamMachine (stream : ElementaryStream) (frames : List Frame) :
    Counted 0 (((streamMachine stream).run 0 frames).2.map Packet.encode) := by
  intro position raw hraw
  rw [List.getElem?_map] at hraw
  obtain ⟨packet, hpacket, rfl⟩ := Option.map_eq_some_iff.mp hraw
  have hnumber := (numbers_streamMachine stream).number_of_getElem? hpacket
  rw [Packet.continuityCounter_encode, hnumber]
  rfl

section Carried

variable {audioFirst : Bool} {program : Program}
  (hcarries : CarriesOut (padSetup audioFirst) true false program)
include hcarries

omit hcarries in
theorem dropWhile_isAudio_frames (gst : UInt64Scale) {buffers : List GstBuffer}
    (hcaps : ∀ buffer ∈ buffers, buffer.caps ≠ .other) :
    (buffers.map (GstBuffer.frame gst)).dropWhile Frame.isAudio =
      (buffers.dropWhile GstBuffer.isAudio).map (GstBuffer.frame gst) := by
  induction buffers with
  | nil => rfl
  | cons buffer rest ih =>
      have hbuffer := GstBuffer.isAudio_frame gst (hcaps buffer List.mem_cons_self)
      rw [List.map_cons]
      by_cases haudio : buffer.isAudio = true
      · rw [List.dropWhile_cons_of_pos (hbuffer.trans haudio), List.dropWhile_cons_of_pos haudio]
        exact ih fun other hmem ↦ hcaps other (List.mem_cons_of_mem _ hmem)
      · rw [List.dropWhile_cons_of_neg (by rw [hbuffer]; exact haudio),
          List.dropWhile_cons_of_neg haudio, List.map_cons]

/-- The stream of each kind of frames. -/
def streamFor (program : Program) (video : Bool) : ElementaryStream :=
  if video then program.video else program.audio

/-- On the PID of a stream are the packets of its frames. -/
theorem elementary_carriedOn {gst : UInt64Scale} {results : List TsPacket → Bool}
    {buffers : List GstBuffer} {packets : List TsPacket}
    (hok : writtenPackets gst results (padSetup audioFirst) true false buffers = .ok packets)
    (hcount : packets.length < 2 ^ 64) (video : Bool) :
    elementary (streamPid video) packets =
      ((streamMachine (streamFor program video)).run 0
        ((carriedOn video buffers).map (GstBuffer.frame gst))).2.map Packet.encode := by
  have hcaps := caps_ne_other hcarries hok
  cases video with
  | true =>
      rw [hcarries.written gst results buffers packets hok, elementary_blocks]
      have hfilter := filter_video_outputsOf gst hcarries.separate buffers
      rw [hcarries.video_pid] at hfilter
      exact congrArg (List.map Packet.encode) hfilter
  | false =>
      have hwritten := hcarries.written gst results buffers packets hok
      have hrun : MuxState.initial.packets +
          ((multiplexer program).run .initial (buffers.map (GstBuffer.frame gst))).2.length <
            2 ^ 64 := by
        rw [hwritten, List.length_map] at hcount
        rw [MuxState.initial, Nat.zero_add]
        exact hcount
      have hkept := keptAudio_of_length hrun
      rw [if_pos (show MuxState.initial.packets = 0 from rfl), dropWhile_isAudio_frames gst hcaps,
        filter_isAudio_frames gst fun buffer hmem ↦
          hcaps buffer ((List.dropWhile_sublist _).subset hmem)] at hkept
      change elementary audioPid.toNat packets = ((streamMachine program.audio).run 0
        (((buffers.dropWhile GstBuffer.isAudio).filter GstBuffer.isAudio).map _)).2.map _
      rw [elementary_audio hcarries hok, hkept]

omit hcarries in
theorem snd_deliver (unit : OpenUnit) : unit.deliver.map Prod.snd = readUnit unit.bytes := by
  rw [OpenUnit.deliver, readUnit]
  split_ifs with hstart
  · rfl
  · rfl

/-- What a receiver gets of the PES packets on a PID. -/
theorem filterMap_readUnit_frames (gst : UInt64Scale) {video : Bool} {buffers : List GstBuffer}
    (hcaps : ∀ buffer ∈ buffers, buffer.caps ≠ .other)
    (hkind : ∀ buffer ∈ buffers, buffer.isVideo = video) :
    ((buffers.map (GstBuffer.frame gst)).map fun frame ↦
      (streamFor program video).lead frame.data ++
        (pesHeader (streamFor program video).streamId
          ((streamFor program video).packetLength frame.data) frame.pts ++
            frame.data)).filterMap readUnit = (shown buffers).map Prod.snd := by
  have hunits : ((buffers.map (GstBuffer.frame gst)).map fun frame ↦
      (streamFor program video).lead frame.data ++
        (pesHeader (streamFor program video).streamId
          ((streamFor program video).packetLength frame.data) frame.pts ++ frame.data)) =
        ((buffers.map (GstBuffer.frame gst)).map (frameUnitOf program)).map OpenUnit.bytes := by
    rw [List.map_map, List.map_map, List.map_map]
    refine List.map_congr_left fun buffer hmem ↦ ?_
    have hstream : (buffer.frame gst).stream program = streamFor program video := by
      have hbuffer := hkind buffer hmem
      rw [Frame.stream, GstBuffer.isAudio_frame gst (hcaps buffer hmem), streamFor]
      cases hcase : buffer.caps with
      | videoXH264 =>
          have hvideo : true = video := by simpa [GstBuffer.isVideo, hcase] using hbuffer
          simp [GstBuffer.isAudio, hcase, ← hvideo]
      | audioMpeg =>
          have hvideo : false = video := by simpa [GstBuffer.isVideo, hcase] using hbuffer
          simp [GstBuffer.isAudio, hcase, ← hvideo]
      | other => exact absurd hcase (hcaps buffer hmem)
    rw [← hstream]
    rfl
  rw [hunits, ← filterMap_deliver_frames hcarries gst hcaps, List.filterMap_map,
    List.map_filterMap]
  exact List.filterMap_congr fun unit _ ↦ (snd_deliver unit).symm

end Carried

theorem isVideo_of_mem_carriedOn {video : Bool} {buffers : List GstBuffer} {buffer : GstBuffer}
    (hmem : buffer ∈ carriedOn video buffers) : buffer ∈ buffers ∧ buffer.isVideo = video := by
  cases video with
  | true => exact List.mem_filter.mp hmem
  | false =>
      obtain ⟨hrest, haudio⟩ := List.mem_filter.mp hmem
      refine ⟨(List.dropWhile_sublist _).subset hrest, ?_⟩
      have hcaps : buffer.caps = .audioMpeg := of_decide_eq_true haudio
      simp [GstBuffer.isVideo, hcaps]

/-! ## Main result -/

/-- A loss costs whole frames. Some packets of a stream are lost, but no sixteen in a row on the PID
of one of its streams. The PES packets that arrive on it are as many as the frames that are carried
on it. A receiver gets, in their order and as they were written, the frames all of whose packets
arrive and the first packet of the next one; only audio frames of 169 bytes are missing. -/
theorem losses_cost_whole_frames (gst : UInt64Scale) (results : List TsPacket → Bool)
    (audioFirst : Bool) {buffers : List GstBuffer} {packets : List TsPacket}
    (hok : muxedPackets gst results (padOrder audioFirst) buffers = .ok packets)
    (hcount : packets.length < 2 ^ 64) {entries : List Arrival}
    (hsent : entries.map Prod.fst = packets.map Block.cells) (video : Bool)
    (hgaps : NoLongGap ((arrivalsOn (streamPid video) entries).map Prod.snd)) :
    (pesPackets (streamPid video) entries).length = (carriedOn video buffers).length ∧
      (reassembled (streamPid video) (arrived entries)).filterMap readUnit =
        (shown (flagged (surviving (pesPackets (streamPid video) entries))
          (carriedOn video buffers))).map Prod.snd := by
  obtain ⟨program, hcarries⟩ := (padSetup audioFirst).exists_carriesOut true false
  rw [muxedPackets_eq] at hok
  have hcaps := caps_ne_other hcarries hok
  have helementary := elementary_carriedOn hcarries hok hcount video
  have hon : (arrivalsOn (streamPid video) entries).map Prod.fst =
      ((streamMachine (streamFor program video)).run 0
        ((carriedOn video buffers).map (GstBuffer.frame gst))).2.map Packet.encode := by
    rw [map_fst_arrivalsOn, hsent]
    exact helementary
  have hunits := map_payloadOf_pesPackets hon
  have hcounted := counted_streamMachine (streamFor program video)
    ((carriedOn video buffers).map (GstBuffer.frame gst))
  rw [← hon] at hcounted
  refine ⟨?_, ?_⟩
  · have hlength := congrArg List.length hunits
    rw [List.length_map, List.length_map, List.length_map] at hlength
    exact hlength
  · rw [reassembled_eq_surviving hcounted hgaps, hunits, flagged_map, flagged_map]
    refine filterMap_readUnit_frames hcarries gst (fun buffer hmem ↦ ?_) fun buffer hmem ↦ ?_
    · exact hcaps buffer (isVideo_of_mem_carriedOn (mem_of_mem_flagged hmem)).1
    · exact (isVideo_of_mem_carriedOn (mem_of_mem_flagged hmem)).2

/-- One packet is lost. -/
def loseOne (lost : ℕ) (packets : List TsPacket) : List Arrival :=
  packets.zipIdx.map fun entry ↦ (entry.1.cells, entry.2 ≠ lost)

theorem map_fst_loseOne (lost : ℕ) (packets : List TsPacket) :
    (loseOne lost packets).map Prod.fst = packets.map Block.cells := by
  rw [loseOne, List.map_map]
  conv_rhs => rw [← List.zipIdx_map_fst 0 packets, List.map_map]
  rfl

theorem noLongGap_loseOne (number lost : ℕ) (packets : List TsPacket) :
    NoLongGap ((arrivalsOn number (loseOne lost packets)).map Prod.snd) := by
  have hflags : (loseOne lost packets).map Prod.snd =
      (List.range packets.length).map fun position ↦ decide (position ≠ lost) := by
    rw [loseOne, List.map_map, List.range_eq_range', ← List.zipIdx_map_snd, List.map_map]
    rfl
  have hone : ((loseOne lost packets).map Prod.snd).count false ≤ 1 := by
    have hsame : (fun position : ℕ ↦ decide (position ≠ lost) == false) =
        fun position ↦ position == lost := by
      funext position
      by_cases heq : position = lost <;> simp [heq]
    rw [hflags, List.count_eq_countP, List.countP_map, Function.comp_def, hsame]
    exact List.nodup_iff_count_le_one.mp List.nodup_range lost
  have hsublist : ((arrivalsOn number (loseOne lost packets)).map Prod.snd).Sublist
      ((loseOne lost packets).map Prod.snd) := List.filter_sublist.map Prod.snd
  refine noLongGap_of_count ?_
  have hle := hsublist.count_le false
  omega

/-- The third packet is lost, which is the first one on the video PID. -/
theorem losses_cost_whole_frames_twoGops :
    ∃ packets, muxedPackets gstUtilUint64Scale (fun _ ↦ true) (padOrder false) twoGops =
      .ok packets ∧
      (pesPackets videoPid.toNat (loseOne 2 packets)).length = 2 ∧
      (reassembled videoPid.toNat (arrived (loseOne 2 packets))).filterMap readUnit =
        (shown (flagged (surviving (pesPackets videoPid.toNat (loseOne 2 packets)))
          (carriedOn true twoGops))).map Prod.snd := by
  obtain ⟨packets, hok, hcount⟩ := exists_muxed_twoGops
  exact ⟨packets, hok, losses_cost_whole_frames gstUtilUint64Scale (fun _ ↦ true) false hok hcount
    (map_fst_loseOne 2 packets) true (noLongGap_loseOne _ 2 packets)⟩

end SpTsMuxer.Muxer
