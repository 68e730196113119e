import SpTsMuxer.Spts.Observation

/-!
# Streams Do Not Interfere

Two runs of the same program are compared PID by PID.  The packets of the tables and of the video
stream are those of machines that read the video frames alone; the packets of the audio stream are
those of a machine that reads the audio frames alone, once no audio frame is dropped.  The other
packets are null packets, all alike.

A 64-bit packet counter that has come round to zero drops audio again, so that audio does depend
on the number of video packets before it.
-/

namespace SpTsMuxer.Spts

open Memory Transport Pes Psi Machine

/-! ## Views of one run -/

section Views

variable {gst : UInt64Scale} {results : List TsPacket → Bool} {setup : Setup}
  {videoPcr audioPcr : Bool} {program : Program}
  (hcarries : CarriesOut setup videoPcr audioPcr program) {buffers : List GstBuffer}
  {packets : List TsPacket}
  (hok : writtenPackets gst results setup videoPcr audioPcr buffers = .ok packets)
include hcarries hok

theorem elementary_of_observes {part : Mealy ℕ Frame Packet} {view : MuxState → ℕ} {number : ℕ}
    (hpart : (multiplexer program).Observes part (fun _ ↦ True) view Frame.isVideo
      (onPid number)) :
    elementary number packets =
      (part.run (view .initial) ((buffers.filter GstBuffer.isVideo).map
        (GstBuffer.frame gst))).2.map Packet.encode := by
  rw [hcarries.written gst results buffers packets hok, elementary_blocks, outputsOf,
    hpart.filter_run trivial, filter_isVideo_frames]

/-- Without dropped frames the audio packets are computed from the audio frames alone. -/
theorem elementary_admitted
    (hadmitted : AudioAdmitted gst results setup videoPcr audioPcr buffers) :
    elementary audioPid.toNat packets =
      ((streamMachine program.audio).run 0 ((buffers.filter GstBuffer.isAudio).map
        (GstBuffer.frame gst))).2.map Packet.encode := by
  have hnone := (noneDropped_iff_admitted hcarries hok).mpr hadmitted
  rw [elementary_audio hcarries hok, keptAudio_eq_filter hnone,
    filter_isAudio_frames gst (caps_ne_other hcarries hok)]

theorem pid_or_nullPacket : ∀ packet ∈ packets,
    Transport.pid packet.cells ∈ [videoPid.toNat, audioPid.toNat, patPid.toNat, pmtPid.toNat] ∨
      packet = nullPacket.block := by
  intro raw hmem
  obtain ⟨packet, hemitted, rfl⟩ := hcarries.exists_emitted hok raw hmem
  have hpid := pid_of_emitted hemitted
  rw [hcarries.video, hcarries.audio] at hpid
  rw [Packet.block_cells, Packet.pid_encode]
  rcases hpid with hvideo | haudio | hpat | hpmt | hnull
  · exact .inl (List.mem_of_elem_eq_true (by rw [hvideo]; rfl))
  · exact .inl (List.mem_of_elem_eq_true (by rw [haudio]; rfl))
  · exact .inl (List.mem_of_elem_eq_true (by rw [hpat]; rfl))
  · exact .inl (List.mem_of_elem_eq_true (by rw [hpmt]; rfl))
  · rw [eq_nullPacket_of_emitted hcarries.separate hemitted hnull]
    exact .inr rfl

end Views

/-! ## Two runs -/

/-- Streams do not interfere. Two runs with the same video frames agree on the video packets and on
the tables. Two runs with the same audio frames, none of them dropped, agree on the audio packets.
All other packets are the same null packet. -/
theorem streams_do_not_interfere (gst : UInt64Scale) (setup : Setup) (videoPcr audioPcr : Bool)
    {results₁ results₂ : List TsPacket → Bool} {buffers₁ buffers₂ : List GstBuffer}
    {packets₁ packets₂ : List TsPacket}
    (hok₁ : writtenPackets gst results₁ setup videoPcr audioPcr buffers₁ = .ok packets₁)
    (hok₂ : writtenPackets gst results₂ setup videoPcr audioPcr buffers₂ = .ok packets₂) :
    (buffers₁.filter GstBuffer.isVideo = buffers₂.filter GstBuffer.isVideo →
      ∀ number ∈ [videoPid.toNat, patPid.toNat, pmtPid.toNat],
        elementary number packets₁ = elementary number packets₂) ∧
      (AudioAdmitted gst results₁ setup videoPcr audioPcr buffers₁ →
        AudioAdmitted gst results₂ setup videoPcr audioPcr buffers₂ →
        buffers₁.filter GstBuffer.isAudio = buffers₂.filter GstBuffer.isAudio →
          elementary audioPid.toNat packets₁ = elementary audioPid.toNat packets₂) ∧
      ∀ packet ∈ packets₁ ++ packets₂,
        Transport.pid packet.cells ∈
            [videoPid.toNat, audioPid.toNat, patPid.toNat, pmtPid.toNat] ∨
          packet = nullPacket.block := by
  obtain ⟨program, hcarries⟩ := setup.exists_carriesOut videoPcr audioPcr
  have hseparate := hcarries.separate
  have hview {part : Mealy ℕ Frame Packet} {view : MuxState → ℕ} {number : ℕ}
      (hpart : (multiplexer program).Observes part (fun _ ↦ True) view Frame.isVideo
        (onPid number))
      (hsame : buffers₁.filter GstBuffer.isVideo = buffers₂.filter GstBuffer.isVideo) :
      elementary number packets₁ = elementary number packets₂ := by
    rw [elementary_of_observes hcarries hok₁ hpart, elementary_of_observes hcarries hok₂ hpart,
      hsame]
  refine ⟨?_, ?_, ?_⟩
  · intro hsame number hnumber
    simp only [List.mem_cons, List.not_mem_nil, or_false] at hnumber
    rcases hnumber with rfl | rfl | rfl
    · have hvideo := observes_video hseparate
      rw [hcarries.video_pid] at hvideo
      exact hview hvideo hsame
    · exact hview (observes_table (hasTable_pat hseparate)) hsame
    · exact hview (observes_table (hasTable_pmt hseparate)) hsame
  · intro hadmitted₁ hadmitted₂ hsame
    rw [elementary_admitted hcarries hok₁ hadmitted₁, elementary_admitted hcarries hok₂ hadmitted₂,
      hsame]
  · intro packet hmem
    rcases List.mem_append.mp hmem with hfirst | hsecond
    · exact pid_or_nullPacket hcarries hok₁ packet hfirst
    · exact pid_or_nullPacket hcarries hok₂ packet hsecond

/-- The same audio frame after two different video frames. -/
theorem streams_do_not_interfere_two_runs :
    ∃ packets₁ packets₂,
      writtenPackets gstUtilUint64Scale (fun _ ↦ true) plainSetup true false
        [⟨.videoXH264, false, 0, [1], by decide⟩, ⟨.audioMpeg, false, 0, [4], by decide⟩] =
          .ok packets₁ ∧
      writtenPackets gstUtilUint64Scale (fun _ ↦ true) plainSetup true false
        [⟨.videoXH264, false, 7, [2, 3], by decide⟩, ⟨.audioMpeg, false, 0, [4], by decide⟩] =
          .ok packets₂ ∧
      elementary audioPid.toNat packets₁ = elementary audioPid.toNat packets₂ := by
  let first : GstBuffer := ⟨.videoXH264, false, 0, [1], by decide⟩
  let second : GstBuffer := ⟨.videoXH264, false, 7, [2, 3], by decide⟩
  let audio : GstBuffer := ⟨.audioMpeg, false, 0, [4], by decide⟩
  have hcaps : ∀ buffer ∈ [first, second, audio], buffer.caps ≠ .other := by decide
  have hsize : ∀ buffer ∈ [first, second, audio], buffer.data.length < 2 ^ 32 - 22 := by decide
  obtain ⟨program, hcarries⟩ := plainSetup.exists_carriesOut true false
  have hfits : ∀ buffer ∈ [first, second, audio], Fits program buffer := fun buffer hmem ↦
    fits_of_length program (hcaps buffer hmem) (hsize buffer hmem)
  have hok₁ := hcarries.exists_written gstUtilUint64Scale (fun _ ↦ true)
    (show ∀ buffer ∈ [first, audio], Fits program buffer from
      fun buffer hmem ↦ hfits buffer (by simp at hmem ⊢; tauto))
  have hok₂ := hcarries.exists_written gstUtilUint64Scale (fun _ ↦ true)
    (show ∀ buffer ∈ [second, audio], Fits program buffer from
      fun buffer hmem ↦ hfits buffer (List.mem_cons_of_mem first hmem))
  obtain ⟨-, haudio, -⟩ :=
    streams_do_not_interfere gstUtilUint64Scale plainSetup true false hok₁ hok₂
  have hadmitted₁ := (noneDropped_iff_admitted hcarries hok₁).mp
    (noneDropped_pair program rfl (by decide))
  have hadmitted₂ := (noneDropped_iff_admitted hcarries hok₂).mp
    (noneDropped_pair program rfl (by decide))
  exact ⟨_, _, hok₁, hok₂, haudio hadmitted₁ hadmitted₂ rfl⟩

/-! ## A wrapped counter -/

/-- Empty frames: one that begins a GOP, `count` more video frames, and one audio frame. -/
def wrapBuffers (count : ℕ) : List GstBuffer :=
  ⟨.videoXH264, false, 0, [], by decide⟩ ::
    (List.replicate count ⟨.videoXH264, true, 0, [], by decide⟩ ++
      [⟨.audioMpeg, false, 0, [], by decide⟩])

theorem packets_replicate (program : Program) (state : MuxState) (count : ℕ) {frame : Frame}
    (hkind : frame.kind = .delta) (hdata : frame.data = []) :
    ((multiplexer program).run state (List.replicate count frame)).1.packets =
      state.packets + count := by
  induction count generalizing state with
  | zero => rfl
  | succ count ih =>
      have htail := ih (muxStep program state frame).1
      rw [List.replicate_succ, Mealy.run_cons_fst]
      refine htail.trans ?_
      rw [muxStep_delta program state hkind, hdata]
      change state.packets + ((program.video.continuation _ ([].drop _)).length + 1) + count = _
      rw [List.drop_nil, ElementaryStream.continuation_nil]
      change state.packets + 1 + count = state.packets + (count + 1)
      omega

theorem keptAudio_append (program : Program) (state : MuxState) (first second : List Frame) :
    keptAudio program state (first ++ second) = keptAudio program state first ++
      keptAudio program ((multiplexer program).run state first).1 second := by
  induction first generalizing state with
  | nil => rfl
  | cons frame rest ih =>
      have htail := ih (muxStep program state frame).1
      rw [List.cons_append, keptAudio, keptAudio, htail, Mealy.run_cons_fst]
      split_ifs
      · rfl
      · rfl

theorem keptAudio_wrapBuffers (gst : UInt64Scale) (program : Program) (count : ℕ) :
    (keptAudio program .initial ((wrapBuffers count).map (GstBuffer.frame gst))).length =
      if (3 + count) % 2 ^ 64 = 0 then 0 else 1 := by
  let idr : GstBuffer := ⟨.videoXH264, false, 0, [], by decide⟩
  let delta : GstBuffer := ⟨.videoXH264, true, 0, [], by decide⟩
  let audio : GstBuffer := ⟨.audioMpeg, false, 0, [], by decide⟩
  let videos : List Frame := idr.frame gst :: List.replicate count (delta.frame gst)
  have hframes : (wrapBuffers count).map (GstBuffer.frame gst) = videos ++ [audio.frame gst] := by
    rw [wrapBuffers, List.map_cons, List.map_append, List.map_replicate]
    rfl
  have hvideos : keptAudio program .initial videos = [] := by
    have hnone : videos.filter Frame.isAudio = [] := by
      rw [List.filter_eq_nil_iff]
      intro frame hmem
      rcases List.mem_cons.mp hmem with rfl | hdelta
      · exact Bool.false_ne_true
      · rw [List.eq_of_mem_replicate hdelta]
        exact Bool.false_ne_true
    have hsub := keptAudio_sublist program .initial videos
    rw [hnone] at hsub
    exact List.sublist_nil.mp hsub
  have hpackets : ((multiplexer program).run .initial videos).1.packets = 3 + count := by
    rw [Mealy.run_cons_fst, packets_replicate program _ count rfl rfl]
    change (muxStep program .initial (idr.frame gst)).1.packets + count = _
    rw [muxStep_idr program .initial rfl]
    change 0 + 2 + ((program.video.continuation _ ([].drop _)).length + 1) + count = _
    rw [List.drop_nil, ElementaryStream.continuation_nil]
    rfl
  rw [hframes, keptAudio_append, hvideos, List.nil_append, keptAudio, hpackets, keptAudio]
  by_cases hwrap : (3 + count) % 2 ^ 64 = 0
  · rw [if_neg (fun h ↦ h.2 hwrap), if_pos hwrap]
    rfl
  · rw [if_pos ⟨rfl, hwrap⟩, if_neg hwrap]
    rfl

/-- Dropped or not, the audio packets are those of the kept frames. -/
theorem wrapBuffers_differ {count : ℕ} (hwrap : 3 + count = 2 ^ 64) :
    (wrapBuffers 0).filter GstBuffer.isAudio = (wrapBuffers count).filter GstBuffer.isAudio ∧
      ∃ packets₁ packets₂,
        writtenPackets gstUtilUint64Scale (fun _ ↦ true) plainSetup true false (wrapBuffers 0) =
          .ok packets₁ ∧
        writtenPackets gstUtilUint64Scale (fun _ ↦ true) plainSetup true false
          (wrapBuffers count) = .ok packets₂ ∧
        elementary audioPid.toNat packets₁ ≠ elementary audioPid.toNat packets₂ := by
  obtain ⟨program, hcarries⟩ := plainSetup.exists_carriesOut true false
  have hfits (count : ℕ) : ∀ buffer ∈ wrapBuffers count, Fits program buffer := by
    intro buffer hmem
    rw [wrapBuffers, List.mem_cons, List.mem_append, List.mem_singleton] at hmem
    rcases hmem with rfl | hdelta | rfl
    · exact fits_of_length program (by decide) (by decide)
    · rw [List.eq_of_mem_replicate hdelta]
      exact fits_of_length program (by decide) (by decide)
    · exact fits_of_length program (by decide) (by decide)
  have haudio (count : ℕ) : (wrapBuffers count).filter GstBuffer.isAudio =
      [⟨.audioMpeg, false, 0, [], by decide⟩] := by
    have hdelta : (List.replicate count (⟨.videoXH264, true, 0, [], by decide⟩ : GstBuffer)).filter
        GstBuffer.isAudio = [] := by
      rw [List.filter_eq_nil_iff]
      intro buffer hmem
      rw [List.eq_of_mem_replicate hmem]
      exact Bool.false_ne_true
    rw [wrapBuffers, List.filter_cons_of_neg Bool.false_ne_true, List.filter_append, hdelta]
    rfl
  have hok₁ := hcarries.exists_written gstUtilUint64Scale (fun _ ↦ true) (hfits 0)
  have hok₂ := hcarries.exists_written gstUtilUint64Scale (fun _ ↦ true) (hfits count)
  refine ⟨by rw [haudio, haudio], _, _, hok₁, hok₂, ?_⟩
  rw [elementary_audio hcarries hok₁, elementary_audio hcarries hok₂]
  have hkept := keptAudio_wrapBuffers gstUtilUint64Scale program 0
  have hdropped := keptAudio_wrapBuffers gstUtilUint64Scale program count
  rw [if_neg (by decide)] at hkept
  rw [hwrap, if_pos (Nat.mod_self _), List.length_eq_zero_iff] at hdropped
  obtain ⟨frame, hframe⟩ := List.length_eq_one_iff.mp hkept
  rw [hframe, hdropped]
  exact List.cons_ne_nil _ _

/-- Audio depends on the number of video packets. After 2^64 - 3 empty video frames behind an IDR
frame, the audio frame is dropped. -/
theorem audio_differs_at_wrap :
    (wrapBuffers 0).filter GstBuffer.isAudio =
        (wrapBuffers (2 ^ 64 - 3)).filter GstBuffer.isAudio ∧
      ∃ packets₁ packets₂,
        writtenPackets gstUtilUint64Scale (fun _ ↦ true) plainSetup true false (wrapBuffers 0) =
          .ok packets₁ ∧
        writtenPackets gstUtilUint64Scale (fun _ ↦ true) plainSetup true false
          (wrapBuffers (2 ^ 64 - 3)) = .ok packets₂ ∧
        elementary audioPid.toNat packets₁ ≠ elementary audioPid.toNat packets₂ :=
  wrapBuffers_differ (by omega)

end SpTsMuxer.Spts
