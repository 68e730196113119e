import SpTsMuxer.Schedule.Peak
import SpTsMuxer.Spts.Calls
import SpTsMuxer.Spts.Index

/-!
# The Packet Accounts of a Run

The counters of the program and of its streams are stepped at different places of
`spts_write_frame`.  Together they account for every packet that has been handed on: it is video,
audio, a table or a null packet.  At each IDR frame a stream compares its packets since the IDR
frame before with the most there have been so far.
-/

namespace SpTsMuxer.Spts

open Memory Transport Pes Psi Machine Schedule

variable {W : Type}

/-! ## The counters of the abstract machine -/

/-- The counters of the machine against the packets so far. -/
structure Tallies (program : Program) (state : MuxState) (packets : List Packet) : Prop where
  video : state.video = (packets.filter (onPid program.video.pid)).length
  audio : state.audio = (packets.filter (onPid program.audio.pid)).length
  pats : state.gops = (packets.filter (onPid 0)).length
  pmts : state.gops = (packets.filter (onPid 0x20)).length
  sum : packets.length = state.video + state.audio + 2 * state.gops +
    (packets.filter (onPid 0x1fff)).length

theorem filter_null_gopFront (program : Program) (state : MuxState) :
    ((gopFront program state).filter (onPid 0x1fff)).length = state.missing := by
  have hnull : (List.replicate state.missing nullPacket).filter (onPid 0x1fff) =
      List.replicate state.missing nullPacket :=
    List.filter_replicate_of_pos rfl
  rw [gopFront, List.filter_append, hnull, List.length_append, List.length_replicate]
  rfl

theorem length_filter_append_unit (stream : ElementaryStream) (packets : List Packet)
    (number counter pts : ℕ) (data : List UInt8) :
    ((packets ++ stream.unit counter pts data).filter (onPid number)).length =
      (packets.filter (onPid number)).length +
        if stream.pid = number then (stream.unit counter pts data).length else 0 := by
  rw [List.filter_append, List.length_append]
  split_ifs with hpid
  · rw [← hpid, stream.filter_unit_self]
  · rw [stream.filter_unit_other hpid, List.length_nil]

section Tallies

variable {program : Program} (hseparate : program.Separate) {state : MuxState}
  {packets : List Packet} (h : Tallies program state packets)
include hseparate h

theorem Tallies.front (count : ℕ) :
    Tallies program { state with packets := count, gops := state.gops + 1 }
      (packets ++ gopFront program state) where
  video := by
    rw [List.filter_append, filter_gopFront hseparate.video, List.append_nil]
    exact h.video
  audio := by
    rw [List.filter_append, filter_gopFront hseparate.audio, List.append_nil]
    exact h.audio
  pats := by
    rw [List.filter_append, (hasTable_pat hseparate).front, List.length_append, ← h.pats]
    rfl
  pmts := by
    rw [List.filter_append, (hasTable_pmt hseparate).front, List.length_append, ← h.pmts]
    rfl
  sum := by
    have hfront : (gopFront program state).length = state.missing + 2 := by
      rw [gopFront, List.length_append, List.length_replicate]
      rfl
    rw [List.filter_append, List.length_append, List.length_append, filter_null_gopFront, hfront,
      h.sum]
    dsimp only
    omega

theorem Tallies.video_unit (count counter pts : ℕ) (data : List UInt8) :
    let unit := program.video.unit counter pts data
    Tallies program { state with packets := count, video := state.video + unit.length }
      (packets ++ unit) := by
  intro unit
  have hcount (number : ℕ) :=
    length_filter_append_unit program.video packets number counter pts data
  refine ⟨?_, ?_, ?_, ?_, ?_⟩
  · rw [hcount, if_pos rfl, ← h.video]
  · rw [hcount, if_neg hseparate.streams]
    exact h.audio
  · rw [hcount, if_neg hseparate.video.1]
    exact h.pats
  · rw [hcount, if_neg hseparate.video.2.1]
    exact h.pmts
  · rw [hcount, if_neg hseparate.video.2.2, List.length_append, h.sum]
    dsimp only
    omega

theorem Tallies.audio_unit (count counter pts : ℕ) (data : List UInt8) :
    let unit := program.audio.unit counter pts data
    Tallies program { state with packets := count, audio := state.audio + unit.length }
      (packets ++ unit) := by
  intro unit
  have hcount (number : ℕ) :=
    length_filter_append_unit program.audio packets number counter pts data
  refine ⟨?_, ?_, ?_, ?_, ?_⟩
  · rw [hcount, if_neg hseparate.streams.symm]
    exact h.video
  · rw [hcount, if_pos rfl, ← h.audio]
  · rw [hcount, if_neg hseparate.audio.1]
    exact h.pats
  · rw [hcount, if_neg hseparate.audio.2.1]
    exact h.pmts
  · rw [hcount, if_neg hseparate.audio.2.2, List.length_append, h.sum]
    dsimp only
    omega

/-- A step counts its packets. -/
theorem Tallies.step (frame : Frame) :
    Tallies program (muxStep program state frame).1
      (packets ++ (muxStep program state frame).2) := by
  cases hkind : frame.kind with
  | idr =>
      rw [muxStep_idr program state hkind, ← List.append_assoc]
      exact (h.front hseparate 0).video_unit hseparate _ _ _ _
  | delta =>
      rw [muxStep_delta program state hkind]
      exact h.video_unit hseparate _ _ _ _
  | audio =>
      by_cases hpackets : state.packets % 2 ^ 64 = 0
      · rw [muxStep_dropped program state hkind hpackets, List.append_nil]
        exact h
      · rw [muxStep_audio program state hkind hpackets]
        exact h.audio_unit hseparate _ _ _ _

theorem Tallies.run (frames : List Frame) :
    Tallies program ((multiplexer program).run state frames).1
      (packets ++ ((multiplexer program).run state frames).2) := by
  induction frames generalizing state packets with
  | nil =>
      rw [Mealy.run_nil, List.append_nil]
      exact h
  | cons frame rest ih =>
      rw [Mealy.run_cons_fst, Mealy.run_cons_snd, ← List.append_assoc]
      exact ih (h.step hseparate frame)

end Tallies

theorem tallies_stateAfter (gst : UInt64Scale) {program : Program} (hseparate : program.Separate)
    (buffers : List GstBuffer) :
    Tallies program (stateAfter gst program buffers) (outputsOf gst program buffers) := by
  have hnone : Tallies program .initial [] := ⟨rfl, rfl, rfl, rfl, rfl⟩
  have hrun := hnone.run hseparate (buffers.map (GstBuffer.frame gst))
  rwa [List.nil_append] at hrun

/-! ## The GOP records of the streams -/

/-- Two records agree in what is kept for each GOP. -/
def SameGop (left right : SpTsStream) : Prop :=
  left.lastGopPacketsCounter = right.lastGopPacketsCounter ∧
    left.maxGopPackets = right.maxGopPackets

theorem StreamRefines.sameGop {gst : UInt64Scale} {spts : SpTs W} {record : SpTsStream}
    {stream : ElementaryStream} {counter : ℕ} (h : StreamRefines record stream counter)
    {buffer : GstBuffer} {written : SpTs W × SpTsStream}
    (hwrite : sptsStreamWrite gst spts record buffer = .ok written) :
    (∃ packets, written.1 = spts.emit packets) ∧ SameGop written.2 record := by
  obtain ⟨tspacket, -, hunit⟩ :=
    exists_sptsStreamWrite gst spts h buffer (holds_of_sptsStreamWrite h hwrite)
  rw [hwrite] at hunit
  rw [Except.ok.inj hunit]
  exact ⟨⟨_, rfl⟩, rfl, rfl⟩

/-- The record of a stream after the GOP before a frame has ended, if it has. -/
def SpTsStream.atFrame (stream : SpTsStream) (buffer : GstBuffer) : SpTsStream :=
  if buffer.isIdr then stream.gopEnd else stream

section Records

variable {gst : UInt64Scale} {spts next : SpTs W} {program : Program} {state : MuxState}
  (h : Refines spts program state) {buffer : GstBuffer} {result : Bool} {video audio : SpTsStream}
  (hvideo : spts.videoStream = some video) (haudio : spts.audioStream = some audio)
  (hwrite : sptsWriteFrame gst spts buffer = .ok (result, next))
include h hvideo haudio hwrite

/-- An audio frame changes no GOP record. -/
theorem sameGop_of_audio_frame (hcaps : buffer.caps = .audioMpeg) :
    ∃ nextVideo nextAudio, next.videoStream = some nextVideo ∧
      next.audioStream = some nextAudio ∧ SameGop nextVideo video ∧ SameGop nextAudio audio := by
  obtain ⟨record, hrecord, hrefines⟩ := h.audio
  obtain rfl : audio = record := Option.some.inj (haudio.symm.trans hrecord)
  rw [sptsWriteFrame, hcaps] at hwrite
  dsimp only at hwrite
  split_ifs at hwrite with hzero
  · obtain ⟨-, rfl⟩ := Prod.mk.inj (Except.ok.inj hwrite)
    exact ⟨video, audio, hvideo, haudio, ⟨rfl, rfl⟩, rfl, rfl⟩
  · rw [haudio] at hwrite
    change sptsStreamWrite gst spts audio buffer >>= _ = _ at hwrite
    obtain ⟨written, hstream, hnext⟩ := exists_of_bind_eq_ok hwrite
    obtain ⟨⟨packets, hpackets⟩, hsame⟩ := hrefines.sameGop hstream
    obtain ⟨-, rfl⟩ := Prod.mk.inj (Except.ok.inj hnext)
    refine ⟨video, written.2, ?_, rfl, ⟨rfl, rfl⟩, hsame⟩
    rw [hpackets]
    exact hvideo

/-- A video frame that begins a GOP ends the one before it, on both streams. -/
theorem sameGop_of_video_frame (hcaps : buffer.caps = .videoXH264) :
    ∃ nextVideo nextAudio, next.videoStream = some nextVideo ∧
      next.audioStream = some nextAudio ∧ SameGop nextVideo (video.atFrame buffer) ∧
        SameGop nextAudio (audio.atFrame buffer) := by
  obtain ⟨record, hrecord, hrefines⟩ := h.video
  obtain rfl : video = record := Option.some.inj (hvideo.symm.trans hrecord)
  have hisIdr : buffer.isIdr = !buffer.deltaUnit := by
    simp [GstBuffer.isIdr, GstBuffer.isVideo, hcaps]
  -- Once the GOP has begun, only the frame itself is left to write.
  have hfinish {begun : SpTs W} {started other : SpTsStream}
      (hstarted : StreamRefines started program.video state.video)
      (hother : begun.audioStream = some other)
      (hframe : (do
        let written ← sptsStreamWrite gst begun started buffer
        pure (true, { written.1 with videoStream := some written.2 })) =
          Except.ok (result, next)) :
      ∃ nextVideo, next.videoStream = some nextVideo ∧ next.audioStream = some other ∧
        SameGop nextVideo started := by
    obtain ⟨written, hstream, hnext⟩ := exists_of_bind_eq_ok hframe
    obtain ⟨⟨packets, hpackets⟩, hsame⟩ := hstarted.sameGop hstream
    obtain ⟨-, rfl⟩ := Prod.mk.inj (Except.ok.inj hnext)
    refine ⟨written.2, rfl, ?_, hsame⟩
    rw [hpackets]
    exact hother
  rw [sptsWriteFrame, hcaps] at hwrite
  dsimp only at hwrite
  rw [hvideo, deref_some] at hwrite
  obtain ⟨stream, hstream, hwrite⟩ := exists_of_bind_eq_ok hwrite
  obtain rfl := Except.ok.inj hstream
  split_ifs at hwrite with hdelta
  · have hstarted : StreamRefines { video with framesCounter := video.framesCounter + 1 }
        program.video state.video :=
      hrefines.recount _ _
    obtain ⟨nextVideo, hnext, hnextAudio, hsame⟩ := hfinish hstarted haudio hwrite
    rw [SpTsStream.atFrame, SpTsStream.atFrame, hisIdr, hdelta]
    exact ⟨nextVideo, audio, hnext, hnextAudio, hsame, rfl, rfl⟩
  · obtain ⟨⟨begun, started⟩, hbegin, hframe⟩ := exists_of_bind_eq_ok hwrite
    obtain ⟨other, hother, hbegun⟩ := exists_of_sptsGopBegin hbegin
    obtain rfl := Option.some.inj (haudio.symm.trans hother)
    obtain ⟨rfl, rfl⟩ := Prod.mk.inj hbegun
    have hended : (spts.gopBegun audio).audioStream = some audio.gopEnd := rfl
    have hstarted : StreamRefines ({ video with
        framesCounter := video.framesCounter + 1
        lastGopFramesCounter := video.framesCounter + 1 } : SpTsStream).gopEnd
        program.video state.video :=
      (hrefines.recount _ _).gopEnd
    obtain ⟨nextVideo, hnext, hnextAudio, hsame⟩ := hfinish hstarted hended hframe
    rw [SpTsStream.atFrame, SpTsStream.atFrame, hisIdr, Bool.eq_false_iff.mpr hdelta]
    exact ⟨nextVideo, audio.gopEnd, hnext, hnextAudio, hsame, rfl, rfl⟩

/-- What a call does to the GOP records of both streams. -/
theorem sameGop_of_sptsWriteFrame :
    ∃ nextVideo nextAudio, next.videoStream = some nextVideo ∧
      next.audioStream = some nextAudio ∧ SameGop nextVideo (video.atFrame buffer) ∧
        SameGop nextAudio (audio.atFrame buffer) := by
  cases hcaps : buffer.caps with
  | videoXH264 => exact sameGop_of_video_frame h hvideo haudio hwrite hcaps
  | audioMpeg =>
      have hother : ¬buffer.isIdr = true := by simp [GstBuffer.isIdr, GstBuffer.isVideo, hcaps]
      rw [SpTsStream.atFrame, SpTsStream.atFrame, if_neg hother, if_neg hother]
      exact sameGop_of_audio_frame h hvideo haudio hwrite hcaps
  | other =>
      rw [sptsWriteFrame, hcaps] at hwrite
      cases hwrite

end Records

theorem toNat_gopEnd {stream : SpTsStream}
    (h : stream.lastGopPacketsCounter.toNat ≤ stream.packetsCounter.toNat) :
    stream.gopEnd.maxGopPackets.toNat = max stream.maxGopPackets.toNat
      (stream.packetsCounter.toNat - stream.lastGopPacketsCounter.toNat) := by
  have hsince : (stream.packetsCounter - stream.lastGopPacketsCounter).toNat =
      stream.packetsCounter.toNat - stream.lastGopPacketsCounter.toNat :=
    UInt64.toNat_sub_of_le _ _ (UInt64.le_iff_toNat_le.mpr h)
  rw [← hsince]
  change UInt64.toNat (if stream.packetsCounter - stream.lastGopPacketsCounter >
    stream.maxGopPackets then _ else _) = _
  split_ifs with hmore
  · exact (Nat.max_eq_right (UInt64.lt_iff_toNat_lt.mp hmore).le).symm
  · exact (Nat.max_eq_left (UInt64.le_iff_toNat_le.mp (UInt64.not_lt.mp hmore))).symm

/-! ## The accounts of a stream -/

/-- The record of a stream against its packets: how many there are, how many there were at the
last IDR frame, and the most there have been between two IDR frames or before the first one. -/
structure StreamAccounts (total : List GstBuffer → ℕ) (buffers : List GstBuffer)
    (stream : SpTsStream) : Prop where
  counter : stream.packetsCounter.toNat = total buffers
  last_le : stream.lastGopPacketsCounter ≤ stream.packetsCounter
  peak : IsPeak GstBuffer.isIdr total buffers stream.lastGopPacketsCounter.toNat
    stream.maxGopPackets.toNat

/-- A call keeps the accounts of a stream. -/
theorem StreamAccounts.concat {total : List GstBuffer → ℕ} {before : List GstBuffer}
    {stream next : SpTsStream} (h : StreamAccounts total before stream) {buffer : GstBuffer}
    (hsame : SameGop next (stream.atFrame buffer))
    (hcounter : next.packetsCounter.toNat = total (before ++ [buffer]))
    (hmono : total before ≤ total (before ++ [buffer])) :
    StreamAccounts total (before ++ [buffer]) next := by
  have hlast := UInt64.le_iff_toNat_le.mp h.last_le
  obtain ⟨hlastEq, hmaxEq⟩ := hsame
  have hpeak : IsPeak GstBuffer.isIdr total (before ++ [buffer])
      next.lastGopPacketsCounter.toNat next.maxGopPackets.toNat := by
    rw [hlastEq, hmaxEq, SpTsStream.atFrame]
    split_ifs with hidr
    · rw [toNat_gopEnd hlast]
      change IsPeak _ _ _ stream.packetsCounter.toNat _
      rw [h.counter]
      exact h.peak.snoc_mark hidr
    · exact h.peak.snoc_other (Bool.eq_false_iff.mpr hidr)
  refine ⟨hcounter, ?_, hpeak⟩
  rw [UInt64.le_iff_toNat_le, hcounter, hlastEq, SpTsStream.atFrame]
  rw [h.counter] at hlast
  split_ifs
  · exact h.counter.trans_le hmono
  · exact hlast.trans hmono

theorem StreamAccounts.congr {total other : List GstBuffer → ℕ} {buffers : List GstBuffer}
    {stream : SpTsStream} (h : StreamAccounts total buffers stream)
    (hsame : ∀ before after, buffers = before ++ after → other before = total before) :
    StreamAccounts other buffers stream where
  counter := h.counter.trans (hsame buffers [] (List.append_nil _).symm).symm
  last_le := h.last_le
  peak := h.peak.congr hsame

theorem streamAccounts_nil {pid : UInt16} {streamId : UInt8} {stream : SpTsStream}
    (h : sptsStreamNew pid streamId = .ok stream) {total : List GstBuffer → ℕ}
    (htotal : total [] = 0) (pcr : Bool) :
    StreamAccounts total [] { stream with pcrReference := pcr } := by
  obtain ⟨tspacket, -, hnew⟩ := exists_of_bind_eq_ok h
  obtain rfl := Except.ok.inj hnew
  exact ⟨htotal.symm, UInt64.le_refl _, isPeak_nil htotal⟩

/-! ## Whole runs -/

/-- The number of packets on one PID that the calls for `buffers` hand on. -/
def packetsOn (gst : UInt64Scale) (results : List TsPacket → Bool) (setup : Setup)
    (videoPcr audioPcr : Bool) (number : ℕ) (buffers : List GstBuffer) : ℕ :=
  match writtenPackets gst results setup videoPcr audioPcr buffers with
  | .ok packets => (elementary number packets).length
  | .error _ => 0

/-- The packets of the machine on one PID, for the frames of some buffers. -/
def outputsOn (gst : UInt64Scale) (program : Program) (number : ℕ) (buffers : List GstBuffer) :
    ℕ :=
  ((outputsOf gst program buffers).filter (onPid number)).length

theorem outputsOn_concat (gst : UInt64Scale) (program : Program) (number : ℕ)
    (before : List GstBuffer) (buffer : GstBuffer) :
    outputsOn gst program number before ≤ outputsOn gst program number (before ++ [buffer]) := by
  rw [outputsOn, outputsOn, outputsOf_concat, List.filter_append, List.length_append]
  exact Nat.le_add_right _ _

theorem outputsOn_le (gst : UInt64Scale) (program : Program) (number : ℕ)
    (buffers : List GstBuffer) :
    outputsOn gst program number buffers ≤ (outputsOf gst program buffers).length :=
  List.length_filter_le _ _

section Accounts

variable {gst : UInt64Scale} {results : List TsPacket → Bool} {setup : Setup}
  {videoPcr audioPcr : Bool} {program : Program}
  (hcarries : CarriesOut setup videoPcr audioPcr program) {buffers : List GstBuffer}
  {final : SpTs (List TsPacket)}
  (hrun : runFrames gst results setup videoPcr audioPcr buffers = .ok final)
include hrun

theorem exists_streamAccounts_nil (hnil : buffers = []) :
    ∃ video audio, final.videoStream = some video ∧ final.audioStream = some audio ∧
      StreamAccounts (outputsOn gst program program.video.pid) buffers video ∧
      StreamAccounts (outputsOn gst program program.audio.pid) buffers audio := by
  subst hnil
  obtain ⟨spts, hsetup, hframes⟩ := exists_of_bind_eq_ok hrun
  obtain rfl : spts = final := Except.ok.inj hframes
  obtain ⟨new, -, hsetup⟩ := exists_of_bind_eq_ok hsetup
  obtain ⟨added, hadded, hsetup⟩ := exists_of_bind_eq_ok hsetup
  obtain ⟨⟨pmtTspacket, pmtSection⟩, -, hreferences⟩ := exists_of_bind_eq_ok hsetup
  obtain ⟨video, audio, hvideo, haudio, -, -⟩ := exists_streams
  rw [setup.addStreams_eq hvideo haudio] at hadded
  obtain rfl := Except.ok.inj hadded
  obtain rfl := Except.ok.inj hreferences
  exact ⟨_, _, rfl, rfl, streamAccounts_nil hvideo rfl videoPcr,
    streamAccounts_nil haudio rfl audioPcr⟩

include hcarries

theorem packetsOn_eq (number : ℕ) :
    packetsOn gst results setup videoPcr audioPcr number buffers =
      outputsOn gst program number buffers := by
  have hok := writtenPackets_of_runFrames hrun
  have hwritten := hcarries.written gst results buffers final.writeFuncData hok
  calc
    packetsOn gst results setup videoPcr audioPcr number buffers =
        (elementary number final.writeFuncData).length := by
      unfold packetsOn
      rw [hok]
    _ = (((outputsOf gst program buffers).filter (onPid number)).map Packet.encode).length := by
      rw [hwritten, elementary_blocks]
    _ = outputsOn gst program number buffers := List.length_map _

theorem exists_streamAccounts (hlength : (outputsOf gst program buffers).length < 2 ^ 64) :
    ∃ video audio, final.videoStream = some video ∧ final.audioStream = some audio ∧
      StreamAccounts (outputsOn gst program program.video.pid) buffers video ∧
      StreamAccounts (outputsOn gst program program.audio.pid) buffers audio := by
  induction buffers using List.reverseRecOn generalizing final with
  | nil => exact exists_streamAccounts_nil hrun rfl
  | append_singleton before buffer ih =>
      obtain ⟨middle, hmiddle, hcall⟩ := exists_runFrames_prefix hrun
      obtain ⟨next, hstep, hnil⟩ := foldlM_cons_eq_ok.mp hcall
      obtain rfl : next = final := Except.ok.inj hnil
      obtain ⟨result, hwrite⟩ := exists_of_writeStep hstep
      have hprefix : (outputsOf gst program before).length < 2 ^ 64 := by
        rw [outputsOf_concat, List.length_append] at hlength
        omega
      obtain ⟨video, audio, hvideo, haudio, hvideoAccounts, haudioAccounts⟩ := ih hmiddle hprefix
      obtain ⟨nextVideo, nextAudio, hnextVideo, hnextAudio, hsameVideo, hsameAudio⟩ :=
        sameGop_of_sptsWriteFrame (hcarries.refines gst results before middle hmiddle) hvideo haudio
          hwrite
      -- The counters of the records are those of the machine, which do not wrap around.
      have hrefines := hcarries.refines gst results _ next hrun
      have htallies := tallies_stateAfter gst hcarries.separate (before ++ [buffer])
      have hcounter {stream : SpTsStream} {count number : ℕ}
          (hstream : stream.packetsCounter = UInt64.ofNat count)
          (hcount : count = outputsOn gst program number (before ++ [buffer])) :
          stream.packetsCounter.toNat = outputsOn gst program number (before ++ [buffer]) := by
        have hle := outputsOn_le gst program number (before ++ [buffer])
        rw [hstream, hcount, UInt64.toNat_ofNat']
        exact Nat.mod_eq_of_lt (by omega)
      obtain ⟨_, hrecord, hvideoRefines⟩ := hrefines.video
      obtain rfl := Option.some.inj (hnextVideo.symm.trans hrecord)
      obtain ⟨_, hrecord, haudioRefines⟩ := hrefines.audio
      obtain rfl := Option.some.inj (hnextAudio.symm.trans hrecord)
      exact ⟨nextVideo, nextAudio, hnextVideo, hnextAudio,
        hvideoAccounts.concat hsameVideo (hcounter hvideoRefines.packetsCounter htallies.video)
          (outputsOn_concat _ _ _ _ _),
        haudioAccounts.concat hsameAudio (hcounter haudioRefines.packetsCounter htallies.audio)
          (outputsOn_concat _ _ _ _ _)⟩

end Accounts

/-- The counters of a program after a run, against the packets that it has handed on. -/
structure PacketAccounts (total : ℕ → List GstBuffer → ℕ) (buffers : List GstBuffer)
    (final : SpTs (List TsPacket)) (video audio : SpTsStream) : Prop where
  packets : final.packetsCounter.toNat = final.writeFuncData.length
  pats : final.gopCounter.toNat = (elementary patPid.toNat final.writeFuncData).length
  pmts : final.gopCounter.toNat = (elementary pmtPid.toNat final.writeFuncData).length
  sum : final.packetsCounter.toNat = video.packetsCounter.toNat + audio.packetsCounter.toNat +
    2 * final.gopCounter.toNat + (elementary 0x1fff final.writeFuncData).length
  video : StreamAccounts (total videoPid.toNat) buffers video
  audio : StreamAccounts (total audioPid.toNat) buffers audio

/-- Every packet of a run is accounted for, as long as the packet counter does not wrap around. -/
theorem packets_accounted (gst : UInt64Scale) (results : List TsPacket → Bool) (setup : Setup)
    (videoPcr audioPcr : Bool) {buffers : List GstBuffer} {final : SpTs (List TsPacket)}
    (hrun : runFrames gst results setup videoPcr audioPcr buffers = .ok final)
    (hlength : final.writeFuncData.length < 2 ^ 64) :
    ∃ video audio, final.videoStream = some video ∧ final.audioStream = some audio ∧
      PacketAccounts (packetsOn gst results setup videoPcr audioPcr) buffers final video audio := by
  obtain ⟨program, hcarries⟩ := setup.exists_carriesOut videoPcr audioPcr
  have hwritten := hcarries.written gst results buffers final.writeFuncData
    (writtenPackets_of_runFrames hrun)
  have houtputs : final.writeFuncData.length = (outputsOf gst program buffers).length := by
    rw [hwritten, List.length_map]
  have hview (number : ℕ) : (elementary number final.writeFuncData).length =
      ((outputsOf gst program buffers).filter (onPid number)).length := by
    rw [hwritten, elementary_blocks, List.length_map]
  rw [houtputs] at hlength
  obtain ⟨video, audio, hvideo, haudio, hvideoAccounts, haudioAccounts⟩ :=
    exists_streamAccounts hcarries hrun hlength
  have hrefines := hcarries.refines gst results buffers final hrun
  have htallies := tallies_stateAfter gst hcarries.separate buffers
  have hcount : (stateAfter gst program buffers).packets =
      (outputsOf gst program buffers).length :=
    (packets_run program .initial _).trans (Nat.zero_add _)
  have hpackets : final.packetsCounter.toNat = (outputsOf gst program buffers).length := by
    rw [hrefines.packetsCounter, UInt64.toNat_ofNat', hcount, Nat.mod_eq_of_lt hlength]
  have hgops : final.gopCounter.toNat = (stateAfter gst program buffers).gops := by
    have hsum := htallies.sum
    rw [hrefines.gopCounter, UInt64.toNat_ofNat']
    exact Nat.mod_eq_of_lt (by omega)
  have hsame (number : ℕ) (before after : List GstBuffer) (hsplit : buffers = before ++ after) :
      packetsOn gst results setup videoPcr audioPcr number before =
        outputsOn gst program number before := by
    subst hsplit
    obtain ⟨middle, hmiddle, -⟩ := exists_runFrames_prefix hrun
    exact packetsOn_eq hcarries hmiddle number
  refine ⟨video, audio, hvideo, haudio, ?_, ?_, ?_, ?_, ?_, ?_⟩
  · rw [hpackets, houtputs]
  · rw [hgops, hview]
    exact htallies.pats
  · rw [hgops, hview]
    exact htallies.pmts
  · rw [hpackets, hvideoAccounts.counter, haudioAccounts.counter, hgops, hview, htallies.sum,
      htallies.video, htallies.audio, outputsOn, outputsOn]
  · rw [← hcarries.video_pid]
    exact hvideoAccounts.congr (hsame _)
  · rw [← hcarries.audio_pid]
    exact haudioAccounts.congr (hsame _)

/-- Two IDR frames of no bytes: the second one ends the first GOP. -/
theorem packets_accounted_two_gops :
    ∃ final video audio, runFrames gstUtilUint64Scale (fun _ ↦ true) plainSetup true false
        [⟨.videoXH264, false, 0, [], by decide⟩, ⟨.videoXH264, false, 0, [], by decide⟩] =
          .ok final ∧
      final.videoStream = some video ∧ final.audioStream = some audio ∧
      PacketAccounts (packetsOn gstUtilUint64Scale (fun _ ↦ true) plainSetup true false)
        [⟨.videoXH264, false, 0, [], by decide⟩, ⟨.videoXH264, false, 0, [], by decide⟩] final
        video audio := by
  let idr : GstBuffer := ⟨.videoXH264, false, 0, [], by decide⟩
  obtain ⟨packets, hok, hlength⟩ := exists_writtenPackets gstUtilUint64Scale (fun _ ↦ true)
    plainSetup true false (show ∀ buffer ∈ [idr, idr], buffer.caps ≠ .other by decide)
    (show ∀ buffer ∈ [idr, idr], buffer.data.length ≤ 0 by decide) (by decide) (by decide)
  obtain ⟨final, hrun, rfl⟩ := writtenPackets_eq_ok hok
  obtain ⟨video, audio, hvideo, haudio, haccounts⟩ :=
    packets_accounted gstUtilUint64Scale (fun _ ↦ true) plainSetup true false hrun hlength
  exact ⟨final, video, audio, hrun, hvideo, haudio, haccounts⟩

end SpTsMuxer.Spts
