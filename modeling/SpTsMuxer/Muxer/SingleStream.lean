import SpTsMuxer.Muxer.Arrivals
import SpTsMuxer.Spts.Calls
import SpTsMuxer.Spts.Index

/-!
# Programs with One Stream

The first collection finds a stream for the clock whichever pads there are.  The beginning of a
GOP, however, is recorded in both streams, and audio frames wait for a packet of video.  With video
pads only, the first IDR frame goes through the null pointer of the audio stream; with audio pads
only, nothing is ever sent.
-/

namespace SpTsMuxer.Muxer

open Memory Transport Machine Pes Psi Spts

variable {W : Type}

/-! ## With an audio stream -/

/-- There is an audio stream, and a video stream if there is a video pad. -/
structure HasStreams (templates : List PadTemplate) (spts : SpTs W) : Prop where
  audio : spts.audioStream.isSome = true
  video : .video ∈ templates → spts.videoStream.isSome = true

theorem HasStreams.not_missesStream {templates : List PadTemplate} {spts : SpTs W}
    (h : HasStreams templates spts) {buffer : GstBuffer} {templ : PadTemplate}
    (htempl : templ ∈ templates) (haccepts : templ.Accepts buffer) :
    ¬MissesStream spts buffer := by
  have haudio : spts.audioStream ≠ none := Option.isSome_iff_ne_none.mp h.audio
  rw [MissesStream]
  cases templ with
  | video =>
      have hvideo : spts.videoStream ≠ none := Option.isSome_iff_ne_none.mp (h.video htempl)
      rw [show buffer.caps = .videoXH264 from haccepts]
      rintro (hnone | ⟨-, hnone⟩)
      · exact hvideo hnone
      · exact haudio hnone
  | audio =>
      rw [show buffer.caps = .audioMpeg from haccepts]
      rintro ⟨-, hnone⟩
      exact haudio hnone
  | unknown => exact haccepts.elim

theorem HasStreams.ends {templates : List PadTemplate} {spts : SpTs W}
    (h : HasStreams templates spts) (gst : UInt64Scale) {buffers : List GstBuffer}
    (harrive : ArriveOn templates buffers) :
    Ends (· ≠ .nullPointer) (HasStreams templates) (sptsWriteFrames gst spts buffers) := by
  refine Ends.foldlM (fun state buffer hmem hstate ↦ ?_) h
  obtain ⟨templ, htempl, haccepts⟩ := harrive buffer hmem
  refine ((ends_sptsWriteFrame gst state buffer).mono ?_ ?_).map
  · rintro fault hfault rfl
    exact hstate.not_missesStream htempl haccepts hfault
  · rintro ⟨result, next⟩ ⟨-, ⟨-, -, rfl⟩ | ⟨packets, -, hwritten⟩⟩
    · exact hstate
    · refine ⟨hwritten.audio.trans hstate.audio, fun hvideo ↦ ?_⟩
      exact hwritten.video.trans (hstate.video hvideo)

/-! ## Without an audio stream -/

/-- There is a video stream with the clock, and no audio stream. -/
structure VideoOnly (spts : SpTs W) : Prop where
  audio : spts.audioStream = none
  video : ∃ record counter, spts.videoStream = some record ∧
    StreamRefines record (.h264 true) counter

/-- The frame is too long for a packet with the clock. -/
def TooLong (buffer : GstBuffer) : Prop := 2 ^ 32 - 22 ≤ buffer.data.length

/-- Any IDR frame comes after a frame that is too long. -/
def StopsBeforeIdr (buffers : List GstBuffer) : Prop :=
  ∀ before idr after, buffers = before ++ idr :: after → idr.isIdr = true →
    ∃ buffer ∈ before, TooLong buffer

theorem stopsBeforeIdr_nil : StopsBeforeIdr [] := by
  intro before idr after hsplit
  simp at hsplit

theorem stopsBeforeIdr_cons {buffer : GstBuffer} {rest : List GstBuffer} :
    StopsBeforeIdr (buffer :: rest) ↔
      ¬buffer.isIdr = true ∧ (TooLong buffer ∨ StopsBeforeIdr rest) := by
  constructor
  · intro h
    refine ⟨fun hidr ↦ ?_, or_iff_not_imp_left.mpr fun hshort ↦ ?_⟩
    · obtain ⟨other, hmem, -⟩ := h [] buffer rest rfl hidr
      exact List.not_mem_nil hmem
    · rintro before idr after rfl hidr
      obtain ⟨other, hmem, hlong⟩ := h (buffer :: before) idr after rfl hidr
      rcases List.mem_cons.mp hmem with rfl | hmem
      · exact absurd hlong hshort
      · exact ⟨other, hmem, hlong⟩
  · rintro ⟨hfirst, hrest⟩ before idr after hsplit hidr
    cases before with
    | nil =>
        obtain ⟨rfl, -⟩ := List.cons.inj hsplit
        exact absurd hidr hfirst
    | cons first before =>
        obtain ⟨rfl, htail⟩ := List.cons.inj hsplit
        rcases hrest with hlong | hrest
        · exact ⟨buffer, List.mem_cons_self, hlong⟩
        · obtain ⟨other, hmem, hlong⟩ := hrest before idr after htail hidr
          exact ⟨other, List.mem_cons_of_mem buffer hmem, hlong⟩

section VideoOnly

variable (gst : UInt64Scale) {spts : SpTs W} (h : VideoOnly spts) {buffer : GstBuffer}
  (hcaps : buffer.caps = .videoXH264)
include h hcaps

/-- An IDR frame goes through the null pointer of the audio stream. -/
theorem VideoOnly.writeStep_idr (hidr : buffer.isIdr = true) :
    writeStep gst spts buffer = .error .nullPointer := by
  have hdelta : buffer.deltaUnit = false := by
    rw [GstBuffer.isIdr, Bool.and_eq_true, Bool.not_eq_true'] at hidr
    exact hidr.2
  obtain ⟨record, counter, hrecord, -⟩ := h.video
  unfold writeStep sptsWriteFrame
  rw [hcaps, hrecord]
  dsimp only [deref_some, bind, Except.bind]
  rw [hdelta, if_neg Bool.false_ne_true, sptsGopBegin_of_none h.audio]
  rfl

theorem VideoOnly.exists_writeStep (hidr : ¬buffer.isIdr = true) :
    ∃ record counter, StreamRefines record (.h264 true) counter ∧
      writeStep gst spts buffer = Except.map
        (fun written ↦ { written.1 with videoStream := some written.2 })
        (sptsStreamWrite gst spts record buffer) := by
  have hdelta : buffer.deltaUnit = true := by
    rw [GstBuffer.isIdr, GstBuffer.isVideo, hcaps] at hidr
    simpa using hidr
  obtain ⟨record, counter, hrecord, hrefines⟩ := h.video
  refine ⟨{ record with framesCounter := record.framesCounter + 1 }, counter,
    hrefines.recount _ _, ?_⟩
  unfold writeStep sptsWriteFrame
  rw [hcaps, hrecord]
  dsimp only [deref_some, bind, Except.bind]
  rw [hdelta, if_pos rfl]
  dsimp only [pure, Except.pure]
  cases sptsStreamWrite gst spts _ buffer with
  | error fault => rfl
  | ok written => rfl

theorem VideoOnly.writeStep_tooLong (hidr : ¬buffer.isIdr = true) (hlong : TooLong buffer) :
    writeStep gst spts buffer = .error .outOfBounds := by
  obtain ⟨record, counter, hrefines, hstep⟩ := h.exists_writeStep gst hcaps hidr
  rw [hstep]
  cases hwrite : sptsStreamWrite gst spts record buffer with
  | error fault =>
      obtain rfl := (ends_sptsStreamWrite gst spts record buffer).of_error hwrite
      rfl
  | ok written => exact absurd (holds_of_sptsStreamWrite hrefines hwrite) (Nat.not_lt.mpr hlong)

theorem VideoOnly.exists_next (hidr : ¬buffer.isIdr = true) (hshort : ¬TooLong buffer) :
    ∃ next, writeStep gst spts buffer = .ok next ∧ VideoOnly next := by
  obtain ⟨record, counter, hrefines, hstep⟩ := h.exists_writeStep gst hcaps hidr
  obtain ⟨tspacket, hbears, hwrite⟩ :=
    exists_sptsStreamWrite gst spts hrefines buffer (Nat.lt_of_not_le hshort)
  rw [hwrite] at hstep
  exact ⟨_, hstep, h.audio, _, _, rfl, hrefines.written hbears _⟩

end VideoOnly

/-- Without an audio stream the first IDR frame goes through a null pointer. -/
theorem VideoOnly.ne_nullPointer_iff (gst : UInt64Scale) {spts : SpTs W} (h : VideoOnly spts)
    {buffers : List GstBuffer} (hcaps : ∀ buffer ∈ buffers, buffer.caps = .videoXH264) :
    sptsWriteFrames gst spts buffers ≠ .error .nullPointer ↔ StopsBeforeIdr buffers := by
  induction buffers generalizing spts with
  | nil => exact iff_of_true (by simp [sptsWriteFrames, pure, Except.pure]) stopsBeforeIdr_nil
  | cons buffer rest ih =>
      have hbuffer := hcaps buffer List.mem_cons_self
      have hrest := fun other hmem ↦ hcaps other (List.mem_cons_of_mem buffer hmem)
      rw [stopsBeforeIdr_cons, sptsWriteFrames]
      by_cases hidr : buffer.isIdr = true
      · rw [foldlM_cons_of_error (h.writeStep_idr gst hbuffer hidr) rest]
        exact iff_of_false (fun hne ↦ hne rfl) fun hand ↦ hand.1 hidr
      · rw [and_iff_right hidr]
        by_cases hlong : TooLong buffer
        · rw [foldlM_cons_of_error (h.writeStep_tooLong gst hbuffer hidr hlong) rest]
          exact iff_of_true (by simp) (.inl hlong)
        · obtain ⟨next, hnext, hvideoOnly⟩ := h.exists_next gst hbuffer hidr hlong
          rw [foldlM_cons_of_ok hnext, or_iff_right hlong]
          exact ih hvideoOnly hrest

/-! ## Null pointers -/

/-- An audio pad is requested, or there is no IDR frame. -/
def AudioNotMissed (templates : List PadTemplate) (buffers : List GstBuffer) : Prop :=
  .audio ∈ templates ∨ ∀ buffer ∈ buffers, ¬buffer.isIdr = true

/-- The PMT has room for the pads, and no frame is too long. -/
structure InBounds (templates : List PadTemplate) (buffers : List GstBuffer) : Prop where
  pads : (templates.countP fun templ ↦ templ ≠ .unknown) ≤ 33
  frames : ∀ buffer ∈ buffers, ¬TooLong buffer

/-- An audio pad is requested, or no IDR frame is reached: already the requests are out of bounds,
or a frame before it. -/
def AudioNotReached (templates : List PadTemplate) (buffers : List GstBuffer) : Prop :=
  .audio ∈ templates ∨ 33 < (templates.countP fun templ ↦ templ ≠ .unknown) ∨
    StopsBeforeIdr buffers

/-- Within the bounds every IDR frame is reached. -/
theorem InBounds.notReached_iff {templates : List PadTemplate} {buffers : List GstBuffer}
    (h : InBounds templates buffers) :
    AudioNotReached templates buffers ↔ AudioNotMissed templates buffers := by
  rw [AudioNotReached, AudioNotMissed, or_iff_right (Nat.not_lt.mpr h.pads)]
  refine or_congr_right ⟨fun hstops idr hmem hidr ↦ ?_, fun hnone before idr after hsplit hidr ↦ ?_⟩
  · obtain ⟨before, after, rfl⟩ := List.append_of_mem hmem
    obtain ⟨buffer, hbuffer, hlong⟩ := hstops before idr after rfl hidr
    exact h.frames buffer (List.mem_append_left _ hbuffer) hlong
  · have hmem : idr ∈ buffers := by rw [hsplit]; simp
    exact absurd hidr (hnone idr hmem)

theorem exists_granted (writeFunc : W → TsPacket → Bool × W) (writeFuncData : W)
    {templates : List PadTemplate} (hroom : (templates.countP fun templ ↦ templ ≠ .unknown) ≤ 33) :
    ∃ muxer, setUpMuxer writeFunc writeFuncData (grantedRequests templates) = .ok muxer ∧
      muxer.spts.writeFunc = writeFunc ∧ muxer.spts.writeFuncData = writeFuncData ∧
      muxer.spts.packetsCounter = 0 ∧
      (.audio ∈ templates → HasStreams templates muxer.spts) ∧
      (.audio ∉ templates → .video ∈ templates → VideoOnly muxer.spts) := by
  rw [← streamCount_grantedRequests] at hroom
  obtain ⟨hvideoIff, haudioIff⟩ := mem_requestedEntries_granted templates
  obtain ⟨requested, muxer, hmuxer, hrequested, hunused, hclock, hannounces⟩ :=
    exists_setUpMuxer writeFunc writeFuncData (grantedRequests templates) hroom
  obtain ⟨hfunc, hdata, hcounter⟩ := hclock.written
  refine ⟨muxer, hmuxer, hfunc.trans hunused.writeFunc, hdata.trans hunused.writeFuncData,
    hcounter.trans hunused.packetsCounter, fun haudio ↦ ⟨?_, fun hvideo ↦ ?_⟩,
    fun haudio hvideo ↦ ?_⟩
  · rw [hannounces.audio, if_pos (List.mem_append_left _ (haudioIff.mpr haudio))]
  · rw [hannounces.video, if_pos (List.mem_append_left _ (hvideoIff.mpr hvideo))]
  · obtain ⟨record, hrecord⟩ := hrequested.exists_videoStream (hvideoIff.mpr hvideo)
    obtain ⟨hnext, hkept⟩ := hclock.video_audio hrecord
    obtain ⟨video, -, hnew, -, hrefines, -⟩ := exists_streams
    obtain rfl : video = record := Except.ok.inj (hnew.symm.trans (hunused.video record hrecord))
    refine ⟨hkept.trans ?_, _, 0, hnext, hrefines true⟩
    exact hrequested.audioStream_eq_none (mt haudioIff.mp haudio)

theorem setUpMuxer_granted_full (writeFunc : W → TsPacket → Bool × W) (writeFuncData : W)
    {templates : List PadTemplate} (hfull : 33 < templates.countP fun templ ↦ templ ≠ .unknown) :
    setUpMuxer writeFunc writeFuncData (grantedRequests templates) = .error .outOfBounds := by
  rw [← streamCount_grantedRequests] at hfull
  exact setUpMuxer_full writeFunc writeFuncData _ hfull

section NullPointers

variable (gst : UInt64Scale) (writeFunc : W → TsPacket → Bool × W) (writeFuncData : W)

theorem writtenFrames_ne_nullPointer {templates : List PadTemplate} {buffers : List GstBuffer}
    (harrive : ArriveOn templates buffers) :
    writtenFrames gst writeFunc writeFuncData templates buffers ≠ .error .nullPointer ↔
      AudioNotReached templates buffers := by
  unfold writtenFrames
  by_cases hfull : 33 < templates.countP fun templ ↦ templ ≠ .unknown
  · rw [setUpMuxer_granted_full writeFunc writeFuncData hfull]
    exact iff_of_true nofun (.inr (.inl hfull))
  · obtain ⟨muxer, hmuxer, -, -, -, hwithAudio, hwithout⟩ :=
      exists_granted writeFunc writeFuncData (Nat.le_of_not_lt hfull)
    rw [hmuxer]
    change sptsWriteFrames gst muxer.spts buffers ≠ _ ↔ _
    by_cases haudio : .audio ∈ templates
    · have hends := (hwithAudio haudio).ends gst harrive
      exact iff_of_true (fun herror ↦ hends.of_error herror rfl) (.inl haudio)
    · have hvideo : ∀ buffer ∈ buffers, .video ∈ templates ∧ buffer.caps = .videoXH264 := by
        intro buffer hmem
        obtain ⟨templ, htempl, haccepts⟩ := harrive buffer hmem
        cases templ with
        | video => exact ⟨htempl, haccepts⟩
        | audio => exact absurd htempl haudio
        | unknown => exact haccepts.elim
      rw [AudioNotReached, or_iff_right haudio, or_iff_right hfull]
      cases buffers with
      | nil => exact iff_of_true nofun stopsBeforeIdr_nil
      | cons buffer rest =>
          exact (hwithout haudio (hvideo buffer List.mem_cons_self).1).ne_nullPointer_iff gst
            fun other hmem ↦ (hvideo other hmem).2

theorem collectedFrames_ne_nullPointer (pads : List SinkPad) (calls : ℕ) :
    collectedFrames gst writeFunc writeFuncData pads calls ≠ .error .nullPointer ↔
      AudioNotReached (pads.map SinkPad.templ) (takenFrames pads calls) := by
  rcases Nat.eq_zero_or_pos calls with rfl | hcalls
  · refine iff_of_true (fun herror ↦ ?_) (.inr (.inr stopsBeforeIdr_nil))
    have hnone : ArriveOn (pads.map SinkPad.templ) [] := fun _ ↦ nofun
    refine (writtenFrames_ne_nullPointer gst writeFunc writeFuncData hnone).mpr
      (.inr (.inr stopsBeforeIdr_nil)) ?_
    unfold collectedFrames at herror
    unfold writtenFrames setUpMuxer
    cases hnew : sptsmuxerInit writeFunc writeFuncData with
    | error fault =>
        rw [hnew] at herror
        exact congrArg _ (Except.error.inj herror)
    | ok new =>
        rw [hnew] at herror
        change (requestPads _ new >>= _) = _ at herror
        change ((grantedRequests _).foldlM requestPad new >>= firstCollection) >>= _ = _
        rw [← requestPads_eq]
        cases hpads : requestPads (pads.map SinkPad.templ) new with
        | error fault =>
            rw [hpads] at herror
            exact congrArg _ (Except.error.inj herror)
        | ok requested =>
            rw [hpads] at herror
            cases herror
  · rw [← writtenFrames_ne_nullPointer gst writeFunc writeFuncData
      (arriveOn_takenFrames pads calls), ← spts_collectedFrames gst writeFunc writeFuncData pads
      hcalls]
    exact not_congr map_eq_error.symm

/-- No missing stream is accessed, by the calls of `spts_write_frame` for any frames that arrive on
the pads and by the calls of `sptsmuxer_collected`, exactly if an audio pad is requested or no IDR
frame is reached.  Within the bounds of the PMT and of the frames this is exactly if an audio pad is
requested or there is no IDR frame. -/
theorem no_null_access_iff :
    (∀ templates buffers, ArriveOn templates buffers →
      (writtenFrames gst writeFunc writeFuncData templates buffers ≠ .error .nullPointer ↔
        AudioNotReached templates buffers) ∧
      (InBounds templates buffers →
        (writtenFrames gst writeFunc writeFuncData templates buffers ≠ .error .nullPointer ↔
          AudioNotMissed templates buffers))) ∧
      ∀ pads calls,
        (collectedFrames gst writeFunc writeFuncData pads calls ≠ .error .nullPointer ↔
          AudioNotReached (pads.map SinkPad.templ) (takenFrames pads calls)) ∧
        (InBounds (pads.map SinkPad.templ) (takenFrames pads calls) →
          (collectedFrames gst writeFunc writeFuncData pads calls ≠ .error .nullPointer ↔
            AudioNotMissed (pads.map SinkPad.templ) (takenFrames pads calls))) := by
  refine ⟨fun templates buffers harrive ↦ ?_, fun pads calls ↦ ?_⟩
  · have hreached := writtenFrames_ne_nullPointer gst writeFunc writeFuncData harrive
    exact ⟨hreached, fun hbounds ↦ hreached.trans hbounds.notReached_iff⟩
  · have hreached := collectedFrames_ne_nullPointer gst writeFunc writeFuncData pads calls
    exact ⟨hreached, fun hbounds ↦ hreached.trans hbounds.notReached_iff⟩

end NullPointers

/-- An IDR frame of one byte. -/
def idrFrame : GstBuffer := byteFrame .videoXH264 0 0x65

theorem inBounds_idrFrame {templates : List PadTemplate}
    (hpads : (templates.countP fun templ ↦ templ ≠ .unknown) ≤ 33) :
    InBounds templates [idrFrame] := by
  refine ⟨hpads, fun buffer hmem ↦ ?_⟩
  obtain rfl := List.mem_singleton.mp hmem
  exact show ¬2 ^ 32 - 22 ≤ 1 by decide

/-- A video and an audio pad, and an IDR frame. -/
theorem no_null_access_two_pads :
    ArriveOn [.video, .audio] [idrFrame] ∧ InBounds [.video, .audio] [idrFrame] ∧
      writtenFrames gstUtilUint64Scale (recorder fun _ ↦ true) [] [.video, .audio] [idrFrame] ≠
        .error .nullPointer := by
  have harrive : ArriveOn [.video, .audio] [idrFrame] := by
    rintro buffer hmem
    obtain rfl := List.mem_singleton.mp hmem
    exact ⟨.video, by decide, rfl⟩
  have hbounds : InBounds [.video, .audio] [idrFrame] := inBounds_idrFrame (by decide)
  exact ⟨harrive, hbounds, (((no_null_access_iff gstUtilUint64Scale (recorder fun _ ↦ true) []).1
    _ _ harrive).2 hbounds).mpr (.inl (by decide))⟩

/-- A video pad that delivers an IDR frame. -/
def videoPad : SinkPad where
  templ := .video
  collect := [idrFrame]
  accepts := by
    intro buffer hmem
    obtain rfl := List.mem_singleton.mp hmem
    rfl

/-- A video pad alone, and the first call of the collector. -/
theorem null_access_video_pad :
    collectedFrames gstUtilUint64Scale (recorder fun _ ↦ true) [] [videoPad] 1 =
      .error .nullPointer := by
  by_contra hne
  have htaken : takenFrames [videoPad] 1 = [] ++ idrFrame :: [] := rfl
  rcases (collectedFrames_ne_nullPointer _ _ _ _ _).mp hne with haudio | hfull | hstops
  · exact absurd haudio (by decide)
  · exact absurd hfull (by decide)
  · obtain ⟨buffer, hmem, -⟩ := hstops [] idrFrame [] htaken rfl
    exact List.not_mem_nil hmem

/-! ## Audio only -/

/-- The packets contain both tables, and what they carry on the audio PID is the data of the frames
in order, each behind some header. -/
def MuxesAudio (buffers : List GstBuffer) (result : Except Fault (List TsPacket)) : Prop :=
  ∃ packets, result = .ok packets ∧
    (∃ pat ∈ packets, Transport.pid pat.cells = patPid.toNat) ∧
    (∃ pmt ∈ packets, Transport.pid pmt.cells = pmtPid.toNat) ∧
    ∃ headers : List (List UInt8), headers.length = buffers.length ∧
      (elementary audioPid.toNat packets).flatMap Transport.payload =
        (List.zipWith (fun header buffer ↦ header ++ buffer.data) headers buffers).flatten

theorem not_muxesAudio_nil (buffers : List GstBuffer) : ¬MuxesAudio buffers (.ok []) := by
  rintro ⟨packets, hpackets, ⟨pat, hmem, -⟩, -⟩
  rw [← Except.ok.inj hpackets] at hmem
  exact List.not_mem_nil hmem

theorem sptsWriteFrames_dropped (gst : UInt64Scale) {spts : SpTs W}
    (hcounter : spts.packetsCounter = 0) {buffers : List GstBuffer}
    (hcaps : ∀ buffer ∈ buffers, buffer.caps = .audioMpeg) :
    sptsWriteFrames gst spts buffers = .ok spts := by
  induction buffers with
  | nil => rfl
  | cons buffer rest ih =>
      have hdropped : writeStep gst spts buffer = .ok spts := by
        unfold writeStep sptsWriteFrame
        rw [hcaps buffer List.mem_cons_self]
        dsimp only
        rw [if_pos hcounter]
        rfl
      calc
        sptsWriteFrames gst spts (buffer :: rest) = sptsWriteFrames gst spts rest :=
          foldlM_cons_of_ok hdropped rest
        _ = .ok spts := ih fun other hmem ↦ hcaps other (List.mem_cons_of_mem buffer hmem)

theorem muxedPackets_eq_written (gst : UInt64Scale) (results : List TsPacket → Bool)
    (templates : List PadTemplate) (buffers : List GstBuffer) :
    muxedPackets gst results templates buffers =
      SpTs.writeFuncData <$> writtenFrames gst (recorder results) [] templates buffers := by
  have hstarted : startedMuxer results templates =
      setUpMuxer (recorder results) [] (grantedRequests templates) := by
    unfold startedMuxer setUpMuxer
    simp only [requestPads_eq]
  unfold muxedPackets writtenFrames
  rw [hstarted]
  cases setUpMuxer (recorder results) [] (grantedRequests templates) with
  | error fault => rfl
  | ok muxer => rfl

section AudioOnly

variable (gst : UInt64Scale) (results : List TsPacket → Bool) {templates : List PadTemplate}
  (hvideo : .video ∉ templates) {buffers : List GstBuffer} (harrive : ArriveOn templates buffers)
include hvideo harrive

theorem muxedPackets_audio_only
    (hroom : (templates.countP fun templ ↦ templ ≠ .unknown) ≤ 33) :
    muxedPackets gst results templates buffers = .ok [] := by
  have hcaps : ∀ buffer ∈ buffers, buffer.caps = .audioMpeg := by
    intro buffer hmem
    obtain ⟨templ, htempl, haccepts⟩ := harrive buffer hmem
    cases templ with
    | video => exact absurd htempl hvideo
    | audio => exact haccepts
    | unknown => exact haccepts.elim
  obtain ⟨muxer, hmuxer, -, hdata, hcounter, -, -⟩ := exists_granted (recorder results) [] hroom
  rw [muxedPackets_eq_written, writtenFrames, hmuxer]
  change SpTs.writeFuncData <$> sptsWriteFrames gst muxer.spts buffers = _
  rw [sptsWriteFrames_dropped gst hcounter hcaps]
  exact congrArg _ hdata

theorem not_muxesAudio :
    ¬MuxesAudio buffers (muxedPackets gst results templates buffers) := by
  by_cases hfull : 33 < templates.countP fun templ ↦ templ ≠ .unknown
  · rw [muxedPackets_eq_written, writtenFrames,
      setUpMuxer_granted_full (recorder results) [] hfull]
    rintro ⟨packets, hpackets, -⟩
    cases hpackets
  · rw [muxedPackets_audio_only gst results hvideo harrive (Nat.le_of_not_lt hfull)]
    exact not_muxesAudio_nil buffers

/-- Audio-only programs are never muxed: the set-up is out of bounds, or there is not a single
packet, whatever frames arrive. -/
theorem audio_only_not_muxed :
    ¬MuxesAudio buffers (muxedPackets gst results templates buffers) ∧
      ((templates.countP fun templ ↦ templ ≠ .unknown) ≤ 33 →
        muxedPackets gst results templates buffers = .ok []) :=
  ⟨not_muxesAudio gst results hvideo harrive,
    muxedPackets_audio_only gst results hvideo harrive⟩

end AudioOnly

theorem arriveOn_audioFrame : ArriveOn [.audio] [byteFrame .audioMpeg 0 0xff] := by
  intro buffer hmem
  obtain rfl := List.mem_singleton.mp hmem
  exact ⟨.audio, by decide, rfl⟩

/-- An audio pad alone. -/
theorem audio_only_not_muxed_one_pad :
    muxedPackets gstUtilUint64Scale (fun _ ↦ true) [.audio] [byteFrame .audioMpeg 0 0xff] =
      .ok [] :=
  (audio_only_not_muxed gstUtilUint64Scale (fun _ ↦ true) (by decide) arriveOn_audioFrame).2
    (by decide)

theorem not_muxesAudio_one_frame :
    ¬MuxesAudio [byteFrame .audioMpeg 0 0xff]
      (muxedPackets gstUtilUint64Scale (fun _ ↦ true) [.audio] [byteFrame .audioMpeg 0 0xff]) :=
  not_muxesAudio _ _ (by decide) arriveOn_audioFrame

end SpTsMuxer.Muxer
