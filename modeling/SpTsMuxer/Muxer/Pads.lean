import SpTsMuxer.Muxer.Model
import SpTsMuxer.Spts.Setup

/-!
# A Muxer with Two Pads

A muxer with one video and one audio pad, after the first part of the first collection, writes its
frames as one of the set-ups of the SpTs does: the streams and their PMT entries come in the order
of the pads, and the clock is on video.
-/

namespace SpTsMuxer.Muxer

open Memory Transport Pes Psi Spts

variable {W : Type}

/-! ## Requesting the pads -/

/-- Request pads one after another. -/
def requestPads (templates : List PadTemplate) (muxer : SpTsMuxer W) :
    Except Fault (SpTsMuxer W) :=
  templates.foldlM
    (fun muxer templ ↦ Prod.snd <$> sptsmuxerRequestNewPad muxer templ true true) muxer

theorem requestPads_cons {muxer next : SpTsMuxer W} {templ : PadTemplate}
    (h : Prod.snd <$> sptsmuxerRequestNewPad muxer templ true true = .ok next)
    (rest : List PadTemplate) : requestPads (templ :: rest) muxer = requestPads rest next := by
  unfold requestPads
  rw [List.foldlM_cons, h]
  rfl

/-- A new muxer with some pads, at its first collection. -/
def startedMuxer (results : List TsPacket → Bool) (templates : List PadTemplate) :
    Except Fault (SpTsMuxer (List TsPacket)) := do
  let muxer ← sptsmuxerInit (recorder results) []
  let muxer ← requestPads templates muxer
  firstCollection muxer

/-- The packets that a muxer hands to its write function. -/
def muxedPackets (gst : UInt64Scale) (results : List TsPacket → Bool)
    (templates : List PadTemplate) (buffers : List GstBuffer) : Except Fault (List TsPacket) := do
  let muxer ← startedMuxer results templates
  let spts ← sptsWriteFrames gst muxer.spts buffers
  pure spts.writeFuncData

/-- The two orders of one video and one audio pad. -/
def padOrder (audioFirst : Bool) : List PadTemplate :=
  if audioFirst then [.audio, .video] else [.video, .audio]

/-- The entry that a video pad adds to the PMT. -/
def videoAdd : PmtOp := .streamAdd streamTypeVideoH264 videoPid

/-- The entry that an audio pad adds to the PMT. -/
def audioAdd : PmtOp := .streamAdd streamTypeAudioAac audioPid

theorem valid_videoAdd : videoAdd.Valid := ⟨.inl rfl, by decide⟩

theorem valid_audioAdd : audioAdd.Valid := ⟨.inr rfl, by decide⟩

/-- Both entries, in the order of the pads. -/
def padEntries (audioFirst : Bool) : List PmtOp :=
  if audioFirst then [audioAdd, videoAdd] else [videoAdd, audioAdd]

/-- The set-up of the SpTs that the two pads and the first collection lead to. -/
def padSetup (audioFirst : Bool) : Setup where
  audioFirst := audioFirst
  pmtOps := padEntries audioFirst ++ [.pcrPidSet videoPid]
  valid := by
    have hclock : (PmtOp.pcrPidSet videoPid).Valid := show videoPid.toNat < 8192 by decide
    cases audioFirst with
    | false => simp [padEntries, valid_videoAdd, valid_audioAdd, hclock]
    | true => simp [padEntries, valid_videoAdd, valid_audioAdd, hclock]
  room := by cases audioFirst <;> decide

theorem exists_apply {front : List UInt8} (hfront : front.length = 4)
    {state : TsPacket × PsiPmtSection} {map : ProgramMap} (h : PmtShape front state map)
    {op : PmtOp} (hvalid : op.Valid) (hroom : (op.record map).streams.length ≤ 33) :
    ∃ next, op.apply state = .ok next ∧
      next.2.sectionInfo = op.info state.2.sectionInfo ∧ PmtShape front next (op.record map) := by
  obtain ⟨next, hnext, hrep⟩ := h.apply hfront op hvalid hroom
  exact ⟨_, hnext, rfl, hrep.shape⟩

section Pads

variable (muxer : SpTsMuxer W)

theorem muxerAddStream_eq {spts added : SpTs W} {streamType : UInt8} {streamPid : UInt16}
    {pmt : TsPacket × PsiPmtSection}
    (hstream : sptsAddStream spts streamType streamPid = .ok added)
    (hadd : (PmtOp.streamAdd streamType streamPid).apply (added.pmtTspacket, added.pmtSection) =
      .ok pmt) :
    muxerAddStream spts streamType streamPid =
      .ok { added with pmtTspacket := pmt.1, pmtSection := pmt.2 } := by
  unfold muxerAddStream
  rw [hstream]
  change psiPmtSectionStreamAdd added.pmtTspacket added.pmtSection streamType streamPid = _ at hadd
  change (psiPmtSectionStreamAdd added.pmtTspacket added.pmtSection streamType streamPid >>=
    _) = _
  rw [hadd]
  rfl

theorem sptsmuxerRequestNewPad_eq {muxer next : SpTsMuxer W} {templ : PadTemplate} {pad : GstPad}
    (htempl : templatePad muxer templ = .ok (pad, next)) :
    sptsmuxerRequestNewPad muxer templ true true =
      .ok (some pad, { next with collect := next.collect ++ [[]] }) := by
  unfold sptsmuxerRequestNewPad
  rw [htempl]
  rfl

/-- The muxer after a video pad, with the stream record and the PMT that it got. -/
def videoPadded (muxer : SpTsMuxer W) (video : SpTsStream) (pmt : TsPacket × PsiPmtSection) :
    SpTsMuxer W :=
  { muxer with
    numvideosinkpads := muxer.numvideosinkpads + 1
    collect := muxer.collect ++ [[]]
    spts := { muxer.spts with
      videoStream := some video, pmtTspacket := pmt.1, pmtSection := pmt.2 } }

/-- The muxer after an audio pad. -/
def audioPadded (muxer : SpTsMuxer W) (audio : SpTsStream) (pmt : TsPacket × PsiPmtSection) :
    SpTsMuxer W :=
  { muxer with
    numaudiosinkpads := muxer.numaudiosinkpads + 1
    collect := muxer.collect ++ [[]]
    spts := { muxer.spts with
      audioStream := some audio, pmtTspacket := pmt.1, pmtSection := pmt.2 } }

theorem templatePad_video {video : SpTsStream}
    (hvideo : sptsStreamNew videoPid streamIdVideo = .ok video) {pmt : TsPacket × PsiPmtSection}
    (hadd : videoAdd.apply (muxer.spts.pmtTspacket, muxer.spts.pmtSection) = .ok pmt) :
    templatePad muxer .video = .ok (⟨some ("video_" ++
      toString muxer.numvideosinkpads.toInt32)⟩, { muxer with
        numvideosinkpads := muxer.numvideosinkpads + 1
        spts := (videoPadded muxer video pmt).spts }) := by
  have hspts := muxerAddStream_eq (sptsAddStream_video hvideo muxer.spts videoPid) hadd
  unfold templatePad
  rw [hspts]
  rfl

theorem templatePad_audio {audio : SpTsStream}
    (haudio : sptsStreamNew audioPid streamIdAudio = .ok audio) {pmt : TsPacket × PsiPmtSection}
    (hadd : audioAdd.apply (muxer.spts.pmtTspacket, muxer.spts.pmtSection) = .ok pmt) :
    templatePad muxer .audio = .ok (⟨some ("audio_" ++
      toString muxer.numaudiosinkpads.toInt32)⟩, { muxer with
        numaudiosinkpads := muxer.numaudiosinkpads + 1
        spts := (audioPadded muxer audio pmt).spts }) := by
  have hspts := muxerAddStream_eq (sptsAddStream_audio haudio muxer.spts audioPid) hadd
  unfold templatePad
  rw [hspts]
  rfl

theorem requestNewPad_video {video : SpTsStream}
    (hvideo : sptsStreamNew videoPid streamIdVideo = .ok video) {pmt : TsPacket × PsiPmtSection}
    (hadd : videoAdd.apply (muxer.spts.pmtTspacket, muxer.spts.pmtSection) = .ok pmt) :
    Prod.snd <$> sptsmuxerRequestNewPad muxer .video true true =
      .ok (videoPadded muxer video pmt) := by
  rw [sptsmuxerRequestNewPad_eq (templatePad_video muxer hvideo hadd)]
  rfl

theorem requestNewPad_audio {audio : SpTsStream}
    (haudio : sptsStreamNew audioPid streamIdAudio = .ok audio) {pmt : TsPacket × PsiPmtSection}
    (hadd : audioAdd.apply (muxer.spts.pmtTspacket, muxer.spts.pmtSection) = .ok pmt) :
    Prod.snd <$> sptsmuxerRequestNewPad muxer .audio true true =
      .ok (audioPadded muxer audio pmt) := by
  rw [sptsmuxerRequestNewPad_eq (templatePad_audio muxer haudio hadd)]
  rfl

/-- Both orders of the pads add the same two streams, and their entries in that order. -/
theorem exists_requestPads {video audio : SpTsStream}
    (hvideo : sptsStreamNew videoPid streamIdVideo = .ok video)
    (haudio : sptsStreamNew audioPid streamIdAudio = .ok audio) {front : List UInt8}
    (hfront : front.length = 4)
    (hshape : PmtShape front (muxer.spts.pmtTspacket, muxer.spts.pmtSection)
      (emptyMap programNumber)) (audioFirst : Bool) :
    ∃ next pmt,
      requestPads (padOrder audioFirst) muxer = .ok next ∧
      (padEntries audioFirst).foldlM PmtOp.apply
        (muxer.spts.pmtTspacket, muxer.spts.pmtSection) = .ok pmt ∧
      next.first = muxer.first ∧
      next.spts = { muxer.spts with
        videoStream := some video, audioStream := some audio
        pmtTspacket := pmt.1, pmtSection := pmt.2 } ∧
      pmt.2.sectionInfo.videoPid = videoPid ∧
      ∃ map, map.streams.length = 2 ∧ PmtShape front pmt map := by
  cases audioFirst with
  | false =>
      obtain ⟨first, hfirst, hfirstInfo, hfirstShape⟩ :=
        exists_apply hfront hshape valid_videoAdd (by decide)
      obtain ⟨second, hsecond, hsecondInfo, hsecondShape⟩ :=
        exists_apply hfront hfirstShape valid_audioAdd (by decide)
      have hvideoPad := requestNewPad_video muxer hvideo hfirst
      have haudioPad := requestNewPad_audio (videoPadded muxer video first) haudio hsecond
      refine ⟨audioPadded (videoPadded muxer video first) audio second, second, ?_, ?_, rfl, rfl,
        ?_, _, ?_, hsecondShape⟩
      · calc
          requestPads [.video, .audio] muxer =
              requestPads [.audio] (videoPadded muxer video first) :=
            requestPads_cons hvideoPad [.audio]
          _ = requestPads [] (audioPadded (videoPadded muxer video first) audio second) :=
            requestPads_cons haudioPad []
          _ = _ := rfl
      · calc
          [videoAdd, audioAdd].foldlM PmtOp.apply _ = [audioAdd].foldlM PmtOp.apply first :=
            foldlM_cons_of_ok hfirst [audioAdd]
          _ = .ok second := foldlM_cons_of_ok hsecond []
      · rw [hsecondInfo, hfirstInfo]
        rfl
      · rfl
  | true =>
      obtain ⟨first, hfirst, hfirstInfo, hfirstShape⟩ :=
        exists_apply hfront hshape valid_audioAdd (by decide)
      obtain ⟨second, hsecond, hsecondInfo, hsecondShape⟩ :=
        exists_apply hfront hfirstShape valid_videoAdd (by decide)
      have haudioPad := requestNewPad_audio muxer haudio hfirst
      have hvideoPad := requestNewPad_video (audioPadded muxer audio first) hvideo hsecond
      refine ⟨videoPadded (audioPadded muxer audio first) video second, second, ?_, ?_, rfl, rfl,
        ?_, _, ?_, hsecondShape⟩
      · calc
          requestPads [.audio, .video] muxer =
              requestPads [.video] (audioPadded muxer audio first) :=
            requestPads_cons haudioPad [.video]
          _ = requestPads [] (videoPadded (audioPadded muxer audio first) video second) :=
            requestPads_cons hvideoPad []
          _ = _ := rfl
      · calc
          [audioAdd, videoAdd].foldlM PmtOp.apply _ = [videoAdd].foldlM PmtOp.apply first :=
            foldlM_cons_of_ok hfirst [videoAdd]
          _ = .ok second := foldlM_cons_of_ok hsecond []
      · rw [hsecondInfo, hfirstInfo]
        rfl
      · rfl

end Pads

theorem firstCollection_video {muxer : SpTsMuxer W} (hfirst : muxer.first = true)
    (hpid : muxer.spts.pmtSection.sectionInfo.videoPid = videoPid) {video : SpTsStream}
    (hvideo : muxer.spts.videoStream = some video) {pmt : TsPacket × PsiPmtSection}
    (hset : (PmtOp.pcrPidSet videoPid).apply (muxer.spts.pmtTspacket, muxer.spts.pmtSection) =
      .ok pmt) :
    firstCollection muxer = .ok { muxer with
      first := false
      spts := { muxer.spts with
        pmtTspacket := pmt.1
        pmtSection := pmt.2
        videoStream := some { video with pcrReference := true } } } := by
  have hpcr : pcrPidSet muxer.spts videoPid =
      .ok { muxer.spts with pmtTspacket := pmt.1, pmtSection := pmt.2 } := by
    unfold pcrPidSet
    change psiPmtSectionPcrPidSet _ _ _ = _ at hset
    rw [hset]
    rfl
  unfold firstCollection pcrReferenceSet
  dsimp only
  rw [if_pos hfirst, hpid, if_pos (by decide), hpcr]
  change (deref muxer.spts.videoStream >>= fun _ ↦ _) >>= _ = _
  rw [hvideo]
  rfl

theorem pcrReference_of_sptsStreamNew {number : UInt16} {streamId : UInt8} {record : SpTsStream}
    (h : sptsStreamNew number streamId = .ok record) : record.pcrReference = false := by
  obtain ⟨tspacket, -, hrecord⟩ := exists_of_bind_eq_ok h
  obtain rfl := Except.ok.inj hrecord
  rfl

/-- A muxer with two pads starts as a set-up of the SpTs does. -/
theorem exists_startedMuxer (results : List TsPacket → Bool) (audioFirst : Bool) :
    ∃ muxer, startedMuxer results (padOrder audioFirst) = .ok muxer ∧
      (padSetup audioFirst).run (recorder results) [] true false = .ok muxer.spts := by
  obtain ⟨pat, start, hpat, -, hpmt, hstart⟩ := exists_tables
  obtain ⟨video, audio, hvideo, haudio, -, -⟩ := exists_streams
  let new := newSpTs pat start (recorder results) []
  have hnew : sptsNew (recorder results) [] = .ok new := sptsNew_eq hpat hpmt (recorder results) []
  have hinit : sptsmuxerInit (recorder results) [] = .ok ⟨0, 0, [], true, new⟩ := by
    rw [sptsmuxerInit, hnew]
    rfl
  obtain ⟨next, pmt, hrequest, hentries, hfirst, hspts, hpid, map, hlength, hshape⟩ :=
    exists_requestPads ⟨0, 0, [], true, new⟩ hvideo haudio rfl hstart audioFirst
  obtain ⟨final, hset, -⟩ := exists_apply rfl hshape
    (show (PmtOp.pcrPidSet videoPid).Valid from show videoPid.toNat < 8192 by decide)
    (show map.streams.length ≤ 33 by rw [hlength]; decide)
  have hcollection := firstCollection_video hfirst (by rw [hspts]; exact hpid)
    (by rw [hspts]) (by rw [hspts]; exact hset)
  have hops : (padEntries audioFirst ++ [PmtOp.pcrPidSet videoPid]).foldlM PmtOp.apply
      (start, ⟨initialInfo programNumber, tspacketHeaderLength⟩) = .ok final := by
    calc
      _ = (padEntries audioFirst).foldlM PmtOp.apply (new.pmtTspacket, new.pmtSection) >>=
          [PmtOp.pcrPidSet videoPid].foldlM PmtOp.apply := List.foldlM_append
      _ = [PmtOp.pcrPidSet videoPid].foldlM PmtOp.apply pmt := by
        rw [hentries]
        rfl
      _ = .ok final := foldlM_cons_of_ok hset []
  let started : SpTsMuxer (List TsPacket) := { next with
    first := false
    spts := { next.spts with
      pmtTspacket := final.1
      pmtSection := final.2
      videoStream := some { video with pcrReference := true } } }
  refine ⟨started, ?_, ?_⟩
  · rw [startedMuxer, hinit]
    change requestPads _ _ >>= _ = _
    rw [hrequest]
    exact hcollection
  · rw [Setup.run, hnew]
    change (padSetup audioFirst).addStreams new >>= _ = _
    rw [Setup.addStreams_eq _ hvideo haudio]
    change (padEntries audioFirst ++ [PmtOp.pcrPidSet videoPid]).foldlM PmtOp.apply
      (start, ⟨initialInfo programNumber, tspacketHeaderLength⟩) >>= _ = _
    rw [hops]
    have hkept : { audio with pcrReference := false } = audio := by
      rw [← pcrReference_of_sptsStreamNew haudio]
    change Except.ok _ = Except.ok started.spts
    rw [hkept]
    change _ = Except.ok { next.spts with
      pmtTspacket := final.1
      pmtSection := final.2
      videoStream := some { video with pcrReference := true } }
    rw [hspts]

/-- The muxer hands on what its set-up of the SpTs hands on. -/
theorem muxedPackets_eq (gst : UInt64Scale) (results : List TsPacket → Bool) (audioFirst : Bool)
    (buffers : List GstBuffer) :
    muxedPackets gst results (padOrder audioFirst) buffers =
      writtenPackets gst results (padSetup audioFirst) true false buffers := by
  obtain ⟨muxer, hstarted, hrun⟩ := exists_startedMuxer results audioFirst
  rw [muxedPackets, hstarted, writtenPackets, runFrames, hrun]
  change (sptsWriteFrames gst muxer.spts buffers >>= _) = Except.map _
    (sptsWriteFrames gst muxer.spts buffers)
  cases sptsWriteFrames gst muxer.spts buffers with
  | error fault => rfl
  | ok final => rfl

end SpTsMuxer.Muxer
