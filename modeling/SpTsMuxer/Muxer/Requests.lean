import SpTsMuxer.Machine.Fallible
import SpTsMuxer.Muxer.Pads
import SpTsMuxer.Spts.Calls

/-!
# Requests for Pads

Each requested pad of a known template adds a stream to the SpTs and an entry of five bytes to its
PMT, and the first collection sets the PCR PID.  Nothing counts the entries: up to 33 of them fit
into the packet with the CRC, and one more is written past its end.

What the PMT announces after some operations is kept as an invariant, which frames keep as well.
-/

namespace SpTsMuxer.Muxer

open Memory Machine Pes Psi Spts

variable {W : Type}

/-! ## What the PMT announces -/

/-- The operations that the muxer performs on its PMT. -/
def muxerOps : List PmtOp := [videoAdd, audioAdd, .pcrPidSet videoPid, .pcrPidSet audioPid]

theorem valid_of_mem_muxerOps {op : PmtOp} (hop : op ∈ muxerOps) : op.Valid := by
  simp only [muxerOps, List.mem_cons, List.not_mem_nil, or_false] at hop
  rcases hop with rfl | rfl | rfl | rfl
  · exact valid_videoAdd
  · exact valid_audioAdd
  · exact show videoPid.toNat < 8192 by decide
  · exact show audioPid.toNat < 8192 by decide

/-- The number of streams that operations add. -/
def streamCount (ops : List PmtOp) : ℕ := (ops.filterMap PmtOp.added).length

theorem streamCount_append (first second : List PmtOp) :
    streamCount (first ++ second) = streamCount first + streamCount second := by
  rw [streamCount, List.filterMap_append, List.length_append]
  rfl

theorem streamCount_le_append (first second : List PmtOp) :
    streamCount first ≤ streamCount (first ++ second) := by
  rw [streamCount_append]
  exact Nat.le_add_right _ _

theorem requestedMap_concat (number : UInt16) (ops : List PmtOp) (op : PmtOp) :
    requestedMap number (ops ++ [op]) = op.record (requestedMap number ops) := by
  rw [← foldl_record_emptyMap, ← foldl_record_emptyMap, List.foldl_append]
  rfl

theorem videoPid_info (info : PsiPmtSectionInfo) {op : PmtOp} (hop : op ∈ muxerOps) :
    (op.info info).videoPid = if op = videoAdd then videoPid else info.videoPid := by
  simp only [muxerOps, List.mem_cons, List.not_mem_nil, or_false] at hop
  rcases hop with rfl | rfl | rfl | rfl <;> rfl

theorem audioPid_info (info : PsiPmtSectionInfo) {op : PmtOp} (hop : op ∈ muxerOps) :
    (op.info info).audioPid = if op = audioAdd then audioPid else info.audioPid := by
  simp only [muxerOps, List.mem_cons, List.not_mem_nil, or_false] at hop
  rcases hop with rfl | rfl | rfl | rfl <;> rfl

theorem ite_mem_concat {Value : Type} (wanted op : PmtOp) (ops : List PmtOp) (yes no : Value) :
    (if wanted ∈ ops ++ [op] then yes else no) =
      if op = wanted then yes else if wanted ∈ ops then yes else no := by
  by_cases hop : op = wanted
  · rw [if_pos hop, if_pos (by simp [hop])]
  · have hiff : wanted ∈ ops ++ [op] ↔ wanted ∈ ops := by simp [Ne.symm hop]
    simp only [hiff, if_neg hop]

/-- The PMT packet and its section record after some operations. -/
structure TableOf (ops : List PmtOp) (pmt : TsPacket × PsiPmtSection) : Prop where
  videoPid : pmt.2.sectionInfo.videoPid = if videoAdd ∈ ops then Spts.videoPid else 0
  audioPid : pmt.2.sectionInfo.audioPid = if audioAdd ∈ ops then Spts.audioPid else 0
  packet : ∃ front : List UInt8, front.length = 4 ∧
    PmtShape front pmt (requestedMap programNumber ops) ∧
      (ops ≠ [] → PmtRep front pmt (requestedMap programNumber ops))

section Table

variable {ops : List PmtOp} {pmt : TsPacket × PsiPmtSection} (h : TableOf ops pmt) {op : PmtOp}
include h

/-- An operation that fits leads from the table of some operations to that of one more. -/
theorem TableOf.exists_apply (hop : op ∈ muxerOps) (hroom : streamCount (ops ++ [op]) ≤ 33) :
    ∃ next, op.apply pmt = .ok next ∧ TableOf (ops ++ [op]) next := by
  obtain ⟨front, hfront, hshape, -⟩ := h.packet
  have hrecord := requestedMap_concat programNumber ops op
  obtain ⟨next, hnext, hrep⟩ := hshape.apply hfront op (valid_of_mem_muxerOps hop)
    (by rw [← hrecord]; exact hroom)
  rw [← hrecord] at hrep
  refine ⟨_, hnext, ?_, ?_, front, hfront, hrep.shape, fun _ ↦ hrep⟩
  · rw [videoPid_info _ hop, h.videoPid, ite_mem_concat]
  · rw [audioPid_info _ hop, h.audioPid, ite_mem_concat]

/-- A stream that does not fit is written past the end of the packet. -/
theorem TableOf.apply_full (hop : op = videoAdd ∨ op = audioAdd) (hfull : streamCount ops = 33) :
    op.apply pmt = .error .outOfBounds := by
  obtain ⟨front, -, ⟨hdescribes, -⟩, -⟩ := h.packet
  have hcount : (requestedMap programNumber ops).streams.length = 33 := hfull
  rcases hop with rfl | rfl
  · change psiPmtSectionStreamAdd pmt.1 pmt.2 streamTypeVideoH264 Spts.videoPid = _
    exact psiPmtSectionStreamAdd_full hdescribes hcount _ _ (.inl rfl)
  · change psiPmtSectionStreamAdd pmt.1 pmt.2 streamTypeAudioAac Spts.audioPid = _
    exact psiPmtSectionStreamAdd_full hdescribes hcount _ _ (.inr rfl)

theorem TableOf.header {next : TsPacket} (hpayload : next.cells.drop 4 = pmt.1.cells.drop 4) :
    TableOf ops (next, pmt.2) := by
  obtain ⟨front, hfront, ⟨hdescribes, crc, hcrc, hshape⟩, hrep⟩ := h.packet
  have hcells {body : List UInt8} (hbody : pmt.1.cells = front ++ body) :
      next.cells = next.cells.take 4 ++ body := by
    rw [hbody, ← hfront, List.drop_left, hfront] at hpayload
    rw [← hpayload, List.take_append_drop]
  refine ⟨h.videoPid, h.audioPid, next.cells.take 4, ?_, ⟨hdescribes, crc, hcrc, ?_⟩,
    fun hops ↦ ⟨hdescribes, hcells (hrep hops).2⟩⟩
  · rw [List.length_take, next.length_cells]
    rfl
  · simp only [pmtCells, List.append_assoc] at hshape ⊢
    exact hcells hshape

end Table

/-- The tables and the streams of an SpTs are those of some operations. -/
structure Announces (ops : List PmtOp) (spts : SpTs W) : Prop where
  table : TableOf ops (spts.pmtTspacket, spts.pmtSection)
  video : spts.videoStream.isSome = if videoAdd ∈ ops then true else false
  audio : spts.audioStream.isSome = if audioAdd ∈ ops then true else false

theorem Announces.videoStream_eq_none {ops : List PmtOp} {spts : SpTs W} (h : Announces ops spts)
    (hvideo : videoAdd ∉ ops) : spts.videoStream = none := by
  have hsome := h.video
  rw [if_neg hvideo, Option.isSome_eq_false_iff] at hsome
  exact Option.isNone_iff_eq_none.mp hsome

theorem Announces.audioStream_eq_none {ops : List PmtOp} {spts : SpTs W} (h : Announces ops spts)
    (haudio : audioAdd ∉ ops) : spts.audioStream = none := by
  have hsome := h.audio
  rw [if_neg haudio, Option.isSome_eq_false_iff] at hsome
  exact Option.isNone_iff_eq_none.mp hsome

theorem Announces.exists_videoStream {ops : List PmtOp} {spts : SpTs W} (h : Announces ops spts)
    (hvideo : videoAdd ∈ ops) : ∃ record, spts.videoStream = some record := by
  have hsome := h.video
  rw [if_pos hvideo] at hsome
  exact Option.isSome_iff_exists.mp hsome

theorem Announces.exists_audioStream {ops : List PmtOp} {spts : SpTs W} (h : Announces ops spts)
    (haudio : audioAdd ∈ ops) : ∃ record, spts.audioStream = some record := by
  have hsome := h.audio
  rw [if_pos haudio] at hsome
  exact Option.isSome_iff_exists.mp hsome

theorem Announces.written {ops : List PmtOp} {spts next : SpTs W} {packets : List TsPacket}
    (h : Announces ops spts) (hwritten : FrameWritten spts next packets) : Announces ops next where
  table := by
    rw [hwritten.pmtSection]
    exact h.table.header hwritten.pmtPayload
  video := hwritten.video.trans h.video
  audio := hwritten.audio.trans h.audio

theorem exists_sptsmuxerInit (writeFunc : W → TsPacket → Bool × W) (writeFuncData : W) :
    ∃ muxer, sptsmuxerInit writeFunc writeFuncData = .ok muxer ∧ muxer.first = true ∧
      muxer.spts.writeFunc = writeFunc ∧ muxer.spts.writeFuncData = writeFuncData ∧
      muxer.spts.packetsCounter = 0 ∧ muxer.spts.videoStream = none ∧
      muxer.spts.audioStream = none ∧ Announces [] muxer.spts := by
  obtain ⟨pat, start, hpat, -, hpmt, hstart⟩ := exists_tables
  have hnew := sptsNew_eq hpat hpmt writeFunc writeFuncData
  refine ⟨⟨0, 0, [], true, newSpTs pat start writeFunc writeFuncData⟩, ?_, rfl, rfl, rfl, rfl, rfl,
    rfl, ?_, rfl, rfl⟩
  · rw [sptsmuxerInit, hnew]
    rfl
  · exact ⟨rfl, rfl, _, rfl, hstart, fun hnil ↦ absurd rfl hnil⟩

/-! ## One request -/

/-- A call of `sptsmuxer_request_new_pad`, with the answers of the collect pads and of the
element. -/
structure PadRequest where
  templ : PadTemplate
  collectAdds : Bool
  elementAdds : Bool
  deriving DecidableEq

/-- A request, its result thrown away. -/
def requestPad (muxer : SpTsMuxer W) (request : PadRequest) : Except Fault (SpTsMuxer W) :=
  Prod.snd <$>
    sptsmuxerRequestNewPad muxer request.templ request.collectAdds request.elementAdds

/-- The entry that a template adds to the PMT. -/
def PadTemplate.entries : PadTemplate → List PmtOp
  | .video => [videoAdd]
  | .audio => [audioAdd]
  | .unknown => []

/-- The entries that requests add, in order. -/
def requestedEntries (requests : List PadRequest) : List PmtOp :=
  requests.flatMap fun request ↦ request.templ.entries

/-- What a request of a template does to the SpTs. -/
inductive PadAdded (spts : SpTs W) : PadTemplate → SpTs W → Prop where
  | video {record : SpTsStream} (pmt : TsPacket × PsiPmtSection)
      (hnew : sptsStreamNew videoPid streamIdVideo = .ok record) :
      PadAdded spts .video { spts with
        videoStream := some record, pmtTspacket := pmt.1, pmtSection := pmt.2 }
  | audio {record : SpTsStream} (pmt : TsPacket × PsiPmtSection)
      (hnew : sptsStreamNew audioPid streamIdAudio = .ok record) :
      PadAdded spts .audio { spts with
        audioStream := some record, pmtTspacket := pmt.1, pmtSection := pmt.2 }
  | unknown : PadAdded spts .unknown spts

theorem PadAdded.videoStream {spts next : SpTs W} {templ : PadTemplate}
    (h : PadAdded spts templ next) (htempl : templ ≠ .video) :
    next.videoStream = spts.videoStream := by
  cases h with
  | video pmt hnew => exact absurd rfl htempl
  | audio pmt hnew => rfl
  | unknown => rfl

theorem PadAdded.audioStream {spts next : SpTs W} {templ : PadTemplate}
    (h : PadAdded spts templ next) (htempl : templ ≠ .audio) :
    next.audioStream = spts.audioStream := by
  cases h with
  | video pmt hnew => rfl
  | audio pmt hnew => exact absurd rfl htempl
  | unknown => rfl

/-- An SpTs with this write function that has written nothing: no packet is counted, and the
streams are as they were added. -/
structure Unused (writeFunc : W → TsPacket → Bool × W) (writeFuncData : W) (spts : SpTs W) :
    Prop where
  writeFunc : spts.writeFunc = writeFunc
  writeFuncData : spts.writeFuncData = writeFuncData
  packetsCounter : spts.packetsCounter = 0
  video : ∀ record, spts.videoStream = some record →
    sptsStreamNew videoPid streamIdVideo = .ok record
  audio : ∀ record, spts.audioStream = some record →
    sptsStreamNew audioPid streamIdAudio = .ok record

theorem Unused.added {writeFunc : W → TsPacket → Bool × W} {writeFuncData : W}
    {spts next : SpTs W} {templ : PadTemplate} (h : Unused writeFunc writeFuncData spts)
    (hadded : PadAdded spts templ next) : Unused writeFunc writeFuncData next := by
  cases hadded with
  | video pmt hnew =>
      refine ⟨h.writeFunc, h.writeFuncData, h.packetsCounter, fun other hother ↦ ?_, h.audio⟩
      rw [← Option.some.inj hother]
      exact hnew
  | audio pmt hnew =>
      refine ⟨h.writeFunc, h.writeFuncData, h.packetsCounter, h.video, fun other hother ↦ ?_⟩
      rw [← Option.some.inj hother]
      exact hnew
  | unknown => exact h

/-- The collect list does not matter for the SpTs. -/
theorem requestPad_of_templatePad {muxer next : SpTsMuxer W} {request : PadRequest} {pad : GstPad}
    (htempl : templatePad muxer request.templ = .ok (pad, next)) :
    ∃ collect, requestPad muxer request = .ok { next with collect := collect } := by
  unfold requestPad sptsmuxerRequestNewPad
  rw [htempl]
  cases request.collectAdds with
  | false => exact ⟨next.collect, rfl⟩
  | true => exact ⟨next.collect ++ [[]], rfl⟩

theorem requestPad_of_error {muxer : SpTsMuxer W} {request : PadRequest} {fault : Fault}
    (htempl : templatePad muxer request.templ = .error fault) :
    requestPad muxer request = .error fault := by
  unfold requestPad sptsmuxerRequestNewPad
  rw [htempl]
  rfl

theorem muxerAddStream_of_error {spts added : SpTs W} {streamType : UInt8} {streamPid : UInt16}
    {fault : Fault} (hstream : sptsAddStream spts streamType streamPid = .ok added)
    (hadd : (PmtOp.streamAdd streamType streamPid).apply (added.pmtTspacket, added.pmtSection) =
      .error fault) : muxerAddStream spts streamType streamPid = .error fault := by
  change psiPmtSectionStreamAdd added.pmtTspacket added.pmtSection streamType streamPid = _ at hadd
  unfold muxerAddStream
  rw [hstream]
  change (psiPmtSectionStreamAdd added.pmtTspacket added.pmtSection streamType streamPid >>=
    _) = _
  rw [hadd]
  rfl

section Request

variable {ops : List PmtOp} {muxer : SpTsMuxer W} (h : Announces ops muxer.spts)
  (request : PadRequest)
include h

/-- A request that fits adds its stream and announces it. -/
theorem exists_requestPad (hroom : streamCount (ops ++ request.templ.entries) ≤ 33) :
    ∃ next, requestPad muxer request = .ok next ∧ next.first = muxer.first ∧
      PadAdded muxer.spts request.templ next.spts ∧
      Announces (ops ++ request.templ.entries) next.spts := by
  obtain ⟨video, audio, hvideo, haudio, -, -⟩ := exists_streams
  cases htempl : request.templ with
  | video =>
      rw [htempl] at hroom
      obtain ⟨pmt, hpmt, htable⟩ :=
        h.table.exists_apply (show videoAdd ∈ muxerOps by decide) hroom
      have hpad := templatePad_video muxer hvideo hpmt
      rw [← htempl] at hpad
      obtain ⟨collect, hnext⟩ := requestPad_of_templatePad hpad
      refine ⟨_, hnext, rfl, .video pmt hvideo, htable, ?_, ?_⟩
      · rw [PadTemplate.entries, ite_mem_concat, if_pos rfl]
        rfl
      · rw [PadTemplate.entries, ite_mem_concat, if_neg (by decide)]
        exact h.audio
  | audio =>
      rw [htempl] at hroom
      obtain ⟨pmt, hpmt, htable⟩ :=
        h.table.exists_apply (show audioAdd ∈ muxerOps by decide) hroom
      have hpad := templatePad_audio muxer haudio hpmt
      rw [← htempl] at hpad
      obtain ⟨collect, hnext⟩ := requestPad_of_templatePad hpad
      refine ⟨_, hnext, rfl, .audio pmt haudio, htable, ?_, ?_⟩
      · rw [PadTemplate.entries, ite_mem_concat, if_neg (by decide)]
        exact h.video
      · rw [PadTemplate.entries, ite_mem_concat, if_pos rfl]
        rfl
  | unknown =>
      have hpad : templatePad muxer request.templ = .ok (⟨none⟩, muxer) := by
        rw [htempl]
        rfl
      obtain ⟨collect, hnext⟩ := requestPad_of_templatePad hpad
      refine ⟨_, hnext, rfl, .unknown, ?_⟩
      rw [PadTemplate.entries, List.append_nil]
      exact h

/-- A request that does not fit is an access out of bounds. -/
theorem requestPad_full (hroom : streamCount ops ≤ 33)
    (hfull : 33 < streamCount (ops ++ request.templ.entries)) :
    requestPad muxer request = .error .outOfBounds := by
  obtain ⟨video, audio, hvideo, haudio, -, -⟩ := exists_streams
  rw [streamCount_append] at hfull
  apply requestPad_of_error
  cases htempl : request.templ with
  | video =>
      rw [htempl] at hfull
      have hcount : streamCount ops = 33 := by
        change 33 < streamCount ops + 1 at hfull
        omega
      have hadd := muxerAddStream_of_error (sptsAddStream_video hvideo muxer.spts videoPid)
        (h.table.apply_full (.inl rfl) hcount)
      unfold templatePad
      rw [hadd]
      rfl
  | audio =>
      rw [htempl] at hfull
      have hcount : streamCount ops = 33 := by
        change 33 < streamCount ops + 1 at hfull
        omega
      have hadd := muxerAddStream_of_error (sptsAddStream_audio haudio muxer.spts audioPid)
        (h.table.apply_full (.inr rfl) hcount)
      unfold templatePad
      rw [hadd]
      rfl
  | unknown =>
      rw [htempl] at hfull
      change 33 < streamCount ops + 0 at hfull
      omega

end Request

/-! ## All requests -/

/-- Requests that fit are all met, and the SpTs keeps what its additions keep. -/
theorem exists_requests {Kept : SpTs W → Prop}
    (hkept : ∀ spts templ next, Kept spts → PadAdded spts templ next → Kept next)
    {ops : List PmtOp} {muxer : SpTsMuxer W} (h : Announces ops muxer.spts)
    (hmuxer : Kept muxer.spts) (requests : List PadRequest)
    (hroom : streamCount (ops ++ requestedEntries requests) ≤ 33) :
    ∃ next, requests.foldlM requestPad muxer = .ok next ∧ next.first = muxer.first ∧
      Kept next.spts ∧ Announces (ops ++ requestedEntries requests) next.spts := by
  induction requests generalizing ops muxer with
  | nil =>
      refine ⟨muxer, rfl, rfl, hmuxer, ?_⟩
      rw [requestedEntries, List.flatMap_nil, List.append_nil]
      exact h
  | cons request rest ih =>
      rw [requestedEntries, List.flatMap_cons, ← List.append_assoc] at hroom ⊢
      obtain ⟨next, hnext, hfirst, hadded, hannounces⟩ := exists_requestPad h request
        (Nat.le_trans (streamCount_le_append _ _) hroom)
      obtain ⟨final, hfinal, hfirstFinal, hfinalKept, hfinalAnnounces⟩ :=
        ih hannounces (hkept _ _ _ hmuxer hadded) hroom
      exact ⟨final, foldlM_cons_eq_ok.mpr ⟨next, hnext, hfinal⟩, hfirstFinal.trans hfirst,
        hfinalKept, hfinalAnnounces⟩

theorem requests_full {ops : List PmtOp} {muxer : SpTsMuxer W} (h : Announces ops muxer.spts)
    (hroom : streamCount ops ≤ 33) (requests : List PadRequest)
    (hfull : 33 < streamCount (ops ++ requestedEntries requests)) :
    requests.foldlM requestPad muxer = .error .outOfBounds := by
  induction requests generalizing ops muxer with
  | nil =>
      rw [requestedEntries, List.flatMap_nil, List.append_nil] at hfull
      omega
  | cons request rest ih =>
      by_cases hnext : 33 < streamCount (ops ++ request.templ.entries)
      · exact foldlM_cons_of_error (requestPad_full h request hroom hnext) rest
      · have hfits := Nat.le_of_not_lt hnext
        obtain ⟨next, hrequest, -, -, hannounces⟩ := exists_requestPad h request hfits
        rw [requestedEntries, List.flatMap_cons, ← List.append_assoc] at hfull
        rw [foldlM_cons_of_ok hrequest]
        exact ih hannounces hfits hfull

/-! ## The first collection -/

/-- The operations of the first collection. -/
def clockOps (ops : List PmtOp) : List PmtOp :=
  if videoAdd ∈ ops then [.pcrPidSet videoPid]
  else if audioAdd ∈ ops then [.pcrPidSet audioPid]
  else []

/-- What the first collection does to the SpTs: it puts the clock on the video stream, if there is
one, otherwise on the audio stream. -/
inductive ClockSet (spts : SpTs W) : SpTs W → Prop where
  | video {record : SpTsStream} (pmt : TsPacket × PsiPmtSection)
      (hvideo : spts.videoStream = some record) :
      ClockSet spts { spts with
        videoStream := some { record with pcrReference := true }
        pmtTspacket := pmt.1, pmtSection := pmt.2 }
  | audio {record : SpTsStream} (pmt : TsPacket × PsiPmtSection)
      (hnone : spts.videoStream = none) (haudio : spts.audioStream = some record) :
      ClockSet spts { spts with
        audioStream := some { record with pcrReference := true }
        pmtTspacket := pmt.1, pmtSection := pmt.2 }
  | none (hvideo : spts.videoStream = none) (haudio : spts.audioStream = none) : ClockSet spts spts

theorem ClockSet.written {spts next : SpTs W} (h : ClockSet spts next) :
    next.writeFunc = spts.writeFunc ∧ next.writeFuncData = spts.writeFuncData ∧
      next.packetsCounter = spts.packetsCounter := by
  cases h with
  | video pmt hvideo => exact ⟨rfl, rfl, rfl⟩
  | audio pmt hnone haudio => exact ⟨rfl, rfl, rfl⟩
  | none hvideo haudio => exact ⟨rfl, rfl, rfl⟩

theorem ClockSet.video_audio {spts next : SpTs W} (h : ClockSet spts next) {record : SpTsStream}
    (hrecord : spts.videoStream = some record) :
    next.videoStream = some { record with pcrReference := true } ∧
      next.audioStream = spts.audioStream := by
  cases h with
  | video pmt hvideo =>
      obtain rfl := Option.some.inj (hvideo.symm.trans hrecord)
      exact ⟨rfl, rfl⟩
  | audio pmt hnone haudio => exact absurd (hnone.symm.trans hrecord) nofun
  | none hvideo haudio => exact absurd (hvideo.symm.trans hrecord) nofun

theorem streamCount_clockOps (ops : List PmtOp) : streamCount (ops ++ clockOps ops) =
    streamCount ops := by
  rw [streamCount_append, clockOps]
  split_ifs <;> rfl

section Clock

variable {ops : List PmtOp} {spts : SpTs W} (h : Announces ops spts)
  (hroom : streamCount ops ≤ 33)
include h hroom

theorem exists_pcrPidSet {pcrPid : UInt16} (hop : PmtOp.pcrPidSet pcrPid ∈ muxerOps) :
    ∃ pmt, pcrPidSet spts pcrPid =
        .ok { spts with pmtTspacket := pmt.1, pmtSection := pmt.2 } ∧
      TableOf (ops ++ [.pcrPidSet pcrPid]) pmt := by
  obtain ⟨pmt, hpmt, htable⟩ := h.table.exists_apply hop
    (by rw [streamCount_append]; exact hroom)
  refine ⟨pmt, ?_, htable⟩
  change psiPmtSectionPcrPidSet _ _ _ = _ at hpmt
  unfold pcrPidSet
  rw [hpmt]
  rfl

/-- The first collection finds the stream of its clock. -/
theorem exists_pcrReferenceSet :
    ∃ next, pcrReferenceSet spts = .ok next ∧ ClockSet spts next ∧
      Announces (ops ++ clockOps ops) next := by
  have hvideoStream := h.video
  have haudioStream := h.audio
  unfold pcrReferenceSet
  dsimp only
  rw [h.table.videoPid, h.table.audioPid, clockOps]
  by_cases hvideo : videoAdd ∈ ops
  · obtain ⟨record, hrecord⟩ := h.exists_videoStream hvideo
    obtain ⟨pmt, hpmt, htable⟩ :=
      exists_pcrPidSet h hroom (show PmtOp.pcrPidSet videoPid ∈ muxerOps by decide)
    simp only [if_pos hvideo]
    rw [if_pos (by decide), hpmt]
    refine ⟨_, ?_, .video pmt hrecord, htable, ?_, ?_⟩
    · change (deref spts.videoStream >>= _) = _
      rw [hrecord]
      rfl
    · rw [ite_mem_concat, if_neg (by decide), if_pos hvideo]
      rfl
    · rw [ite_mem_concat, if_neg (by decide)]
      exact haudioStream
  · have hnone := h.videoStream_eq_none hvideo
    simp only [if_neg hvideo]
    rw [if_neg (by decide)]
    by_cases haudio : audioAdd ∈ ops
    · obtain ⟨record, hrecord⟩ := h.exists_audioStream haudio
      obtain ⟨pmt, hpmt, htable⟩ :=
        exists_pcrPidSet h hroom (show PmtOp.pcrPidSet audioPid ∈ muxerOps by decide)
      simp only [if_pos haudio]
      rw [if_pos (by decide), hpmt]
      refine ⟨_, ?_, .audio pmt hnone hrecord, htable, ?_, ?_⟩
      · change (deref spts.audioStream >>= _) = _
        rw [hrecord]
        rfl
      · rw [ite_mem_concat, if_neg (by decide)]
        exact hvideoStream
      · rw [ite_mem_concat, if_neg (by decide), if_pos haudio]
        rfl
    · have hnoAudio := h.audioStream_eq_none haudio
      simp only [if_neg haudio]
      rw [if_neg (by decide), List.append_nil]
      exact ⟨spts, rfl, .none hnone hnoAudio, h⟩

end Clock

theorem exists_firstCollection {ops : List PmtOp} {muxer : SpTsMuxer W}
    (h : Announces ops muxer.spts) (hroom : streamCount ops ≤ 33) (hfirst : muxer.first = true) :
    ∃ next, firstCollection muxer = .ok next ∧ ClockSet muxer.spts next.spts ∧
      Announces (ops ++ clockOps ops) next.spts := by
  obtain ⟨spts, hspts, hclock, hannounces⟩ := exists_pcrReferenceSet h hroom
  refine ⟨{ muxer with spts := spts, first := false }, ?_, hclock, hannounces⟩
  unfold firstCollection
  rw [if_pos hfirst, hspts]
  rfl

/-! ## The section fits -/

/-- A new muxer, requests for pads, and the first collection. -/
def setUpMuxer (writeFunc : W → TsPacket → Bool × W) (writeFuncData : W)
    (requests : List PadRequest) : Except Fault (SpTsMuxer W) := do
  let muxer ← sptsmuxerInit writeFunc writeFuncData
  let muxer ← requests.foldlM requestPad muxer
  firstCollection muxer

/-- No byte is written out of the PMT packet, and the section ends within its payload: the pointer
field, the three bytes up to the length field, and as many bytes as that says. -/
def SectionFits (result : Except Fault (SpTsMuxer W)) : Prop :=
  ∃ muxer, result = .ok muxer ∧ 4 + muxer.spts.pmtSection.sectionInfo.sectionLength.toNat ≤ 184

theorem streamCount_requestedEntries (requests : List PadRequest) :
    streamCount (requestedEntries requests) =
      requests.countP fun request ↦ request.templ ≠ .unknown := by
  induction requests with
  | nil => rfl
  | cons request rest ih =>
      rw [requestedEntries, List.flatMap_cons, streamCount_append, List.countP_cons]
      change streamCount request.templ.entries + streamCount (requestedEntries rest) = _
      rw [ih, Nat.add_comm]
      cases request.templ <;> rfl

section SetUp

variable (writeFunc : W → TsPacket → Bool × W) (writeFuncData : W) (requests : List PadRequest)

theorem exists_setUpMuxer (hroom : streamCount (requestedEntries requests) ≤ 33) :
    ∃ requested muxer, setUpMuxer writeFunc writeFuncData requests = .ok muxer ∧
      Announces (requestedEntries requests) requested ∧
      Unused writeFunc writeFuncData requested ∧ ClockSet requested muxer.spts ∧
      Announces (requestedEntries requests ++ clockOps (requestedEntries requests)) muxer.spts := by
  obtain ⟨new, hnew, hfirst, hfunc, hdata, hcounter, hvideo, haudio, hannounces⟩ :=
    exists_sptsmuxerInit writeFunc writeFuncData
  have hunused : Unused writeFunc writeFuncData new.spts :=
    ⟨hfunc, hdata, hcounter, by rw [hvideo]; exact nofun, by rw [haudio]; exact nofun⟩
  obtain ⟨requested, hrequested, hfirstRequested, hunusedRequested, hannouncesRequested⟩ :=
    exists_requests (fun _ _ _ h hadded ↦ h.added hadded) hannounces hunused requests hroom
  rw [List.nil_append] at hannouncesRequested
  obtain ⟨muxer, hmuxer, hclock, hannouncesMuxer⟩ :=
    exists_firstCollection hannouncesRequested hroom (hfirstRequested.trans hfirst)
  refine ⟨requested.spts, muxer, ?_, hannouncesRequested, hunusedRequested, hclock,
    hannouncesMuxer⟩
  rw [setUpMuxer, hnew]
  change (requests.foldlM requestPad new >>= _) = _
  rw [hrequested]
  exact hmuxer

theorem setUpMuxer_full (hfull : 33 < streamCount (requestedEntries requests)) :
    setUpMuxer writeFunc writeFuncData requests = .error .outOfBounds := by
  obtain ⟨new, hnew, -, -, -, -, -, -, hannounces⟩ := exists_sptsmuxerInit writeFunc writeFuncData
  rw [setUpMuxer, hnew]
  change (requests.foldlM requestPad new >>= _) = _
  rw [requests_full hannounces (Nat.zero_le _) requests hfull]
  rfl

/-- The PMT fits into its packet exactly if at most 33 video and audio pads are requested. Otherwise
a byte of it is written past the end of the packet. -/
theorem section_fits_iff :
    (SectionFits (setUpMuxer writeFunc writeFuncData requests) ↔
        (requests.countP fun request ↦ request.templ ≠ .unknown) ≤ 33) ∧
      (setUpMuxer writeFunc writeFuncData requests = .error .outOfBounds ↔
        33 < requests.countP fun request ↦ request.templ ≠ .unknown) := by
  rw [← streamCount_requestedEntries]
  by_cases hroom : streamCount (requestedEntries requests) ≤ 33
  · obtain ⟨-, muxer, hmuxer, -, -, -, hannounces⟩ :=
      exists_setUpMuxer writeFunc writeFuncData requests hroom
    obtain ⟨-, -, ⟨hdescribes, -⟩, -⟩ := hannounces.table.packet
    have hlength : muxer.spts.pmtSection.sectionInfo.sectionLength.toNat =
        13 + 5 * streamCount (requestedEntries requests) := by
      rw [← streamCount_clockOps]
      exact hdescribes.length
    refine ⟨iff_of_true ⟨muxer, hmuxer, by omega⟩ hroom, iff_of_false ?_ (Nat.not_lt.mpr hroom)⟩
    rw [hmuxer]
    exact fun herror ↦ by cases herror
  · have hfull := Nat.lt_of_not_le hroom
    have hfault := setUpMuxer_full writeFunc writeFuncData requests hfull
    refine ⟨iff_of_false ?_ hroom, iff_of_true hfault hfull⟩
    rintro ⟨muxer, hmuxer, -⟩
    rw [hfault] at hmuxer
    cases hmuxer

end SetUp

/-- 34 video pads. -/
theorem not_sectionFits_34_pads :
    ¬SectionFits (setUpMuxer (recorder fun _ ↦ true) []
      (List.replicate 34 ⟨.video, true, true⟩)) := by
  rintro ⟨muxer, hmuxer, -⟩
  rw [setUpMuxer_full _ _ _ (by decide)] at hmuxer
  cases hmuxer

end SpTsMuxer.Muxer
