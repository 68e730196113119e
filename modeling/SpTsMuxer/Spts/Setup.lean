import SpTsMuxer.Spts.Refinement

/-!
# Programs with One Video and One Audio Stream

The calls that lead from `spts_new` to a running program: one stream of each kind, added in either
order, any operations on the PMT, and the choice of the stream that carries the clock.  Whatever
the choices, the calls succeed and the result carries out an abstract program from its first
state.

The packets handed to the write function are observed with a recorder in its place.
-/

namespace SpTsMuxer.Spts

open Memory Transport Pes Psi Machine

variable {W : Type}

/-! ## The calls -/

/-- The order in which the two streams are added, and the operations on the PMT. -/
structure Setup where
  audioFirst : Bool
  pmtOps : List PmtOp
  valid : ∀ op ∈ pmtOps, op.Valid
  room : (pmtOps.filterMap PmtOp.added).length ≤ 33

/-- A set-up without any operation on the PMT. -/
def plainSetup : Setup where
  audioFirst := false
  pmtOps := []
  valid := by simp
  room := by simp

/-- Both streams are added, in the order of the set-up. -/
def Setup.addStreams (setup : Setup) (spts : SpTs W) : Except Fault (SpTs W) :=
  if setup.audioFirst then do
    let spts ← sptsAddStream spts streamTypeAudioAac audioPid
    sptsAddStream spts streamTypeVideoH264 videoPid
  else do
    let spts ← sptsAddStream spts streamTypeVideoH264 videoPid
    sptsAddStream spts streamTypeAudioAac audioPid

/-- Set `pcr_reference` of both streams. -/
def setPcrReferences (spts : SpTs W) (videoPcr audioPcr : Bool) : Except Fault (SpTs W) := do
  let video ← deref spts.videoStream
  let audio ← deref spts.audioStream
  pure { spts with
    videoStream := some { video with pcrReference := videoPcr }
    audioStream := some { audio with pcrReference := audioPcr } }

/-- From `spts_new` to the first frame. -/
def Setup.run (setup : Setup) (writeFunc : W → TsPacket → Bool × W) (writeFuncData : W)
    (videoPcr audioPcr : Bool) : Except Fault (SpTs W) := do
  let spts ← sptsNew writeFunc writeFuncData
  let spts ← setup.addStreams spts
  let (pmtTspacket, pmtSection) ←
    setup.pmtOps.foldlM PmtOp.apply (spts.pmtTspacket, spts.pmtSection)
  setPcrReferences { spts with pmtTspacket := pmtTspacket, pmtSection := pmtSection } videoPcr
    audioPcr

/-! ## What they leave -/

namespace ElementaryStream

/-- The video stream of the muxer. -/
def h264 (pcr : Bool) : ElementaryStream where
  pid := videoPid.toNat
  streamId := streamIdVideo
  pcr := pcr
  pid_lt := by decide

/-- The audio stream of the muxer. -/
def aac (pcr : Bool) : ElementaryStream where
  pid := audioPid.toNat
  streamId := streamIdAudio
  pcr := pcr
  pid_lt := by decide

end ElementaryStream

theorem headerBytes_psiHeaderInfo (pid : UInt16) (hpid : pid.toNat < 8192) :
    headerBytes (psiHeaderInfo pid) = header true true pid.toNat 1 0 :=
  headerBytes_eq rfl rfl rfl rfl rfl hpid

theorem exists_sptsStreamNew (pid : UInt16) (streamId : UInt8) (hpid : pid.toNat < 8192) :
    ∃ record, sptsStreamNew pid streamId = .ok record ∧
      ∀ pcr, StreamRefines { record with pcrReference := pcr }
        ⟨pid.toNat, streamId, pcr, hpid⟩ 0 := by
  obtain ⟨tspacket, hnew, hcells⟩ := exists_sptsTspacketNew (psiHeaderInfo pid)
  have hinit : sptsTspacketHeaderInit (Block.fill 188 0x00) (psiHeaderInfo pid) = .ok tspacket :=
    hnew
  rw [headerBytes_psiHeaderInfo pid hpid] at hcells
  rw [sptsStreamNew, hinit]
  exact ⟨_, rfl, fun pcr ↦ ⟨⟨true, 1, _, by omega, hcells⟩, rfl, ⟨rfl, rfl, rfl⟩, rfl⟩⟩

theorem sptsNullPacketInit_eq : sptsNullPacketInit = nullPacket.block := by
  apply Block.ext
  rw [Packet.block_cells, Packet.encode_full nullPacket rfl List.length_replicate]
  rfl

/-- The two new tables: the complete PAT, and the PMT of a program without streams. -/
theorem exists_tables :
    ∃ pat pmt, sptsPsiPatInit = .ok pat ∧
      pat.cells = header true true 0 1 0 ++ (patSectionOf programNumber pmtPid).payload ∧
      sptsPsiPmtInit = .ok (pmt, ⟨initialInfo programNumber, tspacketHeaderLength⟩) ∧
      PmtShape (header true true 0x20 1 0)
        (pmt, ⟨initialInfo programNumber, tspacketHeaderLength⟩) (emptyMap programNumber) := by
  obtain ⟨patNew, hpatNew, hpatCells⟩ := exists_sptsTspacketNew (psiHeaderInfo patPid)
  rw [headerBytes_psiHeaderInfo patPid (by decide)] at hpatCells
  obtain ⟨pat, hpat, hpatSection⟩ :=
    exists_psiPatSectionSet rfl hpatCells programNumber pmtPid (by decide)
  obtain ⟨pmtNew, hpmtNew, hpmtCells⟩ := exists_sptsTspacketNew (psiHeaderInfo pmtPid)
  rw [headerBytes_psiHeaderInfo pmtPid (by decide)] at hpmtCells
  obtain ⟨pmt, hpmt, hshape⟩ := exists_psiPmtSectionInit rfl hpmtCells
    (show (⟨⟨0, 0, 0, 0, 0, 0, 0, 0⟩, tspacketHeaderLength⟩ : PsiPmtSection).data = 4 from rfl)
    programNumber
  refine ⟨pat, pmt, ?_, hpatSection, ?_, hshape⟩
  · rw [sptsPsiPatInit, hpatNew]
    exact hpat
  · rw [sptsPsiPmtInit, hpmtNew]
    exact hpmt

/-- A new SpTs with its two tables. -/
def newSpTs (pat start : TsPacket) (writeFunc : W → TsPacket → Bool × W) (writeFuncData : W) :
    SpTs W where
  pat := pat
  pmtTspacket := start
  nullpacket := sptsNullPacketInit
  pmtSection := ⟨initialInfo programNumber, tspacketHeaderLength⟩
  audioStream := none
  videoStream := none
  packetsCounter := 0
  gopCounter := 0
  writeFunc := writeFunc
  writeFuncData := writeFuncData

theorem sptsNew_eq {pat start : TsPacket} (hpat : sptsPsiPatInit = .ok pat)
    (hpmt : sptsPsiPmtInit = .ok (start, ⟨initialInfo programNumber, tspacketHeaderLength⟩))
    (writeFunc : W → TsPacket → Bool × W) (writeFuncData : W) :
    sptsNew writeFunc writeFuncData = .ok (newSpTs pat start writeFunc writeFuncData) := by
  rw [sptsNew, hpat, hpmt]
  rfl

theorem exists_streams :
    ∃ video audio, sptsStreamNew videoPid streamIdVideo = .ok video ∧
      sptsStreamNew audioPid streamIdAudio = .ok audio ∧
      (∀ pcr, StreamRefines { video with pcrReference := pcr } (.h264 pcr) 0) ∧
      ∀ pcr, StreamRefines { audio with pcrReference := pcr } (.aac pcr) 0 := by
  obtain ⟨video, hvideo, hvideoRefines⟩ :=
    exists_sptsStreamNew videoPid streamIdVideo (by decide)
  obtain ⟨audio, haudio, haudioRefines⟩ :=
    exists_sptsStreamNew audioPid streamIdAudio (by decide)
  exact ⟨video, audio, hvideo, haudio, hvideoRefines, haudioRefines⟩

theorem sptsAddStream_video {video : SpTsStream}
    (h : sptsStreamNew videoPid streamIdVideo = .ok video) (spts : SpTs W) (pid : UInt16) :
    sptsAddStream spts streamTypeVideoH264 pid = .ok { spts with videoStream := some video } := by
  rw [sptsAddStream, if_pos rfl, h]
  rfl

theorem sptsAddStream_audio {audio : SpTsStream}
    (h : sptsStreamNew audioPid streamIdAudio = .ok audio) (spts : SpTs W) (pid : UInt16) :
    sptsAddStream spts streamTypeAudioAac pid = .ok { spts with audioStream := some audio } := by
  rw [sptsAddStream, if_neg (by decide), h]
  rfl

/-- Both orders add the same two streams. -/
theorem Setup.addStreams_eq (setup : Setup) {video audio : SpTsStream}
    (hvideo : sptsStreamNew videoPid streamIdVideo = .ok video)
    (haudio : sptsStreamNew audioPid streamIdAudio = .ok audio) (spts : SpTs W) :
    setup.addStreams spts =
      .ok { spts with videoStream := some video, audioStream := some audio } := by
  rw [Setup.addStreams, sptsAddStream_video hvideo spts videoPid,
    sptsAddStream_audio haudio spts audioPid]
  split_ifs
  · exact sptsAddStream_video hvideo _ videoPid
  · exact sptsAddStream_audio haudio _ audioPid

theorem PmtShape.exists_payload {front : List UInt8} {state : Block UInt8 188 × PsiPmtSection}
    {map : ProgramMap} (hfront : front.length = 4) (h : PmtShape front state map) :
    ∃ payload, payload.length = 184 ∧ state.1.cells = front ++ payload := by
  obtain ⟨-, crc, -, hcells⟩ := h
  rw [pmtCells] at hcells
  simp only [List.append_assoc] at hcells
  exact ⟨_, length_body_of_cells hcells hfront, hcells⟩

/-- The program of two tables and the two streams of the muxer. -/
theorem exists_program {pat pmt : TsPacket} {pmtSection : PsiPmtSection} {map : ProgramMap}
    (hpat : pat.cells = header true true 0 1 0 ++ (patSectionOf programNumber pmtPid).payload)
    (hpmt : PmtShape (header true true 0x20 1 0) (pmt, pmtSection) map)
    (videoPcr audioPcr : Bool) :
    ∃ program : Program, program.video = .h264 videoPcr ∧ program.audio = .aac audioPcr ∧
      program.patPayload = (patSectionOf programNumber pmtPid).payload ∧
      pmt.cells = header true true 0x20 1 0 ++ program.pmtPayload ∧
      pat = (program.pat 0).block ∧ pmt = (program.pmt 0).block := by
  obtain ⟨payload, hpayload, hcells⟩ := PmtShape.exists_payload rfl hpmt
  let program : Program := {
    video := .h264 videoPcr
    audio := .aac audioPcr
    patPayload := (patSectionOf programNumber pmtPid).payload
    pmtPayload := payload
    length_patPayload := LongSection.length_payload _ (by simp [patSectionOf, patEntry])
    length_pmtPayload := hpayload }
  have hpatBlock := (program.pat 0).encode_full rfl program.length_patPayload
  have hpmtBlock := (program.pmt 0).encode_full rfl program.length_pmtPayload
  exact ⟨program, rfl, rfl, rfl, hcells, Block.ext (hpat.trans hpatBlock.symm),
    Block.ext (hcells.trans hpmtBlock.symm)⟩

/-- Every set-up succeeds and starts an abstract program, the same for every write function. With at
least one operation on the PMT, its payload is the section of the requested map. -/
theorem Setup.exists_run (setup : Setup) (videoPcr audioPcr : Bool) :
    ∃ program, program.video = .h264 videoPcr ∧ program.audio = .aac audioPcr ∧
      program.patPayload = (patSectionOf programNumber pmtPid).payload ∧
      (setup.pmtOps ≠ [] →
        program.pmtPayload = (requestedMap programNumber setup.pmtOps).toSection.payload) ∧
      ∀ (writeFunc : W → TsPacket → Bool × W) (writeFuncData : W),
        ∃ spts, setup.run writeFunc writeFuncData videoPcr audioPcr = .ok spts ∧
          spts.writeFunc = writeFunc ∧ spts.writeFuncData = writeFuncData ∧
          Refines spts program .initial := by
  obtain ⟨pat, start, hpatInit, hpatCells, hpmtInit, hstart⟩ := exists_tables
  obtain ⟨video, audio, hvideo, haudio, hvideoRefines, haudioRefines⟩ := exists_streams
  obtain ⟨⟨pmt, pmtSection⟩, hpmt, hshape, hrep⟩ := Psi.exists_run rfl hstart setup.pmtOps
    setup.valid (by rw [foldl_record_emptyMap]; exact setup.room)
  obtain ⟨program, hprogramVideo, hprogramAudio, hpat, hcells, hpatBlock, hpmtBlock⟩ :=
    exists_program hpatCells hshape videoPcr audioPcr
  refine ⟨program, hprogramVideo, hprogramAudio, hpat, fun hops ↦ ?_, fun writeFunc data ↦ ?_⟩
  · have hpayload := (hrep hops).2
    rw [foldl_record_emptyMap] at hpayload
    exact List.append_cancel_left (hcells.symm.trans hpayload)
  · refine ⟨{
      pat := pat
      pmtTspacket := pmt
      nullpacket := sptsNullPacketInit
      pmtSection := pmtSection
      audioStream := some { audio with pcrReference := audioPcr }
      videoStream := some { video with pcrReference := videoPcr }
      packetsCounter := 0
      gopCounter := 0
      writeFunc := writeFunc
      writeFuncData := data }, ?_, rfl, rfl, ?_⟩
    · rw [Setup.run, sptsNew_eq hpatInit hpmtInit]
      change setup.addStreams (newSpTs pat start writeFunc data) >>= _ = _
      rw [setup.addStreams_eq hvideo haudio]
      change setup.pmtOps.foldlM PmtOp.apply
        (start, ⟨initialInfo programNumber, tspacketHeaderLength⟩) >>= _ = _
      rw [hpmt]
      rfl
    · exact {
        pat := hpatBlock
        pmt := hpmtBlock
        nullpacket := sptsNullPacketInit_eq
        packetsCounter := rfl
        gopCounter := rfl
        video := ⟨_, rfl, by rw [hprogramVideo]; exact hvideoRefines videoPcr⟩
        audio := ⟨_, rfl, by rw [hprogramAudio]; exact haudioRefines audioPcr⟩ }

/-! ## What is handed on -/

/-- A write function that keeps the packets; its results are arbitrary. -/
def recorder (results : List TsPacket → Bool) (written : List TsPacket) (packet : TsPacket) :
    Bool × List TsPacket :=
  (results written, written ++ [packet])

/-- A run from `spts_new` on. -/
def runFrames (gst : UInt64Scale) (results : List TsPacket → Bool) (setup : Setup)
    (videoPcr audioPcr : Bool) (buffers : List GstBuffer) :
    Except Fault (SpTs (List TsPacket)) := do
  let spts ← setup.run (recorder results) [] videoPcr audioPcr
  sptsWriteFrames gst spts buffers

/-- The packets handed to the write function in a run. -/
def writtenPackets (gst : UInt64Scale) (results : List TsPacket → Bool) (setup : Setup)
    (videoPcr audioPcr : Bool) (buffers : List GstBuffer) : Except Fault (List TsPacket) :=
  (runFrames gst results setup videoPcr audioPcr buffers).map SpTs.writeFuncData

theorem foldl_recorder_packets (results : List TsPacket → Bool) (written packets : List TsPacket) :
    packets.foldl (fun data packet ↦ (recorder results data packet).2) written =
      written ++ packets := by
  induction packets generalizing written with
  | nil => exact (List.append_nil written).symm
  | cons packet rest ih =>
      rw [List.foldl_cons, ih]
      exact List.append_assoc written [packet] rest

theorem foldl_recorder (results : List TsPacket → Bool) (written : List TsPacket)
    (packets : List Packet) :
    packets.foldl (fun data packet ↦ (recorder results data packet.block).2) written =
      written ++ packets.map Packet.block := by
  rw [← foldl_recorder_packets results, List.foldl_map]

/-- A state of the abstract machine after the frames of some buffers. -/
def stateAfter (gst : UInt64Scale) (program : Program) (buffers : List GstBuffer) : MuxState :=
  ((multiplexer program).run .initial (buffers.map (GstBuffer.frame gst))).1

/-- The outputs of the abstract machine for the frames of some buffers. -/
def outputsOf (gst : UInt64Scale) (program : Program) (buffers : List GstBuffer) : List Packet :=
  ((multiplexer program).run .initial (buffers.map (GstBuffer.frame gst))).2

theorem outputsOf_concat (gst : UInt64Scale) (program : Program) (before : List GstBuffer)
    (buffer : GstBuffer) :
    outputsOf gst program (before ++ [buffer]) = outputsOf gst program before ++
      (muxStep program (stateAfter gst program before) (buffer.frame gst)).2 := by
  rw [outputsOf, List.map_append, Mealy.run_append]
  change _ ++ (_ ++ []) = _
  rw [List.append_nil]
  rfl

/-- The runs of a set-up are the runs of the multiplexer of `program`. -/
structure CarriesOut (setup : Setup) (videoPcr audioPcr : Bool) (program : Program) : Prop where
  video : program.video = .h264 videoPcr
  audio : program.audio = .aac audioPcr
  patPayload : program.patPayload = (patSectionOf programNumber pmtPid).payload
  pmtPayload : setup.pmtOps ≠ [] →
    program.pmtPayload = (requestedMap programNumber setup.pmtOps).toSection.payload
  refines : ∀ gst results buffers final,
    runFrames gst results setup videoPcr audioPcr buffers = .ok final →
      Refines final program (stateAfter gst program buffers)
  written : ∀ gst results buffers packets,
    writtenPackets gst results setup videoPcr audioPcr buffers = .ok packets →
      packets = (outputsOf gst program buffers).map Packet.block
  accepts : ∀ gst results before buffer after packets,
    writtenPackets gst results setup videoPcr audioPcr (before ++ buffer :: after) = .ok packets →
      Accepts program (stateAfter gst program before) buffer
  total : ∀ gst results buffers, (∀ buffer ∈ buffers, Fits program buffer) →
    ∃ final, runFrames gst results setup videoPcr audioPcr buffers = .ok final

theorem writtenPackets_eq_ok {gst : UInt64Scale} {results : List TsPacket → Bool} {setup : Setup}
    {videoPcr audioPcr : Bool} {buffers : List GstBuffer} {packets : List TsPacket}
    (h : writtenPackets gst results setup videoPcr audioPcr buffers = .ok packets) :
    ∃ final, runFrames gst results setup videoPcr audioPcr buffers = .ok final ∧
      final.writeFuncData = packets :=
  exists_of_map_eq_ok h

theorem writtenPackets_of_runFrames {gst : UInt64Scale} {results : List TsPacket → Bool}
    {setup : Setup} {videoPcr audioPcr : Bool} {buffers : List GstBuffer}
    {final : SpTs (List TsPacket)}
    (h : runFrames gst results setup videoPcr audioPcr buffers = .ok final) :
    writtenPackets gst results setup videoPcr audioPcr buffers = .ok final.writeFuncData := by
  rw [writtenPackets, h]
  rfl

theorem exists_runFrames_prefix {gst : UInt64Scale} {results : List TsPacket → Bool}
    {setup : Setup} {videoPcr audioPcr : Bool} {before after : List GstBuffer}
    {final : SpTs (List TsPacket)}
    (h : runFrames gst results setup videoPcr audioPcr (before ++ after) = .ok final) :
    ∃ middle, runFrames gst results setup videoPcr audioPcr before = .ok middle ∧
      sptsWriteFrames gst middle after = .ok final := by
  obtain ⟨spts, hspts, hrun⟩ := exists_of_bind_eq_ok h
  rw [sptsWriteFrames, List.foldlM_append] at hrun
  obtain ⟨middle, hbefore, hafter⟩ := exists_of_bind_eq_ok hrun
  refine ⟨middle, ?_, hafter⟩
  rw [runFrames, hspts]
  exact hbefore

theorem runFrames_concat {gst : UInt64Scale} {results : List TsPacket → Bool} {setup : Setup}
    {videoPcr audioPcr : Bool} {before : List GstBuffer} {buffer : GstBuffer}
    {spts next : SpTs (List TsPacket)} {result : Bool}
    (hrun : runFrames gst results setup videoPcr audioPcr before = .ok spts)
    (hwrite : sptsWriteFrame gst spts buffer = .ok (result, next)) :
    runFrames gst results setup videoPcr audioPcr (before ++ [buffer]) = .ok next := by
  obtain ⟨start, hstart, hbefore⟩ := exists_of_bind_eq_ok hrun
  rw [runFrames, hstart]
  change sptsWriteFrames gst start (before ++ [buffer]) = _
  rw [sptsWriteFrames, List.foldlM_append, show before.foldlM (writeStep gst) start = .ok spts
    from hbefore]
  change (sptsWriteFrame gst spts buffer).map Prod.snd >>= _ = _
  rw [hwrite]
  rfl

/-- Every set-up carries out a program, which does not depend on the frames, on the clock function
or on the results of the write function. -/
theorem Setup.exists_carriesOut (setup : Setup) (videoPcr audioPcr : Bool) :
    ∃ program, CarriesOut setup videoPcr audioPcr program := by
  obtain ⟨program, hvideo, haudio, hpat, hpmt, hrun⟩ :=
    setup.exists_run (W := List TsPacket) videoPcr audioPcr
  have hframes (gst : UInt64Scale) (results : List TsPacket → Bool) :
      ∃ spts, Refines spts program .initial ∧ spts.writeFunc = recorder results ∧
        spts.writeFuncData = [] ∧ ∀ buffers,
          runFrames gst results setup videoPcr audioPcr buffers =
            sptsWriteFrames gst spts buffers := by
    obtain ⟨spts, hspts, hfunc, hdata, hrefines⟩ := hrun (recorder results) []
    refine ⟨spts, hrefines, hfunc, hdata, fun buffers ↦ ?_⟩
    rw [runFrames, hspts]
    rfl
  refine ⟨program, hvideo, haudio, hpat, hpmt, ?_, ?_, ?_, ?_⟩
  · intro gst results buffers final hfinal
    obtain ⟨spts, hrefines, -, -, heq⟩ := hframes gst results
    rw [heq] at hfinal
    exact (sptsWriteFrames_run hrefines hfinal).1
  · intro gst results buffers packets hpackets
    obtain ⟨final, hfinal, rfl⟩ := writtenPackets_eq_ok hpackets
    obtain ⟨spts, hrefines, hfunc, hdata, heq⟩ := hframes gst results
    rw [heq] at hfinal
    rw [(sptsWriteFrames_run hrefines hfinal).2, hfunc, hdata, foldl_recorder, List.nil_append]
    rfl
  · intro gst results before buffer after packets hpackets
    obtain ⟨final, hfinal, -⟩ := writtenPackets_eq_ok hpackets
    obtain ⟨spts, hrefines, -, -, heq⟩ := hframes gst results
    rw [heq] at hfinal
    exact accepts_of_sptsWriteFrames hrefines hfinal
  · intro gst results buffers hfits
    obtain ⟨spts, hrefines, -, -, heq⟩ := hframes gst results
    rw [heq]
    exact exists_sptsWriteFrames hrefines hfits

theorem CarriesOut.exists_written {setup : Setup} {videoPcr audioPcr : Bool} {program : Program}
    (h : CarriesOut setup videoPcr audioPcr program) (gst : UInt64Scale)
    (results : List TsPacket → Bool) {buffers : List GstBuffer}
    (hfits : ∀ buffer ∈ buffers, Fits program buffer) :
    writtenPackets gst results setup videoPcr audioPcr buffers =
      .ok ((outputsOf gst program buffers).map Packet.block) := by
  obtain ⟨final, hfinal⟩ := h.total gst results buffers hfits
  have hwritten := writtenPackets_of_runFrames hfinal
  rw [hwritten, h.written gst results buffers _ hwritten]

theorem CarriesOut.written_prefix {setup : Setup} {videoPcr audioPcr : Bool} {program : Program}
    (h : CarriesOut setup videoPcr audioPcr program) {gst : UInt64Scale}
    {results : List TsPacket → Bool} {before after : List GstBuffer} {packets : List TsPacket}
    (hok : writtenPackets gst results setup videoPcr audioPcr (before ++ after) = .ok packets) :
    writtenPackets gst results setup videoPcr audioPcr before =
      .ok ((outputsOf gst program before).map Packet.block) := by
  obtain ⟨final, hfinal, -⟩ := writtenPackets_eq_ok hok
  obtain ⟨middle, hmiddle, -⟩ := exists_runFrames_prefix hfinal
  have hwritten := writtenPackets_of_runFrames hmiddle
  rw [hwritten, h.written gst results before _ hwritten]

end SpTsMuxer.Spts
