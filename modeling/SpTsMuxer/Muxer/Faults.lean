import SpTsMuxer.Muxer.RunState
import SpTsMuxer.Muxer.SingleStream

/-!
# What Stops a Run

Whether a run fails, where, and with which fault, follows from its events.  A request fails if it is
the 34th for a stream.  A collection fails by the frame that it takes: its stream is missing, or it
is the first of a GOP and the audio stream is missing, or it is too long, or its kind is not known.
Audio frames do no harm before the first video frame, since they are dropped.
-/

namespace SpTsMuxer.Muxer

open Memory Transport Machine Psi Spts

variable {W : Type}

/-! ## The fault of an event -/

/-- The buffer that a collection takes. -/
def takenBuffer (collect : List CollectPad) : Option GstBuffer :=
  (nextCollectdata collect).bind fun position ↦ (Merge.pop collect position).map Prod.fst

/-- The stream of a kind, if it has been requested, and whether it has the clock. -/
def streamClock (events : List MuxerEvent) (templ : PadTemplate) : Option Bool :=
  if .request templ ∈ events then some (HasClock events templ) else none

/-- A collection that takes a video frame. -/
def MuxerEvent.takesVideo : MuxerEvent → Bool
  | .request _ => false
  | .collected collect => (takenBuffer collect).any fun buffer ↦ buffer.caps = .videoXH264

/-- The fault of an event after some events. -/
def eventFault (events : List MuxerEvent) : MuxerEvent → Option Fault
  | .request templ =>
      if templ ≠ .unknown ∧ 33 ≤ padCount .video events + padCount .audio events then
        some .outOfBounds
      else none
  | .collected collect =>
      (takenBuffer collect).bind (frameFault (streamClock events .video)
        (streamClock events .audio) (!events.any MuxerEvent.takesVideo))

/-- The first fault of some events after others. -/
def runFault (before : List MuxerEvent) : List MuxerEvent → Option Fault
  | [] => none
  | event :: rest =>
      match eventFault before event with
      | some fault => some fault
      | none => runFault (before ++ [event]) rest

/-! ## The streams of a state -/

theorem streamCount_entries (events : List MuxerEvent) :
    streamCount (events.flatMap MuxerEvent.entries) =
      padCount .video events + padCount .audio events := by
  induction events with
  | nil => rfl
  | cons event rest ih =>
      rw [List.flatMap_cons, streamCount_append, ih, padCount_cons, padCount_cons]
      cases event with
      | request templ =>
          cases templ with
          | video =>
              change 1 + _ = (1 + _) + (0 + _)
              omega
          | audio =>
              change 1 + _ = (0 + _) + (1 + _)
              omega
          | unknown =>
              change 0 + _ = (0 + _) + (0 + _)
              omega
      | collected collect =>
          change 0 + _ = (0 + _) + (0 + _)
          omega

theorem streamCount_addedOps (ops : List PmtOp) : streamCount (addedOps ops) = streamCount ops := by
  rw [streamCount, streamCount, addedOps, List.filterMap_filter]
  congr 2
  funext op
  cases hadded : op.added <;> simp

theorem RunState.announced {events : List MuxerEvent} {muxer : SpTsMuxer W}
    (h : RunState events muxer) : ∃ ops, HasAnnounced ops muxer ∧
      streamCount ops = padCount .video events + padCount .audio events := by
  rcases h with hbefore | ⟨-, hafter⟩
  · exact ⟨_, hbefore.announced, streamCount_entries events⟩
  · obtain ⟨ops, hannounced, -, hops⟩ := hafter.announced
    refine ⟨ops, hannounced, ?_⟩
    rw [← streamCount_addedOps, hops, streamCount_entries]

theorem AfterChoice.streams {events : List MuxerEvent} {muxer : SpTsMuxer W}
    (h : AfterChoice events muxer) :
    (muxer.spts.videoStream.map fun _ ↦ decide (HasClock events .video)) =
        streamClock events .video ∧
      (muxer.spts.audioStream.map fun _ ↦ decide (HasClock events .audio)) =
        streamClock events .audio := by
  obtain ⟨ops, hannounced, -, hops⟩ := h.announced
  obtain ⟨hvideoIff, haudioIff⟩ := mem_entries_iff events
  have hmem {op : PmtOp} (hop : op.added.isSome = true) :
      op ∈ ops ↔ op ∈ events.flatMap MuxerEvent.entries := by
    rw [← hops, addedOps, List.mem_filter, and_iff_left hop]
  have hvideo := (hmem (show videoAdd.added.isSome = true from rfl)).trans hvideoIff
  have haudio := (hmem (show audioAdd.added.isSome = true from rfl)).trans haudioIff
  refine ⟨?_, ?_⟩
  · rw [streamClock]
    by_cases hrequested : MuxerEvent.request .video ∈ events
    · obtain ⟨record, hrecord⟩ := hannounced.announces.exists_videoStream (hvideo.mpr hrequested)
      rw [if_pos hrequested, hrecord]
      rfl
    · rw [if_neg hrequested,
        hannounced.announces.videoStream_eq_none (mt hvideo.mp hrequested)]
      rfl
  · rw [streamClock]
    by_cases hrequested : MuxerEvent.request .audio ∈ events
    · obtain ⟨record, hrecord⟩ := hannounced.announces.exists_audioStream (haudio.mpr hrequested)
      rw [if_pos hrequested, hrecord]
      rfl
    · rw [if_neg hrequested,
        hannounced.announces.audioStream_eq_none (mt haudio.mp hrequested)]
      rfl

/-! ## Idle muxers -/

theorem exists_takenBuffer {gst : UInt64Scale} {muxer next : SpTsMuxer W}
    {collect : List CollectPad}
    (hok : MuxerEvent.step gst muxer (.collected collect) = .ok next) :
    ∃ start, firstCollection { muxer with collect := collect } = .ok start ∧
      ((takenBuffer collect = none ∧ next.spts = start.spts) ∨
        ∃ buffer, takenBuffer collect = some buffer ∧
          writeStep gst start.spts buffer = .ok next.spts) := by
  obtain ⟨start, hstart, hrest⟩ := exists_of_bind_eq_ok hok
  have hcollect : start.collect = collect := (first_collect_of_firstCollection hstart).2
  refine ⟨start, hstart, ?_⟩
  rw [hcollect] at hrest
  unfold takenBuffer
  cases hchoose : nextCollectdata collect with
  | none =>
      rw [hchoose] at hrest
      obtain rfl := Except.ok.inj hrest
      exact .inl ⟨rfl, rfl⟩
  | some position =>
      obtain ⟨buffer, rest, hpop⟩ := choosesHead_nextCollectdata.exists_pop hchoose
      rw [hchoose] at hrest
      dsimp only at hrest
      rw [hpop] at hrest
      obtain ⟨spts, hwrite, hpure⟩ := exists_of_bind_eq_ok hrest
      obtain rfl := Except.ok.inj hpure
      exact .inr ⟨buffer, by rw [Option.bind_some, hpop]; rfl, hwrite⟩

section Idle

variable {gst : UInt64Scale} {results : List TsPacket → Bool}

/-- A frame sends something, unless it is an audio frame that finds the muxer idle. -/
theorem writeFuncData_writeStep_iff {spts next : SpTs (List TsPacket)}
    (hfunc : spts.writeFunc = recorder results)
    {buffer : GstBuffer} (hok : writeStep gst spts buffer = .ok next) :
    next.writeFuncData = spts.writeFuncData ↔
      buffer.caps = .audioMpeg ∧ spts.packetsCounter = 0 := by
  rcases writeStep_cases hok with ⟨haudio, hcounter, rfl⟩ | ⟨packets, hne, hwritten⟩
  · exact iff_of_true rfl ⟨haudio, hcounter⟩
  · constructor
    · intro hsame
      rw [hwritten.writeFuncData, SpTs.emit, hfunc, foldl_recorder_packets] at hsame
      exact absurd (List.append_right_eq_self.mp hsame) hne
    · rintro ⟨haudio, hcounter⟩
      unfold writeStep sptsWriteFrame at hok
      rw [haudio] at hok
      dsimp only at hok
      rw [if_pos hcounter] at hok
      obtain rfl := Except.ok.inj hok
      rfl

/-- The first video frame ends the idle state, and nothing else does. -/
theorem RunState.sends_iff {events : List MuxerEvent} {middle next : SpTsMuxer (List TsPacket)}
    (h : RunState events middle) (hfunc : middle.spts.writeFunc = recorder results)
    (hcounter : middle.spts.packetsCounter = 0) {event : MuxerEvent}
    (hok : event.step gst middle = .ok next) :
    next.spts.writeFuncData = middle.spts.writeFuncData ↔ event.takesVideo = false := by
  cases event with
  | request templ =>
      obtain ⟨ops, hannounced, -⟩ := h.announced
      refine iff_of_true ?_ rfl
      rw [(hannounced.requestPad hok).2.handed.writeFuncData, SpTs.emit_nil]
  | collected collect =>
      obtain ⟨start, hstart, htaken⟩ := exists_takenBuffer hok
      obtain ⟨found, hfound, -, hhanded⟩ := h.exists_firstCollection collect
      obtain rfl := Except.ok.inj (hfound.symm.trans hstart)
      have hdata : found.spts.writeFuncData = middle.spts.writeFuncData := by
        rw [hhanded.writeFuncData, SpTs.emit_nil]
      rw [← hdata]
      rcases htaken with ⟨hnone, hsame⟩ | ⟨buffer, hbuffer, hwrite⟩
      · rw [hsame, MuxerEvent.takesVideo, hnone]
        exact iff_of_true rfl rfl
      · have hidle : found.spts.packetsCounter = 0 := by
          rw [hhanded.packetsCounter, SpTs.emit_nil]
          exact hcounter
        rw [writeFuncData_writeStep_iff (hhanded.writeFunc.trans hfunc) hwrite,
          and_iff_left hidle, MuxerEvent.takesVideo, hbuffer, Option.any_some,
          decide_eq_false_iff_not]
        cases hcaps : buffer.caps with
        | videoXH264 => exact iff_of_false nofun fun hne ↦ hne rfl
        | audioMpeg => exact iff_of_true rfl nofun
        | other =>
            unfold writeStep sptsWriteFrame at hwrite
            rw [hcaps] at hwrite
            cases hwrite

variable {muxer : SpTsMuxer (List TsPacket)}
  (hmuxer : sptsmuxerInit (recorder results) [] = .ok muxer)
include hmuxer

theorem nothing_written_of_idle {events : List MuxerEvent} {final : SpTsMuxer (List TsPacket)}
    (hrun : events.foldlM (MuxerEvent.step gst) muxer = .ok final)
    (hidle : events.any MuxerEvent.takesVideo = false) : final.spts.writeFuncData = [] := by
  induction events using List.reverseRecOn generalizing final with
  | nil =>
      obtain ⟨new, hnew, -, -, hdata, -⟩ := exists_sptsmuxerInit (recorder results) []
      obtain rfl := Except.ok.inj (hnew.symm.trans hmuxer)
      obtain rfl := Except.ok.inj hrun
      exact hdata
  | append_singleton before event ih =>
      rw [List.any_append, List.any_cons, List.any_nil, Bool.or_false,
        Bool.or_eq_false_iff] at hidle
      obtain ⟨middle, hbefore, hevent⟩ := foldlM_concat_eq_ok.mp hrun
      obtain ⟨hfunc, hcounter⟩ := packetsCounter_of_run hmuxer hbefore
      have hempty := ih hbefore hidle.1
      rw [hempty] at hcounter
      exact (((exists_runState hmuxer hbefore).1.sends_iff hfunc hcounter hevent).mpr
        hidle.2).trans hempty

/-- Something is sent with the first video frame. -/
theorem nothing_written_iff {events : List MuxerEvent} {final : SpTsMuxer (List TsPacket)}
    (hrun : events.foldlM (MuxerEvent.step gst) muxer = .ok final) :
    final.spts.writeFuncData = [] ↔ events.any MuxerEvent.takesVideo = false := by
  refine ⟨fun hnil ↦ ?_, nothing_written_of_idle hmuxer hrun⟩
  induction events using List.reverseRecOn generalizing final with
  | nil => rfl
  | append_singleton before event ih =>
      obtain ⟨middle, hbefore, hevent⟩ := foldlM_concat_eq_ok.mp hrun
      have hstate := (exists_runState hmuxer hbefore).1
      obtain ⟨hfunc, hcounter⟩ := packetsCounter_of_run hmuxer hbefore
      obtain ⟨-, packets, hhanded, -⟩ := hstate.step hevent
      have hdata : final.spts.writeFuncData = middle.spts.writeFuncData ++ packets := by
        rw [hhanded.writeFuncData, SpTs.emit, hfunc]
        exact foldl_recorder_packets results _ packets
      rw [hdata] at hnil
      have hempty := (List.append_eq_nil_iff.mp hnil).1
      rw [hempty] at hcounter
      have hevent := (hstate.sends_iff hfunc hcounter hevent).mp (by rw [hdata, hnil, hempty])
      rw [List.any_append, List.any_cons, List.any_nil, Bool.or_false, Bool.or_eq_false_iff]
      exact ⟨ih hbefore hempty, hevent⟩

end Idle

/-! ## The next event -/

section Event

variable {gst : UInt64Scale} {events : List MuxerEvent} {muxer : SpTsMuxer W}
  (h : RunState events muxer)
include h

/-- A request fails exactly if its stream does not fit into the PMT. -/
theorem RunState.errorOf_request (templ : PadTemplate) :
    errorOf (MuxerEvent.step gst muxer (.request templ)) =
      eventFault events (.request templ) := by
  obtain ⟨ops, hannounced, hcount⟩ := h.announced
  have hentries := streamCount_append ops templ.entries
  have hone : streamCount templ.entries = if templ ≠ .unknown then 1 else 0 := by
    cases templ <;> rfl
  change errorOf (requestPad muxer ⟨templ, true, true⟩) = _
  rw [eventFault, ← hcount]
  by_cases hfull : templ ≠ .unknown ∧ 33 ≤ streamCount ops
  · rw [if_pos hfull.1] at hone
    rw [if_pos hfull, requestPad_full hannounced.announces ⟨templ, true, true⟩ hannounced.fits
      (by dsimp only; omega)]
    rfl
  · have hfits : streamCount (ops ++ templ.entries) ≤ 33 := by
      have hold := hannounced.fits
      split_ifs at hone with hknown
      · have hroom : ¬33 ≤ streamCount ops := fun hle ↦ hfull ⟨hknown, hle⟩
        omega
      · omega
    obtain ⟨next, hnext, -⟩ := exists_requestPad hannounced.announces ⟨templ, true, true⟩ hfits
    rw [if_neg hfull, hnext]
    rfl

/-- A collection fails exactly by the frame that it takes. -/
theorem RunState.errorOf_collected (collect : List CollectPad)
    (hidle : muxer.spts.packetsCounter = 0 ↔ events.any MuxerEvent.takesVideo = false) :
    errorOf (MuxerEvent.step gst muxer (.collected collect)) =
      eventFault events (.collected collect) := by
  obtain ⟨start, hstart, hafter, hhanded⟩ := h.exists_firstCollection collect
  have hcollect : start.collect = collect := (first_collect_of_firstCollection hstart).2
  have hflag : decide (start.spts.packetsCounter = 0) = !events.any MuxerEvent.takesVideo := by
    rw [hhanded.packetsCounter, SpTs.emit_nil, Bool.eq_iff_iff, decide_eq_true_iff,
      Bool.not_eq_true']
    exact hidle
  obtain ⟨hvideo, haudio⟩ := hafter.streams
  rw [eventFault, takenBuffer, ← hvideo, ← haudio, ← hflag]
  change errorOf (sptsmuxerCollected gst _) = _
  unfold sptsmuxerCollected
  rw [errorOf_bind_of_ok hstart, hcollect]
  cases hchoose : nextCollectdata collect with
  | none => rfl
  | some position =>
      obtain ⟨buffer, rest, hpop⟩ := choosesHead_nextCollectdata.exists_pop hchoose
      dsimp only
      rw [hpop]
      dsimp only [Option.bind_some, Option.map_some]
      rw [errorOf_bind_of_pure fun _ ↦ rfl, hpop]
      exact hafter.running.errorOf_writeStep gst buffer

end Event

/-- Fewer than `2 ^ 64` packets have been written before each event. -/
def Countable (gst : UInt64Scale) (muxer : SpTsMuxer (List TsPacket))
    (events : List MuxerEvent) : Prop :=
  AtEach (MuxerEvent.step gst) muxer events fun middle _ ↦
    middle.spts.writeFuncData.length < 2 ^ 64

section Runs

variable {gst : UInt64Scale} {results : List TsPacket → Bool}
  {muxer : SpTsMuxer (List TsPacket)} (hmuxer : sptsmuxerInit (recorder results) [] = .ok muxer)
include hmuxer

theorem errorOf_step {events : List MuxerEvent} {middle : SpTsMuxer (List TsPacket)}
    (hrun : events.foldlM (MuxerEvent.step gst) muxer = .ok middle)
    (hcount : middle.spts.writeFuncData.length < 2 ^ 64) (event : MuxerEvent) :
    errorOf (event.step gst middle) = eventFault events event := by
  have hstate := (exists_runState hmuxer hrun).1
  cases event with
  | request templ => exact hstate.errorOf_request templ
  | collected collect =>
      refine hstate.errorOf_collected collect ?_
      rw [← nothing_written_iff hmuxer hrun, (packetsCounter_of_run hmuxer hrun).2,
        ← List.length_eq_zero_iff, ← UInt64.toNat_inj, UInt64.toNat_ofNat',
        Nat.mod_eq_of_lt hcount]
      rfl

theorem errorOf_rest {before rest : List MuxerEvent} {middle : SpTsMuxer (List TsPacket)}
    (hbefore : before.foldlM (MuxerEvent.step gst) muxer = .ok middle)
    (hcount : Countable gst middle rest) :
    errorOf (rest.foldlM (MuxerEvent.step gst) middle) = runFault before rest := by
  induction rest generalizing before middle with
  | nil => rfl
  | cons event rest ih =>
      obtain ⟨hfirst, hrest⟩ := atEach_cons.mp hcount
      have hstep := errorOf_step hmuxer hbefore hfirst event
      rw [runFault, ← hstep]
      cases hnext : event.step gst middle with
      | error fault =>
          rw [foldlM_cons_of_error hnext]
          rfl
      | ok next =>
          rw [foldlM_cons_of_ok hnext]
          exact ih (foldlM_concat_eq_ok.mpr ⟨middle, hbefore, hnext⟩) (hrest next hnext)

/-- An idle muxer can count, and one more event does not matter. -/
theorem countable_of_idle {before : List MuxerEvent} (event : MuxerEvent)
    (hidle : before.any MuxerEvent.takesVideo = false) :
    Countable gst muxer (before ++ [event]) := by
  intro earlier other after hsplit middle hrun
  have hbegins : earlier <+: before := by
    refine List.prefix_of_prefix_length_le ⟨_, hsplit.symm⟩ (List.prefix_append before _) ?_
    have hlength := congrArg List.length hsplit
    simp only [List.length_append, List.length_cons, List.length_nil] at hlength
    omega
  have hearlier : earlier.any MuxerEvent.takesVideo = false := by
    rw [List.any_eq_false] at hidle ⊢
    exact fun event hmem ↦ hidle event (hbegins.subset hmem)
  rw [nothing_written_of_idle hmuxer hrun hearlier]
  decide

theorem exists_run {events : List MuxerEvent} (hcount : Countable gst muxer events)
    (hfault : runFault [] events = none) :
    ∃ final, events.foldlM (MuxerEvent.step gst) muxer = .ok final := by
  have hstart : ([] : List MuxerEvent).foldlM (MuxerEvent.step gst) muxer = .ok muxer := rfl
  exact exists_of_errorOf_eq_none ((errorOf_rest hmuxer hstart hcount).trans hfault)

end Runs

theorem exists_audio_first_run :
    ∃ muxer middle next, sptsmuxerInit (recorder fun _ ↦ true) [] = .ok muxer ∧
      [.request .audio, .collected [], .request .video].foldlM
        (MuxerEvent.step gstUtilUint64Scale) muxer = .ok middle ∧
      (MuxerEvent.collected [[idrFrame]]).step gstUtilUint64Scale middle = .ok next ∧
      middle.spts.writeFuncData = [] := by
  obtain ⟨muxer, hmuxer, -⟩ := exists_sptsmuxerInit (recorder fun _ ↦ true) []
  have hearly : [MuxerEvent.request .audio, .collected []].any MuxerEvent.takesVideo = false := rfl
  have hidle : [MuxerEvent.request .audio, .collected [], .request .video].any
      MuxerEvent.takesVideo = false := rfl
  have hcountable : Countable gstUtilUint64Scale muxer
      ([.request .audio, .collected []] ++ [.request .video]) :=
    countable_of_idle hmuxer _ hearly
  obtain ⟨middle, hrun⟩ := exists_run hmuxer hcountable rfl
  have hempty := nothing_written_of_idle hmuxer hrun hidle
  have hcount : middle.spts.writeFuncData.length < 2 ^ 64 := by
    rw [hempty]
    decide
  obtain ⟨next, hevent⟩ := exists_of_errorOf_eq_none
    (errorOf_step hmuxer hrun hcount (.collected [[idrFrame]]))
  exact ⟨muxer, middle, next, hmuxer, hrun, hevent, hempty⟩

/-! ## Main result -/

/-- Pads are requested at any time, and the collector is called with any buffers. Whether the run
fails, and with which fault, can be computed from its events. -/
theorem run_fault (gst : UInt64Scale) (results : List TsPacket → Bool)
    {muxer : SpTsMuxer (List TsPacket)}
    (hmuxer : sptsmuxerInit (recorder results) [] = .ok muxer) {events : List MuxerEvent}
    (hcount : Countable gst muxer events) :
    errorOf (events.foldlM (MuxerEvent.step gst) muxer) = runFault [] events :=
  errorOf_rest hmuxer (show ([] : List MuxerEvent).foldlM _ _ = _ from rfl) hcount

/-- A video pad alone, and an IDR frame. -/
theorem run_fault_missing_audio :
    ∃ muxer, sptsmuxerInit (recorder fun _ ↦ true) [] = .ok muxer ∧
      errorOf ([MuxerEvent.request .video, .collected [[idrFrame]]].foldlM
        (MuxerEvent.step gstUtilUint64Scale) muxer) = some .nullPointer := by
  obtain ⟨muxer, hmuxer, -⟩ := exists_sptsmuxerInit (recorder fun _ ↦ true) []
  have hidle : [MuxerEvent.request .video].any MuxerEvent.takesVideo = false := rfl
  exact ⟨muxer, hmuxer, run_fault gstUtilUint64Scale (fun _ ↦ true) hmuxer
    (countable_of_idle hmuxer _ hidle)⟩

end SpTsMuxer.Muxer
