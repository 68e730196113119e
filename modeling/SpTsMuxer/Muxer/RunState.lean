import Mathlib.Data.List.Induction
import Mathlib.Data.List.TakeWhile
import SpTsMuxer.Muxer.PadRuns
import SpTsMuxer.Spts.Counting

/-!
# The State of a Run

A run is a sequence of requests and collections in any order.  What a state of it is like follows
from the events alone: which streams there are, which of them has the clock, and what the PMT
announces.  The invariant has two phases, before and after the first collection, which chooses the
stream of the clock among the pads that have been requested by then.
-/

namespace SpTsMuxer.Muxer

open Memory Transport Machine Psi Spts

variable {W : Type}

/-! ## The choice -/

def MuxerEvent.isRequest : MuxerEvent → Bool
  | .request _ => true
  | .collected _ => false

/-- The requests before the first collection. -/
def earlyRequests (events : List MuxerEvent) : List MuxerEvent :=
  events.takeWhile MuxerEvent.isRequest

/-- The events from the first collection on. -/
def lateEvents (events : List MuxerEvent) : List MuxerEvent :=
  events.dropWhile MuxerEvent.isRequest

/-- The kind of stream that is chosen for the clock. -/
def clockTemplate (events : List MuxerEvent) : Option PadTemplate :=
  if .request .video ∈ earlyRequests events then some .video
  else if .request .audio ∈ earlyRequests events then some .audio
  else none

/-- The PID of a kind of stream. -/
def PadTemplate.streamPid : PadTemplate → ℕ
  | .video => Spts.streamPid true
  | .audio => Spts.streamPid false
  | .unknown => 0

/-- The PCR PID that the PMT announces. -/
def clockPid (events : List MuxerEvent) : ℕ := (clockTemplate events).elim 0 PadTemplate.streamPid

/-- The stream of this kind has the clock: it was chosen, and has not been replaced since. -/
def HasClock (events : List MuxerEvent) (templ : PadTemplate) : Prop :=
  clockTemplate events = some templ ∧ .request templ ∉ lateEvents events

instance (events : List MuxerEvent) (templ : PadTemplate) : Decidable (HasClock events templ) :=
  inferInstanceAs (Decidable (_ ∧ _))

theorem early_concat_late {events : List MuxerEvent} (hlate : lateEvents events ≠ [])
    (event : MuxerEvent) :
    earlyRequests (events ++ [event]) = earlyRequests events ∧
      lateEvents (events ++ [event]) = lateEvents events ++ [event] := by
  have hsplit : earlyRequests events ++ lateEvents events = events :=
    List.takeWhile_append_dropWhile
  have hlength := congrArg List.length hsplit
  have hpositive := List.length_pos_iff.mpr hlate
  rw [List.length_append] at hlength
  refine ⟨?_, ?_⟩
  · rw [earlyRequests, List.takeWhile_append, if_neg]
    · rfl
    · change (earlyRequests events).length ≠ _
      omega
  · rw [lateEvents, List.dropWhile_append, if_neg]
    · rfl
    · rw [List.isEmpty_iff]
      exact hlate

section Choice

variable (events : List MuxerEvent)

theorem lateEvents_eq_nil_iff : lateEvents events = [] ↔ ∀ event ∈ events, event.isRequest = true :=
  List.dropWhile_eq_nil_iff

theorem earlyRequests_of_late (hlate : lateEvents events = []) : earlyRequests events = events := by
  have hsplit : earlyRequests events ++ lateEvents events = events :=
    List.takeWhile_append_dropWhile
  rw [hlate, List.append_nil] at hsplit
  exact hsplit

theorem early_concat_collected (collect : List CollectPad) :
    earlyRequests (events ++ [.collected collect]) = earlyRequests events ∧
      lateEvents (events ++ [.collected collect]) = lateEvents events ++ [.collected collect] := by
  by_cases hlate : lateEvents events = []
  · have hall := (lateEvents_eq_nil_iff events).mp hlate
    refine ⟨?_, ?_⟩
    · rw [earlyRequests_of_late events hlate]
      exact (List.takeWhile_append_of_pos hall).trans (List.append_nil events)
    · rw [hlate]
      exact List.dropWhile_append_of_pos hall
  · exact early_concat_late hlate _

end Choice

theorem hasClock_concat_collected (events : List MuxerEvent) (collect : List CollectPad) :
    clockTemplate (events ++ [.collected collect]) = clockTemplate events ∧
      ∀ templ, HasClock (events ++ [.collected collect]) templ ↔ HasClock events templ := by
  obtain ⟨hearly, hlate⟩ := early_concat_collected events collect
  have hchosen : clockTemplate (events ++ [.collected collect]) = clockTemplate events := by
    rw [clockTemplate, hearly]
    rfl
  refine ⟨hchosen, fun templ ↦ ?_⟩
  rw [HasClock, hchosen, hlate, List.mem_append, List.mem_singleton]
  simp [HasClock]

/-- After the choice a request takes the clock from the stream that it replaces. -/
theorem hasClock_concat_request {events : List MuxerEvent} (hlate : lateEvents events ≠ [])
    (requested : PadTemplate) :
    clockTemplate (events ++ [.request requested]) = clockTemplate events ∧
      ∀ templ, HasClock (events ++ [.request requested]) templ ↔
        HasClock events templ ∧ requested ≠ templ := by
  obtain ⟨hearly, hafter⟩ := early_concat_late hlate (.request requested)
  have hchosen : clockTemplate (events ++ [.request requested]) = clockTemplate events := by
    rw [clockTemplate, hearly]
    rfl
  refine ⟨hchosen, fun templ ↦ ?_⟩
  rw [HasClock, hchosen, hafter, List.mem_append, List.mem_singleton, HasClock, not_or,
    MuxerEvent.request.injEq, and_assoc, ne_comm]

/-! ## The header of the PMT packet -/

theorem TableOf.take_four {ops : List PmtOp} {op : PmtOp} {pmt next : TsPacket × PsiPmtSection}
    (h : TableOf ops pmt) (hop : op ∈ muxerOps) (hroom : streamCount (ops ++ [op]) ≤ 33)
    (hok : op.apply pmt = .ok next) : next.1.cells.take 4 = pmt.1.cells.take 4 := by
  obtain ⟨front, hfront, hshape, -⟩ := h.packet
  have hrecord := requestedMap_concat programNumber ops op
  obtain ⟨found, hfound, -, hcells⟩ := hshape.apply hfront op (valid_of_mem_muxerOps hop)
    (by rw [← hrecord]; exact hroom)
  obtain rfl := Except.ok.inj (hfound.symm.trans hok)
  obtain ⟨-, crc, -, hbefore⟩ := hshape
  rw [hbefore, hcells, List.take_left' hfront, pmtCells]
  simp only [List.append_assoc, List.take_left' hfront]

theorem exists_of_muxerAddStream {spts added next : SpTs W} {streamType : UInt8}
    {streamPid : UInt16} (hstream : sptsAddStream spts streamType streamPid = .ok added)
    (hadd : muxerAddStream spts streamType streamPid = .ok next) :
    ∃ pmt, (PmtOp.streamAdd streamType streamPid).apply (added.pmtTspacket, added.pmtSection) =
        .ok pmt ∧ next.pmtTspacket = pmt.1 := by
  unfold muxerAddStream at hadd
  obtain ⟨found, hfound, hadd⟩ := exists_of_bind_eq_ok hadd
  obtain rfl := Except.ok.inj (hstream.symm.trans hfound)
  obtain ⟨pmt, hpmt, hpure⟩ := exists_of_bind_eq_ok hadd
  obtain rfl := Except.ok.inj hpure
  exact ⟨pmt, hpmt, rfl⟩

theorem exists_of_pcrPidSet {spts next : SpTs W} {pcrPid : UInt16}
    (hset : pcrPidSet spts pcrPid = .ok next) :
    ∃ pmt, (PmtOp.pcrPidSet pcrPid).apply (spts.pmtTspacket, spts.pmtSection) = .ok pmt ∧
      next.pmtTspacket = pmt.1 := by
  unfold pcrPidSet at hset
  obtain ⟨pmt, hpmt, hpure⟩ := exists_of_bind_eq_ok hset
  obtain rfl := Except.ok.inj hpure
  exact ⟨pmt, hpmt, rfl⟩

theorem HasAnnounced.header_requestPad {ops : List PmtOp} {muxer next : SpTsMuxer W}
    (h : HasAnnounced ops muxer) {request : PadRequest}
    (hok : Muxer.requestPad muxer request = .ok next) : next.first = muxer.first ∧
      next.spts.pmtTspacket.cells.take 4 = muxer.spts.pmtTspacket.cells.take 4 := by
  obtain ⟨video, audio, hvideo, haudio, -, -⟩ := exists_streams
  have hroom := (h.requestPad hok).1.fits
  cases hpad : templatePad muxer request.templ with
  | error fault =>
      rw [requestPad_of_error hpad] at hok
      cases hok
  | ok result =>
      obtain ⟨collect, hnext⟩ := requestPad_of_templatePad hpad
      obtain rfl := Except.ok.inj (hnext.symm.trans hok)
      cases htempl : request.templ with
      | video =>
          rw [htempl] at hpad hroom
          obtain ⟨added, hadd, hpure⟩ := exists_of_bind_eq_ok hpad
          obtain rfl := Except.ok.inj hpure
          obtain ⟨pmt, hpmt, hnext⟩ :=
            exists_of_muxerAddStream (sptsAddStream_video hvideo muxer.spts videoPid) hadd
          refine ⟨rfl, ?_⟩
          rw [hnext]
          exact h.announces.table.take_four (show videoAdd ∈ muxerOps by decide) hroom hpmt
      | audio =>
          rw [htempl] at hpad hroom
          obtain ⟨added, hadd, hpure⟩ := exists_of_bind_eq_ok hpad
          obtain rfl := Except.ok.inj hpure
          obtain ⟨pmt, hpmt, hnext⟩ :=
            exists_of_muxerAddStream (sptsAddStream_audio haudio muxer.spts audioPid) hadd
          refine ⟨rfl, ?_⟩
          rw [hnext]
          exact h.announces.table.take_four (show audioAdd ∈ muxerOps by decide) hroom hpmt
      | unknown =>
          rw [htempl] at hpad
          obtain rfl := Except.ok.inj hpad
          exact ⟨rfl, rfl⟩

theorem header_pcrReferenceSet {ops : List PmtOp} {spts next : SpTs W} (h : Announces ops spts)
    (hroom : streamCount ops ≤ 33) (hok : pcrReferenceSet spts = .ok next) :
    next.pmtTspacket.cells.take 4 = spts.pmtTspacket.cells.take 4 := by
  have hset {pcrPid : UInt16} {middle : SpTs W} (hop : PmtOp.pcrPidSet pcrPid ∈ muxerOps)
      (hmiddle : pcrPidSet spts pcrPid = .ok middle) :
      middle.pmtTspacket.cells.take 4 = spts.pmtTspacket.cells.take 4 := by
    obtain ⟨pmt, hpmt, hnext⟩ := exists_of_pcrPidSet hmiddle
    rw [hnext]
    exact h.table.take_four hop (by rw [streamCount_append]; exact hroom) hpmt
  unfold pcrReferenceSet at hok
  dsimp only at hok
  rw [h.table.videoPid, h.table.audioPid] at hok
  by_cases hvideo : videoAdd ∈ ops
  · simp only [if_pos hvideo] at hok
    rw [if_pos (by decide)] at hok
    obtain ⟨middle, hmiddle, hok⟩ := exists_of_bind_eq_ok hok
    have hkept := hset (show PmtOp.pcrPidSet videoPid ∈ muxerOps by decide) hmiddle
    obtain ⟨record, -, hpure⟩ := exists_of_bind_eq_ok hok
    obtain rfl := Except.ok.inj hpure
    exact hkept
  · simp only [if_neg hvideo] at hok
    rw [if_neg (by decide)] at hok
    by_cases haudio : audioAdd ∈ ops
    · simp only [if_pos haudio] at hok
      rw [if_pos (by decide)] at hok
      obtain ⟨middle, hmiddle, hok⟩ := exists_of_bind_eq_ok hok
      have hkept := hset (show PmtOp.pcrPidSet audioPid ∈ muxerOps by decide) hmiddle
      obtain ⟨record, -, hpure⟩ := exists_of_bind_eq_ok hok
      obtain rfl := Except.ok.inj hpure
      exact hkept
    · simp only [if_neg haudio] at hok
      rw [if_neg (by decide)] at hok
      obtain rfl := Except.ok.inj hok
      rfl

/-! ## Before and after the choice -/

/-- A run up to its first collection. -/
structure BeforeChoice (events : List MuxerEvent) (muxer : SpTsMuxer W) : Prop where
  late : lateEvents events = []
  first : muxer.first = true
  announced : HasAnnounced (events.flatMap MuxerEvent.entries) muxer
  running : Running false false muxer.spts

/-- The operations that add a stream. -/
def addedOps (ops : List PmtOp) : List PmtOp := ops.filter fun op ↦ op.added.isSome

/-- A run after the choice. -/
structure AfterChoice (events : List MuxerEvent) (muxer : SpTsMuxer W) : Prop where
  first : muxer.first = false
  announced : ∃ ops, HasAnnounced ops muxer ∧
    (requestedMap programNumber ops).pcrPid = clockPid events ∧
    addedOps ops = events.flatMap MuxerEvent.entries
  running : Running (HasClock events .video) (HasClock events .audio) muxer.spts

/-- A request replaces at most the stream of its kind, by one without the clock. -/
theorem HasAnnounced.running_requestPad {ops : List PmtOp} {muxer next : SpTsMuxer W}
    (h : HasAnnounced ops muxer) {videoPcr audioPcr : Bool}
    (hrunning : Running videoPcr audioPcr muxer.spts) {request : PadRequest}
    (hok : Muxer.requestPad muxer request = .ok next) :
    Running (videoPcr && request.templ ≠ .video) (audioPcr && request.templ ≠ .audio)
      next.spts := by
  obtain ⟨video, audio, hvideo, haudio, hvideoRefines, haudioRefines⟩ := exists_streams
  have hheader := (h.header_requestPad hok).2
  have hadded := (h.requestPad hok).2
  generalize request.templ = templ at hadded ⊢
  generalize next.spts = after at hadded hheader ⊢
  cases hadded with
  | @video record pmt hnew =>
      refine ⟨hrunning.pat, hrunning.pmt.exchange hheader, hrunning.nullpacket,
        fun other hother ↦ ⟨0, ?_⟩, ?_⟩
      · obtain rfl := Option.some.inj hother
        obtain rfl := Except.ok.inj (hvideo.symm.trans hnew)
        have hrefines := hvideoRefines false
        rw [show (videoPcr && decide (PadTemplate.video ≠ .video)) = false by simp]
        exact ⟨hrefines.tspacket, pcrReference_of_sptsStreamNew hnew, hrefines.info,
          hrefines.packetsCounter⟩
      · simpa using hrunning.audio
  | @audio record pmt hnew =>
      refine ⟨hrunning.pat, hrunning.pmt.exchange hheader, hrunning.nullpacket, ?_,
        fun other hother ↦ ⟨0, ?_⟩⟩
      · simpa using hrunning.video
      · obtain rfl := Option.some.inj hother
        obtain rfl := Except.ok.inj (haudio.symm.trans hnew)
        have hrefines := haudioRefines false
        rw [show (audioPcr && decide (PadTemplate.audio ≠ .audio)) = false by simp]
        exact ⟨hrefines.tspacket, pcrReference_of_sptsStreamNew hnew, hrefines.info,
          hrefines.packetsCounter⟩
  | unknown => simpa using hrunning

theorem running_of_clockSet {ops : List PmtOp} {spts next : SpTs W}
    (hannounces : Announces ops spts) (hrunning : Running false false spts)
    (hclock : ClockSet spts next)
    (hheader : next.pmtTspacket.cells.take 4 = spts.pmtTspacket.cells.take 4) :
    Running (videoAdd ∈ ops) (videoAdd ∉ ops ∧ audioAdd ∈ ops) next := by
  have hvideoIff : videoAdd ∈ ops ↔ spts.videoStream ≠ none := by
    rw [← Option.isSome_iff_ne_none, hannounces.video]
    simp
  have haudioIff : audioAdd ∈ ops ↔ spts.audioStream ≠ none := by
    rw [← Option.isSome_iff_ne_none, hannounces.audio]
    simp
  cases hclock with
  | @video record pmt hvideo =>
      have hmem : videoAdd ∈ ops := hvideoIff.mpr (by rw [hvideo]; exact Option.some_ne_none _)
      refine ⟨hrunning.pat, hrunning.pmt.exchange hheader, hrunning.nullpacket,
        fun other hother ↦ ?_, ?_⟩
      · obtain rfl := Option.some.inj hother
        obtain ⟨counter, hrefines⟩ := hrunning.video record hvideo
        rw [decide_eq_true hmem]
        exact ⟨counter, hrefines.setPcr true⟩
      · simpa [hmem] using hrunning.audio
  | @audio record pmt hnone haudio =>
      have hnot : videoAdd ∉ ops := fun hmem ↦ hvideoIff.mp hmem hnone
      have hmem : audioAdd ∈ ops := haudioIff.mpr (by rw [haudio]; exact Option.some_ne_none _)
      refine ⟨hrunning.pat, hrunning.pmt.exchange hheader, hrunning.nullpacket, ?_,
        fun other hother ↦ ?_⟩
      · simpa [hnot] using hrunning.video
      · obtain rfl := Option.some.inj hother
        obtain ⟨counter, hrefines⟩ := hrunning.audio record haudio
        rw [decide_eq_true ⟨hnot, hmem⟩]
        exact ⟨counter, hrefines.setPcr true⟩
  | none hvideo haudio =>
      have hnoVideo : videoAdd ∉ ops := fun hmem ↦ hvideoIff.mp hmem hvideo
      have hnoAudio : audioAdd ∉ ops := fun hmem ↦ haudioIff.mp hmem haudio
      simpa [hnoVideo, hnoAudio] using hrunning

theorem mem_entries_iff (events : List MuxerEvent) :
    (videoAdd ∈ events.flatMap MuxerEvent.entries ↔ .request .video ∈ events) ∧
      (audioAdd ∈ events.flatMap MuxerEvent.entries ↔ .request .audio ∈ events) := by
  have hentries (event : MuxerEvent) : (videoAdd ∈ event.entries ↔ event = .request .video) ∧
      (audioAdd ∈ event.entries ↔ event = .request .audio) := by
    cases event with
    | request templ => cases templ <;> decide
    | collected collect => exact ⟨iff_of_false nofun nofun, iff_of_false nofun nofun⟩
  simp [List.mem_flatMap, hentries]

theorem fields_of_mem_entries {events : List MuxerEvent} {op : PmtOp}
    (hop : op ∈ events.flatMap MuxerEvent.entries) :
    op.added.isSome = true ∧ op.assigned = none := by
  obtain ⟨event, -, hmem⟩ := List.mem_flatMap.mp hop
  cases event with
  | request templ =>
      cases templ with
      | video => rw [List.mem_singleton.mp hmem]; exact ⟨rfl, rfl⟩
      | audio => rw [List.mem_singleton.mp hmem]; exact ⟨rfl, rfl⟩
      | unknown => exact absurd hmem List.not_mem_nil
  | collected collect => exact absurd hmem List.not_mem_nil

theorem assigned_entries (events : List MuxerEvent) :
    (events.flatMap MuxerEvent.entries).filterMap PmtOp.assigned = [] :=
  List.filterMap_eq_nil_iff.mpr fun _ hop ↦ (fields_of_mem_entries hop).2

theorem addedOps_entries (events : List MuxerEvent) :
    addedOps (events.flatMap MuxerEvent.entries) = events.flatMap MuxerEvent.entries :=
  List.filter_eq_self.mpr fun _ hop ↦ (fields_of_mem_entries hop).1

theorem addedOps_clockOps (ops : List PmtOp) : addedOps (clockOps ops) = [] := by
  rw [clockOps]
  split_ifs <;> rfl

/-- Before the first collection the choice is open between the requested streams. -/
theorem hasClock_of_late {events : List MuxerEvent} (hlate : lateEvents events = []) :
    (HasClock events .video ↔ .request .video ∈ events) ∧
      (HasClock events .audio ↔ .request .video ∉ events ∧ .request .audio ∈ events) := by
  have hearly := earlyRequests_of_late events hlate
  unfold HasClock clockTemplate
  rw [hlate, hearly]
  by_cases hvideo : MuxerEvent.request .video ∈ events
  · simp [hvideo]
  · by_cases haudio : MuxerEvent.request .audio ∈ events
    · simp [hvideo, haudio]
    · simp [hvideo, haudio]

theorem pcrPid_clockOps {events : List MuxerEvent} (hlate : lateEvents events = []) :
    let ops := events.flatMap MuxerEvent.entries
    (requestedMap programNumber (ops ++ clockOps ops)).pcrPid = clockPid events := by
  intro ops
  obtain ⟨hvideoIff, haudioIff⟩ := mem_entries_iff events
  have hassigned : (requestedMap programNumber (ops ++ clockOps ops)).pcrPid =
      ((clockOps ops).filterMap PmtOp.assigned).getLast?.getD 0 := by
    change ((ops ++ clockOps ops).filterMap PmtOp.assigned).getLast?.getD 0 = _
    rw [List.filterMap_append, assigned_entries, List.nil_append]
  rw [hassigned, clockPid, clockTemplate, earlyRequests_of_late events hlate, clockOps]
  by_cases hvideo : MuxerEvent.request .video ∈ events
  · rw [if_pos (hvideoIff.mpr hvideo), if_pos hvideo]
    rfl
  · rw [if_neg (mt hvideoIff.mp hvideo), if_neg hvideo]
    by_cases haudio : MuxerEvent.request .audio ∈ events
    · rw [if_pos (haudioIff.mpr haudio), if_pos haudio]
      rfl
    · rw [if_neg (mt haudioIff.mp haudio), if_neg haudio]
      rfl

/-! ## One event -/

/-- The write function gets encoded packets.  A packet carries a clock reference exactly if it
begins a frame of the stream that has the clock, and every PMT announces the choice. -/
def Sends (events : List MuxerEvent) (spts next : SpTs W) : Prop :=
  ∃ packets, Handed spts next packets ∧
    ∀ packet ∈ packets, ∃ content : Packet, packet = content.block ∧
      (content.pcr ≠ none ↔ content.unitStart = true ∧
        ∃ templ, HasClock events templ ∧ content.pid = templ.streamPid) ∧
      (content.pid = pmtPid.toNat → ∃ map, readProgramMap content.payload = some map ∧
        map.pcrPid = clockPid events)

theorem Sends.of_handed (events : List MuxerEvent) {spts next : SpTs W}
    (h : Handed spts next []) : Sends events spts next :=
  ⟨[], h, fun _ hmem ↦ absurd hmem List.not_mem_nil⟩

theorem PadAdded.handed {spts next : SpTs W} {templ : PadTemplate}
    (hadded : PadAdded spts templ next) : Handed spts next [] := by
  cases hadded with
  | video pmt hnew => exact handed_nil rfl rfl rfl
  | audio pmt hnew => exact handed_nil rfl rfl rfl
  | unknown => exact handed_nil rfl rfl rfl

theorem Sends.trans {events : List MuxerEvent} {spts middle next : SpTs W}
    (hfirst : Sends events spts middle) (hsecond : Sends events middle next) :
    Sends events spts next := by
  obtain ⟨packets, hhanded, hpackets⟩ := hfirst
  obtain ⟨more, hhandedNext, hmore⟩ := hsecond
  refine ⟨packets ++ more, hhanded.trans hhandedNext, fun packet hmem ↦ ?_⟩
  rcases List.mem_append.mp hmem with hold | hnew
  · exact hpackets packet hold
  · exact hmore packet hnew

theorem clockOn_iff (events : List MuxerEvent) (number : ℕ) :
    ClockOn (HasClock events .video) (HasClock events .audio) number ↔
      ∃ templ, HasClock events templ ∧ number = templ.streamPid := by
  rw [ClockOn, decide_eq_true_iff, decide_eq_true_iff]
  constructor
  · rintro (⟨hvideo, hnumber⟩ | ⟨haudio, hnumber⟩)
    · exact ⟨.video, hvideo, hnumber⟩
    · exact ⟨.audio, haudio, hnumber⟩
  · rintro ⟨templ, hclock, hnumber⟩
    cases templ with
    | video => exact .inl ⟨hclock, hnumber⟩
    | audio => exact .inr ⟨hclock, hnumber⟩
    | unknown =>
        obtain ⟨hchosen, -⟩ := hclock
        unfold clockTemplate at hchosen
        split_ifs at hchosen
        all_goals cases hchosen

section Event

variable {gst : UInt64Scale} {events : List MuxerEvent} {muxer next : SpTsMuxer W}

theorem AfterChoice.writeStep (h : AfterChoice events muxer) {buffer : GstBuffer} {spts : SpTs W}
    {collect : List CollectPad} (hok : Spts.writeStep gst muxer.spts buffer = .ok spts) :
    AfterChoice events { muxer with spts := spts, collect := collect } ∧
      Sends events muxer.spts spts := by
  obtain ⟨ops, hannounced, hpid, hadded⟩ := h.announced
  obtain ⟨hrunning, packets, hhanded, hstreams, hsent⟩ := h.running.writeStep hok
  refine ⟨⟨h.first, ⟨ops, hannounced.writeStep hok, hpid, hadded⟩, hrunning⟩, packets, hhanded,
    fun packet hmem ↦ ?_⟩
  obtain ⟨content, hblock, hclock, hpmt⟩ := hsent packet hmem
  refine ⟨content, hblock, hclock.trans (and_congr_right fun _ ↦ clockOn_iff events _),
    fun hon ↦ ⟨_, ?_, hpid⟩⟩
  -- A packet is only handed on for a stream, and a stream is announced.
  have hops : ops ≠ [] := by
    rintro rfl
    rcases hstreams (List.ne_nil_of_mem hmem) with hvideo | haudio
    · exact hvideo (hannounced.announces.videoStream_eq_none List.not_mem_nil)
    · exact haudio (hannounced.announces.audioStream_eq_none List.not_mem_nil)
  rw [hpmt hon]
  exact hannounced.readProgramMap hops

/-- The first collection chooses, and sends nothing. -/
theorem BeforeChoice.exists_firstCollection (h : BeforeChoice events muxer) :
    ∃ next, firstCollection muxer = .ok next ∧ AfterChoice events next ∧
      Handed muxer.spts next.spts [] := by
  obtain ⟨hvideoIff, haudioIff⟩ := mem_entries_iff events
  obtain ⟨hvideoClock, haudioClock⟩ := hasClock_of_late h.late
  have hannounces := h.announced.announces
  obtain ⟨spts, hspts, hclock, hafter⟩ := exists_pcrReferenceSet hannounces h.announced.fits
  have hheader := header_pcrReferenceSet hannounces h.announced.fits hspts
  obtain ⟨hfunc, hdata, hcounter⟩ := hclock.written
  refine ⟨{ muxer with spts := spts, first := false }, ?_,
    ⟨rfl, ⟨_, ⟨hafter, ?_, fun op hmem ↦ ?_⟩, pcrPid_clockOps h.late, ?_⟩, ?_⟩,
    handed_nil hfunc hdata hcounter⟩
  · unfold firstCollection
    rw [if_pos h.first, hspts]
    rfl
  · rw [streamCount_clockOps]
    exact h.announced.fits
  · rcases List.mem_append.mp hmem with hold | hnew
    · exact h.announced.own op hold
    · exact own_clockOps _ op hnew
  · rw [addedOps, List.filter_append]
    change addedOps _ ++ addedOps _ = _
    rw [addedOps_entries, addedOps_clockOps, List.append_nil]
  · have hrunning := running_of_clockSet hannounces h.running hclock hheader
    rw [decide_eq_decide.mpr (hvideoIff.trans hvideoClock.symm), decide_eq_decide.mpr
      (((not_congr hvideoIff).and haudioIff).trans haudioClock.symm)] at hrunning
    exact hrunning

theorem BeforeChoice.requestPad (h : BeforeChoice events muxer) {templ : PadTemplate}
    (hok : MuxerEvent.step gst muxer (.request templ) = .ok next) :
    BeforeChoice (events ++ [.request templ]) next ∧ Sends events muxer.spts next.spts := by
  obtain ⟨hannounced, hadded⟩ := h.announced.requestPad hok
  have hrunning := h.announced.running_requestPad h.running hok
  rw [Bool.false_and, Bool.false_and] at hrunning
  refine ⟨⟨?_, (h.announced.header_requestPad hok).1.trans h.first, ?_, hrunning⟩,
    .of_handed events hadded.handed⟩
  · rw [lateEvents_eq_nil_iff]
    intro event hmem
    rcases List.mem_append.mp hmem with hold | hnew
    · exact (lateEvents_eq_nil_iff events).mp h.late event hold
    · rw [List.mem_singleton.mp hnew]
      rfl
  · rw [List.flatMap_append, List.flatMap_singleton]
    exact hannounced

theorem AfterChoice.requestPad (h : AfterChoice events muxer) (hlate : lateEvents events ≠ [])
    {templ : PadTemplate} (hok : MuxerEvent.step gst muxer (.request templ) = .ok next) :
    AfterChoice (events ++ [.request templ]) next ∧ Sends events muxer.spts next.spts := by
  obtain ⟨ops, hannounced, hpid, hops⟩ := h.announced
  obtain ⟨hnext, hadded⟩ := hannounced.requestPad hok
  obtain ⟨hchosen, hclock⟩ := hasClock_concat_request hlate templ
  have hrunning := hannounced.running_requestPad h.running hok
  have hassigned := assigned_entries [.request templ]
  have hentries := addedOps_entries [.request templ]
  rw [List.flatMap_singleton] at hassigned hentries
  refine ⟨⟨(hannounced.header_requestPad hok).1.trans h.first, ⟨_, hnext, ?_, ?_⟩, ?_⟩,
    .of_handed events hadded.handed⟩
  · rw [clockPid, hchosen]
    change ((ops ++ templ.entries).filterMap PmtOp.assigned).getLast?.getD 0 = clockPid events
    change templ.entries.filterMap PmtOp.assigned = [] at hassigned
    rw [List.filterMap_append, hassigned, List.append_nil]
    exact hpid
  · rw [addedOps, List.filter_append]
    change addedOps ops ++ addedOps (MuxerEvent.request templ).entries = _
    rw [hops, hentries, List.flatMap_append, List.flatMap_singleton]
  · simpa [hclock] using hrunning

theorem AfterChoice.collected (h : AfterChoice events muxer) (collect : List CollectPad) :
    AfterChoice (events ++ [.collected collect]) muxer := by
  obtain ⟨hchosen, hclock⟩ := hasClock_concat_collected events collect
  refine ⟨h.first, ?_, ?_⟩
  · rw [clockPid, hchosen, List.flatMap_append, List.flatMap_singleton]
    change ∃ ops, _ ∧ _ ∧ addedOps ops = _ ++ []
    rw [List.append_nil]
    exact h.announced
  · simpa [hclock] using h.running

/-! ## Runs -/

/-- The state of a run after some events. -/
def RunState (events : List MuxerEvent) (muxer : SpTsMuxer W) : Prop :=
  BeforeChoice events muxer ∨ (lateEvents events ≠ [] ∧ AfterChoice events muxer)

/-- The first part of a collection chooses, unless the choice has been made. -/
theorem RunState.exists_firstCollection (h : RunState events muxer) (collect : List CollectPad) :
    ∃ start, firstCollection { muxer with collect := collect } = .ok start ∧
      AfterChoice events start ∧ Handed muxer.spts start.spts [] := by
  rcases h with hbefore | ⟨-, hafter⟩
  · have hcollect : BeforeChoice events { muxer with collect := collect } :=
      ⟨hbefore.late, hbefore.first, ⟨hbefore.announced.announces, hbefore.announced.fits,
        hbefore.announced.own⟩, hbefore.running⟩
    exact hcollect.exists_firstCollection
  · obtain ⟨ops, hannounced, hpid⟩ := hafter.announced
    exact ⟨_, firstCollection_later (show _ = false from hafter.first),
      ⟨hafter.first, ⟨ops, ⟨hannounced.announces, hannounced.fits, hannounced.own⟩, hpid⟩,
        hafter.running⟩, handed_nil rfl rfl rfl⟩

/-- One event leads to the state of the longer run, and sends what the choice allows. -/
theorem RunState.step (h : RunState events muxer) {event : MuxerEvent}
    (hok : event.step gst muxer = .ok next) :
    RunState (events ++ [event]) next ∧ Sends events muxer.spts next.spts := by
  cases event with
  | request templ =>
      rcases h with hbefore | ⟨hlate, hafter⟩
      · obtain ⟨hnext, hsends⟩ := hbefore.requestPad hok
        exact ⟨.inl hnext, hsends⟩
      · obtain ⟨hnext, hsends⟩ := hafter.requestPad hlate hok
        exact ⟨.inr ⟨by rw [(early_concat_late hlate _).2]; simp, hnext⟩, hsends⟩
  | collected collect =>
      have hlate : lateEvents (events ++ [.collected collect]) ≠ [] := by
        rw [(early_concat_collected events collect).2]
        simp
      obtain ⟨start, hstart, hend⟩ := sptsmuxerCollected_cases hok
      obtain ⟨found, hfound, hafter, hhanded⟩ := h.exists_firstCollection collect
      obtain rfl := Except.ok.inj (hfound.symm.trans hstart)
      have hsends : Sends events muxer.spts found.spts := .of_handed events hhanded
      rcases hend with rfl | ⟨buffer, after, spts, hwrite, rfl⟩
      · exact ⟨.inr ⟨hlate, hafter.collected collect⟩, hsends⟩
      · obtain ⟨hwritten, hpackets⟩ := hafter.writeStep hwrite
        exact ⟨.inr ⟨hlate, hwritten.collected collect⟩, hsends.trans hpackets⟩

end Event

theorem counting_sptsmuxerInit {writeFunc : W → TsPacket → Bool × W} {writeFuncData : W}
    {muxer : SpTsMuxer W} (hmuxer : sptsmuxerInit writeFunc writeFuncData = .ok muxer) :
    Counting (fun _ ↦ 0) muxer.spts := by
  obtain ⟨new, hnew, -, -, -, -, hvideo, haudio, -⟩ :=
    exists_sptsmuxerInit writeFunc writeFuncData
  obtain rfl := Except.ok.inj (hnew.symm.trans hmuxer)
  obtain ⟨pat, start, hpat, hpatCells, hpmt, -, crc, -, hpmtCells⟩ := exists_tables
  rw [sptsmuxerInit, sptsNew_eq hpat hpmt] at hnew
  have hspts : new.spts = newSpTs pat start writeFunc writeFuncData := by
    rw [← Except.ok.inj hnew]
  simp only [pmtCells, List.append_assoc] at hpmtCells
  refine ⟨?_, ?_, ?_, fun record hrecord ↦ ?_, fun record hrecord ↦ ?_⟩
  · rw [hspts]
    exact ⟨_, hpatCells⟩
  · rw [hspts]
    exact ⟨_, hpmtCells⟩
  · rw [hspts]
    exact sptsNullPacketInit_eq
  · exact absurd (hrecord.symm.trans hvideo) (Option.some_ne_none record)
  · exact absurd (hrecord.symm.trans haudio) (Option.some_ne_none record)

theorem runState_sptsmuxerInit {writeFunc : W → TsPacket → Bool × W} {writeFuncData : W}
    {muxer : SpTsMuxer W} (hmuxer : sptsmuxerInit writeFunc writeFuncData = .ok muxer) :
    RunState [] muxer := by
  have hcounting := counting_sptsmuxerInit hmuxer
  obtain ⟨new, hnew, hfirst, -, -, -, hvideo, haudio, hannounces⟩ :=
    exists_sptsmuxerInit writeFunc writeFuncData
  obtain rfl := Except.ok.inj (hnew.symm.trans hmuxer)
  have hown : HasAnnounced [] new :=
    ⟨hannounces, Nat.zero_le 33, fun _ hmem ↦ absurd hmem List.not_mem_nil⟩
  refine .inl ⟨rfl, hfirst, hown, ⟨0, hcounting.pat⟩, ⟨0, hcounting.pmt⟩, hcounting.nullpacket,
    fun record hrecord ↦ ?_, fun record hrecord ↦ ?_⟩
  · exact absurd (hrecord.symm.trans hvideo) (Option.some_ne_none record)
  · exact absurd (hrecord.symm.trans haudio) (Option.some_ne_none record)

/-- The events of a run lead to its state, and all packets have been handed on and counted. -/
theorem exists_runState {gst : UInt64Scale} {writeFunc : W → TsPacket → Bool × W}
    {writeFuncData : W} {muxer final : SpTsMuxer W}
    (hmuxer : sptsmuxerInit writeFunc writeFuncData = .ok muxer) {events : List MuxerEvent}
    (hrun : events.foldlM (MuxerEvent.step gst) muxer = .ok final) :
    RunState events final ∧ ∃ packets, Handed muxer.spts final.spts packets := by
  induction events using List.reverseRecOn generalizing final with
  | nil =>
      obtain rfl := Except.ok.inj hrun
      exact ⟨runState_sptsmuxerInit hmuxer, [], handed_nil rfl rfl rfl⟩
  | append_singleton before event ih =>
      obtain ⟨middle, hbefore, hevent⟩ := foldlM_concat_eq_ok.mp hrun
      obtain ⟨hstate, packets, hhanded⟩ := ih hbefore
      obtain ⟨hnext, more, hmore, -⟩ := hstate.step hevent
      exact ⟨hnext, packets ++ more, hhanded.trans hmore⟩

/-- The recorder has every packet of a run, and they are counted modulo `2 ^ 64`. -/
theorem packetsCounter_of_run {gst : UInt64Scale} {results : List TsPacket → Bool}
    {muxer final : SpTsMuxer (List TsPacket)}
    (hmuxer : sptsmuxerInit (recorder results) [] = .ok muxer) {events : List MuxerEvent}
    (hrun : events.foldlM (MuxerEvent.step gst) muxer = .ok final) :
    final.spts.writeFunc = recorder results ∧
      final.spts.packetsCounter = UInt64.ofNat final.spts.writeFuncData.length := by
  obtain ⟨new, hnew, -, hfunc, hdata, hcounter, -⟩ := exists_sptsmuxerInit (recorder results) []
  obtain rfl := Except.ok.inj (hnew.symm.trans hmuxer)
  obtain ⟨-, packets, hhanded⟩ := exists_runState hmuxer hrun
  have hpackets : final.spts.writeFuncData = packets := by
    rw [hhanded.writeFuncData, SpTs.emit, hfunc, hdata]
    exact foldl_recorder_packets results [] packets
  refine ⟨hhanded.writeFunc.trans hfunc, ?_⟩
  rw [hhanded.packetsCounter, hpackets, SpTs.emit, hcounter]
  exact UInt64.zero_add _

end SpTsMuxer.Muxer
