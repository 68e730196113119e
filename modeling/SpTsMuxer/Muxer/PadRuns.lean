import SpTsMuxer.Muxer.Collect
import SpTsMuxer.Muxer.Requests

/-!
# Pads Requested During a Run

A pad can be requested at any time, also between frames.  There is one stream of each kind: a
second pad of a kind lists the PID of the first once more and puts a new stream in its place, with
a continuity counter that begins anew and without the clock.
-/

namespace SpTsMuxer.Muxer

open Memory Transport Machine Psi Spts

variable {W : Type}

/-! ## Events -/

/-- What happens to a muxer: a pad is requested, or the collect pads call with what the pads have
then. -/
inductive MuxerEvent where
  | request (templ : PadTemplate)
  | collected (collect : List CollectPad)
  deriving DecidableEq

/-- An event; a request is granted. -/
def MuxerEvent.step (gst : UInt64Scale) (muxer : SpTsMuxer W) :
    MuxerEvent → Except Fault (SpTsMuxer W)
  | .request templ => requestPad muxer ⟨templ, true, true⟩
  | .collected collect => sptsmuxerCollected gst { muxer with collect := collect }

theorem sptsmuxerCollected_cases {gst : UInt64Scale} {muxer next : SpTsMuxer W}
    (h : sptsmuxerCollected gst muxer = .ok next) :
    ∃ start, firstCollection muxer = .ok start ∧
      (next = start ∨ ∃ buffer collect spts, writeStep gst start.spts buffer = .ok spts ∧
        next = { start with spts := spts, collect := collect }) := by
  obtain ⟨start, hstart, hrest⟩ := exists_of_bind_eq_ok h
  refine ⟨start, hstart, ?_⟩
  cases hchoose : nextCollectdata start.collect with
  | none =>
      rw [hchoose] at hrest
      exact .inl (Except.ok.inj hrest).symm
  | some position =>
      rw [hchoose] at hrest
      dsimp only at hrest
      cases hpop : Merge.pop start.collect position with
      | none =>
          rw [hpop] at hrest
          cases hrest
      | some popped =>
          rw [hpop] at hrest
          obtain ⟨spts, hwrite, hpure⟩ := exists_of_bind_eq_ok hrest
          exact .inr ⟨popped.1, popped.2, spts, hwrite, (Except.ok.inj hpure).symm⟩

/-! ## What is announced during a run -/

/-- A muxer has announced some operations of its own, and they fit. -/
structure HasAnnounced (ops : List PmtOp) (muxer : SpTsMuxer W) : Prop where
  announces : Announces ops muxer.spts
  fits : streamCount ops ≤ 33
  own : ∀ op ∈ ops, op ∈ muxerOps

/-- The operations of an event do not include those of a clock. -/
def MuxerEvent.entries : MuxerEvent → List PmtOp
  | .request templ => templ.entries
  | .collected _ => []

theorem own_entries (event : MuxerEvent) : ∀ op ∈ event.entries, op ∈ muxerOps := by
  cases event with
  | request templ => cases templ <;> decide
  | collected collect => exact fun _ hmem ↦ absurd hmem List.not_mem_nil

theorem own_clockOps (ops : List PmtOp) : ∀ op ∈ clockOps ops, op ∈ muxerOps := by
  rw [clockOps]
  split_ifs <;> decide

theorem count_clockOps (ops : List PmtOp) :
    (clockOps ops).count videoAdd = 0 ∧ (clockOps ops).count audioAdd = 0 := by
  rw [clockOps]
  split_ifs <;> decide

section Step

variable {gst : UInt64Scale} {muxer next : SpTsMuxer W} {ops : List PmtOp}
  (h : HasAnnounced ops muxer)
include h

theorem HasAnnounced.requestPad {request : PadRequest}
    (hok : Muxer.requestPad muxer request = .ok next) :
    HasAnnounced (ops ++ request.templ.entries) next ∧
      PadAdded muxer.spts request.templ next.spts := by
  by_cases hfull : 33 < streamCount (ops ++ request.templ.entries)
  · rw [requestPad_full h.announces request h.fits hfull] at hok
    cases hok
  · have hfits := Nat.le_of_not_lt hfull
    obtain ⟨found, hfound, -, hadded, hannounces⟩ := exists_requestPad h.announces request hfits
    obtain rfl : found = next := Except.ok.inj (hfound.symm.trans hok)
    refine ⟨⟨hannounces, hfits, fun op hmem ↦ ?_⟩, hadded⟩
    rcases List.mem_append.mp hmem with hold | hnew
    · exact h.own op hold
    · exact own_entries (.request request.templ) op hnew

theorem HasAnnounced.firstCollection (hok : Muxer.firstCollection muxer = .ok next) :
    ∃ clock, HasAnnounced (ops ++ clock) next ∧
      clock.count videoAdd = 0 ∧ clock.count audioAdd = 0 := by
  cases hfirst : muxer.first with
  | false =>
      rw [firstCollection_later hfirst] at hok
      obtain rfl : muxer = next := Except.ok.inj hok
      refine ⟨[], ?_, rfl, rfl⟩
      rw [List.append_nil]
      exact h
  | true =>
      obtain ⟨found, hfound, -, hannounces⟩ := exists_firstCollection h.announces h.fits hfirst
      obtain rfl : found = next := Except.ok.inj (hfound.symm.trans hok)
      refine ⟨clockOps ops, ⟨hannounces, ?_, fun op hmem ↦ ?_⟩, count_clockOps ops⟩
      · rw [streamCount_clockOps]
        exact h.fits
      · rcases List.mem_append.mp hmem with hold | hnew
        · exact h.own op hold
        · exact own_clockOps ops op hnew

theorem HasAnnounced.writeStep {buffer : GstBuffer} {spts : SpTs W} {collect : List CollectPad}
    (hok : Spts.writeStep gst muxer.spts buffer = .ok spts) :
    HasAnnounced ops { muxer with spts := spts, collect := collect } := by
  rcases writeStep_cases hok with ⟨-, -, rfl⟩ | ⟨packets, -, hwritten⟩
  · exact ⟨h.announces, h.fits, h.own⟩
  · exact ⟨h.announces.written hwritten, h.fits, h.own⟩

/-- An event announces its entries, and a collection perhaps a clock. -/
theorem HasAnnounced.step {event : MuxerEvent} (hok : event.step gst muxer = .ok next) :
    ∃ clock, HasAnnounced (ops ++ event.entries ++ clock) next ∧
      clock.count videoAdd = 0 ∧ clock.count audioAdd = 0 := by
  cases event with
  | request templ =>
      refine ⟨[], ?_, rfl, rfl⟩
      rw [List.append_nil]
      exact (h.requestPad hok).1
  | collected collect =>
      have hcollect : HasAnnounced ops { muxer with collect := collect } :=
        ⟨h.announces, h.fits, h.own⟩
      obtain ⟨start, hstart, hend⟩ := sptsmuxerCollected_cases hok
      obtain ⟨clock, hclock, hcount⟩ := hcollect.firstCollection hstart
      refine ⟨clock, ?_, hcount⟩
      rw [MuxerEvent.entries, List.append_nil]
      rcases hend with rfl | ⟨buffer, after, spts, hwrite, rfl⟩
      · exact hclock
      · exact hclock.writeStep hwrite

end Step

/-- The requests of a run for a template. -/
def padCount (templ : PadTemplate) (events : List MuxerEvent) : ℕ := events.count (.request templ)

theorem count_entries (event : MuxerEvent) :
    event.entries.count videoAdd = (if event = .request .video then 1 else 0) ∧
      event.entries.count audioAdd = (if event = .request .audio then 1 else 0) := by
  cases event with
  | request templ => cases templ <;> decide
  | collected collect => exact ⟨rfl, rfl⟩

theorem padCount_cons (templ : PadTemplate) (event : MuxerEvent) (rest : List MuxerEvent) :
    padCount templ (event :: rest) =
      (if event = .request templ then 1 else 0) + padCount templ rest := by
  rw [padCount, List.count_cons, Nat.add_comm]
  simp only [beq_iff_eq]
  rfl

/-- A run announces its requests, and perhaps a clock. -/
theorem HasAnnounced.run {gst : UInt64Scale} {muxer final : SpTsMuxer W} {ops : List PmtOp}
    (h : HasAnnounced ops muxer) {events : List MuxerEvent}
    (hrun : events.foldlM (MuxerEvent.step gst) muxer = .ok final) :
    ∃ all, HasAnnounced all final ∧
      all.count videoAdd = ops.count videoAdd + padCount .video events ∧
      all.count audioAdd = ops.count audioAdd + padCount .audio events := by
  induction events generalizing ops muxer with
  | nil =>
      obtain rfl : muxer = final := Except.ok.inj hrun
      exact ⟨ops, h, rfl, rfl⟩
  | cons event rest ih =>
      obtain ⟨next, hnext, hrest⟩ := foldlM_cons_eq_ok.mp hrun
      obtain ⟨clock, hclock, hvideoClock, haudioClock⟩ := h.step hnext
      obtain ⟨all, hall, hvideo, haudio⟩ := ih hclock hrest
      obtain ⟨hvideoEntries, haudioEntries⟩ := count_entries event
      refine ⟨all, hall, ?_, ?_⟩
      · rw [hvideo, padCount_cons, List.count_append, List.count_append, hvideoClock,
          hvideoEntries]
        omega
      · rw [haudio, padCount_cons, List.count_append, List.count_append, haudioClock,
          haudioEntries]
        omega

/-! ## Distinct PIDs -/

/-- The PIDs that a map lists. -/
def listedPids (map : ProgramMap) : List ℕ := map.streams.map Prod.snd

/-- Unless there is no stream, the PMT is read as a map that lists no PID twice. -/
def ListsDistinctPids (spts : SpTs W) : Prop :=
  (spts.videoStream = none ∧ spts.audioStream = none) ∨
    ∃ map, readProgramMap (spts.pmtTspacket.cells.drop 4) = some map ∧ (listedPids map).Nodup

theorem listedPids_cons (number : UInt16) (op : PmtOp) (rest : List PmtOp) :
    listedPids (requestedMap number (op :: rest)) =
      (op.added.map Prod.snd).toList ++ listedPids (requestedMap number rest) := by
  change (List.filterMap PmtOp.added (op :: rest)).map Prod.snd = _
  rw [List.filterMap_cons]
  cases op.added <;> rfl

theorem count_listedPids (number : UInt16) {ops : List PmtOp} (hown : ∀ op ∈ ops, op ∈ muxerOps)
    (pid : ℕ) :
    (listedPids (requestedMap number ops)).count pid =
      (if videoPid.toNat = pid then ops.count videoAdd else 0) +
        if audioPid.toNat = pid then ops.count audioAdd else 0 := by
  induction ops with
  | nil =>
      rw [List.count_nil, List.count_nil, ite_self, ite_self]
      rfl
  | cons op rest ih =>
      have hrest := ih fun other hmem ↦ hown other (List.mem_cons_of_mem op hmem)
      have hop := hown op List.mem_cons_self
      rw [listedPids_cons, List.count_append, hrest]
      simp only [muxerOps, List.mem_cons, List.not_mem_nil, or_false] at hop
      rcases hop with rfl | rfl | rfl | rfl
      · change [videoPid.toNat].count pid + _ = _
        rw [List.count_singleton, List.count_cons_self,
          List.count_cons_of_ne (show videoAdd ≠ audioAdd by decide)]
        simp only [beq_iff_eq]
        split_ifs <;> omega
      · change [audioPid.toNat].count pid + _ = _
        rw [List.count_singleton, List.count_cons_self,
          List.count_cons_of_ne (show audioAdd ≠ videoAdd by decide)]
        simp only [beq_iff_eq]
        split_ifs <;> omega
      · change [].count pid + _ = _
        rw [List.count_nil, Nat.zero_add, List.count_cons_of_ne (by decide),
          List.count_cons_of_ne (by decide)]
      · change [].count pid + _ = _
        rw [List.count_nil, Nat.zero_add, List.count_cons_of_ne (by decide),
          List.count_cons_of_ne (by decide)]

/-- No PID is listed twice exactly if each stream is added at most once. -/
theorem nodup_listedPids {ops : List PmtOp} (number : UInt16)
    (hown : ∀ op ∈ ops, op ∈ muxerOps) :
    (listedPids (requestedMap number ops)).Nodup ↔
      ops.count videoAdd ≤ 1 ∧ ops.count audioAdd ≤ 1 := by
  have hne : videoPid.toNat ≠ audioPid.toNat := by decide
  rw [List.nodup_iff_count]
  constructor
  · intro h
    have hvideo := h videoPid.toNat
    have haudio := h audioPid.toNat
    rw [count_listedPids number hown, if_pos rfl, if_neg hne.symm] at hvideo
    rw [count_listedPids number hown, if_neg hne, if_pos rfl] at haudio
    omega
  · rintro ⟨hvideo, haudio⟩ pid
    rw [count_listedPids number hown]
    split_ifs <;> omega

theorem requestedMap_fits {ops : List PmtOp} (hown : ∀ op ∈ ops, op ∈ muxerOps)
    (hfits : streamCount ops ≤ 33) : (requestedMap programNumber ops).Fits where
  programNumber_lt := programNumber.toNat_lt
  pcrPid_lt := by
    change (ops.filterMap PmtOp.assigned).getLast?.getD 0 < 8192
    cases hlast : (ops.filterMap PmtOp.assigned).getLast? with
    | none => decide
    | some pid =>
        obtain ⟨op, hmem, hassigned⟩ := List.mem_filterMap.mp (List.mem_of_getLast? hlast)
        have hvalid := valid_of_mem_muxerOps (hown op hmem)
        cases op with
        | streamAdd streamType streamPid => cases hassigned
        | pcrPidSet pcrPid =>
            obtain rfl : pcrPid.toNat = pid := Option.some.inj hassigned
            exact hvalid
  streams_lt := by
    intro stream hmem
    obtain ⟨op, hop, hadded⟩ := List.mem_filterMap.mp hmem
    have hvalid := valid_of_mem_muxerOps (hown op hop)
    cases op with
    | streamAdd streamType streamPid =>
        obtain rfl := Option.some.inj hadded
        exact ⟨streamType.toNat_lt, hvalid.2⟩
    | pcrPidSet pcrPid => cases hadded
  length_le := hfits

/-- What a receiver reads of a PMT that has been changed at least once. -/
theorem HasAnnounced.readProgramMap {ops : List PmtOp} {muxer : SpTsMuxer W}
    (h : HasAnnounced ops muxer) (hops : ops ≠ []) :
    Transport.readProgramMap (muxer.spts.pmtTspacket.cells.drop 4) =
      some (requestedMap programNumber ops) := by
  obtain ⟨front, hfront, -, hrep⟩ := h.announces.table.packet
  obtain ⟨-, hcells⟩ := hrep hops
  rw [hcells, ← hfront, List.drop_left]
  exact readProgramMap_payload _ (requestedMap_fits h.own h.fits)

theorem HasAnnounced.listsDistinctPids {ops : List PmtOp} {muxer : SpTsMuxer W}
    (h : HasAnnounced ops muxer) :
    ListsDistinctPids muxer.spts ↔ ops.count videoAdd ≤ 1 ∧ ops.count audioAdd ≤ 1 := by
  by_cases hempty : videoAdd ∉ ops ∧ audioAdd ∉ ops
  · obtain ⟨hvideo, haudio⟩ := hempty
    refine iff_of_true (.inl ⟨h.announces.videoStream_eq_none hvideo,
      h.announces.audioStream_eq_none haudio⟩) ⟨?_, ?_⟩
    · rw [List.count_eq_zero_of_not_mem hvideo]
      exact Nat.zero_le 1
    · rw [List.count_eq_zero_of_not_mem haudio]
      exact Nat.zero_le 1
  · have hops : ops ≠ [] := by
      rintro rfl
      exact hempty ⟨List.not_mem_nil, List.not_mem_nil⟩
    rw [← nodup_listedPids programNumber h.own]
    constructor
    · rintro (⟨hvideo, haudio⟩ | ⟨map, hmap, hnodup⟩)
      · refine absurd ⟨fun hmem ↦ ?_, fun hmem ↦ ?_⟩ hempty
        · obtain ⟨record, hrecord⟩ := h.announces.exists_videoStream hmem
          rw [hvideo] at hrecord
          cases hrecord
        · obtain ⟨record, hrecord⟩ := h.announces.exists_audioStream hmem
          rw [haudio] at hrecord
          cases hrecord
      · rw [h.readProgramMap hops] at hmap
        rw [Option.some.inj hmap]
        exact hnodup
    · exact fun hnodup ↦ .inr ⟨_, h.readProgramMap hops, hnodup⟩

/-! ## Streams during a run -/

/-- A request leaves the streams that there are as they are, with their continuity counters and
their clocks. -/
def KeepsStreams (gst : UInt64Scale) (muxer : SpTsMuxer W) : MuxerEvent → Prop
  | .request templ => ∀ next, MuxerEvent.step gst muxer (.request templ) = .ok next →
      (∀ record, muxer.spts.videoStream = some record →
        next.spts.videoStream = some record) ∧
      ∀ record, muxer.spts.audioStream = some record → next.spts.audioStream = some record
  | .collected _ => True

/-- The first request of a kind keeps the streams. -/
theorem HasAnnounced.keepsStreams {gst : UInt64Scale} {ops : List PmtOp} {muxer : SpTsMuxer W}
    (h : HasAnnounced ops muxer) {event : MuxerEvent}
    (hvideo : event = .request .video → ops.count videoAdd = 0)
    (haudio : event = .request .audio → ops.count audioAdd = 0) :
    KeepsStreams gst muxer event := by
  cases event with
  | collected collect => trivial
  | request templ =>
      intro next hnext
      obtain ⟨-, hadded⟩ := h.requestPad hnext
      refine ⟨fun record hrecord ↦ ?_, fun record hrecord ↦ ?_⟩
      · by_cases htempl : templ = .video
        · have hnone := h.announces.videoStream_eq_none
            (List.count_eq_zero.mp (hvideo (congrArg _ htempl)))
          exact absurd (hnone.symm.trans hrecord) nofun
        · exact (hadded.videoStream htempl).trans hrecord
      · by_cases htempl : templ = .audio
        · have hnone := h.announces.audioStream_eq_none
            (List.count_eq_zero.mp (haudio (congrArg _ htempl)))
          exact absurd (hnone.symm.trans hrecord) nofun
        · exact (hadded.audioStream htempl).trans hrecord

/-- In every state of the run the PMT lists no PID twice, and every request keeps the streams. -/
def OnePidPerPad (gst : UInt64Scale) (muxer final : SpTsMuxer W) (events : List MuxerEvent) :
    Prop :=
  AtEach (MuxerEvent.step gst) muxer events (fun state event ↦
      ListsDistinctPids state.spts ∧ KeepsStreams gst state event) ∧
    ListsDistinctPids final.spts

theorem padCount_append (templ : PadTemplate) (before after : List MuxerEvent) :
    padCount templ (before ++ after) = padCount templ before + padCount templ after :=
  List.count_append

section Runs

variable {gst : UInt64Scale} {writeFunc : W → TsPacket → Bool × W} {writeFuncData : W}
  {muxer final : SpTsMuxer W} (hmuxer : sptsmuxerInit writeFunc writeFuncData = .ok muxer)
  {events : List MuxerEvent} (hrun : events.foldlM (MuxerEvent.step gst) muxer = .ok final)
include hmuxer hrun

theorem exists_hasAnnounced : ∃ ops, HasAnnounced ops final ∧
    ops.count videoAdd = padCount .video events ∧ ops.count audioAdd = padCount .audio events := by
  obtain ⟨new, hnew, -, -, -, -, -, -, hannounces⟩ := exists_sptsmuxerInit writeFunc writeFuncData
  obtain rfl : new = muxer := Except.ok.inj (hnew.symm.trans hmuxer)
  have hstart : HasAnnounced [] new := ⟨hannounces, Nat.zero_le 33, fun _ ↦ nofun⟩
  obtain ⟨ops, hops, hvideo, haudio⟩ := hstart.run hrun
  rw [List.count_nil, Nat.zero_add] at hvideo haudio
  exact ⟨ops, hops, hvideo, haudio⟩

/-- Each pad has a PID of its own exactly if at most one pad of each kind is requested. -/
theorem onePidPerPad_iff : OnePidPerPad gst muxer final events ↔
    padCount .video events ≤ 1 ∧ padCount .audio events ≤ 1 := by
  have hcounts {before : List MuxerEvent} {state : SpTsMuxer W}
      (hbefore : before.foldlM (MuxerEvent.step gst) muxer = .ok state) :
      ListsDistinctPids state.spts ↔
        padCount .video before ≤ 1 ∧ padCount .audio before ≤ 1 := by
    obtain ⟨ops, hops, hvideo, haudio⟩ := exists_hasAnnounced hmuxer hbefore
    rw [hops.listsDistinctPids, hvideo, haudio]
  rw [OnePidPerPad, hcounts hrun]
  refine and_iff_right_of_imp ?_
  rintro ⟨hvideo, haudio⟩ before event after rfl state hbefore
  rw [padCount_append, padCount_cons] at hvideo haudio
  refine ⟨(hcounts hbefore).mpr ⟨by omega, by omega⟩, ?_⟩
  obtain ⟨ops, hops, hvideoOps, haudioOps⟩ := exists_hasAnnounced hmuxer hbefore
  apply hops.keepsStreams
  · rintro rfl
    rw [if_pos rfl] at hvideo
    omega
  · rintro rfl
    rw [if_pos rfl] at haudio
    omega

end Runs

theorem exists_requestRun (gst : UInt64Scale) (writeFunc : W → TsPacket → Bool × W)
    (writeFuncData : W) (templates : List PadTemplate)
    (hroom : streamCount (requestedEntries (templates.map (⟨·, true, true⟩))) ≤ 33) :
    ∃ muxer final, sptsmuxerInit writeFunc writeFuncData = .ok muxer ∧
      (templates.map MuxerEvent.request).foldlM (MuxerEvent.step gst) muxer = .ok final := by
  obtain ⟨muxer, hmuxer, -, -, -, -, -, -, hannounces⟩ :=
    exists_sptsmuxerInit writeFunc writeFuncData
  obtain ⟨final, hfinal, -⟩ :=
    exists_requests (fun _ _ _ _ _ ↦ trivial) hannounces trivial _ hroom
  refine ⟨muxer, final, hmuxer, ?_⟩
  rw [List.foldlM_map] at hfinal ⊢
  exact hfinal

/-- A video pad and an audio pad. -/
theorem onePidPerPad_two_kinds :
    ∃ muxer final, sptsmuxerInit (recorder fun _ ↦ true) [] = .ok muxer ∧
      [MuxerEvent.request .video, .request .audio].foldlM (MuxerEvent.step gstUtilUint64Scale)
        muxer = .ok final ∧
      OnePidPerPad gstUtilUint64Scale muxer final [.request .video, .request .audio] := by
  obtain ⟨muxer, final, hmuxer, hfinal⟩ :=
    exists_requestRun gstUtilUint64Scale (recorder fun _ ↦ true) [] [.video, .audio] (by decide)
  exact ⟨muxer, final, hmuxer, hfinal,
    (onePidPerPad_iff hmuxer hfinal).mpr ⟨by decide, by decide⟩⟩

/-- Two video pads. -/
theorem not_onePidPerPad_two_videos :
    ∃ muxer final, sptsmuxerInit (recorder fun _ ↦ true) [] = .ok muxer ∧
      [MuxerEvent.request .video, .request .video].foldlM (MuxerEvent.step gstUtilUint64Scale)
        muxer = .ok final ∧
      ¬OnePidPerPad gstUtilUint64Scale muxer final [.request .video, .request .video] := by
  obtain ⟨muxer, final, hmuxer, hfinal⟩ :=
    exists_requestRun gstUtilUint64Scale (recorder fun _ ↦ true) [] [.video, .video] (by decide)
  obtain ⟨ops, hops, hvideo, -⟩ := exists_hasAnnounced hmuxer hfinal
  refine ⟨muxer, final, hmuxer, hfinal, fun honePid ↦ ?_⟩
  have hcount := (hops.listsDistinctPids.mp honePid.2).1
  rw [hvideo] at hcount
  exact absurd hcount (by decide)

end SpTsMuxer.Muxer
