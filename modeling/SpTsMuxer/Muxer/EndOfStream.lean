import SpTsMuxer.Muxer.Batches
import SpTsMuxer.Muxer.Handover

/-!
# The End of the Stream

When all pads are at their end, the collect pads call `sptsmuxer_collected` once more, and every
peek returns a null pointer.  The call does nothing: the packets that wait in the push buffer stay
there.
-/

namespace SpTsMuxer.Muxer

open Memory Machine Psi Spts

/-! ## The push buffer behind the SpTs -/

/-- `sptsmuxer_push_packet_cb` as the write function of the SpTs.  Behind a fault nothing is said
of the push buffer any more. -/
def pushCallback (allocator : Allocator) (push : Except Fault PushState) (data : TsPacket) :
    Bool × Except Fault PushState :=
  match push with
  | .error fault => (false, .error fault)
  | .ok state =>
      match sptsmuxerPushPacketCb allocator state data with
      | .error fault => (false, .error fault)
      | .ok (result, next) => (result, .ok next)

theorem foldl_pushCallback (allocator : Allocator) (packets : List TsPacket) (state : PushState) :
    packets.foldl (fun push data ↦ (pushCallback allocator push data).2) (.ok state) =
      pushPackets allocator state packets := by
  have hfault (fault : Fault) (rest : List TsPacket) :
      rest.foldl (fun push data ↦ (pushCallback allocator push data).2) (.error fault) =
        .error fault := by
    induction rest with
    | nil => rfl
    | cons data rest ih => exact ih
  induction packets generalizing state with
  | nil => rfl
  | cons data rest ih =>
      rw [List.foldl_cons, pushPackets, List.foldlM_cons]
      unfold pushCallback
      dsimp only
      cases sptsmuxerPushPacketCb allocator state data with
      | error fault => exact hfault fault rest
      | ok answer => exact ih answer.2

/-! ## The last call -/

/-- The state of the push buffer after calls of `sptsmuxer_collected`, and one more. -/
def pushedAtEnd (gst : UInt64Scale) (allocator : Allocator) (pushbufsize : UInt32)
    (pads : List SinkPad) (calls : ℕ) : Except Fault PushState := do
  let muxer ← collectedFrames gst (pushCallback allocator) (.ok (.initial pushbufsize)) pads
    (calls + 1)
  muxer.spts.writeFuncData

/-- All pads are at their end after some calls. -/
def AtEnd (pads : List SinkPad) (calls : ℕ) : Prop :=
  ∀ rest ∈ remainingPads calls (pads.map SinkPad.collect), rest = []

theorem takenFrames_succ {pads : List SinkPad} {calls : ℕ} (hend : AtEnd pads calls) :
    takenFrames pads (calls + 1) = takenFrames pads calls := by
  have hnone : nextCollectdata (remainingPads calls (pads.map SinkPad.collect)) = none := by
    cases hchoose : nextCollectdata (remainingPads calls (pads.map SinkPad.collect)) with
    | none => rfl
    | some position =>
        obtain ⟨buffer, hhead⟩ := choosesHead_nextCollectdata _ _ hchoose
        obtain ⟨rest, hrest, hfirst⟩ := Option.bind_eq_some_iff.mp hhead
        rw [hend rest (List.mem_of_getElem? hrest)] at hfirst
        cases hfirst
  unfold takenFrames handedBuffers
  rw [Merge.merge_succ_of_end nextCollectdata hnone]

/-- At the end, exactly the packets of the frames have been pushed. -/
theorem pushedAtEnd_eq {gst : UInt64Scale} {results : List TsPacket → Bool} {pads : List SinkPad}
    {calls : ℕ} (hend : AtEnd pads calls) {handed : List TsPacket}
    (hhanded : muxedPackets gst results (pads.map SinkPad.templ) (takenFrames pads calls) =
      .ok handed) (allocator : Allocator) (pushbufsize : UInt32) :
    pushedAtEnd gst allocator pushbufsize pads calls =
      pushPackets allocator (.initial pushbufsize) handed := by
  obtain ⟨final, hfinal, hdata⟩ :=
    exists_writtenFrames hhanded (pushCallback allocator) (.ok (.initial pushbufsize))
  rw [foldl_pushCallback] at hdata
  rw [← takenFrames_succ hend, ← spts_collectedFrames gst _ _ pads (Nat.succ_pos calls)] at hfinal
  obtain ⟨muxer, hmuxer, rfl⟩ := exists_of_map_eq_ok hfinal
  rw [pushedAtEnd, hmuxer]
  exact hdata

/-! ## Packets of a run -/

theorem writeStep_recorder {gst : UInt64Scale} {results : List TsPacket → Bool}
    {spts next : SpTs (List TsPacket)} {buffer : GstBuffer}
    (hfunc : spts.writeFunc = recorder results) (hstep : writeStep gst spts buffer = .ok next) :
    next.writeFunc = recorder results ∧
      ((buffer.caps = .audioMpeg ∧ spts.packetsCounter = 0 ∧ next = spts) ∨
        ∃ packets, packets ≠ [] ∧ next.writeFuncData = spts.writeFuncData ++ packets) := by
  rcases writeStep_cases hstep with ⟨hcaps, hcounter, rfl⟩ | ⟨packets, hne, hwritten⟩
  · exact ⟨hfunc, .inl ⟨hcaps, hcounter, rfl⟩⟩
  · refine ⟨hwritten.writeFunc.trans hfunc, .inr ⟨packets, hne, ?_⟩⟩
    rw [hwritten.writeFuncData, SpTs.emit, hfunc]
    exact foldl_recorder_packets results _ packets

theorem recorded_ne_nil {gst : UInt64Scale} {results : List TsPacket → Bool}
    {spts final : SpTs (List TsPacket)} {buffers : List GstBuffer}
    (hspts : spts.writeFunc = recorder results ∧ spts.writeFuncData ≠ [])
    (hrun : sptsWriteFrames gst spts buffers = .ok final) : final.writeFuncData ≠ [] := by
  have hkept : ∀ (state : SpTs (List TsPacket)) (buffer : GstBuffer) (next : SpTs (List TsPacket)),
      state.writeFunc = recorder results ∧ state.writeFuncData ≠ [] →
        writeStep gst state buffer = .ok next →
          next.writeFunc = recorder results ∧ next.writeFuncData ≠ [] := by
    rintro state buffer next ⟨hfunc, hdata⟩ hstep
    obtain ⟨hnext, ⟨-, -, rfl⟩ | ⟨more, -, hmore⟩⟩ := writeStep_recorder hfunc hstep
    · exact ⟨hfunc, hdata⟩
    · refine ⟨hnext, ?_⟩
      rw [hmore]
      exact List.append_ne_nil_of_left_ne_nil hdata _
  exact (foldlM_invariant hkept hspts hrun).2

/-- A run hands on packets exactly if there is a video frame among its frames. -/
theorem writeFuncData_eq_nil_iff {gst : UInt64Scale} {results : List TsPacket → Bool}
    {spts final : SpTs (List TsPacket)} (hfunc : spts.writeFunc = recorder results)
    (hcounter : spts.packetsCounter = 0) (hdata : spts.writeFuncData = [])
    {buffers : List GstBuffer} (hrun : sptsWriteFrames gst spts buffers = .ok final) :
    final.writeFuncData = [] ↔ ∀ buffer ∈ buffers, buffer.caps ≠ .videoXH264 := by
  induction buffers with
  | nil =>
      obtain rfl := Except.ok.inj hrun
      exact iff_of_true hdata nofun
  | cons buffer rest ih =>
      obtain ⟨next, hnext, hrest⟩ := foldlM_cons_eq_ok.mp hrun
      rw [List.forall_mem_cons]
      by_cases hcaps : buffer.caps = .audioMpeg
      · have hdropped : next = spts := by
          unfold writeStep sptsWriteFrame at hnext
          rw [hcaps] at hnext
          dsimp only at hnext
          rw [if_pos hcounter] at hnext
          exact (Except.ok.inj hnext).symm
        rw [hdropped] at hrest
        rw [hcaps]
        exact (ih hrest).trans (and_iff_right nofun).symm
      · obtain ⟨hfuncNext, ⟨haudio, -⟩ | ⟨packets, hne, hpackets⟩⟩ :=
          writeStep_recorder hfunc hnext
        · exact absurd haudio hcaps
        · have hvideo : buffer.caps = .videoXH264 := by
            cases hother : buffer.caps with
            | videoXH264 => rfl
            | audioMpeg => exact absurd hother hcaps
            | other =>
                unfold writeStep sptsWriteFrame at hnext
                rw [hother] at hnext
                cases hnext
          have hfirst : next.writeFuncData ≠ [] := by
            rw [hpackets]
            exact List.append_ne_nil_of_right_ne_nil _ hne
          exact iff_of_false (recorded_ne_nil ⟨hfuncNext, hfirst⟩ hrest) fun h ↦ h.1 hvideo

theorem muxedPackets_eq_nil_iff {gst : UInt64Scale} {results : List TsPacket → Bool}
    {templates : List PadTemplate} {buffers : List GstBuffer} {handed : List TsPacket}
    (hhanded : muxedPackets gst results templates buffers = .ok handed) :
    handed = [] ↔ ∀ buffer ∈ buffers, buffer.caps ≠ .videoXH264 := by
  rw [muxedPackets_eq_written] at hhanded
  obtain ⟨final, hfinal, rfl⟩ := exists_of_map_eq_ok hhanded
  unfold writtenFrames at hfinal
  by_cases hfull : 33 < templates.countP fun templ ↦ templ ≠ .unknown
  · rw [setUpMuxer_granted_full (recorder results) [] hfull] at hfinal
    cases hfinal
  · obtain ⟨muxer, hmuxer, hfunc, hdata, hcounter, -, -⟩ :=
      exists_granted (recorder results) [] (Nat.le_of_not_lt hfull)
    rw [hmuxer] at hfinal
    exact writeFuncData_eq_nil_iff hfunc hcounter hdata hfinal

/-! ## Stranded packets -/

section Stranded

variable {gst : UInt64Scale} {results : List TsPacket → Bool} {pads : List SinkPad} {calls : ℕ}
  (hend : AtEnd pads calls) {handed : List TsPacket}
  (hhanded : muxedPackets gst results (pads.map SinkPad.templ) (takenFrames pads calls) =
    .ok handed)
  {pushbufsize : UInt32} (hpos : 1 ≤ pushbufsize.toNat)
include hend hhanded hpos

/-- Nothing is stranded at the end of the stream only in these cases. The bytes of each packet are
in a pushed buffer, whatever new objects contain, exactly if no video frame was written, since then
there are no packets. Each packet is counted in a pushed buffer exactly if there are no packets, or
if they fill whole batches and the push buffer has the size of one. -/
theorem nothing_stranded_iff :
    ((∀ allocator, AllPushed handed (pushedAtEnd gst allocator pushbufsize pads calls)) ↔
        ∀ buffer ∈ takenFrames pads calls, buffer.caps ≠ .videoXH264) ∧
      ∀ allocator,
        (AllCounted pushbufsize handed (pushedAtEnd gst allocator pushbufsize pads calls) ↔
          handed = [] ∨
            (pushbufsize.toNat ∣ handed.length ∧ pushbufsize.toNat * 188 < 2 ^ 32)) := by
  have hpushed (allocator : Allocator) := pushedAtEnd_eq hend hhanded allocator pushbufsize
  simp only [hpushed]
  exact ⟨(allPushed_iff pushbufsize handed).trans (muxedPackets_eq_nil_iff hhanded),
    fun allocator ↦ allCounted_iff allocator hpos handed⟩

end Stranded

/-! ## One frame -/

/-- A video pad that delivers an empty IDR frame, and an audio pad at its end. -/
def framePads : List SinkPad :=
  [⟨.video, [emptyIdr], fun buffer hmem ↦ by rw [List.mem_singleton.mp hmem]; rfl⟩,
    ⟨.audio, [], nofun⟩]

theorem atEnd_framePads : AtEnd framePads 1 := by
  unfold AtEnd framePads
  decide

theorem exists_three_packets :
    ∃ handed, muxedPackets gstUtilUint64Scale (fun _ ↦ true) (framePads.map SinkPad.templ)
      (takenFrames framePads 1) = .ok handed ∧ handed.length = 3 := by
  obtain ⟨program, hcarries⟩ := (padSetup false).exists_carriesOut true false
  have hfits : ∀ buffer ∈ [emptyIdr], Fits program buffer := by
    intro buffer hmem
    rw [List.mem_singleton.mp hmem]
    exact fits_of_length program (by decide) (by decide)
  have hok := hcarries.exists_written gstUtilUint64Scale (fun _ ↦ true) hfits
  rw [← muxedPackets_eq] at hok
  refine ⟨_, hok, ?_⟩
  rw [List.length_map]
  change ((muxStep program .initial (emptyIdr.frame gstUtilUint64Scale)).2 ++ []).length = 3
  rw [List.append_nil, muxStep_idr program .initial rfl, List.length_append]
  change 2 + ((program.video.continuation 1 ([].drop (program.video.taken []))).length + 1) = 3
  rw [List.drop_nil, ElementaryStream.continuation_nil]
  rfl

/-- Three packets in batches of three. -/
theorem nothing_stranded_three_packets :
    ∃ handed, muxedPackets gstUtilUint64Scale (fun _ ↦ true) (framePads.map SinkPad.templ)
      (takenFrames framePads 1) = .ok handed ∧
      ∀ allocator, AllCounted 3 handed
        (pushedAtEnd gstUtilUint64Scale allocator 3 framePads 1) := by
  obtain ⟨handed, hhanded, hlength⟩ := exists_three_packets
  refine ⟨handed, hhanded, fun allocator ↦ ?_⟩
  refine ((nothing_stranded_iff atEnd_framePads hhanded (by decide)).2 allocator).mpr
    (.inr ⟨?_, ?_⟩)
  · rw [hlength]
    decide
  · decide

/-- Three packets in batches of seven wait for ever. -/
theorem stranded_three_packets :
    ∃ handed, muxedPackets gstUtilUint64Scale (fun _ ↦ true) (framePads.map SinkPad.templ)
      (takenFrames framePads 1) = .ok handed ∧
      (¬∀ allocator, AllPushed handed
        (pushedAtEnd gstUtilUint64Scale allocator 7 framePads 1)) ∧
      ∀ allocator, ¬AllCounted 7 handed
        (pushedAtEnd gstUtilUint64Scale allocator 7 framePads 1) := by
  obtain ⟨handed, hhanded, hlength⟩ := exists_three_packets
  have hne : handed ≠ [] := by
    rintro rfl
    cases hlength
  have hpushed (allocator : Allocator) :=
    pushedAtEnd_eq atEnd_framePads hhanded allocator 7
  simp only [hpushed]
  refine ⟨handed, hhanded, mt (allPushed_iff 7 handed).mp hne, fun allocator hall ↦ ?_⟩
  rcases (allCounted_iff allocator (by decide) handed).mp hall with hnil | ⟨hdvd, -⟩
  · exact hne hnil
  · rw [hlength] at hdvd
    exact absurd hdvd (by decide)

end SpTsMuxer.Muxer
