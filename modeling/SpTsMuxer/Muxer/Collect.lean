import SpTsMuxer.Muxer.Scan

/-!
# The Collector is a Merge

The loop of `sptsmuxer_collected` chooses the first of the least heads of the pads, so that
repeated calls merge what the pads deliver.  Every buffer reaches `spts_write_frame` exactly once,
in the order of its pad, and in the order of time if each pad is.  A buffer without a time may come
too early or too late, and still every buffer comes exactly once.
-/

namespace SpTsMuxer.Muxer

open Memory Merge Spts

/-! ## Repeated calls -/

variable {W : Type}

theorem firstCollection_later {muxer : SpTsMuxer W} (hfirst : muxer.first = false) :
    firstCollection muxer = .ok muxer := by
  unfold firstCollection
  rw [hfirst]
  rfl

theorem first_collect_of_firstCollection {muxer next : SpTsMuxer W}
    (hnext : firstCollection muxer = .ok next) :
    next.first = false ∧ next.collect = muxer.collect := by
  cases hfirst : muxer.first with
  | false =>
      rw [firstCollection_later hfirst] at hnext
      obtain rfl : muxer = next := Except.ok.inj hnext
      exact ⟨hfirst, rfl⟩
  | true =>
      unfold firstCollection at hnext
      rw [if_pos hfirst] at hnext
      obtain ⟨spts, -, hpure⟩ := exists_of_bind_eq_ok hnext
      obtain rfl := Except.ok.inj hpure
      exact ⟨rfl, rfl⟩

section Step

variable (gst : UInt64Scale) {muxer : SpTsMuxer W} (hfirst : muxer.first = false)
include hfirst

theorem sptsmuxerCollected_of_none (hchoose : nextCollectdata muxer.collect = none) :
    sptsmuxerCollected gst muxer = .ok muxer := by
  unfold sptsmuxerCollected
  rw [firstCollection_later hfirst]
  dsimp only [bind, Except.bind]
  rw [hchoose]
  rfl

theorem sptsmuxerCollected_of_pop {position : ℕ} {buffer : GstBuffer} {rest : List CollectPad}
    (hchoose : nextCollectdata muxer.collect = some position)
    (hpop : pop muxer.collect position = some (buffer, rest)) :
    sptsmuxerCollected gst muxer = (do
      let spts ← writeStep gst muxer.spts buffer
      pure { muxer with spts := spts, collect := rest }) := by
  unfold sptsmuxerCollected
  rw [firstCollection_later hfirst]
  dsimp only [bind, Except.bind]
  rw [hchoose]
  dsimp only
  rw [hpop]

/-- After the first part, the calls write what the merge hands out. -/
theorem collectedCalls_later (calls : ℕ) :
    collectedCalls gst calls muxer = (do
      let spts ← sptsWriteFrames gst muxer.spts
        ((merge nextCollectdata calls muxer.collect).1.map Prod.snd)
      pure { muxer with
        spts := spts, collect := (merge nextCollectdata calls muxer.collect).2 }) := by
  induction calls generalizing muxer with
  | zero => rfl
  | succ calls ih =>
      unfold collectedCalls
      cases hchoose : nextCollectdata muxer.collect with
      | none =>
          rw [sptsmuxerCollected_of_none gst hfirst hchoose,
            merge_of_none nextCollectdata (calls + 1) hchoose]
          change collectedCalls gst calls muxer = _
          rw [ih hfirst, merge_of_none nextCollectdata calls hchoose]
      | some position =>
          obtain ⟨buffer, rest, hpop⟩ := choosesHead_nextCollectdata.exists_pop hchoose
          rw [sptsmuxerCollected_of_pop gst hfirst hchoose hpop,
            merge_succ nextCollectdata calls hchoose hpop, List.map_cons, sptsWriteFrames,
            List.foldlM_cons]
          cases hstep : writeStep gst muxer.spts buffer with
          | error fault => rfl
          | ok spts => exact @ih { muxer with spts := spts, collect := rest } hfirst

end Step

/-- The buffers that the first calls take from the pads, with the positions of the pads. -/
def handedBuffers (calls : ℕ) (pads : List CollectPad) : List (ℕ × GstBuffer) :=
  (merge nextCollectdata calls pads).1

/-- What the pads will still deliver after the first calls. -/
def remainingPads (calls : ℕ) (pads : List CollectPad) : List CollectPad :=
  (merge nextCollectdata calls pads).2

/-- Everything comes out, whatever the times are. -/
theorem remainingPads_eq_nil {pads : List CollectPad} {calls : ℕ}
    (hcalls : pads.flatten.length ≤ calls) : ∀ rest ∈ remainingPads calls pads, rest = [] :=
  choosesHead_nextCollectdata.merge_exhausts (fun _ ↦ eq_nil_of_nextCollectdata_none) hcalls

/-- What came from a pad is, in its order, the whole pad. -/
theorem handedBuffers_of_pad {pads : List CollectPad} {calls : ℕ}
    (hcalls : pads.flatten.length ≤ calls) {position : ℕ} {pad : CollectPad}
    (hpad : pads[position]? = some pad) :
    ((handedBuffers calls pads).filter fun entry ↦ entry.1 = position).map Prod.snd = pad := by
  obtain ⟨rest, hrest, hsplit⟩ := merge_conserves nextCollectdata calls hpad
  rw [remainingPads_eq_nil hcalls rest (List.mem_of_getElem? hrest), List.append_nil] at hsplit
  exact hsplit.symm

theorem collectedCalls_eq (gst : UInt64Scale) {calls : ℕ} (hcalls : 0 < calls)
    (muxer : SpTsMuxer W) :
    collectedCalls gst calls muxer = (do
      let start ← firstCollection muxer
      let spts ← sptsWriteFrames gst start.spts ((handedBuffers calls muxer.collect).map Prod.snd)
      pure { start with spts := spts, collect := remainingPads calls muxer.collect }) := by
  obtain ⟨calls, rfl⟩ := Nat.exists_eq_succ_of_ne_zero (Nat.pos_iff_ne_zero.mp hcalls)
  cases hstart : firstCollection muxer with
  | error fault =>
      unfold collectedCalls sptsmuxerCollected
      rw [hstart]
      rfl
  | ok start =>
      obtain ⟨hfirst, hcollect⟩ := first_collect_of_firstCollection hstart
      rw [← hcollect]
      calc
        collectedCalls gst (calls + 1) muxer = collectedCalls gst (calls + 1) start := by
          unfold collectedCalls sptsmuxerCollected
          rw [hstart, firstCollection_later hfirst]
        _ = _ := collectedCalls_later gst hfirst (calls + 1)

/-! ## Main results -/

/-- The collector merges its pads. The calls hand to `spts_write_frame` what they take from the
pads, in this order. What comes from a pad is, in its order, what the pad delivers first, and in the
end everything. Each buffer is the first of the earliest heads as they are then; buffers in the
order of time on each pad reach `spts_write_frame` in the order of time. -/
theorem collected_merges_pads (pads : List CollectPad)
    (hvalid : ∀ pad ∈ pads, ∀ buffer ∈ pad, ValidTime buffer) (calls : ℕ) :
    (∀ (W : Type) (gst : UInt64Scale) (muxer : SpTsMuxer W), muxer.collect = pads → 0 < calls →
      collectedCalls gst calls muxer = (do
        let start ← firstCollection muxer
        let spts ← sptsWriteFrames gst start.spts ((handedBuffers calls pads).map Prod.snd)
        pure { start with spts := spts, collect := remainingPads calls pads })) ∧
      (∀ position pad, pads[position]? = some pad →
        ∃ rest, (remainingPads calls pads)[position]? = some rest ∧
          pad = (((handedBuffers calls pads).filter fun entry ↦ entry.1 = position).map
            Prod.snd) ++ rest) ∧
      (pads.flatten.length ≤ calls → ∀ rest ∈ remainingPads calls pads, rest = []) ∧
      (∀ before entry after, handedBuffers calls pads = before ++ entry :: after →
        IsLeastHead bufferTime (remainingPads before.length pads) entry.1 entry.2) ∧
      ((∀ pad ∈ pads, pad.Pairwise fun earlier later ↦ bufferTime earlier ≤ bufferTime later) →
        (handedBuffers calls pads).Pairwise fun earlier later ↦
          bufferTime earlier.2 ≤ bufferTime later.2) := by
  refine ⟨?_, ?_, ?_, ?_, ?_⟩
  · rintro W gst muxer rfl hcalls
    exact collectedCalls_eq gst hcalls muxer
  · intro position pad hpad
    exact merge_conserves nextCollectdata calls hpad
  · intro hcalls
    exact remainingPads_eq_nil hcalls
  · intro before entry after hsplit
    exact chooses_nextCollectdata.merge_least hvalid hsplit
  · intro hsorted
    exact chooses_nextCollectdata.merge_sorted calls hvalid hsorted

/-- Two pads whose first buffers have the same time; the first pad ends before the other one. -/
theorem collected_merges_pads_two_pads :
    let first : GstBuffer := ⟨.videoXH264, false, 0, [1], by decide⟩
    let pads : List CollectPad :=
      [[first], [⟨.audioMpeg, false, 0, [2], by decide⟩, ⟨.audioMpeg, false, 20, [3], by decide⟩]]
    (∀ rest ∈ remainingPads 3 pads, rest = []) ∧
      IsLeastHead bufferTime (remainingPads 0 pads) 0 first ∧
      (handedBuffers 3 pads).Pairwise fun earlier later ↦
        bufferTime earlier.2 ≤ bufferTime later.2 := by
  intro first pads
  obtain ⟨-, -, hend, hleast, hsorted⟩ := collected_merges_pads pads (by decide) 3
  exact ⟨hend (by decide), hleast [] (0, first) _ rfl, hsorted (by decide)⟩

/-- After as many calls as there are buffers every pad is at its end, and what came from each pad is
the whole pad in its order. Each buffer that is taken is, of the pads as they are then, the head of
the first pad that has one if that head is without a time, and otherwise the first of the least
heads, where a head without a time comes last. -/
theorem collected_any_timestamps (pads : List CollectPad) (calls : ℕ) :
    (pads.flatten.length ≤ calls →
      (∀ rest ∈ remainingPads calls pads, rest = []) ∧
      ∀ position pad, pads[position]? = some pad →
        ((handedBuffers calls pads).filter fun entry ↦ entry.1 = position).map Prod.snd = pad) ∧
      ∀ before entry after, handedBuffers calls pads = before ++ entry :: after →
        Takes (remainingPads before.length pads) entry.1 entry.2 := by
  refine ⟨fun hcalls ↦ ⟨remainingPads_eq_nil hcalls, fun position pad hpad ↦
    handedBuffers_of_pad hcalls hpad⟩, fun before entry after hsplit ↦ ?_⟩
  obtain ⟨hchoose, hhead⟩ := choose_of_merge nextCollectdata hsplit
  obtain ⟨buffer, htakes⟩ := nextCollectdata_eq_some_iff.mp hchoose
  obtain rfl : buffer = entry.2 := Option.some.inj (htakes.head.symm.trans hhead)
  exact htakes

/-- The audio frame without a time waits for both video frames. -/
example :
    let video (time : UInt64) : GstBuffer := ⟨.videoXH264, false, time, [1], by decide⟩
    let audio (time : UInt64) : GstBuffer := ⟨.audioMpeg, false, time, [2], by decide⟩
    (handedBuffers 4 [[video 10, video 30], [audio gstClockTimeNone, audio 20]]).map Prod.fst =
      [0, 0, 1, 1] := by
  decide

end SpTsMuxer.Muxer
