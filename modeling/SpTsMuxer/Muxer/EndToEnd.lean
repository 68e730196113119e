import SpTsMuxer.Muxer.SingleStream
import SpTsMuxer.Muxer.Tuning

/-!
# From the Pads to the Receiver

A muxer with one video and one audio pad: the collector takes buffers from the pads until both are
at their end, and a receiver tunes in to what has been written.  It gets every buffer exactly once
from an IDR frame on, in the order of time if the pads deliver in the order of time.
-/

namespace SpTsMuxer.Muxer

open Memory Merge Transport Spts Schedule

/-! ## The pads and what is taken from them -/

/-- What one video and one audio pad deliver. -/
structure Inputs where
  video : List GstBuffer
  audio : List GstBuffer
  video_caps : ∀ buffer ∈ video, PadTemplate.video.Accepts buffer
  audio_caps : ∀ buffer ∈ audio, PadTemplate.audio.Accepts buffer

namespace Inputs

variable (inputs : Inputs)

def videoPad : SinkPad := ⟨.video, inputs.video, inputs.video_caps⟩

def audioPad : SinkPad := ⟨.audio, inputs.audio, inputs.audio_caps⟩

/-- The pads in the order in which they have been requested. -/
def pads (audioFirst : Bool) : List SinkPad :=
  if audioFirst then [inputs.audioPad, inputs.videoPad] else [inputs.videoPad, inputs.audioPad]

theorem templ_pads (audioFirst : Bool) :
    (inputs.pads audioFirst).map SinkPad.templ = padOrder audioFirst := by
  cases audioFirst <;> rfl

theorem length_pads (audioFirst : Bool) :
    ((inputs.pads audioFirst).map SinkPad.collect).flatten.length =
      inputs.video.length + inputs.audio.length := by
  cases audioFirst with
  | false =>
      change (inputs.video ++ (inputs.audio ++ [])).length = _
      rw [List.append_nil, List.length_append]
  | true =>
      change (inputs.audio ++ (inputs.video ++ [])).length = _
      rw [List.append_nil, List.length_append, Nat.add_comm]

theorem isVideo_video {buffer : GstBuffer} (hmem : buffer ∈ inputs.video) :
    buffer.isVideo = true ∧ buffer.isAudio = false := by
  have hcaps : buffer.caps = .videoXH264 := inputs.video_caps buffer hmem
  simp [GstBuffer.isVideo, GstBuffer.isAudio, hcaps]

theorem isAudio_audio {buffer : GstBuffer} (hmem : buffer ∈ inputs.audio) :
    buffer.isAudio = true ∧ buffer.isVideo = false := by
  have hcaps : buffer.caps = .audioMpeg := inputs.audio_caps buffer hmem
  simp [GstBuffer.isVideo, GstBuffer.isAudio, hcaps]

theorem kind_iff_position (audioFirst : Bool) {index : ℕ} {queue : CollectPad}
    (hqueue : ((inputs.pads audioFirst).map SinkPad.collect)[index]? = some queue)
    {buffer : GstBuffer} (hmem : buffer ∈ queue) :
    (buffer.isVideo = true ↔ index = audioFirst.toNat) ∧
      (buffer.isAudio = true ↔ index = (!audioFirst).toNat) := by
  have htwo : index < 2 := by
    have hlength : (inputs.pads audioFirst).length = 2 := by cases audioFirst <;> rfl
    have hlt := (List.getElem?_eq_some_iff.mp hqueue).1
    rwa [List.length_map, hlength] at hlt
  have hvideo : queue = inputs.video → buffer.isVideo = true ∧ buffer.isAudio = false :=
    fun hsame ↦ inputs.isVideo_video (hsame ▸ hmem)
  have haudio : queue = inputs.audio → buffer.isAudio = true ∧ buffer.isVideo = false :=
    fun hsame ↦ inputs.isAudio_audio (hsame ▸ hmem)
  cases audioFirst with
  | false =>
      rcases Nat.lt_succ_iff_lt_or_eq.mp htwo with hzero | rfl
      · obtain rfl := Nat.lt_one_iff.mp hzero
        obtain ⟨hyes, hno⟩ := hvideo (Option.some.inj hqueue).symm
        simp [hyes, hno]
      · obtain ⟨hyes, hno⟩ := haudio (Option.some.inj hqueue).symm
        simp [hyes, hno]
  | true =>
      rcases Nat.lt_succ_iff_lt_or_eq.mp htwo with hzero | rfl
      · obtain rfl := Nat.lt_one_iff.mp hzero
        obtain ⟨hyes, hno⟩ := haudio (Option.some.inj hqueue).symm
        simp [hyes, hno]
      · obtain ⟨hyes, hno⟩ := hvideo (Option.some.inj hqueue).symm
        simp [hyes, hno]

end Inputs

/-- What is taken of a kind of buffers that comes from one pad is that pad. -/
theorem filter_takenFrames {pads : List SinkPad} {calls : ℕ}
    (hcalls : (pads.map SinkPad.collect).flatten.length ≤ calls) {position : ℕ}
    {pad : CollectPad} (hpad : (pads.map SinkPad.collect)[position]? = some pad)
    {kind : GstBuffer → Bool}
    (hkind : ∀ index queue, (pads.map SinkPad.collect)[index]? = some queue →
      ∀ buffer ∈ queue, (kind buffer = true ↔ index = position)) :
    (takenFrames pads calls).filter kind = pad := by
  have hentries : (handedBuffers calls (pads.map SinkPad.collect)).filter
      (fun entry ↦ kind entry.2) =
        (handedBuffers calls (pads.map SinkPad.collect)).filter fun entry ↦
          entry.1 = position := by
    refine List.filter_congr fun entry hmem ↦ ?_
    obtain ⟨queue, hqueue, hbuffer⟩ := exists_queue_of_mem_merge nextCollectdata calls hmem
    rw [Bool.eq_iff_iff, decide_eq_true_eq]
    exact hkind entry.1 queue hqueue entry.2 hbuffer
  calc
    _ = ((handedBuffers calls (pads.map SinkPad.collect)).filter fun entry ↦
        kind entry.2).map Prod.snd := by
      rw [takenFrames, List.filter_map]
      rfl
    _ = pad := by
      rw [hentries, handedBuffers_of_pad hcalls hpad]

section Taken

variable (inputs : Inputs) (audioFirst : Bool) {calls : ℕ}
  (hcalls : inputs.video.length + inputs.audio.length ≤ calls)
include hcalls

theorem filter_isVideo_takenFrames :
    (takenFrames (inputs.pads audioFirst) calls).filter GstBuffer.isVideo = inputs.video := by
  rw [← inputs.length_pads audioFirst] at hcalls
  have hpad : ((inputs.pads audioFirst).map SinkPad.collect)[audioFirst.toNat]? =
      some inputs.video := by
    cases audioFirst <;> rfl
  exact filter_takenFrames hcalls hpad fun index queue hqueue buffer hmem ↦
    (inputs.kind_iff_position audioFirst hqueue hmem).1

theorem filter_isAudio_takenFrames :
    (takenFrames (inputs.pads audioFirst) calls).filter GstBuffer.isAudio = inputs.audio := by
  rw [← inputs.length_pads audioFirst] at hcalls
  have hpad : ((inputs.pads audioFirst).map SinkPad.collect)[(!audioFirst).toNat]? =
      some inputs.audio := by
    cases audioFirst <;> rfl
  exact filter_takenFrames hcalls hpad fun index queue hqueue buffer hmem ↦
    (inputs.kind_iff_position audioFirst hqueue hmem).2

end Taken

theorem sorted_takenFrames (inputs : Inputs) (audioFirst : Bool) (calls : ℕ)
    (hvideo : ∀ buffer ∈ inputs.video, ValidTime buffer)
    (haudio : ∀ buffer ∈ inputs.audio, ValidTime buffer)
    (hvideoSorted : inputs.video.Pairwise fun earlier later ↦ bufferTime earlier ≤ bufferTime later)
    (haudioSorted :
      inputs.audio.Pairwise fun earlier later ↦ bufferTime earlier ≤ bufferTime later) :
    (takenFrames (inputs.pads audioFirst) calls).Pairwise fun earlier later ↦
      bufferTime earlier ≤ bufferTime later := by
  have hpads {P : CollectPad → Prop} (hfirst : P inputs.video) (hsecond : P inputs.audio) :
      ∀ pad ∈ (inputs.pads audioFirst).map SinkPad.collect, P pad := by
    intro pad hmem
    have hcases : pad = inputs.video ∨ pad = inputs.audio := by
      cases audioFirst with
      | false => simpa [Inputs.pads, Inputs.videoPad, Inputs.audioPad] using hmem
      | true => simpa [Inputs.pads, Inputs.videoPad, Inputs.audioPad, or_comm] using hmem
    rcases hcases with rfl | rfl
    · exact hfirst
    · exact hsecond
  rw [takenFrames, List.pairwise_map]
  exact chooses_nextCollectdata.merge_sorted calls (hpads hvideo haudio)
    (hpads hvideoSorted haudioSorted)

/-! ## Main result -/

/-- When the collector has been called for each buffer and once more, everything has been taken from
both pads, in the order of each pad, and in the order of time if both pads deliver so. A receiver
that tunes in to what has been written gets, in this order, all frames from the next IDR frame on
whose PAT is still to come; only audio frames of 169 bytes are missing. -/
theorem pads_to_receiver (gst : UInt64Scale) (results : List TsPacket → Bool) (audioFirst : Bool)
    (inputs : Inputs) {calls : ℕ} (hcalls : inputs.video.length + inputs.audio.length < calls)
    {final : SpTsMuxer (List TsPacket)}
    (hok : collectedFrames gst (recorder results) [] (inputs.pads audioFirst) calls = .ok final)
    (hcount : final.spts.writeFuncData.length < 2 ^ 64) :
    ∃ order : List GstBuffer,
      order.filter GstBuffer.isVideo = inputs.video ∧
      order.filter GstBuffer.isAudio = inputs.audio ∧
      ((∀ buffer ∈ inputs.video, ValidTime buffer) → (∀ buffer ∈ inputs.audio, ValidTime buffer) →
        (inputs.video.Pairwise fun earlier later ↦ bufferTime earlier ≤ bufferTime later) →
        (inputs.audio.Pairwise fun earlier later ↦ bufferTime earlier ≤ bufferTime later) →
        order.Pairwise fun earlier later ↦ bufferTime earlier ≤ bufferTime later) ∧
      ∀ skipped, watch ((final.spts.writeFuncData.flatMap Block.cells).drop (188 * skipped)) =
        shown ((cutAt GstBuffer.isIdr order).2.drop
          ((final.spts.writeFuncData.take skipped).filter isPat).length).flatten := by
  have hwritten := spts_collectedFrames gst (recorder results) [] (inputs.pads audioFirst)
    (Nat.lt_of_le_of_lt (Nat.zero_le _) hcalls)
  rw [hok, inputs.templ_pads] at hwritten
  have hmuxed : muxedPackets gst results (padOrder audioFirst)
      (takenFrames (inputs.pads audioFirst) calls) = .ok final.spts.writeFuncData := by
    rw [muxedPackets_eq_written, ← hwritten]
    rfl
  exact ⟨takenFrames (inputs.pads audioFirst) calls,
    filter_isVideo_takenFrames inputs audioFirst (Nat.le_of_lt hcalls),
    filter_isAudio_takenFrames inputs audioFirst (Nat.le_of_lt hcalls),
    sorted_takenFrames inputs audioFirst calls, watch_drop hmuxed hcount⟩

/-- Two IDR frames on the video pad and a frame on the audio pad. -/
def twoGopInputs : Inputs where
  video := [byteFrame .videoXH264 1000000000 1, byteFrame .videoXH264 2000000000 3]
  audio := [byteFrame .audioMpeg 1000000000 2]
  video_caps := show ∀ buffer ∈ [byteFrame .videoXH264 1000000000 1,
    byteFrame .videoXH264 2000000000 3], buffer.caps = .videoXH264 by decide
  audio_caps := show ∀ buffer ∈ [byteFrame .audioMpeg 1000000000 2],
    buffer.caps = .audioMpeg by decide

theorem takenFrames_twoGopInputs : takenFrames (twoGopInputs.pads false) 4 = twoGops := by decide

theorem exists_collected_twoGopInputs :
    ∃ final, collectedFrames gstUtilUint64Scale (recorder fun _ ↦ true) []
      (twoGopInputs.pads false) 4 = .ok final ∧ final.spts.writeFuncData.length < 2 ^ 64 := by
  obtain ⟨packets, hok, hcount⟩ := exists_muxed_twoGops
  have hcollected := spts_collectedFrames gstUtilUint64Scale (recorder fun _ ↦ true) []
    (twoGopInputs.pads false) (show 0 < 4 by decide)
  rw [muxedPackets_eq_written] at hok
  obtain ⟨spts, hspts, rfl⟩ := exists_of_map_eq_ok hok
  rw [twoGopInputs.templ_pads, takenFrames_twoGopInputs, hspts] at hcollected
  obtain ⟨final, hfinal, rfl⟩ := exists_of_map_eq_ok hcollected
  exact ⟨final, hfinal, hcount⟩

theorem pads_to_receiver_twoGops :
    ∃ final, collectedFrames gstUtilUint64Scale (recorder fun _ ↦ true) []
      (twoGopInputs.pads false) 4 = .ok final ∧
      ∃ order : List GstBuffer, order.filter GstBuffer.isAudio = twoGopInputs.audio ∧
        (order.Pairwise fun earlier later ↦ bufferTime earlier ≤ bufferTime later) ∧
        watch ((final.spts.writeFuncData.flatMap Block.cells).drop (188 * 0)) =
          shown (cutAt GstBuffer.isIdr order).2.flatten := by
  obtain ⟨final, hok, hcount⟩ := exists_collected_twoGopInputs
  obtain ⟨order, -, haudio, hsorted, hwatch⟩ := pads_to_receiver gstUtilUint64Scale (fun _ ↦ true)
    false twoGopInputs (show 2 + 1 < 4 by decide) hok hcount
  refine ⟨final, hok, order, haudio, hsorted ?_ ?_ ?_ ?_, hwatch 0⟩
  · decide
  · decide
  · decide
  · decide

end SpTsMuxer.Muxer
