import SpTsMuxer.Muxer.Collect
import SpTsMuxer.Muxer.Requests

/-!
# Frames Arriving on Pads

A pad passes on only frames with the caps of its template.  Whatever the collector takes from the
pads, and in which order, is such a sequence of frames: its calls set the muxer up and then write
these frames.
-/

namespace SpTsMuxer.Muxer

open Memory Machine Psi Spts

variable {W : Type}

/-- The frames that arrive on a pad of a template. -/
def PadTemplate.Accepts (buffer : GstBuffer) : PadTemplate → Prop
  | .video => buffer.caps = .videoXH264
  | .audio => buffer.caps = .audioMpeg
  | .unknown => False

/-- A requested pad, and what it will deliver. -/
structure SinkPad where
  templ : PadTemplate
  collect : CollectPad
  accepts : ∀ buffer ∈ collect, templ.Accepts buffer

/-- Each frame arrives on one of the pads. -/
def ArriveOn (templates : List PadTemplate) (buffers : List GstBuffer) : Prop :=
  ∀ buffer ∈ buffers, ∃ templ ∈ templates, templ.Accepts buffer

/-- The requests for pads of these templates, all of them granted. -/
def grantedRequests (templates : List PadTemplate) : List PadRequest :=
  templates.map fun templ ↦ ⟨templ, true, true⟩

theorem requestPads_eq (templates : List PadTemplate) (muxer : SpTsMuxer W) :
    requestPads templates muxer = (grantedRequests templates).foldlM requestPad muxer := by
  rw [grantedRequests, List.foldlM_map]
  rfl

theorem streamCount_grantedRequests (templates : List PadTemplate) :
    streamCount (requestedEntries (grantedRequests templates)) =
      templates.countP fun templ ↦ templ ≠ .unknown := by
  rw [streamCount_requestedEntries, grantedRequests, List.countP_map]
  rfl

/-- A stream is announced exactly if a pad of its template is requested. -/
theorem mem_requestedEntries_granted (templates : List PadTemplate) :
    (videoAdd ∈ requestedEntries (grantedRequests templates) ↔ .video ∈ templates) ∧
      (audioAdd ∈ requestedEntries (grantedRequests templates) ↔ .audio ∈ templates) := by
  have hmem {op : PmtOp} {wanted : PadTemplate}
      (hentry : ∀ templ : PadTemplate, op ∈ templ.entries ↔ templ = wanted) :
      op ∈ requestedEntries (grantedRequests templates) ↔ wanted ∈ templates := by
    rw [requestedEntries, grantedRequests, List.flatMap_map, List.mem_flatMap]
    constructor
    · rintro ⟨templ, htempl, hop⟩
      exact (hentry templ).mp hop ▸ htempl
    · exact fun hwanted ↦ ⟨wanted, hwanted, (hentry wanted).mpr rfl⟩
  exact ⟨hmem fun templ ↦ by cases templ <;> decide, hmem fun templ ↦ by cases templ <;> decide⟩

/-! ## Runs -/

section Runs

variable (gst : UInt64Scale) (writeFunc : W → TsPacket → Bool × W) (writeFuncData : W)

/-- A muxer with these pads, through its first collection, and then calls of `spts_write_frame`. -/
def writtenFrames (templates : List PadTemplate) (buffers : List GstBuffer) :
    Except Fault (SpTs W) := do
  let muxer ← setUpMuxer writeFunc writeFuncData (grantedRequests templates)
  sptsWriteFrames gst muxer.spts buffers

/-- A muxer with these pads, and calls of `sptsmuxer_collected`. -/
def collectedFrames (pads : List SinkPad) (calls : ℕ) : Except Fault (SpTsMuxer W) := do
  let muxer ← sptsmuxerInit writeFunc writeFuncData
  let muxer ← requestPads (pads.map SinkPad.templ) muxer
  collectedCalls gst calls { muxer with collect := pads.map SinkPad.collect }

/-- The frames that the calls take from the pads. -/
def takenFrames (pads : List SinkPad) (calls : ℕ) : List GstBuffer :=
  (handedBuffers calls (pads.map SinkPad.collect)).map Prod.snd

theorem arriveOn_takenFrames (pads : List SinkPad) (calls : ℕ) :
    ArriveOn (pads.map SinkPad.templ) (takenFrames pads calls) := by
  intro buffer hbuffer
  obtain ⟨entry, hentry, rfl⟩ := List.mem_map.mp hbuffer
  obtain ⟨queue, hqueue, hmem⟩ := Merge.mem_of_mem_merge nextCollectdata calls hentry
  obtain ⟨pad, hpad, rfl⟩ := List.mem_map.mp hqueue
  exact ⟨pad.templ, List.mem_map_of_mem hpad, pad.accepts _ hmem⟩

theorem firstCollection_collect (muxer : SpTsMuxer W) (collect : List CollectPad) :
    firstCollection { muxer with collect := collect } =
      (fun next ↦ { next with collect := collect }) <$> firstCollection muxer := by
  obtain ⟨videoPads, audioPads, pads, first, spts⟩ := muxer
  cases first with
  | false => rfl
  | true =>
      change (pcrReferenceSet spts >>= _) = _ <$> (pcrReferenceSet spts >>= _)
      cases pcrReferenceSet spts with
      | error fault => rfl
      | ok spts => rfl

/-- The calls of the collector write the frames that they take. -/
theorem spts_collectedFrames (pads : List SinkPad) {calls : ℕ} (hcalls : 0 < calls) :
    SpTsMuxer.spts <$> collectedFrames gst writeFunc writeFuncData pads calls =
      writtenFrames gst writeFunc writeFuncData (pads.map SinkPad.templ)
        (takenFrames pads calls) := by
  unfold collectedFrames writtenFrames setUpMuxer
  cases sptsmuxerInit writeFunc writeFuncData with
  | error fault => rfl
  | ok new =>
      change _ <$> (requestPads _ new >>= _) =
        ((grantedRequests _).foldlM requestPad new >>= firstCollection) >>= _
      rw [← requestPads_eq]
      cases requestPads (pads.map SinkPad.templ) new with
      | error fault => rfl
      | ok requested =>
          change _ <$> collectedCalls gst calls _ = firstCollection requested >>= _
          rw [collectedCalls_eq gst hcalls, firstCollection_collect]
          cases firstCollection requested with
          | error fault => rfl
          | ok start =>
              change _ <$> (sptsWriteFrames gst start.spts (takenFrames pads calls) >>= _) =
                sptsWriteFrames gst start.spts (takenFrames pads calls)
              cases sptsWriteFrames gst start.spts (takenFrames pads calls) with
              | error fault => rfl
              | ok final => rfl

end Runs

end SpTsMuxer.Muxer
