import SpTsMuxer.Merge.Queues
import SpTsMuxer.Spts.Model

/-!
# The Muxer Element of `sptsmuxer.c`

Pads are requested one by one; each adds a stream to the SpTs and an entry to its PMT.  Whenever
all pads have a buffer or are at their end, the collect pads call `sptsmuxer_collected`: the first
call decides which stream carries the clock, and every call hands the earliest of the buffers to
`spts_write_frame`.

The collect pads are the list of what each pad will still deliver.  A peek returns the first of
these buffers, or a null pointer at the end of the stream, and a pop removes it.
-/

namespace SpTsMuxer.Muxer

open Memory Psi Spts

variable {W : Type}

/-- The two request templates of the element, and any other template. -/
inductive PadTemplate where
  | video
  | audio
  | unknown
  deriving DecidableEq, Repr

/-- A pad by its name; a pad without one gets its name from its template. -/
structure GstPad where
  name : Option String
  deriving DecidableEq

/-- What a pad in the collect list will still deliver. -/
abbrev CollectPad := List GstBuffer

set_option linter.dupNamespace false in
/-- `struct _SpTsMuxer`, less the source pad.  The size and the fill of the push buffer belong to
the data of the write function. -/
structure SpTsMuxer (W : Type) where
  numvideosinkpads : UInt32
  numaudiosinkpads : UInt32
  collect : List CollectPad
  first : Bool
  spts : SpTs W

/-- `sptsmuxer_init`. -/
def sptsmuxerInit (writeFunc : W → TsPacket → Bool × W) (writeFuncData : W) :
    Except Fault (SpTsMuxer W) := do
  let spts ← sptsNew writeFunc writeFuncData
  pure {
    numvideosinkpads := 0
    numaudiosinkpads := 0
    collect := []
    first := true
    spts := spts }

/-! ## Requesting pads -/

/-- Add a stream to the SpTs and to its PMT. -/
def muxerAddStream (spts : SpTs W) (streamType : UInt8) (streamPid : UInt16) :
    Except Fault (SpTs W) := do
  let spts ← sptsAddStream spts streamType streamPid
  let (pmtTspacket, pmtSection) ←
    psiPmtSectionStreamAdd spts.pmtTspacket spts.pmtSection streamType streamPid
  pure { spts with pmtTspacket := pmtTspacket, pmtSection := pmtSection }

/-- The template branches of `sptsmuxer_request_new_pad`, and the pad that they lead to. -/
def templatePad (muxer : SpTsMuxer W) :
    PadTemplate → Except Fault (GstPad × SpTsMuxer W)
  | .video => do
      let spts ← muxerAddStream muxer.spts streamTypeVideoH264 videoPid
      pure (⟨some ("video_" ++ toString muxer.numvideosinkpads.toInt32)⟩,
        { muxer with numvideosinkpads := muxer.numvideosinkpads + 1, spts := spts })
  | .audio => do
      let spts ← muxerAddStream muxer.spts streamTypeAudioAac audioPid
      pure (⟨some ("audio_" ++ toString muxer.numaudiosinkpads.toInt32)⟩,
        { muxer with numaudiosinkpads := muxer.numaudiosinkpads + 1, spts := spts })
  | .unknown => pure (⟨none⟩, muxer)

/-- `sptsmuxer_request_new_pad`.  The two flags are the answers of `gst_collect_pads_add_pad` and
`gst_element_add_pad`; a pad that is refused by the element stays in the collect list. -/
def sptsmuxerRequestNewPad (muxer : SpTsMuxer W) (templ : PadTemplate)
    (collectAdds elementAdds : Bool) : Except Fault (Option GstPad × SpTsMuxer W) := do
  let (pad, muxer) ← templatePad muxer templ
  if collectAdds then
    let muxer := { muxer with collect := muxer.collect ++ [[]] }
    pure (if elementAdds then some pad else none, muxer)
  else pure (none, muxer)

/-! ## Collecting buffers -/

/-- Set the PCR PID of the PMT. -/
def pcrPidSet (spts : SpTs W) (pcrPid : UInt16) : Except Fault (SpTs W) := do
  let (pmtTspacket, pmtSection) ←
    psiPmtSectionPcrPidSet spts.pmtTspacket spts.pmtSection pcrPid
  pure { spts with pmtTspacket := pmtTspacket, pmtSection := pmtSection }

/-- The clock is on the video stream if there is one, otherwise on the audio stream. -/
def pcrReferenceSet (spts : SpTs W) : Except Fault (SpTs W) :=
  let info := spts.pmtSection.sectionInfo
  if info.videoPid ≠ 0 then do
    let spts ← pcrPidSet spts info.videoPid
    let videoStream ← deref spts.videoStream
    pure { spts with videoStream := some { videoStream with pcrReference := true } }
  else if info.audioPid ≠ 0 then do
    let spts ← pcrPidSet spts info.audioPid
    let audioStream ← deref spts.audioStream
    pure { spts with audioStream := some { audioStream with pcrReference := true } }
  else pure spts

/-- The first part of `sptsmuxer_collected`. -/
def firstCollection (muxer : SpTsMuxer W) : Except Fault (SpTsMuxer W) :=
  if muxer.first then do
    let spts ← pcrReferenceSet muxer.spts
    pure { muxer with spts := spts, first := false }
  else pure muxer

def gstClockTimeNone : UInt64 := 0xffffffffffffffff

/-- `GST_CLOCK_TIME_IS_VALID`. -/
def gstClockTimeIsValid (time : UInt64) : Bool := time ≠ gstClockTimeNone

/-- The loop of `sptsmuxer_collected` from the pad at `position` on: `next` is the position of the
pad that is chosen so far, and `nextTime` the time of its buffer. -/
def collectLoop (next : Option ℕ) (nextTime : UInt64) (position : ℕ) :
    List CollectPad → Option ℕ
  | [] => next
  | collect :: rest =>
      match collect.head? with
      | none => collectLoop next nextTime (position + 1) rest
      | some buffer =>
          match next with
          | none =>
              if gstClockTimeIsValid buffer.timestamp then
                collectLoop (some position) buffer.timestamp (position + 1) rest
              else some position
          | some chosen =>
              if buffer.timestamp < nextTime then
                collectLoop (some position) buffer.timestamp (position + 1) rest
              else collectLoop (some chosen) nextTime (position + 1) rest

/-- The pad that `sptsmuxer_collected` takes a buffer from. -/
def nextCollectdata (collect : List CollectPad) : Option ℕ :=
  collectLoop none gstClockTimeNone 0 collect

/-- `sptsmuxer_collected`.  The result of `spts_write_frame` is thrown away. -/
def sptsmuxerCollected (gst : UInt64Scale) (muxer : SpTsMuxer W) :
    Except Fault (SpTsMuxer W) := do
  let muxer ← firstCollection muxer
  match nextCollectdata muxer.collect with
  | none => pure muxer
  | some position =>
      match Merge.pop muxer.collect position with
      | none => .error .nullPointer
      | some (buffer, collect) => do
          let spts ← writeStep gst muxer.spts buffer
          pure { muxer with spts := spts, collect := collect }

/-- Repeated calls of `sptsmuxer_collected`. -/
def collectedCalls (gst : UInt64Scale) : ℕ → SpTsMuxer W → Except Fault (SpTsMuxer W)
  | 0, muxer => pure muxer
  | count + 1, muxer => do
      let muxer ← sptsmuxerCollected gst muxer
      collectedCalls gst count muxer

end SpTsMuxer.Muxer
