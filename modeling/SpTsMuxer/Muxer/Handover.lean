import SpTsMuxer.Muxer.SingleStream
import SpTsMuxer.Spts.Handover

/-!
# The Packets of a Muxer do not Depend on its Write Function

Requests and the first collection do not touch the write function or its data, and frames only hand
packets on.  What any write function makes of a run is therefore what it makes of the packets that
a recorder in its place would keep.
-/

namespace SpTsMuxer.Muxer

open Memory Machine Psi Spts

variable {V W : Type}

set_option linter.dupNamespace false in
/-- The muxer with another write function, for data that is seen through `view`. -/
def SpTsMuxer.project (view : W → V) (observe : V → TsPacket → Bool × V) (muxer : SpTsMuxer W) :
    SpTsMuxer V where
  numvideosinkpads := muxer.numvideosinkpads
  numaudiosinkpads := muxer.numaudiosinkpads
  collect := muxer.collect
  first := muxer.first
  spts := muxer.spts.project view observe

section SetUp

variable (view : W → V) (observe : V → TsPacket → Bool × V)

theorem project_sptsmuxerInit (writeFunc : W → TsPacket → Bool × W) (writeFuncData : W) :
    sptsmuxerInit observe (view writeFuncData) =
      SpTsMuxer.project view observe <$> sptsmuxerInit writeFunc writeFuncData := by
  unfold sptsmuxerInit sptsNew
  cases sptsPsiPatInit with
  | error fault => rfl
  | ok pat =>
      cases sptsPsiPmtInit with
      | error fault => rfl
      | ok pmt => rfl

theorem project_sptsAddStream (spts : SpTs W) (streamType : UInt8) (streamPid : UInt16) :
    sptsAddStream (spts.project view observe) streamType streamPid =
      SpTs.project view observe <$> sptsAddStream spts streamType streamPid := by
  unfold sptsAddStream
  split_ifs
  · rw [map_bind]
    exact bind_congr fun stream ↦ rfl
  · rw [map_bind]
    exact bind_congr fun stream ↦ rfl

theorem project_muxerAddStream (spts : SpTs W) (streamType : UInt8) (streamPid : UInt16) :
    muxerAddStream (spts.project view observe) streamType streamPid =
      SpTs.project view observe <$> muxerAddStream spts streamType streamPid := by
  unfold muxerAddStream
  rw [project_sptsAddStream, bind_map_left, map_bind]
  refine bind_congr fun added ↦ ?_
  rw [map_bind]
  exact bind_congr fun pmt ↦ rfl

theorem project_templatePad (muxer : SpTsMuxer W) (templ : PadTemplate) :
    templatePad (muxer.project view observe) templ =
      (fun padded ↦ (padded.1, padded.2.project view observe)) <$> templatePad muxer templ := by
  cases templ with
  | video =>
      change (muxerAddStream (muxer.spts.project view observe) _ _ >>= _) =
        _ <$> (muxerAddStream muxer.spts _ _ >>= _)
      rw [project_muxerAddStream, bind_map_left, map_bind]
      exact bind_congr fun spts ↦ rfl
  | audio =>
      change (muxerAddStream (muxer.spts.project view observe) _ _ >>= _) =
        _ <$> (muxerAddStream muxer.spts _ _ >>= _)
      rw [project_muxerAddStream, bind_map_left, map_bind]
      exact bind_congr fun spts ↦ rfl
  | unknown => rfl

theorem project_requestPad (muxer : SpTsMuxer W) (request : PadRequest) :
    requestPad (muxer.project view observe) request =
      SpTsMuxer.project view observe <$> requestPad muxer request := by
  unfold requestPad sptsmuxerRequestNewPad
  rw [project_templatePad, bind_map_left, map_bind, map_bind, map_bind]
  refine bind_congr fun padded ↦ ?_
  cases request.collectAdds with
  | false => rfl
  | true => rfl

theorem project_pcrPidSet (spts : SpTs W) (pcrPid : UInt16) :
    pcrPidSet (spts.project view observe) pcrPid =
      SpTs.project view observe <$> pcrPidSet spts pcrPid := by
  unfold pcrPidSet
  rw [map_bind]
  exact bind_congr fun pmt ↦ rfl

theorem project_pcrReferenceSet (spts : SpTs W) :
    pcrReferenceSet (spts.project view observe) =
      SpTs.project view observe <$> pcrReferenceSet spts := by
  unfold pcrReferenceSet
  change (if spts.pmtSection.sectionInfo.videoPid ≠ 0 then _
    else if spts.pmtSection.sectionInfo.audioPid ≠ 0 then _ else _) = _
  dsimp only
  split_ifs
  · rw [project_pcrPidSet, bind_map_left, map_bind]
    refine bind_congr fun clocked ↦ ?_
    rw [map_bind]
    exact bind_congr fun stream ↦ rfl
  · rw [project_pcrPidSet, bind_map_left, map_bind]
    refine bind_congr fun clocked ↦ ?_
    rw [map_bind]
    exact bind_congr fun stream ↦ rfl
  · rfl

theorem project_firstCollection (muxer : SpTsMuxer W) :
    firstCollection (muxer.project view observe) =
      SpTsMuxer.project view observe <$> firstCollection muxer := by
  unfold firstCollection
  change (if muxer.first = true then (pcrReferenceSet (muxer.spts.project view observe) >>= _)
    else _) = _
  split_ifs
  · rw [project_pcrReferenceSet, bind_map_left, map_bind]
    exact bind_congr fun spts ↦ rfl
  · rfl

theorem project_setUpMuxer (writeFunc : W → TsPacket → Bool × W) (writeFuncData : W)
    (requests : List PadRequest) :
    setUpMuxer observe (view writeFuncData) requests =
      SpTsMuxer.project view observe <$> setUpMuxer writeFunc writeFuncData requests := by
  have hrequests (muxer : SpTsMuxer W) :
      requests.foldlM requestPad (muxer.project view observe) =
        SpTsMuxer.project view observe <$> requests.foldlM requestPad muxer := by
    induction requests generalizing muxer with
    | nil => rfl
    | cons request rest ih =>
        rw [List.foldlM_cons, List.foldlM_cons, project_requestPad, bind_map_left, map_bind]
        exact bind_congr ih
  unfold setUpMuxer
  rw [project_sptsmuxerInit view observe writeFunc, bind_map_left, map_bind]
  refine bind_congr fun new ↦ ?_
  rw [hrequests, bind_map_left, map_bind]
  exact bind_congr fun requested ↦ project_firstCollection view observe requested

end SetUp

/-- A run with another write function is the same run, seen through the view. -/
theorem project_writtenFrames {view : W → V} {observe : V → TsPacket → Bool × V}
    {writeFunc : W → TsPacket → Bool × W}
    (hview : ∀ data packet, view (writeFunc data packet).2 = (observe (view data) packet).2)
    (gst : UInt64Scale) (writeFuncData : W) (templates : List PadTemplate)
    (buffers : List GstBuffer) :
    writtenFrames gst observe (view writeFuncData) templates buffers =
      SpTs.project view observe <$>
        writtenFrames gst writeFunc writeFuncData templates buffers := by
  unfold writtenFrames
  rw [project_setUpMuxer view observe writeFunc]
  by_cases hfull : 33 < templates.countP fun templ ↦ templ ≠ .unknown
  · rw [setUpMuxer_granted_full writeFunc writeFuncData hfull]
    rfl
  · obtain ⟨muxer, hmuxer, hfunc, -⟩ :=
      exists_granted writeFunc writeFuncData (Nat.le_of_not_lt hfull)
    rw [hmuxer]
    exact project_sptsWriteFrames ⟨by rw [hfunc]; exact hview⟩ gst buffers

/-- What a write function makes of a run is what it makes of the recorded packets. -/
theorem exists_writtenFrames {gst : UInt64Scale} {results : List TsPacket → Bool}
    {templates : List PadTemplate} {buffers : List GstBuffer} {handed : List TsPacket}
    (hhanded : muxedPackets gst results templates buffers = .ok handed)
    (writeFunc : W → TsPacket → Bool × W) (writeFuncData : W) :
    ∃ final, writtenFrames gst writeFunc writeFuncData templates buffers = .ok final ∧
      final.writeFuncData =
        handed.foldl (fun data packet ↦ (writeFunc data packet).2) writeFuncData := by
  rw [muxedPackets_eq_written] at hhanded
  obtain ⟨recorded, hrecorded, rfl⟩ := exists_of_map_eq_ok hhanded
  let view : List TsPacket → W :=
    fun packets ↦ packets.foldl (fun data packet ↦ (writeFunc data packet).2) writeFuncData
  have hview (packets : List TsPacket) (packet : TsPacket) :
      view (recorder results packets packet).2 = (writeFunc (view packets) packet).2 :=
    List.foldl_concat _ _ _ _
  have hproject := project_writtenFrames hview gst [] templates buffers
  rw [hrecorded] at hproject
  exact ⟨_, hproject, rfl⟩

end SpTsMuxer.Muxer
