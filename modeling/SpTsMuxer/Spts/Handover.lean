import SpTsMuxer.Spts.Calls

/-!
# Packets do not Depend on the Write Function

The SpTs throws the results of its write function away and never looks at its data.  If a function
on the data goes along with two write functions, it goes along with every call: the frames lead to
the same records and to the same packets, only the data is another one.
-/

namespace SpTsMuxer.Spts

open Memory Machine Pes

variable {V W : Type}

/-- The SpTs with another write function, for data that is seen through `view`. -/
def SpTs.project (view : W → V) (observe : V → TsPacket → Bool × V) (spts : SpTs W) : SpTs V where
  pat := spts.pat
  pmtTspacket := spts.pmtTspacket
  nullpacket := spts.nullpacket
  pmtSection := spts.pmtSection
  audioStream := spts.audioStream
  videoStream := spts.videoStream
  packetsCounter := spts.packetsCounter
  gopCounter := spts.gopCounter
  writeFunc := observe
  writeFuncData := view spts.writeFuncData

/-- The view goes along with the write function of the SpTs and another one. -/
structure GoesAlong (view : W → V) (observe : V → TsPacket → Bool × V) (spts : SpTs W) : Prop where
  step : ∀ data packet, view (spts.writeFunc data packet).2 = (observe (view data) packet).2

section Frames

variable {view : W → V} {observe : V → TsPacket → Bool × V} {spts : SpTs W}
  (h : GoesAlong view observe spts)
include h

theorem project_emit (packets : List TsPacket) :
    (spts.emit packets).project view observe = (spts.project view observe).emit packets := by
  have hdata : view (packets.foldl (fun data packet ↦ (spts.writeFunc data packet).2)
      spts.writeFuncData) =
        packets.foldl (fun data packet ↦ (observe data packet).2) (view spts.writeFuncData) :=
    (List.foldl_hom view fun data packet ↦ (h.step data packet).symm).symm
  unfold SpTs.emit SpTs.project
  rw [hdata]

/-- The packets of the loop depend on the stream and the frame alone. -/
theorem project_sptsPacketLoop (stream : SpTsStream) (data : List UInt8) (buf : ℕ) :
    sptsPacketLoop (spts.project view observe) stream data buf =
      (fun written ↦ (written.1.project view observe, written.2)) <$>
        sptsPacketLoop spts stream data buf := by
  fun_induction sptsPacketLoop spts stream data buf with
  | case1 spts stream buf hleft hlast ih =>
      rw [sptsPacketLoop, if_pos hleft, if_pos hlast, map_bind]
      refine bind_congr fun tspacket ↦ ?_
      rw [← ih tspacket ⟨h.step⟩]
      exact congrArg (sptsPacketLoop · _ data buf) (project_emit h [tspacket]).symm
  | case2 spts stream buf hleft hlast ih =>
      rw [sptsPacketLoop, if_pos hleft, if_neg hlast, map_bind]
      refine bind_congr fun tspacket ↦ ?_
      rw [← ih tspacket ⟨h.step⟩]
      exact congrArg (sptsPacketLoop · _ data _) (project_emit h [tspacket]).symm
  | case3 spts stream buf hleft =>
      rw [sptsPacketLoop, if_neg hleft]
      rfl

theorem project_sptsStreamWrite (gst : UInt64Scale) (stream : SpTsStream) (buffer : GstBuffer) :
    sptsStreamWrite gst (spts.project view observe) stream buffer =
      (fun written ↦ (written.1.project view observe, written.2)) <$>
        sptsStreamWrite gst spts stream buffer := by
  unfold sptsStreamWrite
  dsimp only
  rw [map_bind]
  refine bind_congr fun first ↦ ?_
  have hemit := project_emit h [first.1]
  have hemitted : GoesAlong view observe (spts.emit [first.1]) := ⟨h.step⟩
  have hloop := fun stream data buf ↦ project_sptsPacketLoop hemitted stream data buf
  rw [hemit] at hloop
  exact hloop _ _ _

theorem project_sptsGopBegin (stream : SpTsStream) :
    sptsGopBegin (spts.project view observe) stream =
      (fun begun ↦ (begun.1.project view observe, begun.2)) <$> sptsGopBegin spts stream := by
  have htables : sptsPsiWrite (sptsNullPadding (spts.project view observe)) =
      (sptsPsiWrite (sptsNullPadding spts)).project view observe := by
    rw [sptsPsiWrite_sptsNullPadding, sptsPsiWrite_sptsNullPadding]
    exact congrArg (fun emitted : SpTs V ↦ { emitted with
      pat := sptsTspacketHeaderCcInc spts.pat
      pmtTspacket := sptsTspacketHeaderCcInc spts.pmtTspacket })
      (project_emit h (gopLead spts)).symm
  unfold sptsGopBegin
  dsimp only
  rw [htables, map_bind]
  exact bind_congr fun audioStream ↦ rfl

theorem GoesAlong.gopBegin {stream : SpTsStream} {begun : SpTs W × SpTsStream}
    (hbegun : sptsGopBegin spts stream = .ok begun) : GoesAlong view observe begun.1 := by
  obtain ⟨audioStream, -, hpure⟩ := exists_of_bind_eq_ok hbegun
  obtain rfl := Except.ok.inj hpure
  refine ⟨?_⟩
  change ∀ data packet,
    view ((sptsPsiWrite (sptsNullPadding spts)).writeFunc data packet).2 = _
  rw [sptsPsiWrite_sptsNullPadding]
  exact h.step

theorem project_frame (gst : UInt64Scale) (stream : SpTsStream) (buffer : GstBuffer)
    (keep : SpTs W → SpTsStream → SpTs W) (keepObserved : SpTs V → SpTsStream → SpTs V)
    (hkeep : ∀ written record,
      keepObserved (written.project view observe) record =
        (keep written record).project view observe) :
    (do
      let written ← sptsStreamWrite gst (spts.project view observe) stream buffer
      pure (true, keepObserved written.1 written.2)) =
      (fun result ↦ (result.1, result.2.project view observe)) <$> (do
        let written ← sptsStreamWrite gst spts stream buffer
        pure (true, keep written.1 written.2) : Except Fault (Bool × SpTs W)) := by
  rw [project_sptsStreamWrite h, map_bind, bind_map_left]
  refine bind_congr fun written ↦ ?_
  rw [hkeep]
  rfl

/-- A call hands on the same packets, whatever its write function does with them. -/
theorem project_sptsWriteFrame (gst : UInt64Scale) (buffer : GstBuffer) :
    sptsWriteFrame gst (spts.project view observe) buffer =
      (fun result ↦ (result.1, result.2.project view observe)) <$>
        sptsWriteFrame gst spts buffer := by
  unfold sptsWriteFrame
  cases buffer.caps with
  | other => rfl
  | audioMpeg =>
      dsimp only
      by_cases hcounter : spts.packetsCounter = 0
      · rw [if_pos hcounter, if_pos (show (spts.project view observe).packetsCounter = 0 from
          hcounter)]
        rfl
      · rw [if_neg hcounter, if_neg (show ¬(spts.project view observe).packetsCounter = 0 from
          hcounter), map_bind]
        refine bind_congr fun stream ↦ ?_
        exact project_frame h gst stream buffer
          (fun written record ↦ { written with audioStream := some record })
          (fun written record ↦ { written with audioStream := some record }) fun _ _ ↦ rfl
  | videoXH264 =>
      have hframe {current : SpTs W} (hcurrent : GoesAlong view observe current)
          (stream : SpTsStream) :=
        project_frame hcurrent gst stream buffer
          (fun written record ↦ { written with videoStream := some record })
          (fun written record ↦ { written with videoStream := some record }) fun _ _ ↦ rfl
      dsimp only
      rw [map_bind]
      refine bind_congr fun stream ↦ ?_
      by_cases hdelta : buffer.deltaUnit = true
      · rw [if_pos hdelta, if_pos hdelta]
        exact hframe h _
      · rw [if_neg hdelta, if_neg hdelta, project_sptsGopBegin h]
        cases hbegun : sptsGopBegin spts _ with
        | error fault => rfl
        | ok begun => exact hframe (h.gopBegin hbegun) begun.2

theorem project_writeStep (gst : UInt64Scale) (buffer : GstBuffer) :
    writeStep gst (spts.project view observe) buffer =
      SpTs.project view observe <$> writeStep gst spts buffer := by
  unfold writeStep
  rw [project_sptsWriteFrame h]
  cases sptsWriteFrame gst spts buffer with
  | error fault => rfl
  | ok result => rfl

end Frames

theorem GoesAlong.writeStep {view : W → V} {observe : V → TsPacket → Bool × V}
    {spts next : SpTs W} (h : GoesAlong view observe spts) {gst : UInt64Scale} {buffer : GstBuffer}
    (hok : Spts.writeStep gst spts buffer = .ok next) : GoesAlong view observe next := by
  rcases writeStep_cases hok with ⟨-, -, rfl⟩ | ⟨packets, -, hwritten⟩
  · exact h
  · refine ⟨?_⟩
    rw [show next.writeFunc = spts.writeFunc from hwritten.writeFunc]
    exact h.step

/-- A run hands on the same packets. -/
theorem project_sptsWriteFrames {view : W → V} {observe : V → TsPacket → Bool × V} {spts : SpTs W}
    (h : GoesAlong view observe spts) (gst : UInt64Scale) (buffers : List GstBuffer) :
    sptsWriteFrames gst (spts.project view observe) buffers =
      SpTs.project view observe <$> sptsWriteFrames gst spts buffers := by
  induction buffers generalizing spts with
  | nil => rfl
  | cons buffer rest ih =>
      unfold sptsWriteFrames at ih ⊢
      rw [List.foldlM_cons, List.foldlM_cons, project_writeStep h]
      cases hstep : writeStep gst spts buffer with
      | error fault => rfl
      | ok next => exact ih (h.writeStep hstep)

end SpTsMuxer.Spts
