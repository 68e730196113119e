import SpTsMuxer.Machine.Fallible
import SpTsMuxer.Spts.Refinement

/-!
# What One Call Can Do

A call of `spts_write_frame` in any state of the SpTs, whether a run leads there or not: it drops
the frame, it hands on packets and counts them, or it fails.  A call that succeeds leaves the
section record and the payload of the PMT packet as they are, and no stream appears or vanishes.
It can fail by an access out of bounds, or because a stream is missing that the frame needs.
-/

namespace SpTsMuxer.Spts

open Memory Machine Pes

variable {W : Type}

/-! ## Building packets -/

/-- Building a packet can only fail by the bounds of the packet and the frame. -/
abbrev EndsInBounds {Value : Type} (program : Except Fault Value) : Prop :=
  Ends (· = .outOfBounds) (fun _ ↦ True) program

theorem ends_adaptationStuffing (tspacket : TsPacket) (buf : ℕ) (adaptationFieldLength : UInt8) :
    EndsInBounds (adaptationStuffing tspacket buf adaptationFieldLength) := by
  rw [adaptationStuffing]
  dsimp only
  split_ifs
  · exact (ends_store _ _ _).bind fun _ _ ↦ trivial
  · trivial
  · trivial

theorem ends_sptsTspacketAdaptationSet (tspacket : TsPacket) (info : TsPacketAdaptationInfo) :
    EndsInBounds (sptsTspacketAdaptationSet tspacket info) := by
  refine (ends_store _ _ _).bind fun stored _ ↦ ?_
  have hrest (tspacket : TsPacket) (buf : ℕ) : EndsInBounds
      (adaptationStuffing tspacket buf info.adaptationFieldLength >>= fun stuffed ↦
        pure (stuffed.1, UInt32.ofNat (stuffed.2 - tspacketHeaderLength))) :=
    (ends_adaptationStuffing _ _ _).bind fun _ _ ↦ trivial
  dsimp only
  split_ifs
  · exact (ends_store _ _ _).bind fun _ _ ↦ hrest _ _
  · exact hrest _ _

theorem ends_sptsFirstAdaptation (pcrReference : Bool) (tspacket : TsPacket)
    (info : PESHeaderInfo) : EndsInBounds (sptsFirstAdaptation pcrReference tspacket info) := by
  rw [sptsFirstAdaptation]
  split_ifs
  · exact (ends_sptsTspacketAdaptationSet _ _).bind fun _ _ ↦ trivial
  · exact (ends_sptsTspacketAdaptationSet _ _).bind fun _ _ ↦ trivial
  · trivial

theorem ends_sptsFirstPacket (pcrReference : Bool) (tspacket : TsPacket) (info : PESHeaderInfo)
    (data : List UInt8) : EndsInBounds (sptsFirstPacket pcrReference tspacket info data) := by
  refine (ends_sptsFirstAdaptation _ _ _).bind fun _ _ ↦ ?_
  have hheader {size : ℕ} (memory : Block UInt8 size) (offset : ℕ) :
      EndsInBounds (pesHeaderSet memory offset info) :=
    (ends_store _ _ _).bind fun _ _ ↦ trivial
  refine (hheader _ _).bind fun _ _ ↦ ?_
  refine (ends_load _ _ _).bind fun _ _ ↦ ?_
  exact (ends_store _ _ _).bind fun _ _ ↦ trivial

theorem ends_sptsLastPacket (tspacket : TsPacket) (info : PESHeaderInfo) (data : List UInt8)
    (buf : ℕ) : EndsInBounds (sptsLastPacket tspacket info data buf) := by
  refine (ends_sptsTspacketAdaptationSet _ _).bind fun _ _ ↦ ?_
  exact (ends_load _ _ _).bind fun _ _ ↦ ends_store _ _ _

theorem ends_sptsMiddlePacket (tspacket : TsPacket) (data : List UInt8) (buf : ℕ) :
    EndsInBounds (sptsMiddlePacket tspacket data buf) :=
  (ends_load _ _ _).bind fun _ _ ↦ ends_store _ _ _

/-! ## Packets of a frame -/

/-- The packet loop hands on packets and counts them, and does nothing else to the SpTs. -/
theorem ends_sptsPacketLoop (spts : SpTs W) (stream : SpTsStream) (data : List UInt8) (buf : ℕ) :
    Ends (· = .outOfBounds) (fun written ↦ ∃ packets, written.1 = spts.emit packets)
      (sptsPacketLoop spts stream data buf) := by
  fun_induction sptsPacketLoop spts stream data buf with
  | case1 spts stream buf hleft hlast ih =>
      refine (ends_sptsLastPacket _ _ _ _).bind fun tspacket _ ↦ ?_
      refine (ih tspacket).mono (fun _ h ↦ h) ?_
      rintro written ⟨packets, hpackets⟩
      exact ⟨tspacket :: packets, hpackets.trans (spts.emit_cons tspacket packets).symm⟩
  | case2 spts stream buf hleft hlast ih =>
      refine (ends_sptsMiddlePacket _ _ _).bind fun tspacket _ ↦ ?_
      refine (ih tspacket).mono (fun _ h ↦ h) ?_
      rintro written ⟨packets, hpackets⟩
      exact ⟨tspacket :: packets, hpackets.trans (spts.emit_cons tspacket packets).symm⟩
  | case3 spts stream buf hleft =>
      exact ⟨[], spts.emit_nil.symm⟩

theorem ends_sptsStreamWrite (gst : UInt64Scale) (spts : SpTs W) (stream : SpTsStream)
    (buffer : GstBuffer) :
    Ends (· = .outOfBounds) (fun written ↦ ∃ first rest, written.1 = spts.emit (first :: rest))
      (sptsStreamWrite gst spts stream buffer) := by
  refine (ends_sptsFirstPacket _ _ _ _).bind fun first _ ↦ ?_
  refine (ends_sptsPacketLoop _ _ _ _).mono (fun _ h ↦ h) ?_
  rintro written ⟨rest, hrest⟩
  exact ⟨first.1, rest, hrest.trans (spts.emit_cons first.1 rest).symm⟩

/-! ## Frames -/

/-- What a call that has handed on `packets` leaves: they are counted, the program map and its
payload stay, and there are the same streams as before. -/
structure FrameWritten (spts next : SpTs W) (packets : List TsPacket) : Prop where
  writeFunc : next.writeFunc = spts.writeFunc
  writeFuncData : next.writeFuncData = (spts.emit packets).writeFuncData
  packetsCounter : next.packetsCounter = (spts.emit packets).packetsCounter
  pmtSection : next.pmtSection = spts.pmtSection
  pmtPayload : next.pmtTspacket.cells.drop 4 = spts.pmtTspacket.cells.drop 4
  video : next.videoStream.isSome = spts.videoStream.isSome
  audio : next.audioStream.isSome = spts.audioStream.isSome

theorem FrameWritten.emit {spts next : SpTs W} {packets : List TsPacket}
    (h : FrameWritten spts next packets) (more : List TsPacket) :
    FrameWritten spts (next.emit more) (packets ++ more) where
  writeFunc := h.writeFunc
  writeFuncData := by
    rw [SpTs.emit_append]
    change more.foldl (fun data packet ↦ (next.writeFunc data packet).2) next.writeFuncData = _
    rw [h.writeFunc, h.writeFuncData]
    rfl
  packetsCounter := by
    rw [SpTs.emit_append]
    change next.packetsCounter + UInt64.ofNat more.length = _
    rw [h.packetsCounter]
    rfl
  pmtSection := h.pmtSection
  pmtPayload := h.pmtPayload
  video := h.video
  audio := h.audio

theorem frameWritten_nil (spts : SpTs W) : FrameWritten spts spts [] where
  writeFunc := rfl
  writeFuncData := rfl
  packetsCounter := by rw [SpTs.emit_nil]
  pmtSection := rfl
  pmtPayload := rfl
  video := rfl
  audio := rfl

theorem drop_ccInc (tspacket : TsPacket) :
    (sptsTspacketHeaderCcInc tspacket).cells.drop 4 = tspacket.cells.drop 4 := by
  rw [sptsTspacketHeaderCcInc, Block.update_cells]
  exact List.drop_modify_of_lt _ 3 4 _ (by omega)

theorem frameWritten_gopBegun {spts : SpTs W} {audio : SpTsStream}
    (haudio : spts.audioStream = some audio) :
    FrameWritten spts (spts.gopBegun audio) (gopLead spts) where
  writeFunc := rfl
  writeFuncData := rfl
  packetsCounter := rfl
  pmtSection := rfl
  pmtPayload := drop_ccInc _
  video := rfl
  audio := by
    rw [haudio]
    rfl

/-- A stream that the frame needs is missing. -/
def MissesStream (spts : SpTs W) (buffer : GstBuffer) : Prop :=
  match buffer.caps with
  | .videoXH264 =>
      spts.videoStream = none ∨ (buffer.deltaUnit = false ∧ spts.audioStream = none)
  | .audioMpeg => spts.packetsCounter ≠ 0 ∧ spts.audioStream = none
  | .other => False

/-- The ways in which a call can fail. -/
def FrameFault (spts : SpTs W) (buffer : GstBuffer) : Fault → Prop
  | .outOfBounds => True
  | .nullPointer => MissesStream spts buffer
  | .uninitialized => buffer.caps = .other

/-- The ways in which a call can succeed: the frame is dropped, or it is at least one packet.  The
result is `TRUE` in any case. -/
def FrameResult (spts : SpTs W) (buffer : GstBuffer) (result : Bool × SpTs W) : Prop :=
  result.1 = true ∧
    ((buffer.caps = .audioMpeg ∧ spts.packetsCounter = 0 ∧ result.2 = spts) ∨
      ∃ packets, packets ≠ [] ∧ FrameWritten spts result.2 packets)

section Frames

variable (gst : UInt64Scale) (spts : SpTs W) (buffer : GstBuffer)

theorem ends_sptsStreamWrite_of_written {middle : SpTs W} {packets : List TsPacket}
    (hmiddle : FrameWritten spts middle packets) (stream : SpTsStream) :
    Ends (FrameFault spts buffer)
      (fun written ↦ ∃ packets, packets ≠ [] ∧ FrameWritten spts written.1 packets)
      (sptsStreamWrite gst middle stream buffer) := by
  refine (ends_sptsStreamWrite gst middle stream buffer).mono ?_ ?_
  · rintro fault rfl
    trivial
  · rintro written ⟨first, rest, hwritten⟩
    refine ⟨packets ++ first :: rest, List.append_ne_nil_of_right_ne_nil _ (by simp), ?_⟩
    rw [hwritten]
    exact hmiddle.emit (first :: rest)

/-- A video frame needs its stream, and at the beginning of a GOP the audio stream as well. -/
theorem ends_video_frame (hcaps : buffer.caps = .videoXH264) :
    Ends (FrameFault spts buffer) (FrameResult spts buffer) (sptsWriteFrame gst spts buffer) := by
  have hfault (hmisses : spts.videoStream = none ∨
      (buffer.deltaUnit = false ∧ spts.audioStream = none)) : MissesStream spts buffer := by
    rw [MissesStream, hcaps]
    exact hmisses
  rw [sptsWriteFrame, hcaps]
  dsimp only
  cases hvideo : spts.videoStream with
  | none => exact hfault (.inl hvideo)
  | some record =>
      have hwrite (begun : SpTs W × SpTsStream)
          (hbegun : ∃ packets, FrameWritten spts begun.1 packets) :
          Ends (FrameFault spts buffer) (FrameResult spts buffer) (do
            let written ← sptsStreamWrite gst begun.1 begun.2 buffer
            pure (true, { written.1 with videoStream := some written.2 })) := by
        obtain ⟨packets, hbegun⟩ := hbegun
        refine (ends_sptsStreamWrite_of_written gst spts buffer hbegun _).bind ?_
        rintro written ⟨packets, hne, hwritten⟩
        exact ⟨rfl, .inr ⟨packets, hne, { hwritten with video := by rw [hvideo]; rfl }⟩⟩
      rw [deref_some]
      change Ends _ _ (if buffer.deltaUnit = true then _ else _)
      split_ifs with hdelta
      · exact hwrite (spts, _) ⟨[], frameWritten_nil spts⟩
      · cases haudio : spts.audioStream with
        | none =>
            rw [sptsGopBegin_of_none haudio]
            exact hfault (.inr ⟨Bool.eq_false_iff.mpr hdelta, haudio⟩)
        | some audio =>
            rw [sptsGopBegin_of_some haudio]
            exact hwrite (spts.gopBegun audio, _) ⟨_, frameWritten_gopBegun haudio⟩

/-- An audio frame that is not dropped needs its stream. -/
theorem ends_audio_frame (hcaps : buffer.caps = .audioMpeg) :
    Ends (FrameFault spts buffer) (FrameResult spts buffer) (sptsWriteFrame gst spts buffer) := by
  rw [sptsWriteFrame, hcaps]
  dsimp only
  split_ifs with hcounter
  · exact ⟨rfl, .inl ⟨hcaps, hcounter, rfl⟩⟩
  · cases haudio : spts.audioStream with
    | none =>
        have hmisses : MissesStream spts buffer := by
          rw [MissesStream, hcaps]
          exact ⟨hcounter, haudio⟩
        exact hmisses
    | some record =>
        refine (ends_sptsStreamWrite_of_written gst spts buffer (frameWritten_nil spts) record).bind
          ?_
        rintro written ⟨packets, hne, hwritten⟩
        exact ⟨rfl, .inr ⟨packets, hne, { hwritten with audio := by rw [haudio]; rfl }⟩⟩

/-- Every call ends in one of these ways, in every state. -/
theorem ends_sptsWriteFrame :
    Ends (FrameFault spts buffer) (FrameResult spts buffer) (sptsWriteFrame gst spts buffer) := by
  cases hcaps : buffer.caps with
  | videoXH264 => exact ends_video_frame gst spts buffer hcaps
  | audioMpeg => exact ends_audio_frame gst spts buffer hcaps
  | other =>
      rw [sptsWriteFrame, hcaps]
      exact hcaps

end Frames

theorem writeStep_cases {gst : UInt64Scale} {spts next : SpTs W} {buffer : GstBuffer}
    (h : writeStep gst spts buffer = .ok next) :
    (buffer.caps = .audioMpeg ∧ spts.packetsCounter = 0 ∧ next = spts) ∨
      ∃ packets, packets ≠ [] ∧ FrameWritten spts next packets := by
  obtain ⟨result, hwrite⟩ := exists_of_writeStep h
  exact ((ends_sptsWriteFrame gst spts buffer).of_ok hwrite).2

end SpTsMuxer.Spts
