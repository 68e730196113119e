import SpTsMuxer.Spts.Packetize
import SpTsMuxer.Psi.Representation

/-!
# `spts.c` Refines the Abstract Multiplexer

`Refines` relates a running `SpTs` to a state of the abstract machine: the headers of the five
packet objects, the two 64-bit counters, and the two stream records.  A successful call of
`spts_write_frame` is one step of the machine, and hands on exactly the packets of that step.  The
call succeeds on every frame of the two known kinds that its stream can hold.
-/

namespace SpTsMuxer.Spts

open Memory Transport Pes Psi Machine

variable {W : Type}

/-! ## The relation -/

/-- The SpTs carries out `program` and has come to `state`. -/
structure Refines (spts : SpTs W) (program : Program) (state : MuxState) : Prop where
  pat : spts.pat = (program.pat state.gops).block
  pmt : spts.pmtTspacket = (program.pmt state.gops).block
  nullpacket : spts.nullpacket = nullPacket.block
  packetsCounter : spts.packetsCounter = UInt64.ofNat state.packets
  gopCounter : spts.gopCounter = UInt64.ofNat state.gops
  video : ∃ record, spts.videoStream = some record ∧
    StreamRefines record program.video state.video
  audio : ∃ record, spts.audioStream = some record ∧
    StreamRefines record program.audio state.audio

theorem Refines.packetsCounter_eq_zero_iff {spts : SpTs W} {program : Program} {state : MuxState}
    (h : Refines spts program state) :
    spts.packetsCounter = 0 ↔ state.packets % 2 ^ 64 = 0 := by
  rw [h.packetsCounter, ← UInt64.toNat_inj, UInt64.toNat_ofNat']
  rfl

/-- The frame a buffer holds.  Only buffers of the two known kinds are ever translated. -/
def GstBuffer.frame (gst : UInt64Scale) (buffer : GstBuffer) : Frame where
  kind :=
    match buffer.caps with
    | .videoXH264 => if buffer.deltaUnit then .delta else .idr
    | _ => .audio
  pts := (gsttimeToMpegtime gst buffer.timestamp).toNat
  data := buffer.data

/-- The buffers that `spts_write_frame` accepts: of a known kind, and short enough for their
stream unless they are dropped. -/
def Accepts (program : Program) (state : MuxState) (buffer : GstBuffer) : Prop :=
  match buffer.caps with
  | .videoXH264 => program.video.Holds buffer.data
  | .audioMpeg => state.packets % 2 ^ 64 = 0 ∨ program.audio.Holds buffer.data
  | .other => False

/-- The buffers that are accepted in every state. -/
def Fits (program : Program) (buffer : GstBuffer) : Prop :=
  match buffer.caps with
  | .videoXH264 => program.video.Holds buffer.data
  | .audioMpeg => program.audio.Holds buffer.data
  | .other => False

theorem Fits.accepts {program : Program} {buffer : GstBuffer} (h : Fits program buffer)
    (state : MuxState) : Accepts program state buffer := by
  unfold Fits at h
  unfold Accepts
  cases hcaps : buffer.caps with
  | videoXH264 => simpa only [hcaps] using h
  | audioMpeg =>
      rw [hcaps] at h
      exact .inr h
  | other => simp only [hcaps] at h

/-! ## Null packets and tables -/

/-- The padding loop emits as many null packets as are missing. -/
theorem sptsNullPadding_eq (spts : SpTs W) :
    sptsNullPadding spts = spts.emit (List.replicate
      ((spts.gopCounter * gopPackets).toNat - spts.packetsCounter.toNat) spts.nullpacket) := by
  induction hcount : (spts.gopCounter * gopPackets).toNat - spts.packetsCounter.toNat
    generalizing spts with
  | zero =>
      have hge : ¬spts.packetsCounter < spts.gopCounter * gopPackets := by
        rw [UInt64.lt_iff_toNat_lt]
        omega
      rw [sptsNullPadding, if_neg hge]
      simp
  | succ count ih =>
      have hlt : spts.packetsCounter < spts.gopCounter * gopPackets := by
        rw [UInt64.lt_iff_toNat_lt]
        omega
      have hbound := (spts.gopCounter * gopPackets).toNat_lt
      have hnext : (spts.packetsCounter + 1).toNat = spts.packetsCounter.toNat + 1 := by
        rw [UInt64.toNat_add]
        exact Nat.mod_eq_of_lt (by change _ + 1 < 2 ^ 64; omega)
      have htail := ih (spts.emit [spts.nullpacket]) (by
        change (spts.gopCounter * gopPackets).toNat - (spts.packetsCounter + 1).toNat = count
        omega)
      rw [sptsNullPadding, if_pos hlt, List.replicate_succ, SpTs.emit_cons]
      exact htail

theorem sptsPsiWrite_eq (spts : SpTs W) :
    sptsPsiWrite spts = { spts.emit [spts.pat, spts.pmtTspacket] with
      pat := sptsTspacketHeaderCcInc spts.pat
      pmtTspacket := sptsTspacketHeaderCcInc spts.pmtTspacket } := by
  simp only [sptsPsiWrite, sptsWrite, SpTs.emit, List.foldl_cons, List.foldl_nil, UInt64.add_assoc]
  rfl

/-! ## The beginning of a GOP -/

/-- The packets in front of the frame at the beginning of a GOP. -/
def gopLead (spts : SpTs W) : List TsPacket :=
  List.replicate ((spts.gopCounter * gopPackets).toNat - spts.packetsCounter.toNat)
    spts.nullpacket ++ [spts.pat, spts.pmtTspacket]

theorem sptsPsiWrite_sptsNullPadding (spts : SpTs W) :
    sptsPsiWrite (sptsNullPadding spts) = { spts.emit (gopLead spts) with
      pat := sptsTspacketHeaderCcInc spts.pat
      pmtTspacket := sptsTspacketHeaderCcInc spts.pmtTspacket } := by
  rw [gopLead, SpTs.emit_append, ← sptsNullPadding_eq]
  exact (sptsPsiWrite_eq _).trans (by rw [sptsNullPadding_eq]; rfl)

/-- The state behind the packets that begin a GOP. -/
def SpTs.gopBegun (spts : SpTs W) (audio : SpTsStream) : SpTs W :=
  { spts.emit (gopLead spts) with
    pat := sptsTspacketHeaderCcInc spts.pat
    pmtTspacket := sptsTspacketHeaderCcInc spts.pmtTspacket
    gopCounter := spts.gopCounter + 1
    audioStream := some audio.gopEnd }

/-- The beginning of a GOP needs the audio stream, and nothing else. -/
theorem sptsGopBegin_of_some {spts : SpTs W} {audio : SpTsStream}
    (haudio : spts.audioStream = some audio) (stream : SpTsStream) :
    sptsGopBegin spts stream = .ok (spts.gopBegun audio,
      { stream with lastGopFramesCounter := stream.framesCounter }.gopEnd) := by
  rw [sptsGopBegin]
  dsimp only
  rw [sptsPsiWrite_sptsNullPadding]
  change (deref spts.audioStream >>= _) = _
  rw [haudio]
  rfl

theorem sptsGopBegin_of_none {spts : SpTs W} (haudio : spts.audioStream = none)
    (stream : SpTsStream) : sptsGopBegin spts stream = .error .nullPointer := by
  rw [sptsGopBegin]
  dsimp only
  rw [sptsPsiWrite_sptsNullPadding]
  change (deref spts.audioStream >>= _) = _
  rw [haudio]
  rfl

theorem exists_of_sptsGopBegin {spts : SpTs W} {stream : SpTsStream}
    {begun : SpTs W × SpTsStream} (hbegin : sptsGopBegin spts stream = .ok begun) :
    ∃ audio, spts.audioStream = some audio ∧ begun = (spts.gopBegun audio,
      { stream with lastGopFramesCounter := stream.framesCounter }.gopEnd) := by
  cases haudio : spts.audioStream with
  | none =>
      rw [sptsGopBegin_of_none haudio] at hbegin
      cases hbegin
  | some audio =>
      rw [sptsGopBegin_of_some haudio] at hbegin
      exact ⟨audio, rfl, (Except.ok.inj hbegin).symm⟩

theorem ccInc_pat (program : Program) (counter : ℕ) :
    sptsTspacketHeaderCcInc (program.pat counter).block = (program.pat (counter + 1)).block := by
  apply Block.ext
  exact ccInc_cells rfl (program.pat counter).control_lt

theorem ccInc_pmt (program : Program) (counter : ℕ) :
    sptsTspacketHeaderCcInc (program.pmt counter).block = (program.pmt (counter + 1)).block := by
  apply Block.ext
  exact ccInc_cells rfl (program.pmt counter).control_lt

theorem missing_eq {spts : SpTs W} {program : Program} {state : MuxState}
    (h : Refines spts program state) :
    (spts.gopCounter * gopPackets).toNat - spts.packetsCounter.toNat = state.missing := by
  rw [UInt64.toNat_mul, h.gopCounter, h.packetsCounter, UInt64.toNat_ofNat', UInt64.toNat_ofNat',
    Nat.mod_mul_mod]
  rfl

theorem gopLead_eq {spts : SpTs W} {program : Program} {state : MuxState}
    (h : Refines spts program state) :
    gopLead spts = (gopFront program state).map Packet.block := by
  rw [gopLead, missing_eq h, h.nullpacket, h.pat, h.pmt, gopFront, List.map_append,
    List.map_replicate]
  rfl

theorem StreamRefines.recount {record : SpTsStream} {stream : ElementaryStream} {counter : ℕ}
    (h : StreamRefines record stream counter) (frames lastGopFrames : UInt64) :
    StreamRefines
      { record with framesCounter := frames, lastGopFramesCounter := lastGopFrames } stream
      counter :=
  ⟨h.tspacket, h.pcrReference, h.info, h.packetsCounter⟩

theorem StreamRefines.gopEnd {record : SpTsStream} {stream : ElementaryStream} {counter : ℕ}
    (h : StreamRefines record stream counter) : StreamRefines record.gopEnd stream counter :=
  ⟨h.tspacket, h.pcrReference, h.info, h.packetsCounter⟩

/-- The beginning of a GOP emits the null packets and the tables, and counts the GOP. -/
theorem exists_sptsGopBegin {spts : SpTs W} {program : Program} {state : MuxState}
    (h : Refines spts program state) (record : SpTsStream) :
    ∃ next, sptsGopBegin spts record =
        .ok (next, { record with lastGopFramesCounter := record.framesCounter }.gopEnd) ∧
      next.writeFunc = spts.writeFunc ∧
      next.writeFuncData = (spts.emit ((gopFront program state).map Packet.block)).writeFuncData ∧
      Refines next program { state with
        packets := state.packets + (gopFront program state).length, gops := state.gops + 1 } := by
  obtain ⟨audio, haudio, haudioRefines⟩ := h.audio
  have hlead := gopLead_eq h
  refine ⟨spts.gopBegun audio, sptsGopBegin_of_some haudio record, rfl, ?_, ?_⟩
  · rw [← hlead]
    rfl
  · exact {
      pat := by
        rw [← ccInc_pat, ← h.pat]
        rfl
      pmt := by
        rw [← ccInc_pmt, ← h.pmt]
        rfl
      nullpacket := h.nullpacket
      packetsCounter := by
        change spts.packetsCounter + UInt64.ofNat (gopLead spts).length = _
        rw [h.packetsCounter, hlead, List.length_map, ← UInt64.ofNat_add]
      gopCounter := by
        change spts.gopCounter + 1 = _
        rw [h.gopCounter, UInt64.ofNat_add]
        rfl
      video := h.video
      audio := ⟨audio.gopEnd, rfl, haudioRefines.gopEnd⟩ }

/-! ## One frame -/

theorem Refines.emit {spts : SpTs W} {program : Program} {state : MuxState}
    (h : Refines spts program state) (packets : List TsPacket) :
    Refines (spts.emit packets) program
      { state with packets := state.packets + packets.length } where
  pat := h.pat
  pmt := h.pmt
  nullpacket := h.nullpacket
  packetsCounter := by
    change spts.packetsCounter + UInt64.ofNat packets.length = _
    rw [h.packetsCounter, ← UInt64.ofNat_add]
  gopCounter := h.gopCounter
  video := h.video
  audio := h.audio

theorem Refines.exists_videoWrite (gst : UInt64Scale) {spts : SpTs W} {program : Program}
    {state : MuxState} (h : Refines spts program state) {record : SpTsStream}
    (hrecord : StreamRefines record program.video state.video) {buffer : GstBuffer}
    (hsize : program.video.Holds buffer.data) :
    let unit := program.video.unit state.video (buffer.frame gst).pts buffer.data
    ∃ written, sptsStreamWrite gst spts record buffer =
        .ok (spts.emit (unit.map Packet.block), written) ∧
      Refines { spts.emit (unit.map Packet.block) with videoStream := some written } program
        { state with
          packets := state.packets + unit.length
          video := state.video + unit.length } := by
  intro unit
  obtain ⟨tspacket, hbears, hwrite⟩ := exists_sptsStreamWrite gst spts hrecord buffer hsize
  have hemit := h.emit (unit.map Packet.block)
  rw [List.length_map] at hemit
  refine ⟨_, hwrite, ?_⟩
  exact {
    pat := hemit.pat
    pmt := hemit.pmt
    nullpacket := hemit.nullpacket
    packetsCounter := hemit.packetsCounter
    gopCounter := hemit.gopCounter
    video := ⟨_, rfl, hrecord.written hbears _⟩
    audio := hemit.audio }

theorem Refines.exists_audioWrite (gst : UInt64Scale) {spts : SpTs W} {program : Program}
    {state : MuxState} (h : Refines spts program state) {record : SpTsStream}
    (hrecord : StreamRefines record program.audio state.audio) {buffer : GstBuffer}
    (hsize : program.audio.Holds buffer.data) :
    let unit := program.audio.unit state.audio (buffer.frame gst).pts buffer.data
    ∃ written, sptsStreamWrite gst spts record buffer =
        .ok (spts.emit (unit.map Packet.block), written) ∧
      Refines { spts.emit (unit.map Packet.block) with audioStream := some written } program
        { state with
          packets := state.packets + unit.length
          audio := state.audio + unit.length } := by
  intro unit
  obtain ⟨tspacket, hbears, hwrite⟩ := exists_sptsStreamWrite gst spts hrecord buffer hsize
  have hemit := h.emit (unit.map Packet.block)
  rw [List.length_map] at hemit
  refine ⟨_, hwrite, ?_⟩
  exact {
    pat := hemit.pat
    pmt := hemit.pmt
    nullpacket := hemit.nullpacket
    packetsCounter := hemit.packetsCounter
    gopCounter := hemit.gopCounter
    video := hemit.video
    audio := ⟨_, rfl, hrecord.written hbears _⟩ }

/-- The record of a successful call against one step of the machine. -/
structure StepOf (gst : UInt64Scale) (program : Program) (spts next : SpTs W) (state : MuxState)
    (buffer : GstBuffer) : Prop where
  refines : Refines next program (muxStep program state (buffer.frame gst)).1
  writeFunc : next.writeFunc = spts.writeFunc
  writeFuncData : next.writeFuncData =
    (spts.emit ((muxStep program state (buffer.frame gst)).2.map Packet.block)).writeFuncData

section OneFrame

variable (gst : UInt64Scale) {spts : SpTs W} {program : Program} {state : MuxState}
  (h : Refines spts program state) {buffer : GstBuffer}
include h

/-- The call on a video frame: a GOP begins if it is not a delta unit, then comes its unit. -/
theorem exists_sptsWriteFrame_video (hcaps : buffer.caps = .videoXH264)
    (hsize : program.video.Holds buffer.data) :
    ∃ next, sptsWriteFrame gst spts buffer = .ok (true, next) ∧
      StepOf gst program spts next state buffer := by
  obtain ⟨record, hrecord, hrefines⟩ := h.video
  let counted := { record with framesCounter := record.framesCounter + 1 }
  have hcounted : StreamRefines counted program.video state.video := hrefines.recount _ _
  cases hdelta : buffer.deltaUnit with
  | true =>
      obtain ⟨written, hwrite, hnext⟩ := h.exists_videoWrite gst hcounted hsize
      have hkind : (buffer.frame gst).kind = .delta := by simp [GstBuffer.frame, hcaps, hdelta]
      have hstep := muxStep_delta program state hkind
      refine ⟨{ spts.emit ((program.video.unit state.video (buffer.frame gst).pts
        buffer.data).map Packet.block) with videoStream := some written }, ?_, ?_⟩
      · rw [sptsWriteFrame, hcaps]
        simp only [hrecord, deref_some, bind, Except.bind, hdelta, if_true, pure, Except.pure]
        rw [hwrite]
      · refine ⟨?_, rfl, ?_⟩
        · rw [hstep]
          exact hnext
        · rw [hstep]
          rfl
  | false =>
      obtain ⟨begun, hbegin, hfunc, hdata, hbegun⟩ := exists_sptsGopBegin h counted
      have hended : StreamRefines
          { counted with lastGopFramesCounter := counted.framesCounter }.gopEnd
          program.video state.video :=
        (hcounted.recount _ _).gopEnd
      obtain ⟨written, hwrite, hnext⟩ := hbegun.exists_videoWrite gst hended hsize
      have hkind : (buffer.frame gst).kind = .idr := by simp [GstBuffer.frame, hcaps, hdelta]
      have hstep := muxStep_idr program state hkind
      refine ⟨{ begun.emit ((program.video.unit state.video (buffer.frame gst).pts
        buffer.data).map Packet.block) with videoStream := some written }, ?_, ?_⟩
      · rw [sptsWriteFrame, hcaps]
        simp only [hrecord, deref_some, bind, Except.bind, hdelta, Bool.false_eq_true, if_false,
          pure, Except.pure]
        rw [show sptsGopBegin spts { record with framesCounter := record.framesCounter + 1 } = _
          from hbegin]
        dsimp only
        rw [hwrite]
      · refine ⟨?_, hfunc, ?_⟩
        · rw [hstep]
          exact hnext
        · rw [hstep, List.map_append, SpTs.emit_append]
          change List.foldl _ begun.writeFuncData _ = List.foldl _ (spts.emit _).writeFuncData _
          rw [hdata, hfunc]
          rfl

/-- The call on an audio frame: nothing before the first packet, and then its unit. -/
theorem exists_sptsWriteFrame_audio (hcaps : buffer.caps = .audioMpeg)
    (hsize : state.packets % 2 ^ 64 = 0 ∨ program.audio.Holds buffer.data) :
    ∃ next, sptsWriteFrame gst spts buffer = .ok (true, next) ∧
      StepOf gst program spts next state buffer := by
  obtain ⟨record, hrecord, hrefines⟩ := h.audio
  have hkind : (buffer.frame gst).kind = .audio := by simp [GstBuffer.frame, hcaps]
  have hzero := h.packetsCounter_eq_zero_iff
  by_cases hpackets : state.packets % 2 ^ 64 = 0
  · have hstep := muxStep_dropped program state hkind hpackets
    refine ⟨spts, ?_, ?_⟩
    · rw [sptsWriteFrame, hcaps]
      simp only [if_pos (hzero.mpr hpackets)]
      rfl
    · refine ⟨?_, rfl, ?_⟩
      · rw [hstep]
        exact h
      · rw [hstep]
        rfl
  · obtain ⟨written, hwrite, hnext⟩ :=
      h.exists_audioWrite gst hrefines (hsize.resolve_left hpackets)
    have hstep := muxStep_audio program state hkind hpackets
    refine ⟨{ spts.emit ((program.audio.unit state.audio (buffer.frame gst).pts
      buffer.data).map Packet.block) with audioStream := some written }, ?_, ?_⟩
    · rw [sptsWriteFrame, hcaps]
      simp only [if_neg (mt hzero.mp hpackets), hrecord, deref_some, bind, Except.bind]
      rw [hwrite]
      rfl
    · refine ⟨?_, rfl, ?_⟩
      · rw [hstep]
        exact hnext
      · rw [hstep]
        rfl

/-- The call succeeds on every frame that is accepted, as one step of the machine. -/
theorem exists_sptsWriteFrame (haccepts : Accepts program state buffer) :
    ∃ next, sptsWriteFrame gst spts buffer = .ok (true, next) ∧
      StepOf gst program spts next state buffer := by
  rw [Accepts] at haccepts
  cases hcaps : buffer.caps with
  | videoXH264 =>
      rw [hcaps] at haccepts
      exact exists_sptsWriteFrame_video gst h hcaps haccepts
  | audioMpeg =>
      rw [hcaps] at haccepts
      exact exists_sptsWriteFrame_audio gst h hcaps haccepts
  | other =>
      rw [hcaps] at haccepts
      exact haccepts.elim

theorem accepts_of_sptsWriteFrame {result : Bool × SpTs W}
    (hwrite : sptsWriteFrame gst spts buffer = .ok result) : Accepts program state buffer := by
  -- On a stream, a frame that does not fit is a fault whatever the rest of the state is.
  have hfault {stream : ElementaryStream} {counter : ℕ} (current : SpTs W) {record : SpTsStream}
      (hrecord : StreamRefines record stream counter) (hlong : ¬stream.Holds buffer.data) :
      ∃ fault, sptsStreamWrite gst current record buffer = .error fault := by
    cases hresult : sptsStreamWrite gst current record buffer with
    | error fault => exact ⟨fault, rfl⟩
    | ok next => exact absurd (holds_of_sptsStreamWrite hrecord hresult) hlong
  by_contra hrejected
  rw [Accepts] at hrejected
  cases hcaps : buffer.caps with
  | other =>
      rw [sptsWriteFrame, hcaps] at hwrite
      cases hwrite
  | audioMpeg =>
      rw [hcaps] at hrejected
      obtain ⟨hpackets, hlong⟩ := not_or.mp hrejected
      obtain ⟨record, hrecord, hrefines⟩ := h.audio
      obtain ⟨fault, hstream⟩ := hfault spts hrefines hlong
      have hzero : spts.packetsCounter ≠ 0 := mt h.packetsCounter_eq_zero_iff.mp hpackets
      rw [sptsWriteFrame, hcaps] at hwrite
      simp only [if_neg hzero, hrecord, deref_some, bind, Except.bind, hstream] at hwrite
      cases hwrite
  | videoXH264 =>
      rw [hcaps] at hrejected
      obtain ⟨record, hrecord, hrefines⟩ := h.video
      let counted := { record with framesCounter := record.framesCounter + 1 }
      have hcounted : StreamRefines counted program.video state.video := hrefines.recount _ _
      rw [sptsWriteFrame, hcaps] at hwrite
      cases hdelta : buffer.deltaUnit with
      | true =>
          obtain ⟨fault, hstream⟩ := hfault spts hcounted hrejected
          simp only [hrecord, deref_some, bind, Except.bind, hdelta, if_true, pure,
            Except.pure] at hwrite
          rw [hstream] at hwrite
          cases hwrite
      | false =>
          obtain ⟨begun, hbegin, -⟩ := exists_sptsGopBegin h counted
          have hended : StreamRefines
              { counted with lastGopFramesCounter := counted.framesCounter }.gopEnd
              program.video state.video :=
            (hcounted.recount _ _).gopEnd
          obtain ⟨fault, hstream⟩ := hfault begun hended hrejected
          simp only [hrecord, deref_some, bind, Except.bind, hdelta, Bool.false_eq_true, if_false,
            pure, Except.pure] at hwrite
          rw [show sptsGopBegin spts { record with framesCounter := record.framesCounter + 1 } = _
            from hbegin] at hwrite
          dsimp only at hwrite
          rw [hstream] at hwrite
          cases hwrite

theorem stepOf_of_sptsWriteFrame {result : Bool × SpTs W}
    (hwrite : sptsWriteFrame gst spts buffer = .ok result) :
    StepOf gst program spts result.2 state buffer := by
  obtain ⟨next, hnext, hstep⟩ :=
    exists_sptsWriteFrame gst h (accepts_of_sptsWriteFrame gst h hwrite)
  rw [hwrite] at hnext
  obtain rfl : result = (true, next) := Except.ok.inj hnext
  exact hstep

end OneFrame

/-! ## Whole runs -/

theorem exists_of_writeStep {gst : UInt64Scale} {spts next : SpTs W} {buffer : GstBuffer}
    (h : writeStep gst spts buffer = .ok next) :
    ∃ result, sptsWriteFrame gst spts buffer = .ok (result, next) := by
  obtain ⟨⟨result, final⟩, hwrite, rfl⟩ := exists_of_map_eq_ok h
  exact ⟨result, hwrite⟩

/-- `spts_write_frame` simulates the multiplexer. -/
theorem simulates_multiplexer (gst : UInt64Scale) (program : Program)
    (writeFunc : W → TsPacket → Bool × W) :
    ((multiplexer program).comap (GstBuffer.frame gst)).Simulates (writeStep gst)
      (fun spts state ↦ Refines spts program state ∧ spts.writeFunc = writeFunc)
      SpTs.writeFuncData (fun data packet ↦ (writeFunc data packet.block).2) where
  related_step := by
    intro spts next state buffer ⟨hrefines, hfunc⟩ hnext
    obtain ⟨result, hwrite⟩ := exists_of_writeStep hnext
    have hstep := stepOf_of_sptsWriteFrame gst hrefines hwrite
    exact ⟨hstep.refines, hstep.writeFunc.trans hfunc⟩
  sink_step := by
    intro spts next state buffer ⟨hrefines, hfunc⟩ hnext
    obtain ⟨result, hwrite⟩ := exists_of_writeStep hnext
    have hstep := stepOf_of_sptsWriteFrame gst hrefines hwrite
    rw [hstep.writeFuncData, SpTs.emit]
    change List.foldl _ _ (List.map _ _) = List.foldl _ _ _
    rw [List.foldl_map, hfunc]
    rfl

section Runs

variable {gst : UInt64Scale} {spts final : SpTs W} {program : Program} {state : MuxState}
  (h : Refines spts program state) {buffers : List GstBuffer}
include h

/-- A run of calls is a run of the multiplexer: the packets of its outputs have been given to the
write function, in order. -/
theorem sptsWriteFrames_run (hrun : sptsWriteFrames gst spts buffers = .ok final) :
    Refines final program
        ((multiplexer program).run state (buffers.map (GstBuffer.frame gst))).1 ∧
      final.writeFuncData =
        ((multiplexer program).run state (buffers.map (GstBuffer.frame gst))).2.foldl
          (fun data packet ↦ (spts.writeFunc data packet.block).2) spts.writeFuncData := by
  have hsimulates := simulates_multiplexer gst program spts.writeFunc
  obtain ⟨⟨hrefines, -⟩, hsink⟩ := hsimulates.run ⟨h, rfl⟩ hrun
  rw [Mealy.run_comap] at hrefines hsink
  exact ⟨hrefines, hsink⟩

theorem exists_sptsWriteFrames (hfits : ∀ buffer ∈ buffers, Fits program buffer) :
    ∃ final, sptsWriteFrames gst spts buffers = .ok final := by
  have hsimulates := simulates_multiplexer gst program spts.writeFunc
  refine hsimulates.exists_run (fun current state buffer hrelated hbuffer ↦ ?_) ⟨h, rfl⟩ hfits
  obtain ⟨next, hnext, -⟩ := exists_sptsWriteFrame gst hrelated.1 (hbuffer.accepts state)
  exact ⟨next, by rw [writeStep, hnext]; rfl⟩

theorem accepts_of_sptsWriteFrames {before after : List GstBuffer} {buffer : GstBuffer}
    (hrun : sptsWriteFrames gst spts (before ++ buffer :: after) = .ok final) :
    Accepts program ((multiplexer program).run state (before.map (GstBuffer.frame gst))).1
      buffer := by
  rw [sptsWriteFrames, List.foldlM_append] at hrun
  obtain ⟨middle, hbefore, hafter⟩ := exists_of_bind_eq_ok hrun
  obtain ⟨hmiddle, -⟩ := sptsWriteFrames_run h hbefore
  rw [List.foldlM_cons] at hafter
  obtain ⟨next, hstep, -⟩ := exists_of_bind_eq_ok hafter
  obtain ⟨result, hwrite⟩ := exists_of_writeStep hstep
  exact accepts_of_sptsWriteFrame gst hmiddle hwrite

end Runs

end SpTsMuxer.Spts
