import SpTsMuxer.Spts.Calls
import SpTsMuxer.Spts.Setup

/-!
# Calls in a Partial Program

`Refines` speaks of a program with both of its streams.  While pads are requested one by one there
may be one stream or none, and a stream may be replaced.  What a call needs and keeps is less: the
tables and the null packet are on their PIDs, and each stream that there is, is packetised on its
PID, with the clock or without.

Every packet of a call is then an encoded packet.  It carries a clock reference exactly if it begins
a frame of a stream with the clock, and a packet on the PID of the PMT carries the map that was
announced when the call began.  The fault of a call that fails follows from the streams that there
are and from the frame.
-/

namespace SpTsMuxer.Spts

open Memory Transport Machine

variable {W : Type}

/-! ## Tables -/

/-- The object is a full packet of a table on this PID, whatever its section. -/
def IsTable (number : ℕ) (tspacket : TsPacket) : Prop :=
  ∃ counter payload, tspacket.cells = header true true number 1 counter ++ payload

section Table

variable {number : ℕ} {tspacket : TsPacket} (h : IsTable number tspacket)
include h

theorem IsTable.ccInc : IsTable number (sptsTspacketHeaderCcInc tspacket) := by
  obtain ⟨counter, payload, hcells⟩ := h
  exact ⟨counter + 1, payload, ccInc_cells hcells (by omega)⟩

theorem IsTable.exchange {next : TsPacket} (hfront : next.cells.take 4 = tspacket.cells.take 4) :
    IsTable number next := by
  obtain ⟨counter, payload, hcells⟩ := h
  refine ⟨counter, next.cells.drop 4, ?_⟩
  rw [hcells, List.take_left' (length_header _ _ _ _ _)] at hfront
  rw [← hfront, List.take_append_drop]

theorem IsTable.exists_block (hnumber : number < 8192) : ∃ content : Packet,
    tspacket = content.block ∧ content.pid = number ∧ content.unitStart = true ∧
      content.pcr = none ∧ content.payload = tspacket.cells.drop 4 := by
  obtain ⟨counter, payload, hcells⟩ := h
  have hlength : payload.length = 184 := by
    have hsize := tspacket.length_cells
    rw [hcells, List.length_append, length_header] at hsize
    omega
  refine ⟨{
    unitStart := true
    priority := true
    pid := number
    counter := counter
    pcr := none
    payload := payload
    pid_lt := hnumber
    payload_ne_nil := by
      rw [← List.length_pos_iff, hlength]
      omega
    fits := by simp [hlength] }, ?_, rfl, rfl, rfl, ?_⟩
  · apply Block.ext
    rw [Packet.block_cells, Packet.encode_full _ rfl hlength]
    exact hcells
  · rw [hcells]
    rfl

end Table

/-! ## Between two calls -/

/-- The clock can be put on a stream, or taken from it, between two frames. -/
theorem StreamRefines.setPcr {record : SpTsStream} {stream : ElementaryStream} {counter : ℕ}
    (h : StreamRefines record stream counter) (pcr : Bool) :
    StreamRefines { record with pcrReference := pcr } { stream with pcr := pcr } counter :=
  ⟨h.tspacket, rfl, ⟨h.info.streamId, h.info.flag, h.info.dataLength⟩, h.packetsCounter⟩

/-- The tables and the null packet are on their PIDs, and each stream that there is, is packetised
on its PID, with the clock if its flag says so. -/
structure Running (videoPcr audioPcr : Bool) (spts : SpTs W) : Prop where
  pat : IsTable 0 spts.pat
  pmt : IsTable pmtPid.toNat spts.pmtTspacket
  nullpacket : spts.nullpacket = nullPacket.block
  video : ∀ record, spts.videoStream = some record →
    ∃ counter, StreamRefines record (.h264 videoPcr) counter
  audio : ∀ record, spts.audioStream = some record →
    ∃ counter, StreamRefines record (.aac audioPcr) counter

/-- The PID is that of a stream with the clock. -/
def ClockOn (videoPcr audioPcr : Bool) (number : ℕ) : Prop :=
  (videoPcr = true ∧ number = videoPid.toNat) ∨ (audioPcr = true ∧ number = audioPid.toNat)

/-- The packet is an encoded packet, which carries a clock reference exactly if it begins a frame
of a stream with the clock; on the PID of the PMT it carries this section. -/
def Sent (videoPcr audioPcr : Bool) (payload : List UInt8) (tspacket : TsPacket) : Prop :=
  ∃ content : Packet, tspacket = content.block ∧
    (content.pcr ≠ none ↔ content.unitStart = true ∧ ClockOn videoPcr audioPcr content.pid) ∧
    (content.pid = pmtPid.toNat → content.payload = payload)

section Sent

variable {videoPcr audioPcr : Bool} {payload : List UInt8}

theorem not_clockOn {number : ℕ} (hvideo : number ≠ videoPid.toNat)
    (haudio : number ≠ audioPid.toNat) : ¬ClockOn videoPcr audioPcr number := by
  rintro (⟨-, hnumber⟩ | ⟨-, hnumber⟩)
  · exact hvideo hnumber
  · exact haudio hnumber

theorem sent_nullPacket : Sent videoPcr audioPcr payload nullPacket.block := by
  refine ⟨nullPacket, rfl, iff_of_false (fun hpcr ↦ hpcr rfl) fun hstart ↦ ?_, fun hpid ↦ ?_⟩
  · exact absurd hstart.1 (by decide)
  · exact absurd hpid (by decide)

theorem IsTable.sent_pat {tspacket : TsPacket} (h : IsTable 0 tspacket) :
    Sent videoPcr audioPcr payload tspacket := by
  obtain ⟨content, hblock, hpid, -, hpcr, -⟩ := h.exists_block (by omega)
  refine ⟨content, hblock, iff_of_false (fun hne ↦ hne hpcr) fun hstart ↦ ?_, fun hpmt ↦ ?_⟩
  · rw [hpid] at hstart
    exact not_clockOn (by decide) (by decide) hstart.2
  · rw [hpid] at hpmt
    exact absurd hpmt (by decide)

theorem IsTable.sent_pmt {tspacket : TsPacket} (h : IsTable pmtPid.toNat tspacket) :
    Sent videoPcr audioPcr (tspacket.cells.drop 4) tspacket := by
  obtain ⟨content, hblock, hpid, -, hpcr, hpayload⟩ := h.exists_block (by decide)
  refine ⟨content, hblock, iff_of_false (fun hne ↦ hne hpcr) fun hstart ↦ ?_, fun _ ↦ hpayload⟩
  rw [hpid] at hstart
  exact not_clockOn (by decide) (by decide) hstart.2

theorem sent_unit {stream : ElementaryStream} (hpid : stream.pid ≠ pmtPid.toNat)
    (hclock : stream.pcr = true ↔ ClockOn videoPcr audioPcr stream.pid) (counter pts : ℕ)
    (data : List UInt8) :
    ∀ content ∈ stream.unit counter pts data, Sent videoPcr audioPcr payload content.block := by
  intro content hmem
  have hon := stream.unit_pid counter pts data content hmem
  refine ⟨content, rfl, ?_, fun hpmt ↦ absurd (hon.symm.trans hpmt) hpid⟩
  rw [hon, ← hclock]
  rcases List.mem_cons.mp hmem with rfl | htail
  · cases hpcr : stream.pcr with
    | false => simp [ElementaryStream.start, hpcr]
    | true => simp [ElementaryStream.start, hpcr]
  · obtain ⟨hstart, -, -, hpcr⟩ := stream.continuation_fields _ _ content htail
    rw [hstart, hpcr]
    exact iff_of_false (fun hne ↦ hne rfl) fun hand ↦ Bool.false_ne_true hand.1

end Sent

/-! ## One call -/

/-- The packets have been handed on in order and counted. -/
structure Handed (spts next : SpTs W) (packets : List TsPacket) : Prop where
  writeFunc : next.writeFunc = spts.writeFunc
  writeFuncData : next.writeFuncData = (spts.emit packets).writeFuncData
  packetsCounter : next.packetsCounter = (spts.emit packets).packetsCounter

theorem handed_nil {spts next : SpTs W} (hfunc : next.writeFunc = spts.writeFunc)
    (hdata : next.writeFuncData = spts.writeFuncData)
    (hcounter : next.packetsCounter = spts.packetsCounter) : Handed spts next [] := by
  rw [← SpTs.emit_nil spts] at hdata hcounter
  exact ⟨hfunc, hdata, hcounter⟩

theorem Handed.trans {spts middle next : SpTs W} {packets more : List TsPacket}
    (h : Handed spts middle packets) (hmore : Handed middle next more) :
    Handed spts next (packets ++ more) where
  writeFunc := hmore.writeFunc.trans h.writeFunc
  writeFuncData := by
    rw [hmore.writeFuncData, SpTs.emit_append]
    change more.foldl (fun data packet ↦ (middle.writeFunc data packet).2) middle.writeFuncData = _
    rw [h.writeFunc, h.writeFuncData]
    rfl
  packetsCounter := by
    rw [hmore.packetsCounter, SpTs.emit_append]
    change middle.packetsCounter + UInt64.ofNat more.length = _
    rw [h.packetsCounter]
    rfl

theorem handed_of_emit {spts next : SpTs W} {packets : List TsPacket}
    (h : next = spts.emit packets) : Handed spts next packets := by
  rw [h]
  exact ⟨rfl, rfl, rfl⟩

/-- What a call hands on: packets that are sent with the section announced when it began, and only
if there is a stream. -/
def Hands (videoPcr audioPcr : Bool) (spts next : SpTs W) : Prop :=
  ∃ packets, Handed spts next packets ∧
    (packets ≠ [] → spts.videoStream ≠ none ∨ spts.audioStream ≠ none) ∧
    ∀ packet ∈ packets, Sent videoPcr audioPcr (spts.pmtTspacket.cells.drop 4) packet

section Call

variable {gst : UInt64Scale} {videoPcr audioPcr : Bool} {spts next : SpTs W} {buffer : GstBuffer}

theorem exists_of_sptsStreamWrite {record : SpTsStream} {stream : ElementaryStream} {counter : ℕ}
    (h : StreamRefines record stream counter) {written : SpTs W × SpTsStream}
    (hwrite : sptsStreamWrite gst spts record buffer = .ok written) :
    ∃ pts, written.1 = spts.emit ((stream.unit counter pts buffer.data).map Packet.block) ∧
      StreamRefines written.2 stream
        (counter + (stream.unit counter pts buffer.data).length) := by
  obtain ⟨tspacket, hbears, hunit⟩ :=
    exists_sptsStreamWrite gst spts h buffer (holds_of_sptsStreamWrite h hwrite)
  obtain rfl := Except.ok.inj (hunit.symm.trans hwrite)
  exact ⟨_, rfl, h.written hbears _⟩

/-- What a call that succeeds has done: nothing, or it has written an audio frame, or a video frame
with its GOP or without. -/
inductive Called (gst : UInt64Scale) (spts : SpTs W) (buffer : GstBuffer) : SpTs W → Prop
  | idle : Called gst spts buffer spts
  | audio {record : SpTsStream} {written : SpTs W × SpTsStream}
      (hstream : spts.audioStream = some record)
      (hwrite : sptsStreamWrite gst spts record buffer = .ok written) :
      Called gst spts buffer { written.1 with audioStream := some written.2 }
  | delta {record : SpTsStream} {written : SpTs W × SpTsStream}
      (hstream : spts.videoStream = some record)
      (hwrite : sptsStreamWrite gst spts
        { record with framesCounter := record.framesCounter + 1 } buffer = .ok written) :
      Called gst spts buffer { written.1 with videoStream := some written.2 }
  | idr {record : SpTsStream} {begun written : SpTs W × SpTsStream}
      (hstream : spts.videoStream = some record)
      (hbegin : sptsGopBegin spts
        { record with framesCounter := record.framesCounter + 1 } = .ok begun)
      (hwrite : sptsStreamWrite gst begun.1 begun.2 buffer = .ok written) :
      Called gst spts buffer { written.1 with videoStream := some written.2 }

theorem called_of_writeStep (hok : writeStep gst spts buffer = .ok next) :
    Called gst spts buffer next := by
  obtain ⟨result, hframe⟩ := exists_of_writeStep hok
  unfold sptsWriteFrame at hframe
  cases hcaps : buffer.caps with
  | videoXH264 =>
      rw [hcaps] at hframe
      obtain ⟨record, hderef, hframe⟩ := exists_of_bind_eq_ok hframe
      have hstream := eq_some_of_deref hderef
      dsimp only at hframe
      split_ifs at hframe with hdelta
      · obtain ⟨begun, hbegun, hframe⟩ := exists_of_bind_eq_ok hframe
        obtain rfl := Except.ok.inj hbegun
        obtain ⟨written, hwrite, hpure⟩ := exists_of_bind_eq_ok hframe
        obtain rfl := (Prod.ext_iff.mp (Except.ok.inj hpure)).2
        exact .delta hstream hwrite
      · obtain ⟨begun, hbegin, hframe⟩ := exists_of_bind_eq_ok hframe
        obtain ⟨written, hwrite, hpure⟩ := exists_of_bind_eq_ok hframe
        obtain rfl := (Prod.ext_iff.mp (Except.ok.inj hpure)).2
        exact .idr hstream hbegin hwrite
  | audioMpeg =>
      rw [hcaps] at hframe
      dsimp only at hframe
      split_ifs at hframe with hcounter
      · obtain rfl := (Prod.ext_iff.mp (Except.ok.inj hframe)).2
        exact .idle
      · obtain ⟨record, hderef, hframe⟩ := exists_of_bind_eq_ok hframe
        obtain ⟨written, hwrite, hpure⟩ := exists_of_bind_eq_ok hframe
        obtain rfl := (Prod.ext_iff.mp (Except.ok.inj hpure)).2
        exact .audio (eq_some_of_deref hderef) hwrite
  | other =>
      rw [hcaps] at hframe
      cases hframe

variable (h : Running videoPcr audioPcr spts)
include h

theorem Running.sent_gopLead :
    ∀ packet ∈ gopLead spts, Sent videoPcr audioPcr (spts.pmtTspacket.cells.drop 4) packet := by
  intro packet hmem
  rcases List.mem_append.mp hmem with hnull | htables
  · rw [List.eq_of_mem_replicate hnull, h.nullpacket]
    exact sent_nullPacket
  · rw [List.mem_cons, List.mem_singleton] at htables
    rcases htables with rfl | rfl
    · exact h.pat.sent_pat
    · exact h.pmt.sent_pmt

theorem Running.videoWrite {record : SpTsStream} {counter : ℕ}
    (hrecord : StreamRefines record (.h264 videoPcr) counter) {written : SpTs W × SpTsStream}
    (hwrite : sptsStreamWrite gst spts record buffer = .ok written) (payload : List UInt8) :
    Running videoPcr audioPcr { written.1 with videoStream := some written.2 } ∧
      ∃ packets, written.1 = spts.emit packets ∧
        ∀ packet ∈ packets, Sent videoPcr audioPcr payload packet := by
  obtain ⟨pts, hemit, hrefines⟩ := exists_of_sptsStreamWrite hrecord hwrite
  have hclock : (ElementaryStream.h264 videoPcr).pcr = true ↔
      ClockOn videoPcr audioPcr (ElementaryStream.h264 videoPcr).pid :=
    ⟨fun hpcr ↦ .inl ⟨hpcr, rfl⟩, fun hon ↦
      (hon.resolve_right fun hother ↦ absurd hother.2 (show videoPid.toNat ≠ _ by decide)).1⟩
  refine ⟨?_, _, hemit, fun packet hmem ↦ ?_⟩
  · rw [hemit]
    refine ⟨h.pat, h.pmt, h.nullpacket, fun other hother ↦ ?_, h.audio⟩
    obtain rfl := Option.some.inj hother
    exact ⟨_, hrefines⟩
  · obtain ⟨content, hcontent, rfl⟩ := List.mem_map.mp hmem
    exact sent_unit (show videoPid.toNat ≠ _ by decide) hclock _ _ _ content hcontent

theorem Running.audioWrite {record : SpTsStream} {counter : ℕ}
    (hrecord : StreamRefines record (.aac audioPcr) counter) {written : SpTs W × SpTsStream}
    (hwrite : sptsStreamWrite gst spts record buffer = .ok written) (payload : List UInt8) :
    Running videoPcr audioPcr { written.1 with audioStream := some written.2 } ∧
      ∃ packets, written.1 = spts.emit packets ∧
        ∀ packet ∈ packets, Sent videoPcr audioPcr payload packet := by
  obtain ⟨pts, hemit, hrefines⟩ := exists_of_sptsStreamWrite hrecord hwrite
  have hclock : (ElementaryStream.aac audioPcr).pcr = true ↔
      ClockOn videoPcr audioPcr (ElementaryStream.aac audioPcr).pid :=
    ⟨fun hpcr ↦ .inr ⟨hpcr, rfl⟩, fun hon ↦
      (hon.resolve_left fun hother ↦ absurd hother.2 (show audioPid.toNat ≠ _ by decide)).1⟩
  refine ⟨?_, _, hemit, fun packet hmem ↦ ?_⟩
  · rw [hemit]
    refine ⟨h.pat, h.pmt, h.nullpacket, h.video, fun other hother ↦ ?_⟩
    obtain rfl := Option.some.inj hother
    exact ⟨_, hrefines⟩
  · obtain ⟨content, hcontent, rfl⟩ := List.mem_map.mp hmem
    exact sent_unit (show audioPid.toNat ≠ _ by decide) hclock _ _ _ content hcontent

theorem Running.gopBegin {record : SpTsStream} {counter : ℕ}
    (hrecord : StreamRefines record (.h264 videoPcr) counter) {begun : SpTs W × SpTsStream}
    (hbegin : sptsGopBegin spts record = .ok begun) :
    Running videoPcr audioPcr begun.1 ∧ StreamRefines begun.2 (.h264 videoPcr) counter ∧
      Handed spts begun.1 (gopLead spts) := by
  obtain ⟨audio, haudio, rfl⟩ := exists_of_sptsGopBegin hbegin
  refine ⟨⟨h.pat.ccInc, h.pmt.ccInc, h.nullpacket, h.video, fun other hother ↦ ?_⟩,
    (hrecord.recount _ _).gopEnd, rfl, rfl, rfl⟩
  obtain ⟨after, hrefines⟩ := h.audio audio haudio
  obtain rfl := Option.some.inj hother
  exact ⟨after, hrefines.gopEnd⟩

/-- A call keeps what the next one needs, and what it hands on is sent. -/
theorem Running.writeStep (hok : Spts.writeStep gst spts buffer = .ok next) :
    Running videoPcr audioPcr next ∧ Hands videoPcr audioPcr spts next := by
  cases called_of_writeStep hok with
  | idle => exact ⟨h, [], handed_nil rfl rfl rfl, fun hne ↦ absurd rfl hne, nofun⟩
  | audio haudio hwrite =>
      obtain ⟨counter, hrefines⟩ := h.audio _ haudio
      obtain ⟨hrunning, packets, hemit, hsent⟩ :=
        h.audioWrite hrefines hwrite (spts.pmtTspacket.cells.drop 4)
      have hwritten := handed_of_emit hemit
      refine ⟨hrunning, packets, ⟨hwritten.1, hwritten.2, hwritten.3⟩, fun _ ↦ .inr ?_, hsent⟩
      rw [haudio]
      exact Option.some_ne_none _
  | delta hvideo hwrite =>
      obtain ⟨counter, hrefines⟩ := h.video _ hvideo
      obtain ⟨hrunning, packets, hemit, hsent⟩ :=
        h.videoWrite (hrefines.recount _ _) hwrite (spts.pmtTspacket.cells.drop 4)
      have hwritten := handed_of_emit hemit
      refine ⟨hrunning, packets, ⟨hwritten.1, hwritten.2, hwritten.3⟩, fun _ ↦ .inl ?_, hsent⟩
      rw [hvideo]
      exact Option.some_ne_none _
  | idr hvideo hbegin hwrite =>
      obtain ⟨counter, hrefines⟩ := h.video _ hvideo
      obtain ⟨hmiddle, hbegun, hlead⟩ := h.gopBegin (hrefines.recount _ _) hbegin
      obtain ⟨hrunning, packets, hemit, hsent⟩ :=
        hmiddle.videoWrite hbegun hwrite (spts.pmtTspacket.cells.drop 4)
      have hboth := hlead.trans (handed_of_emit hemit)
      refine ⟨hrunning, _, ⟨hboth.1, hboth.2, hboth.3⟩, fun _ ↦ .inl ?_, fun packet hmem ↦ ?_⟩
      · rw [hvideo]
        exact Option.some_ne_none _
      · rcases List.mem_append.mp hmem with hfront | hunit
        · exact h.sent_gopLead packet hfront
        · exact hsent packet hunit

end Call

/-! ## Calls that fail -/

/-- The fault of a frame on a stream, with the clock or without. -/
def lengthFault (pcr : Bool) (buffer : GstBuffer) : Option Fault :=
  if 2 ^ 32 - (if pcr then 22 else 14) ≤ buffer.data.length then some .outOfBounds else none

/-- The fault of a call, by the streams that there are, each with its flag for the clock.  While
the muxer is idle no packet has been counted. -/
def frameFault (video audio : Option Bool) (idle : Bool) (buffer : GstBuffer) : Option Fault :=
  match buffer.caps with
  | .videoXH264 =>
      match video with
      | none => some .nullPointer
      | some pcr =>
          -- The GOP is begun before the frame is written.
          if buffer.deltaUnit = false ∧ audio = none then some .nullPointer
          else lengthFault pcr buffer
  | .audioMpeg =>
      if idle then none
      else
        match audio with
        | none => some .nullPointer
        | some pcr => lengthFault pcr buffer
  | .other => some .uninitialized

/-- A frame that is packetised fails exactly if its stream does not hold it. -/
theorem errorOf_sptsStreamWrite (gst : UInt64Scale) (spts : SpTs W) {record : SpTsStream}
    {stream : ElementaryStream} {counter : ℕ} (h : StreamRefines record stream counter)
    (buffer : GstBuffer) :
    errorOf (sptsStreamWrite gst spts record buffer) = lengthFault stream.pcr buffer := by
  by_cases hholds : stream.Holds buffer.data
  · obtain ⟨tspacket, -, hwrite⟩ := exists_sptsStreamWrite gst spts h buffer hholds
    rw [hwrite, lengthFault, if_neg (Nat.not_le.mpr hholds)]
    rfl
  · rw [lengthFault, if_pos (Nat.le_of_not_lt hholds)]
    cases hwrite : sptsStreamWrite gst spts record buffer with
    | ok written => exact absurd (holds_of_sptsStreamWrite h hwrite) hholds
    | error fault =>
        rw [(ends_sptsStreamWrite gst spts record buffer).of_error hwrite]
        rfl

/-- The fault of a call follows from the streams and the frame. -/
theorem Running.errorOf_writeStep (gst : UInt64Scale) {videoPcr audioPcr : Bool} {spts : SpTs W}
    (h : Running videoPcr audioPcr spts) (buffer : GstBuffer) :
    errorOf (Spts.writeStep gst spts buffer) =
      frameFault (spts.videoStream.map fun _ ↦ videoPcr) (spts.audioStream.map fun _ ↦ audioPcr)
        (spts.packetsCounter = 0) buffer := by
  rw [Spts.writeStep, errorOf_map]
  unfold sptsWriteFrame frameFault
  cases hcaps : buffer.caps with
  | videoXH264 =>
      dsimp only
      cases hvideo : spts.videoStream with
      | none => rfl
      | some record =>
          obtain ⟨counter, hrefines⟩ := h.video record hvideo
          have hcounted := hrefines.recount (record.framesCounter + 1) record.lastGopFramesCounter
          rw [errorOf_bind_of_ok (deref_some record)]
          dsimp only [Option.map_some]
          cases hdelta : buffer.deltaUnit with
          | true =>
              rw [if_pos rfl, if_neg (by simp), pure_bind, errorOf_bind_of_pure fun _ ↦ rfl]
              exact errorOf_sptsStreamWrite gst spts hcounted buffer
          | false =>
              rw [if_neg Bool.false_ne_true]
              cases haudio : spts.audioStream with
              | none =>
                  rw [sptsGopBegin_of_none haudio]
                  rfl
              | some audio =>
                  rw [if_neg (by simp), errorOf_bind_of_ok (sptsGopBegin_of_some haudio _),
                    errorOf_bind_of_pure fun _ ↦ rfl]
                  exact errorOf_sptsStreamWrite gst _ (hcounted.recount _ _).gopEnd buffer
  | audioMpeg =>
      dsimp only
      by_cases hidle : spts.packetsCounter = 0
      · rw [if_pos hidle, decide_eq_true hidle]
        rfl
      · rw [if_neg hidle, decide_eq_false hidle]
        cases haudio : spts.audioStream with
        | none => rfl
        | some record =>
            obtain ⟨counter, hrefines⟩ := h.audio record haudio
            rw [errorOf_bind_of_ok (deref_some record), errorOf_bind_of_pure fun _ ↦ rfl]
            exact errorOf_sptsStreamWrite gst spts hrefines buffer
  | other => rfl

end SpTsMuxer.Spts
