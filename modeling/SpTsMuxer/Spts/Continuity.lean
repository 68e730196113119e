import SpTsMuxer.Spts.Observation

/-!
# Continuity Counters

Each PID of a program has a counter of its own, which starts at zero and goes up by one with each
packet on that PID.  In the header it is cut to four bits.  The functions that change a header in
place leave the rest of it alone, whatever the packet.
-/

namespace SpTsMuxer.Spts

open Memory Transport Psi Machine

/-! ## Header updates -/

/-- The parts of a header that no update may change. -/
structure HeaderKept (before after : List UInt8) : Prop where
  syncByte : syncByte after = syncByte before
  pid : Transport.pid after = Transport.pid before
  transportErrorIndicator : transportErrorIndicator after = transportErrorIndicator before
  transportPriority : transportPriority after = transportPriority before
  scramblingControl : scramblingControl after = scramblingControl before

/-- The calls that change the header of a packet in place. -/
inductive HeaderUpdate where
  | startUnitIndicator (set : Bool)
  | adaptationFieldControl (adaptation : Bool)
  | ccInc
  deriving DecidableEq

def HeaderUpdate.apply (tspacket : TsPacket) : HeaderUpdate → TsPacket
  | .startUnitIndicator set =>
      sptsTspacketHeaderSetStartUnitIndicator tspacket (if set then 0x40 else 0x00)
  | .adaptationFieldControl adaptation =>
      sptsTspacketHeaderSetAdaptationFieldControl tspacket
        (if adaptation then adaptationFieldAdaptationAndPayload else adaptationFieldPayloadOnly)
  | .ccInc => sptsTspacketHeaderCcInc tspacket

theorem exists_headerCells (tspacket : TsPacket) :
    ∃ sync second third fourth body,
      tspacket.cells = sync :: second :: third :: fourth :: body := by
  have hlength := tspacket.length_cells
  match hcells : tspacket.cells with
  | sync :: second :: third :: fourth :: body => exact ⟨sync, second, third, fourth, body, rfl⟩
  | [] | [_] | [_, _] | [_, _, _] =>
      rw [hcells] at hlength
      simp at hlength

/-- No update disturbs the rest of the header, whatever the packet. -/
theorem headerKept_apply (tspacket : TsPacket) (update : HeaderUpdate) :
    HeaderKept tspacket.cells (update.apply tspacket).cells := by
  have hsecond : ∀ byte < 256, ∀ set : Bool,
      let next := ((UInt8.ofNat byte &&& 0xbf) ||| if set then 0x40 else 0x00).toNat
      next % 32 = byte % 32 ∧ next / 128 % 2 = byte / 128 % 2 ∧ next / 32 % 2 = byte / 32 % 2 := by
    decide +kernel
  have hcontrol : ∀ byte < 256, ∀ adaptation : Bool,
      ((UInt8.ofNat byte &&& 0xcf) ||| if adaptation then adaptationFieldAdaptationAndPayload
        else adaptationFieldPayloadOnly).toNat / 64 = byte / 64 := by
    decide +kernel
  have hcounter : ∀ byte < 256,
      ((UInt8.ofNat byte &&& 0xf0) ||| ((UInt8.ofNat byte + 1) &&& 0x0f)).toNat / 64 =
        byte / 64 := by
    decide +kernel
  obtain ⟨sync, second, third, fourth, body, hcells⟩ := exists_headerCells tspacket
  cases update with
  | startUnitIndicator set =>
      obtain ⟨hpid, herror, hpriority⟩ := hsecond second.toNat second.toNat_lt set
      rw [UInt8.ofNat_toNat] at hpid herror hpriority
      rw [HeaderUpdate.apply, sptsTspacketHeaderSetStartUnitIndicator, Block.update_cells, hcells]
      exact {
        syncByte := rfl
        pid := congrArg (fun high ↦ high * 256 + third.toNat) hpid
        transportErrorIndicator := congrArg (fun bit ↦ bit == 1) herror
        transportPriority := congrArg (fun bit ↦ bit == 1) hpriority
        scramblingControl := rfl }
  | adaptationFieldControl adaptation =>
      have hscrambling := hcontrol fourth.toNat fourth.toNat_lt adaptation
      rw [UInt8.ofNat_toNat] at hscrambling
      rw [HeaderUpdate.apply, sptsTspacketHeaderSetAdaptationFieldControl, Block.update_cells,
        hcells]
      exact ⟨rfl, rfl, rfl, rfl, hscrambling⟩
  | ccInc =>
      have hscrambling := hcounter fourth.toNat fourth.toNat_lt
      rw [UInt8.ofNat_toNat] at hscrambling
      rw [HeaderUpdate.apply, sptsTspacketHeaderCcInc, Block.update_cells, hcells]
      exact ⟨rfl, rfl, rfl, rfl, hscrambling⟩

/-! ## Counters -/

theorem numbers_streamMachine (stream : ElementaryStream) :
    (streamMachine stream).Numbers id Packet.counter where
  outputs counter frame := stream.map_counter_unit counter frame.pts frame.data
  state _ _ := rfl

theorem numbers_tableMachine {table : ℕ → Packet}
    (h : ∀ counter, (table counter).counter = counter) :
    (tableMachine table).Numbers id Packet.counter where
  outputs counter frame := by
    rw [tableMachine]
    by_cases hidr : frame.kind = .idr
    · simp [hidr, h]
    · simp [hidr]
  state counter frame := by
    rw [tableMachine]
    by_cases hidr : frame.kind = .idr
    · simp [hidr]
    · simp [hidr]

/-- The PIDs that carry a table or a stream. -/
def Program.pids (program : Program) : List ℕ := [0, 0x20, program.video.pid, program.audio.pid]

/-- A packet is numbered by the packets before it on its PID. -/
theorem counter_of_getElem? {program : Program} (hseparate : program.Separate) {number : ℕ}
    (hnumber : number ∈ program.pids) {frames : List Frame} {position : ℕ} {packet : Packet}
    (hpacket : (((multiplexer program).run .initial frames).2.filter
      (onPid number))[position]? = some packet) : packet.counter = position := by
  have htable (table : ℕ → Packet) (h : program.HasTable number table) :
      packet.counter = position := by
    rw [(observes_table h).filter_run trivial] at hpacket
    exact ((numbers_tableMachine h.counter).number_of_getElem? hpacket).trans (Nat.zero_add _)
  simp only [Program.pids, List.mem_cons, List.not_mem_nil, or_false] at hnumber
  rcases hnumber with rfl | rfl | rfl | rfl
  · exact htable _ (hasTable_pat hseparate)
  · exact htable _ (hasTable_pmt hseparate)
  · rw [(observes_video hseparate).filter_run trivial] at hpacket
    exact ((numbers_streamMachine _).number_of_getElem? hpacket).trans (Nat.zero_add _)
  · rw [filter_audio_run hseparate] at hpacket
    exact ((numbers_streamMachine _).number_of_getElem? hpacket).trans (Nat.zero_add _)

theorem priority_of_pid {program : Program} {packet : Packet} (h : Emitted program packet)
    (hpid : packet.pid ≠ 0x1fff) : packet.priority = true := by
  cases h with
  | null => exact absurd rfl hpid
  | pat counter => rfl
  | pmt counter => rfl
  | start hstream counter pts data => rfl
  | piece hstream counter data hdata => rfl

/-- Every run over frames of the two kinds succeeds unless a frame is too long. In every successful
run the packets on each PID of the program count from zero modulo 16, with the rest of their headers
intact; and no update of a header disturbs that rest. -/
theorem continuity_counters (gst : UInt64Scale) (results : List TsPacket → Bool) (setup : Setup)
    (videoPcr audioPcr : Bool) :
    (∀ buffers : List GstBuffer, (∀ buffer ∈ buffers, buffer.caps ≠ .other) →
      (∀ buffer ∈ buffers, buffer.data.length < 2 ^ 32 - 22) →
        ∃ packets, writtenPackets gst results setup videoPcr audioPcr buffers = .ok packets) ∧
      (∀ buffers packets, writtenPackets gst results setup videoPcr audioPcr buffers = .ok packets →
        ∀ number ∈ [patPid.toNat, pmtPid.toNat, videoPid.toNat, audioPid.toNat],
          ∀ position packet, (elementary number packets)[position]? = some packet →
            continuityCounter packet = position % 16 ∧ syncByte packet = 0x47 ∧
              transportErrorIndicator packet = false ∧ transportPriority packet = true ∧
              scramblingControl packet = 0) ∧
      ∀ (tspacket : TsPacket) (update : HeaderUpdate),
        HeaderKept tspacket.cells (update.apply tspacket).cells := by
  obtain ⟨program, hcarries⟩ := setup.exists_carriesOut videoPcr audioPcr
  refine ⟨?_, ?_, headerKept_apply⟩
  · intro buffers hcaps hsize
    exact ⟨_, hcarries.written_of_length gst results hcaps hsize⟩
  · intro buffers packets hok number hnumber position raw hraw
    have hpids : number ∈ program.pids := by
      rw [Program.pids, hcarries.video, hcarries.audio]
      exact hnumber
    rw [hcarries.written gst results buffers packets hok, elementary_blocks,
      List.getElem?_map] at hraw
    obtain ⟨packet, hpacket, rfl⟩ := Option.map_eq_some_iff.mp hraw
    obtain ⟨hmem, hpid⟩ := List.mem_filter.mp (List.mem_of_getElem? hpacket)
    have hemitted := emitted_of_mem_run program .initial (buffers.map (GstBuffer.frame gst)) packet
      hmem
    have hnull : packet.pid ≠ 0x1fff := by
      rw [of_decide_eq_true hpid]
      rintro rfl
      exact absurd hnumber (by decide)
    have hcounter := counter_of_getElem? hcarries.separate hpids hpacket
    rw [Packet.continuityCounter_encode, Packet.syncByte_encode,
      Packet.transportErrorIndicator_encode, Packet.transportPriority_encode,
      Packet.scramblingControl_encode, hcounter]
    exact ⟨rfl, rfl, rfl, priority_of_pid hemitted hnull, rfl⟩

end SpTsMuxer.Spts
