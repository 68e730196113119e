import SpTsMuxer.Muxer.Faults

/-!
# The Clock of a Run

The first collection chooses the stream of the clock among the pads requested so far, and announces
its PID in the PMT.  Pads that are requested later change neither: a video pad that comes after the
choice of the audio stream gets no clock.  But a second pad of the chosen kind puts a new stream in
the place of the old one, and from then on no clock reference is sent.
-/

namespace SpTsMuxer.Muxer

open Memory Transport Machine Psi Spts

/-- Pads are requested at any time, and the collector is called with any buffers. Whatever event
comes next, the packets that it sends are well formed; one of them carries a clock reference exactly
if it begins a frame on the PID that the first collection chose and no other pad of that kind has
been requested since; and every PMT announces this PID. -/
theorem one_clock (gst : UInt64Scale) (results : List TsPacket → Bool)
    {muxer middle next : SpTsMuxer (List TsPacket)}
    (hmuxer : sptsmuxerInit (recorder results) [] = .ok muxer) {events : List MuxerEvent}
    (hrun : events.foldlM (MuxerEvent.step gst) muxer = .ok middle) {event : MuxerEvent}
    (hevent : event.step gst middle = .ok next) :
    ∃ packets, next.spts.writeFuncData = middle.spts.writeFuncData ++ packets ∧
      ∀ packet ∈ packets, (∃ content : Packet, packet = content.block) ∧
        (programClockReference packet.cells ≠ none ↔
          payloadUnitStartIndicator packet.cells = true ∧
            ∃ templ, HasClock events templ ∧ pid packet.cells = templ.streamPid) ∧
        (pid packet.cells = pmtPid.toNat → ∃ map,
          readProgramMap (payload packet.cells) = some map ∧ map.pcrPid = clockPid events) := by
  have hfunc := (packetsCounter_of_run hmuxer hrun).1
  obtain ⟨-, packets, hhanded, hpackets⟩ := (exists_runState hmuxer hrun).1.step hevent
  refine ⟨packets, ?_, fun packet hmem ↦ ?_⟩
  · rw [hhanded.writeFuncData, SpTs.emit, hfunc]
    exact foldl_recorder_packets results _ packets
  · obtain ⟨content, rfl, hclock, hpmt⟩ := hpackets packet hmem
    simp only [Packet.block_cells, Packet.programClockReference_encode,
      Packet.payloadUnitStartIndicator_encode, Packet.pid_encode, Packet.payload_encode]
    exact ⟨⟨content, rfl⟩, hclock, hpmt⟩

/-- An audio pad, a collection, a video pad, and an IDR frame. -/
theorem one_clock_audio_first :
    ∃ muxer middle next, sptsmuxerInit (recorder fun _ ↦ true) [] = .ok muxer ∧
      [.request .audio, .collected [], .request .video].foldlM
        (MuxerEvent.step gstUtilUint64Scale) muxer = .ok middle ∧
      (MuxerEvent.collected [[idrFrame]]).step gstUtilUint64Scale middle = .ok next ∧
      ∃ packets, next.spts.writeFuncData = middle.spts.writeFuncData ++ packets ∧
        ∀ packet ∈ packets, pid packet.cells = pmtPid.toNat →
          ∃ map, readProgramMap (payload packet.cells) = some map ∧
            map.pcrPid = audioPid.toNat := by
  obtain ⟨muxer, middle, next, hmuxer, hrun, hevent, -⟩ := exists_audio_first_run
  obtain ⟨packets, hdata, hpackets⟩ := one_clock gstUtilUint64Scale _ hmuxer hrun hevent
  exact ⟨muxer, middle, next, hmuxer, hrun, hevent, packets, hdata,
    fun packet hmem ↦ (hpackets packet hmem).2.2⟩

end SpTsMuxer.Muxer
