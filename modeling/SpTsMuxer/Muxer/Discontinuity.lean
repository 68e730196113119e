import SpTsMuxer.Muxer.Faults

/-!
# Discontinuities of a Run

A request puts a new stream in the place of the one of its kind, and the counter of the PID begins
anew at 0.  No other event touches a counter, so on each PID the packets since the last such request
are numbered one after the other, and those of the tables since the start.

To a receiver the counters of a PID look unbroken exactly if at each request of its kind the number
of packets sent before on the PID is divisible by 16, or none is sent after.
-/

namespace SpTsMuxer.Muxer

open Memory Transport Machine Psi Spts

variable {W : Type}

/-- The PID whose stream the event replaces. -/
def MuxerEvent.restarted : MuxerEvent → Option ℕ
  | .request .video => some videoPid.toNat
  | .request .audio => some audioPid.toNat
  | .request .unknown => none
  | .collected _ => none

/-! ## One event -/

section Event

variable {gst : UInt64Scale} {history : List MuxerEvent} {numbers : ℕ → ℕ}
  {muxer next : SpTsMuxer W}

theorem RunState.counting_requestPad (h : RunState history muxer)
    (hcounting : Counting numbers muxer.spts) {templ : PadTemplate}
    (hok : MuxerEvent.step gst muxer (.request templ) = .ok next) :
    Handed muxer.spts next.spts [] ∧ ∃ after, Counting after next.spts ∧
      ∀ number, after number =
        if (MuxerEvent.request templ).restarted = some number then 0 else numbers number := by
  obtain ⟨video, audio, hvideo, haudio, hvideoRefines, haudioRefines⟩ := exists_streams
  obtain ⟨ops, hannounced, -⟩ := h.announced
  have hheader := (hannounced.header_requestPad hok).2
  have hadded := (hannounced.requestPad hok).2
  refine ⟨hadded.handed, ?_⟩
  change PadAdded _ templ _ at hadded
  generalize next.spts = after at hadded hheader ⊢
  cases hadded with
  | @video record pmt hnew =>
      obtain rfl := Except.ok.inj (hvideo.symm.trans hnew)
      have hrefines := hvideoRefines false
      have hfresh : StreamRefines video (.h264 false) 0 := ⟨hrefines.tspacket,
        pcrReference_of_sptsStreamNew hnew, hrefines.info, hrefines.packetsCounter⟩
      refine ⟨_, hcounting.setVideo hfresh rfl rfl rfl rfl hheader, fun number ↦ ?_⟩
      simp only [Function.update_apply, MuxerEvent.restarted, Option.some.injEq, eq_comm]
  | @audio record pmt hnew =>
      obtain rfl := Except.ok.inj (haudio.symm.trans hnew)
      have hrefines := haudioRefines false
      have hfresh : StreamRefines audio (.aac false) 0 := ⟨hrefines.tspacket,
        pcrReference_of_sptsStreamNew hnew, hrefines.info, hrefines.packetsCounter⟩
      refine ⟨_, hcounting.setAudio hfresh rfl rfl rfl rfl hheader, fun number ↦ ?_⟩
      simp only [Function.update_apply, MuxerEvent.restarted, Option.some.injEq, eq_comm]
  | unknown => exact ⟨numbers, hcounting, fun number ↦ rfl⟩

theorem counting_of_clockSet {spts after : SpTs W} (hcounting : Counting numbers spts)
    (hclock : ClockSet spts after)
    (hheader : after.pmtTspacket.cells.take 4 = spts.pmtTspacket.cells.take 4) :
    Counting numbers after := by
  cases hclock with
  | @video record pmt hvideo =>
      obtain ⟨pcr, hrefines⟩ := hcounting.video record hvideo
      rw [← Function.update_eq_self videoPid.toNat numbers]
      exact hcounting.setVideo (hrefines.setPcr true) rfl rfl rfl rfl hheader
  | @audio record pmt hnone haudio =>
      obtain ⟨pcr, hrefines⟩ := hcounting.audio record haudio
      rw [← Function.update_eq_self audioPid.toNat numbers]
      exact hcounting.setAudio (hrefines.setPcr true) rfl rfl rfl rfl hheader
  | none hvideo haudio => exact hcounting

theorem RunState.counting_firstCollection (h : RunState history muxer)
    (hcounting : Counting numbers muxer.spts) {collect : List CollectPad} {start : SpTsMuxer W}
    (hok : firstCollection { muxer with collect := collect } = .ok start) :
    Counting numbers start.spts := by
  rcases h with hbefore | ⟨-, hafter⟩
  · have hannounces := hbefore.announced.announces
    obtain ⟨spts, hspts, hclock, -⟩ :=
      exists_pcrReferenceSet hannounces hbefore.announced.fits
    have hheader := header_pcrReferenceSet hannounces hbefore.announced.fits hspts
    unfold firstCollection at hok
    rw [if_pos (show ({ muxer with collect := collect } : SpTsMuxer W).first = true from
      hbefore.first), hspts] at hok
    obtain rfl := Except.ok.inj hok
    exact counting_of_clockSet hcounting hclock hheader
  · rw [firstCollection_later (show ({ muxer with collect := collect } : SpTsMuxer W).first = false
      from hafter.first)] at hok
    obtain rfl := Except.ok.inj hok
    exact hcounting

theorem RunState.counting_collected (h : RunState history muxer)
    (hcounting : Counting numbers muxer.spts) {collect : List CollectPad}
    (hok : MuxerEvent.step gst muxer (.collected collect) = .ok next) :
    ∃ packets after, Handed muxer.spts next.spts packets ∧ Advances numbers packets after ∧
      Counting after next.spts := by
  obtain ⟨start, hstart, hend⟩ := sptsmuxerCollected_cases hok
  obtain ⟨found, hfound, -, hhanded⟩ := h.exists_firstCollection collect
  obtain rfl := Except.ok.inj (hfound.symm.trans hstart)
  have hbegun := h.counting_firstCollection hcounting hstart
  rcases hend with rfl | ⟨buffer, rest, spts, hwrite, rfl⟩
  · exact ⟨[], numbers, hhanded, advances_nil numbers, hbegun⟩
  · obtain ⟨packets, after, hwritten, hadvances, hnext⟩ := hbegun.writeStep hwrite
    exact ⟨packets, after, hhanded.trans hwritten, hadvances, hnext⟩

end Event

/-! ## Runs -/

section Runs

variable {results : List TsPacket → Bool}

/-- The packets on a PID that the recorder has. -/
def sentOn (number : ℕ) (muxer : SpTsMuxer (List TsPacket)) : List (List UInt8) :=
  elementary number muxer.spts.writeFuncData

/-- The muxer has come here in some run, and the next packet on the PID gets this number. -/
def NextNumber (results : List TsPacket → Bool) (number : ℕ)
    (muxer : SpTsMuxer (List TsPacket)) (count : ℕ) : Prop :=
  muxer.spts.writeFunc = recorder results ∧ ∃ history numbers, RunState history muxer ∧
    Counting numbers muxer.spts ∧ numbers number = count

theorem sentOn_of_handed {muxer next : SpTsMuxer (List TsPacket)} {packets : List TsPacket}
    (hfunc : muxer.spts.writeFunc = recorder results)
    (hhanded : Handed muxer.spts next.spts packets) (number : ℕ) :
    sentOn number next = sentOn number muxer ++ elementary number packets := by
  have hdata : next.spts.writeFuncData = muxer.spts.writeFuncData ++ packets := by
    rw [hhanded.writeFuncData, SpTs.emit, hfunc]
    exact foldl_recorder_packets results _ packets
  rw [sentOn, hdata, elementary_append]
  rfl

/-- A muxer numbers the packets of a PID, and requests of its kind let the numbers begin anew. -/
theorem renumbers_muxer (gst : UInt64Scale) (results : List TsPacket → Bool) {number : ℕ}
    (hnumber : number ≠ nullPacket.pid) :
    Renumbers (MuxerEvent.step gst) (sentOn number)
      (fun event ↦ event.restarted = some number) (NextNumber results number) where
  restart := by
    rintro muxer event next count ⟨hfunc, history, numbers, hstate, hcounting, -⟩ hrestarts hok
    cases event with
    | collected collect => cases hrestarts
    | request templ =>
        obtain ⟨hhanded, after, hafter, hvalue⟩ := hstate.counting_requestPad hcounting hok
        have hsent := sentOn_of_handed hfunc hhanded number
        refine ⟨hsent.trans (List.append_nil _), hhanded.writeFunc.trans hfunc, _, after,
          (hstate.step hok).1, hafter, ?_⟩
        rw [hvalue, if_pos hrestarts]
  send := by
    rintro muxer event next count ⟨hfunc, history, numbers, hstate, hcounting, rfl⟩ hkept hok
    cases event with
    | collected collect =>
        obtain ⟨packets, after, hhanded, hadvances, hafter⟩ :=
          hstate.counting_collected hcounting hok
        exact ⟨_, sentOn_of_handed hfunc hhanded number, hadvances.counted number hnumber,
          hhanded.writeFunc.trans hfunc, _, after, (hstate.step hok).1, hafter,
          hadvances.after number hnumber⟩
    | request templ =>
        obtain ⟨hhanded, after, hafter, hvalue⟩ := hstate.counting_requestPad hcounting hok
        refine ⟨[], sentOn_of_handed hfunc hhanded number, nofun,
          hhanded.writeFunc.trans hfunc, _, after, (hstate.step hok).1, hafter, ?_⟩
        rw [hvalue, if_neg hkept]
        rfl

theorem nextNumber_sptsmuxerInit {muxer : SpTsMuxer (List TsPacket)}
    (hmuxer : sptsmuxerInit (recorder results) [] = .ok muxer) (number : ℕ) :
    NextNumber results number muxer 0 ∧ sentOn number muxer = [] := by
  obtain ⟨new, hnew, -, hfunc, hdata, -⟩ := exists_sptsmuxerInit (recorder results) []
  obtain rfl := Except.ok.inj (hnew.symm.trans hmuxer)
  refine ⟨⟨hfunc, [], _, runState_sptsmuxerInit hmuxer, counting_sptsmuxerInit hmuxer, rfl⟩, ?_⟩
  rw [sentOn, hdata]
  rfl

end Runs

/-! ## Main result -/

/-- Pads are requested at any time, and the collector is called with any buffers. On each PID the
packets that are sent after a request of its kind, up to the next one, are numbered from 0, and so
are all packets on a PID without requests. All packets on a PID look unbroken to a receiver exactly
if at each request of its kind the number of packets sent before is divisible by 16, or none is sent
after. -/
theorem counters_since_request (gst : UInt64Scale) (results : List TsPacket → Bool)
    {muxer final : SpTsMuxer (List TsPacket)}
    (hmuxer : sptsmuxerInit (recorder results) [] = .ok muxer) {events : List MuxerEvent}
    (hrun : events.foldlM (MuxerEvent.step gst) muxer = .ok final) {number : ℕ}
    (hnumber : number ≠ nullPacket.pid) :
    (∀ before after middle, events = before ++ after →
      before.foldlM (MuxerEvent.step gst) muxer = .ok middle →
      (∀ event ∈ before.getLast?, event.restarted = some number) →
      (∀ event ∈ after, event.restarted ≠ some number) →
        ∃ packets, sentOn number final = sentOn number middle ++ packets ∧ Counted 0 packets) ∧
      (Counted 0 (sentOn number final) ↔
        AtEach (MuxerEvent.step gst) muxer events fun middle event ↦
          event.restarted = some number →
            16 ∣ (sentOn number middle).length ∨ sentOn number final = sentOn number middle) := by
  have hnumbers := renumbers_muxer gst results hnumber
  obtain ⟨hstart, hempty⟩ := nextNumber_sptsmuxerInit hmuxer number
  refine ⟨?_, ?_⟩
  · rintro before after middle rfl hmiddle hlast hkept
    obtain ⟨found, hfound, hafter⟩ := foldlM_append_eq_ok.mp hrun
    obtain rfl := Except.ok.inj (hfound.symm.trans hmiddle)
    refine hnumbers.counted_of_kept ?_ hafter hkept
    -- The last event before has put the number back, unless there is none.
    induction before using List.reverseRecOn with
    | nil =>
        obtain rfl := Except.ok.inj hmiddle
        exact hstart
    | append_singleton earlier event _ =>
        obtain ⟨state, hstate, hevent⟩ := foldlM_concat_eq_ok.mp hmiddle
        obtain ⟨⟨count, hcount⟩, -⟩ := hnumbers.exists_sent hstart hstate
        refine (hnumbers.restart state event found count hcount ?_ hevent).2
        exact hlast event (by rw [List.getLast?_concat]; rfl)
  · rw [hnumbers.counted_iff hstart hrun (by rw [hempty, List.nil_append]), hempty]
    simp only [List.length_nil, Nat.add_zero, Nat.zero_mod, Nat.dvd_iff_mod_eq_zero]

/-- The video pad comes late, and its first frame is numbered from 0. -/
theorem counters_since_request_late_video :
    ∃ muxer final, sptsmuxerInit (recorder fun _ ↦ true) [] = .ok muxer ∧
      [.request .audio, .collected [], .request .video, .collected [[idrFrame]]].foldlM
        (MuxerEvent.step gstUtilUint64Scale) muxer = .ok final ∧
      Counted 0 (sentOn videoPid.toNat final) := by
  obtain ⟨muxer, middle, final, hmuxer, hbefore, hevent, hempty⟩ := exists_audio_first_run
  have hrun := foldlM_concat_eq_ok.mpr ⟨middle, hbefore, hevent⟩
  obtain ⟨packets, hsent, hcounted⟩ :=
    (counters_since_request gstUtilUint64Scale _ hmuxer hrun
      (show videoPid.toNat ≠ nullPacket.pid by decide)).1 _ _ middle rfl hbefore
      (by rintro event ⟨⟩; rfl) (by simp [MuxerEvent.restarted])
  refine ⟨muxer, final, hmuxer, hrun, ?_⟩
  rw [hsent, sentOn, hempty]
  exact hcounted

end SpTsMuxer.Muxer
