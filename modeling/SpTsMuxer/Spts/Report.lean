import SpTsMuxer.Spts.Calls
import SpTsMuxer.Spts.Observation

/-!
# Failures of the Write Function

A write function answers every packet with `TRUE` or `FALSE`.  None of the places that hand on a
packet looks at the answer: the call returns `TRUE` in any case, and each packet is counted.  So the
result and the count are right exactly in the calls in which the write function does not fail.
-/

namespace SpTsMuxer.Spts

open Memory Machine

/-- Packets, each with the answer of the write function. -/
abbrev AnswerLog := List (TsPacket × Bool)

/-- A write function that keeps the packets with its answers.  What it answers may depend on the
packet and on everything before it. -/
def reporter (results : AnswerLog → TsPacket → Bool) (log : AnswerLog) (packet : TsPacket) :
    Bool × AnswerLog :=
  let answer := results log packet
  (answer, log ++ [(packet, answer)])

/-- The calls of the write function between two states. -/
def callsBetween (spts next : SpTs AnswerLog) : AnswerLog :=
  next.writeFuncData.drop spts.writeFuncData.length

/-- The write function has not failed. -/
def AllWritten (calls : AnswerLog) : Prop := ∀ call ∈ calls, call.2 = true

/-- The result says whether all calls of the write function were successful, and the successful
ones are counted. -/
structure ReportsFailures (spts next : SpTs AnswerLog) (result : Bool) : Prop where
  result : result = true ↔ AllWritten (callsBetween spts next)
  packetsCounter : next.packetsCounter =
    spts.packetsCounter + UInt64.ofNat ((callsBetween spts next).countP Prod.snd)

/-- The write function is called once for each packet, in order. -/
theorem exists_foldl_reporter (results : AnswerLog → TsPacket → Bool) (log : AnswerLog)
    (packets : List TsPacket) :
    ∃ calls, calls.map Prod.fst = packets ∧
      packets.foldl (fun data packet ↦ (reporter results data packet).2) log = log ++ calls := by
  induction packets generalizing log with
  | nil => exact ⟨[], rfl, (List.append_nil log).symm⟩
  | cons packet rest ih =>
      obtain ⟨calls, hcalls, hlog⟩ := ih (reporter results log packet).2
      refine ⟨(packet, results log packet) :: calls, ?_, ?_⟩
      · rw [List.map_cons, hcalls]
      · rw [List.foldl_cons, hlog]
        exact List.append_assoc log [_] calls

section Call

variable {gst : UInt64Scale} {results : AnswerLog → TsPacket → Bool} {spts next : SpTs AnswerLog}
  (hfunc : spts.writeFunc = reporter results) {buffer : GstBuffer} {result : Bool}
  (hok : sptsWriteFrame gst spts buffer = .ok (result, next))
include hok

/-- The answers never reach the result. -/
theorem result_eq_true : result = true :=
  ((ends_sptsWriteFrame gst spts buffer).of_ok hok).1

include hfunc

theorem packetsCounter_callsBetween :
    next.writeFuncData = spts.writeFuncData ++ callsBetween spts next ∧
      next.packetsCounter =
        spts.packetsCounter + UInt64.ofNat (callsBetween spts next).length := by
  obtain ⟨-, ⟨-, -, hkept⟩ | ⟨packets, -, hwritten⟩⟩ :=
    (ends_sptsWriteFrame gst spts buffer).of_ok hok
  · obtain rfl : next = spts := hkept
    have hnone : callsBetween next next = [] := List.drop_length
    rw [hnone, List.append_nil]
    exact ⟨rfl, (UInt64.add_zero _).symm⟩
  · obtain ⟨calls, hcalls, hlog⟩ := exists_foldl_reporter results spts.writeFuncData packets
    have hdata : next.writeFuncData = spts.writeFuncData ++ calls := by
      rw [hwritten.writeFuncData, ← hlog, ← hfunc]
      rfl
    have hbetween : callsBetween spts next = calls := by
      rw [callsBetween, hdata, List.drop_left]
    have hlength : calls.length = packets.length := by rw [← hcalls, List.length_map]
    rw [hbetween, hlength]
    exact ⟨hdata, hwritten.packetsCounter⟩

/-- A call reports failures of the write function, and does not count them, exactly if there are
none. -/
theorem reportsFailures_iff :
    ReportsFailures spts next result ↔ AllWritten (callsBetween spts next) := by
  obtain ⟨-, hcounter⟩ := packetsCounter_callsBetween hfunc hok
  have hresult := result_eq_true hok
  refine ⟨fun h ↦ h.result.mp hresult, fun hall ↦ ⟨iff_of_true hresult hall, ?_⟩⟩
  rw [List.countP_eq_length.mpr hall]
  exact hcounter

end Call

/-! ## A write function that always gives one answer -/

theorem foldl_reporter_constant (answer : Bool) (log : AnswerLog) (packets : List TsPacket) :
    packets.foldl (fun data packet ↦ (reporter (fun _ _ ↦ answer) data packet).2) log =
      log ++ packets.map fun packet ↦ (packet, answer) := by
  induction packets generalizing log with
  | nil => exact (List.append_nil log).symm
  | cons packet rest ih =>
      rw [List.foldl_cons, ih]
      exact List.append_assoc log [_] _

theorem exists_first_frame (answer : Bool) :
    ∃ spts next, plainSetup.run (reporter fun _ _ ↦ answer) [] true false = .ok spts ∧
      spts.writeFunc = reporter (fun _ _ ↦ answer) ∧
      sptsWriteFrame gstUtilUint64Scale spts ⟨.videoXH264, false, 0, [1, 2, 3], by decide⟩ =
        .ok (true, next) ∧
      ∃ first rest, callsBetween spts next = (first, answer) :: rest ∧
        ∀ call ∈ rest, call.2 = answer := by
  obtain ⟨program, -, -, -, -, hrun⟩ := plainSetup.exists_run true false
  obtain ⟨spts, hspts, hfunc, hdata, hrefines⟩ := hrun (reporter fun _ _ ↦ answer) []
  have haccepts : Accepts program .initial ⟨.videoXH264, false, 0, [1, 2, 3], by decide⟩ :=
    (fits_of_length program (by decide) (by decide)).accepts .initial
  obtain ⟨next, hnext, -⟩ := exists_sptsWriteFrame gstUtilUint64Scale hrefines haccepts
  refine ⟨spts, next, hspts, hfunc, hnext, ?_⟩
  obtain ⟨-, ⟨haudio, -⟩ | ⟨packets, hne, hwritten⟩⟩ := (ends_sptsWriteFrame _ _ _).of_ok hnext
  · cases haudio
  · obtain ⟨first, rest, rfl⟩ := List.exists_cons_of_ne_nil hne
    refine ⟨first, rest.map fun packet ↦ (packet, answer), ?_, ?_⟩
    · rw [callsBetween, hwritten.writeFuncData, SpTs.emit, hfunc, hdata]
      dsimp only
      rw [foldl_reporter_constant]
      rfl
    · intro call hmem
      obtain ⟨packet, -, rfl⟩ := List.mem_map.mp hmem
      rfl

/-- A write function that always succeeds. -/
theorem reportsFailures_iff_all_written :
    ∃ spts next, plainSetup.run (reporter fun _ _ ↦ true) [] true false = .ok spts ∧
      sptsWriteFrame gstUtilUint64Scale spts ⟨.videoXH264, false, 0, [1, 2, 3], by decide⟩ =
        .ok (true, next) ∧
      ReportsFailures spts next true := by
  obtain ⟨spts, next, hspts, hfunc, hnext, first, rest, hcalls, hrest⟩ := exists_first_frame true
  refine ⟨spts, next, hspts, hnext, (reportsFailures_iff hfunc hnext).mpr ?_⟩
  intro call hmem
  rw [hcalls] at hmem
  rcases List.mem_cons.mp hmem with rfl | htail
  · rfl
  · exact hrest call htail

/-- A write function that always fails. -/
theorem not_reportsFailures_none_written :
    ∃ spts next, plainSetup.run (reporter fun _ _ ↦ false) [] true false = .ok spts ∧
      sptsWriteFrame gstUtilUint64Scale spts ⟨.videoXH264, false, 0, [1, 2, 3], by decide⟩ =
        .ok (true, next) ∧
      ¬ReportsFailures spts next true := by
  obtain ⟨spts, next, hspts, -, hnext, first, rest, hcalls, -⟩ := exists_first_frame false
  refine ⟨spts, next, hspts, hnext, fun h ↦ ?_⟩
  have hall := h.result.mp rfl (first, false) (by rw [hcalls]; exact List.mem_cons_self)
  cases hall

end SpTsMuxer.Spts
