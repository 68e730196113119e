import SpTsMuxer.Spts.Observation
import SpTsMuxer.Spts.Running
import SpTsMuxer.Transport.Renumbering

/-!
# Counters in a Partial Program

Each PID has a next continuity counter.  It is in the packet object of a table or of a stream, also
while there is one stream or none.  A call that succeeds numbers its packets on each PID from the
next counter on, and leaves the counter behind them in the object.  The null packets are the
exception: they are not numbered.
-/

namespace SpTsMuxer.Spts

open Memory Transport Machine

variable {W : Type}

/-! ## Numbered packets -/

theorem elementary_append (number : ℕ) (packets more : List TsPacket) :
    elementary number (packets ++ more) = elementary number packets ++ elementary number more := by
  simp [elementary]

theorem elementary_of_pid {number : ℕ} {packets : List TsPacket}
    (h : ∀ packet ∈ packets, pid packet.cells = number) (other : ℕ) :
    elementary other packets = if other = number then packets.map Block.cells else [] := by
  split_ifs with hother
  · refine List.filter_eq_self.mpr fun cells hmem ↦ ?_
    obtain ⟨packet, hpacket, rfl⟩ := List.mem_map.mp hmem
    rw [decide_eq_true_iff, h packet hpacket, hother]
  · refine List.filter_eq_nil_iff.mpr fun cells hmem ↦ ?_
    obtain ⟨packet, hpacket, rfl⟩ := List.mem_map.mp hmem
    rw [decide_eq_true_iff, h packet hpacket]
    exact Ne.symm hother

/-- The packets are numbered on each PID but that of the null packets, from the one counter up to
the other. -/
structure Advances (numbers : ℕ → ℕ) (packets : List TsPacket) (after : ℕ → ℕ) : Prop where
  counted : ∀ number, number ≠ nullPacket.pid →
    Counted (numbers number) (elementary number packets)
  after : ∀ number, number ≠ nullPacket.pid →
    after number = numbers number + (elementary number packets).length

theorem advances_nil (numbers : ℕ → ℕ) : Advances numbers [] numbers :=
  ⟨fun _ _ ↦ nofun, fun _ _ ↦ rfl⟩

theorem Advances.trans {numbers middle after : ℕ → ℕ} {packets more : List TsPacket}
    (h : Advances numbers packets middle) (hmore : Advances middle more after) :
    Advances numbers (packets ++ more) after where
  counted number hnumber := by
    rw [elementary_append, counted_append, ← h.after number hnumber]
    exact ⟨h.counted number hnumber, hmore.counted number hnumber⟩
  after number hnumber := by
    rw [elementary_append, List.length_append, ← Nat.add_assoc, ← h.after number hnumber]
    exact hmore.after number hnumber

theorem advances_null (numbers : ℕ → ℕ) (count : ℕ) :
    Advances numbers (List.replicate count nullPacket.block) numbers := by
  have hpids : ∀ packet ∈ List.replicate count nullPacket.block,
      pid packet.cells = nullPacket.pid := by
    intro packet hmem
    rw [List.eq_of_mem_replicate hmem]
    exact nullPacket.pid_encode
  have hempty (number : ℕ) (hnumber : number ≠ nullPacket.pid) :
      elementary number (List.replicate count nullPacket.block) = [] := by
    rw [elementary_of_pid hpids, if_neg hnumber]
  refine ⟨fun number hnumber ↦ ?_, fun number hnumber ↦ ?_⟩
  · rw [hempty number hnumber]
    nofun
  · rw [hempty number hnumber]
    rfl

theorem advances_of_pid {numbers : ℕ → ℕ} {number : ℕ} {packets : List TsPacket}
    (hpid : ∀ packet ∈ packets, pid packet.cells = number)
    (hcounted : Counted (numbers number) (packets.map Block.cells)) :
    Advances numbers packets
      (Function.update numbers number (numbers number + packets.length)) := by
  refine ⟨fun other _ ↦ ?_, fun other _ ↦ ?_⟩
  · rw [elementary_of_pid hpid]
    split_ifs with hother
    · rw [hother]
      exact hcounted
    · nofun
  · rw [elementary_of_pid hpid]
    split_ifs with hother
    · rw [hother, Function.update_self, List.length_map]
    · rw [Function.update_of_ne hother]
      rfl

theorem advances_table {numbers : ℕ → ℕ} {number : ℕ} {tspacket : TsPacket}
    {payload : List UInt8} (hnumber : number < 8192)
    (hcells : tspacket.cells = header true true number 1 (numbers number) ++ payload) :
    Advances numbers [tspacket] (Function.update numbers number (numbers number + 1)) := by
  refine advances_of_pid (fun packet hmem ↦ ?_) fun position packet hpacket ↦ ?_
  · rw [List.mem_singleton.mp hmem, hcells, pid_header _ _ _ _ _ _ hnumber]
  · cases position with
    | zero =>
        obtain rfl := Option.some.inj hpacket
        rw [hcells, continuityCounter_header _ _ _ _ _ _ (by omega), Nat.add_zero]
    | succ position => cases hpacket

theorem advances_unit {numbers : ℕ → ℕ} (stream : ElementaryStream) (pts : ℕ)
    (data : List UInt8) :
    let unit := stream.unit (numbers stream.pid) pts data
    Advances numbers (unit.map Packet.block)
      (Function.update numbers stream.pid (numbers stream.pid + unit.length)) := by
  intro unit
  have hlength : unit.length = (unit.map Packet.block).length := (List.length_map _).symm
  rw [hlength]
  refine advances_of_pid (fun packet hmem ↦ ?_) fun position packet hpacket ↦ ?_
  · obtain ⟨content, hcontent, rfl⟩ := List.mem_map.mp hmem
    exact content.pid_encode.trans (stream.unit_pid _ _ _ content hcontent)
  · rw [List.map_map, List.getElem?_map] at hpacket
    obtain ⟨content, hcontent, rfl⟩ := Option.map_eq_some_iff.mp hpacket
    have hcounter : (unit.map Packet.counter)[position]? = some content.counter := by
      rw [List.getElem?_map, hcontent]
      rfl
    obtain ⟨hposition, -⟩ := List.getElem?_eq_some_iff.mp hcontent
    rw [stream.map_counter_unit, List.getElem?_range' hposition, Nat.one_mul] at hcounter
    rw [Option.some.inj hcounter]
    exact content.continuityCounter_encode

/-! ## The next counters of a program -/

/-- The objects hold the next counters of their PIDs. -/
structure Counting (numbers : ℕ → ℕ) (spts : SpTs W) : Prop where
  pat : ∃ payload, spts.pat.cells = header true true 0 1 (numbers 0) ++ payload
  pmt : ∃ payload, spts.pmtTspacket.cells =
    header true true pmtPid.toNat 1 (numbers pmtPid.toNat) ++ payload
  nullpacket : spts.nullpacket = nullPacket.block
  video : ∀ record, spts.videoStream = some record →
    ∃ pcr, StreamRefines record (.h264 pcr) (numbers videoPid.toNat)
  audio : ∀ record, spts.audioStream = some record →
    ∃ pcr, StreamRefines record (.aac pcr) (numbers audioPid.toNat)

section Call

variable {gst : UInt64Scale} {numbers : ℕ → ℕ} {spts next : SpTs W} {buffer : GstBuffer}
  (h : Counting numbers spts)
include h

theorem Counting.pmt_of_take (hheader :
    next.pmtTspacket.cells.take 4 = spts.pmtTspacket.cells.take 4) : ∃ payload,
      next.pmtTspacket.cells =
        header true true pmtPid.toNat 1 (numbers pmtPid.toNat) ++ payload := by
  obtain ⟨payload, hcells⟩ := h.pmt
  refine ⟨next.pmtTspacket.cells.drop 4, ?_⟩
  rw [hcells, List.take_left' (length_header _ _ _ _ _)] at hheader
  rw [← hheader, List.take_append_drop]

theorem Counting.setVideo {record : SpTsStream} {pcr : Bool} {counter : ℕ}
    (hrefines : StreamRefines record (.h264 pcr) counter)
    (hvideo : next.videoStream = some record) (haudio : next.audioStream = spts.audioStream)
    (hpat : next.pat = spts.pat) (hnull : next.nullpacket = spts.nullpacket)
    (hheader : next.pmtTspacket.cells.take 4 = spts.pmtTspacket.cells.take 4) :
    Counting (Function.update numbers videoPid.toNat counter) next := by
  refine ⟨?_, ?_, hnull.trans h.nullpacket, fun other hother ↦ ⟨pcr, ?_⟩, ?_⟩
  · rw [Function.update_of_ne (show 0 ≠ videoPid.toNat by decide), hpat]
    exact h.pat
  · rw [Function.update_of_ne (show pmtPid.toNat ≠ videoPid.toNat by decide)]
    exact h.pmt_of_take hheader
  · obtain rfl := Option.some.inj (hvideo.symm.trans hother)
    rw [Function.update_self]
    exact hrefines
  · rw [Function.update_of_ne (show audioPid.toNat ≠ videoPid.toNat by decide), haudio]
    exact h.audio

theorem Counting.setAudio {record : SpTsStream} {pcr : Bool} {counter : ℕ}
    (hrefines : StreamRefines record (.aac pcr) counter)
    (haudio : next.audioStream = some record) (hvideo : next.videoStream = spts.videoStream)
    (hpat : next.pat = spts.pat) (hnull : next.nullpacket = spts.nullpacket)
    (hheader : next.pmtTspacket.cells.take 4 = spts.pmtTspacket.cells.take 4) :
    Counting (Function.update numbers audioPid.toNat counter) next := by
  refine ⟨?_, ?_, hnull.trans h.nullpacket, ?_, fun other hother ↦ ⟨pcr, ?_⟩⟩
  · rw [Function.update_of_ne (show 0 ≠ audioPid.toNat by decide), hpat]
    exact h.pat
  · rw [Function.update_of_ne (show pmtPid.toNat ≠ audioPid.toNat by decide)]
    exact h.pmt_of_take hheader
  · rw [Function.update_of_ne (show videoPid.toNat ≠ audioPid.toNat by decide), hvideo]
    exact h.video
  · obtain rfl := Option.some.inj (haudio.symm.trans hother)
    rw [Function.update_self]
    exact hrefines

theorem Counting.videoWrite {record : SpTsStream} {pcr : Bool}
    (hrecord : StreamRefines record (.h264 pcr) (numbers videoPid.toNat))
    {written : SpTs W × SpTsStream}
    (hwrite : sptsStreamWrite gst spts record buffer = .ok written) :
    ∃ packets after, written.1 = spts.emit packets ∧ Advances numbers packets after ∧
      Counting after { written.1 with videoStream := some written.2 } := by
  obtain ⟨pts, hemit, hrefines⟩ := exists_of_sptsStreamWrite hrecord hwrite
  refine ⟨_, _, hemit, advances_unit (.h264 pcr) pts buffer.data, ?_⟩
  rw [hemit]
  exact h.setVideo hrefines rfl rfl rfl rfl rfl

theorem Counting.audioWrite {record : SpTsStream} {pcr : Bool}
    (hrecord : StreamRefines record (.aac pcr) (numbers audioPid.toNat))
    {written : SpTs W × SpTsStream}
    (hwrite : sptsStreamWrite gst spts record buffer = .ok written) :
    ∃ packets after, written.1 = spts.emit packets ∧ Advances numbers packets after ∧
      Counting after { written.1 with audioStream := some written.2 } := by
  obtain ⟨pts, hemit, hrefines⟩ := exists_of_sptsStreamWrite hrecord hwrite
  refine ⟨_, _, hemit, advances_unit (.aac pcr) pts buffer.data, ?_⟩
  rw [hemit]
  exact h.setAudio hrefines rfl rfl rfl rfl rfl

/-- The lead of a GOP takes one number of each table, and its null packets take none. -/
theorem Counting.advances_gopLead : Advances numbers (gopLead spts)
    (Function.update (Function.update numbers 0 (numbers 0 + 1)) pmtPid.toNat
      (numbers pmtPid.toNat + 1)) := by
  obtain ⟨patPayload, hpat⟩ := h.pat
  obtain ⟨pmtPayload, hpmt⟩ := h.pmt
  rw [gopLead, h.nullpacket]
  have hkept : Function.update numbers 0 (numbers 0 + 1) pmtPid.toNat = numbers pmtPid.toNat :=
    Function.update_of_ne (by decide) _ _
  rw [← hkept] at hpmt
  have hsecond := advances_table (by decide) hpmt
  rw [hkept] at hsecond
  exact (advances_null numbers _).trans ((advances_table (by omega) hpat).trans hsecond)

theorem Counting.gopBegin {record : SpTsStream} {pcr : Bool}
    (hrecord : StreamRefines record (.h264 pcr) (numbers videoPid.toNat))
    {begun : SpTs W × SpTsStream} (hbegin : sptsGopBegin spts record = .ok begun) :
    ∃ packets after, Handed spts begun.1 packets ∧ Advances numbers packets after ∧
      Counting after begun.1 ∧ StreamRefines begun.2 (.h264 pcr) (after videoPid.toNat) := by
  obtain ⟨audio, haudio, rfl⟩ := exists_of_sptsGopBegin hbegin
  obtain ⟨patPayload, hpat⟩ := h.pat
  obtain ⟨pmtPayload, hpmt⟩ := h.pmt
  have hkept (number : ℕ) (hpmtNe : number ≠ pmtPid.toNat) (hpatNe : number ≠ 0) :
      Function.update (Function.update numbers 0 (numbers 0 + 1)) pmtPid.toNat
        (numbers pmtPid.toNat + 1) number = numbers number := by
    rw [Function.update_of_ne hpmtNe, Function.update_of_ne hpatNe]
  refine ⟨gopLead spts, _, ⟨rfl, rfl, rfl⟩, h.advances_gopLead, ⟨⟨patPayload, ?_⟩,
    ⟨pmtPayload, ?_⟩, h.nullpacket, fun other hother ↦ ?_, fun other hother ↦ ?_⟩, ?_⟩
  · rw [Function.update_of_ne (by decide), Function.update_self]
    exact ccInc_cells hpat (by omega)
  · rw [Function.update_self]
    exact ccInc_cells hpmt (by omega)
  · rw [hkept _ (by decide) (by decide)]
    exact h.video other hother
  · rw [hkept _ (by decide) (by decide)]
    obtain ⟨audioPcr, hrefines⟩ := h.audio audio haudio
    obtain rfl := Option.some.inj hother
    exact ⟨audioPcr, hrefines.gopEnd⟩
  · rw [hkept _ (by decide) (by decide)]
    exact (hrecord.recount _ _).gopEnd

/-- A call numbers its packets on each PID, and keeps the next counters. -/
theorem Counting.writeStep (hok : Spts.writeStep gst spts buffer = .ok next) :
    ∃ packets after, Handed spts next packets ∧ Advances numbers packets after ∧
      Counting after next := by
  cases called_of_writeStep hok with
  | idle => exact ⟨[], numbers, handed_nil rfl rfl rfl, advances_nil numbers, h⟩
  | audio haudio hwrite =>
      obtain ⟨pcr, hrefines⟩ := h.audio _ haudio
      obtain ⟨packets, after, hemit, hadvances, hcounting⟩ := h.audioWrite hrefines hwrite
      have hwritten := handed_of_emit hemit
      exact ⟨packets, after, ⟨hwritten.1, hwritten.2, hwritten.3⟩, hadvances, hcounting⟩
  | delta hvideo hwrite =>
      obtain ⟨pcr, hrefines⟩ := h.video _ hvideo
      obtain ⟨packets, after, hemit, hadvances, hcounting⟩ :=
        h.videoWrite (hrefines.recount _ _) hwrite
      have hwritten := handed_of_emit hemit
      exact ⟨packets, after, ⟨hwritten.1, hwritten.2, hwritten.3⟩, hadvances, hcounting⟩
  | idr hvideo hbegin hwrite =>
      obtain ⟨pcr, hrefines⟩ := h.video _ hvideo
      obtain ⟨lead, middle, hlead, hfirst, hbegun, hrecord⟩ :=
        h.gopBegin (hrefines.recount _ _) hbegin
      obtain ⟨packets, after, hemit, hadvances, hcounting⟩ := hbegun.videoWrite hrecord hwrite
      have hboth := hlead.trans (handed_of_emit hemit)
      exact ⟨_, after, ⟨hboth.1, hboth.2, hboth.3⟩, hfirst.trans hadvances, hcounting⟩

end Call

end SpTsMuxer.Spts
