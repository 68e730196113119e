import SpTsMuxer.Spts.Observation

/-!
# No Data before the Tables

Audio frames are dropped as long as no packet is counted, so that a run begins with its first
video frame.  The tables are only written for a video frame that is not a delta unit: where the
first video frame is one, its packets come before any table.
-/

namespace SpTsMuxer.Spts

open Memory Transport Psi Machine

/-! ## Tables and data -/

/-- Each packet of one of the streams comes after a packet of each of the tables. -/
def TablesFirst (packets : List TsPacket) : Prop :=
  ∀ before packet after, packets = before ++ packet :: after →
    Transport.pid packet.cells ∈ [videoPid.toNat, audioPid.toNat] →
      ∀ table ∈ [patPid.toNat, pmtPid.toNat],
        ∃ earlier ∈ before, Transport.pid earlier.cells = table

/-- If there are any packets, the first two of them are the tables. -/
def BeginsWithTables (packets : List TsPacket) : Prop :=
  packets = [] ∨ ∃ pat pmt rest, packets = pat :: pmt :: rest ∧
    Transport.pid pat.cells = patPid.toNat ∧ Transport.pid pmt.cells = pmtPid.toNat

theorem table_not_stream {number : ℕ} (htable : number ∈ [patPid.toNat, pmtPid.toNat]) :
    number ∉ [videoPid.toNat, audioPid.toNat] := by
  revert number
  decide

theorem BeginsWithTables.tablesFirst {packets : List TsPacket} (h : BeginsWithTables packets) :
    TablesFirst packets := by
  intro before packet after hsplit hstream table htable
  rcases h with rfl | ⟨pat, pmt, rest, rfl, hpat, hpmt⟩
  · simp at hsplit
  · cases before with
    | nil =>
        obtain ⟨rfl, -⟩ := List.cons.inj hsplit
        rw [hpat] at hstream
        exact absurd hstream (table_not_stream (by simp))
    | cons first before =>
        obtain ⟨rfl, htail⟩ := List.cons.inj hsplit
        cases before with
        | nil =>
            obtain ⟨rfl, -⟩ := List.cons.inj htail
            rw [hpmt] at hstream
            exact absurd hstream (table_not_stream (by simp))
        | cons second before =>
            obtain ⟨rfl, -⟩ := List.cons.inj htail
            simp only [List.mem_cons, List.not_mem_nil, or_false] at htable
            rcases htable with rfl | rfl
            · exact ⟨pat, by simp, hpat⟩
            · exact ⟨pmt, by simp, hpmt⟩

theorem not_tablesFirst_cons {first : TsPacket} (rest : List TsPacket)
    (hstream : Transport.pid first.cells ∈ [videoPid.toNat, audioPid.toNat]) :
    ¬TablesFirst (first :: rest) := by
  intro h
  obtain ⟨earlier, hmem, -⟩ := h [] first rest rfl hstream patPid.toNat (by simp)
  exact List.not_mem_nil hmem

/-! ## The beginning of a run -/

/-- The first video frame, if there is one, is not a delta unit. -/
def StartsWithIdr (buffers : List GstBuffer) : Prop :=
  ∀ first, buffers.find? GstBuffer.isVideo = some first → first.deltaUnit = false

theorem run_leading_audio (program : Program) {audios : List Frame}
    (haudio : ∀ frame ∈ audios, frame.kind = .audio) (rest : List Frame) :
    (multiplexer program).run .initial (audios ++ rest) =
      (multiplexer program).run .initial rest := by
  induction audios with
  | nil => rfl
  | cons frame audios ih =>
      have hdropped : (multiplexer program).step .initial frame = (.initial, []) :=
        muxStep_dropped program .initial (haudio frame List.mem_cons_self) rfl
      have hrest := ih fun other hmem ↦ haudio other (List.mem_cons_of_mem frame hmem)
      calc
        (multiplexer program).run .initial (frame :: (audios ++ rest)) =
            (multiplexer program).run .initial (audios ++ rest) := by
          rw [Mealy.run, hdropped]
          rfl
        _ = (multiplexer program).run .initial rest := hrest

theorem kind_of_audio (gst : UInt64Scale) {buffers : List GstBuffer}
    (haudio : ∀ buffer ∈ buffers, buffer.isVideo = false) :
    ∀ frame ∈ buffers.map (GstBuffer.frame gst), frame.kind = .audio := by
  intro frame hmem
  obtain ⟨buffer, hbuffer, rfl⟩ := List.mem_map.mp hmem
  apply kind_of_hidden
  rw [GstBuffer.isVideo_frame]
  exact haudio buffer hbuffer

/-- The packets of a run begin with those of its first video frame. -/
theorem outputsOf_first_video (gst : UInt64Scale) (program : Program) {audios : List GstBuffer}
    (haudio : ∀ buffer ∈ audios, buffer.isVideo = false) (first : GstBuffer)
    (rest : List GstBuffer) :
    ∃ more, outputsOf gst program (audios ++ first :: rest) =
      (muxStep program .initial (first.frame gst)).2 ++ more := by
  rw [outputsOf, List.map_append, run_leading_audio program (kind_of_audio gst haudio),
    List.map_cons, Mealy.run_cons_snd]
  exact ⟨_, rfl⟩

theorem outputsOf_eq_nil (gst : UInt64Scale) (program : Program) {buffers : List GstBuffer}
    (haudio : ∀ buffer ∈ buffers, buffer.isVideo = false) :
    outputsOf gst program buffers = [] := by
  have hrun := run_leading_audio program (kind_of_audio gst haudio) []
  rw [List.append_nil] at hrun
  rw [outputsOf, hrun]
  rfl

section Runs

variable {setup : Setup} {videoPcr audioPcr : Bool} {program : Program}
  (hcarries : CarriesOut setup videoPcr audioPcr program)

/-- A frame that is not a delta unit begins with the tables, and nothing is missing in front of
them. -/
theorem beginsWithTables_of_idr (program : Program) {frame : Frame} (hidr : frame.kind = .idr)
    (more : List Packet) :
    BeginsWithTables (((muxStep program .initial frame).2 ++ more).map Packet.block) := by
  rw [muxStep_idr program .initial hidr]
  exact .inr ⟨(program.pat 0).block, (program.pmt 0).block, _, rfl, Packet.pid_encode _,
    Packet.pid_encode _⟩

include hcarries

/-- A delta unit begins with its own data. -/
theorem not_tablesFirst_of_delta {frame : Frame} (hdelta : frame.kind = .delta)
    (more : List Packet) :
    ¬TablesFirst (((muxStep program .initial frame).2 ++ more).map Packet.block) := by
  rw [muxStep_delta program .initial hdelta]
  apply not_tablesFirst_cons
  rw [Packet.block_cells, Packet.pid_encode]
  change program.video.pid ∈ _
  rw [hcarries.video_pid]
  exact List.mem_cons_self

theorem not_tablesFirst_of_first_delta (gst : UInt64Scale) {audios : List GstBuffer}
    (haudio : ∀ buffer ∈ audios, buffer.isVideo = false) {first : GstBuffer}
    (hvideo : first.isVideo = true) (hdelta : first.deltaUnit = true) (rest : List GstBuffer) :
    ¬TablesFirst ((outputsOf gst program (audios ++ first :: rest)).map Packet.block) := by
  obtain ⟨more, hmore⟩ := outputsOf_first_video gst program haudio first rest
  have hkind : (first.frame gst).kind = .delta := by
    rw [GstBuffer.frame, of_decide_eq_true hvideo]
    exact if_pos hdelta
  rw [hmore]
  exact not_tablesFirst_of_delta hcarries hkind more

end Runs

/-- The tables come first in a run exactly if its first video frame, if it has one, is not a delta
unit. In these runs, and in no others, the first two packets are the tables. -/
theorem tablesFirst_iff_startsWithIdr (gst : UInt64Scale) (results : List TsPacket → Bool)
    (setup : Setup) (videoPcr audioPcr : Bool) {buffers : List GstBuffer}
    {packets : List TsPacket}
    (hok : writtenPackets gst results setup videoPcr audioPcr buffers = .ok packets) :
    (TablesFirst packets ↔ StartsWithIdr buffers) ∧
      (BeginsWithTables packets ↔ StartsWithIdr buffers) := by
  obtain ⟨program, hcarries⟩ := setup.exists_carriesOut videoPcr audioPcr
  have hpackets := hcarries.written gst results buffers packets hok
  have hbegins (hstarts : StartsWithIdr buffers) : BeginsWithTables packets := by
    rw [hpackets]
    cases hfind : buffers.find? GstBuffer.isVideo with
    | none =>
        rw [outputsOf_eq_nil gst program fun buffer hmem ↦
          Bool.eq_false_iff.mpr (List.find?_eq_none.mp hfind buffer hmem)]
        exact .inl rfl
    | some first =>
        obtain ⟨hvideo, audios, rest, rfl, haudio⟩ := List.find?_eq_some_iff_append.mp hfind
        have hkind : (first.frame gst).kind = .idr := by
          rw [GstBuffer.frame, of_decide_eq_true hvideo]
          exact if_neg (Bool.eq_false_iff.mp (hstarts first hfind))
        obtain ⟨more, hmore⟩ := outputsOf_first_video gst program
          (fun buffer hmem ↦ by simpa using haudio buffer hmem) first rest
        rw [hmore]
        exact beginsWithTables_of_idr program hkind more
  have hstarts (htables : TablesFirst packets) : StartsWithIdr buffers := by
    intro first hfind
    by_contra hdelta
    obtain ⟨hvideo, audios, rest, rfl, haudio⟩ := List.find?_eq_some_iff_append.mp hfind
    rw [hpackets] at htables
    exact not_tablesFirst_of_first_delta hcarries _
      (fun buffer hmem ↦ by simpa using haudio buffer hmem) hvideo (by simpa using hdelta) rest
      htables
  exact ⟨⟨hstarts, fun h ↦ (hbegins h).tablesFirst⟩, ⟨fun h ↦ hstarts h.tablesFirst, hbegins⟩⟩

/-- An audio frame, then a video frame of three bytes. -/
theorem tablesFirst_iff_startsWithIdr_two_frames :
    ∃ packets, writtenPackets gstUtilUint64Scale (fun _ ↦ true) plainSetup true false
        [⟨.audioMpeg, false, 0, [4], by decide⟩, ⟨.videoXH264, false, 0, [1, 2, 3], by decide⟩] =
          .ok packets ∧
      TablesFirst packets := by
  let buffers : List GstBuffer :=
    [⟨.audioMpeg, false, 0, [4], by decide⟩, ⟨.videoXH264, false, 0, [1, 2, 3], by decide⟩]
  obtain ⟨program, hcarries⟩ := plainSetup.exists_carriesOut true false
  have hok := hcarries.written_of_length gstUtilUint64Scale (fun _ ↦ true)
    (show ∀ buffer ∈ buffers, buffer.caps ≠ .other by decide) (by decide)
  refine ⟨_, hok, (tablesFirst_iff_startsWithIdr _ _ _ _ _ hok).1.mpr ?_⟩
  intro first hfirst
  obtain rfl : _ = first := Option.some.inj hfirst
  rfl

/-- One delta unit of three bytes. -/
theorem not_tablesFirst_delta_unit :
    ∃ packets, writtenPackets gstUtilUint64Scale (fun _ ↦ true) plainSetup true false
        [⟨.videoXH264, true, 0, [1, 2, 3], by decide⟩] = .ok packets ∧
      ¬TablesFirst packets := by
  obtain ⟨program, hcarries⟩ := plainSetup.exists_carriesOut true false
  have hok := hcarries.written_of_length gstUtilUint64Scale (fun _ ↦ true)
    (show ∀ buffer ∈ [(⟨.videoXH264, true, 0, [1, 2, 3], by decide⟩ : GstBuffer)],
      buffer.caps ≠ .other by decide) (by decide)
  exact ⟨_, hok, not_tablesFirst_of_first_delta hcarries _
    (fun _ hmem ↦ absurd hmem List.not_mem_nil) rfl rfl []⟩

end SpTsMuxer.Spts
