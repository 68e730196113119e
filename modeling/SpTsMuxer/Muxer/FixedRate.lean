import SpTsMuxer.Muxer.Tuning
import SpTsMuxer.Spts.Accounting

/-!
# GOPs at a Fixed Rate

Every GOP is padded to 2102 packets, so that a receiver finds GOP k at packet 2102 k without an
index.  How many packets a GOP has before it is padded follows from the sizes of its frames.  The
positions are right exactly if no video precedes the first IDR frame and every GOP but the last
has at most 2102 packets.  Then the stream can be cut into GOPs by arithmetic alone, and played
forwards, backwards or with GOPs left out.
-/

namespace SpTsMuxer.Muxer

open Memory Transport Pes Psi Machine Spts Schedule

/-! ## The packets of a frame -/

/-- How many packets a frame needs.  Its first packet takes 162 bytes of a video frame, and 170 of
an audio frame, or 168 if it has 169 bytes. -/
def framePackets (buffer : GstBuffer) : ℕ :=
  if buffer.isVideo then 1 + (buffer.data.length - 162 + 183) / 184
  else if buffer.data.length = 169 then 2
  else 1 + (buffer.data.length - 170 + 183) / 184

/-- How many packets some frames need. -/
def groupPackets (buffers : List GstBuffer) : ℕ := (buffers.map framePackets).sum

section Carried

variable {audioFirst : Bool} {program : Program}
  (hcarries : CarriesOut (padSetup audioFirst) true false program)
include hcarries

theorem length_unit_frame (gst : UInt64Scale) {buffer : GstBuffer} (hcaps : buffer.caps ≠ .other)
    (counter : ℕ) :
    (((buffer.frame gst).stream program).unit counter (buffer.frame gst).pts
      (buffer.frame gst).data).length = framePackets buffer := by
  have hvideo : program.video.pcr = true := by rw [hcarries.video]; rfl
  have haudio : program.audio.pcr = false := by rw [hcarries.audio]; rfl
  rw [ElementaryStream.length_unit, Frame.stream, GstBuffer.isAudio_frame gst hcaps, framePackets]
  rw [show (buffer.frame gst).data = buffer.data from rfl]
  cases hkind : buffer.caps with
  | videoXH264 =>
      simp [GstBuffer.isAudio, GstBuffer.isVideo, hkind, ElementaryStream.taken, hvideo]
  | audioMpeg =>
      by_cases hstray : buffer.data.length = 169
      · simp [GstBuffer.isAudio, GstBuffer.isVideo, hkind, ElementaryStream.taken, haudio, hstray]
      · simp [GstBuffer.isAudio, GstBuffer.isVideo, hkind, ElementaryStream.taken, haudio, hstray]
  | other => exact absurd hkind hcaps

/-! ## The packets of a GOP -/

/-- A GOP has its two tables and the packets of its frames. -/
theorem length_content_gops (gst : UInt64Scale) {state : MuxState} {buffers : List GstBuffer}
    (hcaps : ∀ buffer ∈ buffers, buffer.caps ≠ .other)
    (hcount : state.packets +
      ((multiplexer program).run state (buffers.map (GstBuffer.frame gst))).2.length < 2 ^ 64) :
    (0 < state.packets → (cutAtGops program state (buffers.map (GstBuffer.frame gst))).1.length =
        groupPackets (cutAt GstBuffer.isIdr buffers).1) ∧
      List.Forall₂ (fun gop group ↦ gop.content.length = 2 + groupPackets group)
        (cutAtGops program state (buffers.map (GstBuffer.frame gst))).2
        (cutAt GstBuffer.isIdr buffers).2 := by
  induction buffers generalizing state with
  | nil => exact ⟨fun _ ↦ rfl, .nil⟩
  | cons buffer rest ih =>
      let frame := buffer.frame gst
      have hbuffer := hcaps buffer List.mem_cons_self
      have hpackets := packets_muxStep program state frame
      have hnext := (packets_run_cons program state frame _).symm.trans_lt hcount
      obtain ⟨hlead, hgroups⟩ := ih (fun other hmem ↦ hcaps other (List.mem_cons_of_mem _ hmem))
        hnext
      have hunit (counter : ℕ) := length_unit_frame hcarries gst hbuffer counter
      have hsum (group : List GstBuffer) :
          groupPackets (buffer :: group) = framePackets buffer + groupPackets group :=
        List.sum_cons
      have hsame : frame.isIdr = buffer.isIdr := GstBuffer.isIdr_frame gst buffer
      by_cases hidr : buffer.isIdr = true
      · have hframe : frame.isIdr = true := hsame.trans hidr
        have hkind : frame.kind ≠ .audio := by
          rw [show frame.kind = .idr from of_decide_eq_true hframe]
          decide
        have hstarted : 0 < (muxStep program state frame).1.packets := packets_pos_of_video hkind
        have hvideo : (program.video.continuation (state.video + 1)
            (frame.data.drop (program.video.taken frame.data))).length + 1 =
              framePackets buffer := by
          rw [← hunit state.video, Frame.stream_of_video hkind]
          rfl
        rw [List.map_cons, cutAtGops_idr program state _ hframe, cutAt_cons_marked hidr]
        refine ⟨fun _ ↦ rfl, .cons ?_ hgroups⟩
        rw [hsum, ← hvideo, ← hlead hstarted, GopPackets.content, gopAt]
        simp only [List.length_cons, List.length_append, List.length_map]
        omega
      · have hframe : ¬frame.isIdr = true := fun h ↦ hidr (hsame.symm.trans h)
        rw [List.map_cons, cutAtGops_other program state _ hframe, cutAt_cons_unmarked hidr]
        refine ⟨fun hpos ↦ ?_, hgroups⟩
        have hlength := hlead (by omega)
        have hstep : (muxStep program state frame).2.length = framePackets buffer := by
          rcases muxStep_cases program state frame with ⟨-, hzero, -⟩ | ⟨counter, hsent, -⟩
          · omega
          · rw [hsent, if_neg fun hkind ↦ hframe (decide_eq_true hkind), List.nil_append]
            exact hunit counter
        rw [List.length_append, List.length_map, hlength, hsum, hstep]

theorem streams_muxStep (gst : UInt64Scale) {state : MuxState} {buffer : GstBuffer}
    (hcaps : buffer.caps ≠ .other)
    (hkept : (buffer.frame gst).kind ≠ .audio ∨ state.packets % 2 ^ 64 ≠ 0) :
    let next := (muxStep program state (buffer.frame gst)).1
    next.video + next.audio = state.video + state.audio + framePackets buffer := by
  rcases muxStep_cases program state (buffer.frame gst) with
    ⟨haudio, hzero, -⟩ | ⟨counter, -, hstreams⟩
  · exact absurd hzero (hkept.resolve_left (absurd haudio))
  · rw [length_unit_frame hcarries gst hcaps counter] at hstreams
    exact hstreams

theorem streams_run (gst : UInt64Scale) {state : MuxState} {first : GstBuffer}
    {rest : List GstBuffer} (hcaps : ∀ buffer ∈ first :: rest, buffer.caps ≠ .other)
    (hkept : (first.frame gst).kind ≠ .audio ∨ 0 < state.packets)
    (hcount : state.packets + ((multiplexer program).run state
      ((first :: rest).map (GstBuffer.frame gst))).2.length < 2 ^ 64) :
    let next := ((multiplexer program).run state ((first :: rest).map (GstBuffer.frame gst))).1
    next.video + next.audio = state.video + state.audio + groupPackets (first :: rest) := by
  have hadmitted : (first.frame gst).kind ≠ .audio ∨ state.packets % 2 ^ 64 ≠ 0 :=
    hkept.imp_right fun hpos ↦ by omega
  have hstep := streams_muxStep hcarries gst (hcaps first List.mem_cons_self) hadmitted
  induction rest generalizing state first with
  | nil =>
      rw [show groupPackets [first] = framePackets first from Nat.add_zero _]
      exact hstep
  | cons second rest ih =>
      let frame := first.frame gst
      have hpackets := packets_muxStep program state frame
      have hrest := (packets_run_cons program state frame _).symm.trans_lt hcount
      have hpos : 0 < (muxStep program state frame).1.packets := by
        rcases hkept with hvideo | hpos
        · exact packets_pos_of_video hvideo
        · omega
      have hkeptNext : (muxStep program state frame).1.packets % 2 ^ 64 ≠ 0 := by omega
      have hnext := ih (fun other hmem ↦ hcaps other (List.mem_cons_of_mem _ hmem)) (.inr hpos)
        hrest (.inr hkeptNext)
        (streams_muxStep hcarries gst (hcaps second (by simp)) (.inr hkeptNext))
      have hsum : groupPackets (first :: second :: rest) =
          framePackets first + groupPackets (second :: rest) := List.sum_cons
      rw [hsum, ← Nat.add_assoc, ← hstep]
      exact hnext

/-- From an IDR frame on, the counters of the streams count what the frames need. -/
theorem streams_stateAfter (gst : UInt64Scale) {before rest after : List GstBuffer}
    {first : GstBuffer} (hfirst : first.isIdr = true)
    (hcaps : ∀ buffer ∈ before ++ first :: rest ++ after, buffer.caps ≠ .other)
    (hcount : (outputsOf gst program (before ++ first :: rest ++ after)).length < 2 ^ 64) :
    let state := stateAfter gst program before
    let next := stateAfter gst program (before ++ first :: rest)
    next.video + next.audio = state.video + state.audio + groupPackets (first :: rest) := by
  intro state next
  have hnext : next =
      ((multiplexer program).run state ((first :: rest).map (GstBuffer.frame gst))).1 := by
    change stateAfter gst program (before ++ first :: rest) = _
    rw [stateAfter, List.map_append, Mealy.run_append]
    rfl
  have hpackets : state.packets + ((multiplexer program).run state
      ((first :: rest).map (GstBuffer.frame gst))).2.length < 2 ^ 64 := by
    calc
      state.packets + ((multiplexer program).run state
            ((first :: rest).map (GstBuffer.frame gst))).2.length
          = (outputsOf gst program before).length + ((multiplexer program).run state
            ((first :: rest).map (GstBuffer.frame gst))).2.length := by
        rw [show state.packets = 0 + (outputsOf gst program before).length from
          packets_run program .initial _, Nat.zero_add]
      _ ≤ (outputsOf gst program (before ++ first :: rest ++ after)).length := by
        rw [outputsOf, outputsOf, List.map_append, List.map_append, Mealy.run_append,
          Mealy.run_append, List.length_append, List.length_append]
        exact Nat.le_add_right _ _
      _ < 2 ^ 64 := hcount
  have hvideo : (first.frame gst).kind ≠ .audio := by
    rw [show (first.frame gst).kind = .idr from
      of_decide_eq_true ((GstBuffer.isIdr_frame gst first).trans hfirst)]
    decide
  rw [hnext]
  refine streams_run hcarries gst (fun buffer hmem ↦ hcaps buffer ?_) (.inl hvideo) hpackets
  exact List.mem_append_left _ (List.mem_append_right _ hmem)

omit hcarries in
/-- Nothing is sent before the first IDR frame exactly if there is nothing but audio. -/
theorem lead_eq_nil_iff (gst : UInt64Scale) {state : MuxState} (hstate : state.packets = 0)
    {buffers : List GstBuffer} (hcaps : ∀ buffer ∈ buffers, buffer.caps ≠ .other) :
    (cutAtGops program state (buffers.map (GstBuffer.frame gst))).1 = [] ↔
      ∀ buffer ∈ (cutAt GstBuffer.isIdr buffers).1, buffer.isAudio = true := by
  induction buffers with
  | nil => exact ⟨fun _ _ h ↦ absurd h List.not_mem_nil, fun _ ↦ rfl⟩
  | cons buffer rest ih =>
      let frame := buffer.frame gst
      have htail := ih fun other hmem ↦ hcaps other (List.mem_cons_of_mem _ hmem)
      have hsame : frame.isIdr = buffer.isIdr := GstBuffer.isIdr_frame gst buffer
      have haudio : frame.isAudio = buffer.isAudio :=
        GstBuffer.isAudio_frame gst (hcaps buffer List.mem_cons_self)
      by_cases hidr : buffer.isIdr = true
      · rw [List.map_cons, cutAtGops_idr program state _ (hsame.trans hidr),
          cutAt_cons_marked hidr]
        exact ⟨fun _ _ h ↦ absurd h List.not_mem_nil, fun _ ↦ rfl⟩
      · have hframe : ¬frame.isIdr = true := fun h ↦ hidr (hsame.symm.trans h)
        rw [List.map_cons, cutAtGops_other program state _ hframe, cutAt_cons_unmarked hidr,
          List.append_eq_nil_iff, List.map_eq_nil_iff, List.forall_mem_cons, ← haudio]
        by_cases hkind : frame.kind = .audio
        · have hdropped := muxStep_dropped program state hkind (by rw [hstate]; rfl)
          rw [hdropped]
          exact and_congr (iff_of_true rfl (decide_eq_true hkind)) htail
        · have hne : (muxStep program state frame).2 ≠ [] := muxStep_ne_nil hkind
          have hnot : ¬frame.isAudio = true := fun h ↦ hkind (of_decide_eq_true h)
          exact ⟨fun h ↦ absurd h.1 hne, fun h ↦ absurd h.1 hnot⟩

end Carried

/-! ## The position of a GOP -/

theorem filter_isPat_onStream {packets : List TsPacket} (h : OnStream packets) :
    packets.filter isPat = [] := by
  rw [List.filter_eq_nil_iff]
  intro packet hmem
  rw [isPat, decide_eq_true_eq]
  intro hpid
  have hstream := h packet hmem
  rw [hpid] at hstream
  exact absurd hstream (by decide)

theorem filter_isPat_padding (count : ℕ) :
    (List.replicate count nullPacket.block).filter isPat = [] := by
  rw [List.filter_eq_nil_iff]
  intro packet hmem
  rw [List.eq_of_mem_replicate hmem]
  decide

theorem filter_isPat_packets {gop : GopPackets} (h : gop.WellPlaced) :
    gop.packets.filter isPat = [gop.pat] := by
  have hpat : isPat gop.pat = true := decide_eq_true h.pat
  have hpmt : ¬isPat gop.pmt = true := by
    rw [isPat, h.pmt]
    decide
  have hfirst : ¬isPat gop.first = true := by
    rw [isPat, h.first]
    decide
  rw [GopPackets.packets, GopPackets.content, List.filter_append, filter_isPat_padding,
    List.nil_append, List.filter_cons_of_pos hpat, List.filter_cons_of_neg hpmt,
    List.filter_cons_of_neg hfirst, filter_isPat_onStream h.rest]

section Position

variable {lead : List TsPacket} {gops : List GopPackets} (hlead : OnStream lead)
  (hplaced : ∀ gop ∈ gops, gop.WellPlaced)

/-- What precedes a PAT: the packets before its GOP, and its padding. -/
theorem take_patIndex {number : ℕ} (hnumber : number < gops.length) :
    (lead ++ gops.flatMap GopPackets.packets).take (patIndex lead gops number) =
      lead ++ (gops.take number).flatMap GopPackets.packets ++
        List.replicate gops[number].padding nullPacket.block := by
  have hsplit : lead ++ gops.flatMap GopPackets.packets =
      (lead ++ (gops.take number).flatMap GopPackets.packets ++
        List.replicate gops[number].padding nullPacket.block) ++
          (gops[number].content ++ (gops.drop (number + 1)).flatMap GopPackets.packets) := by
    have hflat : gops.flatMap GopPackets.packets = (gops.take number).flatMap GopPackets.packets ++
        (gops[number].packets ++ (gops.drop (number + 1)).flatMap GopPackets.packets) := by
      rw [← List.flatMap_cons, ← List.drop_eq_getElem_cons hnumber, ← List.flatMap_append,
        List.take_append_drop]
    rw [hflat, GopPackets.packets]
    simp only [List.append_assoc]
  have hindex : patIndex lead gops number =
      (lead ++ (gops.take number).flatMap GopPackets.packets ++
        List.replicate gops[number].padding nullPacket.block).length := by
    simp only [patIndex, gopOffset, List.getElem?_eq_getElem hnumber, List.length_append,
      List.length_replicate, Option.map_some, Option.getD_some]
  rw [hsplit, hindex, List.take_left]

include hplaced in
theorem length_filter_isPat_gops :
    ((gops.flatMap GopPackets.packets).filter isPat).length = gops.length := by
  induction gops with
  | nil => rfl
  | cons gop rest ih =>
      have htail := ih fun other hmem ↦ hplaced other (List.mem_cons_of_mem _ hmem)
      rw [List.flatMap_cons, List.filter_append, filter_isPat_packets (hplaced gop
        List.mem_cons_self), List.length_append, htail, List.length_cons, Nat.add_comm]
      rfl

include hlead hplaced in
/-- The position of a group of packets is the index of the PAT of its GOP. -/
theorem position_eq_patIndex {number : ℕ} (hnumber : number < gops.length) :
    position isPat (lead ++ gops.flatMap GopPackets.packets) number =
      patIndex lead gops number := by
  have hbefore := length_filter_isPat_gops fun gop hmem ↦
    hplaced gop (List.mem_of_mem_take (i := number) hmem)
  refine position_eq (getElem?_patIndex lead (List.getElem?_eq_getElem hnumber))
    (decide_eq_true (hplaced _ (List.getElem_mem hnumber)).pat) ?_
  rw [take_patIndex hnumber, List.filter_append, List.filter_append, filter_isPat_padding,
    filter_isPat_onStream hlead, List.append_nil, List.nil_append, hbefore, List.length_take]
  omega

end Position

/-! ## The budget -/

/-- No video precedes the first IDR frame, and every GOP but the last has at most 2102 packets, its
two tables included. -/
structure InBudget (buffers : List GstBuffer) : Prop where
  lead : ∀ buffer ∈ (cutAt GstBuffer.isIdr buffers).1, buffer.isAudio = true
  groups : ∀ number group, number + 1 < (buffers.filter GstBuffer.isIdr).length →
    (cutAt GstBuffer.isIdr buffers).2[number]? = some group → groupPackets group ≤ 2100

section Runs

variable {gst : UInt64Scale} {results : List TsPacket → Bool} {audioFirst : Bool}
  {buffers : List GstBuffer} {packets : List TsPacket}
  (hok : muxedPackets gst results (padOrder audioFirst) buffers = .ok packets)
  (hcount : packets.length < 2 ^ 64)
  (hgops : 2102 * (buffers.filter GstBuffer.isIdr).length < 2 ^ 64)
include hok hcount hgops

/-- The PATs are jobs with release times, in terms of the frames. -/
theorem exists_positions :
    ∃ lead gops, (lead = [] ↔ ∀ buffer ∈ (cutAt GstBuffer.isIdr buffers).1,
        buffer.isAudio = true) ∧
      gops.length = (buffers.filter GstBuffer.isIdr).length ∧
      (∀ number group, (cutAt GstBuffer.isIdr buffers).2[number]? = some group →
        gopSize gops number = 2 + groupPackets group) ∧
      ∀ number < (buffers.filter GstBuffer.isIdr).length,
        position isPat packets number = start (gopRelease lead) (gopSize gops) number := by
  obtain ⟨program, hcarries⟩ := (padSetup audioFirst).exists_carriesOut true false
  rw [muxedPackets_eq] at hok
  have hcaps := caps_ne_other hcarries hok
  have hwritten := hcarries.written gst results buffers packets hok
  let frames := buffers.map (GstBuffer.frame gst)
  obtain ⟨⟨lead, gops⟩, hcut⟩ : ∃ cut, cutAtGops program .initial frames = cut := ⟨_, rfl⟩
  have hsplit := packets_cutAtGops program .initial frames
  have hlength := length_cutAtGops program .initial frames
  obtain ⟨hlead, hplaced⟩ :=
    wellPlaced_cutAtGops hcarries.video_pid hcarries.audio_pid .initial frames
  have hrun : ((multiplexer program).run .initial frames).2.length < 2 ^ 64 := by
    rw [hwritten, List.length_map] at hcount
    exact hcount
  have hcontent := (length_content_gops hcarries gst hcaps
    (show MuxState.initial.packets + _ < _ by rwa [MuxState.initial, Nat.zero_add])).2
  have hnone : (cutAtGops program .initial (buffers.map (GstBuffer.frame gst))).1 = [] ↔ _ :=
    lead_eq_nil_iff gst rfl hcaps
  change cutAtGops program .initial (buffers.map (GstBuffer.frame gst)) = _ at hcut
  rw [hcut] at hsplit hlength hlead hplaced hcontent hnone
  rw [length_filter_isIdr] at hlength
  refine ⟨lead, gops, hnone, hlength, ?_, ?_⟩
  · intro number group hgroup
    obtain ⟨hnumber, hget⟩ := List.getElem?_eq_some_iff.mp hgroup
    have hgop : number < gops.length := hcontent.length_eq ▸ hnumber
    have hsize := hcontent.get hgop hnumber
    rw [gopSize, List.getElem?_eq_getElem hgop, ← hget]
    exact hsize
  · intro number hnumber
    have hgop : number < gops.length := hlength ▸ hnumber
    rw [hwritten.trans hsplit, position_eq_patIndex hlead hplaced hgop]
    refine patIndex_eq_start lead hgop fun earlier gop hle hother ↦ ?_
    exact padding_eq hcut hother hrun (by omega)

/-- The positions are right exactly within the budget. -/
theorem forall_position_iff (hidr : 0 < (buffers.filter GstBuffer.isIdr).length) :
    (∀ number < (buffers.filter GstBuffer.isIdr).length,
      position isPat packets number = 2102 * number) ↔ InBudget buffers := by
  obtain ⟨lead, gops, hlead, hlength, hsize, hstart⟩ := exists_positions hok hcount hgops
  have hgroups : (cutAt GstBuffer.isIdr buffers).2.length =
      (buffers.filter GstBuffer.isIdr).length := length_cutAt _ _
  have hrelease (hnone : lead = []) (number : ℕ) : gopRelease lead number = 2102 * number := by
    unfold gopRelease
    split_ifs with hzero
    · rw [hnone, hzero]
      rfl
    · rfl
  constructor
  · intro hposition
    have hnone : lead = [] := by
      have hfirst := (hstart 0 hidr).symm.trans (hposition 0 hidr)
      exact List.eq_nil_of_length_eq_zero hfirst
    have hpunctual := forall_start_eq_release_iff.mp fun number hnumber ↦
      ((hstart number hnumber).symm.trans (hposition number hnumber)).trans
        (hrelease hnone number).symm
    refine ⟨hlead.mp hnone, fun number group hnumber hgroup ↦ ?_⟩
    have hfits := hpunctual number hnumber
    rw [hrelease hnone, hrelease hnone, hsize number group hgroup] at hfits
    omega
  · intro hbudget number hnumber
    have hnone := hlead.mpr hbudget.lead
    rw [hstart number hnumber, ← hrelease hnone]
    refine forall_start_eq_release_iff.mpr (fun earlier hearlier ↦ ?_) number hnumber
    have hlt : earlier < (cutAt GstBuffer.isIdr buffers).2.length := by omega
    have hgroup := List.getElem?_eq_getElem hlt
    have hfits := hbudget.groups earlier _ hearlier hgroup
    rw [hrelease hnone, hrelease hnone, hsize earlier _ hgroup]
    omega

end Runs

/-! ## What the counters say -/

/-- The packets of a GOP are within the largest numbers that the streams have recorded. -/
theorem groupPackets_le {gst : UInt64Scale} {results : List TsPacket → Bool} {audioFirst : Bool}
    {buffers : List GstBuffer} {final : SpTs (List TsPacket)} {video audio : SpTsStream}
    (hrun : runFrames gst results (padSetup audioFirst) true false buffers = .ok final)
    (hcount : final.writeFuncData.length < 2 ^ 64) (hvideo : final.videoStream = some video)
    (haudio : final.audioStream = some audio) {number : ℕ} {group : List GstBuffer}
    (hnumber : number + 1 < (buffers.filter GstBuffer.isIdr).length)
    (hgroup : (cutAt GstBuffer.isIdr buffers).2[number]? = some group) :
    groupPackets group ≤ video.maxGopPackets.toNat + audio.maxGopPackets.toNat := by
  obtain ⟨program, hcarries⟩ := (padSetup audioFirst).exists_carriesOut true false
  have hok := writtenPackets_of_runFrames hrun
  have hcaps := caps_ne_other hcarries hok
  have hwritten := hcarries.written gst results buffers _ hok
  have hlength : (outputsOf gst program buffers).length < 2 ^ 64 := by
    rw [hwritten, List.length_map] at hcount
    exact hcount
  obtain ⟨record, record', hrecord, hrecord', hpeak, hpeak'⟩ :=
    exists_streamAccounts hcarries hrun hlength
  obtain rfl := Option.some.inj (hvideo.symm.trans hrecord)
  obtain rfl := Option.some.inj (haudio.symm.trans hrecord')
  have hgroups : (cutAt GstBuffer.isIdr buffers).2.length =
      (buffers.filter GstBuffer.isIdr).length := length_cutAt _ _
  obtain ⟨first, rest, before, rfl, hfirst, hinterval⟩ :=
    exists_interval_of_group hgroup (hnumber.trans_eq hgroups.symm)
  obtain ⟨next, after, hsplit, -⟩ := hinterval.next_mark
  rw [hsplit] at hcaps hlength
  have hstreams := streams_stateAfter hcarries gst hfirst hcaps hlength
  have hboundVideo := hpeak.peak.bound before (first :: rest) hinterval
  have hboundAudio := hpeak'.peak.bound before (first :: rest) hinterval
  have htallies := tallies_stateAfter gst hcarries.separate before
  have htallies' := tallies_stateAfter gst hcarries.separate (before ++ first :: rest)
  rw [outputsOn, outputsOn, ← htallies'.video, ← htallies.video] at hboundVideo
  rw [outputsOn, outputsOn, ← htallies'.audio, ← htallies.audio] at hboundAudio
  dsimp only at hstreams
  omega

/-! ## Main results -/

/-- The PAT of GOP k is packet 2102 k, for every k, exactly if no video precedes the first IDR frame
and the frames of every GOP but the last need at most 2100 packets, which can be read off their
sizes. -/
theorem pat_positions_iff (gst : UInt64Scale) (results : List TsPacket → Bool) (audioFirst : Bool)
    {buffers : List GstBuffer} {packets : List TsPacket}
    (hok : muxedPackets gst results (padOrder audioFirst) buffers = .ok packets)
    (hcount : packets.length < 2 ^ 64)
    (hgops : 2102 * (buffers.filter GstBuffer.isIdr).length < 2 ^ 64)
    (hidr : 0 < (buffers.filter GstBuffer.isIdr).length) :
    (∀ number < (buffers.filter GstBuffer.isIdr).length,
      position isPat packets number = 2102 * number) ↔ InBudget buffers :=
  forall_position_iff hok hcount hgops hidr

theorem inBudget_twoGops : InBudget twoGops := by
  refine ⟨by decide, fun number group hnumber hgroup ↦ ?_⟩
  have hcount : (twoGops.filter GstBuffer.isIdr).length = 2 := by decide
  obtain rfl : number = 0 := by omega
  obtain rfl := Option.some.inj hgroup
  decide

theorem pat_positions_twoGops :
    ∃ packets, muxedPackets gstUtilUint64Scale (fun _ ↦ true) (padOrder false) twoGops =
      .ok packets ∧ position isPat packets 1 = 2102 := by
  obtain ⟨packets, hok, hcount⟩ := exists_muxed_twoGops
  have hposition := (pat_positions_iff _ _ false hok hcount (by decide) (by decide)).mpr
    inBudget_twoGops
  exact ⟨packets, hok, hposition 1 (by decide)⟩

/-- The recorded peaks certify the index. If no video precedes the first IDR frame, and the
`max_gop_packets` that the two streams have recorded at the end of a run are together at most 2100,
then the PAT of every GOP is where a receiver looks for it. -/
theorem peaks_certify_positions (gst : UInt64Scale) (results : List TsPacket → Bool)
    (audioFirst : Bool) {buffers : List GstBuffer} {final : SpTs (List TsPacket)}
    {video audio : SpTsStream}
    (hrun : runFrames gst results (padSetup audioFirst) true false buffers = .ok final)
    (hcount : final.writeFuncData.length < 2 ^ 64)
    (hgops : 2102 * (buffers.filter GstBuffer.isIdr).length < 2 ^ 64)
    (hvideo : final.videoStream = some video) (haudio : final.audioStream = some audio)
    (hlead : ∀ buffer ∈ (cutAt GstBuffer.isIdr buffers).1, buffer.isAudio = true)
    (hpeaks : video.maxGopPackets.toNat + audio.maxGopPackets.toNat ≤ 2100) :
    ∀ number < (buffers.filter GstBuffer.isIdr).length,
      position isPat final.writeFuncData number = 2102 * number := by
  intro number hnumber
  have hok : muxedPackets gst results (padOrder audioFirst) buffers = .ok final.writeFuncData := by
    rw [muxedPackets_eq]
    exact writtenPackets_of_runFrames hrun
  have hbudget : InBudget buffers := by
    refine ⟨hlead, fun earlier group hearlier hgroup ↦ ?_⟩
    exact (groupPackets_le hrun hcount hvideo haudio hearlier hgroup).trans hpeaks
  exact (forall_position_iff hok hcount hgops (by omega)).mpr hbudget number hnumber

/-- The peaks of two GOPs put the second one at packet 2102. -/
theorem peaks_certify_positions_twoGops :
    ∃ final video audio, runFrames gstUtilUint64Scale (fun _ ↦ true) (padSetup false) true false
        twoGops = .ok final ∧
      final.videoStream = some video ∧ final.audioStream = some audio ∧
      video.maxGopPackets.toNat + audio.maxGopPackets.toNat ≤ 2100 ∧
      position isPat final.writeFuncData 1 = 2102 := by
  obtain ⟨packets, hmuxed, hcount⟩ := exists_muxed_twoGops
  rw [muxedPackets_eq] at hmuxed
  obtain ⟨final, hrun, rfl⟩ := writtenPackets_eq_ok hmuxed
  obtain ⟨program, hcarries⟩ := (padSetup false).exists_carriesOut true false
  have hlength : (outputsOf gstUtilUint64Scale program twoGops).length < 2 ^ 64 := by
    rw [hcarries.written _ _ _ _ hmuxed, List.length_map] at hcount
    exact hcount
  obtain ⟨video, audio, hvideo, haudio, hpeak, hpeak'⟩ :=
    exists_streamAccounts hcarries hrun hlength
  have hbound (number : ℕ) (before : List GstBuffer) (next : GstBuffer) (after : List GstBuffer)
      (hsplit : twoGops = before ++ next :: after) (hnext : next.isIdr = true) :
      outputsOn gstUtilUint64Scale program number before ≤ 8 :=
    (List.length_filter_le _ _).trans (length_outputsOf_before_idr program before hsplit hnext)
  have hmost := hpeak.peak.most_le (hbound _)
  have hmost' := hpeak'.peak.most_le (hbound _)
  have hpeaks : video.maxGopPackets.toNat + audio.maxGopPackets.toNat ≤ 2100 := by omega
  have hposition := peaks_certify_positions gstUtilUint64Scale (fun _ ↦ true) false hrun hcount
    (by decide) hvideo haudio (by decide) hpeaks
  exact ⟨final, video, audio, hrun, hvideo, haudio, hpeaks, hposition 1 (by decide)⟩

end SpTsMuxer.Muxer
