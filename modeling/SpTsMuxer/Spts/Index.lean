import SpTsMuxer.Schedule.Release
import SpTsMuxer.Spts.Observation

/-!
# Random Access without an Index

The packets of a run, cut at the GOPs: those before the first IDR frame, and for each IDR frame
its padding, the two tables, the first packet of the frame and the packets up to the padding of
the next one.  Padding waits for the position 2102 k of GOP k, so the PATs are jobs with release
times: each comes when the GOP before it is done, but not before its position.
-/

namespace SpTsMuxer.Spts

open Memory Transport Pes Psi Machine Schedule

open scoped BigOperators

/-! ## The packets of a GOP -/

/-- The packets from the padding of an IDR frame up to the padding of the next one. -/
structure GopPackets where
  padding : ℕ
  pat : TsPacket
  pmt : TsPacket
  first : TsPacket
  rest : List TsPacket

namespace GopPackets

/-- What is not padding. -/
def content (gop : GopPackets) : List TsPacket := gop.pat :: gop.pmt :: gop.first :: gop.rest

def packets (gop : GopPackets) : List TsPacket :=
  List.replicate gop.padding nullPacket.block ++ gop.content

/-- A table of each kind, then the start of a video frame, then nothing but packets of the two
streams. -/
structure WellPlaced (gop : GopPackets) : Prop where
  pat : Transport.pid gop.pat.cells = patPid.toNat
  pmt : Transport.pid gop.pmt.cells = pmtPid.toNat
  first : Transport.pid gop.first.cells = videoPid.toNat
  first_start : payloadUnitStartIndicator gop.first.cells = true
  rest : ∀ packet ∈ gop.rest, Transport.pid packet.cells ∈ [videoPid.toNat, audioPid.toNat]

end GopPackets

/-- Where the padding of a GOP begins, given the packets before the first GOP. -/
def gopOffset (lead : List TsPacket) (gops : List GopPackets) (number : ℕ) : ℕ :=
  (lead ++ (gops.take number).flatMap GopPackets.packets).length

/-- How many packets of a GOP are not padding. -/
def gopSize (gops : List GopPackets) (number : ℕ) : ℕ :=
  (gops[number]?.map fun gop ↦ gop.content.length).getD 0

/-- Where the PAT of a GOP is. -/
def patIndex (lead : List TsPacket) (gops : List GopPackets) (number : ℕ) : ℕ :=
  gopOffset lead gops number + (gops[number]?.map GopPackets.padding).getD 0

/-! ## Cutting a run at its GOPs -/

def Frame.isIdr (frame : Frame) : Bool := frame.kind = .idr

/-- The GOP that an IDR frame begins, when `lead` comes between this frame and the next IDR. -/
def gopAt (program : Program) (state : MuxState) (frame : Frame) (lead : List TsPacket) :
    GopPackets where
  padding := state.missing
  pat := (program.pat state.gops).block
  pmt := (program.pmt state.gops).block
  first := (program.video.start state.video frame.pts frame.data).block
  rest := (program.video.continuation (state.video + 1)
    (frame.data.drop (program.video.taken frame.data))).map Packet.block ++ lead

/-- The packets before the first IDR frame of a run, and those of each GOP. -/
def cutAtGops (program : Program) : MuxState → List Frame → List TsPacket × List GopPackets
  | _, [] => ([], [])
  | state, frame :: rest =>
      let tail := cutAtGops program (muxStep program state frame).1 rest
      if frame.isIdr then ([], gopAt program state frame tail.1 :: tail.2)
      else ((muxStep program state frame).2.map Packet.block ++ tail.1, tail.2)

section Cut

variable (program : Program) (state : MuxState) {frame : Frame} (rest : List Frame)

theorem cutAtGops_idr (hidr : frame.isIdr = true) :
    cutAtGops program state (frame :: rest) =
      ([], gopAt program state frame (cutAtGops program (muxStep program state frame).1 rest).1 ::
        (cutAtGops program (muxStep program state frame).1 rest).2) := by
  rw [cutAtGops, if_pos hidr]

theorem cutAtGops_other (hother : ¬frame.isIdr = true) :
    cutAtGops program state (frame :: rest) =
      ((muxStep program state frame).2.map Packet.block ++
          (cutAtGops program (muxStep program state frame).1 rest).1,
        (cutAtGops program (muxStep program state frame).1 rest).2) := by
  rw [cutAtGops, if_neg hother]

/-- The packets of an IDR frame are the beginning of its GOP. -/
theorem packets_gopAt (hidr : frame.isIdr = true) (lead : List TsPacket) :
    (gopAt program state frame lead).packets =
      (muxStep program state frame).2.map Packet.block ++ lead := by
  have hkind : frame.kind = .idr := of_decide_eq_true hidr
  rw [muxStep_idr program state hkind]
  simp [GopPackets.packets, GopPackets.content, gopAt, gopFront, ElementaryStream.unit]

theorem start_prefix_gopAt (hidr : frame.isIdr = true) (lead : List TsPacket) :
    let gop := gopAt program state frame lead
    List.replicate gop.padding nullPacket.block ++ [gop.pat, gop.pmt, gop.first] <+:
      (muxStep program state frame).2.map Packet.block := by
  have hkind : frame.kind = .idr := of_decide_eq_true hidr
  rw [muxStep_idr program state hkind]
  refine ⟨(program.video.continuation (state.video + 1)
    (frame.data.drop (program.video.taken frame.data))).map Packet.block, ?_⟩
  simp [gopAt, gopFront, ElementaryStream.unit]

end Cut

theorem packets_cutAtGops (program : Program) (state : MuxState) (frames : List Frame) :
    ((multiplexer program).run state frames).2.map Packet.block =
      (cutAtGops program state frames).1 ++
        (cutAtGops program state frames).2.flatMap GopPackets.packets := by
  induction frames generalizing state with
  | nil => rfl
  | cons frame rest ih =>
      have htail := ih (muxStep program state frame).1
      rw [Mealy.run_cons_snd, List.map_append]
      change (muxStep program state frame).2.map _ ++ ((multiplexer program).run
        (muxStep program state frame).1 rest).2.map _ = _
      rw [htail]
      by_cases hidr : frame.isIdr = true
      · rw [cutAtGops_idr program state rest hidr, List.flatMap_cons,
          packets_gopAt program state hidr]
        simp
      · rw [cutAtGops_other program state rest hidr, List.append_assoc]

theorem length_cutAtGops (program : Program) (state : MuxState) (frames : List Frame) :
    (cutAtGops program state frames).2.length = (frames.filter Frame.isIdr).length := by
  induction frames generalizing state with
  | nil => rfl
  | cons frame rest ih =>
      by_cases hidr : frame.isIdr = true
      · rw [cutAtGops_idr program state rest hidr, List.filter_cons_of_pos hidr, List.length_cons,
          List.length_cons, ih]
      · rw [cutAtGops_other program state rest hidr, List.filter_cons_of_neg hidr, ih]

/-- An IDR frame begins a GOP. What was handed on before it are the packets of the GOPs before it,
and the padding of its own GOP is what the state then misses. -/
theorem cutAtGops_split (program : Program) (state : MuxState) (before : List Frame) {idr : Frame}
    (after : List Frame) (hidr : idr.isIdr = true) :
    let cut := cutAtGops program state (before ++ idr :: after)
    let number := (before.filter Frame.isIdr).length
    ((multiplexer program).run state before).2.map Packet.block =
        cut.1 ++ (cut.2.take number).flatMap GopPackets.packets ∧
      ∃ lead, cut.2[number]? =
        some (gopAt program ((multiplexer program).run state before).1 idr lead) := by
  induction before generalizing state with
  | nil =>
      rw [List.nil_append, cutAtGops_idr program state after hidr]
      exact ⟨rfl, _, rfl⟩
  | cons frame before ih =>
      obtain ⟨hpackets, lead, hgop⟩ := ih (muxStep program state frame).1
      have hrun : ((multiplexer program).run state (frame :: before)).2.map Packet.block =
          (muxStep program state frame).2.map Packet.block ++ ((multiplexer program).run
            (muxStep program state frame).1 before).2.map Packet.block := by
        rw [Mealy.run_cons_snd, List.map_append]
        rfl
      rw [hrun, hpackets]
      by_cases hframe : frame.isIdr = true
      · rw [List.cons_append, cutAtGops_idr program state _ hframe, List.filter_cons_of_pos hframe,
          List.length_cons]
        refine ⟨?_, lead, hgop⟩
        rw [List.take_succ_cons, List.flatMap_cons, packets_gopAt program state hframe]
        simp
      · rw [List.cons_append, cutAtGops_other program state _ hframe,
          List.filter_cons_of_neg hframe]
        exact ⟨(List.append_assoc _ _ _).symm, lead, hgop⟩

/-- Packets of one of the two streams. -/
def OnStream (packets : List TsPacket) : Prop :=
  ∀ packet ∈ packets, Transport.pid packet.cells ∈ [videoPid.toNat, audioPid.toNat]

theorem onStream_muxStep {program : Program} (hvideo : program.video.pid = videoPid.toNat)
    (haudio : program.audio.pid = audioPid.toNat) (state : MuxState) {frame : Frame}
    (hother : ¬frame.isIdr = true) :
    OnStream ((muxStep program state frame).2.map Packet.block) := by
  intro raw hmem
  obtain ⟨packet, hpacket, rfl⟩ := List.mem_map.mp hmem
  rw [Packet.block_cells, Packet.pid_encode]
  cases hkind : frame.kind with
  | idr => exact absurd (decide_eq_true hkind) hother
  | delta =>
      rw [muxStep_delta program state hkind] at hpacket
      rw [program.video.unit_pid _ _ _ packet hpacket, hvideo]
      exact List.mem_cons_self
  | audio =>
      by_cases hpackets : state.packets % 2 ^ 64 = 0
      · rw [muxStep_dropped program state hkind hpackets] at hpacket
        exact absurd hpacket List.not_mem_nil
      · rw [muxStep_audio program state hkind hpackets] at hpacket
        rw [program.audio.unit_pid _ _ _ packet hpacket, haudio]
        exact List.mem_cons_of_mem _ List.mem_cons_self

theorem wellPlaced_gopAt {program : Program} (hvideo : program.video.pid = videoPid.toNat)
    (state : MuxState) (frame : Frame) {lead : List TsPacket} (hlead : OnStream lead) :
    (gopAt program state frame lead).WellPlaced where
  pat := Packet.pid_encode _
  pmt := Packet.pid_encode _
  first := (Packet.pid_encode _).trans hvideo
  first_start := Packet.payloadUnitStartIndicator_encode _
  rest := by
    intro raw hmem
    rcases List.mem_append.mp hmem with hunit | htail
    · obtain ⟨packet, hpacket, rfl⟩ := List.mem_map.mp hunit
      rw [Packet.block_cells, Packet.pid_encode,
        (program.video.continuation_fields _ _ packet hpacket).2.2.1, hvideo]
      exact List.mem_cons_self
    · exact hlead raw htail

/-- Tables and padding are where they belong. -/
theorem wellPlaced_cutAtGops {program : Program} (hvideo : program.video.pid = videoPid.toNat)
    (haudio : program.audio.pid = audioPid.toNat) (state : MuxState) (frames : List Frame) :
    OnStream (cutAtGops program state frames).1 ∧
      ∀ gop ∈ (cutAtGops program state frames).2, gop.WellPlaced := by
  induction frames generalizing state with
  | nil => exact ⟨fun _ h ↦ absurd h List.not_mem_nil, fun _ h ↦ absurd h List.not_mem_nil⟩
  | cons frame rest ih =>
      obtain ⟨hlead, hgops⟩ := ih (muxStep program state frame).1
      by_cases hidr : frame.isIdr = true
      · rw [cutAtGops_idr program state rest hidr]
        refine ⟨fun _ h ↦ absurd h List.not_mem_nil, ?_⟩
        intro gop hmem
        rcases List.mem_cons.mp hmem with rfl | htail
        · exact wellPlaced_gopAt hvideo state frame hlead
        · exact hgops gop htail
      · rw [cutAtGops_other program state rest hidr]
        refine ⟨?_, hgops⟩
        intro packet hmem
        rcases List.mem_append.mp hmem with hstep | htail
        · exact onStream_muxStep hvideo haudio state hidr packet hstep
        · exact hlead packet htail

/-! ## The position of a GOP -/

theorem gops_run (program : Program) (state : MuxState) (frames : List Frame) :
    ((multiplexer program).run state frames).1.gops =
      state.gops + (frames.filter Frame.isIdr).length := by
  induction frames generalizing state with
  | nil => rfl
  | cons frame rest ih =>
      rw [Mealy.run_cons_fst, ih]
      change (muxStep program state frame).1.gops + _ = _
      cases hkind : frame.kind with
      | idr =>
          have hidr : frame.isIdr = true := decide_eq_true hkind
          rw [muxStep_idr program state hkind, List.filter_cons_of_pos hidr, List.length_cons]
          change state.gops + 1 + _ = _
          omega
      | delta =>
          rw [muxStep_delta program state hkind,
            List.filter_cons_of_neg (by simp [Frame.isIdr, hkind])]
      | audio =>
          rw [List.filter_cons_of_neg (by simp [Frame.isIdr, hkind])]
          by_cases hpackets : state.packets % 2 ^ 64 = 0
          · rw [muxStep_dropped program state hkind hpackets]
          · rw [muxStep_audio program state hkind hpackets]

theorem exists_split {α : Type} (p : α → Bool) (list : List α) {number : ℕ}
    (hnumber : number < (list.filter p).length) :
    ∃ before item after, list = before ++ item :: after ∧ p item = true ∧
      (before.filter p).length = number := by
  induction list generalizing number with
  | nil => exact absurd hnumber (Nat.not_lt_zero _)
  | cons head tail ih =>
      by_cases hhead : p head = true
      · rw [List.filter_cons_of_pos hhead, List.length_cons] at hnumber
        cases number with
        | zero => exact ⟨[], head, tail, rfl, hhead, rfl⟩
        | succ number =>
            obtain ⟨before, item, after, rfl, hitem, hcount⟩ := ih (Nat.lt_of_succ_lt_succ hnumber)
            refine ⟨head :: before, item, after, rfl, hitem, ?_⟩
            rw [List.filter_cons_of_pos hhead, List.length_cons, hcount]
      · rw [List.filter_cons_of_neg hhead] at hnumber
        obtain ⟨before, item, after, rfl, hitem, hcount⟩ := ih hnumber
        refine ⟨head :: before, item, after, rfl, hitem, ?_⟩
        rw [List.filter_cons_of_neg hhead, hcount]

section Position

variable {program : Program} {frames : List Frame} {lead : List TsPacket}
  {gops : List GopPackets} (hcut : cutAtGops program .initial frames = (lead, gops))
include hcut

/-- Padding fills up to the position of the GOP, as long as no counter wraps around. -/
theorem padding_eq {number : ℕ} {gop : GopPackets} (hgop : gops[number]? = some gop)
    (hpackets : ((multiplexer program).run .initial frames).2.length < 2 ^ 64)
    (hgops : 2102 * number < 2 ^ 64) :
    gop.padding = 2102 * number - gopOffset lead gops number := by
  have hlt : number < (frames.filter Frame.isIdr).length := by
    have hlength := length_cutAtGops program .initial frames
    obtain ⟨hlt, -⟩ := List.getElem?_eq_some_iff.mp hgop
    rw [hcut] at hlength
    exact hlength ▸ hlt
  obtain ⟨before, idr, after, rfl, hidr, rfl⟩ := exists_split Frame.isIdr frames hlt
  obtain ⟨hoffset, tail, hgopAt⟩ := cutAtGops_split program .initial before after hidr
  rw [hcut] at hoffset hgopAt
  rw [hgop] at hgopAt
  obtain rfl := Option.some.inj hgopAt
  have hcount := packets_run program .initial before
  have hnumber := gops_run program .initial before
  have hlength := congrArg List.length hoffset
  rw [List.length_map] at hlength
  change _ = gopOffset lead gops _ at hlength
  rw [Mealy.run_append, List.length_append] at hpackets
  change MuxState.missing _ = _
  rw [MuxState.missing, hcount, hnumber, hlength]
  change (0 + _) * 2102 % 2 ^ 64 - (0 + _) % 2 ^ 64 = _
  rw [Nat.zero_add, Nat.zero_add, Nat.mul_comm, Nat.mod_eq_of_lt hgops,
    Nat.mod_eq_of_lt (by omega)]

end Position

theorem gopOffset_succ (lead : List TsPacket) {gops : List GopPackets} {number : ℕ}
    (hnumber : number < gops.length) :
    gopOffset lead gops (number + 1) = patIndex lead gops number + gopSize gops number := by
  have hgop := List.getElem?_eq_getElem hnumber
  unfold patIndex gopSize gopOffset
  rw [List.take_add_one, hgop, Option.toList_some, List.flatMap_append, List.flatMap_singleton,
    GopPackets.packets]
  simp only [List.length_append, List.length_replicate, Option.map_some, Option.getD_some]
  omega

/-- The first PAT may come at once, that of GOP k not before position 2102 k. -/
def gopRelease (lead : List TsPacket) (number : ℕ) : ℕ :=
  if number = 0 then lead.length else 2102 * number

/-- The PATs are jobs with release times, as long as no counter wraps around. -/
theorem patIndex_eq_start (lead : List TsPacket) {gops : List GopPackets} {number : ℕ}
    (hnumber : number < gops.length)
    (hpadding : ∀ earlier gop, earlier ≤ number → gops[earlier]? = some gop →
      gop.padding = 2102 * earlier - gopOffset lead gops earlier) :
    patIndex lead gops number = start (gopRelease lead) (gopSize gops) number := by
  have hindex {earlier : ℕ} (hle : earlier ≤ number) :
      patIndex lead gops earlier = max (gopOffset lead gops earlier) (2102 * earlier) := by
    have hgop := List.getElem?_eq_getElem (Nat.lt_of_le_of_lt hle hnumber)
    rw [patIndex, hgop, Option.map_some, Option.getD_some, hpadding earlier _ hle hgop]
    omega
  induction number with
  | zero =>
      rw [hindex (Nat.le_refl 0), start, gopRelease, if_pos rfl]
      simp [gopOffset]
  | succ number ih =>
      have hlt : number < gops.length := Nat.lt_of_succ_lt hnumber
      have hbefore := ih hlt (fun earlier gop hle ↦ hpadding earlier gop (Nat.le_succ_of_le hle))
        (fun hle ↦ hindex (Nat.le_succ_of_le hle))
      rw [hindex (Nat.le_refl _), gopOffset_succ lead hlt, hbefore, start, gopRelease,
        if_neg (Nat.succ_ne_zero number)]

section Start

variable {lead : List TsPacket} {gops : List GopPackets} {number : ℕ}
  (hstart : patIndex lead gops number = start (gopRelease lead) (gopSize gops) number)
include hstart

theorem patIndex_eq_max : patIndex lead gops number =
    max (lead.length + ∑ between ∈ Finset.range number, gopSize gops between)
      ((Finset.Icc 1 number).sup fun earlier ↦
        2102 * earlier + ∑ between ∈ Finset.Ico earlier number, gopSize gops between) := by
  have hrelease : ((Finset.Icc 1 number).sup fun earlier ↦
      gopRelease lead earlier + ∑ between ∈ Finset.Ico earlier number, gopSize gops between) =
      (Finset.Icc 1 number).sup fun earlier ↦
        2102 * earlier + ∑ between ∈ Finset.Ico earlier number, gopSize gops between := by
    apply Finset.sup_congr rfl
    intro earlier hmem
    have hpos := (Finset.mem_Icc.mp hmem).1
    rw [gopRelease, if_neg (Nat.ne_of_gt hpos)]
  rw [hstart, start_eq_max_sup, hrelease, gopRelease, if_pos rfl]

/-- GOPs that fit begin at the multiples of 2102. -/
theorem patIndex_of_fits (hlead : lead = [])
    (hfits : ∀ earlier < number, gopSize gops earlier ≤ 2102) :
    patIndex lead gops number = 2102 * number := by
  have hrelease (earlier : ℕ) : gopRelease lead earlier = 2102 * earlier := by
    unfold gopRelease
    split_ifs with hzero
    · rw [hlead, hzero]
      rfl
    · rfl
  rw [hstart, start_eq_release, hrelease]
  intro earlier hlt
  have hsize := hfits earlier hlt
  rw [hrelease, hrelease]
  omega

end Start

theorem getElem?_patIndex (lead : List TsPacket) {gops : List GopPackets} {number : ℕ}
    {gop : GopPackets} (hgop : gops[number]? = some gop) :
    (lead ++ gops.flatMap GopPackets.packets)[patIndex lead gops number]? = some gop.pat := by
  obtain ⟨hlt, hget⟩ := List.getElem?_eq_some_iff.mp hgop
  have hsplit : lead ++ gops.flatMap GopPackets.packets =
      (lead ++ (gops.take number).flatMap GopPackets.packets ++
        List.replicate gop.padding nullPacket.block) ++
          (gop.content ++ (gops.drop (number + 1)).flatMap GopPackets.packets) := by
    conv_lhs => rw [← List.take_append_drop number gops, List.drop_eq_getElem_cons hlt, hget]
    simp [GopPackets.packets]
  have hindex : patIndex lead gops number =
      (lead ++ (gops.take number).flatMap GopPackets.packets ++
        List.replicate gop.padding nullPacket.block).length := by
    simp only [patIndex, gopOffset, hgop, List.length_append, List.length_replicate,
      Option.map_some, Option.getD_some]
  rw [hsplit, hindex, List.getElem?_append_right (Nat.le_refl _), Nat.sub_self]
  rfl

/-- Seeking in the byte stream finds the packet. -/
theorem seek_packet {packets : List TsPacket} {index : ℕ} {packet : TsPacket}
    (hpacket : packets[index]? = some packet) :
    ((packets.flatMap Block.cells).drop (188 * index)).take 188 = packet.cells := by
  obtain ⟨hindex, rfl⟩ := List.getElem?_eq_some_iff.mp hpacket
  exact slice_flatMap_cells hindex

def GstBuffer.isIdr (buffer : GstBuffer) : Bool := buffer.isVideo && !buffer.deltaUnit

theorem GstBuffer.isIdr_frame (gst : UInt64Scale) (buffer : GstBuffer) :
    (buffer.frame gst).isIdr = buffer.isIdr := by
  rw [Frame.isIdr, GstBuffer.isIdr, GstBuffer.isVideo, GstBuffer.frame]
  cases buffer.caps with
  | videoXH264 => cases buffer.deltaUnit <;> rfl
  | audioMpeg => rfl
  | other => rfl

theorem length_filter_isIdr (gst : UInt64Scale) (buffers : List GstBuffer) :
    ((buffers.map (GstBuffer.frame gst)).filter Frame.isIdr).length =
      (buffers.filter GstBuffer.isIdr).length := by
  rw [List.filter_map, List.length_map]
  congr 2
  funext buffer
  exact buffer.isIdr_frame gst

/-! ## How many packets there can be -/

/-- A step sends no more than one packet for each byte and three more, and for an IDR frame the
padding. -/
theorem length_muxStep_le (program : Program) (state : MuxState) (frame : Frame) :
    (muxStep program state frame).2.length ≤
      (if frame.isIdr then 2102 * state.gops else 0) + frame.data.length + 3 := by
  have hunit (stream : ElementaryStream) (counter : ℕ) :
      (stream.unit counter frame.pts frame.data).length ≤ frame.data.length + 1 := by
    rw [ElementaryStream.length_unit]
    omega
  cases hkind : frame.kind with
  | idr =>
      have hvideo := hunit program.video state.video
      have hmissing : state.missing ≤ 2102 * state.gops := by
        unfold MuxState.missing
        omega
      rw [if_pos (show frame.isIdr = true from decide_eq_true hkind),
        muxStep_idr program state hkind, List.length_append, gopFront, List.length_append,
        List.length_replicate]
      change state.missing + 2 + _ ≤ _
      omega
  | delta =>
      have hvideo := hunit program.video state.video
      rw [if_neg (by simp [Frame.isIdr, hkind]), muxStep_delta program state hkind]
      dsimp only
      omega
  | audio =>
      have haudio := hunit program.audio state.audio
      rw [if_neg (by simp [Frame.isIdr, hkind])]
      by_cases hpackets : state.packets % 2 ^ 64 = 0
      · rw [muxStep_dropped program state hkind hpackets]
        exact Nat.zero_le _
      · rw [muxStep_audio program state hkind hpackets]
        dsimp only
        omega

theorem length_run_le (program : Program) {frames : List Frame} {bound : ℕ}
    (hsize : ∀ frame ∈ frames, frame.data.length ≤ bound) (state : MuxState) :
    ((multiplexer program).run state frames).2.length ≤
      frames.length * (2102 * (state.gops + frames.length) + bound + 3) := by
  induction frames generalizing state with
  | nil => exact Nat.zero_le _
  | cons frame rest ih =>
      have hframe := hsize frame List.mem_cons_self
      have hstep : (muxStep program state frame).2.length ≤
          2102 * state.gops + frame.data.length + 3 := by
        refine (length_muxStep_le program state frame).trans ?_
        split_ifs <;> omega
      have hgops := gops_run program state [frame]
      have hone : ([frame].filter Frame.isIdr).length ≤ 1 := List.length_filter_le _ _
      change (muxStep program state frame).1.gops = _ at hgops
      have htail := ih (fun other hmem ↦ hsize other (List.mem_cons_of_mem _ hmem))
        (muxStep program state frame).1
      have hfactor : rest.length *
          (2102 * ((muxStep program state frame).1.gops + rest.length) + bound + 3) ≤
            rest.length * (2102 * (state.gops + (rest.length + 1)) + bound + 3) :=
        Nat.mul_le_mul_left _ (by omega)
      rw [Mealy.run_cons_snd, List.length_append, List.length_cons, Nat.succ_mul]
      change (muxStep program state frame).2.length +
        ((multiplexer program).run (muxStep program state frame).1 rest).2.length ≤ _
      omega

theorem exists_writtenPackets (gst : UInt64Scale) (results : List TsPacket → Bool) (setup : Setup)
    (videoPcr audioPcr : Bool) {buffers : List GstBuffer} {bound : ℕ}
    (hcaps : ∀ buffer ∈ buffers, buffer.caps ≠ .other)
    (hsize : ∀ buffer ∈ buffers, buffer.data.length ≤ bound) (hbound : bound < 2 ^ 32 - 22)
    (hcount : buffers.length * (2102 * buffers.length + bound + 3) < 2 ^ 64) :
    ∃ packets, writtenPackets gst results setup videoPcr audioPcr buffers = .ok packets ∧
      packets.length < 2 ^ 64 := by
  obtain ⟨program, hcarries⟩ := setup.exists_carriesOut videoPcr audioPcr
  have hframes : ∀ frame ∈ buffers.map (GstBuffer.frame gst), frame.data.length ≤ bound := by
    rw [List.forall_mem_map]
    exact hsize
  have hlength := length_run_le program hframes .initial
  rw [List.length_map, MuxState.initial, Nat.zero_add] at hlength
  refine ⟨_, hcarries.written_of_length gst results hcaps fun buffer hmem ↦ ?_, ?_⟩
  · exact Nat.lt_of_le_of_lt (hsize buffer hmem) hbound
  · rw [List.length_map]
    exact Nat.lt_of_le_of_lt hlength hcount

/-! ## The self-indexing law -/

theorem exists_call_of_idr {gst : UInt64Scale} {results : List TsPacket → Bool} {setup : Setup}
    {videoPcr audioPcr : Bool} {program : Program}
    (hcarries : CarriesOut setup videoPcr audioPcr program) {before after : List GstBuffer}
    {idr : GstBuffer} {packets lead : List TsPacket} {gops : List GopPackets}
    (hok : writtenPackets gst results setup videoPcr audioPcr (before ++ idr :: after) =
      .ok packets)
    (hcut : cutAtGops program .initial ((before ++ idr :: after).map (GstBuffer.frame gst)) =
      (lead, gops)) (hidr : idr.isIdr = true) :
    ∃ gop call, gops[(before.filter GstBuffer.isIdr).length]? = some gop ∧
      writtenPackets gst results setup videoPcr audioPcr before =
        .ok (lead ++ (gops.take (before.filter GstBuffer.isIdr).length).flatMap
          GopPackets.packets) ∧
      writtenPackets gst results setup videoPcr audioPcr (before ++ [idr]) =
        .ok (lead ++ (gops.take (before.filter GstBuffer.isIdr).length).flatMap
          GopPackets.packets ++ call) ∧
      List.replicate gop.padding nullPacket.block ++ [gop.pat, gop.pmt, gop.first] <+: call := by
  have hidrFrame : (idr.frame gst).isIdr = true := (idr.isIdr_frame gst).trans hidr
  obtain ⟨hoffset, tail, hgop⟩ := cutAtGops_split program .initial
    (before.map (GstBuffer.frame gst)) (after.map (GstBuffer.frame gst)) hidrFrame
  rw [List.map_append, List.map_cons] at hcut
  rw [hcut, length_filter_isIdr] at hoffset hgop
  have hbefore := hcarries.written_prefix hok
  rw [List.append_cons] at hok
  have hcall := hcarries.written_prefix hok
  let step := muxStep program (stateAfter gst program before) (idr.frame gst)
  refine ⟨_, step.2.map Packet.block, hgop, ?_, ?_, ?_⟩
  · rw [hbefore]
    exact congrArg Except.ok hoffset
  · rw [hcall, outputsOf_concat, List.map_append]
    exact congrArg (fun earlier ↦ Except.ok (earlier ++ step.2.map Packet.block)) hoffset
  · exact start_prefix_gopAt program (stateAfter gst program before) hidrFrame tail

/-- The packets of a run are those before the first IDR frame and then, for each IDR frame, padding,
the two tables, the start of the frame, and packets of the streams. As long as no counter wraps
around, the PAT of GOP k is at the larger of the end of the GOPs before it and, over the GOPs from
the first up to k, the position of that GOP and the content from there on; if the content of each
GOP before it fits, it is at position 2102 k. -/
theorem self_indexing (gst : UInt64Scale) (results : List TsPacket → Bool) (setup : Setup)
    (videoPcr audioPcr : Bool) {buffers : List GstBuffer} {packets : List TsPacket}
    (hok : writtenPackets gst results setup videoPcr audioPcr buffers = .ok packets)
    (hpackets : packets.length < 2 ^ 64)
    (hgops : 2102 * ((buffers.filter GstBuffer.isIdr).length - 1) < 2 ^ 64) :
    ∃ (lead : List TsPacket) (gops : List GopPackets),
      packets = lead ++ gops.flatMap GopPackets.packets ∧
      gops.length = (buffers.filter GstBuffer.isIdr).length ∧
      OnStream lead ∧ (∀ gop ∈ gops, gop.WellPlaced) ∧
      (∀ before idr after, buffers = before ++ idr :: after → idr.isIdr = true →
        ∃ gop call, gops[(before.filter GstBuffer.isIdr).length]? = some gop ∧
          writtenPackets gst results setup videoPcr audioPcr before =
            .ok (lead ++ (gops.take (before.filter GstBuffer.isIdr).length).flatMap
              GopPackets.packets) ∧
          writtenPackets gst results setup videoPcr audioPcr (before ++ [idr]) =
            .ok (lead ++ (gops.take (before.filter GstBuffer.isIdr).length).flatMap
              GopPackets.packets ++ call) ∧
          List.replicate gop.padding nullPacket.block ++ [gop.pat, gop.pmt, gop.first] <+: call) ∧
      ∀ number gop, gops[number]? = some gop →
        packets[patIndex lead gops number]? = some gop.pat ∧
        patIndex lead gops number =
          max (lead.length + ∑ between ∈ Finset.range number, gopSize gops between)
            ((Finset.Icc 1 number).sup fun earlier ↦
              2102 * earlier + ∑ between ∈ Finset.Ico earlier number, gopSize gops between) ∧
        (lead = [] → (∀ earlier < number, gopSize gops earlier ≤ 2102) →
          patIndex lead gops number = 2102 * number ∧
            ((packets.flatMap Block.cells).drop (2102 * 188 * number)).take 188 =
              gop.pat.cells) := by
  obtain ⟨program, hcarries⟩ := setup.exists_carriesOut videoPcr audioPcr
  let frames := buffers.map (GstBuffer.frame gst)
  obtain ⟨⟨lead, gops⟩, hcut⟩ : ∃ cut, cutAtGops program .initial frames = cut := ⟨_, rfl⟩
  have hsplit := packets_cutAtGops program .initial frames
  have hlength := length_cutAtGops program .initial frames
  obtain ⟨hlead, hplaced⟩ :=
    wellPlaced_cutAtGops hcarries.video_pid hcarries.audio_pid .initial frames
  rw [hcut] at hsplit hlength hlead hplaced
  rw [length_filter_isIdr] at hlength
  have hwritten := hcarries.written gst results buffers packets hok
  have hrun : ((multiplexer program).run .initial frames).2.length < 2 ^ 64 := by
    rw [hwritten, List.length_map] at hpackets
    exact hpackets
  change gops.length = _ at hlength
  refine ⟨lead, gops, hwritten.trans hsplit, hlength, hlead, hplaced, ?_, ?_⟩
  · rintro before idr after rfl hidr
    exact exists_call_of_idr hcarries hok hcut hidr
  · intro number gop hgop
    obtain ⟨hlt, -⟩ := List.getElem?_eq_some_iff.mp hgop
    have hpat : packets[patIndex lead gops number]? = some gop.pat := by
      rw [hwritten.trans hsplit]
      exact getElem?_patIndex lead hgop
    have hstart := patIndex_eq_start lead hlt fun earlier other hle hother ↦
      padding_eq hcut hother hrun (by omega)
    refine ⟨hpat, ?_, ?_⟩
    · exact patIndex_eq_max hstart
    · intro hnone hfits
      have hindex := patIndex_of_fits hstart hnone hfits
      refine ⟨hindex, ?_⟩
      rw [hindex] at hpat
      calc
        _ = ((packets.flatMap Block.cells).drop (188 * (2102 * number))).take 188 := by
          rw [← Nat.mul_assoc, Nat.mul_comm 188 2102]
        _ = gop.pat.cells := seek_packet hpat

/-- An IDR frame, an audio frame and an IDR frame. -/
def twoGops : List GstBuffer :=
  [byteFrame .videoXH264 1000000000 1, byteFrame .audioMpeg 1000000000 2,
    byteFrame .videoXH264 2000000000 3]

theorem length_outputsOf_before_idr (program : Program) (before : List GstBuffer)
    {after : List GstBuffer} {idr : GstBuffer} (hsplit : twoGops = before ++ idr :: after)
    (hidr : idr.isIdr = true) :
    (outputsOf gstUtilUint64Scale program before).length ≤ 8 := by
  have hbefore : before = twoGops.take before.length := by rw [hsplit, List.take_left]
  have hnext : twoGops[before.length]? = some idr := by
    rw [hsplit, List.getElem?_append_right (Nat.le_refl _), Nat.sub_self]
    rfl
  have hlt : before.length < 3 := (List.getElem?_eq_some_iff.mp hnext).1
  obtain ⟨count, hcount⟩ : ∃ count, before.length = count := ⟨_, rfl⟩
  rw [hcount] at hbefore hnext hlt
  subst hbefore
  obtain rfl | rfl | rfl : count = 0 ∨ count = 1 ∨ count = 2 := by omega
  · exact Nat.zero_le _
  · obtain rfl := Option.some.inj hnext
    exact absurd hidr (by decide)
  · let first := (byteFrame .videoXH264 1000000000 1).frame gstUtilUint64Scale
    let second := (byteFrame .audioMpeg 1000000000 2).frame gstUtilUint64Scale
    have hfirst : (muxStep program .initial first).2.length ≤ 0 + 1 + 3 :=
      length_muxStep_le program .initial first
    have hsecond : (muxStep program (muxStep program .initial first).1 second).2.length ≤
        0 + 1 + 3 := length_muxStep_le program _ second
    change ((muxStep program .initial first).2 ++
      ((muxStep program (muxStep program .initial first).1 second).2 ++ [])).length ≤ 8
    rw [List.append_nil, List.length_append]
    omega

/-- The second GOP of two is at packet 2102, behind the padding of the first one. -/
theorem self_indexing_two_gops :
    ∃ (packets lead : List TsPacket) (gops : List GopPackets) (gop : GopPackets),
      writtenPackets gstUtilUint64Scale (fun _ ↦ true) plainSetup true false twoGops =
        .ok packets ∧
      packets = lead ++ gops.flatMap GopPackets.packets ∧ gops[1]? = some gop ∧
      gop.padding ≠ 0 ∧ patIndex lead gops 1 = 2102 ∧ packets[2102]? = some gop.pat ∧
      ((packets.flatMap Block.cells).drop (2102 * 188)).take 188 = gop.pat.cells ∧
      Transport.pid gop.pat.cells = patPid.toNat := by
  have hsize : ∀ buffer ∈ twoGops, buffer.data.length ≤ 1 := by decide
  obtain ⟨packets, hok, hcount⟩ := exists_writtenPackets gstUtilUint64Scale (fun _ ↦ true)
    plainSetup true false (by decide) hsize (by decide) (by decide)
  obtain ⟨lead, gops, hpackets, hlength, -, hplaced, hcalls, hindex⟩ :=
    self_indexing gstUtilUint64Scale (fun _ ↦ true) plainSetup true false hok hcount (by decide)
  obtain ⟨program, hcarries⟩ := plainSetup.exists_carriesOut true false
  have hbefore (before : List GstBuffer) {after : List GstBuffer} {idr : GstBuffer}
      (hsplit : twoGops = before ++ idr :: after) (hidr : idr.isIdr = true) :
      lead ++ (gops.take (before.filter GstBuffer.isIdr).length).flatMap GopPackets.packets =
        (outputsOf gstUtilUint64Scale program before).map Packet.block := by
    obtain ⟨-, -, -, hwritten, -⟩ := hcalls before idr after hsplit hidr
    exact hcarries.written _ _ _ _ hwritten
  have hlead : lead = [] := (List.append_eq_nil_iff.mp (hbefore [] rfl rfl)).1
  have htwo : gops.length = 2 := hlength
  obtain ⟨first, second, rfl⟩ := List.length_eq_two.mp htwo
  have hfirst : first.packets.length ≤ 8 := by
    have hcut := congrArg List.length (hbefore (twoGops.take 2) rfl rfl)
    rw [hlead, List.length_map] at hcut
    change (first.packets ++ []).length = _ at hcut
    rw [List.append_nil] at hcut
    rw [hcut]
    exact length_outputsOf_before_idr program (twoGops.take 2) rfl rfl
  have hfits : ∀ earlier < 1, gopSize [first, second] earlier ≤ 2102 := by
    intro earlier hearlier
    obtain rfl : earlier = 0 := by omega
    change first.content.length ≤ 2102
    rw [GopPackets.packets, List.length_append] at hfirst
    omega
  obtain ⟨hpat, -, hposition⟩ := hindex 1 second rfl
  obtain ⟨hat, hbytes⟩ := hposition hlead hfits
  rw [hat] at hpat
  refine ⟨packets, lead, [first, second], second, hok, hpackets, rfl, ?_, hat, hpat, hbytes,
    (hplaced second (by simp)).pat⟩
  intro hnone
  have hoffset : patIndex lead [first, second] 1 = first.packets.length := by
    rw [patIndex, gopOffset, hlead]
    change (first.packets ++ []).length + second.padding = _
    rw [hnone, List.append_nil, Nat.add_zero]
  omega

end SpTsMuxer.Spts
