import SpTsMuxer.Muxer.Tuning
import SpTsMuxer.Psi.Damage
import SpTsMuxer.Transport.Impaired

/-!
# Damaged Tables

The muxer sends the same two tables in front of each IDR frame, and a receiver drops a table whose
CRC is wrong.  So damaged tables cost a receiver that has just begun some GOPs, at most up to the
first one with both tables sound, and they cost a receiver that is playing nothing.
-/

namespace SpTsMuxer.Muxer

open Memory Transport Psi Machine Spts Schedule

/-- A packet of a table that arrives on its PID, with its section damaged. -/
structure TableDamaged (sent received : TsPacket) : Prop where
  table : Transport.pid sent.cells = patPid.toNat ∨ Transport.pid sent.cells = pmtPid.toNat
  pid : Transport.pid received.cells = Transport.pid sent.cells
  damaged : Damaged (sectionBytes (Transport.payload sent.cells))
    (sectionBytes (Transport.payload received.cells))

/-- A packet arrives as it was sent, or it is a damaged table. -/
def Transmitted (sent received : TsPacket) : Prop := received = sent ∨ TableDamaged sent received

theorem Transmitted.pid {sent received : TsPacket} (h : Transmitted sent received) :
    Transport.pid received.cells = Transport.pid sent.cells := by
  rcases h with rfl | hdamaged
  · rfl
  · exact hdamaged.pid

theorem Transmitted.isPat {sent received : TsPacket} (h : Transmitted sent received) :
    isPat sent = isPat received := by
  rw [Muxer.isPat, Muxer.isPat, h.pid]

theorem Transmitted.eq_or_none {sent received : TsPacket} (h : Transmitted sent received)
    {psi : LongSection} (hread : readLongSection (Transport.payload sent.cells) = some psi) :
    received = sent ∨ readLongSection (Transport.payload received.cells) = none := by
  rcases h with hsame | hdamaged
  · exact .inl hsame
  · exact .inr (readLongSection_of_damaged hread hdamaged.damaged)

theorem eq_of_transmitted {sent received : List TsPacket}
    (h : List.Forall₂ Transmitted sent received)
    (hpids : ∀ packet ∈ sent, Transport.pid packet.cells ≠ patPid.toNat ∧
      Transport.pid packet.cells ≠ pmtPid.toNat) : received = sent := by
  induction h with
  | nil => rfl
  | cons hhead _ ih =>
      obtain ⟨hpat, hpmt⟩ := hpids _ List.mem_cons_self
      rcases hhead with rfl | hdamaged
      · rw [ih fun packet hmem ↦ hpids packet (List.mem_cons_of_mem _ hmem)]
      · rcases hdamaged.table with hpid | hpid
        · exact absurd hpid hpat
        · exact absurd hpid hpmt

theorem exists_readLongSection_of_association {bytes : List UInt8} {entries : List (ℕ × ℕ)}
    (h : readProgramAssociation bytes = some entries) :
    ∃ psi, readLongSection bytes = some psi := by
  cases hread : readLongSection bytes with
  | none =>
      rw [readProgramAssociation_of_none hread] at h
      cases h
  | some psi => exact ⟨psi, rfl⟩

theorem exists_readLongSection_of_map {bytes : List UInt8} {map : ProgramMap}
    (h : readProgramMap bytes = some map) : ∃ psi, readLongSection bytes = some psi := by
  cases hread : readLongSection bytes with
  | none =>
      rw [readProgramMap_of_none hread] at h
      cases h
  | some psi => exact ⟨psi, rfl⟩

section Groups

variable {audioFirst : Bool} {program : Program}
  (hcarries : CarriesOut (padSetup audioFirst) true false program)
include hcarries

/-- A GOP on the way keeps its streams, and tables that arrive as they were sent are sound. -/
theorem IsGop.arrives {packets : List Packet} {frames : List Frame}
    (hgop : IsGop program (announcedMap audioFirst) packets frames) {received : List TsPacket}
    (h : List.Forall₂ Transmitted (packets.map Packet.block) received) :
    GroupArrives (announcedMap audioFirst) pmtPid.toNat (received.map Block.cells)
        (frames.map (frameUnitOf program)) ∧
      (received.take 2 = (packets.map Packet.block).take 2 →
        SoundGroup (announcedMap audioFirst) pmtPid.toNat (received.map Block.cells)) := by
  obtain ⟨counter, rest, rfl, hpids, hplays⟩ := hgop
  have hassociates := associates_pat hcarries counter
  have hmaps := maps_pmt hcarries counter
  rw [List.map_cons, List.map_cons] at h
  cases h with
  | @cons _ association _ others hassociation htail =>
      cases htail with
      | @cons _ programMap _ streams hprogramMap hstreams =>
          have hrest : streams = rest.map Packet.block := by
            refine eq_of_transmitted hstreams fun block hmem ↦ ?_
            obtain ⟨packet, hpacket, rfl⟩ := List.mem_map.mp hmem
            rw [Packet.block_cells, Packet.pid_encode]
            exact hpids packet hpacket
          have hcells : streams.map Block.cells = rest.map Packet.encode := by
            rw [hrest, List.map_map]
            rfl
          have hfirst : Associates (announcedMap audioFirst) pmtPid.toNat association.cells ∨
              readLongSection (Transport.payload association.cells) = none := by
            obtain ⟨psi, hread⟩ := exists_readLongSection_of_association hassociates.reads
            rcases hassociation.eq_or_none hread with rfl | hnone
            · exact .inl hassociates
            · exact .inr hnone
          have hsecond : Maps (announcedMap audioFirst) pmtPid.toNat programMap.cells ∨
              readLongSection (Transport.payload programMap.cells) = none := by
            obtain ⟨psi, hread⟩ := exists_readLongSection_of_map hmaps.reads
            rcases hprogramMap.eq_or_none hread with rfl | hnone
            · exact .inl hmaps
            · exact .inr hnone
          rw [List.map_cons, List.map_cons, hcells]
          refine ⟨⟨_, _, _, rfl, ⟨?_, hfirst, ?_, hsecond, ?_⟩, hplays⟩, fun hsame ↦ ?_⟩
          · rw [hassociation.pid]
            exact hassociates.pid
          · rw [hprogramMap.pid]
            exact hmaps.pid
          · intro raw hmem
            obtain ⟨packet, hpacket, rfl⟩ := List.mem_map.mp hmem
            rw [Packet.pid_encode]
            exact hpids packet hpacket
          · obtain ⟨rfl, htables⟩ := List.cons.inj hsame
            obtain ⟨rfl, -⟩ := List.cons.inj htables
            exact ⟨_, _, _, rfl, hassociates, hmaps⟩

theorem gops_arrive {groups : List (List Packet)} {frames : List (List Frame)}
    (hgops : List.Forall₂ (IsGop program (announcedMap audioFirst)) groups frames)
    {received : List (List TsPacket)}
    (h : List.Forall₂ (List.Forall₂ Transmitted) (groups.map (List.map Packet.block)) received) :
    List.Forall₂ (GroupArrives (announcedMap audioFirst) pmtPid.toNat)
        (received.map (List.map Block.cells)) (frames.map (List.map (frameUnitOf program))) ∧
      ∀ (number : ℕ) (sent arrived : List TsPacket),
        (groups.map (List.map Packet.block))[number]? = some sent →
          received[number]? = some arrived → arrived.take 2 = sent.take 2 →
            SoundGroup (announcedMap audioFirst) pmtPid.toNat (arrived.map Block.cells) := by
  induction hgops generalizing received with
  | nil =>
      cases h
      exact ⟨.nil, fun number sent arrived hsent _ _ ↦ by simp at hsent⟩
  | cons hgop _ ih =>
      rw [List.map_cons] at h
      cases h with
      | cons hfirst hrest =>
          obtain ⟨harrives, hsound⟩ := hgop.arrives hcarries hfirst
          obtain ⟨hgroups, hsounds⟩ := ih hrest
          refine ⟨.cons harrives hgroups, fun number sent arrived hsent harrived htables ↦ ?_⟩
          cases number with
          | zero =>
              obtain rfl := Option.some.inj hsent
              obtain rfl := Option.some.inj harrived
              exact hsound htables
          | succ number => exact hsounds number sent arrived hsent harrived htables

end Groups

/-! ## Main result -/

/-- Damaged tables only delay a receiver. Some packets of the two tables arrive damaged, with a
burst of up to 32 wrong bits or two wrong bits in the section, and everything else as it was sent.
Then the receiver gets all frames from some IDR frame on, at the latest from the first one both of
whose tables have arrived as they were sent; only audio frames of 169 bytes are missing. -/
theorem damaged_tables_only_delay (gst : UInt64Scale) (results : List TsPacket → Bool)
    (audioFirst : Bool) {buffers : List GstBuffer} {packets received : List TsPacket}
    (hok : muxedPackets gst results (padOrder audioFirst) buffers = .ok packets)
    (hcount : packets.length < 2 ^ 64) (hchannel : List.Forall₂ Transmitted packets received) :
    ∃ number, watch (received.flatMap Block.cells) =
        shown ((cutAt GstBuffer.isIdr buffers).2.drop number).flatten ∧
      ∀ (sound : ℕ) (sent arrived : List TsPacket), (cutAt isPat packets).2[sound]? = some sent →
        (cutAt isPat received).2[sound]? = some arrived → arrived.take 2 = sent.take 2 →
          number ≤ sound := by
  obtain ⟨program, hcarries, hcaps, groups, hsent, hgops⟩ := exists_gops hok hcount
  obtain ⟨-, hgroups⟩ := forall₂_cutAt (fun _ _ htransmitted ↦ htransmitted.isPat) hchannel
  rw [hsent] at hgroups ⊢
  obtain ⟨harrive, hsound⟩ := gops_arrive hcarries hgops hgroups
  obtain ⟨number, hunits, hbound⟩ := Waiting.groups (distinct_announcedMap audioFirst) harrive
    Waiting.idle
  refine ⟨number, ?_, fun sound sent arrived hsent harrived htables ↦
    hbound sound (arrived.map Block.cells) ?_ (hsound sound sent arrived hsent harrived htables)⟩
  · have hwait : ∀ block ∈ (cutAt isPat received).1, Transport.pid block.cells ≠ 0 :=
      fun block hmem hpid ↦ not_mark_of_mem_lead hmem (decide_eq_true hpid)
    rw [← append_flatten_cutAt isPat received, watch_append_of_waiting hwait, watch,
      packetsIn_flatMap_cells, List.map_flatten, Tuner.delivered, hunits, List.reverse_reverse,
      ← List.map_drop, ← List.map_drop, ← List.map_flatten, ← List.map_flatten]
    refine filterMap_deliver_frames hcarries gst fun buffer hmem ↦ hcaps buffer ?_
    obtain ⟨group, hgroup, hbuffer⟩ := List.mem_flatten.mp hmem
    rw [← append_flatten_cutAt GstBuffer.isIdr buffers]
    exact List.mem_append_right _ (List.mem_flatten.mpr ⟨group, List.mem_of_mem_drop hgroup,
      hbuffer⟩)
  · rw [List.getElem?_map, harrived]
    rfl

/-- The payload of the PAT with a wrong bit in the PID of the program map. -/
def wrongPat : List UInt8 := (patSectionOf programNumber pmtPid).payload.set 12 0x21

theorem length_wrongPat : wrongPat.length = 184 := by
  rw [wrongPat, List.length_set]
  exact LongSection.length_payload _ (by decide)

theorem damaged_wrongPat :
    Damaged (sectionBytes (patSectionOf programNumber pmtPid).payload) (sectionBytes wrongPat) := by
  refine ⟨by decide +kernel, .inl ⟨95, [], 32, by decide, by decide +kernel⟩⟩

theorem payload_ne_wrongPat : (patSectionOf programNumber pmtPid).payload ≠ wrongPat := by
  decide +kernel

theorem exists_damaged_twoGops :
    ∃ packets received group, muxedPackets gstUtilUint64Scale (fun _ ↦ true) (padOrder false)
      twoGops = .ok packets ∧ packets.length < 2 ^ 64 ∧ List.Forall₂ Transmitted packets received ∧
      packets ≠ received ∧ (cutAt isPat packets).2[1]? = some group ∧
      (cutAt isPat received).2[1]? = some group := by
  obtain ⟨program, hcarries⟩ := (padSetup false).exists_carriesOut true false
  obtain ⟨packets, hok, hcount⟩ := exists_muxed_twoGops
  obtain ⟨hgroups, -⟩ := watch_choose hok hcount
  have hwritten := hok
  rw [muxedPackets_eq] at hwritten
  obtain rfl := hcarries.written gstUtilUint64Scale _ twoGops packets hwritten
  -- The PAT comes first, since nothing is missing in front of the first GOP.
  obtain ⟨rest, hrest⟩ : ∃ rest, (outputsOf gstUtilUint64Scale program twoGops).map Packet.block =
      (program.pat 0).block :: rest := ⟨_, rfl⟩
  rw [hrest] at hok hcount hgroups
  let wrong : Packet := { program.pat 0 with
    payload := wrongPat
    payload_ne_nil := List.ne_nil_of_length_pos (by rw [length_wrongPat]; decide)
    fits := show wrongPat.length + 0 ≤ 184 by rw [length_wrongPat] }
  have hpayload : Transport.payload (program.pat 0).block.cells =
      (patSectionOf programNumber pmtPid).payload :=
    (Packet.payload_encode _).trans hcarries.patPayload
  have hdamaged : TableDamaged (program.pat 0).block wrong.block := by
    refine ⟨.inl (Packet.pid_encode _), ?_, ?_⟩
    · rw [Packet.block_cells, Packet.block_cells, Packet.pid_encode, Packet.pid_encode]
    · rw [hpayload, Packet.block_cells, Packet.payload_encode]
      exact damaged_wrongPat
  have hpat : isPat (program.pat 0).block = true := decide_eq_true (Packet.pid_encode _)
  have hwrong : isPat wrong.block = true := decide_eq_true (Packet.pid_encode _)
  rw [cutAt_cons_marked hpat] at hgroups
  obtain ⟨group, hgroup⟩ : ∃ group, (cutAt isPat rest).2[0]? = some group := by
    have hlength : (cutAt isPat rest).2.length = 1 := Nat.succ.inj hgroups
    exact ⟨_, List.getElem?_eq_getElem (hlength ▸ Nat.one_pos)⟩
  refine ⟨_, wrong.block :: rest, group, hok, hcount,
    .cons (.inr hdamaged) (List.forall₂_same.mpr fun _ _ ↦ .inl rfl), ?_, ?_, ?_⟩
  · intro hsame
    have hpayloads := congrArg (fun block ↦ Transport.payload (Block.cells block))
      (List.cons.inj hsame).1
    rw [hpayload, Packet.block_cells, Packet.payload_encode] at hpayloads
    exact payload_ne_wrongPat hpayloads
  · rw [cutAt_cons_marked hpat]
    exact hgroup
  · rw [cutAt_cons_marked hwrong]
    exact hgroup

theorem damaged_tables_only_delay_twoGops :
    ∃ packets received, muxedPackets gstUtilUint64Scale (fun _ ↦ true) (padOrder false) twoGops =
      .ok packets ∧ packets ≠ received ∧
      ∃ number ≤ 1, watch (received.flatMap Block.cells) =
        shown ((cutAt GstBuffer.isIdr twoGops).2.drop number).flatten := by
  obtain ⟨packets, received, group, hok, hcount, hchannel, hne, hsent, harrived⟩ :=
    exists_damaged_twoGops
  obtain ⟨number, hwatch, hbound⟩ := damaged_tables_only_delay gstUtilUint64Scale (fun _ ↦ true)
    false hok hcount hchannel
  exact ⟨packets, received, hok, hne, number, hbound 1 group group hsent harrived rfl, hwatch⟩

end SpTsMuxer.Muxer
