import SpTsMuxer.Transport.Tuner

/-!
# A Receiver of Damaged Tables

Some tables of a stream arrive without a valid section, and all other packets as they were sent.
A receiver drops such a table.  It then waits for the next one, and if it is playing already it
does not notice.  So it gets everything from some group of packets on, which is not behind the
first group with two sound tables.
-/

namespace SpTsMuxer.Transport

/-- A packet on PID 0 and one on the PID of the map, each sound or without a valid section, and
packets on other PIDs. -/
structure Arrives (map : ProgramMap) (mapPid : ℕ) (association programMap : List UInt8)
    (rest : List (List UInt8)) : Prop where
  association_pid : pid association = 0
  association : Associates map mapPid association ∨ readLongSection (payload association) = none
  programMap_pid : pid programMap = mapPid
  programMap : Maps map mapPid programMap ∨ readLongSection (payload programMap) = none
  rest : ∀ packet ∈ rest, pid packet ≠ 0 ∧ pid packet ≠ mapPid

/-- A group of packets that begins with its tables and adds some PES packets. -/
def GroupArrives (map : ProgramMap) (mapPid : ℕ) (packets : List (List UInt8))
    (units : List OpenUnit) : Prop :=
  ∃ association programMap rest, packets = association :: programMap :: rest ∧
    Arrives map mapPid association programMap rest ∧ Plays map rest units

/-- A group whose two tables are sound. -/
def SoundGroup (map : ProgramMap) (mapPid : ℕ) (packets : List (List UInt8)) : Prop :=
  ∃ association programMap rest, packets = association :: programMap :: rest ∧
    Associates map mapPid association ∧ Maps map mapPid programMap

/-- A receiver that does not have the map yet. -/
inductive Waiting (map : ProgramMap) (mapPid : ℕ) : Tuner → Prop where
  | idle : Waiting map mapPid .idle
  | associated : Waiting map mapPid (.associated map.programNumber mapPid)

section Steps

variable {map : ProgramMap} {mapPid : ℕ}

theorem Waiting.units {tuner : Tuner} (h : Waiting map mapPid tuner) : tuner.units = [] := by
  cases h <;> rfl

theorem Waiting.foldl_step {tuner : Tuner} (h : Waiting map mapPid tuner)
    {packets : List (List UInt8)}
    (hpackets : ∀ packet ∈ packets, pid packet ≠ 0 ∧ pid packet ≠ mapPid) :
    packets.foldl Tuner.step tuner = tuner := by
  induction packets with
  | nil => rfl
  | cons packet rest ih =>
      obtain ⟨hzero, hmap⟩ := hpackets packet List.mem_cons_self
      have hstep : Tuner.step tuner packet = tuner := by
        cases h with
        | idle => exact if_neg fun hand ↦ hzero hand.1
        | associated => exact if_neg fun hand ↦ hmap hand.1
      rw [List.foldl_cons, hstep]
      exact ih fun other hmem ↦ hpackets other (List.mem_cons_of_mem _ hmem)

theorem readProgramAssociation_of_none {bytes : List UInt8} (h : readLongSection bytes = none) :
    readProgramAssociation bytes = none := by
  rw [readProgramAssociation, h]

theorem readProgramMap_of_none {bytes : List UInt8} (h : readLongSection bytes = none) :
    readProgramMap bytes = none := by
  rw [readProgramMap, h]

theorem Waiting.step_of_none {tuner : Tuner} (h : Waiting map mapPid tuner)
    {packet : List UInt8} (hnone : readLongSection (payload packet) = none) :
    Tuner.step tuner packet = tuner := by
  cases h with
  | idle =>
      rw [Tuner.step, readProgramAssociation_of_none hnone]
      exact ite_self _
  | associated =>
      rw [Tuner.step, readProgramMap_of_none hnone]
      exact ite_self _

variable (hdistinct : Distinct map mapPid)
include hdistinct

/-- A receiver that waits begins to play, unless a table of the group is damaged. -/
theorem Waiting.group {tuner : Tuner} (h : Waiting map mapPid tuner)
    {packets : List (List UInt8)} {units : List OpenUnit}
    (hgroup : GroupArrives map mapPid packets units) :
    packets.foldl Tuner.step tuner = .playing map units.reverse ∨
      (Waiting map mapPid (packets.foldl Tuner.step tuner) ∧ ¬SoundGroup map mapPid packets) := by
  obtain ⟨association, programMap, rest, rfl, harrives, hplays⟩ := hgroup
  have hidle : Waiting map mapPid .idle := .idle
  -- After the first table the receiver is associated, unless that table is damaged.
  have hfirst : Waiting map mapPid (Tuner.step tuner association) ∧
      (Associates map mapPid association →
        Tuner.step tuner association = .associated map.programNumber mapPid) := by
    cases h with
    | idle =>
        rcases harrives.association with hsound | hnone
        · rw [hsound.step_idle hdistinct]
          exact ⟨.associated, fun _ ↦ rfl⟩
        · rw [hidle.step_of_none hnone]
          refine ⟨.idle, fun hsound ↦ ?_⟩
          have hreads := hsound.reads
          rw [readProgramAssociation_of_none hnone] at hreads
          cases hreads
    | associated =>
        have hstep : Tuner.step (.associated map.programNumber mapPid) association =
            .associated map.programNumber mapPid := by
          refine if_neg fun hand ↦ ?_
          exact hdistinct.mapPid_ne (hand.1.symm.trans harrives.association_pid)
        rw [hstep]
        exact ⟨.associated, fun _ ↦ rfl⟩
  obtain ⟨hwaiting, hassociated⟩ := hfirst
  rw [List.foldl_cons, List.foldl_cons]
  generalize Tuner.step tuner association = middle at hwaiting hassociated
  rcases harrives.programMap with hsound | hnone
  · cases hwaiting with
    | idle =>
        have hstep : Tuner.step .idle programMap = .idle := by
          refine if_neg fun hand ↦ ?_
          exact hdistinct.mapPid_ne (harrives.programMap_pid.symm.trans hand.1)
        rw [hstep, hidle.foldl_step harrives.rest]
        refine .inr ⟨.idle, ?_⟩
        rintro ⟨first, second, tail, hsplit, hfirst, -⟩
        obtain ⟨rfl, -⟩ := List.cons.inj hsplit
        cases hassociated hfirst
    | associated =>
        rw [hsound.step_associated, hplays.foldl_step, List.append_nil]
        exact .inl rfl
  · rw [hwaiting.step_of_none hnone, hwaiting.foldl_step harrives.rest]
    refine .inr ⟨hwaiting, ?_⟩
    rintro ⟨first, second, tail, hsplit, -, hsecond⟩
    obtain ⟨-, htail⟩ := List.cons.inj hsplit
    obtain ⟨rfl, -⟩ := List.cons.inj htail
    have hreads := hsecond.reads
    rw [readProgramMap_of_none hnone] at hreads
    cases hreads

theorem plays_group {packets : List (List UInt8)} {units : List OpenUnit}
    (hgroup : GroupArrives map mapPid packets units) : Plays map packets units := by
  obtain ⟨association, programMap, rest, rfl, harrives, hplays⟩ := hgroup
  have htables : Plays map [association, programMap] [] := by
    refine plays_tables hdistinct fun packet hmem ↦ ?_
    rw [List.mem_cons, List.mem_singleton] at hmem
    rcases hmem with rfl | rfl
    · exact .inl harrives.association_pid
    · exact .inr harrives.programMap_pid
  exact htables.append hplays

theorem plays_groups {groups : List (List (List UInt8))} {units : List (List OpenUnit)}
    (h : List.Forall₂ (GroupArrives map mapPid) groups units) :
    Plays map groups.flatten units.flatten := by
  induction h with
  | nil => exact Plays.nil map
  | cons hgroup _ ih => exact (plays_group hdistinct hgroup).append ih

/-- A receiver that waits gets everything from some group on, at the latest from the first one whose
two tables are sound. -/
theorem Waiting.groups {groups : List (List (List UInt8))} {units : List (List OpenUnit)}
    (h : List.Forall₂ (GroupArrives map mapPid) groups units) {tuner : Tuner}
    (hwaiting : Waiting map mapPid tuner) :
    ∃ number, (groups.flatten.foldl Tuner.step tuner).units =
        (units.drop number).flatten.reverse ∧
      ∀ earlier group, groups[earlier]? = some group → SoundGroup map mapPid group →
        number ≤ earlier := by
  induction h generalizing tuner with
  | nil => exact ⟨0, hwaiting.units, fun earlier group hgroup _ ↦ Nat.zero_le _⟩
  | cons hgroup hgroups ih =>
      rw [List.flatten_cons, List.foldl_append]
      rcases hwaiting.group hdistinct hgroup with hplaying | ⟨hstill, hunsound⟩
      · refine ⟨0, ?_, fun earlier group _ _ ↦ Nat.zero_le _⟩
        rw [hplaying, (plays_groups hdistinct hgroups).foldl_step, List.drop_zero,
          List.flatten_cons, List.reverse_append]
        rfl
      · obtain ⟨number, hunits, hbound⟩ := ih hstill
        refine ⟨number + 1, hunits, fun earlier group hat hsound ↦ ?_⟩
        cases earlier with
        | zero =>
            obtain rfl := Option.some.inj hat
            exact absurd hsound hunsound
        | succ earlier => exact Nat.succ_le_succ (hbound earlier group hat hsound)

end Steps

end SpTsMuxer.Transport
