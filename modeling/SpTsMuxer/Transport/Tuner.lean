import SpTsMuxer.Transport.Demux
import SpTsMuxer.Transport.Section

/-!
# A Receiver That Tunes In

A receiver that begins anywhere in a transport stream and is told nothing about it.  It waits for
a valid program association on PID 0, then for the valid program map that it names, and from then
on collects the PES packets of all streams on the map, in the order in which they begin.  A
continuation of a PES packet whose beginning it has not seen is left out, and so is a PES packet
that does not begin with a start code.

What a piece of a stream adds to what a receiver has seen may be the same for every receiver that
is not between the two tables.  Such pieces can be joined in any order.
-/

namespace SpTsMuxer.Transport

open Memory

/-! ## Packets in a sequence of bytes -/

/-- The whole packets in a sequence of bytes that begins with a packet. -/
def packetsIn (bytes : List UInt8) : List (List UInt8) :=
  (List.range (bytes.length / 188)).map fun position ↦ (bytes.drop (188 * position)).take 188

theorem packetsIn_flatMap_cells (blocks : List (Block UInt8 188)) :
    packetsIn (blocks.flatMap Block.cells) = blocks.map Block.cells := by
  have hcount : (blocks.flatMap Block.cells).length / 188 = blocks.length := by
    rw [length_flatMap_cells]
    omega
  refine List.ext_getElem ?_ fun position hleft hright ↦ ?_
  · rw [packetsIn, List.length_map, List.length_range, hcount, List.length_map]
  · have hposition : position < blocks.length := by
      rwa [List.length_map] at hright
    simp only [packetsIn, List.getElem_map, List.getElem_range]
    exact slice_flatMap_cells hposition

/-! ## The receiver -/

/-- What has come of a PES packet so far, with the type of its stream. -/
structure OpenUnit where
  streamType : ℕ
  pid : ℕ
  bytes : List UInt8
  deriving DecidableEq, Repr

/-- Lengthen the latest PES packet on a PID, if there is one.  The latest one comes first. -/
def extend (number : ℕ) (more : List UInt8) : List OpenUnit → List OpenUnit
  | [] => []
  | unit :: older =>
      if unit.pid = number then { unit with bytes := unit.bytes ++ more } :: older
      else unit :: extend number more older

/-- One packet, for a receiver that knows the program map. -/
def receive (map : ProgramMap) (units : List OpenUnit) (packet : List UInt8) : List OpenUnit :=
  match map.streams.find? fun stream ↦ stream.2 = pid packet with
  | none => units
  | some stream =>
      if payloadUnitStartIndicator packet then
        ⟨stream.1, pid packet, payload packet⟩ :: units
      else extend (pid packet) (payload packet) units

/-- A receiver waits for a program association, waits for the map of its first program, or plays
the streams of a map. -/
inductive Tuner where
  | idle
  | associated (programNumber mapPid : ℕ)
  | playing (map : ProgramMap) (units : List OpenUnit)
  deriving DecidableEq, Repr

namespace Tuner

/-- One packet.  Program number 0 does not stand for a program. -/
def step (tuner : Tuner) (packet : List UInt8) : Tuner :=
  match tuner with
  | .idle =>
      if pid packet = 0 ∧ payloadUnitStartIndicator packet = true then
        match (readProgramAssociation (payload packet)).bind
            (List.find? fun entry ↦ entry.1 ≠ 0) with
        | none => .idle
        | some entry => .associated entry.1 entry.2
      else .idle
  | .associated programNumber mapPid =>
      if pid packet = mapPid ∧ payloadUnitStartIndicator packet = true then
        match readProgramMap (payload packet) with
        | none => .associated programNumber mapPid
        | some map =>
            if map.programNumber = programNumber then .playing map []
            else .associated programNumber mapPid
      else .associated programNumber mapPid
  | .playing map units => .playing map (receive map units packet)

def units : Tuner → List OpenUnit
  | .playing _ units => units
  | _ => []

end Tuner

/-- What a PES packet gives, if it begins with a start code. -/
def OpenUnit.deliver (unit : OpenUnit) : Option (ℕ × AccessUnit) :=
  if [0x00, 0x00, 0x01] <+: unit.bytes then some (unit.streamType, parsePes unit.bytes) else none

/-- What a receiver has got at the end of the stream, in the order in which it began. -/
def Tuner.delivered (tuner : Tuner) : List (ℕ × AccessUnit) :=
  tuner.units.reverse.filterMap OpenUnit.deliver

/-- What a receiver gets that tunes in at the beginning of some bytes. -/
def watch (bytes : List UInt8) : List (ℕ × AccessUnit) :=
  ((packetsIn bytes).foldl Tuner.step .idle).delivered

/-! ## With the program map -/

/-- A map lists a stream of a type on a PID, and no stream before it on the same PID. -/
def Listed (map : ProgramMap) (streamType number : ℕ) : Prop :=
  map.streams.find? (fun stream ↦ stream.2 = number) = some (streamType, number)

/-- Packets that add some PES packets to whatever came before. -/
def Plays (map : ProgramMap) (packets : List (List UInt8)) (units : List OpenUnit) : Prop :=
  ∀ older, packets.foldl (receive map) older = units.reverse ++ older

namespace Plays

variable {map : ProgramMap}

theorem nil (map : ProgramMap) : Plays map [] [] := fun _ ↦ rfl

theorem append {first second : List (List UInt8)} {units units' : List OpenUnit}
    (hfirst : Plays map first units) (hsecond : Plays map second units') :
    Plays map (first ++ second) (units ++ units') := by
  intro older
  rw [List.foldl_append, hfirst older, hsecond (units.reverse ++ older), List.reverse_append,
    List.append_assoc]

theorem of_unlisted {packets : List (List UInt8)}
    (h : ∀ packet ∈ packets, ∀ stream ∈ map.streams, stream.2 ≠ pid packet) :
    Plays map packets [] := by
  induction packets with
  | nil => exact nil map
  | cons packet rest ih =>
      have hnone : map.streams.find? (fun stream ↦ stream.2 = pid packet) = none := by
        rw [List.find?_eq_none]
        intro stream hmem
        rw [decide_eq_true_eq]
        exact h packet List.mem_cons_self stream hmem
      intro older
      have hreceive : receive map older packet = older := by
        rw [receive, hnone]
      rw [List.foldl_cons, hreceive]
      exact ih (fun other hmem ↦ h other (List.mem_cons_of_mem _ hmem)) older

theorem foldl_continuation {streamType number : ℕ} (hlisted : Listed map streamType number)
    {packets : List (List UInt8)}
    (h : ∀ packet ∈ packets, pid packet = number ∧ payloadUnitStartIndicator packet = false)
    (bytes : List UInt8) (older : List OpenUnit) :
    packets.foldl (receive map) (⟨streamType, number, bytes⟩ :: older) =
      ⟨streamType, number, bytes ++ packets.flatMap payload⟩ :: older := by
  induction packets generalizing bytes with
  | nil => simp
  | cons packet rest ih =>
      obtain ⟨hpid, hstart⟩ := h packet List.mem_cons_self
      have hreceive : receive map (⟨streamType, number, bytes⟩ :: older) packet =
          ⟨streamType, number, bytes ++ payload packet⟩ :: older := by
        rw [receive, hpid, hlisted]
        dsimp only
        rw [hstart, if_neg Bool.false_ne_true, extend, if_pos rfl]
      rw [List.foldl_cons, hreceive, ih fun other hmem ↦ h other (List.mem_cons_of_mem _ hmem),
        List.flatMap_cons, List.append_assoc]

/-- A start packet and its continuations add one PES packet. -/
theorem of_unit {streamType number : ℕ} (hlisted : Listed map streamType number)
    {first : List UInt8} {rest : List (List UInt8)} (hpid : pid first = number)
    (hstart : payloadUnitStartIndicator first = true)
    (hrest : ∀ packet ∈ rest, pid packet = number ∧ payloadUnitStartIndicator packet = false) :
    Plays map (first :: rest)
      [⟨streamType, number, payload first ++ rest.flatMap payload⟩] := by
  intro older
  have hreceive : receive map older first = ⟨streamType, number, payload first⟩ :: older := by
    rw [receive, hpid, hlisted]
    dsimp only
    rw [if_pos hstart]
  rw [List.foldl_cons, hreceive, foldl_continuation hlisted hrest]
  rfl

theorem foldl_step {packets : List (List UInt8)} {units : List OpenUnit}
    (h : Plays map packets units) (older : List OpenUnit) :
    packets.foldl Tuner.step (.playing map older) = .playing map (units.reverse ++ older) := by
  have hfold : ∀ (rest : List (List UInt8)) (present : List OpenUnit),
      rest.foldl Tuner.step (.playing map present) =
        .playing map (rest.foldl (receive map) present) := by
    intro rest
    induction rest with
    | nil => exact fun _ ↦ rfl
    | cons packet rest ih => exact fun present ↦ ih (receive map present packet)
  rw [hfold, h older]

end Plays

/-! ## Without the program map -/

/-- A receiver that is not between the two tables. -/
inductive Settled (map : ProgramMap) : Tuner → Prop where
  | idle : Settled map .idle
  | playing (units : List OpenUnit) : Settled map (.playing map units)

/-- A packet with a program association that leads to the map on `mapPid`. -/
structure Associates (map : ProgramMap) (mapPid : ℕ) (packet : List UInt8) : Prop where
  pid : Transport.pid packet = 0
  start : payloadUnitStartIndicator packet = true
  reads : readProgramAssociation (payload packet) = some [(map.programNumber, mapPid)]

/-- A packet with the map. -/
structure Maps (map : ProgramMap) (mapPid : ℕ) (packet : List UInt8) : Prop where
  pid : Transport.pid packet = mapPid
  start : payloadUnitStartIndicator packet = true
  reads : readProgramMap (payload packet) = some map

/-- A map of a program whose streams are not on the PIDs of the tables. -/
structure Distinct (map : ProgramMap) (mapPid : ℕ) : Prop where
  programNumber_ne : map.programNumber ≠ 0
  mapPid_ne : mapPid ≠ 0
  streams_ne : ∀ stream ∈ map.streams, stream.2 ≠ 0 ∧ stream.2 ≠ mapPid

section Tables

variable {map : ProgramMap} {mapPid : ℕ} {packet : List UInt8} (hdistinct : Distinct map mapPid)

include hdistinct in
theorem Associates.step_idle (h : Associates map mapPid packet) :
    Tuner.step .idle packet = .associated map.programNumber mapPid := by
  have hfind : List.find? (fun entry : ℕ × ℕ ↦ entry.1 ≠ 0) [(map.programNumber, mapPid)] =
      some (map.programNumber, mapPid) :=
    List.find?_cons_of_pos (decide_eq_true hdistinct.programNumber_ne)
  rw [Tuner.step, if_pos ⟨h.pid, h.start⟩, h.reads, Option.bind_some, hfind]

theorem Maps.step_associated (h : Maps map mapPid packet) :
    Tuner.step (.associated map.programNumber mapPid) packet = .playing map [] := by
  rw [Tuner.step, if_pos ⟨h.pid, h.start⟩, h.reads]
  dsimp only
  rw [if_pos rfl]

include hdistinct in
theorem plays_tables {packets : List (List UInt8)}
    (h : ∀ packet ∈ packets, Transport.pid packet = 0 ∨ Transport.pid packet = mapPid) :
    Plays map packets [] := by
  refine Plays.of_unlisted fun packet hmem stream hstream ↦ ?_
  obtain ⟨hzero, hmap⟩ := hdistinct.streams_ne stream hstream
  rcases h packet hmem with hpid | hpid
  · rw [hpid]
    exact hzero
  · rw [hpid]
    exact hmap

end Tables

/-- Packets that add some PES packets to what any such receiver has got. -/
def Renders (map : ProgramMap) (packets : List (List UInt8)) (units : List OpenUnit) : Prop :=
  ∀ tuner, Settled map tuner → Settled map (packets.foldl Tuner.step tuner) ∧
    (packets.foldl Tuner.step tuner).units = units.reverse ++ tuner.units

namespace Renders

variable {map : ProgramMap}

theorem nil (map : ProgramMap) : Renders map [] [] := fun _ h ↦ ⟨h, rfl⟩

theorem append {first second : List (List UInt8)} {units units' : List OpenUnit}
    (hfirst : Renders map first units) (hsecond : Renders map second units') :
    Renders map (first ++ second) (units ++ units') := by
  intro tuner hsettled
  obtain ⟨hmiddle, hunits⟩ := hfirst tuner hsettled
  obtain ⟨hlast, hunits'⟩ := hsecond _ hmiddle
  rw [List.foldl_append]
  refine ⟨hlast, ?_⟩
  rw [hunits', hunits, List.reverse_append, List.append_assoc]

/-- A receiver that is waiting learns the map from the two tables; one that is playing passes over
them. -/
theorem of_tables {mapPid : ℕ} (hdistinct : Distinct map mapPid)
    {association programMap : List UInt8} (hassociation : Associates map mapPid association)
    (hmap : Maps map mapPid programMap) {packets : List (List UInt8)} {units : List OpenUnit}
    (h : Plays map packets units) :
    Renders map (association :: programMap :: packets) units := by
  intro tuner hsettled
  cases hsettled with
  | idle =>
      rw [List.foldl_cons, hassociation.step_idle hdistinct, List.foldl_cons,
        hmap.step_associated, h.foldl_step]
      exact ⟨.playing _, rfl⟩
  | playing older =>
      have htables : Plays map [association, programMap] [] := by
        refine plays_tables hdistinct fun packet hmem ↦ ?_
        rw [List.mem_cons, List.mem_singleton] at hmem
        rcases hmem with rfl | rfl
        · exact .inl hassociation.pid
        · exact .inr hmap.pid
      have hall : Plays map (association :: programMap :: packets) units := htables.append h
      rw [hall.foldl_step]
      exact ⟨.playing _, rfl⟩

/-- What a receiver gets that tunes in in front of such packets. -/
theorem watch_eq {blocks : List (Block UInt8 188)} {units : List OpenUnit}
    (h : Renders map (blocks.map Block.cells) units) :
    watch (blocks.flatMap Block.cells) = units.filterMap OpenUnit.deliver := by
  obtain ⟨-, hunits⟩ := h .idle .idle
  rw [watch, packetsIn_flatMap_cells, Tuner.delivered, hunits]
  change (units.reverse ++ []).reverse.filterMap _ = _
  rw [List.append_nil, List.reverse_reverse]

end Renders

theorem watch_append_of_waiting {front : List (Block UInt8 188)}
    (hfront : ∀ block ∈ front, pid block.cells ≠ 0) (blocks : List (Block UInt8 188)) :
    watch ((front ++ blocks).flatMap Block.cells) = watch (blocks.flatMap Block.cells) := by
  have hidle : (front.map Block.cells).foldl Tuner.step .idle = .idle := by
    induction front with
    | nil => rfl
    | cons block rest ih =>
        have hstep : Tuner.step .idle block.cells = .idle :=
          if_neg fun h ↦ hfront block List.mem_cons_self h.1
        rw [List.map_cons, List.foldl_cons, hstep]
        exact ih fun other hmem ↦ hfront other (List.mem_cons_of_mem _ hmem)
  rw [watch, watch, packetsIn_flatMap_cells, packetsIn_flatMap_cells, List.map_append,
    List.foldl_append, hidle]

end SpTsMuxer.Transport
