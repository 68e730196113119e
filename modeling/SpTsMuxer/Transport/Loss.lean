import SpTsMuxer.Schedule.Cut
import SpTsMuxer.Transport.Demux

/-!
# A Receiver that Misses Packets

A receiver of one PID puts PES packets together and looks at the continuity counters.  If a counter
does not follow the one before it, packets are missing, and the receiver gives up the PES packet
that it has begun.  It takes a PES packet for complete when the next one begins.

Compared with a receiver that is told of every loss it makes no mistake as long as no sixteen
packets in a row are missing.  So it gets a PES packet exactly if all of its packets arrive and the
first one of the next, and what it gets is as it was sent.
-/

namespace SpTsMuxer.Transport

open Schedule

/-! ## The two receivers -/

/-- The counter seen last, the PES packet that has begun, and those that are complete. -/
structure Assembler where
  last : Option ℕ
  current : Option (List UInt8)
  complete : List (List UInt8)
  deriving DecidableEq, Repr

namespace Assembler

def new : Assembler := ⟨none, none, []⟩

/-- One packet. -/
def step (state : Assembler) (packet : List UInt8) : Assembler :=
  let follows := state.last.all fun last ↦ continuityCounter packet = (last + 1) % 16
  let current := if follows then state.current else none
  if payloadUnitStartIndicator packet then {
    last := some (continuityCounter packet)
    current := some (payload packet)
    complete := state.complete ++ current.toList }
  else {
    last := some (continuityCounter packet)
    current := current.map fun bytes ↦ bytes ++ payload packet
    complete := state.complete }

end Assembler

/-- The PES packets that a receiver of one PID takes for complete. -/
def reassembled (number : ℕ) (packets : List (List UInt8)) : List (List UInt8) :=
  ((packets.filter fun packet ↦ pid packet = number).foldl Assembler.step .new).complete

/-- A packet that is sent, and whether it arrives. -/
abbrev Arrival := List UInt8 × Bool

/-- The packets that arrive. -/
def arrived (entries : List Arrival) : List (List UInt8) := (entries.filter Prod.snd).map Prod.fst

/-- What a receiver has that is told of every loss. -/
structure Informed where
  current : Option (List UInt8)
  complete : List (List UInt8)

namespace Informed

def new : Informed := ⟨none, []⟩

/-- One packet, which arrives or is lost. -/
def step (state : Informed) (entry : Arrival) : Informed :=
  if entry.2 then
    if payloadUnitStartIndicator entry.1 then {
      current := some (payload entry.1)
      complete := state.complete ++ state.current.toList }
    else { state with current := state.current.map fun bytes ↦ bytes ++ payload entry.1 }
  else { state with current := none }

end Informed

/-! ## Counters reveal losses -/

/-- Packets numbered one after the other. -/
def Counted (number : ℕ) (packets : List (List UInt8)) : Prop :=
  ∀ position packet, packets[position]? = some packet →
    continuityCounter packet = (number + position) % 16

theorem Counted.of_cons {number : ℕ} {packet : List UInt8} {rest : List (List UInt8)}
    (h : Counted number (packet :: rest)) :
    continuityCounter packet = number % 16 ∧ Counted (number + 1) rest := by
  refine ⟨h 0 packet rfl, fun position other hother ↦ ?_⟩
  rw [h (position + 1) other hother]
  congr 1
  omega

theorem counted_append {number : ℕ} {packets more : List (List UInt8)} :
    Counted number (packets ++ more) ↔
      Counted number packets ∧ Counted (number + packets.length) more := by
  constructor
  · intro h
    refine ⟨fun position packet hpacket ↦ h position packet ?_, fun position packet hpacket ↦ ?_⟩
    · obtain ⟨hlt, -⟩ := List.getElem?_eq_some_iff.mp hpacket
      rw [List.getElem?_append_left hlt]
      exact hpacket
    · rw [Nat.add_assoc]
      refine h _ packet ?_
      rw [List.getElem?_append_right (Nat.le_add_right _ _), Nat.add_sub_cancel_left]
      exact hpacket
  · rintro ⟨hpackets, hmore⟩ position packet hpacket
    rcases Nat.lt_or_ge position packets.length with hlt | hge
    · rw [List.getElem?_append_left hlt] at hpacket
      exact hpackets position packet hpacket
    · rw [List.getElem?_append_right hge] at hpacket
      rw [hmore _ packet hpacket, Nat.add_assoc, Nat.add_sub_cancel' hge]

theorem counted_congr {number other : ℕ} (h : number % 16 = other % 16)
    (packets : List (List UInt8)) : Counted number packets ↔ Counted other packets := by
  refine forall_congr' fun position ↦ forall₂_congr fun packet _ ↦ ?_
  rw [Nat.add_mod, h, ← Nat.add_mod]

/-- No sixteen packets in a row are lost. -/
def NoLongGap (flags : List Bool) : Prop := ¬List.replicate 16 false <:+: flags

/-- Fewer than sixteen losses altogether. -/
theorem noLongGap_of_count {flags : List Bool} (h : flags.count false < 16) : NoLongGap flags := by
  intro hinfix
  have hcount := hinfix.sublist.count_le false
  rw [List.count_replicate_self] at hcount
  omega

/-- The next packet has the number `number`, and the last `gap` packets have been lost.  After a
loss the informed receiver has given up what the other one has not given up yet. -/
structure Agrees (number gap : ℕ) (state : Assembler) (informed : Informed) : Prop where
  complete : state.complete = informed.complete
  last : ∀ last, state.last = some last → (last + 1 + gap) % 16 = number % 16
  fresh : state.last = none → state.current = none
  current : gap = 0 → state.current = informed.current
  lost : gap ≠ 0 → informed.current = none

theorem agrees_new (number : ℕ) : Agrees number 0 .new .new where
  complete := rfl
  last := nofun
  fresh := fun _ ↦ rfl
  current := fun _ ↦ rfl
  lost := fun h ↦ absurd rfl h

theorem Agrees.lose {number gap : ℕ} {state : Assembler} {informed : Informed}
    (h : Agrees number gap state informed) (packet : List UInt8) :
    Agrees (number + 1) (gap + 1) state (informed.step (packet, false)) where
  complete := h.complete
  last := by
    intro last hlast
    have hold := h.last last hlast
    omega
  fresh := h.fresh
  current := fun hgap ↦ absurd hgap (Nat.succ_ne_zero gap)
  lost := fun _ ↦ rfl

/-- Behind a gap of fewer than sixteen packets the counter tells whether there is one. -/
theorem Agrees.noticed {number gap : ℕ} {state : Assembler} {informed : Informed}
    (h : Agrees number gap state informed) (hgap : gap < 16) {packet : List UInt8}
    (hcounter : continuityCounter packet = number % 16) :
    (if state.last.all (fun last ↦ continuityCounter packet = (last + 1) % 16) then state.current
      else none) = informed.current := by
  cases hlast : state.last with
  | none =>
      rw [Option.all_none, if_pos rfl, h.fresh hlast]
      by_cases hzero : gap = 0
      · rw [← h.current hzero, h.fresh hlast]
      · rw [h.lost hzero]
  | some last =>
      have hnumber := h.last last hlast
      rw [Option.all_some, hcounter]
      by_cases hzero : gap = 0
      · rw [if_pos (decide_eq_true (by omega))]
        exact h.current hzero
      · rw [if_neg (by rw [decide_eq_true_eq]; omega), h.lost hzero]

theorem Agrees.arrive {number gap : ℕ} {state : Assembler} {informed : Informed}
    (h : Agrees number gap state informed) (hgap : gap < 16) {packet : List UInt8}
    (hcounter : continuityCounter packet = number % 16) :
    Agrees (number + 1) 0 (state.step packet) (informed.step (packet, true)) := by
  have hnext : ∀ last, some (continuityCounter packet) = some last →
      (last + 1 + 0) % 16 = (number + 1) % 16 := by
    intro last hlast
    obtain rfl := Option.some.inj hlast
    rw [hcounter]
    omega
  have hnoticed := h.noticed hgap hcounter
  unfold Assembler.step Informed.step
  dsimp only
  rw [hnoticed, if_pos rfl]
  by_cases hstart : payloadUnitStartIndicator packet = true
  · rw [if_pos hstart, if_pos hstart]
    exact ⟨by rw [h.complete], hnext, nofun, fun _ ↦ rfl, fun hne ↦ absurd rfl hne⟩
  · rw [if_neg hstart, if_neg hstart]
    exact ⟨h.complete, hnext, nofun, fun _ ↦ rfl, fun hne ↦ absurd rfl hne⟩

/-- Counters are as good as being told. -/
theorem complete_foldl_step {entries : List Arrival} {number gap : ℕ} {state : Assembler}
    {informed : Informed} (h : Agrees number gap state informed)
    (hcounted : Counted number (entries.map Prod.fst))
    (hgaps : NoLongGap (List.replicate gap false ++ entries.map Prod.snd)) :
    ((arrived entries).foldl Assembler.step state).complete =
      (entries.foldl Informed.step informed).complete := by
  induction entries generalizing number gap state informed with
  | nil => exact h.complete
  | cons entry rest ih =>
      obtain ⟨packet, arrives⟩ := entry
      obtain ⟨hcounter, hrest⟩ := hcounted.of_cons
      cases arrives with
      | false =>
          refine ih (h.lose packet) hrest ?_
          rw [List.replicate_succ', List.append_assoc]
          exact hgaps
      | true =>
          have hgap : gap < 16 := by
            by_contra hlong
            apply hgaps
            rw [← Nat.add_sub_cancel' (Nat.not_lt.mp hlong), List.replicate_add, List.append_assoc]
            exact (List.prefix_append _ _).isInfix
          refine ih (h.arrive hgap hcounter) hrest fun hinfix ↦ hgaps ?_
          refine hinfix.trans (List.IsSuffix.isInfix ⟨List.replicate gap false ++ [true], ?_⟩)
          rw [List.append_assoc]
          rfl

/-! ## Whole PES packets -/

/-- Whether a PES packet is taken for complete: all of its packets arrive, and the first one of the
next. -/
def surviving : List (List Arrival) → List Bool
  | [] => []
  | group :: rest =>
      (group.all Prod.snd && rest.head?.any fun next ↦ next.head?.any Prod.snd) :: surviving rest

/-- The items with a flag. -/
def flagged {α : Type} (flags : List Bool) (items : List α) : List α :=
  ((items.zip flags).filter Prod.snd).map Prod.fst

section Flagged

variable {α β : Type}

theorem flagged_cons (flag : Bool) (flags : List Bool) (item : α) (items : List α) :
    flagged (flag :: flags) (item :: items) =
      (if flag then [item] else []) ++ flagged flags items := by
  cases flag <;> rfl

theorem flagged_map (translate : α → β) (flags : List Bool) (items : List α) :
    flagged flags (items.map translate) = (flagged flags items).map translate := by
  induction items generalizing flags with
  | nil => rfl
  | cons item items ih =>
      cases flags with
      | nil => rfl
      | cons flag flags =>
          rw [List.map_cons, flagged_cons, flagged_cons, List.map_append, ih]
          cases flag <;> rfl

theorem mem_of_mem_flagged {flags : List Bool} {items : List α} {item : α}
    (hmem : item ∈ flagged flags items) : item ∈ items := by
  obtain ⟨entry, hentry, rfl⟩ := List.mem_map.mp hmem
  exact (List.of_mem_zip (List.mem_of_mem_filter hentry)).1

end Flagged

/-- The payload of some packets. -/
def payloadOf (group : List Arrival) : List UInt8 := group.flatMap fun entry ↦ payload entry.1

theorem Informed.foldl_continuation {entries : List Arrival}
    (h : ∀ entry ∈ entries, payloadUnitStartIndicator entry.1 = false) (state : Informed) :
    entries.foldl Informed.step state = {
      current := if entries.all Prod.snd then
        state.current.map fun bytes ↦ bytes ++ payloadOf entries else none
      complete := state.complete } := by
  induction entries generalizing state with
  | nil => simp [payloadOf]
  | cons entry rest ih =>
      obtain ⟨packet, arrives⟩ := entry
      have hstart : payloadUnitStartIndicator packet = false := h (packet, arrives)
        List.mem_cons_self
      rw [List.foldl_cons, ih fun other hmem ↦ h other (List.mem_cons_of_mem _ hmem)]
      cases arrives with
      | false => simp [Informed.step]
      | true =>
          rw [List.all_cons, Bool.true_and]
          simp [Informed.step, hstart, payloadOf, Function.comp_def]

theorem Informed.foldl_group {first : Arrival} {rest : List Arrival}
    (hfirst : payloadUnitStartIndicator first.1 = true)
    (hrest : ∀ entry ∈ rest, payloadUnitStartIndicator entry.1 = false) (state : Informed) :
    (first :: rest).foldl Informed.step state = {
      current := if (first :: rest).all Prod.snd then some (payloadOf (first :: rest)) else none
      complete := state.complete ++ if first.2 then state.current.toList else [] } := by
  obtain ⟨packet, arrives⟩ := first
  rw [List.foldl_cons, Informed.foldl_continuation hrest]
  cases arrives with
  | false => simp [Informed.step]
  | true =>
      rw [List.all_cons, Bool.true_and]
      simp [Informed.step, hfirst, payloadOf]

/-- A PES packet begins with a start indicator and has no other one. -/
def IsPesPacket (group : List Arrival) : Prop :=
  ∃ first rest, group = first :: rest ∧ payloadUnitStartIndicator first.1 = true ∧
    ∀ entry ∈ rest, payloadUnitStartIndicator entry.1 = false

/-- All PES packets: the one that has begun is complete if the first packet behind it arrives. -/
theorem Informed.complete_foldl_groups {groups : List (List Arrival)}
    (h : ∀ group ∈ groups, IsPesPacket group) (state : Informed) :
    (groups.flatten.foldl Informed.step state).complete = state.complete ++
      ((if groups.head?.any fun next ↦ next.head?.any Prod.snd then state.current.toList else []) ++
        (flagged (surviving groups) groups).map payloadOf) := by
  induction groups generalizing state with
  | nil => simp [flagged]
  | cons group groups ih =>
      obtain ⟨first, rest, rfl, hfirst, hrest⟩ := h group List.mem_cons_self
      have htail := ih fun other hmem ↦ h other (List.mem_cons_of_mem _ hmem)
      rw [List.flatten_cons, List.foldl_append, Informed.foldl_group hfirst hrest, htail,
        surviving, flagged_cons, List.map_append, List.append_assoc]
      congr 1
      change (if first.2 = true then _ else _) ++ _ = (if first.2 = true then _ else _) ++ _
      congr 1
      cases (first :: rest).all Prod.snd with
      | false => simp
      | true =>
          cases groups.head?.any fun next ↦ next.head?.any Prod.snd with
          | false => simp
          | true => simp

theorem isPesPacket_of_mem_groups {entries group : List Arrival}
    (hmem : group ∈ (cutAt (fun entry ↦ payloadUnitStartIndicator entry.1) entries).2) :
    IsPesPacket group := by
  obtain ⟨number, hgroup⟩ := List.getElem?_of_mem hmem
  obtain ⟨first, rest, -, hsplit, hfirst, hrest, -⟩ := exists_of_group hgroup
  exact ⟨first, rest, hsplit, hfirst, fun entry hentry ↦ Bool.eq_false_iff.mpr (hrest entry hentry)⟩

/-- What a receiver gets that misses packets: the PES packets all of whose packets arrive and the
first packet of the next one, as they were sent. -/
theorem complete_eq_surviving {entries : List Arrival} {number : ℕ}
    (hcounted : Counted number (entries.map Prod.fst)) (hgaps : NoLongGap (entries.map Prod.snd)) :
    ((arrived entries).foldl Assembler.step .new).complete =
      (flagged
        (surviving (cutAt (fun entry ↦ payloadUnitStartIndicator entry.1) entries).2)
        (cutAt (fun entry ↦ payloadUnitStartIndicator entry.1) entries).2).map payloadOf := by
  let mark : Arrival → Bool := fun entry ↦ payloadUnitStartIndicator entry.1
  have hlead : (cutAt mark entries).1.foldl Informed.step .new = .new := by
    have hcontinuation : ∀ entry ∈ (cutAt mark entries).1,
        payloadUnitStartIndicator entry.1 = false :=
      fun entry hmem ↦ Bool.eq_false_iff.mpr (@not_mark_of_mem_lead _ mark _ _ hmem)
    rw [Informed.foldl_continuation hcontinuation]
    simp [Informed.new]
  have hgroups := Informed.complete_foldl_groups
    (fun group hmem ↦ @isPesPacket_of_mem_groups entries group hmem) .new
  have hnone : (Informed.new.current.toList : List (List UInt8)) = [] := rfl
  rw [hnone, ite_self] at hgroups
  rw [complete_foldl_step (agrees_new number) hcounted hgaps]
  conv_lhs => rw [← append_flatten_cutAt mark entries, List.foldl_append, hlead]
  exact hgroups

/-! ## One PID of a stream -/

/-- The arrivals on a PID. -/
def arrivalsOn (number : ℕ) (entries : List Arrival) : List Arrival :=
  entries.filter fun entry ↦ pid entry.1 = number

/-- The arrivals on a PID, from one start indicator up to the next. -/
def pesPackets (number : ℕ) (entries : List Arrival) : List (List Arrival) :=
  (cutAt (fun entry ↦ payloadUnitStartIndicator entry.1) (arrivalsOn number entries)).2

theorem map_fst_arrivalsOn (number : ℕ) (entries : List Arrival) :
    (arrivalsOn number entries).map Prod.fst =
      (entries.map Prod.fst).filter fun packet ↦ pid packet = number := by
  rw [arrivalsOn, List.filter_map]
  rfl

/-- Packets on other PIDs do not matter, whether they arrive or not. -/
theorem reassembled_arrived (number : ℕ) (entries : List Arrival) :
    reassembled number (arrived entries) =
      ((arrived (arrivalsOn number entries)).foldl Assembler.step .new).complete := by
  have hfilter : (arrived entries).filter (fun packet ↦ pid packet = number) =
      arrived (arrivalsOn number entries) := by
    rw [arrived, arrived, arrivalsOn, List.filter_map, List.filter_filter, List.filter_filter]
    congr 1
    refine List.filter_congr fun entry _ ↦ ?_
    rw [Bool.and_comm]
    rfl
  rw [reassembled, hfilter]

theorem reassembled_eq_surviving {number counter : ℕ} {entries : List Arrival}
    (hcounted : Counted counter ((arrivalsOn number entries).map Prod.fst))
    (hgaps : NoLongGap ((arrivalsOn number entries).map Prod.snd)) :
    reassembled number (arrived entries) =
      flagged (surviving (pesPackets number entries))
        ((pesPackets number entries).map payloadOf) := by
  rw [reassembled_arrived, complete_eq_surviving hcounted hgaps, flagged_map, pesPackets]

end SpTsMuxer.Transport
