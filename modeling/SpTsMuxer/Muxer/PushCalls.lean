import SpTsMuxer.Machine.Fallible
import SpTsMuxer.Muxer.PushBuffer

/-!
# Packets and Property Writes on One Muxer

The property `pushbufsize` of a muxer can be written at any time, also while packets wait in the
push buffer.  The write function stores a packet if the fill is below the limit, and pushes a
buffer if the fill is the limit; above the limit it does neither and still returns `TRUE`.

What one call can do is said once, for every state in which the fill is inside the object.  From
there it is seen that a packet is only ever thrown away after the limit has been set to a value
that is not above the number of waiting packets.
-/

namespace SpTsMuxer.Muxer

open Memory Machine Spts

/-! ## Calls -/

/-- The properties of the element. -/
inductive PropId where
  | muxrate
  | pushbufSize
  | invalid
  deriving DecidableEq, Repr

/-- `sptsmuxer_set_property`.  The mux rate is a field of the SpTs that no modelled function
reads. -/
def sptsmuxerSetProperty (muxer : PushMuxer) (propId : PropId) (value : UInt32) : PushMuxer :=
  match propId with
  | .muxrate => muxer
  | .pushbufSize => { muxer with pushbufsize := value }
  | .invalid => muxer

/-- What can happen to a muxer: a packet for its write function, or a write of `pushbufsize`. -/
inductive PushCall where
  | pushPacket (data : TsPacket)
  | setPushbufsize (value : UInt32)
  deriving DecidableEq

/-- One call.  The result of the write function is not kept. -/
def PushState.call (allocator : Allocator) (state : PushState) :
    PushCall → Except Fault PushState
  | .pushPacket data => Prod.snd <$> sptsmuxerPushPacketCb allocator state data
  | .setPushbufsize value =>
      .ok { state with muxer := sptsmuxerSetProperty state.muxer .pushbufSize value }

/-! ## What one call does -/

/-- The waiting packets are inside the object, and there are none without one. -/
structure PushState.Inside (state : PushState) : Prop where
  used_of_none : state.pushbuf = none → state.muxer.pushbufused = 0
  size_lt : ∀ pushbuf, state.pushbuf = some pushbuf → pushbuf.size < 2 ^ 32
  used_le : ∀ pushbuf, state.pushbuf = some pushbuf →
    state.muxer.pushbufused.toNat * 188 ≤ pushbuf.size

theorem PushState.inside_initial (pushbufsize : UInt32) : (initial pushbufsize).Inside where
  used_of_none _ := rfl
  size_lt _ h := by cases h
  used_le _ h := by cases h

/-- The object that a call of the write function works on. -/
def readyPushbuf (allocator : Allocator) (state : PushState) : Option Pushbuf :=
  match state.pushbuf with
  | some pushbuf => some pushbuf
  | none => gMalloc allocator (state.muxer.pushbufsize * tspacketLength)

section Ready

variable (allocator : Allocator) {state : PushState} (h : state.Inside)
include h

theorem initializePushbuf_eq :
    initializePushbuf allocator state = { state with pushbuf := readyPushbuf allocator state } := by
  have hused := h.used_of_none
  obtain ⟨_ | pushbuf, pushbufsize, pushbufused, pushed⟩ := state
  · obtain rfl : pushbufused = 0 := hused rfl
    rfl
  · rfl

theorem muxer_initializePushbuf : (initializePushbuf allocator state).muxer = state.muxer := by
  rw [initializePushbuf_eq allocator h]

end Ready

/-- The object that a call works on was there before, or it has just been allocated with the
product of the source as its size, or there is none because that product is zero. -/
inductive ReadyPushbuf (state : PushState) : Option Pushbuf → Prop where
  | kept {pushbuf : Pushbuf} (hsome : state.pushbuf = some pushbuf) :
      ReadyPushbuf state (some pushbuf)
  | allocated {pushbuf : Pushbuf} (hnone : state.pushbuf = none)
      (hsize : pushbuf.size = state.muxer.pushbufsize.toNat * 188 % 2 ^ 32)
      (hne : pushbuf.size ≠ 0) : ReadyPushbuf state (some pushbuf)
  | refused (hnone : state.pushbuf = none)
      (hzero : state.muxer.pushbufsize.toNat * 188 % 2 ^ 32 = 0) : ReadyPushbuf state none

section Ready

variable (allocator : Allocator) {state : PushState} (h : state.Inside)
include h

/-- What the first lines lead to. -/
theorem ready_cases : ReadyPushbuf state (initializePushbuf allocator state).pushbuf := by
  have hproduct : (state.muxer.pushbufsize * tspacketLength).toNat =
      state.muxer.pushbufsize.toNat * 188 % 2 ^ 32 := UInt32.toNat_mul _ _
  rw [initializePushbuf_eq allocator h]
  change ReadyPushbuf state (readyPushbuf allocator state)
  rw [readyPushbuf]
  cases hpushbuf : state.pushbuf with
  | some pushbuf => exact .kept hpushbuf
  | none =>
      dsimp only
      rw [gMalloc]
      split_ifs with hzero
      · rw [hzero] at hproduct
        exact .refused hpushbuf hproduct.symm
      · refine .allocated hpushbuf hproduct fun hempty ↦ hzero (UInt32.toNat_inj.mp ?_)
        exact hempty

theorem inside_ready : (initializePushbuf allocator state).Inside := by
  have hmuxer := muxer_initializePushbuf allocator h
  have hcases := ready_cases allocator h
  generalize initializePushbuf allocator state = ready at hmuxer hcases
  obtain ⟨object, muxer⟩ := ready
  obtain rfl : muxer = state.muxer := hmuxer
  cases hcases with
  | kept hsome =>
      refine ⟨nofun, fun pushbuf hpushbuf ↦ ?_, fun pushbuf hpushbuf ↦ ?_⟩
      · obtain rfl := Option.some.inj hpushbuf
        exact h.size_lt _ hsome
      · obtain rfl := Option.some.inj hpushbuf
        exact h.used_le _ hsome
  | allocated hnone hsize hne =>
      have hused := h.used_of_none hnone
      refine ⟨fun _ ↦ hused, fun pushbuf hpushbuf ↦ ?_, fun pushbuf _ ↦ ?_⟩
      · obtain rfl := Option.some.inj hpushbuf
        rw [hsize]
        exact Nat.mod_lt _ (by decide)
      · change state.muxer.pushbufused.toNat * 188 ≤ _
        rw [hused]
        exact Nat.zero_le _
  | refused hnone hzero => exact ⟨fun _ ↦ h.used_of_none hnone, nofun, nofun⟩

end Ready

/-- What a call of the write function can come to: there is no object, the packet is stored, it is
written out of bounds, or it is thrown away. -/
inductive PushOutcome (allocator : Allocator) (ready : PushState) (data : TsPacket) :
    Except Fault (Bool × PushState) → Prop where
  | refused (hpushbuf : ready.pushbuf = none) :
      PushOutcome allocator ready data (.ok (false, ready))
  | stored {size : ℕ} {block next : Block UInt8 size}
      (hpushbuf : ready.pushbuf = some ⟨size, block⟩)
      (hroom : ready.muxer.pushbufused < ready.muxer.pushbufsize)
      (hfits : (ready.muxer.pushbufused.toNat + 1) * 188 ≤ size)
      (hnext : next.cells = block.cells.take (188 * ready.muxer.pushbufused.toNat) ++ data.cells ++
        block.cells.drop (188 * ready.muxer.pushbufused.toNat + 188)) :
      PushOutcome allocator ready data (.ok (true, pushBuffer allocator {
        pushbuf := some ⟨size, next⟩
        muxer := { ready.muxer with pushbufused := ready.muxer.pushbufused + 1 } }))
  | outOfBounds {pushbuf : Pushbuf} (hpushbuf : ready.pushbuf = some pushbuf)
      (hroom : ready.muxer.pushbufused < ready.muxer.pushbufsize)
      (hlong : pushbuf.size < (ready.muxer.pushbufused.toNat + 1) * 188) :
      PushOutcome allocator ready data (.error .outOfBounds)
  | dropped {pushbuf : Pushbuf} (hpushbuf : ready.pushbuf = some pushbuf)
      (hfull : ¬ready.muxer.pushbufused < ready.muxer.pushbufsize) :
      PushOutcome allocator ready data (.ok (true, pushBuffer allocator ready))

/-- Every call comes to one of the four. -/
theorem pushOutcome (allocator : Allocator) {state : PushState} (h : state.Inside)
    (data : TsPacket) :
    PushOutcome allocator (initializePushbuf allocator state) data
      (sptsmuxerPushPacketCb allocator state data) := by
  have hinside := inside_ready allocator h
  obtain ⟨ready, hready⟩ : ∃ ready, initializePushbuf allocator state = ready := ⟨_, rfl⟩
  rw [hready] at hinside ⊢
  cases hpushbuf : ready.pushbuf with
  | none =>
      have hcall : sptsmuxerPushPacketCb allocator state data = .ok (false, ready) := by
        rw [sptsmuxerPushPacketCb, hready, hpushbuf]
      rw [hcall]
      exact .refused hpushbuf
  | some pushbuf =>
      have hcall : sptsmuxerPushPacketCb allocator state data =
          sptsmuxerPushPacketCb allocator ready data := by
        rw [sptsmuxerPushPacketCb, hready, sptsmuxerPushPacketCb,
          initializePushbuf_of_some allocator hpushbuf]
      rw [hcall]
      have hsize := hinside.size_lt pushbuf hpushbuf
      by_cases hroom : ready.muxer.pushbufused < ready.muxer.pushbufsize
      · by_cases hfits : (ready.muxer.pushbufused.toNat + 1) * 188 ≤ pushbuf.size
        · obtain ⟨next, hnext, hpush⟩ := push_stored allocator hpushbuf hsize data hroom hfits
          rw [hpush]
          exact .stored hpushbuf hroom hfits hnext
        · rw [push_outOfBounds allocator hpushbuf hsize data hroom
            (hinside.used_le pushbuf hpushbuf) (by omega)]
          exact .outOfBounds hpushbuf hroom (by omega)
      · rw [push_dropped allocator hpushbuf data hroom]
        exact .dropped hpushbuf hroom

theorem pushBuffer_cases (allocator : Allocator) (state : PushState) :
    (state.muxer.pushbufused = state.muxer.pushbufsize ∧
        (pushBuffer allocator state).muxer.pushbufused = 0) ∨
      (state.muxer.pushbufused ≠ state.muxer.pushbufsize ∧ pushBuffer allocator state = state) := by
  rw [pushBuffer]
  split_ifs with hfull
  · exact .inl ⟨hfull, rfl⟩
  · exact .inr ⟨hfull, rfl⟩

theorem pushbuf_pushBuffer (allocator : Allocator) (state : PushState) :
    (pushBuffer allocator state).pushbuf = state.pushbuf := by
  rw [pushBuffer]
  split_ifs <;> rfl

theorem pushbufsize_pushBuffer (allocator : Allocator) (state : PushState) :
    (pushBuffer allocator state).muxer.pushbufsize = state.muxer.pushbufsize := by
  rw [pushBuffer]
  split_ifs <;> rfl

/-- A fill within the limit is below it once a full buffer has been pushed. -/
theorem pushBuffer_used_lt (allocator : Allocator) {state : PushState}
    (hpos : 0 < state.muxer.pushbufsize.toNat)
    (hused : state.muxer.pushbufused.toNat ≤ state.muxer.pushbufsize.toNat) :
    (pushBuffer allocator state).muxer.pushbufused.toNat < state.muxer.pushbufsize.toNat := by
  rcases pushBuffer_cases allocator state with ⟨-, hempty⟩ | ⟨hnotFull, hsame⟩
  · rw [hempty]
    exact hpos
  · have hne := mt UInt32.toNat_inj.mp hnotFull
    rw [hsame]
    omega

theorem PushState.Inside.pushBuffer {state : PushState} (h : state.Inside)
    (allocator : Allocator) : (Muxer.pushBuffer allocator state).Inside := by
  rcases pushBuffer_cases allocator state with ⟨-, hused⟩ | ⟨-, hsame⟩
  · refine ⟨fun _ ↦ hused, fun pushbuf hpushbuf ↦ ?_, fun pushbuf _ ↦ ?_⟩
    · rw [pushbuf_pushBuffer] at hpushbuf
      exact h.size_lt pushbuf hpushbuf
    · rw [hused]
      exact Nat.zero_le _
  · rw [hsame]
    exact h

section Outcome

variable {allocator : Allocator} {ready next : PushState} {data : TsPacket} {result : Bool}
  {answer : Except Fault (Bool × PushState)} (houtcome : PushOutcome allocator ready data answer)
  (hok : answer = .ok (result, next))
include houtcome hok

theorem PushOutcome.inside (h : ready.Inside) : next.Inside := by
  cases houtcome with
  | refused hpushbuf =>
      obtain ⟨-, rfl⟩ := Prod.mk.inj (Except.ok.inj hok)
      exact h
  | stored hpushbuf hroom hfits hnext =>
      obtain ⟨-, rfl⟩ := Prod.mk.inj (Except.ok.inj hok)
      have hused := toNat_pushbufused_add_one hroom
      have hsize := h.size_lt _ hpushbuf
      refine PushState.Inside.pushBuffer ⟨fun hnone ↦ ?_, fun pushbuf hsome ↦ ?_,
        fun pushbuf hsome ↦ ?_⟩ allocator
      · cases hnone
      · obtain rfl := Option.some.inj hsome
        exact hsize
      · obtain rfl := Option.some.inj hsome
        change (ready.muxer.pushbufused + 1).toNat * 188 ≤ _
        rw [hused]
        exact hfits
  | outOfBounds hpushbuf hroom hlong => cases hok
  | dropped hpushbuf hfull =>
      obtain ⟨-, rfl⟩ := Prod.mk.inj (Except.ok.inj hok)
      exact h.pushBuffer allocator

theorem PushOutcome.size_eq {pushbuf : Pushbuf} (hready : ready.pushbuf = some pushbuf) :
    ∃ after, next.pushbuf = some after ∧ after.size = pushbuf.size := by
  cases houtcome with
  | refused hpushbuf =>
      rw [hready] at hpushbuf
      cases hpushbuf
  | stored hpushbuf hroom hfits hnext =>
      obtain ⟨-, rfl⟩ := Prod.mk.inj (Except.ok.inj hok)
      rw [hready] at hpushbuf
      obtain rfl := Option.some.inj hpushbuf
      exact ⟨_, pushbuf_pushBuffer allocator _, rfl⟩
  | outOfBounds hpushbuf hroom hlong => cases hok
  | dropped hpushbuf hfull =>
      obtain ⟨-, rfl⟩ := Prod.mk.inj (Except.ok.inj hok)
      exact ⟨pushbuf, (pushbuf_pushBuffer allocator ready).trans hready, rfl⟩

theorem PushOutcome.pushbufsize_eq :
    next.muxer.pushbufsize = ready.muxer.pushbufsize := by
  cases houtcome with
  | refused hpushbuf =>
      obtain ⟨-, rfl⟩ := Prod.mk.inj (Except.ok.inj hok)
      rfl
  | stored hpushbuf hroom hfits hnext =>
      obtain ⟨-, rfl⟩ := Prod.mk.inj (Except.ok.inj hok)
      exact pushbufsize_pushBuffer allocator _
  | outOfBounds hpushbuf hroom hlong => cases hok
  | dropped hpushbuf hfull =>
      obtain ⟨-, rfl⟩ := Prod.mk.inj (Except.ok.inj hok)
      exact pushbufsize_pushBuffer allocator _

end Outcome

/-- Calls keep the waiting packets inside the object. -/
theorem PushState.Inside.call {allocator : Allocator} {state next : PushState} (h : state.Inside)
    {call : PushCall} (hcall : state.call allocator call = .ok next) : next.Inside := by
  cases call with
  | pushPacket data =>
      obtain ⟨⟨result, pushed⟩, hpush, rfl⟩ := exists_of_map_eq_ok hcall
      exact (pushOutcome allocator h data).inside hpush (inside_ready allocator h)
  | setPushbufsize value =>
      obtain rfl := Except.ok.inj hcall
      exact ⟨h.used_of_none, h.size_lt, h.used_le⟩

/-! ## No packet is thrown away -/

/-- A call of the write function that returns `TRUE` found the fill below the limit and has stored
its packet at the next position. -/
def StoresPacket (allocator : Allocator) (state : PushState) : PushCall → Prop
  | .pushPacket data => ∀ next, sptsmuxerPushPacketCb allocator state data = .ok (true, next) →
      state.muxer.pushbufused < state.muxer.pushbufsize ∧
        ∃ pushbuf, next.pushbuf = some pushbuf ∧
          (pushbuf.block.cells.drop (188 * state.muxer.pushbufused.toNat)).take 188 = data.cells
  | .setPushbufsize _ => True

/-- A limit that a packet meets was set above the number of packets that waited then, or before
there was an object. -/
def LimitAboveWaiting (allocator : Allocator) (pushbufsize : UInt32) (calls : List PushCall) :
    Prop :=
  ∀ before value data after,
    calls = before ++ .setPushbufsize value :: .pushPacket data :: after →
    ∀ state, before.foldlM (PushState.call allocator) (.initial pushbufsize) = .ok state →
      state.pushbuf = none ∨ state.muxer.pushbufused < value

theorem drop_take_stored {size : ℕ} {block next : Block UInt8 size} {data : TsPacket} {used : ℕ}
    (hfits : (used + 1) * 188 ≤ size)
    (hnext : next.cells = block.cells.take (188 * used) ++ data.cells ++
      block.cells.drop (188 * used + 188)) :
    (next.cells.drop (188 * used)).take 188 = data.cells := by
  have hfront : (block.cells.take (188 * used)).length = 188 * used := by
    rw [List.length_take, block.length_cells]
    omega
  rw [hnext, List.append_assoc, List.drop_left' hfront, List.take_left' data.length_cells]

/-- An object is only ever allocated for a limit above zero. -/
theorem used_lt_of_ready (allocator : Allocator) {state : PushState} (h : state.Inside)
    (hlimit : state.pushbuf = none ∨ state.muxer.pushbufused < state.muxer.pushbufsize)
    (hsome : (initializePushbuf allocator state).pushbuf ≠ none) :
    state.muxer.pushbufused < state.muxer.pushbufsize := by
  rcases hlimit with hnone | hless
  · rw [h.used_of_none hnone, UInt32.pos_iff_ne_zero]
    intro hzero
    have hcases := ready_cases allocator h
    generalize (initializePushbuf allocator state).pushbuf = object at hsome hcases
    cases hcases with
    | kept hold =>
        rw [hnone] at hold
        cases hold
    | allocated hnone hsize hne =>
        rw [hzero] at hsize
        exact hne hsize
    | refused hnone hproduct => exact hsome rfl
  · exact hless

/-- With the fill below the limit, a call stores its packet, and the fill stays below. -/
theorem storesPacket_of_lt (allocator : Allocator) {state : PushState} (h : state.Inside)
    (hlimit : state.pushbuf = none ∨ state.muxer.pushbufused < state.muxer.pushbufsize)
    (data : TsPacket) :
    StoresPacket allocator state (.pushPacket data) ∧
      ∀ next, state.call allocator (.pushPacket data) = .ok next →
        next.pushbuf = none ∨ next.muxer.pushbufused < next.muxer.pushbufsize := by
  have houtcome := pushOutcome allocator h data
  have hmuxer := muxer_initializePushbuf allocator h
  have hroom := used_lt_of_ready allocator h hlimit
  rw [PushState.call, StoresPacket]
  generalize hanswer : sptsmuxerPushPacketCb allocator state data = answer at houtcome
  generalize initializePushbuf allocator state = ready at houtcome hroom hmuxer
  cases houtcome with
  | refused hpushbuf =>
      refine ⟨fun next hnext ↦ ?_, fun next hnext ↦ ?_⟩
      · cases hnext
      · obtain rfl := Except.ok.inj hnext
        exact .inl hpushbuf
  | @stored size block after hpushbuf hless hfits hnext =>
      have hused := toNat_pushbufused_add_one hless
      rw [hmuxer] at hless hfits hnext
      constructor
      · intro next hok
        obtain ⟨-, rfl⟩ := Prod.mk.inj (Except.ok.inj hok)
        exact ⟨hless, _, pushbuf_pushBuffer allocator _, drop_take_stored hfits hnext⟩
      · intro next hok
        obtain rfl := Except.ok.inj hok
        let stored : PushState := {
          pushbuf := some ⟨size, after⟩
          muxer := { ready.muxer with pushbufused := ready.muxer.pushbufused + 1 } }
        have hstored : stored.muxer.pushbufused.toNat ≤ stored.muxer.pushbufsize.toNat := by
          change (ready.muxer.pushbufused + 1).toNat ≤ ready.muxer.pushbufsize.toNat
          rw [hused, hmuxer]
          exact UInt32.lt_iff_toNat_lt.mp hless
        have hpos : 0 < stored.muxer.pushbufused.toNat := by
          change 0 < (ready.muxer.pushbufused + 1).toNat
          rw [hused]
          exact Nat.succ_pos _
        have hbelow := pushBuffer_used_lt allocator (Nat.lt_of_lt_of_le hpos hstored) hstored
        right
        rw [UInt32.lt_iff_toNat_lt, pushbufsize_pushBuffer]
        exact hbelow
  | outOfBounds hpushbuf hless hlong =>
      refine ⟨fun next hnext ↦ ?_, fun next hnext ↦ ?_⟩
      all_goals cases hnext
  | dropped hpushbuf hfull =>
      rw [hmuxer] at hfull
      exact absurd (hroom (by rw [hpushbuf]; exact Option.some_ne_none _)) hfull

section Runs

variable {allocator : Allocator} {pushbufsize : UInt32} {calls : List PushCall}

theorem inside_of_run {state : PushState}
    (hrun : calls.foldlM (PushState.call allocator) (.initial pushbufsize) = .ok state) :
    state.Inside :=
  foldlM_invariant (fun _ _ _ h hcall ↦ h.call hcall) (PushState.inside_initial pushbufsize) hrun

/-- Under the condition on the writes, every packet finds the fill below the limit. -/
theorem below_limit_of_writes (h : LimitAboveWaiting allocator pushbufsize calls)
    {before after : List PushCall} {data : TsPacket}
    (hsplit : calls = before ++ .pushPacket data :: after) {state : PushState}
    (hrun : before.foldlM (PushState.call allocator) (.initial pushbufsize) = .ok state) :
    state.pushbuf = none ∨ state.muxer.pushbufused < state.muxer.pushbufsize := by
  induction before using List.reverseRecOn generalizing data after state with
  | nil =>
      obtain rfl := Except.ok.inj hrun
      exact .inl rfl
  | append_singleton earlier last ih =>
      obtain ⟨middle, hearlier, hlast⟩ := foldlM_concat_eq_ok.mp hrun
      rw [List.append_assoc] at hsplit
      cases last with
      | pushPacket previous =>
          have hbelow := ih hsplit hearlier
          have hinside := inside_of_run hearlier
          exact (storesPacket_of_lt allocator hinside hbelow previous).2 state hlast
      | setPushbufsize value =>
          obtain rfl := Except.ok.inj hlast
          exact h earlier value data after hsplit middle hearlier

theorem atEach_storesPacket_iff (allocator : Allocator) (pushbufsize : UInt32)
    (calls : List PushCall) :
    AtEach (PushState.call allocator) (.initial pushbufsize) calls (StoresPacket allocator) ↔
      LimitAboveWaiting allocator pushbufsize calls := by
  constructor
  · intro h before value data after hsplit state hstate
    cases hpushbuf : state.pushbuf with
    | none => exact .inl rfl
    | some pushbuf =>
        right
        let limited : PushState :=
          { state with muxer := sptsmuxerSetProperty state.muxer .pushbufSize value }
        have hlimited : (before ++ [PushCall.setPushbufsize value]).foldlM
            (PushState.call allocator) (.initial pushbufsize) = .ok limited :=
          foldlM_concat_eq_ok.mpr ⟨state, hstate, rfl⟩
        have hstores := h (before ++ [.setPushbufsize value]) (.pushPacket data) after
          (by rw [hsplit, List.append_assoc, List.singleton_append]) limited hlimited
        have houtcome := pushOutcome allocator (inside_of_run hlimited) data
        rw [initializePushbuf_of_some allocator (show limited.pushbuf = some pushbuf from hpushbuf)]
          at houtcome
        rw [StoresPacket] at hstores
        generalize sptsmuxerPushPacketCb allocator limited data = answer at hstores houtcome
        cases houtcome with
        | refused hnone =>
            have hsome : limited.pushbuf = some pushbuf := hpushbuf
            rw [hnone] at hsome
            cases hsome
        | stored hsome hroom hfits hnext => exact hroom
        | outOfBounds hsome hroom hlong => exact hroom
        | dropped hsome hfull => exact (hstores _ rfl).1
  · intro h before call after hsplit state hstate
    cases call with
    | setPushbufsize value => trivial
    | pushPacket data =>
        exact (storesPacket_of_lt allocator (inside_of_run hstate)
          (below_limit_of_writes h hsplit hstate) data).1

theorem limitAboveWaiting_iff_exists {final : PushState}
    (hrun : calls.foldlM (PushState.call allocator) (.initial pushbufsize) = .ok final) :
    LimitAboveWaiting allocator pushbufsize calls ↔ ∀ before value data after,
      calls = before ++ .setPushbufsize value :: .pushPacket data :: after → ∃ state,
        before.foldlM (PushState.call allocator) (.initial pushbufsize) = .ok state ∧
          (state.pushbuf = none ∨ state.muxer.pushbufused < value) := by
  constructor
  · rintro h before value data after rfl
    obtain ⟨state, hstate, -⟩ := foldlM_append_eq_ok.mp hrun
    exact ⟨state, hstate, h before value data after rfl state hstate⟩
  · intro h before value data after hsplit state hstate
    obtain ⟨reached, hreached, hlimit⟩ := h before value data after hsplit
    obtain rfl : reached = state := Except.ok.inj (hreached.symm.trans hstate)
    exact hlimit

/-- No packet is thrown away behind a `TRUE`.  In every run of packets and writes of the property,
each call that returns `TRUE` has stored its packet exactly if every limit that a packet meets was
set above the number of packets that waited then.  Runs are judged up to the first packet that is
written out of bounds; in a run without one every call and every write is reached. -/
theorem storesPacket_iff_limitAboveWaiting (allocator : Allocator) (pushbufsize : UInt32)
    (calls : List PushCall) :
    (AtEach (PushState.call allocator) (.initial pushbufsize) calls (StoresPacket allocator) ↔
      LimitAboveWaiting allocator pushbufsize calls) ∧
    ∀ final, calls.foldlM (PushState.call allocator) (.initial pushbufsize) = .ok final →
      ((∀ before call after, calls = before ++ call :: after → ∃ state,
          before.foldlM (PushState.call allocator) (.initial pushbufsize) = .ok state ∧
            StoresPacket allocator state call) ↔
        ∀ before value data after,
          calls = before ++ .setPushbufsize value :: .pushPacket data :: after → ∃ state,
            before.foldlM (PushState.call allocator) (.initial pushbufsize) = .ok state ∧
              (state.pushbuf = none ∨ state.muxer.pushbufused < value)) := by
  refine ⟨atEach_storesPacket_iff allocator pushbufsize calls, fun final hrun ↦ ?_⟩
  rw [← atEach_iff_exists hrun, ← limitAboveWaiting_iff_exists hrun]
  exact atEach_storesPacket_iff allocator pushbufsize calls

end Runs

theorem exists_one_waiting (data : TsPacket) :
    ∃ (state : PushState) (block : Block UInt8 376),
      [PushCall.pushPacket data].foldlM (PushState.call (.filled 0)) (.initial 2) = .ok state ∧
        state.pushbuf = some ⟨376, block⟩ ∧ state.muxer.pushbufused.toNat = 1 := by
  rcases collected_or_fault (.filled 0) (show (2 : UInt32) * tspacketLength ≠ 0 by decide)
      [data] (by simp) with ⟨-, state, hstate, hcollected⟩ | ⟨hlong, -⟩
  · rcases hcollected.cells with ⟨hnil, -⟩ | ⟨block, rest, hpushbuf, -⟩
    · exact absurd hnil (List.cons_ne_nil _ _)
    · exact ⟨state, block, hstate, hpushbuf, hcollected.used⟩
  · exact absurd hlong (by simp [tspacketLength])

theorem exists_raised_run (data : TsPacket) :
    ∃ state final : PushState,
      [PushCall.pushPacket data].foldlM (PushState.call (.filled 0)) (.initial 2) = .ok state ∧
        state.muxer.pushbufused < 3 ∧
        ([.pushPacket data, .setPushbufsize 3, .pushPacket data] : List PushCall).foldlM
          (PushState.call (.filled 0)) (.initial 2) = .ok final := by
  obtain ⟨state, block, hstate, hpushbuf, hused⟩ := exists_one_waiting data
  let raised : PushState :=
    { state with muxer := sptsmuxerSetProperty state.muxer .pushbufSize 3 }
  have hraised : ([PushCall.pushPacket data] ++ [PushCall.setPushbufsize 3]).foldlM
      (PushState.call (.filled 0)) (.initial 2) = .ok raised :=
    foldlM_concat_eq_ok.mpr ⟨state, hstate, rfl⟩
  have hbelow : state.muxer.pushbufused < 3 := by
    rw [UInt32.lt_iff_toNat_lt, hused]
    decide
  have hfits : (raised.muxer.pushbufused.toNat + 1) * 188 ≤ 376 := by
    change (state.muxer.pushbufused.toNat + 1) * 188 ≤ 376
    rw [hused]
  obtain ⟨next, -, hpush⟩ := push_stored (.filled 0) (show raised.pushbuf = _ from hpushbuf)
    (by decide) data hbelow hfits
  have hlast : raised.call (.filled 0) (.pushPacket data) = .ok _ := congrArg (Prod.snd <$> ·) hpush
  have hrun : ([PushCall.pushPacket data, PushCall.setPushbufsize 3] ++
      [PushCall.pushPacket data]).foldlM (PushState.call (.filled 0)) (.initial 2) = .ok _ :=
    foldlM_concat_eq_ok.mpr ⟨raised, hraised, hlast⟩
  exact ⟨state, _, hstate, hbelow, hrun⟩

/-- A limit of two is raised to three while one packet waits, and both packets are stored. -/
theorem storesPacket_raised_limit :
    ∀ before call after, [.pushPacket (Block.fill 188 0x47), .setPushbufsize 3,
        .pushPacket (Block.fill 188 0x47)] = before ++ call :: after → ∃ state,
      before.foldlM (PushState.call (.filled 0)) (.initial 2) = .ok state ∧
        StoresPacket (.filled 0) state call := by
  obtain ⟨state, final, hstate, hbelow, hrun⟩ := exists_raised_run (Block.fill 188 0x47)
  refine ((storesPacket_iff_limitAboveWaiting (.filled 0) 2 _).2 final hrun).mpr ?_
  -- The only write that a packet meets comes behind the first packet.
  intro before value other after hsplit
  rcases before with _ | ⟨first, _ | ⟨second, before⟩⟩
  · exact absurd (List.cons.inj hsplit).1 nofun
  · obtain ⟨rfl, htail⟩ := List.cons.inj hsplit
    obtain ⟨hvalue, -⟩ := List.cons.inj htail
    obtain rfl := PushCall.setPushbufsize.inj hvalue
    exact ⟨state, hstate, .inr hbelow⟩
  · have hlength := congrArg List.length hsplit
    simp only [List.length_append, List.length_cons, List.length_nil] at hlength
    omega

/-- After a limit has been lowered to the number of waiting packets, a packet is thrown away. -/
theorem not_storesPacket_of_lowered_limit (data : TsPacket) :
    ¬AtEach (PushState.call (.filled 0)) (.initial 2)
      [.pushPacket data, .setPushbufsize 1, .pushPacket data] (StoresPacket (.filled 0)) := by
  intro h
  obtain ⟨state, block, hstate, hpushbuf, hused⟩ := exists_one_waiting data
  let limited : PushState :=
    { state with muxer := sptsmuxerSetProperty state.muxer .pushbufSize 1 }
  have hlimited : ([PushCall.pushPacket data] ++ [PushCall.setPushbufsize 1]).foldlM
      (PushState.call (.filled 0)) (.initial 2) = .ok limited :=
    foldlM_concat_eq_ok.mpr ⟨state, hstate, rfl⟩
  have hfull : ¬limited.muxer.pushbufused < limited.muxer.pushbufsize := by
    rw [UInt32.lt_iff_toNat_lt, show limited.muxer.pushbufused.toNat = 1 from hused]
    exact Nat.lt_irrefl 1
  have hstores := h [.pushPacket data, .setPushbufsize 1] (.pushPacket data) [] rfl limited
    hlimited
  have hlimitedPushbuf : limited.pushbuf = some ⟨376, block⟩ := hpushbuf
  exact hfull (hstores _ (push_dropped (.filled 0) hlimitedPushbuf _ hfull)).1

/-- A limit of two is lowered to one while one packet waits. -/
theorem not_storesPacket_two_packets :
    ¬AtEach (PushState.call (.filled 0)) (.initial 2)
      [.pushPacket (Block.fill 188 0x47), .setPushbufsize 1, .pushPacket (Block.fill 188 0x47)]
      (StoresPacket (.filled 0)) :=
  not_storesPacket_of_lowered_limit (Block.fill 188 0x47)

end SpTsMuxer.Muxer
