import Mathlib.Logic.Function.Basic
import SpTsMuxer.Muxer.PushCalls

/-!
# Many Muxers, One Push Buffer

The push buffer is a variable of the file: all muxers of a process share it.  It is allocated once,
with the limit of the muxer that first writes a packet, while each muxer has its own fill and its
own limit.

A copy into the push buffer stays inside the object as long as every muxer that writes a packet
finds an object with room for as many packets as its limit says.  As soon as a muxer finds a
smaller one, it comes to write out of bounds if only it gets enough packets.
-/

namespace SpTsMuxer.Muxer

open Memory Machine Spts

/-! ## The process -/

/-- The push buffer and all the muxers of a process. -/
structure PushProcess (ι : Type) where
  pushbuf : Option Pushbuf
  muxers : ι → PushMuxer

namespace PushProcess

variable {ι : Type}

/-- A process before any packet.  Fields of a new object are zero: the default value of the
property is not assigned at construction. -/
def initial : PushProcess ι := ⟨none, fun _ ↦ ⟨0, 0, []⟩⟩

/-- What one muxer has to do with. -/
def view (process : PushProcess ι) (muxer : ι) : PushState :=
  ⟨process.pushbuf, process.muxers muxer⟩

/-- For every muxer its waiting packets are inside the object. -/
def Inside (process : PushProcess ι) : Prop := ∀ muxer, (process.view muxer).Inside

theorem inside_initial : (initial : PushProcess ι).Inside := fun _ ↦ PushState.inside_initial 0

variable [DecidableEq ι]

/-- A call on one of the muxers. -/
def step (allocator : Allocator) (process : PushProcess ι) (event : ι × PushCall) :
    Except Fault (PushProcess ι) := do
  let state ← (process.view event.1).call allocator event.2
  pure ⟨state.pushbuf, Function.update process.muxers event.1 state.muxer⟩

theorem step_eq_ok {allocator : Allocator} {process next : PushProcess ι} {muxer : ι}
    {call : PushCall} (h : process.step allocator (muxer, call) = .ok next) :
    ∃ state, (process.view muxer).call allocator call = .ok state ∧ next.view muxer = state ∧
      next.pushbuf = state.pushbuf ∧ ∀ other, other ≠ muxer →
        next.muxers other = process.muxers other := by
  obtain ⟨state, hcall, hnext⟩ := exists_of_bind_eq_ok h
  obtain rfl := Except.ok.inj hnext
  refine ⟨state, hcall, ?_, rfl, fun other hother ↦ Function.update_of_ne hother _ _⟩
  change PushState.mk state.pushbuf (Function.update process.muxers muxer state.muxer muxer) = state
  rw [Function.update_self]

theorem step_of_call {allocator : Allocator} {process : PushProcess ι} {muxer : ι}
    {call : PushCall} {state : PushState}
    (h : (process.view muxer).call allocator call = .ok state) :
    ∃ next, process.step allocator (muxer, call) = .ok next ∧ next.view muxer = state := by
  have hstep : process.step allocator (muxer, call) =
      .ok ⟨state.pushbuf, Function.update process.muxers muxer state.muxer⟩ := by
    rw [step, h]
    rfl
  obtain ⟨found, hfound, hview, -⟩ := step_eq_ok hstep
  obtain rfl : state = found := Except.ok.inj (h.symm.trans hfound)
  exact ⟨_, hstep, hview⟩

/-- Calls on one muxer alone are calls on what it has to do with. -/
theorem atEach_calls {allocator : Allocator} {process : PushProcess ι} {muxer : ι}
    {calls : List PushCall} {P : PushState → PushCall → Prop} :
    AtEach (step allocator) process (calls.map fun call ↦ (muxer, call))
        (fun current event ↦ P (current.view event.1) event.2) ↔
      AtEach (PushState.call allocator) (process.view muxer) calls P := by
  induction calls generalizing process with
  | nil => exact ⟨fun _ ↦ atEach_nil _ _, fun _ ↦ atEach_nil _ _⟩
  | cons call rest ih =>
      rw [List.map_cons, atEach_cons, atEach_cons]
      refine and_congr_right fun _ ↦ ⟨fun h state hstate ↦ ?_, fun h next hnext ↦ ?_⟩
      · obtain ⟨next, hnext, rfl⟩ := step_of_call hstate
        exact ih.mp (h next hnext)
      · obtain ⟨state, hstate, rfl, -⟩ := step_eq_ok hnext
        exact ih.mpr (h _ hstate)

end PushProcess

theorem PushState.size_eq_of_call {allocator : Allocator} {state next : PushState}
    (h : state.Inside) {call : PushCall} (hcall : state.call allocator call = .ok next)
    {pushbuf : Pushbuf} (hpushbuf : state.pushbuf = some pushbuf) :
    ∃ after, next.pushbuf = some after ∧ after.size = pushbuf.size := by
  cases call with
  | pushPacket data =>
      obtain ⟨⟨result, pushed⟩, hpush, rfl⟩ := exists_of_map_eq_ok hcall
      have houtcome := pushOutcome allocator h data
      rw [initializePushbuf_of_some allocator hpushbuf] at houtcome
      exact houtcome.size_eq hpush hpushbuf
  | setPushbufsize value =>
      obtain rfl := Except.ok.inj hcall
      exact ⟨pushbuf, hpushbuf, rfl⟩

theorem PushProcess.Inside.step {ι : Type} [DecidableEq ι] {allocator : Allocator}
    {process next : PushProcess ι} (h : process.Inside) {event : ι × PushCall}
    (hstep : process.step allocator event = .ok next) : next.Inside := by
  obtain ⟨state, hcall, hview, hpushbuf, hothers⟩ := step_eq_ok hstep
  have hinside : state.Inside := (h event.1).call hcall
  intro other
  by_cases hother : other = event.1
  · rw [hother, hview]
    exact hinside
  -- Another muxer has an object of the same size, or no packets that wait.
  have hused : (next.view other).muxer = (process.view other).muxer := hothers other hother
  have hsame : (next.view other).pushbuf = state.pushbuf := hpushbuf
  refine ⟨fun hnone ↦ ?_, fun pushbuf hsome ↦ ?_, fun pushbuf hsome ↦ ?_⟩
  · rw [hused]
    refine (h other).used_of_none ?_
    cases hbefore : (process.view other).pushbuf with
    | none => rfl
    | some earlier =>
        obtain ⟨after, hafter, -⟩ := PushState.size_eq_of_call (h event.1) hcall hbefore
        rw [hsame, hafter] at hnone
        cases hnone
  · rw [hsame] at hsome
    exact hinside.size_lt pushbuf hsome
  · rw [hused]
    cases hbefore : (process.view other).pushbuf with
    | none =>
        rw [(h other).used_of_none hbefore]
        exact Nat.zero_le _
    | some earlier =>
        obtain ⟨after, hafter, hsize⟩ := PushState.size_eq_of_call (h event.1) hcall hbefore
        rw [hsame, hafter] at hsome
        obtain rfl := Option.some.inj hsome
        rw [hsize]
        exact (h other).used_le earlier hbefore

/-! ## Copies -/

/-- The copy of a call of the write function, if it makes one, stays inside the object. -/
def CopyInBounds (allocator : Allocator) (state : PushState) : PushCall → Prop
  | .pushPacket _ =>
      let ready := initializePushbuf allocator state
      ∀ pushbuf, ready.pushbuf = some pushbuf →
        ready.muxer.pushbufused < ready.muxer.pushbufsize →
          (ready.muxer.pushbufused.toNat + 1) * 188 ≤ pushbuf.size
  | .setPushbufsize _ => True

/-- There is an object with room for as many packets as the limit says, or it is about to be
allocated: then the product of the source must not wrap around, unless it is zero and nothing is
allocated. -/
def HasRoom (state : PushState) : Prop :=
  match state.pushbuf with
  | some pushbuf => state.muxer.pushbufsize.toNat * 188 ≤ pushbuf.size
  | none => state.muxer.pushbufsize.toNat * 188 < 2 ^ 32 ∨
      state.muxer.pushbufsize.toNat * 188 % 2 ^ 32 = 0

/-- A muxer that gets a packet finds enough room. -/
def RoomForPacket (state : PushState) : PushCall → Prop
  | .pushPacket _ => HasRoom state
  | .setPushbufsize _ => True

theorem HasRoom.ready {state : PushState} (hroom : HasRoom state) (h : state.Inside)
    (allocator : Allocator) {pushbuf : Pushbuf}
    (hpushbuf : (initializePushbuf allocator state).pushbuf = some pushbuf) :
    state.muxer.pushbufsize.toNat * 188 ≤ pushbuf.size := by
  have hcases := ready_cases allocator h
  rw [hpushbuf] at hcases
  rw [HasRoom] at hroom
  cases hcases with
  | kept hsome =>
      rw [hsome] at hroom
      exact hroom
  | allocated hnone hsize hne =>
      rw [hnone] at hroom
      rcases hroom with hsmall | hwrapped
      · rw [hsize, Nat.mod_eq_of_lt hsmall]
      · exact absurd (hsize.trans hwrapped) hne

/-- Nothing is allocated only for a product of zero. -/
theorem mul_mod_eq_zero_of_refused {state : PushState} (h : state.Inside) (allocator : Allocator)
    (hnone : (initializePushbuf allocator state).pushbuf = none) :
    state.muxer.pushbufsize.toNat * 188 % 2 ^ 32 = 0 := by
  have hcases := ready_cases allocator h
  rw [hnone] at hcases
  cases hcases with
  | refused hbefore hzero => exact hzero

/-- A muxer with room copies inside the object, and has room afterwards. -/
theorem HasRoom.push {state : PushState} (hroom : HasRoom state) (h : state.Inside)
    (allocator : Allocator) (data : TsPacket) :
    CopyInBounds allocator state (.pushPacket data) ∧
      ∃ next, state.call allocator (.pushPacket data) = .ok next ∧ HasRoom next := by
  have hmuxer := muxer_initializePushbuf allocator h
  have hinBounds : CopyInBounds allocator state (.pushPacket data) := by
    intro pushbuf hpushbuf hless
    have hlarge := hroom.ready h allocator hpushbuf
    have hlessNat := UInt32.lt_iff_toNat_lt.mp hless
    rw [hmuxer] at hlessNat ⊢
    omega
  refine ⟨hinBounds, ?_⟩
  have hready : ∀ pushbuf, (initializePushbuf allocator state).pushbuf = some pushbuf →
      state.muxer.pushbufsize.toNat * 188 ≤ pushbuf.size :=
    fun _ hpushbuf ↦ hroom.ready h allocator hpushbuf
  have hrefused := mul_mod_eq_zero_of_refused h allocator
  have houtcome := pushOutcome allocator h data
  rw [PushState.call]
  rw [CopyInBounds] at hinBounds
  generalize initializePushbuf allocator state = ready at hmuxer hinBounds hready hrefused houtcome
  generalize hanswer : sptsmuxerPushPacketCb allocator state data = answer at houtcome
  have hkept {next : PushState} (hok : answer = .ok (true, next)) {pushbuf : Pushbuf}
      (hpushbuf : ready.pushbuf = some pushbuf) : HasRoom next := by
    obtain ⟨after, hafter, hsize⟩ := houtcome.size_eq hok hpushbuf
    rw [HasRoom, hafter]
    dsimp only
    rw [houtcome.pushbufsize_eq hok, hmuxer, hsize]
    exact hready pushbuf hpushbuf
  cases houtcome with
  | refused hpushbuf =>
      refine ⟨ready, rfl, ?_⟩
      rw [HasRoom, hpushbuf, hmuxer]
      exact .inr (hrefused hpushbuf)
  | stored hpushbuf hless hfits hnext => exact ⟨_, rfl, hkept rfl hpushbuf⟩
  | outOfBounds hpushbuf hless hlong =>
      have hfits := hinBounds _ hpushbuf hless
      omega
  | dropped hpushbuf hfull => exact ⟨_, rfl, hkept rfl hpushbuf⟩

/-! ## Without room -/

/-- Packets for one muxer. -/
def packetCalls (packets : List TsPacket) : List PushCall := packets.map .pushPacket

/-- In an object that is too small for its limit, a packet is stored or written out of bounds. -/
theorem push_of_too_small {allocator : Allocator} {state : PushState} (h : state.Inside)
    {pushbuf : Pushbuf} (hpushbuf : (initializePushbuf allocator state).pushbuf = some pushbuf)
    (hsmall : pushbuf.size < state.muxer.pushbufsize.toNat * 188) (data : TsPacket) :
    ¬CopyInBounds allocator state (.pushPacket data) ∨
      ∃ next after, state.call allocator (.pushPacket data) = .ok next ∧
        next.pushbuf = some after ∧ after.size = pushbuf.size ∧
        next.muxer.pushbufsize = state.muxer.pushbufsize ∧
        next.muxer.pushbufused.toNat = state.muxer.pushbufused.toNat + 1 := by
  have hmuxer := muxer_initializePushbuf allocator h
  have hused := (inside_ready allocator h).used_le pushbuf hpushbuf
  have houtcome := pushOutcome allocator h data
  rw [PushState.call]
  rw [CopyInBounds]
  generalize initializePushbuf allocator state = ready at hmuxer hused hpushbuf houtcome
  generalize sptsmuxerPushPacketCb allocator state data = answer at houtcome
  have hless : ready.muxer.pushbufused < ready.muxer.pushbufsize := by
    rw [UInt32.lt_iff_toNat_lt]
    rw [hmuxer] at hused ⊢
    omega
  cases houtcome with
  | refused hnone =>
      rw [hpushbuf] at hnone
      cases hnone
  | @stored size block after hsome hroom hfits hnext =>
      rw [hpushbuf] at hsome
      obtain rfl := Option.some.inj hsome
      have hcount := toNat_pushbufused_add_one hroom
      have hnotFull : ready.muxer.pushbufused + 1 ≠ ready.muxer.pushbufsize := by
        intro hfull
        rw [hfull, hmuxer] at hcount
        rw [hmuxer] at hfits
        dsimp only at hsmall
        omega
      right
      rw [pushBuffer, if_neg hnotFull]
      refine ⟨_, _, rfl, rfl, rfl, ?_, ?_⟩
      · change ready.muxer.pushbufsize = state.muxer.pushbufsize
        rw [hmuxer]
      · change (ready.muxer.pushbufused + 1).toNat = _
        rw [hcount, hmuxer]
  | outOfBounds hsome hroom hlong =>
      left
      intro hinBounds
      have hfits := hinBounds _ hsome hroom
      omega
  | dropped hsome hfull => exact absurd hless hfull

/-- Without room, enough packets are written out of bounds. -/
theorem exists_copy_outOfBounds {allocator : Allocator} {state : PushState} (h : state.Inside)
    {pushbuf : Pushbuf} (hpushbuf : (initializePushbuf allocator state).pushbuf = some pushbuf)
    (hsmall : pushbuf.size < state.muxer.pushbufsize.toNat * 188) :
    ∃ packets, ¬AtEach (PushState.call allocator) state (packetCalls packets)
      (CopyInBounds allocator) := by
  induction hleft : pushbuf.size - state.muxer.pushbufused.toNat * 188 using Nat.strongRecOn
    generalizing state pushbuf with
  | ind left ih =>
      let data : TsPacket := Block.fill 188 0xff
      have hused := (inside_ready allocator h).used_le pushbuf hpushbuf
      rw [muxer_initializePushbuf allocator h] at hused
      rcases push_of_too_small h hpushbuf hsmall data with
        hout | ⟨next, after, hnext, hafter, hsize, hlimit, hcount⟩
      · exact ⟨[data], fun hall ↦ hout (atEach_cons.mp hall).1⟩
      · have hinside : next.Inside := h.call hnext
        have hready : (initializePushbuf allocator next).pushbuf = some after := by
          rw [initializePushbuf_of_some allocator hafter, hafter]
        have hless : after.size - next.muxer.pushbufused.toNat * 188 < left := by
          have hnextUsed := hinside.used_le after hafter
          omega
        obtain ⟨packets, hviolated⟩ :=
          ih _ hless hinside hready (by rw [hsize, hlimit]; exact hsmall) rfl
        refine ⟨data :: packets, fun hall ↦ hviolated ?_⟩
        exact (atEach_cons.mp hall).2 next hnext

theorem exists_copy_outOfBounds_of_not_hasRoom {allocator : Allocator} {state : PushState}
    (h : state.Inside) (hroom : ¬HasRoom state) :
    ∃ packets, ¬AtEach (PushState.call allocator) state (packetCalls packets)
      (CopyInBounds allocator) := by
  obtain ⟨pushbuf, hpushbuf, hsmall⟩ : ∃ pushbuf,
      (initializePushbuf allocator state).pushbuf = some pushbuf ∧
        pushbuf.size < state.muxer.pushbufsize.toNat * 188 := by
    rw [initializePushbuf_eq allocator h]
    change ∃ pushbuf, readyPushbuf allocator state = some pushbuf ∧ _
    rw [HasRoom] at hroom
    rw [readyPushbuf]
    cases hbefore : state.pushbuf with
    | some earlier =>
        rw [hbefore] at hroom
        exact ⟨earlier, rfl, Nat.lt_of_not_le hroom⟩
    | none =>
        rw [hbefore] at hroom
        dsimp only at hroom ⊢
        have hproduct : (state.muxer.pushbufsize * tspacketLength).toNat =
            state.muxer.pushbufsize.toNat * 188 % 2 ^ 32 := UInt32.toNat_mul _ _
        have hnonzero : state.muxer.pushbufsize * tspacketLength ≠ 0 := by
          intro hzero
          rw [hzero] at hproduct
          exact hroom (.inr hproduct.symm)
        rw [gMalloc, if_neg hnonzero]
        refine ⟨_, rfl, ?_⟩
        change (state.muxer.pushbufsize * tspacketLength).toNat < _
        rw [hproduct]
        have hlarge : ¬state.muxer.pushbufsize.toNat * 188 < 2 ^ 32 := fun hless ↦
          hroom (.inl hless)
        have hbound : state.muxer.pushbufsize.toNat * 188 % 2 ^ 32 < 2 ^ 32 :=
          Nat.mod_lt _ (by omega)
        omega
  exact exists_copy_outOfBounds h hpushbuf hsmall

theorem copyInBounds_of_hasRoom {allocator : Allocator} {state : PushState} (h : state.Inside)
    (hroom : HasRoom state) (packets : List TsPacket) :
    AtEach (PushState.call allocator) state (packetCalls packets) (CopyInBounds allocator) := by
  induction packets generalizing state with
  | nil => exact atEach_nil state _
  | cons data rest ih =>
      obtain ⟨hinBounds, next, hnext, hroomNext⟩ := hroom.push h allocator data
      refine atEach_cons.mpr ⟨hinBounds, fun other hother ↦ ?_⟩
      obtain rfl : next = other := Except.ok.inj (hnext.symm.trans hother)
      exact ih (h.call hnext) hroomNext

/-! ## Runs -/

section Runs

variable {ι : Type} [DecidableEq ι] (allocator : Allocator)

/-- All copies of a run of the process stay inside the object. -/
def CopiesInBounds (events : List (ι × PushCall)) : Prop :=
  AtEach (PushProcess.step allocator) .initial events fun process event ↦
    CopyInBounds allocator (process.view event.1) event.2

/-- Every muxer that gets a packet in the run finds enough room. -/
def RoomAtEachPacket (events : List (ι × PushCall)) : Prop :=
  AtEach (PushProcess.step allocator) .initial events fun process event ↦
    RoomForPacket (process.view event.1) event.2

theorem exists_step_of_room {process : PushProcess ι} (h : process.Inside)
    (event : ι × PushCall) (hroom : RoomForPacket (process.view event.1) event.2) :
    CopyInBounds allocator (process.view event.1) event.2 ∧
      ∃ next, process.step allocator event = .ok next ∧ next.Inside := by
  obtain ⟨muxer, call⟩ := event
  obtain ⟨hinBounds, state, hstate⟩ : CopyInBounds allocator (process.view muxer) call ∧
      ∃ state, (process.view muxer).call allocator call = .ok state := by
    cases call with
    | pushPacket data =>
        obtain ⟨hinBounds, state, hstate, -⟩ := hroom.push (h muxer) allocator data
        exact ⟨hinBounds, state, hstate⟩
    | setPushbufsize value => exact ⟨trivial, _, rfl⟩
  obtain ⟨next, hnext, -⟩ := PushProcess.step_of_call hstate
  exact ⟨hinBounds, next, hnext, h.step hnext⟩

theorem inside_of_process {events : List (ι × PushCall)} {process : PushProcess ι}
    (hrun : events.foldlM (PushProcess.step allocator) .initial = .ok process) :
    process.Inside :=
  foldlM_invariant (fun _ _ _ h hstep ↦ h.step hstep) PushProcess.inside_initial hrun

theorem copiesInBounds_append {events : List (ι × PushCall)} {process : PushProcess ι}
    (hrun : events.foldlM (PushProcess.step allocator) .initial = .ok process) (muxer : ι)
    (calls : List PushCall) :
    CopiesInBounds allocator (events ++ calls.map fun call ↦ (muxer, call)) ↔
      CopiesInBounds allocator events ∧
        AtEach (PushState.call allocator) (process.view muxer) calls (CopyInBounds allocator) := by
  rw [CopiesInBounds, atEach_append, ← CopiesInBounds]
  refine and_congr_right fun _ ↦ ⟨fun h ↦ ?_, fun h other hother ↦ ?_⟩
  · exact PushProcess.atEach_calls.mp (h process hrun)
  · obtain rfl : process = other := Except.ok.inj (hrun.symm.trans hother)
    exact PushProcess.atEach_calls.mpr h

/-- Copies stay inside the push buffer in every run of any number of muxers in which each muxer that
gets a packet finds room for as many as its limit says. A process that has come to a state without
copying out of bounds stays so for any further packets on one of its muxers exactly if that muxer
has this room. -/
theorem copies_inBounds_of_room :
    (∀ events : List (ι × PushCall), RoomAtEachPacket allocator events →
      CopiesInBounds allocator events ∧
        ∃ process, events.foldlM (PushProcess.step allocator) .initial = .ok process) ∧
      ∀ (events : List (ι × PushCall)) (process : PushProcess ι) (muxer : ι),
        CopiesInBounds allocator events →
        events.foldlM (PushProcess.step allocator) .initial = .ok process →
          ((∀ packets, CopiesInBounds allocator
              (events ++ (packetCalls packets).map fun call ↦ (muxer, call))) ↔
            HasRoom (process.view muxer)) := by
  constructor
  · intro events hroom
    obtain ⟨hinBounds, process, hprocess, -⟩ := AtEach.exists_run
      (fun process event h hevent ↦ exists_step_of_room allocator h event hevent)
      PushProcess.inside_initial hroom
    exact ⟨hinBounds, process, hprocess⟩
  · intro events process muxer hevents hrun
    have hinside := inside_of_process allocator hrun muxer
    constructor
    · intro h
      by_contra hroom
      obtain ⟨packets, hviolated⟩ := exists_copy_outOfBounds_of_not_hasRoom hinside hroom
      exact hviolated ((copiesInBounds_append allocator hrun muxer _).mp (h packets)).2
    · intro hroom packets
      exact (copiesInBounds_append allocator hrun muxer _).mpr
        ⟨hevents, copyInBounds_of_hasRoom hinside hroom packets⟩

end Runs

/-- A muxer that sets its limit to seven: its first packet, and any packets after the limit. -/
theorem copies_inBounds_of_room_seven :
    CopiesInBounds (.filled 0)
        [(true, PushCall.setPushbufsize 7), (true, .pushPacket (Block.fill 188 0x47))] ∧
      ∀ packets, CopiesInBounds (.filled 0)
        ([(true, PushCall.setPushbufsize 7)] ++
          (packetCalls packets).map fun call ↦ (true, call)) := by
  have hset : CopiesInBounds (.filled 0) [(true, PushCall.setPushbufsize 7)] :=
    atEach_cons.mpr ⟨trivial, fun next _ ↦ atEach_nil next _⟩
  refine ⟨((copies_inBounds_of_room (.filled 0)).1 _ ?_).1,
    ((copies_inBounds_of_room (.filled 0)).2 _ _ true hset rfl).mpr ?_⟩
  · refine atEach_cons.mpr ⟨trivial, fun next hnext ↦ atEach_cons.mpr ⟨?_, ?_⟩⟩
    · obtain rfl := Except.ok.inj hnext
      exact .inl (by decide)
    · exact fun last _ ↦ atEach_nil last _
  · exact .inl (by decide)

/-- A limit of two in an object of one packet: two packets are too many. -/
theorem not_copyInBounds_of_size {state : PushState} (h : state.Inside) {pushbuf : Pushbuf}
    (hpushbuf : state.pushbuf = some pushbuf) (hsize : pushbuf.size = 188)
    (hlimit : state.muxer.pushbufsize = 2) (allocator : Allocator) (data : TsPacket) :
    ¬AtEach (PushState.call allocator) state [.pushPacket data, .pushPacket data]
      (CopyInBounds allocator) := by
  have hready {state : PushState} {pushbuf : Pushbuf} (hsome : state.pushbuf = some pushbuf) :
      (initializePushbuf allocator state).pushbuf = some pushbuf := by
    rw [initializePushbuf_of_some allocator hsome, hsome]
  have hlimitNat : state.muxer.pushbufsize.toNat = 2 := congrArg UInt32.toNat hlimit
  intro hall
  obtain ⟨hfirst, hrest⟩ := atEach_cons.mp hall
  rcases push_of_too_small h (hready hpushbuf) (by rw [hlimitNat]; omega) data with
    hout | ⟨next, after, hnext, hafter, hsizeNext, hlimitNext, hused⟩
  · exact hout hfirst
  · obtain ⟨hsecond, -⟩ := atEach_cons.mp (hrest next hnext)
    have hinside : next.Inside := h.call hnext
    rcases push_of_too_small hinside (hready hafter)
        (by rw [hlimitNext, hlimitNat]; omega) data with
      hout | ⟨last, final, hlast, hfinal, hsizeLast, -, husedLast⟩
    · exact hout hsecond
    · have hinsideLast := (hinside.call hlast).used_le final hfinal
      omega

/-- The muxer with the smaller limit allocates the object for both. -/
theorem not_copiesInBounds_of_limits (data : TsPacket) :
    ¬CopiesInBounds (.filled 0) [(false, PushCall.setPushbufsize 1), (true, .setPushbufsize 2),
      (false, .pushPacket data), (true, .pushPacket data), (true, .pushPacket data)] := by
  let limits : PushProcess Bool :=
    ⟨none, fun muxer ↦ ⟨if muxer then 2 else 1, 0, []⟩⟩
  have hlimits : [(false, PushCall.setPushbufsize 1), (true, .setPushbufsize 2)].foldlM
      (PushProcess.step (.filled 0)) .initial = .ok limits := by
    refine congrArg Except.ok ?_
    change PushProcess.mk none _ = PushProcess.mk none _
    congr 1
    funext muxer
    cases muxer <;> rfl
  have hinside := inside_of_process (.filled 0) hlimits
  obtain ⟨-, process, hprocess, hinsideNext⟩ := exists_step_of_room (.filled 0) hinside
    (false, .pushPacket data) (.inl (show 1 * 188 < 2 ^ 32 by decide))
  obtain ⟨state, hstate, -, hpushbuf, hothers⟩ := PushProcess.step_eq_ok hprocess
  obtain ⟨⟨result, pushed⟩, hpush, rfl⟩ := exists_of_map_eq_ok hstate
  obtain ⟨after, hafter, hsize⟩ := (pushOutcome (.filled 0) (hinside false) data).size_eq hpush rfl
  have hproduct : ((1 : UInt32) * tspacketLength).toNat = 188 := by decide
  have hlimit : (process.view true).muxer.pushbufsize = 2 :=
    congrArg PushMuxer.pushbufsize (hothers true (by decide))
  have hrun : [(false, PushCall.setPushbufsize 1), (true, .setPushbufsize 2),
      (false, .pushPacket data)].foldlM (PushProcess.step (.filled 0)) .initial = .ok process :=
    foldlM_concat_eq_ok.mpr ⟨limits, hlimits, hprocess⟩
  intro hall
  have hrest := (copiesInBounds_append (.filled 0) hrun true
    [.pushPacket data, .pushPacket data]).mp hall
  exact not_copyInBounds_of_size (hinsideNext true) (hpushbuf.trans hafter)
    (hsize.trans hproduct) hlimit (.filled 0) data hrest.2

/-- Two muxers with limits one and two: one packet for the first and two for the second. -/
theorem not_copiesInBounds_two_muxers :
    ¬CopiesInBounds (.filled 0) [(false, PushCall.setPushbufsize 1), (true, .setPushbufsize 2),
      (false, .pushPacket (Block.fill 188 0x47)), (true, .pushPacket (Block.fill 188 0x47)),
      (true, .pushPacket (Block.fill 188 0x47))] :=
  not_copiesInBounds_of_limits (Block.fill 188 0x47)

end SpTsMuxer.Muxer
