import SpTsMuxer.Muxer.PushCalls

/-!
# Packets in Whole Batches

With a fixed `pushbufsize` the write function pushes a buffer for every so many packets.  What is
left at the end of a run waits in the push buffer, and nothing pushes it.  The packets are all
counted in pushed buffers exactly if there are none or `pushbufsize` divides their number, as long
as the push buffer has the size that it should have.
-/

namespace SpTsMuxer.Muxer

open Memory Machine Spts

/-- A muxer of fixed `pushbufsize` after `count` packets.  If the size of the push buffer is not
cut off at 32 bits, each packet is counted in a pushed buffer or waits; otherwise no buffer is ever
pushed. -/
structure Batched (pushbufsize : UInt32) (count : ℕ) (state : PushState) : Prop where
  inside : state.Inside
  limit : state.muxer.pushbufsize = pushbufsize
  object : ∀ pushbuf, state.pushbuf = some pushbuf →
    pushbuf.size = pushbufsize.toNat * 188 % 2 ^ 32
  counted : pushbufsize.toNat * 188 < 2 ^ 32 →
    state.muxer.pushed.length * pushbufsize.toNat + state.muxer.pushbufused.toNat = count ∧
      state.muxer.pushbufused.toNat < pushbufsize.toNat
  pushed_of_wrap : 2 ^ 32 ≤ pushbufsize.toNat * 188 → state.muxer.pushed = []

theorem batched_initial {pushbufsize : UInt32} (hpos : 1 ≤ pushbufsize.toNat) :
    Batched pushbufsize 0 (.initial pushbufsize) where
  inside := PushState.inside_initial pushbufsize
  limit := rfl
  object := nofun
  counted _ := ⟨Nat.zero_mul _, hpos⟩
  pushed_of_wrap _ := rfl

theorem Batched.ready (allocator : Allocator) {pushbufsize : UInt32} {count : ℕ}
    {state : PushState} (hpos : 1 ≤ pushbufsize.toNat) (h : Batched pushbufsize count state) :
    Batched pushbufsize count (initializePushbuf allocator state) ∧
      (pushbufsize.toNat * 188 < 2 ^ 32 → (initializePushbuf allocator state).pushbuf ≠ none) := by
  have hinside := inside_ready allocator h.inside
  have hmuxer := muxer_initializePushbuf allocator h.inside
  have hcases := ready_cases allocator h.inside
  generalize initializePushbuf allocator state = ready at hinside hmuxer hcases
  obtain ⟨object, muxer⟩ := ready
  obtain rfl : muxer = state.muxer := hmuxer
  refine ⟨⟨hinside, h.limit, fun pushbuf hpushbuf ↦ ?_, h.counted, h.pushed_of_wrap⟩,
    fun hsmall hobject ↦ ?_⟩
  · obtain rfl : object = some pushbuf := hpushbuf
    cases hcases with
    | kept hsome => exact h.object pushbuf hsome
    | allocated hnone hsize hne =>
        rw [h.limit] at hsize
        exact hsize
  · obtain rfl : object = none := hobject
    cases hcases with
    | refused hnone hzero =>
        rw [h.limit, Nat.mod_eq_of_lt hsmall] at hzero
        omega

/-- There is always room, and an object whose size is cut off is never full. -/
theorem Batched.room {pushbufsize : UInt32} {count : ℕ} {state : PushState}
    (h : Batched pushbufsize count state) {pushbuf : Pushbuf}
    (hpushbuf : state.pushbuf = some pushbuf) :
    state.muxer.pushbufused.toNat < pushbufsize.toNat ∧
      (2 ^ 32 ≤ pushbufsize.toNat * 188 → pushbuf.size < pushbufsize.toNat * 188) ∧
        (pushbufsize.toNat * 188 < 2 ^ 32 → pushbuf.size = pushbufsize.toNat * 188) := by
  have hsize := h.object pushbuf hpushbuf
  have hused := h.inside.used_le pushbuf hpushbuf
  have hwrap : pushbufsize.toNat * 188 % 2 ^ 32 < 2 ^ 32 := Nat.mod_lt _ (by decide)
  refine ⟨?_, fun hlarge ↦ by omega, fun hsmall ↦ hsize.trans (Nat.mod_eq_of_lt hsmall)⟩
  by_cases hsmall : pushbufsize.toNat * 188 < 2 ^ 32
  · exact (h.counted hsmall).2
  · omega

theorem pushBuffer_counted (allocator : Allocator) (state : PushState) :
    let next := pushBuffer allocator state
    next.muxer.pushed.length * state.muxer.pushbufsize.toNat + next.muxer.pushbufused.toNat =
      state.muxer.pushed.length * state.muxer.pushbufsize.toNat +
        state.muxer.pushbufused.toNat := by
  intro next
  by_cases hfull : state.muxer.pushbufused = state.muxer.pushbufsize
  · have hpushed : next.muxer.pushed.length = state.muxer.pushed.length + 1 := by
      change (pushBuffer allocator state).muxer.pushed.length = _
      rw [pushBuffer, if_pos hfull]
      exact List.length_append
    have hempty : next.muxer.pushbufused = 0 := by
      change (pushBuffer allocator state).muxer.pushbufused = 0
      rw [pushBuffer, if_pos hfull]
    rw [hpushed, hempty, hfull, Nat.succ_mul]
    exact Nat.add_zero _
  · have hnext : next = state := if_neg hfull
    rw [hnext]

/-- One more packet is counted; it can only fail if the size of the object is cut off. -/
theorem Batched.push (allocator : Allocator) {pushbufsize : UInt32} {count : ℕ}
    {state : PushState} (hpos : 1 ≤ pushbufsize.toNat) (h : Batched pushbufsize count state)
    (data : TsPacket) :
    Ends (fun _ ↦ 2 ^ 32 ≤ pushbufsize.toNat * 188)
      (fun answer ↦ Batched pushbufsize (count + 1) answer.2)
      (sptsmuxerPushPacketCb allocator state data) := by
  obtain ⟨hready, hobject⟩ := h.ready allocator hpos
  have houtcome := pushOutcome allocator h.inside data
  generalize sptsmuxerPushPacketCb allocator state data = answer at houtcome
  generalize initializePushbuf allocator state = ready at houtcome hready hobject
  cases houtcome with
  | refused hnone =>
      have hlarge : 2 ^ 32 ≤ pushbufsize.toNat * 188 :=
        Nat.le_of_not_lt fun hsmall ↦ hobject hsmall hnone
      exact ⟨hready.inside, hready.limit, hready.object,
        fun hsmall ↦ absurd hsmall (Nat.not_lt.mpr hlarge), hready.pushed_of_wrap⟩
  | @stored size block next hpushbuf hroom hfits hnext =>
      obtain ⟨-, hlarge, -⟩ := hready.room hpushbuf
      let stored : PushState := {
        pushbuf := some ⟨size, next⟩
        muxer := { ready.muxer with pushbufused := ready.muxer.pushbufused + 1 } }
      have hstored : PushOutcome allocator ready data (.ok (true, pushBuffer allocator stored)) :=
        .stored hpushbuf hroom hfits hnext
      have hinside := hstored.inside rfl hready.inside
      have hused : stored.muxer.pushbufused.toNat = ready.muxer.pushbufused.toNat + 1 :=
        toNat_pushbufused_add_one hroom
      have hless := UInt32.lt_iff_toNat_lt.mp hroom
      rw [hready.limit] at hless
      refine ⟨hinside, (pushbufsize_pushBuffer allocator stored).trans hready.limit, ?_, ?_, ?_⟩
      · intro pushbuf hsome
        rw [pushbuf_pushBuffer] at hsome
        obtain rfl := Option.some.inj hsome
        exact hready.object ⟨size, block⟩ hpushbuf
      · intro hsmall
        obtain ⟨hcount, -⟩ := hready.counted hsmall
        have hlimit : stored.muxer.pushbufsize = pushbufsize := hready.limit
        have hsame := pushBuffer_counted allocator stored
        have hfill : stored.muxer.pushbufused.toNat ≤ stored.muxer.pushbufsize.toNat := by
          rw [hlimit, hused]
          exact hless
        have hbelow := pushBuffer_used_lt allocator (hlimit ▸ hpos) hfill
        rw [hlimit] at hsame hbelow
        refine ⟨hsame.trans ?_, hbelow⟩
        rw [hused, ← hcount]
        rfl
      · intro hwrap
        have hnotFull : ¬stored.muxer.pushbufused = stored.muxer.pushbufsize := by
          intro hfull
          have hfullNat := congrArg UInt32.toNat hfull
          rw [hused, show stored.muxer.pushbufsize = pushbufsize from hready.limit] at hfullNat
          have hsize : size < pushbufsize.toNat * 188 := hlarge hwrap
          omega
        change (pushBuffer allocator stored).muxer.pushed = []
        rw [pushBuffer, if_neg hnotFull]
        exact hready.pushed_of_wrap hwrap
  | outOfBounds hpushbuf hroom hlong =>
      obtain ⟨hless, -, hsize⟩ := hready.room hpushbuf
      by_contra hsmall
      have hobjectSize := hsize (Nat.lt_of_not_le hsmall)
      omega
  | dropped hpushbuf hfull =>
      obtain ⟨hless, -, -⟩ := hready.room hpushbuf
      rw [UInt32.lt_iff_toNat_lt, hready.limit] at hfull
      exact absurd hless hfull

/-- The packets of a run are counted. -/
theorem ends_pushPackets (allocator : Allocator) {pushbufsize : UInt32}
    (hpos : 1 ≤ pushbufsize.toNat) (packets : List TsPacket) :
    Ends (fun _ ↦ 2 ^ 32 ≤ pushbufsize.toNat * 188) (Batched pushbufsize packets.length)
      (pushPackets allocator (.initial pushbufsize) packets) := by
  induction packets using List.reverseRecOn with
  | nil => exact batched_initial hpos
  | append_singleton before data ih =>
      rw [pushPackets_concat, List.length_append]
      refine ih.bind fun middle hmiddle ↦ ?_
      exact Ends.map (hmiddle.push allocator hpos data)

/-- The packets of a run are all counted in pushed buffers. -/
def AllCounted (pushbufsize : UInt32) (packets : List TsPacket)
    (result : Except Fault PushState) : Prop :=
  ∃ state, result = .ok state ∧
    state.muxer.pushed.length * pushbufsize.toNat = packets.length

/-- No packet waits at the end exactly if there are none, or if they fill whole batches and the push
buffer has the size of one. -/
theorem allCounted_iff (allocator : Allocator) {pushbufsize : UInt32}
    (hpos : 1 ≤ pushbufsize.toNat) (packets : List TsPacket) :
    AllCounted pushbufsize packets (pushPackets allocator (.initial pushbufsize) packets) ↔
      packets = [] ∨
        (pushbufsize.toNat ∣ packets.length ∧ pushbufsize.toNat * 188 < 2 ^ 32) := by
  have hends := ends_pushPackets allocator hpos packets
  by_cases hsmall : pushbufsize.toNat * 188 < 2 ^ 32
  · obtain ⟨state, hstate⟩ : ∃ state,
        pushPackets allocator (.initial pushbufsize) packets = .ok state := by
      cases hrun : pushPackets allocator (.initial pushbufsize) packets with
      | error fault => exact absurd hsmall (Nat.not_lt.mpr (hends.of_error hrun))
      | ok state => exact ⟨state, rfl⟩
    obtain ⟨hcount, hused⟩ := (hends.of_ok hstate).counted hsmall
    rw [hstate]
    constructor
    · rintro ⟨final, hfinal, hall⟩
      obtain rfl := Except.ok.inj hfinal
      exact .inr ⟨⟨state.muxer.pushed.length, by rw [← hall, Nat.mul_comm]⟩, hsmall⟩
    · intro h
      have hdvd : pushbufsize.toNat ∣ packets.length := by
        rcases h with rfl | ⟨hdvd, -⟩
        · exact Nat.dvd_zero _
        · exact hdvd
      rw [← hcount, Nat.dvd_add_right (Nat.dvd_mul_left _ _)] at hdvd
      have hempty := Nat.eq_zero_of_dvd_of_lt hdvd hused
      exact ⟨state, rfl, by omega⟩
  · have hlarge := Nat.le_of_not_lt hsmall
    constructor
    · rintro ⟨state, hstate, hall⟩
      rw [(hends.of_ok hstate).pushed_of_wrap hlarge] at hall
      exact .inl (List.length_eq_zero_iff.mp (hall.symm.trans (Nat.zero_mul _)))
    · rintro (rfl | ⟨-, hsmall'⟩)
      · exact ⟨_, rfl, Nat.zero_mul _⟩
      · exact absurd hsmall' hsmall

/-! ## The bytes of the packets -/

/-- The bytes of each packet are in a pushed buffer. -/
def AllPushed (packets : List TsPacket) (result : Except Fault PushState) : Prop :=
  ∃ state, result = .ok state ∧
    ∀ packet ∈ packets, ∃ buffer ∈ state.muxer.pushed, packet.cells <:+: buffer

/-- No packet is ever in a pushed buffer, since nothing but the bytes of new objects is. -/
theorem allPushed_iff (pushbufsize : UInt32) (packets : List TsPacket) :
    (∀ allocator, AllPushed packets
      (pushPackets allocator (.initial pushbufsize) packets)) ↔ packets = [] := by
  constructor
  · intro h
    rw [List.eq_nil_iff_forall_not_mem]
    intro packet hmem
    have hbyte (value : UInt8) : ∀ byte ∈ packet.cells, byte = value := by
      obtain ⟨state, hstate, hall⟩ := h (.filled value)
      obtain ⟨buffer, hbuffer, hinfix⟩ := hall packet hmem
      intro byte hmemByte
      exact pushPackets_filled hstate byte
        (List.mem_flatten.mpr ⟨buffer, hbuffer, hinfix.subset hmemByte⟩)
    have hlength : 0 < packet.cells.length := by
      rw [packet.length_cells]
      decide
    obtain ⟨byte, hfirst⟩ := List.exists_mem_of_length_pos hlength
    have hzero : byte = 0 := hbyte 0 byte hfirst
    exact absurd (hzero.symm.trans (hbyte 1 byte hfirst)) (by decide)
  · rintro rfl allocator
    exact ⟨_, rfl, nofun⟩

end SpTsMuxer.Muxer
