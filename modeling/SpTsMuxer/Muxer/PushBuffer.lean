import Mathlib.Data.List.Induction
import SpTsMuxer.Spts.TsPacket

/-!
# The Push Buffer of `sptsmuxer.c`

The write function of the muxer collects packets in a push buffer and hands on a new buffer when
the push buffer is full.  The size of an object is computed in 32 bits, and an object of size zero
is a null pointer.  The contents of a new object are those its allocator chooses.

The new buffer is never filled from the push buffer.  What is handed on has therefore the contents
of a new object, and the collected packets are lost: the batches are faithful to the packets
exactly as long as none has been handed on and the packets fit into the push buffer.
-/

namespace SpTsMuxer.Muxer

open Memory Transport Spts

/-! ## Allocation -/

/-- The contents of new objects.  Those of a new buffer may depend on how many there were. -/
structure Allocator where
  malloc : (size : ℕ) → Block UInt8 size
  newBuffer : ℕ → (size : ℕ) → Block UInt8 size

/-- Every byte of every new object is the same. -/
def Allocator.filled (value : UInt8) : Allocator where
  malloc size := Block.fill size value
  newBuffer _ size := Block.fill size value

/-- The object that `pushbuf` points to. -/
structure Pushbuf where
  size : ℕ
  block : Block UInt8 size

/-- `g_malloc`, which returns a null pointer for no bytes. -/
def gMalloc (allocator : Allocator) (size : UInt32) : Option Pushbuf :=
  if size = 0 then none else some ⟨size.toNat, allocator.malloc size.toNat⟩

/-! ## The write function -/

/-- The parts of the muxer that the write function uses, and the buffers given to
`gst_pad_push`. -/
structure PushMuxer where
  pushbufsize : UInt32
  pushbufused : UInt32
  pushed : List (List UInt8)

/-- The static `pushbuf` and the muxer. -/
structure PushState where
  pushbuf : Option Pushbuf
  muxer : PushMuxer

/-- The first lines of `sptsmuxer_push_packet_cb`: a push buffer is allocated if there is none. -/
def initializePushbuf (allocator : Allocator) (state : PushState) : PushState :=
  match state.pushbuf with
  | some _ => state
  | none =>
      { pushbuf := gMalloc allocator (state.muxer.pushbufsize * tspacketLength)
        muxer := { state.muxer with pushbufused := 0 } }

/-- The packet is copied behind the packets that are in the push buffer, if there is room. -/
def storePacket (state : PushState) (pushbuf : Pushbuf) (data : TsPacket) :
    Except Fault PushState :=
  if state.muxer.pushbufused < state.muxer.pushbufsize then do
    let block ← pushbuf.block.store (state.muxer.pushbufused * tspacketLength).toNat data.cells
    pure { pushbuf := some ⟨pushbuf.size, block⟩
           muxer := { state.muxer with pushbufused := state.muxer.pushbufused + 1 } }
  else pure state

/-- A full push buffer: a new buffer of its size is mapped, and pushed as it is. -/
def pushBuffer (allocator : Allocator) (state : PushState) : PushState :=
  if state.muxer.pushbufused = state.muxer.pushbufsize then
    let size := (state.muxer.pushbufsize * tspacketLength).toNat
    let buf := allocator.newBuffer state.muxer.pushed.length size
    { state with muxer := { state.muxer with
        pushed := state.muxer.pushed ++ [buf.cells]
        pushbufused := 0 } }
  else state

/-- `sptsmuxer_push_packet_cb`. -/
def sptsmuxerPushPacketCb (allocator : Allocator) (state : PushState) (data : TsPacket) :
    Except Fault (Bool × PushState) :=
  let state := initializePushbuf allocator state
  match state.pushbuf with
  | none => .ok (false, state)
  | some pushbuf => do
      let state ← storePacket state pushbuf data
      pure (true, pushBuffer allocator state)

/-- Packets handed to the write function one after the other. -/
def pushPackets (allocator : Allocator) (state : PushState) (packets : List TsPacket) :
    Except Fault PushState :=
  packets.foldlM (fun state data ↦ Prod.snd <$> sptsmuxerPushPacketCb allocator state data) state

/-- A muxer that has not written any packet. -/
def PushState.initial (pushbufsize : UInt32) : PushState where
  pushbuf := none
  muxer := ⟨pushbufsize, 0, []⟩

/-- The packets that wait in the push buffer. -/
def PushState.pending (state : PushState) : List UInt8 :=
  match state.pushbuf with
  | none => []
  | some pushbuf => pushbuf.block.cells.take (188 * state.muxer.pushbufused.toNat)

/-- What a batching of packets should do: as many full batches as there are, in order, and the
remaining packets pending. -/
structure Faithful (packets : List TsPacket) (state : PushState) : Prop where
  count : state.muxer.pushed.length = packets.length / state.muxer.pushbufsize.toNat
  size : ∀ buffer ∈ state.muxer.pushed, buffer.length = state.muxer.pushbufsize.toNat * 188
  contents : state.muxer.pushed.flatten =
    (packets.take (state.muxer.pushbufsize.toNat * (packets.length /
      state.muxer.pushbufsize.toNat))).flatMap Block.cells
  used : state.muxer.pushbufused.toNat = packets.length % state.muxer.pushbufsize.toNat
  pending : state.pending =
    (packets.drop (state.muxer.pushbufsize.toNat * (packets.length /
      state.muxer.pushbufsize.toNat))).flatMap Block.cells

/-- The packets are batched faithfully whatever new objects contain. -/
def FaithfullyPushed (pushbufsize : UInt32) (packets : List TsPacket) : Prop :=
  ∀ allocator, ∃ final, pushPackets allocator (.initial pushbufsize) packets = .ok final ∧
    final.muxer.pushbufsize = pushbufsize ∧ Faithful packets final

/-! ## Packet by packet -/

theorem pushPackets_concat (allocator : Allocator) (state : PushState) (before : List TsPacket)
    (data : TsPacket) :
    pushPackets allocator state (before ++ [data]) =
      pushPackets allocator state before >>= fun middle ↦
        Prod.snd <$> sptsmuxerPushPacketCb allocator middle data := by
  rw [pushPackets, List.foldlM_append]
  congr 1
  funext middle
  rw [List.foldlM_cons]
  cases sptsmuxerPushPacketCb allocator middle data <;> rfl

theorem toNat_pushbufused_add_one {muxer : PushMuxer}
    (hroom : muxer.pushbufused < muxer.pushbufsize) :
    (muxer.pushbufused + 1).toNat = muxer.pushbufused.toNat + 1 := by
  have hless := UInt32.lt_iff_toNat_lt.mp hroom
  have hsize := muxer.pushbufsize.toNat_lt
  rw [UInt32.toNat_add]
  exact Nat.mod_eq_of_lt (by change muxer.pushbufused.toNat + 1 < 2 ^ 32; omega)

/-- Where a packet is stored: the product of the source does not wrap around inside an object. -/
theorem toNat_storeOffset {muxer : PushMuxer} {size : ℕ} (hsize : size < 2 ^ 32)
    (hused : muxer.pushbufused.toNat * 188 ≤ size) :
    (muxer.pushbufused * tspacketLength).toNat = muxer.pushbufused.toNat * 188 := by
  rw [UInt32.toNat_mul]
  exact Nat.mod_eq_of_lt (by change muxer.pushbufused.toNat * 188 < 2 ^ 32; omega)

section Callback

variable (allocator : Allocator) {state : PushState} {size : ℕ} {block : Block UInt8 size}
  (hpushbuf : state.pushbuf = some ⟨size, block⟩) (hsize : size < 2 ^ 32) (data : TsPacket)
include hpushbuf

theorem initializePushbuf_of_some : initializePushbuf allocator state = state := by
  rw [initializePushbuf, hpushbuf]

theorem push_dropped (hfull : ¬state.muxer.pushbufused < state.muxer.pushbufsize) :
    sptsmuxerPushPacketCb allocator state data = .ok (true, pushBuffer allocator state) := by
  rw [sptsmuxerPushPacketCb, initializePushbuf_of_some allocator hpushbuf, hpushbuf]
  dsimp only
  rw [storePacket, if_neg hfull]
  rfl

include hsize

/-- A packet for which there is room is stored behind the packets that wait. -/
theorem push_stored (hroom : state.muxer.pushbufused < state.muxer.pushbufsize)
    (hfits : (state.muxer.pushbufused.toNat + 1) * 188 ≤ size) :
    ∃ next : Block UInt8 size,
      next.cells = block.cells.take (188 * state.muxer.pushbufused.toNat) ++ data.cells ++
        block.cells.drop (188 * state.muxer.pushbufused.toNat + 188) ∧
      sptsmuxerPushPacketCb allocator state data = .ok (true, pushBuffer allocator {
        pushbuf := some ⟨size, next⟩
        muxer := { state.muxer with pushbufused := state.muxer.pushbufused + 1 } }) := by
  have hused : state.muxer.pushbufused.toNat * 188 ≤ size := by omega
  have hoffset := toNat_storeOffset hsize hused
  obtain ⟨next, hstore, hnext⟩ : ∃ next,
      block.store (state.muxer.pushbufused.toNat * 188) data.cells = .ok next ∧ next.cells = _ :=
    Block.exists_store (by rw [data.length_cells]; omega)
  rw [data.length_cells, Nat.mul_comm _ 188] at hnext
  refine ⟨next, hnext, ?_⟩
  rw [sptsmuxerPushPacketCb, initializePushbuf_of_some allocator hpushbuf, hpushbuf]
  dsimp only
  rw [storePacket, if_pos hroom, hoffset, hstore]
  rfl

theorem push_outOfBounds (hroom : state.muxer.pushbufused < state.muxer.pushbufsize)
    (hused : state.muxer.pushbufused.toNat * 188 ≤ size)
    (hlong : size < (state.muxer.pushbufused.toNat + 1) * 188) :
    sptsmuxerPushPacketCb allocator state data = .error .outOfBounds := by
  have hoffset := toNat_storeOffset hsize hused
  have hlt : size < state.muxer.pushbufused.toNat * 188 + data.cells.length := by
    rw [data.length_cells]
    omega
  rw [sptsmuxerPushPacketCb, initializePushbuf_of_some allocator hpushbuf, hpushbuf]
  dsimp only
  rw [storePacket, if_pos hroom, hoffset, Block.store_of_lt hlt]
  rfl

end Callback

/-- The packets so far are all in the push buffer, which may not have been allocated yet. -/
structure Collected (pushbufsize : UInt32) (before : List TsPacket) (state : PushState) :
    Prop where
  size : state.muxer.pushbufsize = pushbufsize
  pushed : state.muxer.pushed = []
  used : state.muxer.pushbufused.toNat = before.length
  cells : (before = [] ∧ state.pushbuf = none) ∨
    ∃ block rest, state.pushbuf = some ⟨(pushbufsize * tspacketLength).toNat, block⟩ ∧
      block.cells = before.flatMap Block.cells ++ rest

theorem collected_initial (pushbufsize : UInt32) :
    Collected pushbufsize [] (.initial pushbufsize) where
  size := rfl
  pushed := rfl
  used := rfl
  cells := .inl ⟨rfl, rfl⟩

section Collect

variable {pushbufsize : UInt32} {before : List TsPacket} {state : PushState}
  (allocator : Allocator) (h : Collected pushbufsize before state)
include h

theorem Collected.exists_pushbuf (hsize : pushbufsize * tspacketLength ≠ 0) :
    ∃ block rest, block.cells = before.flatMap Block.cells ++ rest ∧
      initializePushbuf allocator state =
        ⟨some ⟨(pushbufsize * tspacketLength).toNat, block⟩, state.muxer⟩ := by
  rcases h.cells with ⟨rfl, hnone⟩ | ⟨block, rest, hsome, hcells⟩
  · refine ⟨allocator.malloc _, _, rfl, ?_⟩
    have hused : state.muxer.pushbufused = 0 := UInt32.toNat_inj.mp h.used
    rw [initializePushbuf, hnone, h.size, gMalloc, if_neg hsize, ← hused]
  · refine ⟨block, rest, hcells, ?_⟩
    obtain ⟨pushbuf, muxer⟩ := state
    subst hsome
    rfl

/-- A packet that fits is collected, one that does not fit is written out of bounds. -/
theorem Collected.push (hsize : pushbufsize * tspacketLength ≠ 0) (data : TsPacket)
    (hroom : before.length + 1 < pushbufsize.toNat) :
    ((before.length + 1) * 188 ≤ (pushbufsize * tspacketLength).toNat ∧
        ∃ next, sptsmuxerPushPacketCb allocator state data = .ok (true, next) ∧
          Collected pushbufsize (before ++ [data]) next) ∨
      ((pushbufsize * tspacketLength).toNat < (before.length + 1) * 188 ∧
        sptsmuxerPushPacketCb allocator state data = .error .outOfBounds) := by
  obtain ⟨block, rest, hcells, hinit⟩ := h.exists_pushbuf allocator hsize
  have hlength := congrArg List.length hcells
  rw [block.length_cells, List.length_append, length_flatMap_cells] at hlength
  have hbound := (pushbufsize * tspacketLength).toNat_lt
  have hused : state.muxer.pushbufused < state.muxer.pushbufsize := by
    rw [UInt32.lt_iff_toNat_lt, h.used, h.size]
    omega
  have hnext := toNat_pushbufused_add_one hused
  rw [h.used] at hnext
  let ready : PushState := ⟨some ⟨(pushbufsize * tspacketLength).toNat, block⟩, state.muxer⟩
  have hready : sptsmuxerPushPacketCb allocator state data =
      sptsmuxerPushPacketCb allocator ready data := by
    rw [sptsmuxerPushPacketCb, hinit]
    rfl
  have hreadyPushbuf : ready.pushbuf = some ⟨_, block⟩ := rfl
  have hreadyUsed : ready.muxer.pushbufused.toNat = before.length := h.used
  rw [hready]
  by_cases hfits : (before.length + 1) * 188 ≤ (pushbufsize * tspacketLength).toNat
  · obtain ⟨next, hstored, hpush⟩ := push_stored allocator hreadyPushbuf hbound data hused
      (by rw [hreadyUsed]; exact hfits)
    have hnotFull : state.muxer.pushbufused + 1 ≠ state.muxer.pushbufsize := by
      intro hfull
      have hfullNat := congrArg UInt32.toNat hfull
      rw [hnext, h.size] at hfullNat
      omega
    rw [hreadyUsed, hcells, List.take_left' (length_flatMap_cells before)] at hstored
    refine .inl ⟨hfits, {
      pushbuf := some ⟨(pushbufsize * tspacketLength).toNat, next⟩
      muxer := { state.muxer with pushbufused := state.muxer.pushbufused + 1 } }, ?_, ?_⟩
    · rw [hpush, pushBuffer, if_neg hnotFull]
    · exact {
        size := h.size
        pushed := h.pushed
        used := by rw [hnext, List.length_append, List.length_singleton]
        cells := .inr ⟨next, _, rfl, by rw [hstored, List.flatMap_append, List.flatMap_singleton]⟩ }
  · refine .inr ⟨by omega, ?_⟩
    exact push_outOfBounds allocator rfl hbound data hused (by rw [hreadyUsed]; omega)
      (by rw [hreadyUsed]; omega)

end Collect

/-- Packets are collected up to the end of the object. The next packet is written out of bounds. -/
theorem collected_or_fault (allocator : Allocator) {pushbufsize : UInt32}
    (hsize : pushbufsize * tspacketLength ≠ 0) (packets : List TsPacket)
    (hroom : packets.length < pushbufsize.toNat) :
    (packets.length * 188 ≤ (pushbufsize * tspacketLength).toNat ∧
        ∃ final, pushPackets allocator (.initial pushbufsize) packets = .ok final ∧
          Collected pushbufsize packets final) ∨
      ((pushbufsize * tspacketLength).toNat < packets.length * 188 ∧
        pushPackets allocator (.initial pushbufsize) packets = .error .outOfBounds) := by
  induction packets using List.reverseRecOn with
  | nil => exact .inl ⟨by simp, _, rfl, collected_initial pushbufsize⟩
  | append_singleton before data ih =>
      rw [List.length_append, List.length_singleton] at hroom ⊢
      rw [pushPackets_concat]
      rcases ih (Nat.lt_of_succ_lt hroom) with ⟨-, middle, hmiddle, hcollected⟩ | ⟨hlt, hfault⟩
      · rw [hmiddle]
        rcases hcollected.push allocator hsize data hroom with
          ⟨hfits, next, hnext, hcollectedNext⟩ | ⟨hlt, hfault⟩
        · refine .inl ⟨hfits, next, ?_, hcollectedNext⟩
          change Prod.snd <$> sptsmuxerPushPacketCb allocator middle data = _
          rw [hnext]
          rfl
        · refine .inr ⟨hlt, ?_⟩
          change Prod.snd <$> sptsmuxerPushPacketCb allocator middle data = _
          rw [hfault]
          rfl
      · rw [hfault]
        exact .inr ⟨by omega, rfl⟩

theorem Collected.faithful {pushbufsize : UInt32} {packets : List TsPacket} {state : PushState}
    (h : Collected pushbufsize packets state) (hroom : packets.length < pushbufsize.toNat) :
    Faithful packets state := by
  have hdiv : packets.length / state.muxer.pushbufsize.toNat = 0 := by
    rw [h.size]
    exact Nat.div_eq_of_lt hroom
  refine ⟨?_, ?_, ?_, ?_, ?_⟩
  · rw [h.pushed, hdiv]
    rfl
  · rw [h.pushed]
    exact fun _ hmem ↦ absurd hmem List.not_mem_nil
  · rw [h.pushed, hdiv]
    rfl
  · rw [h.used, h.size, Nat.mod_eq_of_lt hroom]
  · rw [hdiv, Nat.mul_zero, List.drop_zero, PushState.pending]
    rcases h.cells with ⟨rfl, hnone⟩ | ⟨block, rest, hsome, hcells⟩
    · rw [hnone]
      rfl
    · rw [hsome, h.used]
      change block.cells.take _ = _
      rw [hcells]
      exact List.take_left' (length_flatMap_cells packets)

/-! ## A push buffer of size zero -/

theorem pushPackets_of_size_zero (allocator : Allocator) {pushbufsize : UInt32}
    (hsize : pushbufsize * tspacketLength = 0) (packets : List TsPacket) :
    pushPackets allocator (.initial pushbufsize) packets = .ok (.initial pushbufsize) := by
  induction packets with
  | nil => rfl
  | cons data rest ih =>
      have hpush : sptsmuxerPushPacketCb allocator (.initial pushbufsize) data =
          .ok (false, .initial pushbufsize) := by
        have hinit : initializePushbuf allocator (.initial pushbufsize) =
            .initial pushbufsize := by
          change PushState.mk (gMalloc allocator (pushbufsize * tspacketLength)) _ = _
          rw [gMalloc, if_pos hsize]
          rfl
        rw [sptsmuxerPushPacketCb, hinit]
        rfl
      rw [pushPackets, List.foldlM_cons, hpush]
      exact ih

/-! ## What is pushed -/

theorem pushed_initializePushbuf (allocator : Allocator) (state : PushState) :
    (initializePushbuf allocator state).muxer.pushed = state.muxer.pushed := by
  unfold initializePushbuf
  split
  · rfl
  · rfl

theorem pushed_storePacket {state next : PushState} {pushbuf : Pushbuf} {data : TsPacket}
    (hstore : storePacket state pushbuf data = .ok next) :
    next.muxer.pushed = state.muxer.pushed := by
  unfold storePacket at hstore
  split at hstore
  · obtain ⟨block, -, hnext⟩ := exists_of_bind_eq_ok hstore
    obtain rfl := Except.ok.inj hnext
    rfl
  · obtain rfl := Except.ok.inj hstore
    rfl

/-- Nothing but the bytes of new buffers is pushed. -/
theorem pushed_filled {value : UInt8} {state next : PushState} {data : TsPacket} {result : Bool}
    (hpush : sptsmuxerPushPacketCb (.filled value) state data = .ok (result, next))
    (hstate : ∀ byte ∈ state.muxer.pushed.flatten, byte = value) :
    ∀ byte ∈ next.muxer.pushed.flatten, byte = value := by
  have hinit := pushed_initializePushbuf (.filled value) state
  rw [sptsmuxerPushPacketCb] at hpush
  cases hpushbuf : (initializePushbuf (.filled value) state).pushbuf with
  | none =>
      simp only [hpushbuf] at hpush
      cases hpush
      rw [hinit]
      exact hstate
  | some pushbuf =>
      simp only [hpushbuf] at hpush
      obtain ⟨stored, hstore, hanswer⟩ := exists_of_bind_eq_ok hpush
      obtain ⟨-, rfl⟩ := Prod.mk.inj (Except.ok.inj hanswer)
      have hstored : stored.muxer.pushed = state.muxer.pushed :=
        (pushed_storePacket hstore).trans hinit
      rw [pushBuffer]
      split_ifs
      · intro byte hmem
        change byte ∈ (stored.muxer.pushed ++ [_]).flatten at hmem
        rw [List.flatten_append, List.flatten_singleton, hstored] at hmem
        rcases List.mem_append.mp hmem with hearlier | hnew
        · exact hstate byte hearlier
        · exact List.eq_of_mem_replicate hnew
      · rw [hstored]
        exact hstate

theorem pushPackets_filled {value : UInt8} {pushbufsize : UInt32} {packets : List TsPacket}
    {final : PushState}
    (hrun : pushPackets (.filled value) (.initial pushbufsize) packets = .ok final) :
    ∀ byte ∈ final.muxer.pushed.flatten, byte = value := by
  induction packets using List.reverseRecOn generalizing final with
  | nil =>
      cases hrun
      exact fun _ hmem ↦ absurd hmem List.not_mem_nil
  | append_singleton before data ih =>
      rw [pushPackets_concat] at hrun
      obtain ⟨middle, hmiddle, hlast⟩ := exists_of_bind_eq_ok hrun
      obtain ⟨⟨result, next⟩, hpush, rfl⟩ := exists_of_map_eq_ok hlast
      exact pushed_filled hpush (ih hmiddle)

/-- As soon as a buffer is pushed, packets are lost. -/
theorem not_faithfullyPushed_of_full {pushbufsize : UInt32} {packets : List TsPacket}
    (hpos : 0 < pushbufsize.toNat) (hfull : pushbufsize.toNat ≤ packets.length) :
    ¬FaithfullyPushed pushbufsize packets := by
  intro h
  obtain ⟨zeros, hzeros, hzeroSize, hzeroFaithful⟩ := h (.filled 0)
  obtain ⟨ones, hones, honeSize, honeFaithful⟩ := h (.filled 1)
  have hzeroContents := hzeroFaithful.contents
  have honeContents := honeFaithful.contents
  rw [hzeroSize] at hzeroContents
  rw [honeSize, ← hzeroContents] at honeContents
  have hbatches : 0 < packets.length / pushbufsize.toNat := Nat.div_pos hfull hpos
  have hlength : zeros.muxer.pushed.flatten.length ≠ 0 := by
    rw [hzeroContents, length_flatMap_cells, List.length_take]
    have htaken : 0 < pushbufsize.toNat * (packets.length / pushbufsize.toNat) :=
      Nat.mul_pos hpos hbatches
    omega
  obtain ⟨byte, hbyte⟩ := List.exists_mem_of_length_pos (Nat.pos_of_ne_zero hlength)
  have hzero : byte = 0 := pushPackets_filled hzeros byte hbyte
  have hone : byte = 1 := pushPackets_filled hones byte (honeContents ▸ hbyte)
  exact absurd (hzero.symm.trans hone) (by decide)

/-- Packets are batched faithfully whatever new objects contain exactly if they do not fill a batch
and fit into the push buffer, whose size is computed in 32 bits. -/
theorem faithfullyPushed_iff {pushbufsize : UInt32} (hpos : 1 ≤ pushbufsize.toNat)
    (packets : List TsPacket) :
    FaithfullyPushed pushbufsize packets ↔
      packets.length < pushbufsize.toNat ∧
        packets.length * 188 ≤ pushbufsize.toNat * 188 % 2 ^ 32 := by
  have hbytes : (pushbufsize * tspacketLength).toNat = pushbufsize.toNat * 188 % 2 ^ 32 :=
    UInt32.toNat_mul _ _
  rw [← hbytes]
  constructor
  · intro h
    have hroom : packets.length < pushbufsize.toNat := by
      by_contra hfull
      exact not_faithfullyPushed_of_full hpos (by omega) h
    refine ⟨hroom, ?_⟩
    obtain ⟨final, hrun, hsize, hfaithful⟩ := h (.filled 0)
    by_cases hzero : pushbufsize * tspacketLength = 0
    · rw [pushPackets_of_size_zero _ hzero] at hrun
      cases hrun
      have hused := hfaithful.used
      change 0 = packets.length % pushbufsize.toNat at hused
      rw [Nat.mod_eq_of_lt hroom] at hused
      omega
    · rcases collected_or_fault (.filled 0) hzero packets hroom with ⟨hfits, -⟩ | ⟨-, hfault⟩
      · exact hfits
      · rw [hfault] at hrun
        cases hrun
  · rintro ⟨hroom, hfits⟩ allocator
    by_cases hzero : pushbufsize * tspacketLength = 0
    · have hnil : packets = [] := by
        rw [hzero] at hfits
        change packets.length * 188 ≤ 0 at hfits
        exact List.length_eq_zero_iff.mp (by omega)
      rw [hnil] at hroom ⊢
      exact ⟨_, rfl, rfl, (collected_initial pushbufsize).faithful hroom⟩
    · rcases collected_or_fault allocator hzero packets hroom with
        ⟨-, final, hrun, hcollected⟩ | ⟨hlt, -⟩
      · exact ⟨final, hrun, hcollected.size, hcollected.faithful hroom⟩
      · omega

/-- One packet in a push buffer of seven. -/
theorem faithfullyPushed_iff_one_packet : FaithfullyPushed 7 [Block.fill 188 0x47] :=
  (faithfullyPushed_iff (by decide) [Block.fill 188 0x47]).mpr ⟨by decide, by decide⟩

/-- One packet in a push buffer of one is lost. -/
theorem not_faithfullyPushed_one : ¬FaithfullyPushed 1 [Block.fill 188 0x47] :=
  not_faithfullyPushed_of_full (by decide) (by decide)

end SpTsMuxer.Muxer
