import SpTsMuxer.Machine.Mealy
import SpTsMuxer.Spts.TsPacket
import SpTsMuxer.Transport.Demux

/-!
# The Multiplexer as a Machine over Abstract Packets

What `spts.c` computes, without its buffers: a Mealy machine whose state is four counters and
whose outputs are abstract packets.  A frame becomes a start packet with a PES header and full
continuation packets, the last of them stuffed.  An IDR frame is preceded by null packets up to
the position of its GOP and by the two tables.

The machine keeps the two peculiarities of the source that are visible in its outputs.  A frame of
169 bytes on a stream without clock reference has a stray byte in front of its PES header, and
audio is dropped while the 64-bit packet counter reads zero.
-/

namespace SpTsMuxer.Spts

open Transport Machine

/-! ## Units -/

/-- An elementary stream: its PID, its PES stream identifier, and whether it carries the clock. -/
structure ElementaryStream where
  pid : ℕ
  streamId : UInt8
  pcr : Bool
  pid_lt : pid < 8192

namespace ElementaryStream

variable (stream : ElementaryStream)

/-- A packet with as much of `data` as one packet holds. -/
def piece (counter : ℕ) (data : List UInt8) (hdata : data ≠ []) : Packet where
  unitStart := false
  priority := true
  pid := stream.pid
  counter := counter
  pcr := none
  payload := data.take 184
  pid_lt := stream.pid_lt
  payload_ne_nil := by
    rw [Ne, List.take_eq_nil_iff, not_or]
    exact ⟨by omega, hdata⟩
  fits := List.length_take_le 184 data

/-- The packets that carry `data` after the start packet, numbered from `counter` on. -/
def continuation (counter : ℕ) (data : List UInt8) : List Packet :=
  if hdata : data = [] then []
  else stream.piece counter data hdata :: continuation (counter + 1) (data.drop 184)
termination_by data.length
decreasing_by
  have hpos := List.length_pos_iff.mpr hdata
  rw [List.length_drop]
  omega

/-- The stray byte in front of the PES header. -/
def lead (data : List UInt8) : List UInt8 :=
  if stream.pcr = false ∧ data.length = 169 then [0x00] else []

/-- How many bytes of a frame its start packet takes, if there are so many. -/
def taken (data : List UInt8) : ℕ :=
  if stream.pcr then 162 else if data.length = 169 then 168 else 170

/-- The length field of the PES header: zero for video, otherwise the bytes after it. -/
def packetLength (data : List UInt8) : ℕ :=
  if stream.streamId = 0xe0 then 0 else data.length + 8

/-- The payload of the start packet. -/
def startPayload (pts : ℕ) (data : List UInt8) : List UInt8 :=
  stream.lead data ++ (pesHeader stream.streamId (stream.packetLength data) pts ++
    data.take (stream.taken data))

/-- The clock runs 10250 ticks of 90 kHz behind the time stamp, but not below zero. -/
def clock (pts : ℕ) : Pcr := pcrOf ((pts - 10250) * 300)

theorem length_startPayload (pts : ℕ) (data : List UInt8) :
    (stream.startPayload pts data).length =
      (stream.lead data).length + 14 + min (stream.taken data) data.length := by
  rw [startPayload, List.length_append, List.length_append, length_pesHeader, List.length_take]
  omega

/-- The start packet of a frame. -/
def start (counter pts : ℕ) (data : List UInt8) : Packet where
  unitStart := true
  priority := true
  pid := stream.pid
  counter := counter
  pcr := if stream.pcr then some (clock pts) else none
  payload := stream.startPayload pts data
  pid_lt := stream.pid_lt
  payload_ne_nil := by
    rw [← List.length_pos_iff, length_startPayload]
    omega
  fits := by
    rw [length_startPayload, lead, taken]
    cases stream.pcr
    · simp only [true_and, Bool.false_eq_true, if_false, Option.isSome_none]
      split_ifs
      · simp only [List.length_singleton]
        omega
      · simp only [List.length_nil]
        omega
    · simp only [reduceCtorEq, false_and, if_false, if_true, Option.isSome_some, List.length_nil]
      omega

/-- All the packets of a frame. -/
def unit (counter pts : ℕ) (data : List UInt8) : List Packet :=
  stream.start counter pts data ::
    stream.continuation (counter + 1) (data.drop (stream.taken data))

/-! ### What the packets of a frame carry -/

@[simp]
theorem continuation_nil (counter : ℕ) : stream.continuation counter [] = [] := by
  rw [continuation, dif_pos rfl]

theorem continuation_of_ne_nil {data : List UInt8} (counter : ℕ) (hdata : data ≠ []) :
    stream.continuation counter data =
      stream.piece counter data hdata :: stream.continuation (counter + 1) (data.drop 184) := by
  rw [continuation, dif_neg hdata]

/-- Continuation packets are on the PID of the stream, start no unit and carry no clock. -/
theorem continuation_fields (counter : ℕ) (data : List UInt8) :
    ∀ packet ∈ stream.continuation counter data, packet.unitStart = false ∧
      packet.priority = true ∧ packet.pid = stream.pid ∧ packet.pcr = none := by
  fun_induction continuation stream counter data with
  | case1 => simp
  | case2 counter data hdata ih =>
      intro packet hmem
      rcases List.mem_cons.mp hmem with rfl | htail
      · exact ⟨rfl, rfl, rfl, rfl⟩
      · exact ih packet htail

theorem flatMap_payload_continuation (counter : ℕ) (data : List UInt8) :
    (stream.continuation counter data).flatMap Packet.payload = data := by
  fun_induction continuation stream counter data with
  | case1 => rfl
  | case2 counter data hdata ih =>
      rw [List.flatMap_cons, ih]
      exact List.take_append_drop 184 data

theorem map_counter_continuation (counter : ℕ) (data : List UInt8) :
    (stream.continuation counter data).map Packet.counter =
      List.range' counter (stream.continuation counter data).length := by
  fun_induction continuation stream counter data with
  | case1 => rfl
  | case2 counter data hdata ih =>
      rw [List.map_cons, ih, List.length_cons, List.range'_succ]
      rfl

/-- As many packets as 184 bytes at a time need. -/
theorem length_continuation (counter : ℕ) (data : List UInt8) :
    (stream.continuation counter data).length = (data.length + 183) / 184 := by
  fun_induction continuation stream counter data with
  | case1 => rfl
  | case2 counter data hdata ih =>
      have hpos := List.length_pos_iff.mpr hdata
      rw [List.length_cons, ih, List.length_drop]
      omega

theorem length_unit (counter pts : ℕ) (data : List UInt8) :
    (stream.unit counter pts data).length =
      1 + (data.length - stream.taken data + 183) / 184 := by
  rw [unit, List.length_cons, length_continuation, List.length_drop, Nat.add_comm]

theorem length_continuation_le (counter : ℕ) (data : List UInt8) :
    (stream.continuation counter data).length ≤ data.length := by
  rw [length_continuation]
  omega

theorem map_counter_unit (counter pts : ℕ) (data : List UInt8) :
    (stream.unit counter pts data).map Packet.counter =
      List.range' counter (stream.unit counter pts data).length := by
  rw [unit, List.map_cons, map_counter_continuation, List.length_cons, List.range'_succ]
  rfl

/-- The packets of a frame carry its PES packet, after the stray byte if there is one. -/
theorem flatMap_payload_unit (counter pts : ℕ) (data : List UInt8) :
    (stream.unit counter pts data).flatMap Packet.payload =
      stream.lead data ++ (pesHeader stream.streamId (stream.packetLength data) pts ++ data) := by
  rw [unit, List.flatMap_cons, flatMap_payload_continuation]
  change stream.lead data ++ (_ ++ data.take (stream.taken data)) ++ _ = _
  rw [List.append_assoc, List.append_assoc, List.take_append_drop]

theorem unit_pid (counter pts : ℕ) (data : List UInt8) :
    ∀ packet ∈ stream.unit counter pts data, packet.pid = stream.pid := by
  intro packet hmem
  rcases List.mem_cons.mp hmem with rfl | htail
  · rfl
  · exact (stream.continuation_fields _ _ packet htail).2.2.1

theorem unit_ne_nil (counter pts : ℕ) (data : List UInt8) :
    stream.unit counter pts data ≠ [] := List.cons_ne_nil _ _

end ElementaryStream

/-! ## Frames and programs -/

/-- Video frames that begin a GOP, other video frames, and audio frames. -/
inductive FrameKind where
  | idr
  | delta
  | audio
  deriving DecidableEq, Repr

/-- A frame with its time stamp in units of 90 kHz. -/
structure Frame where
  kind : FrameKind
  pts : ℕ
  data : List UInt8
  deriving DecidableEq

def Frame.isAudio (frame : Frame) : Bool := frame.kind = .audio

def Frame.isVideo (frame : Frame) : Bool := frame.kind ≠ .audio

/-- A program: its two streams and the payloads of its two tables. -/
structure Program where
  video : ElementaryStream
  audio : ElementaryStream
  patPayload : List UInt8
  pmtPayload : List UInt8
  length_patPayload : patPayload.length = 184
  length_pmtPayload : pmtPayload.length = 184

namespace Program

variable (program : Program)

/-- A packet of the program association table. -/
def pat (counter : ℕ) : Packet where
  unitStart := true
  priority := true
  pid := 0
  counter := counter
  pcr := none
  payload := program.patPayload
  pid_lt := by omega
  payload_ne_nil := by
    rw [← List.length_pos_iff, program.length_patPayload]
    omega
  fits := by simp [program.length_patPayload]

/-- A packet of the program map table. -/
def pmt (counter : ℕ) : Packet where
  unitStart := true
  priority := true
  pid := 0x20
  counter := counter
  pcr := none
  payload := program.pmtPayload
  pid_lt := by omega
  payload_ne_nil := by
    rw [← List.length_pos_iff, program.length_pmtPayload]
    omega
  fits := by simp [program.length_pmtPayload]

end Program

/-- A null packet. -/
def nullPacket : Packet where
  unitStart := false
  priority := false
  pid := 0x1fff
  counter := 0
  pcr := none
  payload := List.replicate 184 0xff
  pid_lt := by omega
  payload_ne_nil := by
    rw [← List.length_pos_iff, List.length_replicate]
    omega
  fits := by
    rw [List.length_replicate]
    decide

/-! ## The machine -/

/-- How many packets have been handed on, how many GOPs begun, and how many packets of each stream
there were. -/
structure MuxState where
  packets : ℕ
  gops : ℕ
  video : ℕ
  audio : ℕ
  deriving DecidableEq

def MuxState.initial : MuxState := ⟨0, 0, 0, 0⟩

/-- How many null packets bring a GOP to its position.  The two counters have 64 bits. -/
def MuxState.missing (state : MuxState) : ℕ :=
  state.gops * 2102 % 2 ^ 64 - state.packets % 2 ^ 64

/-- The packets in front of a GOP. -/
def gopFront (program : Program) (state : MuxState) : List Packet :=
  List.replicate state.missing nullPacket ++ [program.pat state.gops, program.pmt state.gops]

/-- The packets of a frame itself. -/
def frameUnit (program : Program) (state : MuxState) (frame : Frame) : List Packet :=
  match frame.kind with
  | .audio => program.audio.unit state.audio frame.pts frame.data
  | _ => program.video.unit state.video frame.pts frame.data

/-- One frame. -/
def muxStep (program : Program) (state : MuxState) (frame : Frame) : MuxState × List Packet :=
  let unit := frameUnit program state frame
  match frame.kind with
  | .idr =>
      let front := gopFront program state
      ({ state with
          packets := state.packets + front.length + unit.length
          gops := state.gops + 1
          video := state.video + unit.length }, front ++ unit)
  | .delta =>
      ({ state with
          packets := state.packets + unit.length
          video := state.video + unit.length }, unit)
  | .audio =>
      if state.packets % 2 ^ 64 = 0 then (state, [])
      else
        ({ state with
            packets := state.packets + unit.length
            audio := state.audio + unit.length }, unit)

/-! ### One step, kind by kind -/

section Step

variable (program : Program) (state : MuxState) {frame : Frame}

theorem muxStep_idr (hkind : frame.kind = .idr) :
    let front := gopFront program state
    let unit := program.video.unit state.video frame.pts frame.data
    muxStep program state frame =
      ({ state with
          packets := state.packets + front.length + unit.length
          gops := state.gops + 1
          video := state.video + unit.length }, front ++ unit) := by
  simp only [muxStep, frameUnit, hkind]

theorem muxStep_delta (hkind : frame.kind = .delta) :
    let unit := program.video.unit state.video frame.pts frame.data
    muxStep program state frame =
      ({ state with
          packets := state.packets + unit.length
          video := state.video + unit.length }, unit) := by
  simp only [muxStep, frameUnit, hkind]

theorem muxStep_audio (hkind : frame.kind = .audio) (hpackets : state.packets % 2 ^ 64 ≠ 0) :
    let unit := program.audio.unit state.audio frame.pts frame.data
    muxStep program state frame =
      ({ state with
          packets := state.packets + unit.length
          audio := state.audio + unit.length }, unit) := by
  simp only [muxStep, frameUnit, hkind, if_neg hpackets]

theorem muxStep_dropped (hkind : frame.kind = .audio) (hpackets : state.packets % 2 ^ 64 = 0) :
    muxStep program state frame = (state, []) := by
  simp only [muxStep, hkind, if_pos hpackets]

end Step

/-- The multiplexer of a program. -/
def multiplexer (program : Program) : Mealy MuxState Frame Packet where
  step := muxStep program

end SpTsMuxer.Spts
