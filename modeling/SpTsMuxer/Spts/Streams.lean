import SpTsMuxer.Spts.Multiplex

/-!
# One PID of the Multiplexer

Seen on the PID of one stream, the multiplexer is a much smaller machine, which numbers packets
and makes units of the frames of that stream.  For video this holds of every run.  For audio it
holds of every run in which no audio frame meets a packet counter of zero.

The packets of the small machine form units in the sense of the reference demultiplexer, except
for a frame of 169 bytes on a stream without clock reference.
-/

namespace SpTsMuxer.Spts

open Transport Machine

/-! ## Packets by PID -/

/-- Packets on one PID. -/
def onPid (number : ℕ) (packet : Packet) : Bool := packet.pid = number

/-- The PIDs of the streams differ from each other and from those of tables and null packets. -/
structure Program.Separate (program : Program) : Prop where
  streams : program.video.pid ≠ program.audio.pid
  video : program.video.pid ≠ 0 ∧ program.video.pid ≠ 0x20 ∧ program.video.pid ≠ 0x1fff
  audio : program.audio.pid ≠ 0 ∧ program.audio.pid ≠ 0x20 ∧ program.audio.pid ≠ 0x1fff

namespace ElementaryStream

variable (stream : ElementaryStream)

theorem filter_unit_self (counter pts : ℕ) (data : List UInt8) :
    (stream.unit counter pts data).filter (onPid stream.pid) = stream.unit counter pts data := by
  rw [List.filter_eq_self]
  intro packet hmem
  exact decide_eq_true (stream.unit_pid counter pts data packet hmem)

theorem filter_unit_other {number : ℕ} (h : stream.pid ≠ number) (counter pts : ℕ)
    (data : List UInt8) : (stream.unit counter pts data).filter (onPid number) = [] := by
  rw [List.filter_eq_nil_iff]
  intro packet hmem
  rw [onPid, stream.unit_pid counter pts data packet hmem, decide_eq_true_eq]
  exact h

end ElementaryStream

theorem filter_gopFront {number : ℕ} (h : number ≠ 0 ∧ number ≠ 0x20 ∧ number ≠ 0x1fff)
    (program : Program) (state : MuxState) :
    (gopFront program state).filter (onPid number) = [] := by
  rw [List.filter_eq_nil_iff]
  intro packet hmem
  rw [onPid, decide_eq_true_eq]
  rcases List.mem_append.mp hmem with hnull | htables
  · rw [List.eq_of_mem_replicate hnull]
    exact h.2.2.symm
  · rw [List.mem_cons, List.mem_singleton] at htables
    rcases htables with rfl | rfl
    · exact h.1.symm
    · exact h.2.1.symm

/-! ## What the packets of a run can be -/

/-- The kinds of packets that a program emits. -/
inductive Emitted (program : Program) : Packet → Prop where
  | null : Emitted program nullPacket
  | pat (counter : ℕ) : Emitted program (program.pat counter)
  | pmt (counter : ℕ) : Emitted program (program.pmt counter)
  | start {stream : ElementaryStream} (hstream : stream = program.video ∨ stream = program.audio)
      (counter pts : ℕ) (data : List UInt8) : Emitted program (stream.start counter pts data)
  | piece {stream : ElementaryStream} (hstream : stream = program.video ∨ stream = program.audio)
      (counter : ℕ) (data : List UInt8) (hdata : data ≠ []) :
      Emitted program (stream.piece counter data hdata)

theorem emitted_continuation {program : Program} {stream : ElementaryStream}
    (hstream : stream = program.video ∨ stream = program.audio) (counter : ℕ) (data : List UInt8) :
    ∀ packet ∈ stream.continuation counter data, Emitted program packet := by
  fun_induction ElementaryStream.continuation stream counter data with
  | case1 => simp
  | case2 counter data hdata ih =>
      intro packet hmem
      rcases List.mem_cons.mp hmem with rfl | htail
      · exact .piece hstream counter data hdata
      · exact ih packet htail

theorem emitted_unit {program : Program} {stream : ElementaryStream}
    (hstream : stream = program.video ∨ stream = program.audio) (counter pts : ℕ)
    (data : List UInt8) : ∀ packet ∈ stream.unit counter pts data, Emitted program packet := by
  intro packet hmem
  rcases List.mem_cons.mp hmem with rfl | htail
  · exact .start hstream counter pts data
  · exact emitted_continuation hstream _ _ packet htail

theorem emitted_gopFront (program : Program) (state : MuxState) :
    ∀ packet ∈ gopFront program state, Emitted program packet := by
  intro packet hmem
  rcases List.mem_append.mp hmem with hnull | htables
  · rw [List.eq_of_mem_replicate hnull]
    exact .null
  · rw [List.mem_cons, List.mem_singleton] at htables
    rcases htables with rfl | rfl
    · exact .pat _
    · exact .pmt _

theorem emitted_muxStep (program : Program) (state : MuxState) (frame : Frame) :
    ∀ packet ∈ (muxStep program state frame).2, Emitted program packet := by
  intro packet hmem
  cases hkind : frame.kind with
  | idr =>
      rw [muxStep_idr program state hkind] at hmem
      rcases List.mem_append.mp hmem with hfront | hunit
      · exact emitted_gopFront program state packet hfront
      · exact emitted_unit (.inl rfl) _ _ _ packet hunit
  | delta =>
      rw [muxStep_delta program state hkind] at hmem
      exact emitted_unit (.inl rfl) _ _ _ packet hmem
  | audio =>
      by_cases hpackets : state.packets % 2 ^ 64 = 0
      · rw [muxStep_dropped program state hkind hpackets] at hmem
        exact absurd hmem List.not_mem_nil
      · rw [muxStep_audio program state hkind hpackets] at hmem
        exact emitted_unit (.inr rfl) _ _ _ packet hmem

/-- Every packet of every run is of one of these kinds. -/
theorem emitted_of_mem_run (program : Program) (state : MuxState) (frames : List Frame) :
    ∀ packet ∈ ((multiplexer program).run state frames).2, Emitted program packet :=
  (multiplexer program).forall_mem_run_of_step (emitted_muxStep program) state frames

theorem emitted_cases {program : Program} {packet : Packet} (h : Emitted program packet) :
    (packet.pid = 0 ∧ ∃ counter, packet = program.pat counter) ∨
      (packet.pid = 0x20 ∧ ∃ counter, packet = program.pmt counter) ∨
      (packet.pid = 0x1fff ∧ packet = nullPacket) ∨
      ∃ stream, (stream = program.video ∨ stream = program.audio) ∧ packet.pid = stream.pid := by
  cases h with
  | null => exact .inr (.inr (.inl ⟨rfl, rfl⟩))
  | pat counter => exact .inl ⟨rfl, counter, rfl⟩
  | pmt counter => exact .inr (.inl ⟨rfl, counter, rfl⟩)
  | start hstream counter pts data => exact .inr (.inr (.inr ⟨_, hstream, rfl⟩))
  | piece hstream counter data hdata => exact .inr (.inr (.inr ⟨_, hstream, rfl⟩))

theorem pid_of_emitted {program : Program} {packet : Packet} (h : Emitted program packet) :
    packet.pid = program.video.pid ∨ packet.pid = program.audio.pid ∨
      packet.pid = 0 ∨ packet.pid = 0x20 ∨ packet.pid = 0x1fff := by
  rcases emitted_cases h with ⟨hpid, -⟩ | ⟨hpid, -⟩ | ⟨hpid, -⟩ | ⟨stream, rfl | rfl, hpid⟩
  · exact .inr (.inr (.inl hpid))
  · exact .inr (.inr (.inr (.inl hpid)))
  · exact .inr (.inr (.inr (.inr hpid)))
  · exact .inl hpid
  · exact .inr (.inl hpid)

theorem Program.Separate.of_stream {program : Program} (h : program.Separate)
    {stream : ElementaryStream} (hstream : stream = program.video ∨ stream = program.audio) :
    stream.pid ≠ 0 ∧ stream.pid ≠ 0x20 ∧ stream.pid ≠ 0x1fff := by
  rcases hstream with rfl | rfl
  · exact h.video
  · exact h.audio

section Separate

variable {program : Program} (hseparate : program.Separate) {packet : Packet}
  (h : Emitted program packet)
include hseparate h

theorem eq_pat_of_emitted (hpid : packet.pid = 0) : ∃ counter, packet = program.pat counter := by
  rcases emitted_cases h with ⟨-, hpat⟩ | ⟨hpmt, -⟩ | ⟨hnull, -⟩ | ⟨stream, hstream, hsame⟩
  · exact hpat
  · rw [hpid] at hpmt
    cases hpmt
  · rw [hpid] at hnull
    cases hnull
  · exact absurd (hsame.symm.trans hpid) (hseparate.of_stream hstream).1

theorem eq_pmt_of_emitted (hpid : packet.pid = 0x20) :
    ∃ counter, packet = program.pmt counter := by
  rcases emitted_cases h with ⟨hpat, -⟩ | ⟨-, hpmt⟩ | ⟨hnull, -⟩ | ⟨stream, hstream, hsame⟩
  · rw [hpid] at hpat
    cases hpat
  · exact hpmt
  · rw [hpid] at hnull
    cases hnull
  · exact absurd (hsame.symm.trans hpid) (hseparate.of_stream hstream).2.1

theorem eq_nullPacket_of_emitted (hpid : packet.pid = 0x1fff) : packet = nullPacket := by
  rcases emitted_cases h with ⟨hpat, -⟩ | ⟨hpmt, -⟩ | ⟨-, hnull⟩ | ⟨stream, hstream, hsame⟩
  · rw [hpid] at hpat
    cases hpat
  · rw [hpid] at hpmt
    cases hpmt
  · exact hnull
  · exact absurd (hsame.symm.trans hpid) (hseparate.of_stream hstream).2.2

end Separate

/-! ## The machine of one stream -/

/-- The packets of one stream, whose only state is the next packet number. -/
def streamMachine (stream : ElementaryStream) : Mealy ℕ Frame Packet where
  step counter frame :=
    let unit := stream.unit counter frame.pts frame.data
    (counter + unit.length, unit)

/-- An audio frame leaves the counters of the video stream and of the GOPs alone, and all PIDs but
its own. -/
theorem muxStep_of_audio (program : Program) (state : MuxState) {frame : Frame}
    (hkind : frame.kind = .audio) :
    (muxStep program state frame).1.video = state.video ∧
      (muxStep program state frame).1.gops = state.gops ∧
      ∀ number, program.audio.pid ≠ number →
        (muxStep program state frame).2.filter (onPid number) = [] := by
  by_cases hpackets : state.packets % 2 ^ 64 = 0
  · rw [muxStep_dropped program state hkind hpackets]
    exact ⟨rfl, rfl, fun number _ ↦ List.filter_nil⟩
  · rw [muxStep_audio program state hkind hpackets]
    exact ⟨rfl, rfl, fun number hother ↦ ElementaryStream.filter_unit_other _ hother _ _ _⟩

theorem kind_of_hidden {frame : Frame} (hhidden : frame.isVideo = false) :
    frame.kind = .audio := by
  simpa [Frame.isVideo] using hhidden

/-- On the video PID the multiplexer is the machine of the video stream, in every state. -/
theorem observes_video {program : Program} (hseparate : program.Separate) :
    (multiplexer program).Observes (streamMachine program.video) (fun _ ↦ True) MuxState.video
      Frame.isVideo (onPid program.video.pid) where
  invariant _ _ _ := trivial
  state_visible := by
    intro state frame _ hvisible
    change (muxStep program state frame).1.video = _
    cases hkind : frame.kind with
    | idr => rw [muxStep_idr program state hkind]; rfl
    | delta => rw [muxStep_delta program state hkind]; rfl
    | audio => simp [Frame.isVideo, hkind] at hvisible
  outputs_visible := by
    intro state frame _ hvisible
    change (muxStep program state frame).2.filter _ = _
    cases hkind : frame.kind with
    | idr =>
        rw [muxStep_idr program state hkind, List.filter_append,
          filter_gopFront hseparate.video, ElementaryStream.filter_unit_self]
        rfl
    | delta =>
        rw [muxStep_delta program state hkind, ElementaryStream.filter_unit_self]
        rfl
    | audio => simp [Frame.isVideo, hkind] at hvisible
  state_hidden state frame _ hhidden :=
    (muxStep_of_audio program state (kind_of_hidden hhidden)).1
  outputs_hidden state frame _ hhidden :=
    (muxStep_of_audio program state (kind_of_hidden hhidden)).2.2 _ hseparate.streams.symm

/-- The packets of a table, one for each GOP. -/
def tableMachine (table : ℕ → Packet) : Mealy ℕ Frame Packet where
  step counter frame :=
    if frame.kind = .idr then (counter + 1, [table counter]) else (counter, [])

/-- A table on a PID of its own: each GOP begins with one packet of it. -/
structure Program.HasTable (program : Program) (number : ℕ) (table : ℕ → Packet) : Prop where
  front : ∀ state, (gopFront program state).filter (onPid number) = [table state.gops]
  video : program.video.pid ≠ number
  audio : program.audio.pid ≠ number
  counter : ∀ counter, (table counter).counter = counter

theorem filter_gopFront_table {program : Program} {number : ℕ} (h : number ≠ 0x1fff)
    (state : MuxState) : (gopFront program state).filter (onPid number) =
      [program.pat state.gops, program.pmt state.gops].filter (onPid number) := by
  have hnull : (List.replicate state.missing nullPacket).filter (onPid number) = [] := by
    rw [List.filter_eq_nil_iff]
    intro packet hmem
    rw [List.eq_of_mem_replicate hmem, onPid, decide_eq_true_eq]
    exact h.symm
  rw [gopFront, List.filter_append, hnull, List.nil_append]

theorem hasTable_pat {program : Program} (hseparate : program.Separate) :
    program.HasTable 0 program.pat where
  front state := by
    rw [filter_gopFront_table (by decide)]
    rfl
  video := hseparate.video.1
  audio := hseparate.audio.1
  counter _ := rfl

theorem hasTable_pmt {program : Program} (hseparate : program.Separate) :
    program.HasTable 0x20 program.pmt where
  front state := by
    rw [filter_gopFront_table (by decide)]
    rfl
  video := hseparate.video.2.1
  audio := hseparate.audio.2.1
  counter _ := rfl

/-- On the PID of a table the multiplexer repeats the table, once for each GOP. -/
theorem observes_table {program : Program} {number : ℕ} {table : ℕ → Packet}
    (htable : program.HasTable number table) :
    (multiplexer program).Observes (tableMachine table) (fun _ ↦ True) MuxState.gops
      Frame.isVideo (onPid number) where
  invariant _ _ _ := trivial
  state_visible := by
    intro state frame _ hvisible
    change (muxStep program state frame).1.gops = _
    cases hkind : frame.kind with
    | idr =>
        rw [muxStep_idr program state hkind, tableMachine]
        simp [hkind]
    | delta =>
        rw [muxStep_delta program state hkind, tableMachine]
        simp [hkind]
    | audio => simp [Frame.isVideo, hkind] at hvisible
  outputs_visible := by
    intro state frame _ hvisible
    change (muxStep program state frame).2.filter _ = _
    cases hkind : frame.kind with
    | idr =>
        rw [muxStep_idr program state hkind, List.filter_append, htable.front,
          ElementaryStream.filter_unit_other _ htable.video, tableMachine]
        simp [hkind]
    | delta =>
        rw [muxStep_delta program state hkind,
          ElementaryStream.filter_unit_other _ htable.video, tableMachine]
        simp [hkind]
    | audio => simp [Frame.isVideo, hkind] at hvisible
  state_hidden state frame _ hhidden :=
    (muxStep_of_audio program state (kind_of_hidden hhidden)).2.1
  outputs_hidden state frame _ hhidden :=
    (muxStep_of_audio program state (kind_of_hidden hhidden)).2.2 _ htable.audio

theorem filter_audio_of_video {program : Program} (hseparate : program.Separate)
    (state : MuxState) {frame : Frame} (hvideo : frame.kind ≠ .audio) :
    (muxStep program state frame).1.audio = state.audio ∧
      (muxStep program state frame).2.filter (onPid program.audio.pid) = [] := by
  cases hkind : frame.kind with
  | idr =>
      rw [muxStep_idr program state hkind]
      refine ⟨rfl, ?_⟩
      rw [List.filter_append, filter_gopFront hseparate.audio,
        ElementaryStream.filter_unit_other _ hseparate.streams, List.append_nil]
  | delta =>
      rw [muxStep_delta program state hkind]
      exact ⟨rfl, ElementaryStream.filter_unit_other _ hseparate.streams _ _ _⟩
  | audio => exact absurd hkind hvideo

/-- The audio frames of a run that are not dropped. -/
def keptAudio (program : Program) : MuxState → List Frame → List Frame
  | _, [] => []
  | state, frame :: rest =>
      if frame.kind = .audio ∧ state.packets % 2 ^ 64 ≠ 0 then
        frame :: keptAudio program (muxStep program state frame).1 rest
      else keptAudio program (muxStep program state frame).1 rest

/-- On the audio PID the multiplexer is the machine of the audio stream, on the frames that are not
dropped. -/
theorem filter_audio_run {program : Program} (hseparate : program.Separate) (state : MuxState)
    (frames : List Frame) :
    ((multiplexer program).run state frames).2.filter (onPid program.audio.pid) =
      ((streamMachine program.audio).run state.audio (keptAudio program state frames)).2 := by
  induction frames generalizing state with
  | nil => rfl
  | cons frame rest ih =>
      have htail := ih (muxStep program state frame).1
      rw [Mealy.run_cons_snd, List.filter_append, keptAudio]
      change (muxStep program state frame).2.filter _ ++
        ((multiplexer program).run (muxStep program state frame).1 rest).2.filter _ = _
      rw [htail]
      by_cases haudio : frame.kind = .audio
      · by_cases hpackets : state.packets % 2 ^ 64 = 0
        · rw [muxStep_dropped program state haudio hpackets, if_neg (fun h ↦ h.2 hpackets)]
          rfl
        · rw [muxStep_audio program state haudio hpackets, if_pos ⟨haudio, hpackets⟩,
            ElementaryStream.filter_unit_self]
          rfl
      · obtain ⟨hcounter, houtputs⟩ := filter_audio_of_video hseparate state haudio
        rw [houtputs, hcounter, if_neg (fun h ↦ haudio h.1)]
        rfl

/-- No audio frame of the run meets a packet counter of zero. -/
def NoneDropped (program : Program) (state : MuxState) (frames : List Frame) : Prop :=
  ∀ before frame after, frames = before ++ frame :: after → frame.kind = .audio →
    ((multiplexer program).run state before).1.packets % 2 ^ 64 ≠ 0

theorem packets_muxStep (program : Program) (state : MuxState) (frame : Frame) :
    (muxStep program state frame).1.packets =
      state.packets + (muxStep program state frame).2.length := by
  cases hkind : frame.kind with
  | idr =>
      rw [muxStep_idr program state hkind, List.length_append, ← Nat.add_assoc]
  | delta => rw [muxStep_delta program state hkind]
  | audio =>
      by_cases hpackets : state.packets % 2 ^ 64 = 0
      · rw [muxStep_dropped program state hkind hpackets]
        rfl
      · rw [muxStep_audio program state hkind hpackets]

theorem packets_run_cons (program : Program) (state : MuxState) (frame : Frame)
    (rest : List Frame) :
    state.packets + ((multiplexer program).run state (frame :: rest)).2.length =
      (muxStep program state frame).1.packets +
        ((multiplexer program).run (muxStep program state frame).1 rest).2.length := by
  rw [packets_muxStep, Nat.add_assoc, Mealy.run_cons_snd, List.length_append]
  rfl

theorem packets_run (program : Program) (state : MuxState) (frames : List Frame) :
    ((multiplexer program).run state frames).1.packets =
      state.packets + ((multiplexer program).run state frames).2.length := by
  induction frames generalizing state with
  | nil => rfl
  | cons frame rest ih =>
      rw [packets_run_cons, Mealy.run_cons_fst]
      exact ih (muxStep program state frame).1

theorem muxStep_ne_nil {program : Program} {state : MuxState} {frame : Frame}
    (hvideo : frame.kind ≠ .audio) : (muxStep program state frame).2 ≠ [] := by
  cases hkind : frame.kind with
  | idr =>
      rw [muxStep_idr program state hkind]
      exact List.append_ne_nil_of_right_ne_nil _ (ElementaryStream.unit_ne_nil _ _ _ _)
  | delta =>
      rw [muxStep_delta program state hkind]
      exact ElementaryStream.unit_ne_nil _ _ _ _
  | audio => exact absurd hkind hvideo

theorem packets_pos_of_video {program : Program} {state : MuxState} {frame : Frame}
    (hvideo : frame.kind ≠ .audio) : 0 < (muxStep program state frame).1.packets := by
  rw [packets_muxStep]
  exact Nat.add_pos_right _ (List.length_pos_iff.mpr (muxStep_ne_nil hvideo))

/-- No audio is dropped in a run that begins with video and stays within 64 bits. -/
theorem noneDropped_of_length {program : Program} {first : Frame} {rest : List Frame}
    (hvideo : first.kind ≠ .audio)
    (hlength : ((multiplexer program).run .initial (first :: rest)).2.length < 2 ^ 64) :
    NoneDropped program .initial (first :: rest) := by
  intro before frame after hsplit haudio
  cases before with
  | nil =>
      obtain ⟨rfl, -⟩ := List.cons.inj hsplit
      exact absurd haudio hvideo
  | cons head tail =>
      obtain ⟨rfl, -⟩ := List.cons.inj hsplit
      have hcount := packets_run program .initial (first :: tail)
      have hpos : 0 < ((multiplexer program).run .initial (first :: tail)).2.length := by
        rw [List.length_pos_iff, Mealy.run_cons_snd]
        exact List.append_ne_nil_of_left_ne_nil (muxStep_ne_nil hvideo) _
      have hle : ((multiplexer program).run .initial (first :: tail)).2.length ≤
          ((multiplexer program).run .initial (first :: rest)).2.length := by
        rw [hsplit, Mealy.run_append, List.length_append]
        exact Nat.le_add_right _ _
      change _ = 0 + _ at hcount
      rw [hcount, Nat.zero_add, Nat.mod_eq_of_lt (Nat.lt_of_le_of_lt hle hlength)]
      exact Nat.ne_of_gt hpos

theorem noneDropped_cons {program : Program} {state : MuxState} {frame : Frame}
    {rest : List Frame} :
    NoneDropped program state (frame :: rest) ↔
      (frame.kind = .audio → state.packets % 2 ^ 64 ≠ 0) ∧
        NoneDropped program (muxStep program state frame).1 rest := by
  constructor
  · intro h
    refine ⟨fun haudio ↦ h [] frame rest rfl haudio, fun before other after hsplit haudio ↦ ?_⟩
    exact h (frame :: before) other after (by rw [hsplit]; rfl) haudio
  · rintro ⟨hfirst, hrest⟩ before other after hsplit haudio
    cases before with
    | nil =>
        obtain ⟨rfl, -⟩ := List.cons.inj hsplit
        exact hfirst haudio
    | cons head tail =>
        obtain ⟨rfl, hrestEq⟩ := List.cons.inj hsplit
        exact hrest tail other after hrestEq haudio

theorem noneDropped_pair (program : Program) {idr audio : Frame} (hidr : idr.kind = .idr)
    (hsize : idr.data.length < 2 ^ 32) : NoneDropped program .initial [idr, audio] := by
  have hfirst : (muxStep program .initial idr).1.packets =
      0 + 2 + (program.video.unit 0 idr.pts idr.data).length := by
    rw [muxStep_idr program .initial hidr]
    rfl
  have hunit : (program.video.unit 0 idr.pts idr.data).length ≤ 1 + idr.data.length := by
    have hle := program.video.length_continuation_le (0 + 1)
      (idr.data.drop (program.video.taken idr.data))
    rw [List.length_drop] at hle
    rw [ElementaryStream.unit, List.length_cons]
    omega
  rw [noneDropped_cons, noneDropped_cons]
  refine ⟨fun h ↦ ?_, fun _ ↦ ?_, ?_⟩
  · rw [hidr] at h
    cases h
  · rw [hfirst]
    omega
  · intro before frame after hsplit
    simp at hsplit

theorem keptAudio_sublist (program : Program) (state : MuxState) (frames : List Frame) :
    (keptAudio program state frames).Sublist (frames.filter Frame.isAudio) := by
  induction frames generalizing state with
  | nil => exact List.Sublist.slnil
  | cons frame rest ih =>
      have htail := ih (muxStep program state frame).1
      rw [keptAudio]
      by_cases haudio : frame.kind = .audio
      · rw [List.filter_cons_of_pos (by simp [Frame.isAudio, haudio])]
        split_ifs
        · exact htail.cons_cons frame
        · exact htail.cons frame
      · rw [List.filter_cons_of_neg (by simp [Frame.isAudio, haudio]), if_neg (fun h ↦ haudio h.1)]
        exact htail

theorem length_keptAudio_iff (program : Program) (state : MuxState) (frames : List Frame) :
    (keptAudio program state frames).length = (frames.filter Frame.isAudio).length ↔
      NoneDropped program state frames := by
  induction frames generalizing state with
  | nil => simp [keptAudio, NoneDropped]
  | cons frame rest ih =>
      have htail := ih (muxStep program state frame).1
      have hle := (keptAudio_sublist program (muxStep program state frame).1 rest).length_le
      rw [noneDropped_cons, keptAudio, ← htail]
      by_cases haudio : frame.kind = .audio
      · rw [List.filter_cons_of_pos (by simp [Frame.isAudio, haudio]), List.length_cons]
        by_cases hpackets : state.packets % 2 ^ 64 = 0
        · rw [if_neg (fun h ↦ h.2 hpackets)]
          refine ⟨fun h ↦ by omega, fun h ↦ absurd hpackets (h.1 haudio)⟩
        · rw [if_pos ⟨haudio, hpackets⟩, List.length_cons]
          exact ⟨fun h ↦ ⟨fun _ ↦ hpackets, by omega⟩, fun h ↦ by rw [h.2]⟩
      · rw [List.filter_cons_of_neg (by simp [Frame.isAudio, haudio]), if_neg (fun h ↦ haudio h.1)]
        exact ⟨fun h ↦ ⟨fun hkind ↦ absurd hkind haudio, h⟩, fun h ↦ h.2⟩

theorem keptAudio_eq_filter {program : Program} {state : MuxState} {frames : List Frame}
    (h : NoneDropped program state frames) :
    keptAudio program state frames = frames.filter Frame.isAudio :=
  (keptAudio_sublist program state frames).eq_of_length
    ((length_keptAudio_iff program state frames).mpr h)

/-! ## Demultiplexing the packets of one stream -/

/-- What a receiver should get from a frame. -/
def Frame.accessUnit (frame : Frame) : AccessUnit where
  pts := some (frame.pts % 2 ^ 33)
  payload := frame.data

section Demux

variable (stream : ElementaryStream)

/-- The frames of a run with the packet numbers they begin at. -/
def numbered : ℕ → List Frame → List (ℕ × Frame)
  | _, [] => []
  | counter, frame :: rest =>
      (counter, frame) ::
        numbered (counter + (stream.unit counter frame.pts frame.data).length) rest

theorem map_snd_numbered (counter : ℕ) (frames : List Frame) :
    (numbered stream counter frames).map Prod.snd = frames := by
  induction frames generalizing counter with
  | nil => rfl
  | cons frame rest ih => rw [numbered, List.map_cons, ih]

theorem streamMachine_run_eq (counter : ℕ) (frames : List Frame) :
    ((streamMachine stream).run counter frames).2 =
      (numbered stream counter frames).flatMap
        fun entry ↦ stream.unit entry.1 entry.2.pts entry.2.data := by
  induction frames generalizing counter with
  | nil => rfl
  | cons frame rest ih =>
      rw [numbered, List.flatMap_cons, ← ih]
      rfl

/-- The packets of a frame are one unit of the demultiplexer, if no stray byte is in front. -/
theorem isUnit_unit (counter pts : ℕ) {data : List UInt8} (hlead : stream.lead data = []) :
    IsUnit stream.streamId ((stream.unit counter pts data).map Packet.encode)
      (pesHeader stream.streamId (stream.packetLength data) pts ++ data) := by
  have hstart : (stream.start counter pts data).payload =
      pesHeader stream.streamId (stream.packetLength data) pts ++
        data.take (stream.taken data) := by
    change stream.lead data ++ _ = _
    rw [hlead, List.nil_append]
  rw [ElementaryStream.unit, List.map_cons]
  refine IsUnit.intro ?_ ?_ ?_ ?_
  · rw [Packet.payloadUnitStartIndicator_encode]
    rfl
  · rw [Packet.payload_encode, hstart]
    exact startCode_prefix_pesHeader _ _ _ _
  · intro packet hmem
    obtain ⟨piece, hpiece, rfl⟩ := List.mem_map.mp hmem
    rw [Packet.payloadUnitStartIndicator_encode]
    exact (stream.continuation_fields _ _ piece hpiece).1
  · have hcontents := stream.flatMap_payload_unit counter pts data
    rw [hlead, List.nil_append, ElementaryStream.unit, List.flatMap_cons] at hcontents
    rw [Packet.payload_encode, List.flatMap_map, ← hcontents]
    simp only [Packet.payload_encode]

/-- The demultiplexer gets back the frames, one by one, if none of them has a stray byte. -/
theorem demux_streamMachine (counter : ℕ) {frames : List Frame}
    (hlead : ∀ frame ∈ frames, stream.lead frame.data = []) :
    demux stream.streamId (((streamMachine stream).run counter frames).2.map Packet.encode) =
      some (frames.map Frame.accessUnit) := by
  have hunits : ∀ entry ∈ numbered stream counter frames, IsUnit stream.streamId
      ((stream.unit entry.1 entry.2.pts entry.2.data).map Packet.encode)
      (pesHeader stream.streamId (stream.packetLength entry.2.data) entry.2.pts ++
        entry.2.data) := by
    intro entry hmem
    refine isUnit_unit stream _ _ (hlead entry.2 ?_)
    rw [← map_snd_numbered stream counter frames]
    exact List.mem_map_of_mem hmem
  rw [streamMachine_run_eq, List.map_flatMap, demux_units _ _ _ hunits]
  conv_rhs => rw [← map_snd_numbered stream counter frames, List.map_map]
  congr 2
  funext entry
  exact parsePes_pesHeader _ _ _ _

/-- A single frame with a stray byte makes the whole stream unreadable. -/
theorem demux_streamMachine_eq_none (counter : ℕ) {frames : List Frame} {frame : Frame}
    (hmem : frame ∈ frames) (hlead : stream.lead frame.data ≠ []) :
    demux stream.streamId (((streamMachine stream).run counter frames).2.map Packet.encode) =
      none := by
  obtain ⟨⟨number, other⟩, hentry, rfl⟩ : ∃ entry ∈ numbered stream counter frames,
      entry.2 = frame := by
    rw [← map_snd_numbered stream counter frames] at hmem
    exact List.mem_map.mp hmem
  have hstray : stream.lead other.data = [0x00] := by
    rw [ElementaryStream.lead] at hlead ⊢
    split_ifs with hcase
    · rfl
    · exact absurd (if_neg hcase) hlead
  have hpacket : stream.start number other.pts other.data ∈
      ((streamMachine stream).run counter frames).2 := by
    rw [streamMachine_run_eq, List.mem_flatMap]
    exact ⟨_, hentry, List.mem_cons_self⟩
  refine demux_eq_none (List.mem_map_of_mem hpacket) ?_ ?_
  · rw [Packet.payloadUnitStartIndicator_encode]
    rfl
  · rw [Packet.payload_encode]
    change ¬startCode stream.streamId <+: stream.lead other.data ++ _
    rw [hstray]
    rintro ⟨tail, htail⟩
    simp [startCode, pesHeader] at htail

end Demux

end SpTsMuxer.Spts
