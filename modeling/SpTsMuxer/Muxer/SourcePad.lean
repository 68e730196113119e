import SpTsMuxer.Muxer.Batches
import SpTsMuxer.Muxer.Element

/-!
# What the Source Pad is Given

The stream is announced once, by the first collection, and buffers follow.  Each of them is as
long as some value of `pushbufsize` says, and together they are never longer than the packets that
the SpTs has handed on.  If the size stays the same from the first collection on, their number
follows from that of the packets; an element whose size has not been set pushes nothing.
-/

namespace SpTsMuxer.Muxer

open Memory Transport Machine Psi Spts

/-! ## The log of a run -/

def ElementEvent.isCollection : ElementEvent → Bool
  | .muxer (.collected _) => true
  | _ => false

/-- The values that an event writes to `pushbufsize`. -/
def ElementEvent.limits : ElementEvent → List UInt32
  | .setProperty .pushbufSize value => [value]
  | _ => []

/-- The values that calls write to `pushbufsize`. -/
def limitsOf (calls : List PushCall) : List UInt32 :=
  calls.filterMap fun
    | .pushPacket _ => none
    | .setPushbufsize value => some value

theorem limitsOf_append (first second : List PushCall) :
    limitsOf (first ++ second) = limitsOf first ++ limitsOf second :=
  List.filterMap_append

/-- Writes of `pushbufsize`. -/
def writesOf (values : List UInt32) : List PushCall := values.map .setPushbufsize

theorem writesOf_append (first second : List UInt32) :
    writesOf (first ++ second) = writesOf first ++ writesOf second :=
  List.map_append

theorem limitsOf_writesOf (values : List UInt32) : limitsOf (writesOf values) = values := by
  induction values with
  | nil => rfl
  | cons value rest ih => exact congrArg (value :: ·) ih

theorem limitsOf_packets (packets : List TsPacket) : limitsOf (packets.map .pushPacket) = [] := by
  induction packets with
  | nil => rfl
  | cons packet rest ih => exact ih

/-- The events before the first collection. -/
def earlyEvents (events : List ElementEvent) : List ElementEvent :=
  events.takeWhile fun event ↦ !event.isCollection

/-- The events from the first collection on. -/
def collectedEvents (events : List ElementEvent) : List ElementEvent :=
  events.dropWhile fun event ↦ !event.isCollection

section Log

variable {gst : UInt64Scale} {muxer next : SpTsMuxer (List SourceCall)}
  (hfunc : muxer.spts.writeFunc = logBackend.writeFunc)

theorem foldl_logBackend (packets : List TsPacket) (log : List SourceCall) :
    packets.foldl (fun log data ↦ (logBackend.writeFunc log data).2) log =
      log ++ (packets.map PushCall.pushPacket).map .push := by
  induction packets generalizing log with
  | nil => exact (List.append_nil log).symm
  | cons packet rest ih =>
      refine (ih _).trans ?_
      exact List.append_assoc log [.push (.pushPacket packet)] _

theorem log_of_not_isCollection {event : ElementEvent} (hevent : event.isCollection = false)
    (hok : event.step logBackend gst muxer = .ok next) :
    next.first = muxer.first ∧
      next.spts.writeFuncData = muxer.spts.writeFuncData ++ (writesOf event.limits).map .push := by
  cases event with
  | muxer event =>
      cases event with
      | request templ =>
          have hstep : MuxerEvent.step gst muxer (.request templ) = .ok next := hok
          refine ⟨first_request hstep, (writeFuncData_request hstep).trans ?_⟩
          exact (List.append_nil _).symm
      | collected collect => cases (show true = false from hevent)
  | setProperty propId value =>
      obtain rfl := Except.ok.inj hok
      refine ⟨rfl, ?_⟩
      cases propId <;> rfl

theorem log_early {events : List ElementEvent}
    (hevents : ∀ event ∈ events, event.isCollection = false)
    (hrun : events.foldlM (ElementEvent.step logBackend gst) muxer = .ok next) :
    next.first = muxer.first ∧ next.spts.writeFuncData =
      muxer.spts.writeFuncData ++ (writesOf (events.flatMap ElementEvent.limits)).map .push := by
  induction events generalizing muxer with
  | nil =>
      obtain rfl := Except.ok.inj hrun
      exact ⟨rfl, (List.append_nil _).symm⟩
  | cons event rest ih =>
      obtain ⟨hevent, hrest⟩ := List.forall_mem_cons.mp hevents
      obtain ⟨middle, hmiddle, hlast⟩ := foldlM_cons_eq_ok.mp hrun
      obtain ⟨hfirst, hdata⟩ := log_of_not_isCollection hevent hmiddle
      obtain ⟨hfirstRest, hdataRest⟩ := ih hrest hlast
      refine ⟨hfirstRest.trans hfirst, ?_⟩
      rw [hdataRest, hdata, List.append_assoc, ← List.map_append, ← writesOf_append,
        List.flatMap_cons]

include hfunc

theorem log_collected {collect : List CollectPad}
    (hok : ElementEvent.step logBackend gst muxer (.muxer (.collected collect)) = .ok next) :
    next.first = false ∧ ∃ packets : List TsPacket, next.spts.writeFuncData =
      muxer.spts.writeFuncData ++ (if muxer.first then [.srcpadSetcaps] else []) ++
        (packets.map PushCall.pushPacket).map .push := by
  have hstep : MuxerEvent.step gst (logBackend.announce muxer) (.collected collect) =
    .ok next := hok
  obtain ⟨hfirst, packets, hdata⟩ := exists_packets_collected hstep
  refine ⟨hfirst, packets, ?_⟩
  rw [hdata, logBackend.writeFunc_announce, hfunc, foldl_logBackend]
  unfold Backend.announce
  split_ifs
  · rfl
  · rw [List.append_nil]

theorem log_late {events : List ElementEvent} (hfirst : muxer.first = false)
    (hrun : events.foldlM (ElementEvent.step logBackend gst) muxer = .ok next) :
    ∃ calls : List PushCall,
      next.spts.writeFuncData = muxer.spts.writeFuncData ++ calls.map .push ∧
        limitsOf calls = events.flatMap ElementEvent.limits := by
  induction events generalizing muxer with
  | nil =>
      obtain rfl := Except.ok.inj hrun
      exact ⟨[], (List.append_nil _).symm, rfl⟩
  | cons event rest ih =>
      obtain ⟨middle, hmiddle, hlast⟩ := foldlM_cons_eq_ok.mp hrun
      obtain ⟨hfirstMiddle, calls, hdata, hlimits⟩ : middle.first = false ∧ ∃ calls,
          middle.spts.writeFuncData = muxer.spts.writeFuncData ++ calls.map .push ∧
            limitsOf calls = event.limits := by
        by_cases hevent : event.isCollection = true
        · obtain ⟨collect, rfl⟩ : ∃ collect, event = .muxer (.collected collect) := by
            unfold ElementEvent.isCollection at hevent
            split at hevent
            · exact ⟨_, rfl⟩
            · cases hevent
          obtain ⟨hfirstMiddle, packets, hdata⟩ := log_collected hfunc hmiddle
          rw [hfirst, if_neg Bool.false_ne_true, List.append_nil] at hdata
          exact ⟨hfirstMiddle, packets.map .pushPacket, hdata, limitsOf_packets packets⟩
        · obtain ⟨hsame, hdata⟩ :=
            log_of_not_isCollection (Bool.eq_false_of_not_eq_true hevent) hmiddle
          exact ⟨hsame.trans hfirst, _, hdata, limitsOf_writesOf _⟩
      obtain ⟨more, hdataMore, hlimitsMore⟩ :=
        ih ((ElementEvent.writeFunc_step hmiddle).trans hfunc) hfirstMiddle hlast
      refine ⟨calls ++ more, ?_, ?_⟩
      · rw [hdataMore, hdata, List.append_assoc, ← List.map_append]
      · rw [limitsOf_append, hlimits, hlimitsMore, List.flatMap_cons]

end Log

/-- The announcement of a run. -/
def announcements (events : List ElementEvent) : List SourceCall :=
  if events.any ElementEvent.isCollection then [.srcpadSetcaps] else []

theorem exists_of_isCollection {event : ElementEvent} (hevent : event.isCollection = true) :
    ∃ collect, event = .muxer (.collected collect) := by
  unfold ElementEvent.isCollection at hevent
  split at hevent
  · exact ⟨_, rfl⟩
  · cases hevent

theorem earlyEvents_append_collectedEvents (events : List ElementEvent) :
    earlyEvents events ++ collectedEvents events = events :=
  List.takeWhile_append_dropWhile

theorem isCollection_of_mem_earlyEvents {events : List ElementEvent} :
    ∀ event ∈ earlyEvents events, event.isCollection = false := by
  intro event hmem
  have hevent := List.mem_takeWhile_imp hmem
  rw [Bool.not_eq_true'] at hevent
  exact hevent

theorem announcements_of_nil {events : List ElementEvent} (hnil : collectedEvents events = []) :
    announcements events = [] := by
  have hsplit := earlyEvents_append_collectedEvents events
  rw [hnil, List.append_nil] at hsplit
  have hany : events.any ElementEvent.isCollection = false := by
    rw [List.any_eq_false]
    intro event hmem
    rw [← hsplit] at hmem
    rw [isCollection_of_mem_earlyEvents event hmem]
    exact Bool.false_ne_true
  rw [announcements, hany]
  rfl

/-- The first of the collected events is a collection, which is announced. -/
theorem announcements_of_cons {events rest : List ElementEvent} {event : ElementEvent}
    (hcons : collectedEvents events = event :: rest) :
    event.isCollection = true ∧ announcements events = [.srcpadSetcaps] := by
  have hhead := List.head?_dropWhile_not (fun event : ElementEvent ↦ !event.isCollection) events
  rw [show events.dropWhile (fun event ↦ !event.isCollection) = event :: rest from hcons] at hhead
  have hevent : event.isCollection = true := (Bool.not_eq_false' ..).mp hhead
  refine ⟨hevent, ?_⟩
  have hany : events.any ElementEvent.isCollection = true := by
    rw [List.any_eq_true]
    refine ⟨event, ?_, hevent⟩
    rw [← earlyEvents_append_collectedEvents events, hcons]
    exact List.mem_append_right _ List.mem_cons_self
  rw [announcements, hany]
  rfl

/-- The log of a run: writes of `pushbufsize`, the announcement if there is a collection, then
packets and further writes. -/
theorem log_run {gst : UInt64Scale} {events : List ElementEvent}
    {final : SpTsMuxer (List SourceCall)} (hrun : logBackend.run gst [] events = .ok final) :
    ∃ calls : List PushCall,
      final.spts.writeFuncData =
        (writesOf ((earlyEvents events).flatMap ElementEvent.limits)).map .push ++
          (announcements events ++ calls.map .push) ∧
        limitsOf calls = (collectedEvents events).flatMap ElementEvent.limits ∧
        (announcements events = [] → calls = []) := by
  obtain ⟨muxer, hmuxer, hfirst, hfunc, hdata, -⟩ :=
    exists_sptsmuxerInit logBackend.writeFunc []
  unfold Backend.run at hrun
  rw [hmuxer] at hrun
  change events.foldlM (ElementEvent.step logBackend gst) muxer = .ok final at hrun
  rw [← earlyEvents_append_collectedEvents events] at hrun
  obtain ⟨middle, hearly, hcollected⟩ := foldlM_append_eq_ok.mp hrun
  obtain ⟨hfirstMiddle, hdataMiddle⟩ := log_early isCollection_of_mem_earlyEvents hearly
  rw [hdata, List.nil_append] at hdataMiddle
  have hfuncMiddle := ElementEvent.writeFunc_run hearly hfunc
  cases hlate : collectedEvents events with
  | nil =>
      rw [hlate] at hcollected
      obtain rfl := Except.ok.inj hcollected
      refine ⟨[], ?_, rfl, fun _ ↦ rfl⟩
      rw [hdataMiddle, announcements_of_nil hlate]
      exact (List.append_nil _).symm
  | cons event rest =>
      obtain ⟨hevent, hannounced⟩ := announcements_of_cons hlate
      obtain ⟨collect, rfl⟩ := exists_of_isCollection hevent
      rw [hlate] at hcollected
      obtain ⟨started, hstarted, hrest⟩ := foldlM_cons_eq_ok.mp hcollected
      obtain ⟨hfirstStarted, packets, hdataStarted⟩ := log_collected hfuncMiddle hstarted
      rw [hfirstMiddle, hfirst, if_pos rfl] at hdataStarted
      obtain ⟨calls, hdataFinal, hlimits⟩ :=
        log_late ((ElementEvent.writeFunc_step hstarted).trans hfuncMiddle) hfirstStarted hrest
      refine ⟨packets.map .pushPacket ++ calls, ?_, ?_, ?_⟩
      · rw [hdataFinal, hdataStarted, hdataMiddle, hannounced, List.map_append]
        simp only [List.append_assoc]
      · rw [limitsOf_append, limitsOf_packets, hlimits]
        rfl
      · rw [hannounced]
        exact fun hnil ↦ absurd hnil (List.cons_ne_nil _ _)

/-! ## The log played -/

section Play

variable {allocator : Allocator} {handles : List SourceItem → Bool}

/-- What has been pushed stays pushed. -/
theorem exists_pushed_call {state next : PushState} {call : PushCall}
    (hok : state.call allocator call = .ok next) :
    ∃ buffers, next.muxer.pushed = state.muxer.pushed ++ buffers := by
  cases call with
  | setPushbufsize value =>
      obtain rfl := Except.ok.inj hok
      exact ⟨[], (List.append_nil _).symm⟩
  | pushPacket data =>
      obtain ⟨⟨result, pushed⟩, hpush, rfl⟩ := exists_of_map_eq_ok hok
      rw [← pushed_initializePushbuf allocator state]
      rw [sptsmuxerPushPacketCb] at hpush
      cases hpushbuf : (initializePushbuf allocator state).pushbuf with
      | none =>
          simp only [hpushbuf] at hpush
          obtain ⟨-, rfl⟩ := Prod.mk.inj (Except.ok.inj hpush)
          exact ⟨[], (List.append_nil _).symm⟩
      | some pushbuf =>
          simp only [hpushbuf] at hpush
          obtain ⟨stored, hstore, hanswer⟩ := exists_of_bind_eq_ok hpush
          obtain ⟨-, rfl⟩ := Prod.mk.inj (Except.ok.inj hanswer)
          rw [← pushed_storePacket hstore]
          change ∃ buffers, (pushBuffer allocator stored).muxer.pushed = _
          rw [pushBuffer]
          split_ifs
          · exact ⟨_, rfl⟩
          · exact ⟨[], (List.append_nil _).symm⟩

theorem push_foldlM (log : List SourceCall) (side : SourceSide) :
    SourceSide.push <$> log.foldlM (SourceSide.call allocator handles) side =
      (pushCalls log).foldlM (PushState.call allocator) side.push := by
  induction log generalizing side with
  | nil => rfl
  | cons call rest ih =>
      rw [List.foldlM_cons, map_bind]
      cases call with
      | srcpadSetcaps => exact ih _
      | push call =>
          change ((side.push.call allocator call >>= fun push ↦
            pure (SourceSide.mk push _)) >>= _) = (call :: pushCalls rest).foldlM _ side.push
          rw [List.foldlM_cons, bind_assoc]
          exact bind_congr fun push ↦ ih _

theorem srcpad_foldlM {calls : List PushCall} {side final : SourceSide}
    (hrun : (calls.map .push).foldlM (SourceSide.call allocator handles) side = .ok final) :
    ∃ buffers, final.push.muxer.pushed = side.push.muxer.pushed ++ buffers ∧
      final.srcpad = side.srcpad ++ buffers.map .buffer := by
  induction calls generalizing side with
  | nil =>
      obtain rfl := Except.ok.inj hrun
      exact ⟨[], (List.append_nil _).symm, (List.append_nil _).symm⟩
  | cons call rest ih =>
      obtain ⟨middle, hcall, hrest⟩ := foldlM_cons_eq_ok.mp hrun
      obtain ⟨push, hpush, hmiddle⟩ := exists_of_bind_eq_ok hcall
      obtain rfl := Except.ok.inj hmiddle
      obtain ⟨new, hnew⟩ := exists_pushed_call hpush
      obtain ⟨buffers, hpushed, hsrcpad⟩ := ih hrest
      refine ⟨new ++ buffers, ?_, ?_⟩
      · rw [hpushed, hnew, List.append_assoc]
      · rw [hsrcpad, hnew, List.drop_left, List.map_append, List.append_assoc]

theorem pushCalls_map (calls : List PushCall) : pushCalls (calls.map .push) = calls := by
  induction calls with
  | nil => rfl
  | cons call rest ih => exact congrArg (call :: ·) ih

theorem foldlM_writesOf (values : List UInt32) (pushbufsize : UInt32) :
    (writesOf values).foldlM (PushState.call allocator) (.initial pushbufsize) =
      .ok (.initial (values.getLastD pushbufsize)) := by
  induction values generalizing pushbufsize with
  | nil => rfl
  | cons value rest ih =>
      rw [List.getLastD_cons]
      exact ih value

/-- Before the announcement the source pad is given nothing. -/
theorem foldlM_early {values : List UInt32} {side : SourceSide}
    (hrun : ((writesOf values).map .push).foldlM (SourceSide.call allocator handles) .initial =
      .ok side) : side = ⟨.initial (values.getLastD 0), []⟩ := by
  have hpush : SourceSide.push <$> ((writesOf values).map .push).foldlM
      (SourceSide.call allocator handles) .initial = .ok (.initial (values.getLastD 0)) := by
    rw [push_foldlM, pushCalls_map]
    exact foldlM_writesOf values 0
  obtain ⟨buffers, hpushed, hsrcpad⟩ := srcpad_foldlM hrun
  rw [hrun] at hpush
  have hside : side.push = .initial (values.getLastD 0) := Except.ok.inj hpush
  rw [hside] at hpushed
  obtain rfl : buffers = [] := hpushed.symm
  obtain ⟨push, srcpad⟩ := side
  obtain rfl : push = _ := hside
  obtain rfl : srcpad = [] := hsrcpad
  rfl

end Play

/-- What the source pad is given first. -/
def announcement (events : List ElementEvent) : List SourceItem :=
  if events.any ElementEvent.isCollection then [.caps srcpadCaps, .newsegment .time] else []

/-- The source pad is given the announcement and then the buffers. -/
theorem srcpad_play {allocator : Allocator} {handles : List SourceItem → Bool}
    {events : List ElementEvent} {values : List UInt32} {calls : List PushCall} {side : SourceSide}
    (hcalls : announcements events = [] → calls = [])
    (hplay : play allocator handles ((writesOf values).map .push ++
      (announcements events ++ calls.map .push)) = .ok side) :
    side.srcpad = announcement events ++ side.push.muxer.pushed.map .buffer := by
  obtain ⟨early, hearly, hrest⟩ := foldlM_append_eq_ok.mp hplay
  obtain rfl := foldlM_early hearly
  unfold announcements at hcalls hrest
  unfold announcement
  split_ifs at hcalls hrest ⊢
  · obtain ⟨announced, hannounced, hlate⟩ := foldlM_append_eq_ok.mp hrest
    obtain ⟨buffers, hpushed, hsrcpad⟩ := srcpad_foldlM hlate
    obtain rfl : _ = announced := Except.ok.inj hannounced
    rw [hsrcpad, hpushed]
    rfl
  · rw [hcalls rfl] at hrest
    obtain rfl := Except.ok.inj hrest
    rfl

/-! ## The lengths of the buffers -/

/-- After `count` packets, with a limit that was always one of `limits`: each pushed buffer has the
length that one of the limits says, and all of them with the waiting packets are no longer than the
packets. -/
structure Conserved (limits : List UInt32) (count : ℕ) (state : PushState) : Prop where
  inside : state.Inside
  limit : state.muxer.pushbufsize ∈ limits
  length : ∀ buffer ∈ state.muxer.pushed, ∃ value ∈ limits, buffer.length = value.toNat * 188
  bytes : state.muxer.pushed.flatten.length + state.muxer.pushbufused.toNat * 188 ≤ count * 188

theorem conserved_initial (pushbufsize : UInt32) :
    Conserved [pushbufsize] 0 (.initial pushbufsize) where
  inside := PushState.inside_initial pushbufsize
  limit := List.mem_singleton_self _
  length _ hmem := absurd hmem List.not_mem_nil
  bytes := Nat.le_refl _

section Conserved

variable {allocator : Allocator} {limits : List UInt32} {count : ℕ} {state next : PushState}
  (h : Conserved limits count state)
include h

theorem Conserved.pushBuffer {pushbuf : Pushbuf} (hpushbuf : state.pushbuf = some pushbuf) :
    Conserved limits count (Muxer.pushBuffer allocator state) := by
  have hinside := h.inside.pushBuffer allocator
  rw [Muxer.pushBuffer] at hinside ⊢
  split_ifs at hinside ⊢ with hfull
  · have hsize := h.inside.size_lt pushbuf hpushbuf
    have hused := h.inside.used_le pushbuf hpushbuf
    have hlength : (state.muxer.pushbufsize * tspacketLength).toNat =
        state.muxer.pushbufused.toNat * 188 := by
      rw [← hfull]
      exact toNat_storeOffset hsize hused
    have hbytes := h.bytes
    refine ⟨hinside, h.limit, fun buffer hmem ↦ ?_, ?_⟩
    · rcases List.mem_append.mp hmem with hold | hnew
      · exact h.length buffer hold
      · obtain rfl := List.mem_singleton.mp hnew
        refine ⟨_, h.limit, ?_⟩
        rw [Block.length_cells, hlength, hfull]
    · rw [List.flatten_append, List.length_append, List.flatten_singleton, Block.length_cells,
        hlength]
      exact hbytes
  · exact h

theorem Conserved.succ : Conserved limits (count + 1) state where
  inside := h.inside
  limit := h.limit
  length := h.length
  bytes := h.bytes.trans (Nat.mul_le_mul_right 188 (Nat.le_succ count))

theorem Conserved.push {data : TsPacket} {result : Bool}
    (hok : sptsmuxerPushPacketCb allocator state data = .ok (result, next)) :
    Conserved limits (count + 1) next := by
  have hready : Conserved limits count (initializePushbuf allocator state) := by
    have hmuxer := muxer_initializePushbuf allocator h.inside
    refine ⟨inside_ready allocator h.inside, ?_, ?_, ?_⟩
    · rw [hmuxer]
      exact h.limit
    · rw [hmuxer]
      exact h.length
    · rw [hmuxer]
      exact h.bytes
  have houtcome := pushOutcome allocator h.inside data
  rw [hok] at houtcome
  generalize initializePushbuf allocator state = ready at houtcome hready
  cases houtcome with
  | refused hpushbuf => exact hready.succ
  | @stored size block stored hpushbuf hroom hfits hstored =>
      have hused := toNat_pushbufused_add_one hroom
      have hsize := hready.inside.size_lt _ hpushbuf
      have hbytes := hready.bytes
      have hnext : Conserved limits (count + 1) {
          pushbuf := some ⟨size, stored⟩
          muxer := { ready.muxer with pushbufused := ready.muxer.pushbufused + 1 } } := by
        refine ⟨⟨nofun, fun pushbuf hsome ↦ ?_, fun pushbuf hsome ↦ ?_⟩, hready.limit,
          hready.length, ?_⟩
        · obtain rfl := Option.some.inj hsome
          exact hsize
        · obtain rfl := Option.some.inj hsome
          change (ready.muxer.pushbufused + 1).toNat * 188 ≤ _
          rw [hused]
          exact hfits
        · change ready.muxer.pushed.flatten.length + (ready.muxer.pushbufused + 1).toNat * 188 ≤ _
          rw [hused]
          omega
      exact hnext.pushBuffer rfl
  | dropped hpushbuf hfull => exact (hready.pushBuffer hpushbuf).succ

theorem Conserved.setPushbufsize (value : UInt32)
    (hok : state.call allocator (.setPushbufsize value) = .ok next) :
    Conserved (limits ++ [value]) count next := by
  obtain rfl := Except.ok.inj hok
  refine ⟨⟨h.inside.used_of_none, h.inside.size_lt, h.inside.used_le⟩,
    List.mem_append_right _ (List.mem_singleton_self _), fun buffer hmem ↦ ?_, h.bytes⟩
  obtain ⟨old, hold, hlength⟩ := h.length buffer hmem
  exact ⟨old, List.mem_append_left _ hold, hlength⟩

end Conserved

theorem packetsOf_append (first second : List PushCall) :
    packetsOf (first ++ second) = packetsOf first ++ packetsOf second :=
  List.filterMap_append

/-- Buffers are never longer than the packets. -/
theorem conserved_calls {allocator : Allocator} {pushbufsize : UInt32} {calls : List PushCall}
    {final : PushState}
    (hrun : calls.foldlM (PushState.call allocator) (.initial pushbufsize) = .ok final) :
    Conserved (pushbufsize :: limitsOf calls) (packetsOf calls).length final := by
  induction calls using List.reverseRecOn generalizing final with
  | nil =>
      obtain rfl := Except.ok.inj hrun
      exact conserved_initial pushbufsize
  | append_singleton before call ih =>
      obtain ⟨middle, hbefore, hcall⟩ := foldlM_concat_eq_ok.mp hrun
      have hmiddle := ih hbefore
      rw [limitsOf_append, packetsOf_append, List.length_append]
      cases call with
      | pushPacket data =>
          obtain ⟨answer, hpush, rfl⟩ := exists_of_map_eq_ok hcall
          have hnext := hmiddle.push hpush
          change Conserved (_ :: (_ ++ [])) _ _
          rw [List.append_nil]
          exact hnext
      | setPushbufsize value => exact hmiddle.setPushbufsize value hcall

/-! ## The runs of the element -/

/-- The packets that a run of the muxer alone hands to its write function. -/
def handedPackets (gst : UInt64Scale) (events : List MuxerEvent) :
    Except Fault (List TsPacket) := do
  let muxer ← sptsmuxerInit (recorder fun _ ↦ true) []
  let final ← events.foldlM (MuxerEvent.step gst) muxer
  pure final.spts.writeFuncData

theorem handedPackets_eq (gst : UInt64Scale) (events : List ElementEvent) :
    handedPackets gst (muxerEvents events) = (fun muxer ↦ muxer.spts.writeFuncData) <$>
      (recorderBackend fun _ ↦ true).run gst [] events := by
  unfold handedPackets Backend.run
  rw [map_bind]
  refine bind_congr fun muxer ↦ ?_
  rw [foldlM_recorderBackend]
  rfl

theorem packetsOf_writesOf (values : List UInt32) : packetsOf (writesOf values) = [] := by
  induction values with
  | nil => rfl
  | cons value rest ih => exact ih

theorem pushCalls_log (values : List UInt32) (events : List ElementEvent)
    (calls : List PushCall) :
    pushCalls ((writesOf values).map .push ++ (announcements events ++ calls.map .push)) =
      writesOf values ++ calls := by
  have hannouncements : pushCalls (announcements events) = [] := by
    unfold announcements
    split_ifs
    · rfl
    · rfl
  unfold pushCalls at hannouncements ⊢
  rw [List.filterMap_append, List.filterMap_append, hannouncements, List.nil_append]
  exact congrArg₂ (· ++ ·) (pushCalls_map _) (pushCalls_map _)

/-- The value of `pushbufsize` when the first buffers are collected. -/
def earlyPushbufsize (events : List ElementEvent) : UInt32 :=
  ((earlyEvents events).flatMap ElementEvent.limits).getLastD 0

theorem exists_packets_of_limitsOf {calls : List PushCall} (hlimits : limitsOf calls = []) :
    ∃ packets : List TsPacket, calls = packets.map .pushPacket := by
  induction calls with
  | nil => exact ⟨[], rfl⟩
  | cons call rest ih =>
      cases call with
      | pushPacket data =>
          obtain ⟨packets, rfl⟩ := ih hlimits
          exact ⟨data :: packets, rfl⟩
      | setPushbufsize value => exact absurd hlimits (List.cons_ne_nil _ _)

theorem packetsOf_packets (packets : List TsPacket) :
    packetsOf (packets.map .pushPacket) = packets := by
  induction packets with
  | nil => rfl
  | cons packet rest ih => exact congrArg (packet :: ·) ih

/-- The number of buffers for some packets, with a size that stays the same. -/
theorem counts_of_pushPackets (allocator : Allocator) (pushbufsize : UInt32)
    (packets : List TsPacket) :
    (pushbufsize.toNat * 188 < 2 ^ 32 →
        ∃ final, pushPackets allocator (.initial pushbufsize) packets = .ok final) ∧
      ∀ final, pushPackets allocator (.initial pushbufsize) packets = .ok final →
        final.muxer.pushed.length = if pushbufsize.toNat * 188 < 2 ^ 32 then
          packets.length / pushbufsize.toNat else 0 := by
  rcases Nat.eq_zero_or_pos pushbufsize.toNat with hzero | hpos
  · obtain rfl : pushbufsize = 0 := UInt32.toNat_inj.mp hzero
    have hempty : (0 : UInt32) * tspacketLength = 0 := rfl
    have hrun := pushPackets_of_size_zero allocator hempty packets
    refine ⟨fun _ ↦ ⟨_, hrun⟩, fun final hfinal ↦ ?_⟩
    obtain rfl := Except.ok.inj (hrun.symm.trans hfinal)
    rw [hzero, Nat.div_zero, ite_self]
    rfl
  · have hends := ends_pushPackets allocator hpos packets
    refine ⟨fun hsmall ↦ ?_, fun final hfinal ↦ ?_⟩
    · cases hrun : pushPackets allocator (.initial pushbufsize) packets with
      | error fault => exact absurd hsmall (Nat.not_lt.mpr (hends.of_error hrun))
      | ok final => exact ⟨final, rfl⟩
    · have hbatched := hends.of_ok hfinal
      split_ifs with hsmall
      · obtain ⟨hcount, hused⟩ := hbatched.counted hsmall
        rw [← hcount, Nat.mul_comm, Nat.mul_add_div hpos, Nat.div_eq_of_lt hused, Nat.add_zero]
      · rw [hbatched.pushed_of_wrap (Nat.le_of_not_lt hsmall)]
        rfl

/-- The element fails exactly if the muxer alone does: properties, announcements and pushed buffers
do not matter. -/
theorem errorOf_run (gst : UInt64Scale) (allocator : Allocator)
    (handles : List SourceItem → Bool) (events : List ElementEvent) :
    errorOf ((elementBackend allocator handles).run gst (.ok .initial) events) =
      errorOf (handedPackets gst (muxerEvents events)) := by
  have helement := (follows_element allocator handles).project_run gst [] events
  have hrecorder := (follows_recorder fun _ ↦ true).project_run gst [] events
  rw [show play allocator handles [] = .ok .initial from rfl] at helement
  rw [show packetsOf (pushCalls []) = [] from rfl] at hrecorder
  rw [handedPackets_eq, helement, hrecorder]
  refine (errorOf_map _).trans ?_
  exact ((errorOf_map _).trans (errorOf_map _)).symm

section Element

variable {gst : UInt64Scale} {allocator : Allocator} {handles : List SourceItem → Bool}
  {events : List ElementEvent} {final : SpTsMuxer (Except Fault SourceSide)}
  (hrun : (elementBackend allocator handles).run gst (.ok .initial) events = .ok final)
include hrun

/-- A run of the element is a run of the muxer and a run of the push buffer. -/
theorem exists_calls :
    ∃ calls : List PushCall,
      handedPackets gst (muxerEvents events) = .ok (packetsOf calls) ∧
      limitsOf calls = (collectedEvents events).flatMap ElementEvent.limits ∧
      SourceSide.push <$> final.spts.writeFuncData =
        calls.foldlM (PushState.call allocator)
          (.initial (earlyPushbufsize events)) ∧
      ∀ side, final.spts.writeFuncData = .ok side →
        side.srcpad = announcement events ++ side.push.muxer.pushed.map .buffer := by
  have helement := (follows_element allocator handles).project_run gst [] events
  rw [show play allocator handles [] = .ok .initial from rfl, hrun] at helement
  obtain ⟨logged, hlogged, rfl⟩ := exists_of_map_eq_ok helement.symm
  obtain ⟨calls, hlog, hlimits, hnone⟩ := log_run hlogged
  have hrecorder := (follows_recorder fun _ ↦ true).project_run gst [] events
  rw [hlogged] at hrecorder
  refine ⟨calls, ?_, hlimits, ?_, ?_⟩
  · rw [handedPackets_eq]
    change (fun muxer ↦ muxer.spts.writeFuncData) <$>
      (recorderBackend fun _ ↦ true).run gst (packetsOf (pushCalls [])) events = _
    rw [hrecorder]
    change Except.ok (packetsOf (pushCalls logged.spts.writeFuncData)) = _
    rw [hlog, pushCalls_log, packetsOf_append, packetsOf_writesOf, List.nil_append]
  · change SourceSide.push <$> play allocator handles logged.spts.writeFuncData = _
    rw [play, push_foldlM, hlog, pushCalls_log, List.foldlM_append]
    change (writesOf _).foldlM (PushState.call allocator) (.initial 0) >>= _ = _
    rw [foldlM_writesOf]
    rfl
  · intro side hside
    change play allocator handles logged.spts.writeFuncData = .ok side at hside
    rw [hlog] at hside
    exact srcpad_play hnone hside

/-- Pads are requested, buffers collected and properties written at any time. The caps and the
segment are given to the source pad once, by the first collection, and then nothing but buffers.
Each buffer is as long as a value of `pushbufsize` says, and all of them are no longer than the
packets that the muxer hands on. -/
theorem source_pad_given {side : SourceSide} (hside : final.spts.writeFuncData = .ok side) :
    ∃ (handed : List TsPacket) (buffers : List (List UInt8)),
      handedPackets gst (muxerEvents events) = .ok handed ∧
      side.srcpad = announcement events ++ buffers.map .buffer ∧
      (∀ buffer ∈ buffers, ∃ value ∈ 0 :: events.flatMap ElementEvent.limits,
        buffer.length = value.toNat * mp2tPacketLength) ∧
      buffers.flatten.length ≤ handed.length * mp2tPacketLength := by
  obtain ⟨calls, hhanded, hlimits, hpush, hsrcpad⟩ := exists_calls hrun
  rw [hside] at hpush
  have hconserved := conserved_calls hpush.symm
  have hbytes := hconserved.bytes
  refine ⟨_, side.push.muxer.pushed, hhanded, hsrcpad side hside, fun buffer hmem ↦ ?_, ?_⟩
  · obtain ⟨value, hvalue, hlength⟩ := hconserved.length buffer hmem
    refine ⟨value, ?_, hlength⟩
    rw [hlimits] at hvalue
    rw [← earlyEvents_append_collectedEvents events, List.flatMap_append, ← List.cons_append]
    rcases List.mem_cons.mp hvalue with rfl | hlate
    · exact List.mem_append_left _ List.getLastD_mem_cons
    · exact List.mem_append_right _ hlate
  · change _ ≤ (packetsOf calls).length * 188
    omega

theorem exists_packets (hlate : (collectedEvents events).flatMap ElementEvent.limits = []) :
    ∃ packets : List TsPacket, handedPackets gst (muxerEvents events) = .ok packets ∧
      SourceSide.push <$> final.spts.writeFuncData =
        pushPackets allocator (.initial (earlyPushbufsize events)) packets ∧
      ∀ side, final.spts.writeFuncData = .ok side →
        side.srcpad = announcement events ++ side.push.muxer.pushed.map .buffer := by
  obtain ⟨calls, hhanded, hlimits, hpush, hsrcpad⟩ := exists_calls hrun
  rw [hlate] at hlimits
  obtain ⟨packets, rfl⟩ := exists_packets_of_limitsOf hlimits
  rw [packetsOf_packets] at hhanded
  rw [List.foldlM_map] at hpush
  exact ⟨packets, hhanded, hpush, hsrcpad⟩

/-- A push buffer of the right size is never left. -/
theorem exists_side (hlate : (collectedEvents events).flatMap ElementEvent.limits = [])
    (hsmall : (earlyPushbufsize events).toNat * 188 < 2 ^ 32) :
    ∃ side, final.spts.writeFuncData = .ok side := by
  obtain ⟨packets, -, hpackets, -⟩ := exists_packets hrun hlate
  obtain ⟨push, hpush⟩ :=
    (counts_of_pushPackets allocator (earlyPushbufsize events) packets).1 hsmall
  rw [hpush] at hpackets
  obtain ⟨side, hside, -⟩ := exists_of_map_eq_ok hpackets
  exact ⟨side, hside⟩

/-- The size is not written any more from the first collection on. Then a buffer is pushed for every
so many packets, of this size; but none is if the size was never set, or if it is cut off at 32
bits, and only then can a packet be written out of bounds. -/
theorem source_pad_counts
    (hlate : (collectedEvents events).flatMap ElementEvent.limits = []) :
    ∃ handed : List TsPacket, handedPackets gst (muxerEvents events) = .ok handed ∧
      ((earlyPushbufsize events).toNat * 188 < 2 ^ 32 →
        ∃ side, final.spts.writeFuncData = .ok side) ∧
      ∀ side, final.spts.writeFuncData = .ok side → ∃ buffers : List (List UInt8),
        side.srcpad = announcement events ++ buffers.map .buffer ∧
          (∀ buffer ∈ buffers,
            buffer.length = (earlyPushbufsize events).toNat * mp2tPacketLength) ∧
          buffers.length = if (earlyPushbufsize events).toNat * 188 < 2 ^ 32 then
            handed.length / (earlyPushbufsize events).toNat else 0 := by
  obtain ⟨packets, hhanded, hpackets, hsrcpad⟩ := exists_packets hrun hlate
  refine ⟨packets, hhanded, exists_side hrun hlate, fun side hside ↦ ?_⟩
  rw [hside] at hpackets
  have hcalls : (packets.map .pushPacket).foldlM (PushState.call allocator)
      (.initial (earlyPushbufsize events)) = .ok side.push := by
    rw [List.foldlM_map]
    exact hpackets.symm
  refine ⟨side.push.muxer.pushed, hsrcpad side hside, fun buffer hmem ↦ ?_,
    (counts_of_pushPackets allocator _ packets).2 side.push hpackets.symm⟩
  obtain ⟨value, hvalue, hlength⟩ := (conserved_calls hcalls).length buffer hmem
  rw [limitsOf_packets, List.mem_singleton] at hvalue
  rw [hlength, hvalue]
  rfl

end Element

/-! ## An element with a frame -/

/-- Both pads, and an IDR frame on the first one. -/
def frameEvents : List ElementEvent :=
  [.muxer (.request .video), .muxer (.request .audio), .muxer (.collected [[idrFrame], []])]

theorem exists_frame_run (allocator : Allocator) (handles : List SourceItem → Bool)
    (propId : PropId) (value : UInt32) :
    ∃ final, (elementBackend allocator handles).run gstUtilUint64Scale (.ok .initial)
      (.setProperty propId value :: frameEvents) = .ok final := by
  obtain ⟨muxer, hmuxer, -⟩ := exists_sptsmuxerInit (recorder fun _ ↦ true) []
  have hidle : [MuxerEvent.request .video, .request .audio].any MuxerEvent.takesVideo = false :=
    rfl
  have hcountable : Countable gstUtilUint64Scale muxer (muxerEvents frameEvents) :=
    countable_of_idle hmuxer _ hidle
  obtain ⟨plain, hplain⟩ := exists_run hmuxer hcountable rfl
  apply exists_of_errorOf_eq_none
  rw [errorOf_run]
  change errorOf (handedPackets _ (muxerEvents frameEvents)) = none
  rw [handedPackets, hmuxer]
  change errorOf ((muxerEvents frameEvents).foldlM _ muxer >>= _) = none
  rw [hplain]
  rfl

theorem late_frameEvents (propId : PropId) (value : UInt32) :
    (collectedEvents (.setProperty propId value :: frameEvents)).flatMap ElementEvent.limits =
      [] := by
  rfl

theorem handed_frameEvents {propId : PropId} {value : UInt32} {handed : List TsPacket}
    (hhanded : handedPackets gstUtilUint64Scale
      (muxerEvents (.setProperty propId value :: frameEvents)) = .ok handed) : handed ≠ [] := by
  obtain ⟨muxer, hmuxer, hevents⟩ := exists_of_bind_eq_ok hhanded
  obtain ⟨final, hrun, hpure⟩ := exists_of_bind_eq_ok hevents
  obtain rfl := Except.ok.inj hpure
  have hvideo : ¬(muxerEvents frameEvents).any MuxerEvent.takesVideo = false := by decide
  exact mt (nothing_written_iff hmuxer hrun).mp hvideo

/-- With a size of one the caps and the segment come first, and then at least one buffer; none is
longer than a packet. -/
theorem source_pad_given_frame :
    ∃ final side, (elementBackend (.filled 0) fun _ ↦ true).run gstUtilUint64Scale (.ok .initial)
        (.setProperty .pushbufSize 1 :: frameEvents) = .ok final ∧
      final.spts.writeFuncData = .ok side ∧ ∃ buffers : List (List UInt8), buffers ≠ [] ∧
        side.srcpad = .caps srcpadCaps :: .newsegment .time :: buffers.map .buffer ∧
        ∀ buffer ∈ buffers, buffer.length ≤ 188 := by
  obtain ⟨final, hfinal⟩ := exists_frame_run (.filled 0) (fun _ ↦ true) .pushbufSize 1
  obtain ⟨side, hside⟩ := exists_side hfinal (late_frameEvents _ _) (by decide)
  obtain ⟨-, buffers, -, hsrcpad, hlengths, -⟩ := source_pad_given hfinal hside
  refine ⟨final, side, hfinal, hside, buffers, ?_, hsrcpad, fun buffer hmem ↦ ?_⟩
  · obtain ⟨packets, hhanded, hpackets, hpushed⟩ := exists_packets hfinal (late_frameEvents _ _)
    have hne := handed_frameEvents hhanded
    have hsame := hsrcpad.symm.trans (hpushed side hside)
    have hcount := congrArg List.length (List.append_cancel_left hsame)
    rw [hside] at hpackets
    have hall : side.push.muxer.pushed.length = packets.length / 1 :=
      (counts_of_pushPackets _ 1 packets).2 side.push hpackets.symm
    rw [List.length_map, List.length_map, hall, Nat.div_one] at hcount
    rw [← List.length_pos_iff, hcount]
    exact List.length_pos_iff.mpr hne
  · obtain ⟨value, hvalue, hlength⟩ := hlengths buffer hmem
    have hone : value.toNat ≤ 1 := by
      rcases List.mem_cons.mp hvalue with rfl | hwritten
      · exact Nat.zero_le 1
      · exact (congrArg UInt32.toNat (List.mem_singleton.mp hwritten)).le
    rw [hlength]
    exact Nat.mul_le_mul_right 188 hone

/-- With a size of one every packet is a buffer of its own, and there are some. The registered
default is no default: an element whose size has not been set pushes nothing. -/
theorem source_pad_counts_frame :
    (∃ final side handed, (elementBackend (.filled 0) fun _ ↦ true).run gstUtilUint64Scale
        (.ok .initial) (.setProperty .pushbufSize 1 :: frameEvents) = .ok final ∧
      final.spts.writeFuncData = .ok side ∧
      handedPackets gstUtilUint64Scale
        (muxerEvents (.setProperty .pushbufSize 1 :: frameEvents)) = .ok handed ∧ handed ≠ [] ∧
      ∃ buffers : List (List UInt8), buffers.length = handed.length ∧
        side.srcpad = .caps srcpadCaps :: .newsegment .time :: buffers.map .buffer ∧
        ∀ buffer ∈ buffers, buffer.length = 188) ∧
    ∃ final side, (elementBackend (.filled 0) fun _ ↦ true).run gstUtilUint64Scale (.ok .initial)
        (.setProperty .muxrate 0 :: frameEvents) = .ok final ∧
      final.spts.writeFuncData = .ok side ∧
        side.srcpad = [.caps srcpadCaps, .newsegment .time] := by
  constructor
  · obtain ⟨final, hfinal⟩ := exists_frame_run (.filled 0) (fun _ ↦ true) .pushbufSize 1
    obtain ⟨handed, hhanded, hok, hsrcpad⟩ := source_pad_counts hfinal (late_frameEvents _ _)
    obtain ⟨side, hside⟩ := hok (by decide)
    obtain ⟨buffers, hgiven, hlength, hcount⟩ := hsrcpad side hside
    rw [if_pos (by decide)] at hcount
    exact ⟨final, side, handed, hfinal, hside, hhanded, handed_frameEvents hhanded, buffers,
      hcount.trans (Nat.div_one _), hgiven, hlength⟩
  · obtain ⟨final, hfinal⟩ := exists_frame_run (.filled 0) (fun _ ↦ true) .muxrate 0
    obtain ⟨handed, -, hok, hsrcpad⟩ := source_pad_counts hfinal (late_frameEvents _ _)
    obtain ⟨side, hside⟩ := hok (by decide)
    obtain ⟨buffers, hgiven, -, hcount⟩ := hsrcpad side hside
    have hempty : buffers = [] := by
      rw [← List.length_eq_zero_iff, hcount, if_pos (by decide)]
      exact Nat.div_zero _
    rw [hempty] at hgiven
    exact ⟨final, side, hfinal, hside, hgiven⟩

end SpTsMuxer.Muxer
