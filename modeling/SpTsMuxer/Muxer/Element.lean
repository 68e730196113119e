import SpTsMuxer.Muxer.Faults
import SpTsMuxer.Muxer.Handover
import SpTsMuxer.Muxer.PushCalls

/-!
# The Whole Element

Around the SpTs the element has a push buffer, a source pad and its properties.  The first
collection announces the stream on the source pad, the write function fills the push buffer and
pushes it, and the properties are written at any time.

These three operations are a backend of the muxer, and a run goes along with every view that goes
along with the operations.  The runs of the element are therefore views of runs that only keep a
log, and so are the runs of the muxer alone.
-/

namespace SpTsMuxer.Muxer

open Memory Transport Machine Psi Spts

variable {V W : Type}

/-! ## The source pad -/

/-- The fields of the caps of the source pad. -/
structure MpegtsCaps where
  name : String
  systemstream : Bool
  packetsize : ℕ
  deriving DecidableEq, Repr

/-- The formats of segments. -/
inductive GstFormat where
  | time
  deriving DecidableEq, Repr

/-- What is given to the source pad: its caps, the event of a new segment, and buffers. -/
inductive SourceItem where
  | caps (caps : MpegtsCaps)
  | newsegment (format : GstFormat)
  | buffer (bytes : List UInt8)
  deriving DecidableEq, Repr

/-- `MP2T_PACKET_LENGTH`. -/
def mp2tPacketLength : ℕ := 188

/-- The caps that `sptsmuxer_srcpad_setcaps` builds. -/
def srcpadCaps : MpegtsCaps := ⟨"video/mpegts", true, mp2tPacketLength⟩

/-- `sptsmuxer_srcpad_setcaps`.  The result is whether the event is handled downstream, which may
depend on all that the pad has been given. -/
def sptsmuxerSrcpadSetcaps (handles : List SourceItem → Bool) (srcpad : List SourceItem) :
    Bool × List SourceItem :=
  let srcpad := srcpad ++ [.caps srcpadCaps]
  let srcpad := srcpad ++ [.newsegment .time]
  (handles srcpad, srcpad)

/-! ## Backends -/

/-- The operations of the element on its own fields: the write function of the SpTs, the call of
`sptsmuxer_srcpad_setcaps`, and `sptsmuxer_set_property`. -/
structure Backend (W : Type) where
  writeFunc : W → TsPacket → Bool × W
  srcpadSetcaps : W → Bool × W
  setProperty : W → PropId → UInt32 → W

/-- What happens to an element. -/
inductive ElementEvent where
  | muxer (event : MuxerEvent)
  | setProperty (propId : PropId) (value : UInt32)
  deriving DecidableEq

set_option linter.dupNamespace false in
/-- The muxer with other data of the write function. -/
def SpTsMuxer.mapData (f : W → W) (muxer : SpTsMuxer W) : SpTsMuxer W :=
  { muxer with spts := { muxer.spts with writeFuncData := f muxer.spts.writeFuncData } }

/-- The first lines of `sptsmuxer_collected`: the first call announces the stream.  The result is
only logged. -/
def Backend.announce (backend : Backend W) (muxer : SpTsMuxer W) : SpTsMuxer W :=
  if muxer.first then muxer.mapData fun data ↦ (backend.srcpadSetcaps data).2 else muxer

/-- An event of the element. -/
def ElementEvent.step (backend : Backend W) (gst : UInt64Scale) (muxer : SpTsMuxer W) :
    ElementEvent → Except Fault (SpTsMuxer W)
  | .muxer (.request templ) => MuxerEvent.step gst muxer (.request templ)
  | .muxer (.collected collect) =>
      MuxerEvent.step gst (backend.announce muxer) (.collected collect)
  | .setProperty propId value =>
      pure (muxer.mapData fun data ↦ backend.setProperty data propId value)

/-- A run of a new element. -/
def Backend.run (backend : Backend W) (gst : UInt64Scale) (data : W)
    (events : List ElementEvent) : Except Fault (SpTsMuxer W) := do
  let muxer ← sptsmuxerInit backend.writeFunc data
  events.foldlM (ElementEvent.step backend gst) muxer

/-- The fields of the element outside the SpTs. -/
structure SourceSide where
  push : PushState
  srcpad : List SourceItem

/-- The memory of a new element is zero, and `sptsmuxer_init` does not set the size.  No other
element has allocated the static `pushbuf` yet. -/
def SourceSide.initial : SourceSide := ⟨.initial 0, []⟩

/-- The write function with the source pad that it pushes on. -/
def sourceCallback (allocator : Allocator) (side : Except Fault SourceSide) (data : TsPacket) :
    Bool × Except Fault SourceSide :=
  match side with
  | .error fault => (false, .error fault)
  | .ok side =>
      match sptsmuxerPushPacketCb allocator side.push data with
      | .error fault => (false, .error fault)
      | .ok (result, push) =>
          let buffers := push.muxer.pushed.drop side.push.muxer.pushed.length
          (result, .ok ⟨push, side.srcpad ++ buffers.map .buffer⟩)

/-- The backend of the element.  Behind a fault nothing is said of it any more. -/
def elementBackend (allocator : Allocator) (handles : List SourceItem → Bool) :
    Backend (Except Fault SourceSide) where
  writeFunc := sourceCallback allocator
  srcpadSetcaps
    | .error fault => (false, .error fault)
    | .ok side =>
        let (result, srcpad) := sptsmuxerSrcpadSetcaps handles side.srcpad
        (result, .ok { side with srcpad := srcpad })
  setProperty side propId value :=
    side.map fun side ↦
      { side with push := { side.push with
          muxer := sptsmuxerSetProperty side.push.muxer propId value } }

/-- The muxer alone, with a recorder in the place of the rest. -/
def recorderBackend (results : List TsPacket → Bool) : Backend (List TsPacket) where
  writeFunc := recorder results
  srcpadSetcaps packets := (true, packets)
  setProperty packets _ _ := packets

/-! ## Runs that keep a log -/

/-- What the SpTs and the properties ask of the rest of the element. -/
inductive SourceCall where
  | srcpadSetcaps
  | push (call : PushCall)
  deriving DecidableEq

/-- The calls of a property. -/
def propertyCalls (propId : PropId) (value : UInt32) : List PushCall :=
  match propId with
  | .muxrate => []
  | .pushbufSize => [.setPushbufsize value]
  | .invalid => []

/-- Everything is written down. -/
def logBackend : Backend (List SourceCall) where
  writeFunc log data := (true, log ++ [.push (.pushPacket data)])
  srcpadSetcaps log := (true, log ++ [.srcpadSetcaps])
  setProperty log propId value := log ++ (propertyCalls propId value).map .push

/-! ## Views of runs -/

/-- The view goes along with the operations of two backends. -/
structure Follows (view : W → V) (backend : Backend W) (other : Backend V) : Prop where
  writeFunc : ∀ data packet,
    view (backend.writeFunc data packet).2 = (other.writeFunc (view data) packet).2
  srcpadSetcaps : ∀ data, view (backend.srcpadSetcaps data).2 = (other.srcpadSetcaps (view data)).2
  setProperty : ∀ data propId value,
    view (backend.setProperty data propId value) = other.setProperty (view data) propId value

theorem eq_project_of_map {view : W → W} {observe : W → TsPacket → Bool × W}
    {result : Except Fault (SpTsMuxer W)} {next : SpTsMuxer W}
    (hproject : result = SpTsMuxer.project view observe <$> result) (hok : result = .ok next) :
    next.spts.writeFuncData = view next.spts.writeFuncData ∧ next.spts.writeFunc = observe := by
  rw [hok] at hproject
  have hnext : next = next.project view observe := Except.ok.inj hproject
  exact ⟨congrArg (fun muxer ↦ muxer.spts.writeFuncData) hnext,
    congrArg (fun muxer ↦ muxer.spts.writeFunc) hnext⟩

theorem project_sptsmuxerCollected {view : W → V} {observe : V → TsPacket → Bool × V}
    {muxer : SpTsMuxer W} (h : GoesAlong view observe muxer.spts) (gst : UInt64Scale) :
    sptsmuxerCollected gst (muxer.project view observe) =
      SpTsMuxer.project view observe <$> sptsmuxerCollected gst muxer := by
  unfold sptsmuxerCollected
  rw [project_firstCollection]
  cases hfirst : firstCollection muxer with
  | error fault => rfl
  | ok start =>
      have hstart : GoesAlong view observe start.spts := by
        refine ⟨?_⟩
        rw [(eq_project_of_map (project_firstCollection id muxer.spts.writeFunc muxer) hfirst).2]
        exact h.step
      have hcollect : (start.project view observe).collect = start.collect := rfl
      dsimp only [bind, Except.bind, Functor.map, Except.map]
      rw [hcollect]
      cases nextCollectdata start.collect with
      | none => rfl
      | some position =>
          dsimp only
          cases Merge.pop start.collect position with
          | none => rfl
          | some popped =>
              obtain ⟨buffer, collect⟩ := popped
              have hwrite := project_writeStep hstart gst buffer
              change writeStep gst (start.project view observe).spts buffer = _ at hwrite
              dsimp only
              rw [hwrite]
              cases writeStep gst start.spts buffer with
              | error fault => rfl
              | ok spts => rfl

theorem MuxerEvent.project_step {view : W → V} {observe : V → TsPacket → Bool × V}
    {muxer : SpTsMuxer W} (h : GoesAlong view observe muxer.spts) (gst : UInt64Scale)
    (event : MuxerEvent) :
    event.step gst (muxer.project view observe) =
      SpTsMuxer.project view observe <$> event.step gst muxer := by
  cases event with
  | request templ => exact project_requestPad view observe muxer _
  | collected collect =>
      have hpads : GoesAlong view observe { muxer with collect := collect }.spts := h
      exact project_sptsmuxerCollected hpads gst

theorem MuxerEvent.writeFunc_step {gst : UInt64Scale} {muxer next : SpTsMuxer W}
    {event : MuxerEvent} (hok : event.step gst muxer = .ok next) :
    next.spts.writeFunc = muxer.spts.writeFunc := by
  have hself : GoesAlong id muxer.spts.writeFunc muxer.spts := ⟨fun _ _ ↦ rfl⟩
  exact (eq_project_of_map (MuxerEvent.project_step hself gst event) hok).2

theorem Backend.writeFunc_announce (backend : Backend W) (muxer : SpTsMuxer W) :
    (backend.announce muxer).spts.writeFunc = muxer.spts.writeFunc := by
  unfold Backend.announce
  split_ifs
  · rfl
  · rfl

theorem ElementEvent.writeFunc_step {backend : Backend W} {gst : UInt64Scale}
    {muxer next : SpTsMuxer W} {event : ElementEvent}
    (hok : event.step backend gst muxer = .ok next) :
    next.spts.writeFunc = muxer.spts.writeFunc := by
  cases event with
  | muxer event =>
      cases event with
      | request templ =>
          have hstep : MuxerEvent.step gst muxer (.request templ) = .ok next := hok
          exact MuxerEvent.writeFunc_step hstep
      | collected collect =>
          have hstep : MuxerEvent.step gst (backend.announce muxer) (.collected collect) =
            .ok next := hok
          exact (MuxerEvent.writeFunc_step hstep).trans (backend.writeFunc_announce muxer)
  | setProperty propId value =>
      obtain rfl := Except.ok.inj hok
      rfl

theorem ElementEvent.writeFunc_run {backend : Backend W} {gst : UInt64Scale}
    {muxer final : SpTsMuxer W} {events : List ElementEvent}
    (hrun : events.foldlM (ElementEvent.step backend gst) muxer = .ok final)
    (hmuxer : muxer.spts.writeFunc = backend.writeFunc) :
    final.spts.writeFunc = backend.writeFunc :=
  foldlM_invariant (fun _ _ _ hstate hok ↦ (ElementEvent.writeFunc_step hok).trans hstate)
    hmuxer hrun

section Follows

variable {view : W → V} {backend : Backend W} {other : Backend V}
  (h : Follows view backend other) (gst : UInt64Scale)
include h

theorem Follows.goesAlong {spts : SpTs W} (hspts : spts.writeFunc = backend.writeFunc) :
    GoesAlong view other.writeFunc spts := by
  refine ⟨?_⟩
  rw [hspts]
  exact h.writeFunc

theorem Follows.project_announce (muxer : SpTsMuxer W) :
    other.announce (muxer.project view other.writeFunc) =
      (backend.announce muxer).project view other.writeFunc := by
  unfold Backend.announce
  change (if muxer.first = true then _ else _) = _
  split_ifs
  · unfold SpTsMuxer.mapData SpTsMuxer.project SpTs.project
    dsimp only
    rw [h.srcpadSetcaps]
  · rfl

theorem Follows.project_step {muxer : SpTsMuxer W}
    (hmuxer : muxer.spts.writeFunc = backend.writeFunc) (event : ElementEvent) :
    event.step other gst (muxer.project view other.writeFunc) =
      SpTsMuxer.project view other.writeFunc <$> event.step backend gst muxer := by
  cases event with
  | muxer event =>
      cases event with
      | request templ => exact MuxerEvent.project_step (h.goesAlong hmuxer) gst (.request templ)
      | collected collect =>
          unfold ElementEvent.step
          dsimp only
          rw [h.project_announce]
          exact MuxerEvent.project_step
            (h.goesAlong ((backend.writeFunc_announce muxer).trans hmuxer)) gst (.collected collect)
  | setProperty propId value =>
      unfold ElementEvent.step SpTsMuxer.mapData SpTsMuxer.project SpTs.project
      dsimp only
      rw [← h.setProperty]
      rfl

theorem Follows.project_foldlM {muxer : SpTsMuxer W}
    (hmuxer : muxer.spts.writeFunc = backend.writeFunc) (events : List ElementEvent) :
    events.foldlM (ElementEvent.step other gst) (muxer.project view other.writeFunc) =
      SpTsMuxer.project view other.writeFunc <$>
        events.foldlM (ElementEvent.step backend gst) muxer := by
  induction events generalizing muxer with
  | nil => rfl
  | cons event rest ih =>
      rw [List.foldlM_cons, List.foldlM_cons, h.project_step gst hmuxer event]
      cases hevent : event.step backend gst muxer with
      | error fault => rfl
      | ok next => exact ih ((ElementEvent.writeFunc_step hevent).trans hmuxer)

/-- The runs of a backend are the views of the runs of another one. -/
theorem Follows.project_run (data : W) (events : List ElementEvent) :
    other.run gst (view data) events =
      SpTsMuxer.project view other.writeFunc <$> backend.run gst data events := by
  obtain ⟨muxer, hmuxer, -, hfunc, -⟩ := exists_sptsmuxerInit backend.writeFunc data
  unfold Backend.run
  rw [project_sptsmuxerInit view other.writeFunc backend.writeFunc, hmuxer]
  exact h.project_foldlM gst hfunc events

end Follows

/-! ## What an event does to the data -/

section Events

variable {gst : UInt64Scale} {muxer next : SpTsMuxer W}

theorem writeFuncData_request {templ : PadTemplate}
    (hok : MuxerEvent.step gst muxer (.request templ) = .ok next) :
    next.spts.writeFuncData = muxer.spts.writeFuncData :=
  (eq_project_of_map (project_requestPad (fun _ ↦ muxer.spts.writeFuncData) muxer.spts.writeFunc
    muxer ⟨templ, true, true⟩) hok).1

theorem first_request {templ : PadTemplate}
    (hok : MuxerEvent.step gst muxer (.request templ) = .ok next) :
    next.first = muxer.first := by
  obtain ⟨⟨pad, requested⟩, hrequest, rfl⟩ := exists_of_map_eq_ok hok
  obtain ⟨⟨named, added⟩, htempl, hpure⟩ := exists_of_bind_eq_ok hrequest
  obtain ⟨-, rfl⟩ := Prod.mk.inj (Except.ok.inj hpure)
  change added.first = muxer.first
  cases templ with
  | video =>
      obtain ⟨spts, -, hadded⟩ := exists_of_bind_eq_ok htempl
      obtain ⟨-, rfl⟩ := Prod.mk.inj (Except.ok.inj hadded)
      rfl
  | audio =>
      obtain ⟨spts, -, hadded⟩ := exists_of_bind_eq_ok htempl
      obtain ⟨-, rfl⟩ := Prod.mk.inj (Except.ok.inj hadded)
      rfl
  | unknown =>
      obtain ⟨-, rfl⟩ := Prod.mk.inj (Except.ok.inj htempl)
      rfl

/-- A collection hands packets to the write function, and is never the first one again. -/
theorem exists_packets_collected {collect : List CollectPad}
    (hok : MuxerEvent.step gst muxer (.collected collect) = .ok next) :
    next.first = false ∧ ∃ packets : List TsPacket, next.spts.writeFuncData =
      packets.foldl (fun data packet ↦ (muxer.spts.writeFunc data packet).2)
        muxer.spts.writeFuncData := by
  obtain ⟨start, hstart, hnext⟩ := sptsmuxerCollected_cases hok
  have hdata : start.spts.writeFuncData = muxer.spts.writeFuncData :=
    (eq_project_of_map (project_firstCollection (fun _ ↦ muxer.spts.writeFuncData)
      muxer.spts.writeFunc { muxer with collect := collect }) hstart).1
  have hfunc : start.spts.writeFunc = muxer.spts.writeFunc :=
    (eq_project_of_map (project_firstCollection id muxer.spts.writeFunc
      { muxer with collect := collect }) hstart).2
  have hfirst := (first_collect_of_firstCollection hstart).1
  rcases hnext with rfl | ⟨buffer, rest, spts, hwrite, rfl⟩
  · exact ⟨hfirst, [], hdata⟩
  · refine ⟨hfirst, ?_⟩
    rcases writeStep_cases hwrite with ⟨-, -, rfl⟩ | ⟨packets, -, hwritten⟩
    · exact ⟨[], hdata⟩
    · refine ⟨packets, ?_⟩
      change spts.writeFuncData = _
      rw [hwritten.writeFuncData, SpTs.emit, hfunc, hdata]

end Events

/-! ## The element and the log -/

/-- A call on the fields of the element outside the SpTs. -/
def SourceSide.call (allocator : Allocator) (handles : List SourceItem → Bool)
    (side : SourceSide) : SourceCall → Except Fault SourceSide
  | .srcpadSetcaps =>
      .ok { side with srcpad := (sptsmuxerSrcpadSetcaps handles side.srcpad).2 }
  | .push call => do
      let push ← side.push.call allocator call
      let buffers := push.muxer.pushed.drop side.push.muxer.pushed.length
      pure ⟨push, side.srcpad ++ buffers.map .buffer⟩

/-- The calls of a log, one after the other. -/
def play (allocator : Allocator) (handles : List SourceItem → Bool) (log : List SourceCall) :
    Except Fault SourceSide :=
  log.foldlM (SourceSide.call allocator handles) .initial

theorem play_concat (allocator : Allocator) (handles : List SourceItem → Bool)
    (log : List SourceCall) (call : SourceCall) :
    play allocator handles (log ++ [call]) =
      play allocator handles log >>= fun side ↦ side.call allocator handles call := by
  unfold play
  rw [List.foldlM_append]
  refine bind_congr fun side ↦ ?_
  rw [List.foldlM_cons]
  exact bind_pure _

theorem follows_element (allocator : Allocator) (handles : List SourceItem → Bool) :
    Follows (play allocator handles) logBackend (elementBackend allocator handles) where
  writeFunc log data := by
    change play allocator handles (log ++ [.push (.pushPacket data)]) = _
    rw [play_concat]
    cases play allocator handles log with
    | error fault => rfl
    | ok side =>
        change side.call allocator handles (.push (.pushPacket data)) =
          (sourceCallback allocator (.ok side) data).2
        unfold SourceSide.call PushState.call sourceCallback
        dsimp only
        cases sptsmuxerPushPacketCb allocator side.push data with
        | error fault => rfl
        | ok answer => rfl
  srcpadSetcaps log := by
    change play allocator handles (log ++ [.srcpadSetcaps]) = _
    rw [play_concat]
    cases play allocator handles log with
    | error fault => rfl
    | ok side => rfl
  setProperty log propId value := by
    have hnone (hcalls : propertyCalls propId value = []) :
        play allocator handles (logBackend.setProperty log propId value) =
          play allocator handles log := by
      change play allocator handles (log ++ (propertyCalls propId value).map .push) = _
      rw [hcalls]
      exact congrArg _ (List.append_nil log)
    cases propId with
    | muxrate =>
        rw [hnone rfl]
        cases play allocator handles log <;> rfl
    | invalid =>
        rw [hnone rfl]
        cases play allocator handles log <;> rfl
    | pushbufSize =>
        change play allocator handles (log ++ [.push (.setPushbufsize value)]) = _
        rw [play_concat]
        cases play allocator handles log with
        | error fault => rfl
        | ok side =>
            change Except.ok (SourceSide.mk _ (side.srcpad ++
              (side.push.muxer.pushed.drop side.push.muxer.pushed.length).map .buffer)) = _
            rw [List.drop_length, List.map_nil, List.append_nil]
            rfl

/-! ## The log and the muxer alone -/

/-- The packets of calls. -/
def packetsOf (calls : List PushCall) : List TsPacket :=
  calls.filterMap fun
    | .pushPacket data => some data
    | .setPushbufsize _ => none

/-- A log without its announcements. -/
def pushCalls (log : List SourceCall) : List PushCall :=
  log.filterMap fun
    | .srcpadSetcaps => none
    | .push call => some call

theorem follows_recorder (results : List TsPacket → Bool) :
    Follows (fun log ↦ packetsOf (pushCalls log)) logBackend (recorderBackend results) where
  writeFunc log data := by
    change packetsOf (pushCalls (log ++ [.push (.pushPacket data)])) = _
    rw [pushCalls, List.filterMap_append, packetsOf, List.filterMap_append]
    rfl
  srcpadSetcaps log := by
    change packetsOf (pushCalls (log ++ [.srcpadSetcaps])) = _
    rw [pushCalls, List.filterMap_append, packetsOf, List.filterMap_append]
    exact List.append_nil _
  setProperty log propId value := by
    change packetsOf (pushCalls (log ++ (propertyCalls propId value).map .push)) = _
    rw [pushCalls, List.filterMap_append, packetsOf, List.filterMap_append]
    cases propId <;> exact List.append_nil _

/-- The events of the muxer. -/
def muxerEvents (events : List ElementEvent) : List MuxerEvent :=
  events.filterMap fun
    | .muxer event => some event
    | .setProperty _ _ => none

/-- Properties and announcements are nothing to the muxer alone. -/
theorem foldlM_recorderBackend (results : List TsPacket → Bool) (gst : UInt64Scale)
    (events : List ElementEvent) (muxer : SpTsMuxer (List TsPacket)) :
    events.foldlM (ElementEvent.step (recorderBackend results) gst) muxer =
      (muxerEvents events).foldlM (MuxerEvent.step gst) muxer := by
  have hannounce (muxer : SpTsMuxer (List TsPacket)) :
      (recorderBackend results).announce muxer = muxer := by
    unfold Backend.announce
    split_ifs
    · rfl
    · rfl
  induction events generalizing muxer with
  | nil => rfl
  | cons event rest ih =>
      cases event with
      | muxer event =>
          have hstep : ElementEvent.step (recorderBackend results) gst muxer (.muxer event) =
              event.step gst muxer := by
            cases event with
            | request templ => rfl
            | collected collect =>
                unfold ElementEvent.step
                rw [hannounce]
          change _ = (event :: muxerEvents rest).foldlM _ muxer
          rw [List.foldlM_cons, List.foldlM_cons, hstep]
          exact bind_congr ih
      | setProperty propId value => exact ih muxer

end SpTsMuxer.Muxer
