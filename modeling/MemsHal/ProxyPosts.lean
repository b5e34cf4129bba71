import MemsHal.ProxyFlags
import MemsHal.ProxyLife
import MemsHal.SensorsSubHal
/-!
# ProxyPosts — the posts of Bosch sub-HALs in `HalProxy`

`ISensorsSubHalBase::postEvents` creates a wakelock and posts with it, and anything can happen in between.
`HalProxyCallbackBase::postEvents` asserts that the wakelock is locked exactly if the batch has wake-up events.  What a
sub-HAL says of its sensors and what the proxy has listed agree, so the assertion fails only for a wakelock that was
created while the threads of the proxy were stopped (`along_asserts`).  The promise that `ProxyLife` makes about posts
is kept in any case.
-/
namespace MemsHal
namespace MultiHal

open Run (run Along Steps)
open CountedLock (Alternates)
open HalProxy (isWakeUp)
open Aidl (HalSensor SensorDescription)

/-- A post that a sub-HAL with these sensors can make. -/
def Makes (descriptions : List SensorDescription) (post : Post) : Prop :=
  ∃ ops op, post ∈ ((run ISensorsSubHalBase.step (.construct descriptions) ops).exec op).2.2

/-- The events of a post. -/
def Post.Carries (post : Post) (events : List Event) : Prop :=
  events.length = post.numEvents ∧ ∀ event ∈ events, event.sensorHandle = post.sensorHandle

/-- A post between the creation and the end of its wakelock: whose it is, whether the threads ran at the creation, and
what `processEvents` has made of it. -/
structure InFlight where
  subHal : Nat
  post : Post
  threadsRan : Bool
  processed : Option (List Event × Nat)

/-- The `j`-th post has the `j`-th wakelock. -/
structure Traffic where
  system : System
  inFlight : List InFlight

/-- A call that neither creates a wakelock nor ends one. -/
def Call.Own : Call → Prop
  | .step (.createScopedWakelock _ _) | .step (.destroyScopedWakelock _)
  | .step (.postEventsToMessageQueue _ _ _ _ _ _) | .postEventsToMessageQueue _ _ _ _ _ _
  | .background (.destroyScopedWakelock _) | .moveAssign _ _ => False
  | _ => True

/-- A step of the proxy's threads, of the framework or of a sub-HAL that does not post. -/
def LifeOp.Own : LifeOp → Prop
  | .call c | .delayed _ c => c.Own
  | _                      => True

inductive TrafficOp
  | createScopedWakelock (i : Nat) (post : Post) (now : Int)
  | processEvents (j : Nat) (events : List Event)
  | postEventsToMessageQueue (j : Nat) (now : Int) (availableToWrite : Nat) (writeOk : Bool)
  | life (op : LifeOp) (own : op.Own)

namespace Traffic

abbrev proxy (s : Traffic) : HalProxy := s.system.proxy

def start (kWakelockTimeoutNs : Int) (descriptions : List (List SensorDescription)) (startTime resetTime : Int) :
    Traffic :=
  ⟨System.start kWakelockTimeoutNs
    (descriptions.map fun ds => ⟨(ISensorsSubHalBase.construct ds).getSensorsList⟩) startTime resetTime, []⟩

/-- `postEvents` returns early, and its wakelock ends. -/
def Returns (s : Traffic) (events : List Event) : Prop := events = [] ∨ s.proxy.mThreadsRun = false

instance (s : Traffic) (events : List Event) : Decidable (s.Returns events) := inferInstanceAs (Decidable (_ ∨ _))

/-- `postEvents` up to the end of `processEvents`. -/
def processEvents (s : Traffic) (j : Nat) (events : List Event) : Traffic :=
  match s.inFlight[j]? with
  | some entry =>
    if entry.processed ≠ none then s
    else if s.Returns events then ⟨s.system.step (.destroyScopedWakelock j), s.inFlight.eraseIdx j⟩
    else
      let (proxy, processed) := s.proxy.processEvents (Int32.ofNat entry.subHal) events
      ⟨{ s.system with proxy := proxy }, s.inFlight.set j { entry with processed := some processed }⟩
  | none => s

/-- The rest of `postEvents`, and the end of the wakelock. -/
def postEventsToMessageQueue (s : Traffic) (j : Nat) (now : Int) (availableToWrite : Nat) (writeOk : Bool) : Traffic :=
  match s.inFlight[j]?.bind InFlight.processed with
  | some (events, numWakeupEvents) =>
    ⟨s.system.step (.postEventsToMessageQueue events numWakeupEvents j now availableToWrite writeOk),
      s.inFlight.eraseIdx j⟩
  | none => s

def step (s : Traffic) : TrafficOp → Traffic
  | .createScopedWakelock i post now =>
    ⟨s.system.step (.createScopedWakelock post.wakeup now), s.inFlight ++ [⟨i, post, s.proxy.mThreadsRun, none⟩]⟩
  | .processEvents j events => s.processEvents j events
  | .postEventsToMessageQueue j now availableToWrite writeOk =>
    s.postEventsToMessageQueue j now availableToWrite writeOk
  | .life op _ => { s with system := s.system.life op }

/-- The two assertions of `postEvents`. -/
def Asserts (s : Traffic) : TrafficOp → Prop
  | .processEvents j events => ∀ entry wakelock, s.inFlight[j]? = some entry → entry.processed = none →
    s.system.wakelocks[j]? = some wakelock → ¬ s.Returns events →
      let numWakeupEvents := (s.proxy.processEvents (Int32.ofNat entry.subHal) events).2.2
      if 0 < numWakeupEvents then wakelock.mLocked = true else wakelock.mLocked = false
  | _ => True

end Traffic

namespace ProxyPosts

open Traffic (step)

/-- Posts are those of the sub-HALs. -/
def Legal (descriptions : List (List SensorDescription)) (s : Traffic) : TrafficOp → Prop
  | .createScopedWakelock i post _ => ∃ ds, descriptions[i]? = some ds ∧ Makes ds post
  | .processEvents j events => ∀ entry, s.inFlight[j]? = some entry → entry.post.Carries events
  | _ => True

/-- The wakelock of wake-up events was created while the threads ran. -/
def CreatedRunning (s : Traffic) : TrafficOp → Prop
  | .processEvents j events => ∀ entry, s.inFlight[j]? = some entry → entry.processed = none → ¬ s.Returns events →
    entry.post.wakeup = true → entry.threadsRan = true
  | _ => True

/-! ## The posts of a sub-HAL -/

/-- A sensor keeps its description. -/
theorem description_run (ds : List SensorDescription) (ops : List SubHalOp) {k : Int32} {sensor : HalSensor}
    (hk : (run ISensorsSubHalBase.step (.construct ds) ops).mSensors[k]? = some sensor) :
    ∃ first, (ISensorsSubHalBase.construct ds).mSensors[k]? = some first ∧
      sensor.description = first.description := by
  refine Run.run_of_inv ISensorsSubHalBase.step (fun b => ∀ (k : Int32) (sensor : HalSensor),
    b.mSensors[k]? = some sensor → ∃ first, (ISensorsSubHalBase.construct ds).mSensors[k]? = some first ∧
      sensor.description = first.description) (fun b op h k sensor hk => ?_) ops
    (fun k sensor hk => ⟨sensor, hk, rfl⟩) k sensor hk
  obtain ⟨sensorOps, hops, -⟩ := SubHalSim.sensors_step b op
  rw [hops] at hk
  obtain ⟨old, hold, rfl⟩ := Aidl.Sensors.execEach_inv hk
  obtain ⟨first, hfirst, heq⟩ := h k old hold
  exact ⟨first, hfirst, (Aidl.HalSensor.description_run _ old).trans heq⟩

/-- A post is of a sensor, and says whether that is a wake-up sensor. -/
theorem posts_exec (b : ISensorsSubHalBase) (op : SubHalOp) {post : Post} (h : post ∈ (b.exec op).2.2) :
    ∃ (k : Int32) (sensor : HalSensor), b.mSensors[k]? = some sensor ∧
      post.sensorHandle = sensor.description.sensorHandle ∧ post.wakeup = sensor.isWakeUpSensor := by
  cases op with
  | activate sensorHandle enabled temperature =>
    change post ∈ (b.activate sensorHandle enabled temperature).2.2 at h
    unfold ISensorsSubHalBase.activate at h
    split at h
    · rename_i sensor hsensor
      dsimp only at h
      split at h
      · obtain rfl := List.mem_singleton.1 h
        exact ⟨_, sensor, hsensor, rfl, rfl⟩
      · cases h
    · cases h
  | flush sensorHandle temperature =>
    change post ∈ (b.flush sensorHandle temperature).2 at h
    unfold ISensorsSubHalBase.flush at h
    split at h
    · rename_i sensor hsensor
      split at h
      · cases h
      · rcases List.mem_pair.1 h with rfl | rfl <;> exact ⟨_, sensor, hsensor, rfl, rfl⟩
    · cases h
  | sensorThread sensorHandle values =>
    change post ∈ b.sensorThread sensorHandle values at h
    unfold ISensorsSubHalBase.sensorThread at h
    split at h
    · rename_i sensor hsensor
      split at h
      · obtain rfl := List.mem_singleton.1 h
        exact ⟨_, sensor, hsensor, rfl, rfl⟩
      · cases h
    · cases h
  | _ => cases h

/-- **A post is of a sensor that the sub-HAL lists**, and says whether the list calls it a wake-up sensor. -/
theorem makes_listed {ds : List SensorDescription} {post : Post} (h : Makes ds post) :
    ∃ d ∈ ds, post.sensorHandle = d.sensorHandle ∧
      (post.wakeup = true ↔ d.flags &&& Aidl.SensorFlagBits.wakeUp ≠ 0) ∧
      (⟨d.sensorHandle, d.flags.toUInt32⟩ : SensorInfo) ∈ (ISensorsSubHalBase.construct ds).getSensorsList := by
  obtain ⟨ops, op, hpost⟩ := h
  obtain ⟨k, sensor, hsensor, hhandle, hwakeup⟩ := posts_exec _ op hpost
  obtain ⟨first, hfirst, heq⟩ := description_run ds ops hsensor
  refine ⟨first.description, (SubHalSim.construct_mem ds hfirst).1, heq ▸ hhandle, ?_, ?_⟩
  · rw [hwakeup, ← heq]
    exact decide_eq_true_iff
  · exact List.mem_map.2 ⟨(k, first), (StdMap.mem_toList _ _ _).2 hfirst, rfl⟩

/-! ## The wake-up flags of the list -/

/-- The direct-channel flags are not the wake-up flag. -/
theorem stored_wakeUp (direct : Option Nat) (entry : Nat × SensorInfo) :
    (ProxyFlags.stored direct entry).flags &&& SensorFlagBits.wakeUp = entry.2.flags &&& SensorFlagBits.wakeUp := by
  unfold ProxyFlags.stored
  dsimp only
  split
  · rfl
  · rw [UInt32.and_assoc, show ~~~SensorFlagBits.maskDirect &&& SensorFlagBits.wakeUp = SensorFlagBits.wakeUp by decide]

theorem toUInt32_and_wakeUp (flags : Int32) :
    flags.toUInt32 &&& SensorFlagBits.wakeUp ≠ 0 ↔ flags &&& Aidl.SensorFlagBits.wakeUp ≠ 0 := by
  refine not_congr ⟨fun h => ?_, fun h => ?_⟩
  · exact Int32.toBitVec_inj.1 (congrArg UInt32.toBitVec h)
  · exact UInt32.toBitVec_inj.1 (congrArg Int32.toBitVec h)

theorem nodup_getSensorsList (ds : List SensorDescription) :
    ((ISensorsSubHalBase.construct ds).getSensorsList.map SensorInfo.sensorHandle).Nodup := by
  have hkeys : (ISensorsSubHalBase.construct ds).getSensorsList.map SensorInfo.sensorHandle =
      (ISensorsSubHalBase.construct ds).mSensors.keys := by
    unfold ISensorsSubHalBase.getSensorsList
    rw [List.map_map, ← Std.ExtTreeMap.map_fst_toList_eq_keys]
    refine List.map_congr_left fun entry hm => ?_
    exact (SubHalSim.construct_mem ds ((StdMap.mem_toList _ _ _).1 hm)).2
  rw [hkeys]
  exact Std.ExtTreeMap.nodup_keys

section Start

variable {descriptions : List (List SensorDescription)} (hsize : descriptions.length ≤ 256)
  (hclear : ∀ ds ∈ descriptions, ∀ d ∈ ds, subHalIndexIsClear d.sensorHandle = true)
include hsize hclear

/-- **The proxy lists a sensor as a wake-up sensor** exactly if its sub-HAL posts for it with a locked wakelock. -/
theorem isWakeUp_start (kWakelockTimeoutNs startTime resetTime : Int) {i : Nat} {ds : List SensorDescription}
    (hi : descriptions[i]? = some ds) {post : Post} (hpost : Makes ds post) {event : Event}
    (hevent : event.sensorHandle = post.sensorHandle) :
    isWakeUp (Traffic.start kWakelockTimeoutNs descriptions startTime resetTime).proxy.mSensors
      (processEvent (Int32.ofNat i) event) = post.wakeup := by
  obtain ⟨d, hd, hhandle, hwakeup, hlist⟩ := makes_listed hpost
  generalize hsubHals : descriptions.map (fun ds => SubHal.mk (ISensorsSubHalBase.construct ds).getSensorsList) =
    subHalList
  have hloaded : (i, ⟨d.sensorHandle, d.flags.toUInt32⟩) ∈ ProxyFlags.loaded subHalList := by
    refine List.mem_flatMap.2 ⟨(⟨(ISensorsSubHalBase.construct ds).getSensorsList⟩, i), ?_, ?_⟩
    · rw [List.mk_mem_zipIdx_iff_getElem?, ← hsubHals, List.getElem?_map, hi]
      rfl
    · exact List.mem_map_of_mem (List.mem_filter.2 ⟨hlist, hclear ds (List.mem_of_getElem? hi) d hd⟩)
  have hdistinct : ProxyFlags.DistinctHandles subHalList := by
    refine ⟨by rw [← hsubHals, List.length_map]; exact hsize, fun subHal hm => ?_⟩
    rw [← hsubHals] at hm
    obtain ⟨ds', -, rfl⟩ := List.mem_map.1 hm
    exact nodup_getSensorsList ds'
  have hlast := ProxyFlags.last_of_mem_loaded hdistinct hloaded
  have hlisted := ProxyFlags.getElem?_construct kWakelockTimeoutNs subHalList startTime resetTime hlast
  have hframework : (processEvent (Int32.ofNat i) event).sensorHandle =
      ProxyFlags.handle (i, ⟨d.sensorHandle, d.flags.toUInt32⟩) := by
    show HalProxyCallback.setSubHalIndex event.sensorHandle _ = setSubHalIndex d.sensorHandle i
    rw [hevent, hhandle]
    exact ProxyRoute.callback_setSubHalIndex d.sensorHandle i
  unfold isWakeUp Traffic.start
  rw [hsubHals, hframework]
  show decide ((Std.ExtTreeMap.getD (HalProxy.construct kWakelockTimeoutNs subHalList startTime resetTime).mSensors
    _ _).flags &&& SensorFlagBits.wakeUp ≠ 0) = post.wakeup
  rw [Std.ExtTreeMap.getD_eq_getD_getElem?, hlisted, Option.getD_some, stored_wakeUp]
  exact Bool.eq_iff_iff.2 (decide_eq_true_iff.trans ((toUInt32_and_wakeUp d.flags).trans hwakeup.symm))

end Start

/-! ## Steps -/

/-- A step of its own leaves the proxy its wakelocks and its wake-up flags. -/
theorem own_call (s : System) (c : Call) (hc : c.Own) :
    (s.call c).wakelocks = s.wakelocks ∧ isWakeUp (s.call c).proxy.mSensors = isWakeUp s.proxy.mSensors := by
  have hframe : ∀ {posted : List Event} {p q : HalProxy}, ProxyFrame.Frame posted p q →
      isWakeUp q.mSensors = isWakeUp p.mSensors := by
    intro posted p q h
    obtain ⟨looked, -, heq⟩ := h.sensors
    rw [heq, HalProxy.isWakeUp_lookUpSensors]
  cases c with
  | step op =>
    refine ⟨?_, hframe (ProxyFrame.frame_step s op)⟩
    cases op <;> first | rfl | exact absurd hc id
  | resetSharedWakelock now => exact ⟨rfl, hframe (ProxyFrame.frame_of_locking [] (s.proxy.locking_reset now))⟩
  | background b =>
    refine ⟨?_, hframe (ProxyFrame.frame_background s b)⟩
    cases b <;> first | rfl | exact absurd hc id
  | setOperationMode mode results =>
    obtain ⟨m, h⟩ := ProxyFrame.setOperationMode_eq s.proxy mode results
    refine ⟨rfl, ?_⟩
    show isWakeUp (s.proxy.setOperationMode mode results).1.mSensors = _
    rw [h]
  | postEventsToMessageQueue _ _ _ _ _ _ | moveAssign _ _ => exact absurd hc id

theorem own_life (s : System) (op : LifeOp) (hop : op.Own) :
    (s.life op).wakelocks = s.wakelocks ∧ isWakeUp (s.life op).proxy.mSensors = isWakeUp s.proxy.mSensors := by
  cases op with
  | call c => exact own_call s c hop
  | delayed threadsRun c => exact own_call (s.setThreadsRun threadsRun) c hop
  | stopThreads | clear | restart e | normalMode => exact ⟨rfl, rfl⟩

/-- Steps of its own keep what is promised. -/
theorem promised_of_own (s : System) {op : LifeOp} (hop : op.Own) : s.PostsWakeUps op := by
  have hcall : ∀ {c : Call}, c.Own → s.PromisedCall c := by
    intro c hc
    cases c with
    | step op => cases op <;> trivial
    | postEventsToMessageQueue _ _ _ _ _ _ => exact absurd hc id
    | _ => trivial
  cases op with
  | call c | delayed threadsRun c => exact hcall hop
  | stopThreads | clear | restart e | normalMode => trivial

/-- A post and its wakelock. -/
structure Fits (descriptions : List (List SensorDescription)) (entry : InFlight) (wakelock : ScopedWakelock) :
    Prop where
  makes : ∃ ds, descriptions[entry.subHal]? = some ds ∧ Makes ds entry.post
  locked : wakelock.mLocked = (entry.post.wakeup && entry.threadsRan)
  counted : ∀ events numWakeupEvents, entry.processed = some (events, numWakeupEvents) → entry.post.wakeup = true →
    0 < numWakeupEvents

/-- **The invariant**: the posts under way fit their wakelocks, and the proxy lists the wake-up sensors that it has
listed from the start. -/
structure Inv (descriptions : List (List SensorDescription)) (first s : Traffic) : Prop where
  length : s.inFlight.length = s.system.wakelocks.length
  fits : ∀ (j : Nat) entry wakelock, s.inFlight[j]? = some entry → s.system.wakelocks[j]? = some wakelock →
    Fits descriptions entry wakelock
  flags : isWakeUp s.proxy.mSensors = isWakeUp first.proxy.mSensors

theorem create_locked (p : HalProxy) (lock : Bool) (now : Int) :
    (p.createScopedWakelock lock now).1.mLocked = (lock && p.mThreadsRun) := by
  unfold HalProxy.createScopedWakelock HalProxy.incrementRefCountAndMaybeAcquireWakelock
  cases lock
  · rfl
  · cases hrun : p.mThreadsRun <;> simp

theorem flags_step (s : System) (op : ProxyOp) : isWakeUp (s.step op).proxy.mSensors = isWakeUp s.proxy.mSensors := by
  obtain ⟨looked, -, heq⟩ := (ProxyFrame.frame_step s op).sensors
  rw [heq, HalProxy.isWakeUp_lookUpSensors]

section Inv

variable {descriptions : List (List SensorDescription)} {first s : Traffic}

theorem Inv.wakelock (h : Inv descriptions first s) {j : Nat} {entry : InFlight} (hj : s.inFlight[j]? = some entry) :
    ∃ wakelock, s.system.wakelocks[j]? = some wakelock := by
  have hlt := (List.getElem?_eq_some_iff.1 hj).1
  rw [h.length] at hlt
  exact ⟨_, List.getElem?_eq_getElem hlt⟩

/-- The end of a post and of its wakelock. -/
theorem Inv.erase (h : Inv descriptions first s) {j : Nat} {system : System}
    (hwakelocks : system.wakelocks = s.system.wakelocks.eraseIdx j)
    (hflags : isWakeUp system.proxy.mSensors = isWakeUp s.proxy.mSensors) :
    Inv descriptions first ⟨system, s.inFlight.eraseIdx j⟩ := by
  refine ⟨?_, fun k entry wakelock hk hw => ?_, hflags.trans h.flags⟩
  · show (s.inFlight.eraseIdx j).length = system.wakelocks.length
    rw [hwakelocks, List.length_eraseIdx, List.length_eraseIdx, h.length]
  · change (s.inFlight.eraseIdx j)[k]? = some entry at hk
    change system.wakelocks[k]? = some wakelock at hw
    rw [hwakelocks, List.getElem?_eraseIdx] at hw
    rw [List.getElem?_eraseIdx] at hk
    split at hk
    · rw [if_pos ‹_›] at hw
      exact h.fits k entry wakelock hk hw
    · rw [if_neg ‹_›] at hw
      exact h.fits (k + 1) entry wakelock hk hw

theorem Inv.create (h : Inv descriptions first s) {i : Nat} {post : Post}
    (hpost : ∃ ds, descriptions[i]? = some ds ∧ Makes ds post) (now : Int) :
    Inv descriptions first (s.step (.createScopedWakelock i post now)) := by
  have hflags := flags_step s.system (.createScopedWakelock post.wakeup now)
  refine ⟨?_, fun k entry wakelock hk hw => ?_, hflags.trans h.flags⟩
  · show (s.inFlight ++ [_]).length = (s.system.wakelocks ++ [_]).length
    rw [List.length_append, List.length_append, h.length]
    rfl
  · change (s.inFlight ++ [_])[k]? = some entry at hk
    change (s.system.wakelocks ++ [(s.proxy.createScopedWakelock post.wakeup now).1])[k]? = some wakelock at hw
    rw [List.getElem?_append, ← h.length] at hw
    rw [List.getElem?_append] at hk
    split at hk
    · rw [if_pos ‹_›] at hw
      exact h.fits k entry wakelock hk hw
    · rw [if_neg ‹_›] at hw
      obtain rfl := List.mem_singleton.1 (List.mem_of_getElem? hk)
      obtain rfl := List.mem_singleton.1 (List.mem_of_getElem? hw)
      exact ⟨hpost, create_locked s.proxy post.wakeup now, nofun⟩

end Inv

section Runs

variable {descriptions : List (List SensorDescription)} (hsize : descriptions.length ≤ 256)
  (hclear : ∀ ds ∈ descriptions, ∀ d ∈ ds, subHalIndexIsClear d.sensorHandle = true)
  {kWakelockTimeoutNs startTime resetTime : Int} {s : Traffic}
  (h : Inv descriptions (.start kWakelockTimeoutNs descriptions startTime resetTime) s)
include hsize hclear h

/-- **All events of a post are wake-up events or none is.** -/
theorem numWakeupEvents_eq {entry : InFlight}
    (hmakes : ∃ ds, descriptions[entry.subHal]? = some ds ∧ Makes ds entry.post) {events : List Event}
    (hevents : entry.post.Carries events) :
    (s.proxy.processEvents (Int32.ofNat entry.subHal) events).2.2 = if entry.post.wakeup then events.length else 0 := by
  obtain ⟨ds, hds, hpost⟩ := hmakes
  have hflag : ∀ event ∈ events.map (processEvent (Int32.ofNat entry.subHal)),
      isWakeUp s.proxy.mSensors event = entry.post.wakeup := by
    intro _ hm
    obtain ⟨event, hevent, rfl⟩ := List.mem_map.1 hm
    rw [h.flags]
    exact isWakeUp_start hsize hclear _ _ _ hds hpost (hevents.2 event hevent)
  rw [ProxyRoute.processEvents_eq]
  dsimp only
  rw [List.countP_congr fun event hm => iff_of_eq (congrArg (· = true) (hflag event hm))]
  cases entry.post.wakeup <;> simp

theorem inv_processEvents (j : Nat) {events : List Event} (hop : Legal descriptions s (.processEvents j events)) :
    Inv descriptions (.start kWakelockTimeoutNs descriptions startTime resetTime) (s.processEvents j events) := by
  unfold Traffic.processEvents
  cases hj : s.inFlight[j]? with
  | none => exact h
  | some entry =>
    obtain ⟨wakelock, hw⟩ := h.wakelock hj
    have hfits := h.fits j entry wakelock hj hw
    dsimp only
    split
    · exact h
    · split
      · refine h.erase ?_ (flags_step s.system (.destroyScopedWakelock j))
        rw [System.step_destroy hw]
        rfl
      · rename_i hreturns
        have hcount := numWakeupEvents_eq hsize hclear h hfits.makes (hop entry hj)
        have hlookup : isWakeUp (s.proxy.processEvents (Int32.ofNat entry.subHal) events).1.mSensors =
            isWakeUp s.proxy.mSensors := by
          rw [ProxyRoute.processEvents_eq, HalProxy.isWakeUp_lookUpSensors]
        refine ⟨List.length_set.trans h.length, fun k entry' wakelock' hk hw' => ?_, hlookup.trans h.flags⟩
        change (s.inFlight.set j _)[k]? = some entry' at hk
        rw [List.getElem?_set] at hk
        split at hk
        · subst ‹j = k›
          rw [if_pos (List.getElem?_eq_some_iff.1 hj).1] at hk
          obtain rfl := Option.some.inj hk
          obtain rfl := Option.some.inj (hw.symm.trans hw')
          refine ⟨hfits.makes, hfits.locked, fun processed n heq hwakeup => ?_⟩
          rw [show n = _ from (congrArg Prod.snd (Option.some.inj heq)).symm, hcount, if_pos hwakeup]
          exact List.length_pos_iff.2 fun hempty => hreturns (Or.inl hempty)
        · exact h.fits k entry' wakelock' hk hw'

theorem inv_step (op : TrafficOp) (hop : Legal descriptions s op) :
    Inv descriptions (.start kWakelockTimeoutNs descriptions startTime resetTime) (s.step op) := by
  cases op with
  | createScopedWakelock i post now => exact h.create hop now
  | processEvents j events => exact inv_processEvents hsize hclear h j hop
  | postEventsToMessageQueue j now availableToWrite writeOk =>
    show Inv _ _ (s.postEventsToMessageQueue j now availableToWrite writeOk)
    unfold Traffic.postEventsToMessageQueue
    cases hbatch : s.inFlight[j]?.bind InFlight.processed with
    | none => exact h
    | some batch =>
      obtain ⟨entry, hj, -⟩ := Option.bind_eq_some_iff.1 hbatch
      obtain ⟨wakelock, hw⟩ := h.wakelock hj
      refine h.erase ?_ (flags_step s.system _)
      rw [System.step_post hw]
      rfl
  | life op own =>
    obtain ⟨hwakelocks, hflags⟩ := own_life s.system op own
    exact ⟨h.length.trans (congrArg List.length hwakelocks).symm,
      fun j entry wakelock hj hw => h.fits j entry wakelock hj (hwakelocks ▸ hw), hflags.trans h.flags⟩

/-- **The assertions of a call of `postEvents`.** -/
theorem asserts_iff (op : TrafficOp) (hop : Legal descriptions s op) : s.Asserts op ↔ CreatedRunning s op := by
  cases op with
  | processEvents j events =>
    have hone : ∀ entry wakelock, s.inFlight[j]? = some entry → s.system.wakelocks[j]? = some wakelock →
        ¬ s.Returns events →
        ((if 0 < (s.proxy.processEvents (Int32.ofNat entry.subHal) events).2.2 then wakelock.mLocked = true
          else wakelock.mLocked = false) ↔ (entry.post.wakeup = true → entry.threadsRan = true)) := by
      intro entry wakelock hj hw hreturns
      have hfits := h.fits j entry wakelock hj hw
      have hne : 0 < events.length := List.length_pos_iff.2 fun hempty => hreturns (Or.inl hempty)
      rw [numWakeupEvents_eq hsize hclear h hfits.makes (hop entry hj), hfits.locked]
      cases entry.post.wakeup <;> simp [hne]
    constructor
    · intro hasserts entry hj hnone hreturns
      obtain ⟨wakelock, hw⟩ := h.wakelock hj
      exact (hone entry wakelock hj hw hreturns).1 (hasserts entry wakelock hj hnone hw hreturns)
    · intro hrunning entry wakelock hj hnone hw hreturns
      exact (hone entry wakelock hj hw hreturns).2 (hrunning entry hj hnone hreturns)
  | createScopedWakelock _ _ _ | postEventsToMessageQueue _ _ _ _ | life _ _ => exact Iff.rfl

end Runs

/-- **Every step takes references and gives them back.** -/
theorem reaches_step {descriptions : List (List SensorDescription)} {first s : Traffic}
    (h : Inv descriptions first s) (op : TrafficOp) : s.system.lock.Reaches (s.step op).system.lock := by
  cases op with
  | createScopedWakelock i post now =>
    exact MultiHal.reaches_step s.system (.createScopedWakelock post.wakeup now) trivial
  | processEvents j events =>
    show s.system.lock.Reaches (s.processEvents j events).system.lock
    unfold Traffic.processEvents
    split
    · split
      · exact .refl _
      · split
        · exact MultiHal.reaches_step s.system (.destroyScopedWakelock j) trivial
        · rw [ProxyRoute.processEvents_eq]
          exact .refl _
    · exact .refl _
  | postEventsToMessageQueue j now availableToWrite writeOk =>
    show s.system.lock.Reaches (s.postEventsToMessageQueue j now availableToWrite writeOk).system.lock
    unfold Traffic.postEventsToMessageQueue
    cases hbatch : s.inFlight[j]?.bind InFlight.processed with
    | none => exact .refl _
    | some batch =>
      obtain ⟨entry, hj, hprocessed⟩ := Option.bind_eq_some_iff.1 hbatch
      refine MultiHal.reaches_step s.system _ fun wakelock hw hlocked => ?_
      have hfits := h.fits j entry wakelock hj hw
      rw [hfits.locked] at hlocked
      exact hfits.counted batch.1 batch.2 hprocessed (Bool.and_eq_true_iff.1 hlocked).1
  | life op own => exact ProxyLife.reaches_life s.system op (promised_of_own s.system own)

theorem inv_start (kWakelockTimeoutNs : Int) (descriptions : List (List SensorDescription))
    (startTime resetTime : Int) :
    Inv descriptions (.start kWakelockTimeoutNs descriptions startTime resetTime)
      (.start kWakelockTimeoutNs descriptions startTime resetTime) :=
  ⟨rfl, nofun, rfl⟩

/-- **Bosch sub-HALs keep what the proxy asserts of a post**, but for a wakelock that was created while the threads were
stopped; and in any case the calls on the system wake lock alternate and it is held exactly while there are
references. -/
theorem along_asserts (kWakelockTimeoutNs : Int) (descriptions : List (List SensorDescription))
    (startTime resetTime : Int) (ops : List TrafficOp) (hsize : descriptions.length ≤ 256)
    (hclear : ∀ ds ∈ descriptions, ∀ d ∈ ds, subHalIndexIsClear d.sensorHandle = true)
    (hlegal : Steps step (Legal descriptions) (.start kWakelockTimeoutNs descriptions startTime resetTime) ops) :
    (Steps step Traffic.Asserts (.start kWakelockTimeoutNs descriptions startTime resetTime) ops ↔
      Steps step CreatedRunning (.start kWakelockTimeoutNs descriptions startTime resetTime) ops) ∧
    Along step (fun s => Alternates (s.system.calls.filterMap lockCall?) ∧ HoldsLock s.system)
      (.start kWakelockTimeoutNs descriptions startTime resetTime) ops := by
  have hstep : ∀ s op, Inv descriptions (.start kWakelockTimeoutNs descriptions startTime resetTime) s →
      Legal descriptions s op →
      Inv descriptions (.start kWakelockTimeoutNs descriptions startTime resetTime) (s.step op) :=
    fun s op h hop => inv_step hsize hclear h op hop
  have hinv := inv_start kWakelockTimeoutNs descriptions startTime resetTime
  refine ⟨Run.steps_congr hstep (fun s op h hop => asserts_iff hsize hclear h op hop) hinv hlegal, ?_⟩
  have hright := Run.along_of_step (I := fun s : Traffic =>
      Inv descriptions (.start kWakelockTimeoutNs descriptions startTime resetTime) s ∧ CountedLock.Right s.system.lock)
    (fun s op h hop => ⟨hstep s op h.1 hop, (reaches_step h.1 op).right h.2⟩)
    ⟨hinv, ProxyLife.right_start kWakelockTimeoutNs _ startTime resetTime⟩ hlegal
  exact hright.imp fun s h => ⟨h.2.alternates, h.2.held⟩

/-- A sub-HAL with a wake-up sensor. -/
def wakeUpSubHal : List SensorDescription :=
  [{ sensorHandle := 1, type := .accelerometer, flags := Aidl.SensorFlagBits.wakeUp, delays := ⟨5000, 2000000⟩ }]

/-- The report that it posts when the sensor is enabled. -/
def wakeUpReport : Post := ⟨1, 2, true⟩

/-- After a session the framework starts again between the creation of a wakelock and the post with it. -/
def postAfterRestart : List TrafficOp :=
  [.life (.restart (ProxyInit.calm 1 [])) trivial, .createScopedWakelock 0 wakeUpReport 5,
    .processEvents 0 [wakeUpEvent 1, wakeUpEvent 1], .postEventsToMessageQueue 0 6 8 true,
    .life .stopThreads trivial, .createScopedWakelock 0 wakeUpReport 7, .life (.restart (ProxyInit.calm 8 [])) trivial,
    .processEvents 0 [wakeUpEvent 1, wakeUpEvent 1]]

theorem makes_wakeUpReport : Makes wakeUpSubHal wakeUpReport := ⟨[], .activate 1 true none, by decide⟩

theorem carries_wakeUpReport : wakeUpReport.Carries [wakeUpEvent 1, wakeUpEvent 1] := ⟨rfl, by decide⟩

theorem along_asserts_postAfterRestart :
    (Steps step Traffic.Asserts (.start 1000000000 [wakeUpSubHal] 0 0) postAfterRestart ↔
      Steps step CreatedRunning (.start 1000000000 [wakeUpSubHal] 0 0) postAfterRestart) ∧
    Along step (fun s => Alternates (s.system.calls.filterMap lockCall?) ∧ HoldsLock s.system)
      (.start 1000000000 [wakeUpSubHal] 0 0) postAfterRestart := by
  have hcreate : ∃ ds, [wakeUpSubHal][0]? = some ds ∧ Makes ds wakeUpReport := ⟨_, rfl, makes_wakeUpReport⟩
  refine along_asserts 1000000000 [wakeUpSubHal] 0 0 postAfterRestart (by decide) (by decide)
    ⟨trivial, hcreate, fun entry hj => ?_, trivial, trivial, hcreate, trivial, fun entry hj => ?_, trivial⟩
  · obtain rfl := Option.some.inj hj
    exact carries_wakeUpReport
  · obtain rfl := Option.some.inj hj
    exact carries_wakeUpReport

end ProxyPosts
end MultiHal
end MemsHal
