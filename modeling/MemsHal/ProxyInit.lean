import MemsHal.ProxyRoute
import MemsHal.ProxyWakelock
/-!
# ProxyInit — `HalProxy::initializeCommon`

The call stops the threads, clears what is left of the old session and starts again.  Its two resets of the shared
wakelock come after `mThreadsRun` was cleared, where a decrement returns at once, so the references of the old session
survive unless something in the short time after the restart takes them.
-/
namespace MemsHal
namespace MultiHal

open HalProxy (isWakeUp)

namespace HalProxy

/-! ## Dynamic sensors and operation mode -/

/-- The new state, and the sensors the framework is told about. -/
def onDynamicSensorsConnected (p : HalProxy) (dynamicSensorsAdded : List SensorInfo) (subHalIndex : Int32) :
    HalProxy × List SensorInfo :=
  let sensors := (dynamicSensorsAdded.filter (fun sensor => subHalIndexIsClear sensor.sensorHandle)).map
    (fun sensor => { sensor with sensorHandle := setSubHalIndex sensor.sensorHandle (toSizeT subHalIndex) })
  ({ p with
      mDynamicSensors := sensors.foldl (fun m sensor => m.insert sensor.sensorHandle sensor) p.mDynamicSensors },
    sensors)

/-- The new state, and the handles the framework is told about. -/
def onDynamicSensorsDisconnected (p : HalProxy) (dynamicSensorHandlesRemoved : List Int32) (subHalIndex : Int32) :
    HalProxy × List Int32 :=
  ((dynamicSensorHandlesRemoved.filter subHalIndexIsClear).map (setSubHalIndex · (toSizeT subHalIndex))).foldl
    (fun (p, sensorHandles) sensorHandle =>
      if sensorHandle ∈ p.mDynamicSensors then
        ({ p with mDynamicSensors := p.mDynamicSensors.erase sensorHandle }, sensorHandles ++ [sensorHandle])
      else (p, sensorHandles))
    (p, [])

/-- `results` are the results of the sub-HALs, in order; the calls are the sub-HALs called and with which mode. -/
def setOperationMode (p : HalProxy) (mode : OperationMode) (results : List Result) :
    HalProxy × Result × List (Nat × OperationMode) :=
  match (results.take p.mSubHalList.length).findIdx? (· ≠ .ok) with
  | some subHalIndex =>
    (p, results.getD subHalIndex .ok,
      (List.range (subHalIndex + 1)).map (·, mode) ++ (List.range subHalIndex).map (·, p.mCurrentOperationMode))
  | none => ({ p with mCurrentOperationMode := mode }, .ok, (List.range p.mSubHalList.length).map (·, mode))

/-! ## The call -/

/-- The constructor; both clock fields are read off the clock. -/
def construct (kWakelockTimeoutNs : Int) (subHalList : List SubHal) (startTime resetTime : Int) : HalProxy :=
  initializeSensorList
    { kWakelockTimeoutNs := kWakelockTimeoutNs
      mSubHalList := subHalList
      mSensors := ∅
      mDynamicSensors := ∅
      mCurrentOperationMode := .normal
      mDirectChannelSubHal := none
      mPendingWriteEventsQueue := []
      mSizePendingWriteEventsQueue := 0
      mMostEventsObservedPendingWriteEventsQueue := 0
      mThreadsRun := true
      mWakelockRefCount := 0
      mWakelockTimeoutStartTime := startTime
      mWakelockTimeoutResetTime := resetTime
      eventQueueSize := 0
      mPendingWrites := .waiting
      mReadingWakelocks := false }

/-- `stopThreads`, with what the two threads still do before they end.  `handleWakelocks` resets the shared wakelock
when it leaves its loop. -/
def stopThreads (p : HalProxy) (writeOk : Bool) (numWakeLocksProcessed : Option UInt32) (nowExit : Int) :
    HalProxy × List ProxyCall :=
  let (p, write) := handlePendingWritesWrite { p with mThreadsRun := false } writeOk
  let (p, read) := p.handlePendingWritesCommit.handleWakelocksRead numWakeLocksProcessed
  let (p, reset) := p.resetSharedWakelock nowExit
  (p, write ++ read ++ reset)

def disableAllSensors (p : HalProxy) : List (Except Result (Nat × SubHalCall)) :=
  p.mSensors.keys.map (p.activate · false) ++ p.mDynamicSensors.keys.map (p.activate · false)

end HalProxy

/-- What sub-HALs do while `initializeCommon` runs, without posting events or creating wakelocks, and a pass of
`handleWakelocks` in which the framework acknowledges nothing. -/
inductive Background
  | destroyScopedWakelock (i : Nat)
  | onDynamicSensorsConnected (dynamicSensorsAdded : List SensorInfo) (subHalIndex : Int32)
  | onDynamicSensorsDisconnected (dynamicSensorHandlesRemoved : List Int32) (subHalIndex : Int32)
  | handleWakelocks (now nowReset : Int)

/-- The surroundings of a call of `initializeCommon`: how the blocking calls under way end, what the clock says, the new
FMQ, what goes well, and what happens in the background, from stop to clear to restart to return. -/
structure Surroundings where
  writeOk : Bool
  numWakeLocksProcessed : Option UInt32
  nowExit : Int
  nowReset : Int
  eventQueueSize : Nat
  eventFlagOk : Bool
  wakelockFlagOk : Bool
  hasCallback : Bool
  results : List Result
  whileStopping : List Background
  whileDisabling : List Background
  whileClearing : List Background
  whileStarting : List Background

namespace System

def background (s : System) : Background → System
  | .destroyScopedWakelock i => s.step (.destroyScopedWakelock i)
  | .onDynamicSensorsConnected dynamicSensorsAdded subHalIndex =>
    { s with proxy := (s.proxy.onDynamicSensorsConnected dynamicSensorsAdded subHalIndex).1 }
  | .onDynamicSensorsDisconnected dynamicSensorHandlesRemoved subHalIndex =>
    { s with proxy := (s.proxy.onDynamicSensorsDisconnected dynamicSensorHandlesRemoved subHalIndex).1 }
  | .handleWakelocks now nowReset => (s.step (.handleWakelocksCheck now nowReset)).step (.handleWakelocksRead none)

/-- Up to the end of the second reset. -/
def stop (s : System) (e : Surroundings) : System :=
  let s := s.after (s.proxy.stopThreads e.writeOk e.numWakeLocksProcessed e.nowExit)
  s.after (s.proxy.resetSharedWakelock e.nowReset)

/-- The queue and the dynamic sensors are cleared. -/
def clear (s : System) : System :=
  { s with
    proxy := { s.proxy with
      mPendingWriteEventsQueue := [], mSizePendingWriteEventsQueue := 0, mDynamicSensors := ∅ } }

/-- The new FMQ is in place and the threads start at the top of their loops. -/
def restart (s : System) (e : Surroundings) : System :=
  { s with
    proxy := { s.proxy with
      eventQueueSize := e.eventQueueSize, mThreadsRun := true, mPendingWrites := .waiting, mReadingWakelocks := false } }

/-- The state the call leaves, its result and the requests to disable sensors. -/
def initializeCommon (s : System) (e : Surroundings) :
    System × Result × List (Except Result (Nat × SubHalCall)) :=
  let stopped := Run.run background (s.stop e) e.whileStopping
  let cleared := (Run.run background stopped e.whileDisabling).clear
  let restarted := (Run.run background cleared e.whileClearing).restart e
  let started := Run.run background restarted e.whileStarting
  let result := if e.eventFlagOk ∧ e.wakelockFlagOk ∧ e.hasCallback then .ok else .badValue
  ({ started with proxy := { started.proxy with mCurrentOperationMode := .normal } },
    (e.results.take s.proxy.mSubHalList.length).foldl (fun result currRes => if currRes ≠ .ok then currRes else result)
      result,
    stopped.proxy.disableAllSensors)

end System

namespace ProxyInit

open Run (run)

/-- The states a proxy reaches. -/
inductive Reachable : System → Prop
  | construct (kWakelockTimeoutNs : Int) (subHalList : List SubHal) (startTime resetTime : Int) :
    Reachable ⟨HalProxy.construct kWakelockTimeoutNs subHalList startTime resetTime, [], []⟩
  | step {s : System} (op : ProxyOp) : Reachable s → s.Promised op → Reachable (s.step op)
  | background {s : System} (b : Background) : Reachable s → Reachable (s.background b)
  | setOperationMode {s : System} (mode : OperationMode) (results : List Result) :
    Reachable s → Reachable { s with proxy := (s.proxy.setOperationMode mode results).1 }
  | initializeCommon {s : System} (e : Surroundings) : Reachable s → Reachable (s.initializeCommon e).1

/-- **A clean session**: nothing pending, no dynamic sensor, normal mode, no reference and no wake lock. -/
structure CleanSession (s : System) : Prop where
  queue : s.proxy.mPendingWriteEventsQueue = []
  size : s.proxy.mSizePendingWriteEventsQueue = 0
  dynamicSensors : s.proxy.mDynamicSensors.isEmpty = true
  mode : s.proxy.mCurrentOperationMode = .normal
  refCount : s.proxy.mWakelockRefCount = 0
  released : ¬ WakeLockHeld s.calls

/-- The timeout is found expired. -/
def Expires (p : HalProxy) : Background → Prop
  | .handleWakelocks now _ => p.sharedWakelockDidTimeout now = true
  | _                      => False

/-- The wakelocks that are left. -/
def survive (wakelocks : List ScopedWakelock) : Background → List ScopedWakelock
  | .destroyScopedWakelock i => wakelocks.eraseIdx i
  | _                        => wakelocks

/-- The number of references that an ending wakelock gives back, none if it is from before `resetTime`. -/
def givesBack (resetTime : Int) (wakelocks : List ScopedWakelock) : Background → Nat
  | .destroyScopedWakelock i =>
    match wakelocks[i]? with
    | some wakelock =>
      if wakelock.mLocked = true ∧ (wakelock.mCreatedAtTimeNs = -1 ∨ resetTime ≤ wakelock.mCreatedAtTimeNs) then 1
      else 0
    | none => 0
  | _ => 0

/-- The number of references given back in the background. -/
def givenBack (resetTime : Int) (wakelocks : List ScopedWakelock) : List Background → Nat
  | []      => 0
  | b :: bs => givesBack resetTime wakelocks b + givenBack resetTime (survive wakelocks b) bs

/-- The call connects a dynamic sensor under the handle `k`. -/
def Connects (k : Int32) : Background → Prop
  | .onDynamicSensorsConnected dynamicSensorsAdded subHalIndex =>
    ∃ sensor ∈ dynamicSensorsAdded, subHalIndexIsClear sensor.sensorHandle = true ∧
      setSubHalIndex sensor.sensorHandle (toSizeT subHalIndex) = k
  | _ => False

def Disconnects (k : Int32) : Background → Prop
  | .onDynamicSensorsDisconnected dynamicSensorHandlesRemoved subHalIndex =>
    ∃ sensorHandle ∈ dynamicSensorHandlesRemoved, subHalIndexIsClear sensorHandle = true ∧
      setSubHalIndex sensorHandle (toSizeT subHalIndex) = k
  | _ => False

/-- The dynamic sensor `k` is connected and not disconnected afterwards. -/
def StaysConnected (k : Int32) : List Background → Prop
  | []      => False
  | b :: bs => (Connects k b ∧ ∀ b' ∈ bs, ¬ Disconnects k b') ∨ StaysConnected k bs

/-! ## Dynamic sensors -/

theorem connected_spec (p : HalProxy) (dynamicSensorsAdded : List SensorInfo) (subHalIndex : Int32) :
    ∃ m, (p.onDynamicSensorsConnected dynamicSensorsAdded subHalIndex).1 = { p with mDynamicSensors := m } ∧
      ∀ k, k ∈ m ↔ k ∈ p.mDynamicSensors ∨
        ∃ sensor ∈ (p.onDynamicSensorsConnected dynamicSensorsAdded subHalIndex).2, sensor.sensorHandle = k := by
  have hfold : ∀ (sensors : List SensorInfo) (m : StdMap Int32 SensorInfo) (k : Int32),
      k ∈ sensors.foldl (fun m sensor => m.insert sensor.sensorHandle sensor) m ↔
        k ∈ m ∨ ∃ sensor ∈ sensors, sensor.sensorHandle = k := by
    intro sensors
    induction sensors with
    | nil => simp
    | cons sensor sensors ih =>
      intro m k
      rw [List.foldl_cons, ih, Std.ExtTreeMap.mem_insert]
      simp only [Std.LawfulEqCmp.compare_eq_iff_eq, List.mem_cons, exists_eq_or_imp]
      tauto
  exact ⟨_, rfl, hfold _ _⟩

/-- The handles that leave, and are reported, are those asked for that are in the map. -/
theorem disconnected_spec (p : HalProxy) (dynamicSensorHandlesRemoved : List Int32) (subHalIndex : Int32) :
    ∃ m, (p.onDynamicSensorsDisconnected dynamicSensorHandlesRemoved subHalIndex).1 = { p with mDynamicSensors := m } ∧
      (∀ k, k ∈ m ↔ k ∈ p.mDynamicSensors ∧
        k ∉ (dynamicSensorHandlesRemoved.filter subHalIndexIsClear).map (setSubHalIndex · (toSizeT subHalIndex))) ∧
      ∀ k, k ∈ (p.onDynamicSensorsDisconnected dynamicSensorHandlesRemoved subHalIndex).2 ↔ k ∈ p.mDynamicSensors ∧
        k ∈ (dynamicSensorHandlesRemoved.filter subHalIndexIsClear).map (setSubHalIndex · (toSizeT subHalIndex)) := by
  have hfold : ∀ (handles : List Int32) (p : HalProxy) (out : List Int32) (r : HalProxy × List Int32),
      handles.foldl (fun (p, sensorHandles) sensorHandle =>
          if sensorHandle ∈ p.mDynamicSensors then
            ({ p with mDynamicSensors := p.mDynamicSensors.erase sensorHandle }, sensorHandles ++ [sensorHandle])
          else (p, sensorHandles)) (p, out) = r →
      ∃ m, r.1 = { p with mDynamicSensors := m } ∧ (∀ k, k ∈ m ↔ k ∈ p.mDynamicSensors ∧ k ∉ handles) ∧
        ∀ k, k ∈ r.2 ↔ k ∈ out ∨ (k ∈ p.mDynamicSensors ∧ k ∈ handles) := by
    intro handles
    induction handles with
    | nil =>
      rintro p out r rfl
      exact ⟨p.mDynamicSensors, rfl, fun k => by simp, fun k => by simp⟩
    | cons sensorHandle handles ih =>
      intro p out r hr
      rw [List.foldl_cons] at hr
      by_cases hm : sensorHandle ∈ p.mDynamicSensors
      · dsimp only at hr
        rw [if_pos hm] at hr
        obtain ⟨m, heq, hmem, hout⟩ := ih { p with mDynamicSensors := p.mDynamicSensors.erase sensorHandle }
          (out ++ [sensorHandle]) r hr
        refine ⟨m, heq, fun k => ?_, fun k => ?_⟩
        · rw [hmem, Std.ExtTreeMap.mem_erase, List.mem_cons]
          simp only [Std.LawfulEqCmp.compare_eq_iff_eq, ne_eq]
          tauto
        · rw [hout, Std.ExtTreeMap.mem_erase, List.mem_append, List.mem_singleton, List.mem_cons]
          simp only [Std.LawfulEqCmp.compare_eq_iff_eq, ne_eq]
          by_cases hk : k = sensorHandle
          · subst hk
            simp [hm]
          · simp [hk, Ne.symm hk]
      · dsimp only at hr
        rw [if_neg hm] at hr
        obtain ⟨m, heq, hmem, hout⟩ := ih p out r hr
        have hne : ∀ {k}, k ∈ p.mDynamicSensors → k ≠ sensorHandle := fun hk he => hm (he ▸ hk)
        refine ⟨m, heq, fun k => ?_, fun k => ?_⟩
        · rw [hmem, List.mem_cons, not_or]
          exact and_congr_right fun hk => (and_iff_right (hne hk)).symm
        · rw [hout, List.mem_cons]
          exact or_congr_right (and_congr_right fun hk => (or_iff_right (hne hk)).symm)
  obtain ⟨m, heq, hmem, hout⟩ := hfold
    ((dynamicSensorHandlesRemoved.filter subHalIndexIsClear).map (setSubHalIndex · (toSizeT subHalIndex))) p [] _ rfl
  exact ⟨m, heq, hmem, fun k => (hout k).trans (by simp)⟩

theorem background_connected (s : System) (dynamicSensorsAdded : List SensorInfo) (subHalIndex : Int32) :
    ∃ m, (s.background (.onDynamicSensorsConnected dynamicSensorsAdded subHalIndex)).proxy =
        { s.proxy with mDynamicSensors := m } ∧
      ∀ k, k ∈ m ↔ k ∈ s.proxy.mDynamicSensors ∨
        Connects k (.onDynamicSensorsConnected dynamicSensorsAdded subHalIndex) := by
  obtain ⟨m, heq, hmem⟩ := connected_spec s.proxy dynamicSensorsAdded subHalIndex
  refine ⟨m, heq, fun k => (hmem k).trans (or_congr_right ?_)⟩
  unfold Connects HalProxy.onDynamicSensorsConnected
  simp only [List.mem_map, List.mem_filter]
  constructor
  · rintro ⟨_, ⟨sensor, ⟨hm, hc⟩, rfl⟩, hk⟩
    exact ⟨sensor, hm, hc, hk⟩
  · rintro ⟨sensor, hm, hc, hk⟩
    exact ⟨_, ⟨sensor, ⟨hm, hc⟩, rfl⟩, hk⟩

theorem background_disconnected (s : System) (dynamicSensorHandlesRemoved : List Int32) (subHalIndex : Int32) :
    ∃ m, (s.background (.onDynamicSensorsDisconnected dynamicSensorHandlesRemoved subHalIndex)).proxy =
        { s.proxy with mDynamicSensors := m } ∧
      ∀ k, k ∈ m ↔ k ∈ s.proxy.mDynamicSensors ∧
        ¬ Disconnects k (.onDynamicSensorsDisconnected dynamicSensorHandlesRemoved subHalIndex) := by
  obtain ⟨m, heq, hmem, -⟩ := disconnected_spec s.proxy dynamicSensorHandlesRemoved subHalIndex
  refine ⟨m, heq, fun k => ?_⟩
  rw [hmem]
  unfold Disconnects
  simp only [List.mem_map, List.mem_filter, and_assoc]

/-! ## The background -/

/-- The fields that nothing in the background changes. -/
structure Unchanged (p p' : HalProxy) : Prop where
  run : p'.mThreadsRun = p.mThreadsRun
  queue : p'.mPendingWriteEventsQueue = p.mPendingWriteEventsQueue
  size : p'.mSizePendingWriteEventsQueue = p.mSizePendingWriteEventsQueue
  startTime : p'.mWakelockTimeoutStartTime = p.mWakelockTimeoutStartTime
  timeout : p'.kWakelockTimeoutNs = p.kWakelockTimeoutNs

theorem Unchanged.refl (p : HalProxy) : Unchanged p p := ⟨rfl, rfl, rfl, rfl, rfl⟩

theorem Unchanged.trans {p p' p'' : HalProxy} (h : Unchanged p p') (h' : Unchanged p' p'') : Unchanged p p'' :=
  ⟨h'.run.trans h.run, h'.queue.trans h.queue, h'.size.trans h.size, h'.startTime.trans h.startTime,
    h'.timeout.trans h.timeout⟩

theorem Unchanged.expires_iff {p p' : HalProxy} (h : Unchanged p p') (b : Background) : Expires p' b ↔ Expires p b := by
  cases b with
  | handleWakelocks now nowReset =>
    unfold Expires HalProxy.sharedWakelockDidTimeout
    rw [h.startTime, h.timeout]
  | _ => exact Iff.rfl

theorem destroy_eq (p : HalProxy) (wakelock : ScopedWakelock) :
    ∃ count, (p.destroyScopedWakelock wakelock).1 = { p with mWakelockRefCount := count } := by
  unfold HalProxy.destroyScopedWakelock
  split
  · rw [HalProxy.decrement_eq]
    exact ⟨_, rfl⟩
  · exact ⟨p.mWakelockRefCount, rfl⟩

theorem background_destroy {s : System} {i : Nat} {wakelock : ScopedWakelock} (h : s.wakelocks[i]? = some wakelock) :
    s.background (.destroyScopedWakelock i) = s.destroy i wakelock :=
  System.step_destroy h

theorem background_destroy_none {s : System} {i : Nat} (h : s.wakelocks[i]? = none) :
    s.background (.destroyScopedWakelock i) = s :=
  System.step_destroy_none h

theorem background_destroy_eq (s : System) (i : Nat) :
    ∃ count, (s.background (.destroyScopedWakelock i)).proxy = { s.proxy with mWakelockRefCount := count } := by
  cases hwl : s.wakelocks[i]? with
  | none =>
    rw [background_destroy_none hwl]
    exact ⟨_, rfl⟩
  | some wakelock =>
    rw [background_destroy hwl]
    exact destroy_eq s.proxy wakelock

theorem check_eq (p : HalProxy) (now nowReset : Int) :
    ∃ count resetTime reading, (p.handleWakelocksCheck now nowReset).1 =
      { p with
        mWakelockRefCount := count, mWakelockTimeoutResetTime := resetTime, mReadingWakelocks := reading } := by
  unfold HalProxy.handleWakelocksCheck HalProxy.resetSharedWakelock
  split
  · split
    · rw [HalProxy.decrement_eq]
      exact ⟨_, _, _, rfl⟩
    · exact ⟨_, _, _, rfl⟩
  · exact ⟨_, _, _, rfl⟩

theorem read_none_eq (p : HalProxy) : (p.handleWakelocksRead none).1 = { p with mReadingWakelocks := false } := by
  unfold HalProxy.handleWakelocksRead
  split
  · rfl
  · rename_i h
    rw [← Bool.eq_false_of_not_eq_true h]

theorem background_handleWakelocks (s : System) (now nowReset : Int) :
    (s.background (.handleWakelocks now nowReset)).proxy =
      { (s.proxy.handleWakelocksCheck now nowReset).1 with mReadingWakelocks := false } :=
  read_none_eq _

/-- What the background may change. -/
theorem background_eq (s : System) (b : Background) :
    ∃ count resetTime reading dynamicSensors, (s.background b).proxy =
      { s.proxy with
        mWakelockRefCount := count, mWakelockTimeoutResetTime := resetTime, mReadingWakelocks := reading
        mDynamicSensors := dynamicSensors } := by
  cases b with
  | destroyScopedWakelock i =>
    obtain ⟨count, h⟩ := background_destroy_eq s i
    exact ⟨_, _, _, _, h⟩
  | onDynamicSensorsConnected dynamicSensorsAdded subHalIndex => exact ⟨_, _, _, _, rfl⟩
  | onDynamicSensorsDisconnected dynamicSensorHandlesRemoved subHalIndex =>
    obtain ⟨m, h, -⟩ := background_disconnected s dynamicSensorHandlesRemoved subHalIndex
    exact ⟨_, _, _, _, h⟩
  | handleWakelocks now nowReset =>
    obtain ⟨count, resetTime, reading, h⟩ := check_eq s.proxy now nowReset
    rw [background_handleWakelocks, h]
    exact ⟨_, _, _, _, rfl⟩

theorem background_unchanged (s : System) (b : Background) : Unchanged s.proxy (s.background b).proxy := by
  obtain ⟨count, resetTime, reading, dynamicSensors, h⟩ := background_eq s b
  rw [h]
  exact ⟨rfl, rfl, rfl, rfl, rfl⟩

theorem run_unchanged : ∀ (bs : List Background) (s : System),
    Unchanged s.proxy (run System.background s bs).proxy
  | [], s => .refl s.proxy
  | b :: bs, s => (background_unchanged s b).trans (run_unchanged bs (s.background b))

theorem background_dynamic (s : System) (b : Background) (k : Int32) :
    k ∈ (s.background b).proxy.mDynamicSensors ↔ (k ∈ s.proxy.mDynamicSensors ∧ ¬ Disconnects k b) ∨ Connects k b := by
  cases b with
  | destroyScopedWakelock i =>
    obtain ⟨count, h⟩ := background_destroy_eq s i
    rw [h]
    simp [Connects, Disconnects]
  | onDynamicSensorsConnected dynamicSensorsAdded subHalIndex =>
    obtain ⟨m, h, hmem⟩ := background_connected s dynamicSensorsAdded subHalIndex
    rw [h]
    simpa [Disconnects] using hmem k
  | onDynamicSensorsDisconnected dynamicSensorHandlesRemoved subHalIndex =>
    obtain ⟨m, h, hmem⟩ := background_disconnected s dynamicSensorHandlesRemoved subHalIndex
    rw [h]
    simpa [Connects] using hmem k
  | handleWakelocks now nowReset =>
    obtain ⟨count, resetTime, reading, h⟩ := check_eq s.proxy now nowReset
    rw [background_handleWakelocks, h]
    simp [Connects, Disconnects]

theorem run_dynamic (k : Int32) : ∀ (bs : List Background) (s : System),
    k ∈ (run System.background s bs).proxy.mDynamicSensors ↔
      (k ∈ s.proxy.mDynamicSensors ∧ ∀ b ∈ bs, ¬ Disconnects k b) ∨ StaysConnected k bs
  | [], s => by simp [StaysConnected]
  | b :: bs, s => by
    rw [Run.run_cons, run_dynamic k bs (s.background b), background_dynamic, List.forall_mem_cons, StaysConnected]
    tauto

theorem staysConnected_append (k : Int32) (bs : List Background) : ∀ as : List Background,
    StaysConnected k (as ++ bs) ↔ (StaysConnected k as ∧ ∀ b ∈ bs, ¬ Disconnects k b) ∨ StaysConnected k bs
  | [] => by simp [StaysConnected]
  | a :: as => by
    rw [List.cons_append, StaysConnected, StaysConnected, staysConnected_append k bs as, List.forall_mem_append]
    tauto

/-! ## References in the background -/

theorem background_wakelocks (s : System) (b : Background) : (s.background b).wakelocks = survive s.wakelocks b := by
  cases b with
  | destroyScopedWakelock i =>
    unfold survive
    cases hwl : s.wakelocks[i]? with
    | none =>
      rw [background_destroy_none hwl]
      exact (List.eraseIdx_of_length_le (List.getElem?_eq_none_iff.1 hwl)).symm
    | some wakelock =>
      rw [background_destroy hwl]
      rfl
  | _ => rfl

theorem run_wakelocks : ∀ (bs : List Background) (s : System),
    (run System.background s bs).wakelocks = run survive s.wakelocks bs
  | [], _ => rfl
  | b :: bs, s => by rw [Run.run_cons, Run.run_cons, run_wakelocks bs, background_wakelocks]

/-- Without threads a decrement returns at once. -/
theorem decrement_stopped {p : HalProxy} (hrun : p.mThreadsRun = false) (delta : Nat) (timeoutStart : Int) :
    p.decrementRefCountAndMaybeReleaseWakelock delta timeoutStart = (p, []) := by
  unfold HalProxy.decrementRefCountAndMaybeReleaseWakelock
  rw [if_neg (by rw [hrun]; exact Bool.false_ne_true)]

theorem destroy_stopped {p : HalProxy} (hrun : p.mThreadsRun = false) (wakelock : ScopedWakelock) :
    p.destroyScopedWakelock wakelock = (p, []) := by
  unfold HalProxy.destroyScopedWakelock
  rw [decrement_stopped hrun, ite_self]

/-- While the threads are stopped nothing is given back. -/
theorem background_stopped {s : System} (hrun : s.proxy.mThreadsRun = false) (b : Background) :
    (s.background b).proxy.mWakelockRefCount = s.proxy.mWakelockRefCount ∧
      (s.background b).proxy.mWakelockTimeoutResetTime = s.proxy.mWakelockTimeoutResetTime := by
  cases b with
  | destroyScopedWakelock i =>
    cases hwl : s.wakelocks[i]? with
    | none =>
      rw [background_destroy_none hwl]
      exact ⟨rfl, rfl⟩
    | some wakelock =>
      rw [background_destroy hwl]
      unfold System.destroy
      rw [destroy_stopped hrun]
      exact ⟨rfl, rfl⟩
  | onDynamicSensorsConnected dynamicSensorsAdded subHalIndex => exact ⟨rfl, rfl⟩
  | onDynamicSensorsDisconnected dynamicSensorHandlesRemoved subHalIndex =>
    obtain ⟨m, h, -⟩ := background_disconnected s dynamicSensorHandlesRemoved subHalIndex
    rw [h]
    exact ⟨rfl, rfl⟩
  | handleWakelocks now nowReset =>
    have hidle : s.proxy.handleWakelocksCheck now nowReset = (s.proxy, []) :=
      if_neg (fun h => by rw [hrun] at h; exact Bool.false_ne_true h.1)
    rw [background_handleWakelocks, hidle]
    exact ⟨rfl, rfl⟩

theorem run_stopped : ∀ (bs : List Background) {s : System}, s.proxy.mThreadsRun = false →
    (run System.background s bs).proxy.mWakelockRefCount = s.proxy.mWakelockRefCount ∧
      (run System.background s bs).proxy.mWakelockTimeoutResetTime = s.proxy.mWakelockTimeoutResetTime
  | [], _, _ => ⟨rfl, rfl⟩
  | b :: bs, s, hrun => by
    obtain ⟨hcount, hreset⟩ := background_stopped hrun b
    obtain ⟨hcount', hreset'⟩ := run_stopped bs ((background_unchanged s b).run.trans hrun)
    exact ⟨hcount'.trans hcount, hreset'.trans hreset⟩

theorem givesBack_eq {s : System} {i : Nat} {wakelock : ScopedWakelock} (h : s.wakelocks[i]? = some wakelock) :
    givesBack s.proxy.mWakelockTimeoutResetTime s.wakelocks (.destroyScopedWakelock i) =
      if wakelock.mLocked = true ∧ ¬ s.proxy.Stale wakelock.mCreatedAtTimeNs then 1 else 0 := by
  have hfresh : (wakelock.mCreatedAtTimeNs = -1 ∨ s.proxy.mWakelockTimeoutResetTime ≤ wakelock.mCreatedAtTimeNs) ↔
      ¬ s.proxy.Stale wakelock.mCreatedAtTimeNs := by
    unfold HalProxy.Stale
    omega
  simp only [givesBack, h, hfresh]

/-- While the threads run and the count is looked after, a pass that finds the timeout expired drops every reference and
any other step gives back what it has to. -/
theorem background_running {s : System} (hrun : s.proxy.mThreadsRun = true) (hread : s.proxy.mReadingWakelocks = false)
    (b : Background) :
    (s.background b).proxy.mReadingWakelocks = false ∧
    ((Expires s.proxy b ∧ (s.background b).proxy.mWakelockRefCount = 0) ∨
      ((Expires s.proxy b → s.proxy.mWakelockRefCount = 0) ∧
        (s.background b).proxy.mWakelockTimeoutResetTime = s.proxy.mWakelockTimeoutResetTime ∧
        (s.background b).proxy.mWakelockRefCount =
          s.proxy.mWakelockRefCount - givesBack s.proxy.mWakelockTimeoutResetTime s.wakelocks b)) := by
  cases b with
  | destroyScopedWakelock i =>
    cases hwl : s.wakelocks[i]? with
    | none =>
      have hnone : givesBack s.proxy.mWakelockTimeoutResetTime s.wakelocks (.destroyScopedWakelock i) = 0 := by
        simp only [givesBack, hwl]
      rw [background_destroy_none hwl, hnone]
      exact ⟨hread, Or.inr ⟨False.elim, rfl, rfl⟩⟩
    | some wakelock =>
      obtain ⟨count, heq⟩ := destroy_eq s.proxy wakelock
      have heq : (s.destroy i wakelock).proxy = { s.proxy with mWakelockRefCount := count } := heq
      have hrc : (s.destroy i wakelock).proxy.mWakelockRefCount = _ := HalProxy.destroy_refCount hrun wakelock
      rw [background_destroy hwl, hrc, givesBack_eq hwl, heq]
      refine ⟨hread, Or.inr ⟨False.elim, rfl, ?_⟩⟩
      split <;> rfl
  | onDynamicSensorsConnected dynamicSensorsAdded subHalIndex => exact ⟨hread, Or.inr ⟨False.elim, rfl, rfl⟩⟩
  | onDynamicSensorsDisconnected dynamicSensorHandlesRemoved subHalIndex =>
    obtain ⟨m, h, -⟩ := background_disconnected s dynamicSensorHandlesRemoved subHalIndex
    rw [h]
    exact ⟨hread, Or.inr ⟨False.elim, rfl, rfl⟩⟩
  | handleWakelocks now nowReset =>
    rw [background_handleWakelocks]
    refine ⟨rfl, ?_⟩
    by_cases hout : s.proxy.TimesOut now
    · rw [HalProxy.check_spec_of_timesOut hout]
      exact Or.inl ⟨hout.2.2.2, rfl⟩
    · obtain ⟨hcount, hsame⟩ := HalProxy.check_spec_of_not_timesOut hout nowReset
      refine Or.inr ⟨fun hexp => ?_, hsame.resetTime, hcount⟩
      by_contra hne
      exact hout ⟨hrun, hread, Nat.pos_of_ne_zero hne, hexp⟩

/-- **What is left of the references** while the threads run: none exactly if there was none, a pass finds the timeout
expired, or enough is given back. -/
theorem run_running : ∀ (bs : List Background) {s : System}, s.proxy.mThreadsRun = true →
    s.proxy.mReadingWakelocks = false →
    ((run System.background s bs).proxy.mWakelockRefCount = 0 ↔
      (∃ b ∈ bs, Expires s.proxy b) ∨
        s.proxy.mWakelockRefCount ≤ givenBack s.proxy.mWakelockTimeoutResetTime s.wakelocks bs)
  | [], s, _, _ => by simp [givenBack]
  | b :: bs, s, hrun, hread => by
    obtain ⟨hread', hstep⟩ := background_running hrun hread b
    have hsame := background_unchanged s b
    rw [Run.run_cons, run_running bs (hsame.run.trans hrun) hread', background_wakelocks]
    simp only [hsame.expires_iff, List.mem_cons, exists_eq_or_imp, givenBack]
    rcases hstep with ⟨hexp, hzero⟩ | ⟨hexp, hreset, hcount⟩
    · rw [hzero]
      exact iff_of_true (Or.inr (Nat.zero_le _)) (Or.inl (Or.inl hexp))
    · rw [hreset, hcount, Nat.sub_le_iff_le_add']
      constructor
      · exact fun h => h.elim (fun hm => Or.inl (Or.inr hm)) Or.inr
      · rintro ((hb | hm) | hle)
        · exact Or.inr (by rw [hexp hb]; exact Nat.zero_le _)
        · exact Or.inl hm
        · exact Or.inr hle

/-! ## The stop -/

/-- Both resets on the stop path only note the time. -/
theorem reset_stopped {p : HalProxy} (hrun : p.mThreadsRun = false) (now : Int) :
    p.resetSharedWakelock now = ({ p with mWakelockTimeoutResetTime := now }, []) := by
  unfold HalProxy.resetSharedWakelock
  rw [decrement_stopped hrun]

theorem read_stopped {p : HalProxy} (hrun : p.mThreadsRun = false) (n : Option UInt32) :
    (p.handleWakelocksRead n).1 = { p with mReadingWakelocks := false } := by
  rw [← read_none_eq]
  unfold HalProxy.handleWakelocksRead
  split
  · cases n with
    | none => rfl
    | some n => exact congrArg Prod.fst (decrement_stopped (p := { p with mReadingWakelocks := false }) hrun _ _)
  · rfl

theorem write_stopped {p : HalProxy} (hrun : p.mThreadsRun = false) (success : Bool) :
    ∃ m phase, (p.handlePendingWritesWrite success).1 = { p with mSensors := m, mPendingWrites := phase } := by
  rcases p.write_cases success with ⟨n, k, events, hwriting⟩ | ⟨-, hwrite⟩
  · obtain ⟨r, hr, hwrite⟩ := HalProxy.write_eq hwriting success
    rw [hwrite, hr]
    cases success with
    | true => exact ⟨_, _, rfl⟩
    | false =>
      have hrelease : ∃ m, (HalProxy.releaseDropped { p with mPendingWrites := .written k } events n).1 =
          { p with mSensors := m, mPendingWrites := .written k } := by
        unfold HalProxy.releaseDropped
        split
        · split
          · rw [HalProxy.countNumWakeupEvents_eq]
            exact ⟨_, congrArg Prod.fst (decrement_stopped
              (p := HalProxy.lookUpSensors { p with mPendingWrites := .written k } _) hrun _ _)⟩
          · exact ⟨p.mSensors, congrArg Prod.fst (decrement_stopped
              (p := { p with mPendingWrites := .written k }) hrun _ _)⟩
        · exact ⟨p.mSensors, rfl⟩
      obtain ⟨m', h⟩ := hrelease
      exact ⟨m', _, h⟩
  · rw [hwrite]
    exact ⟨_, _, rfl⟩

theorem commit_eq (p : HalProxy) :
    ∃ queue size phase, p.handlePendingWritesCommit =
      { p with
        mPendingWriteEventsQueue := queue, mSizePendingWriteEventsQueue := size, mPendingWrites := phase } := by
  unfold HalProxy.handlePendingWritesCommit
  split
  · exact ⟨_, _, _, rfl⟩
  · exact ⟨_, _, _, rfl⟩

/-- **The stop keeps the references.** -/
theorem stop_spec (s : System) (e : Surroundings) :
    (s.stop e).proxy.mThreadsRun = false ∧ (s.stop e).proxy.mWakelockRefCount = s.proxy.mWakelockRefCount ∧
    (s.stop e).proxy.mWakelockTimeoutStartTime = s.proxy.mWakelockTimeoutStartTime ∧
    (s.stop e).proxy.kWakelockTimeoutNs = s.proxy.kWakelockTimeoutNs ∧
    (s.stop e).proxy.mWakelockTimeoutResetTime = e.nowReset ∧ (s.stop e).wakelocks = s.wakelocks := by
  obtain ⟨m, phase, hwrite⟩ := write_stopped (p := { s.proxy with mThreadsRun := false }) rfl e.writeOk
  obtain ⟨queue, size, phase', hcommit⟩ :=
    commit_eq { s.proxy with mThreadsRun := false, mSensors := m, mPendingWrites := phase }
  have hread := read_stopped (p := { s.proxy with
    mThreadsRun := false, mSensors := m, mPendingWriteEventsQueue := queue, mSizePendingWriteEventsQueue := size
    mPendingWrites := phase' }) rfl e.numWakeLocksProcessed
  have hstop : (s.proxy.stopThreads e.writeOk e.numWakeLocksProcessed e.nowExit).1 =
      { s.proxy with
        mThreadsRun := false, mSensors := m, mPendingWriteEventsQueue := queue, mSizePendingWriteEventsQueue := size
        mPendingWrites := phase', mReadingWakelocks := false, mWakelockTimeoutResetTime := e.nowExit } := by
    show (HalProxy.resetSharedWakelock (HalProxy.handleWakelocksRead (HalProxy.handlePendingWritesCommit
      (HalProxy.handlePendingWritesWrite { s.proxy with mThreadsRun := false } e.writeOk).1)
        e.numWakeLocksProcessed).1 e.nowExit).1 = _
    rw [hwrite, hcommit, hread, reset_stopped rfl]
  have hproxy : (s.stop e).proxy =
      ((s.proxy.stopThreads e.writeOk e.numWakeLocksProcessed e.nowExit).1.resetSharedWakelock e.nowReset).1 := rfl
  rw [hproxy, hstop, reset_stopped rfl]
  exact ⟨rfl, rfl, rfl, rfl, rfl, rfl⟩

/-! ## The wake lock -/

theorem holdsLock_stop {s : System} (h : HoldsLock s) (e : Surroundings) : HoldsLock (s.stop e) := by
  have hwrite : Counts s.proxy (HalProxy.handlePendingWritesWrite { s.proxy with mThreadsRun := false } e.writeOk) :=
    counts_write { s.proxy with mThreadsRun := false } e.writeOk
  have hcommit : ∀ p : HalProxy, Counts p (p.handlePendingWritesCommit, []) :=
    fun p => .of_silent (HalProxy.commit_spec p).1 rfl
  have hstop : Counts s.proxy (s.proxy.stopThreads e.writeOk e.numWakeLocksProcessed e.nowExit) := by
    have hread := (hwrite.trans (hcommit _)).trans
      (counts_of_locking (HalProxy.locking_read _ e.numWakeLocksProcessed))
    have hall := hread.trans (counts_of_locking (HalProxy.locking_reset _ e.nowExit))
    rw [List.append_nil] at hall
    exact hall
  exact (counts_of_locking (HalProxy.locking_reset _ e.nowReset)).keepsLock _ (hstop.keepsLock s.calls h)

theorem reaches_background (s : System) (b : Background) : s.lock.Reaches (s.background b).lock := by
  cases b with
  | destroyScopedWakelock i => exact reaches_step s (.destroyScopedWakelock i) trivial
  | onDynamicSensorsConnected dynamicSensorsAdded subHalIndex => exact .refl _
  | onDynamicSensorsDisconnected dynamicSensorHandlesRemoved subHalIndex =>
    obtain ⟨m, hm, -⟩ := background_disconnected s dynamicSensorHandlesRemoved subHalIndex
    unfold System.lock
    rw [hm]
    exact .refl _
  | handleWakelocks now nowReset =>
    exact (reaches_step s (.handleWakelocksCheck now nowReset) trivial).trans
      (reaches_step _ (.handleWakelocksRead none) trivial)

theorem holdsLock_background {s : System} (h : HoldsLock s) (b : Background) : HoldsLock (s.background b) :=
  (reaches_background s b).held h

theorem holdsLock_run {s : System} (h : HoldsLock s) (bs : List Background) : HoldsLock (run System.background s bs) :=
  Run.run_of_inv System.background HoldsLock (fun _ b hs => holdsLock_background hs b) bs h

theorem holdsLock_initializeCommon {s : System} (h : HoldsLock s) (e : Surroundings) :
    HoldsLock (s.initializeCommon e).1 := by
  have hstopped := holdsLock_run (holdsLock_stop h e) e.whileStopping
  have hcleared := holdsLock_run hstopped e.whileDisabling
  have hrestarted := holdsLock_run (s := System.clear _) hcleared e.whileClearing
  exact holdsLock_run (s := System.restart _ e) hrestarted e.whileStarting

/-- **In every reachable state the system wake lock is held exactly while there are references.** -/
theorem Reachable.holdsLock {s : System} (h : Reachable s) : HoldsLock s := by
  induction h with
  | construct kWakelockTimeoutNs subHalList startTime resetTime =>
    unfold HoldsLock HalProxy.construct
    obtain ⟨m, index, h⟩ := ProxyRoute.initializeSensorList_fields _
    rw [h]
    exact iff_of_false (show ¬ none = some true by decide) (Nat.lt_irrefl 0)
  | step op _ hop ih => exact holdsLock_step _ op ih hop
  | background b _ ih => exact holdsLock_background ih b
  | @setOperationMode s mode results _ ih =>
    have hcount : (s.proxy.setOperationMode mode results).1.mWakelockRefCount = s.proxy.mWakelockRefCount := by
      unfold HalProxy.setOperationMode
      split <;> rfl
    unfold HoldsLock
    rw [hcount]
    exact ih
  | initializeCommon e _ ih => exact holdsLock_initializeCommon ih e

/-! ## A clean session -/

/-- The references of the old session are taken in the short time between the restart and the return. -/
def DropsReferences (s : System) (e : Surroundings) : Prop :=
  (∃ b ∈ e.whileStarting, Expires s.proxy b) ∨
    s.proxy.mWakelockRefCount ≤ givenBack e.nowReset
      (run survive s.wakelocks (e.whileStopping ++ e.whileDisabling ++ e.whileClearing)) e.whileStarting

/-- The state in which the new threads start has the references of the old session. -/
theorem restarted_spec (s : System) (e : Surroundings) {restarted : System}
    (h : restarted = (run System.background (run System.background (run System.background (s.stop e)
      e.whileStopping) e.whileDisabling).clear e.whileClearing).restart e) :
    restarted.proxy.mWakelockRefCount = s.proxy.mWakelockRefCount ∧
    restarted.proxy.mWakelockTimeoutResetTime = e.nowReset ∧
    restarted.wakelocks = run survive s.wakelocks (e.whileStopping ++ e.whileDisabling ++ e.whileClearing) ∧
    (∀ b, Expires restarted.proxy b ↔ Expires s.proxy b) ∧
    restarted.proxy.mPendingWriteEventsQueue = [] ∧ restarted.proxy.mSizePendingWriteEventsQueue = 0 ∧
    ∀ k, k ∈ restarted.proxy.mDynamicSensors ↔ StaysConnected k e.whileClearing := by
  obtain ⟨hrun, hcount, hstart, htimeout, hreset, hlocks⟩ := stop_spec s e
  generalize s.stop e = s0 at *
  have hstopping := run_unchanged e.whileStopping s0
  have hrun1 := hstopping.run.trans hrun
  obtain ⟨hcount1, hreset1⟩ := run_stopped e.whileStopping hrun
  have hlocks1 := run_wakelocks e.whileStopping s0
  generalize run System.background s0 e.whileStopping = s1 at *
  have hdisabling := run_unchanged e.whileDisabling s1
  have hrun2 := hdisabling.run.trans hrun1
  obtain ⟨hcount2, hreset2⟩ := run_stopped e.whileDisabling hrun1
  have hlocks2 := run_wakelocks e.whileDisabling s1
  generalize run System.background s1 e.whileDisabling = s2 at *
  have hclearing := run_unchanged e.whileClearing s2.clear
  obtain ⟨hcount3, hreset3⟩ := run_stopped e.whileClearing (s := s2.clear) hrun2
  have hlocks3 := run_wakelocks e.whileClearing s2.clear
  have hdynamic := fun k => run_dynamic k e.whileClearing s2.clear
  generalize run System.background s2.clear e.whileClearing = s3 at *
  subst h
  refine ⟨?_, ?_, ?_, fun b => ?_, hclearing.queue, hclearing.size, fun k => ?_⟩
  · exact hcount3.trans (hcount2.trans (hcount1.trans hcount))
  · exact hreset3.trans (hreset2.trans (hreset1.trans hreset))
  · rw [Run.run_append, Run.run_append, ← hlocks, ← hlocks1, ← hlocks2]
    exact hlocks3
  · have hall : ∀ b, Expires s3.proxy b ↔ Expires s0.proxy b := fun b =>
      (hclearing.expires_iff b).trans ((hdisabling.expires_iff b).trans (hstopping.expires_iff b))
    refine (hall b).trans ?_
    cases b with
    | handleWakelocks now nowReset =>
      unfold Expires HalProxy.sharedWakelockDidTimeout
      rw [hstart, htimeout]
    | _ => exact Iff.rfl
  · have hempty : k ∉ s2.clear.proxy.mDynamicSensors := Std.ExtTreeMap.not_mem_empty
    refine (hdynamic k).trans ?_
    simp only [hempty, false_and, false_or]

/-- **`initializeCommon` starts a clean session exactly if** the references of the old session are taken after the
restart and no dynamic sensor that is connected after the clear stays. -/
theorem cleanSession_iff {s : System} (h : Reachable s) (e : Surroundings) :
    CleanSession (s.initializeCommon e).1 ↔
      DropsReferences s e ∧ ∀ k, ¬ StaysConnected k (e.whileClearing ++ e.whileStarting) := by
  have hholds := holdsLock_initializeCommon h.holdsLock e
  generalize hr : (run System.background (run System.background (run System.background (s.stop e)
    e.whileStopping) e.whileDisabling).clear e.whileClearing).restart e = restarted
  obtain ⟨hcount, hreset, hlocks, hexpires, hqueue, hsize, hdynamic⟩ := restarted_spec s e hr.symm
  have hfinal : (s.initializeCommon e).1 =
      { run System.background restarted e.whileStarting with
        proxy := { (run System.background restarted e.whileStarting).proxy with mCurrentOperationMode := .normal } } := by
    rw [← hr]
    rfl
  have hsame := run_unchanged e.whileStarting restarted
  have hzero := run_running e.whileStarting (s := restarted) (by rw [← hr]; rfl) (by rw [← hr]; rfl)
  have hleft := fun k => run_dynamic k e.whileStarting restarted
  rw [hcount, hreset, hlocks] at hzero
  simp only [hexpires] at hzero
  rw [hfinal] at hholds ⊢
  generalize run System.background restarted e.whileStarting = started at *
  have hstays : (∀ k, ¬ StaysConnected k (e.whileClearing ++ e.whileStarting)) ↔
      started.proxy.mDynamicSensors.isEmpty = true := by
    rw [Std.ExtTreeMap.isEmpty_iff, Std.ExtTreeMap.eq_empty_iff_forall_not_mem]
    refine forall_congr' fun k => not_congr ?_
    rw [hleft, hdynamic, staysConnected_append]
  rw [hstays]
  constructor
  · exact fun hclean => ⟨hzero.1 hclean.refCount, hclean.dynamicSensors⟩
  · rintro ⟨hdrops, hempty⟩
    have hnone := hzero.2 hdrops
    refine ⟨hsame.queue.trans hqueue, hsame.size.trans hsize, hempty, rfl, hnone, fun hheld => ?_⟩
    exact Nat.lt_irrefl 0 (hnone ▸ hholds.1 hheld)

/-! ### Two calls -/

/-- A sub-HAL holds a locked wakelock. -/
def wakelockOutstanding : System :=
  (System.mk (HalProxy.construct 1000000000 [⟨[⟨1, SensorFlagBits.wakeUp⟩]⟩] 0 0) [] []).step
    (.createScopedWakelock true 5)

theorem reachable_wakelockOutstanding : Reachable wakelockOutstanding := .step _ (.construct _ _ _ _) trivial

/-- A call in which all goes well, `whileStarting` in the background of its last part. -/
def calm (now : Int) (whileStarting : List Background) : Surroundings where
  writeOk := true
  numWakeLocksProcessed := none
  nowExit := now
  nowReset := now
  eventQueueSize := 8
  eventFlagOk := true
  wakelockFlagOk := true
  hasCallback := true
  results := [.ok]
  whileStopping := []
  whileDisabling := []
  whileClearing := []
  whileStarting := whileStarting

theorem cleanSession_timeoutInTime : CleanSession
    (wakelockOutstanding.initializeCommon (calm 2000000000 [.handleWakelocks 2000000000 2000000000])).1 := by
  refine (cleanSession_iff reachable_wakelockOutstanding _).2
    ⟨Or.inl ⟨.handleWakelocks 2000000000 2000000000, List.mem_cons_self, by unfold Expires; decide⟩, fun k hk => ?_⟩
  exact hk.elim (fun hc => hc.1) id

/-- The reference of the wakelock survives both resets. -/
theorem not_cleanSession_wakelockOutstanding : Reachable wakelockOutstanding ∧
    ¬ CleanSession (wakelockOutstanding.initializeCommon (calm 10 [])).1 := by
  refine ⟨reachable_wakelockOutstanding, fun h => ?_⟩
  exact absurd h.refCount (by decide)

end ProxyInit
end MultiHal
end MemsHal
