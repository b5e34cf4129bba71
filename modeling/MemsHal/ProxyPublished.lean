import MemsHal.AidlEvent
import MemsHal.ProxyDirect
/-!
# ProxyPublished — the sensor lists that `HalProxy` publishes

`getSensorInfo` and `countNumWakeupEvents` look sensors up in the map that the framework is shown.  A lookup adds an
entry for a handle that is not there, and the handles of dynamic sensors are not.  `postEvents` does not run under one
mutex: processing a batch and handing it over are two steps.
-/
namespace MemsHal
namespace MultiHal

open Aidl (Float32Word)

/-! ## The lists -/

/-- The fields of `SensorInfo` that the proxy passes on without using them. -/
structure SensorTraits where
  name : String
  vendor : String
  version : Int32
  type : Int32
  typeAsString : String
  maxRange : Float32Word
  resolution : Float32Word
  power : Float32Word
  minDelay : Int32
  fifoReservedEventCount : UInt32
  fifoMaxEventCount : UInt32
  requiredPermission : String
  maxDelay : Int32

/-- `V2_1::SensorInfo`. -/
structure V2_1SensorInfo extends SensorInfo, SensorTraits

structure AidlSensorInfo where
  sensorHandle : Int32
  name : String
  vendor : String
  version : Int32
  type : Int32
  typeAsString : String
  maxRange : Float32Word
  resolution : Float32Word
  power : Float32Word
  minDelayUs : Int32
  fifoReservedEventCount : Int32
  fifoMaxEventCount : Int32
  requiredPermission : String
  maxDelayUs : Int32
  flags : Int32

def V2_1SensorType.hingeAngle : Int32 := 36

def convertSensorInfo (sensorInfo : V2_1SensorInfo) : AidlSensorInfo where
  sensorHandle := sensorInfo.sensorHandle
  name := sensorInfo.name
  vendor := sensorInfo.vendor
  version := sensorInfo.version
  type := sensorInfo.type
  typeAsString := sensorInfo.typeAsString
  maxRange := sensorInfo.maxRange
  resolution := sensorInfo.resolution
  power := sensorInfo.power
  minDelayUs := sensorInfo.minDelay
  fifoReservedEventCount := sensorInfo.fifoReservedEventCount.toInt32
  fifoMaxEventCount := sensorInfo.fifoMaxEventCount.toInt32
  requiredPermission := sensorInfo.requiredPermission
  maxDelayUs := sensorInfo.maxDelay
  flags := sensorInfo.flags.toInt32

namespace HalProxy

/-- `traits` has the fields that the map of the model leaves out, by key: a loaded entry is not written again. -/
def getSensorsList_2_1 (p : HalProxy) (traits : Int32 → SensorTraits) : List V2_1SensorInfo :=
  p.mSensors.toList.map (fun (sensorHandle, sensor) => ⟨sensor, traits sensorHandle⟩)

/-- `convertToOldSensorInfo` is the framework's. -/
def getSensorsList {α : Type} (p : HalProxy) (traits : Int32 → SensorTraits)
    (convertToOldSensorInfo : V2_1SensorInfo → α) : List α :=
  ((p.getSensorsList_2_1 traits).filter (·.type ≠ V2_1SensorType.hingeAngle)).map convertToOldSensorInfo

end HalProxy

def HalProxyAidl.getSensorsList (p : HalProxy) (traits : Int32 → SensorTraits) : List AidlSensorInfo :=
  (p.getSensorsList_2_1 traits).map convertSensorInfo

/-! ## Posts -/

/-- A proxy and the batches its sub-HALs have processed and not handed over, with their numbers of wake-up events. -/
structure Posting where
  system : System
  processed : List (List Event × Nat)

/-- The two halves of `HalProxyCallbackBase::postEvents`, the second for the `batch`-th batch with the `i`-th wakelock,
and whatever else happens to the proxy. -/
inductive PostingOp
  | processEvents (mSubHalIndex : Int32) (events : List Event)
  | postEventsToMessageQueue (batch i : Nat) (now : Int) (availableToWrite : Nat) (writeOk : Bool)
  | session (op : SessionOp) (quiet : op.posted = [])

namespace Posting

def step (s : Posting) : PostingOp → Posting
  | .processEvents mSubHalIndex events =>
    if events = [] ∨ s.system.proxy.mThreadsRun = false then s
    else
      let (proxy, batch) := s.system.proxy.processEvents mSubHalIndex events
      ⟨{ s.system with proxy := proxy }, s.processed ++ [batch]⟩
  | .postEventsToMessageQueue batch i now availableToWrite writeOk =>
    match s.processed[batch]? with
    | some (events, numWakeupEvents) =>
      ⟨s.system.step (.postEventsToMessageQueue events numWakeupEvents i now availableToWrite writeOk),
        s.processed.eraseIdx batch⟩
    | none => s
  | .session op _ => { s with system := s.system.session op }

/-- The proxy after its constructor. -/
def start (kWakelockTimeoutNs : Int) (subHalList : List SubHal) (startTime resetTime : Int) : Posting :=
  ⟨System.start kWakelockTimeoutNs subHalList startTime resetTime, []⟩

end Posting

namespace ProxyPublished

open ProxyDirect (Own)
open ProxyFrame (Frame)

/-- **The published lists are those of `loaded`.** -/
structure Published (loaded p : HalProxy) : Prop where
  mSensors : p.mSensors = loaded.mSensors
  getSensorsList_2_1 : ∀ traits, p.getSensorsList_2_1 traits = loaded.getSensorsList_2_1 traits
  getSensorsList : ∀ {α : Type} traits (convertToOldSensorInfo : V2_1SensorInfo → α),
    p.getSensorsList traits convertToOldSensorInfo = loaded.getSensorsList traits convertToOldSensorInfo
  aidl : ∀ traits, HalProxyAidl.getSensorsList p traits = HalProxyAidl.getSensorsList loaded traits

/-- Events that are processed are of sensors that the sub-HALs reported when they were loaded. -/
def Known (subHalList : List SubHal) (s : Posting) : PostingOp → Prop
  | .processEvents mSubHalIndex events => s.system.proxy.mThreadsRun = true →
    ∀ event ∈ events, ∃ i h, Own subHalList i h (processEvent mSubHalIndex event).sensorHandle
  | _ => True

/-- Every event that is under way or waits is of a listed sensor. -/
structure Inv (s : Posting) : Prop where
  pending : s.system.proxy.Lists s.system.proxy.pendingEvents
  processed : ∀ batch ∈ s.processed, s.system.proxy.Lists batch.1

theorem published_iff (loaded p : HalProxy) : Published loaded p ↔ p.mSensors = loaded.mSensors := by
  refine ⟨Published.mSensors, fun h => ?_⟩
  have hlist : ∀ traits, p.getSensorsList_2_1 traits = loaded.getSensorsList_2_1 traits := by
    intro traits
    unfold HalProxy.getSensorsList_2_1
    rw [h]
  refine ⟨h, hlist, fun traits convertToOldSensorInfo => ?_, fun traits => ?_⟩
  · unfold HalProxy.getSensorsList
    rw [hlist]
  · unfold HalProxyAidl.getSensorsList
    rw [hlist]

/-- **The two halves make up `postEvents`.** -/
theorem halves_eq_postEvents {s : Posting} (hnone : s.processed = []) {events : List Event} (hne : events ≠ [])
    (hrun : s.system.proxy.mThreadsRun = true) {i : Nat} {wakelock : ScopedWakelock}
    (hwl : s.system.wakelocks[i]? = some wakelock) (mSubHalIndex : Int32) (now : Int) (availableToWrite : Nat)
    (writeOk : Bool) :
    (s.step (.processEvents mSubHalIndex events)).step
        (.postEventsToMessageQueue 0 i now availableToWrite writeOk) =
      ⟨(s.system.after (s.system.proxy.postEvents mSubHalIndex events wakelock now availableToWrite writeOk)).destroy i
        wakelock, []⟩ := by
  have hstart : ¬ (events = [] ∨ s.system.proxy.mThreadsRun = false) := by simp [hne, hrun]
  unfold HalProxy.postEvents
  rw [if_neg hstart]
  simp only [Posting.step]
  rw [if_neg hstart, hnone]
  simp only [List.nil_append, List.getElem?_cons_zero, List.eraseIdx_cons_zero]
  have hpost := System.step_post (s := { s.system with proxy := (s.system.proxy.processEvents mSubHalIndex events).1 })
    hwl (s.system.proxy.processEvents mSubHalIndex events).2.1 (s.system.proxy.processEvents mSubHalIndex events).2.2 now
    availableToWrite writeOk
  exact congrArg (Posting.mk · []) hpost

/-! ## The sensors that are loaded -/

theorem mem_loadSensor (k : Int32) (subHalIndex : Nat) (sensor : SensorInfo) (p : HalProxy) :
    k ∈ (p.loadSensor subHalIndex sensor).mSensors ↔ k ∈ p.mSensors ∨
      (subHalIndexIsClear sensor.sensorHandle = true ∧ setSubHalIndex sensor.sensorHandle subHalIndex = k) := by
  by_cases hc : subHalIndexIsClear sensor.sensorHandle = true
  · obtain ⟨sensor', hm, hh⟩ := ProxyRoute.loadSensor_eq p subHalIndex hc
    rw [hm, hh, Std.ExtTreeMap.mem_insert, Std.LawfulEqCmp.compare_eq_iff_eq, and_iff_right hc, or_comm]
  · unfold HalProxy.loadSensor
    rw [if_neg hc]
    exact (or_iff_left (fun h => hc h.1)).symm

theorem mem_loadSensors (k : Int32) (subHalIndex : Nat) : ∀ (sensors : List SensorInfo) (p : HalProxy),
    k ∈ (sensors.foldl (fun p sensor => p.loadSensor subHalIndex sensor) p).mSensors ↔ k ∈ p.mSensors ∨
      ∃ sensor ∈ sensors, subHalIndexIsClear sensor.sensorHandle = true ∧
        setSubHalIndex sensor.sensorHandle subHalIndex = k
  | [], p => by simp
  | sensor :: sensors, p => by
    rw [List.foldl_cons, mem_loadSensors k subHalIndex sensors, mem_loadSensor, or_assoc, List.exists_mem_cons_iff]

theorem mem_loadSubHals (k : Int32) : ∀ (entries : List (SubHal × Nat)) (p : HalProxy),
    k ∈ (entries.foldl (fun p (subHal, subHalIndex) =>
        subHal.sensors.foldl (fun p sensor => p.loadSensor subHalIndex sensor) p) p).mSensors ↔ k ∈ p.mSensors ∨
      ∃ entry ∈ entries, ∃ sensor ∈ entry.1.sensors, subHalIndexIsClear sensor.sensorHandle = true ∧
        setSubHalIndex sensor.sensorHandle entry.2 = k
  | [], p => by simp
  | entry :: entries, p => by
    rw [List.foldl_cons, mem_loadSubHals k entries, mem_loadSensors, or_assoc, List.exists_mem_cons_iff]

/-- **The sensors in the map are those that the sub-HALs reported.** -/
theorem mem_construct_iff (kWakelockTimeoutNs : Int) (subHalList : List SubHal) (startTime resetTime : Int) (k : Int32) :
    k ∈ (HalProxy.construct kWakelockTimeoutNs subHalList startTime resetTime).mSensors ↔
      ∃ i h, Own subHalList i h k := by
  refine (mem_loadSubHals k subHalList.zipIdx _).trans ?_
  constructor
  · rintro (hnone | ⟨⟨subHal, i⟩, hentry, sensor, hm, hc, hset⟩)
    · exact absurd hnone Std.ExtTreeMap.not_mem_empty
    · exact ⟨i, _, hc, ⟨subHal, List.mk_mem_zipIdx_iff_getElem?.1 hentry, List.mem_map_of_mem hm⟩, hset⟩
  · rintro ⟨i, h, hc, ⟨subHal, hsub, hm⟩, hset⟩
    obtain ⟨sensor, hs, rfl⟩ := List.mem_map.1 hm
    exact Or.inr ⟨(subHal, i), List.mk_mem_zipIdx_iff_getElem?.2 hsub, sensor, hs, hc, hset⟩

/-! ## Steps -/

/-- Where the events that come in are of listed sensors, a step keeps the list. -/
theorem mSensors_of_frame {posted : List Event} {p q : HalProxy} (hframe : Frame posted p q)
    (hlists : p.Lists (posted ++ p.pendingEvents)) : q.mSensors = p.mSensors ∧ q.Lists q.pendingEvents := by
  obtain ⟨looked, hlooked, hq⟩ := hframe.sensors
  have hsame : q.mSensors = p.mSensors :=
    hq.trans ((ProxyFrame.lookUpSensors_eq_self_iff p looked).2 (fun event hm => hlists event (hlooked hm)))
  refine ⟨hsame, fun event hm => ?_⟩
  rw [hsame]
  exact hlists event (hframe.pending hm)

/-- **Nothing but the processing of events changes the list.** -/
theorem mSensors_step {s : Posting} (h : Inv s) {op : PostingOp}
    (hop : ∀ mSubHalIndex events, op ≠ .processEvents mSubHalIndex events) :
    (s.step op).system.proxy.mSensors = s.system.proxy.mSensors ∧ Inv (s.step op) := by
  cases op with
  | processEvents mSubHalIndex events => exact absurd rfl (hop mSubHalIndex events)
  | postEventsToMessageQueue batch i now availableToWrite writeOk =>
    cases hbatch : s.processed[batch]? with
    | none =>
      have hsame : s.step (.postEventsToMessageQueue batch i now availableToWrite writeOk) = s := by
        simp only [Posting.step, hbatch]
      rw [hsame]
      exact ⟨rfl, h⟩
    | some entry =>
      obtain ⟨events, numWakeupEvents⟩ := entry
      have hstep : s.step (.postEventsToMessageQueue batch i now availableToWrite writeOk) =
          ⟨s.system.step (.postEventsToMessageQueue events numWakeupEvents i now availableToWrite writeOk),
            s.processed.eraseIdx batch⟩ := by
        simp only [Posting.step, hbatch]
      have hevents : s.system.proxy.Lists events := h.processed _ (List.mem_of_getElem? hbatch)
      obtain ⟨hsame, hpending⟩ := mSensors_of_frame
        (ProxyFrame.frame_step s.system (.postEventsToMessageQueue events numWakeupEvents i now availableToWrite writeOk))
        (fun event hm => (List.mem_append.1 hm).elim (hevents event) (h.pending event))
      rw [hstep]
      refine ⟨hsame, hpending, fun other hm event he => ?_⟩
      rw [hsame]
      exact h.processed other (List.mem_of_mem_eraseIdx hm) event he
  | session op quiet =>
    obtain ⟨q, mode, hframe, heq⟩ := ProxyFrame.frame_session s.system op
    rw [quiet] at hframe
    obtain ⟨hsame, hpending⟩ := mSensors_of_frame hframe h.pending
    have hsensors : (s.step (.session op quiet)).system.proxy.mSensors = s.system.proxy.mSensors := by
      show (s.system.session op).proxy.mSensors = _
      rw [heq]
      exact hsame
    refine ⟨hsensors, ?_, fun batch hm event he => ?_⟩
    · show (s.system.session op).proxy.Lists (s.system.session op).proxy.pendingEvents
      rw [heq]
      exact hpending
    · rw [hsensors]
      exact h.processed batch hm event he

/-- What the processing of events leaves. -/
theorem step_processEvents (s : Posting) (mSubHalIndex : Int32) {events : List Event}
    (hstart : events ≠ [] ∧ s.system.proxy.mThreadsRun = true) :
    ∃ numWakeupEvents, s.step (.processEvents mSubHalIndex events) =
      ⟨{ s.system with proxy := s.system.proxy.lookUpSensors (events.map (processEvent mSubHalIndex)) },
        s.processed ++ [(events.map (processEvent mSubHalIndex), numWakeupEvents)]⟩ := by
  simp only [Posting.step]
  rw [if_neg (by simp [hstart]), ProxyRoute.processEvents_eq]
  exact ⟨_, rfl⟩

theorem step_processEvents_nop (s : Posting) (mSubHalIndex : Int32) {events : List Event}
    (hstart : events = [] ∨ s.system.proxy.mThreadsRun = false) :
    s.step (.processEvents mSubHalIndex events) = s := by
  simp only [Posting.step]
  rw [if_pos hstart]

theorem inv_step (s : Posting) (op : PostingOp) (h : Inv s) : Inv (s.step op) := by
  cases op with
  | processEvents mSubHalIndex events =>
    by_cases hstart : events ≠ [] ∧ s.system.proxy.mThreadsRun = true
    · obtain ⟨n, hstep⟩ := step_processEvents s mSubHalIndex hstart
      have hkeep : ∀ {more : List Event}, s.system.proxy.Lists more →
          (s.system.proxy.lookUpSensors (events.map (processEvent mSubHalIndex))).Lists more :=
        fun hmore event hm => (StdMap.mem_subscripts ..).2 (Or.inl (hmore event hm))
      rw [hstep]
      refine ⟨hkeep h.pending, fun batch hm => ?_⟩
      rcases List.mem_append.1 hm with hm | hm
      · exact hkeep (h.processed batch hm)
      · rw [List.mem_singleton.1 hm]
        exact fun event he => (StdMap.mem_subscripts ..).2 (Or.inr (List.mem_map_of_mem he))
    · rw [step_processEvents_nop s mSubHalIndex (by simpa [or_iff_not_imp_left] using hstart)]
      exact h
  | postEventsToMessageQueue batch i now availableToWrite writeOk => exact (mSensors_step h (by simp)).2
  | session op quiet => exact (mSensors_step h (by simp)).2

/-- **A step keeps the loaded list exactly if the events it processes are of loaded sensors.** -/
theorem mSensors_step_iff {loaded : HalProxy} {subHalList : List SubHal}
    (hloaded : ∀ k : Int32, k ∈ loaded.mSensors ↔ ∃ i h, Own subHalList i h k) (s : Posting) (op : PostingOp)
    (h : Inv s) (hsame : s.system.proxy.mSensors = loaded.mSensors) :
    (s.step op).system.proxy.mSensors = loaded.mSensors ↔ Known subHalList s op := by
  cases op with
  | processEvents mSubHalIndex events =>
    by_cases hstart : events ≠ [] ∧ s.system.proxy.mThreadsRun = true
    · obtain ⟨n, hstep⟩ := step_processEvents s mSubHalIndex hstart
      have hlists := ProxyFrame.lookUpSensors_eq_self_iff s.system.proxy (events.map (processEvent mSubHalIndex))
      unfold HalProxy.Lists at hlists
      rw [List.forall_mem_map] at hlists
      rw [hstep, ← hsame]
      refine hlists.trans ?_
      simp only [hsame, hloaded]
      exact ⟨fun hk _ => hk, fun hk => hk hstart.2⟩
    · rw [step_processEvents_nop s mSubHalIndex (by simpa [or_iff_not_imp_left] using hstart)]
      refine iff_of_true hsame (fun hrun event hm => ?_)
      exact absurd ⟨List.ne_nil_of_mem hm, hrun⟩ hstart
  | postEventsToMessageQueue batch i now availableToWrite writeOk =>
    exact iff_of_true ((mSensors_step h (by simp)).1.trans hsame) trivial
  | session op quiet => exact iff_of_true ((mSensors_step h (by simp)).1.trans hsame) trivial

/-! ## Runs -/

theorem inv_start (kWakelockTimeoutNs : Int) (subHalList : List SubHal) (startTime resetTime : Int) :
    Inv (Posting.start kWakelockTimeoutNs subHalList startTime resetTime) := by
  have hpending : (System.start kWakelockTimeoutNs subHalList startTime resetTime).proxy.pendingEvents = [] := by
    unfold System.start HalProxy.construct HalProxy.pendingEvents
    obtain ⟨m, index, h⟩ := ProxyRoute.initializeSensorList_fields _
    rw [h]
    rfl
  refine ⟨fun event hm => ?_, fun batch hm => ?_⟩
  · have hnone : event ∈ (System.start kWakelockTimeoutNs subHalList startTime resetTime).proxy.pendingEvents := hm
    rw [hpending] at hnone
    cases hnone
  · cases hm

/-- **The published lists are the loaded ones in every state of a run exactly if every event that is processed is of a
loaded sensor.** -/
theorem along_published_iff (kWakelockTimeoutNs : Int) (subHalList : List SubHal) (startTime resetTime : Int)
    (ops : List PostingOp) :
    let start := Posting.start kWakelockTimeoutNs subHalList startTime resetTime
    Run.Along Posting.step (fun s => Published start.system.proxy s.system.proxy) start ops ↔
      Run.Steps Posting.step (Known subHalList) start ops := by
  intro start
  have hloaded := mem_construct_iff kWakelockTimeoutNs subHalList startTime resetTime
  have hstep : ∀ s op, Inv s → Published start.system.proxy s.system.proxy →
      (Published start.system.proxy (s.step op).system.proxy ↔ Known subHalList s op) := by
    intro s op h hp
    rw [published_iff]
    exact mSensors_step_iff hloaded s op h hp.mSensors
  exact Run.along_iff_steps' inv_step hstep ops (inv_start ..) ((published_iff ..).2 rfl)

/-- **A dynamic sensor gets published**: the first event of one that the only sub-HAL connects is processed. -/
theorem not_along_published_dynamicSensor :
    let start := Posting.start 1000000000 wakeUpProxy.mSubHalList 0 0
    let ops := [.session (.background (.onDynamicSensorsConnected [⟨5, 0⟩] 0)) rfl,
      .processEvents 0 [{ wakeUpEvent 1 with sensorHandle := 5 }]]
    ¬ Run.Along Posting.step (fun s => Published start.system.proxy s.system.proxy) start ops := by
  intro start ops halong
  have hsame := halong.last.mSensors
  have hnew : (5 : Int32) ∈ (Run.run Posting.step start ops).system.proxy.mSensors := by decide
  have hold : (5 : Int32) ∉ start.system.proxy.mSensors := by decide
  rw [hsame] at hnew
  exact hold hnew

end ProxyPublished
end MultiHal
end MemsHal
