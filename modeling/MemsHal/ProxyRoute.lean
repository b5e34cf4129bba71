import MemsHal.ProxyFifo
import MemsHal.TaggedWord
/-!
# ProxyRoute — sensor handles of `HalProxy`

The upper byte of a framework handle is the index of the sub-HAL.  It is put there by `setSubHalIndex`, which is written
down twice, and taken off by a mask and by an arithmetic shift.  The shift reads the indices from 128 on as negative
numbers, and those are the sub-HALs that cannot be called.
-/
namespace MemsHal
namespace MultiHal

/-! ## The encoding -/

def kBitsAfterSubHalIndex : Int32 := 24

def kSensorHandleSubHalIndexMask : Int32 := 0xFF000000

/-- `static_cast<size_t>`, where `size_t` has 64 bits. -/
def toSizeT (x : Int32) : Nat := x.toInt64.toUInt64.toNat

def setSubHalIndex (sensorHandle : Int32) (subHalIndex : Nat) : Int32 :=
  sensorHandle ||| (Int32.ofNat subHalIndex <<< kBitsAfterSubHalIndex)

def extractSubHalIndex (sensorHandle : Int32) : Nat := toSizeT (sensorHandle >>> kBitsAfterSubHalIndex)

def clearSubHalIndex (sensorHandle : Int32) : Int32 := sensorHandle &&& ~~~kSensorHandleSubHalIndexMask

def subHalIndexIsClear (sensorHandle : Int32) : Bool := sensorHandle &&& kSensorHandleSubHalIndexMask = 0

/-- The second `setSubHalIndex`, in `HalProxyCallback.cpp`. -/
def HalProxyCallback.setSubHalIndex (sensorHandle : Int32) (subHalIndex : Nat) : Int32 :=
  sensorHandle ||| (Int32.ofNat subHalIndex <<< kBitsAfterSubHalIndex)

theorem toBitVec_setSubHalIndex (h : Int32) (i : Nat) :
    (setSubHalIndex h i).toBitVec = TaggedWord.pack 24 i h.toBitVec := by
  unfold setSubHalIndex TaggedWord.pack
  rw [Int32.toBitVec_or, Int32.toBitVec_shiftLeft]
  rfl

theorem toBitVec_clearSubHalIndex (h : Int32) : (clearSubHalIndex h).toBitVec = TaggedWord.payload 24 h.toBitVec := by
  unfold clearSubHalIndex TaggedWord.payload
  rw [Int32.toBitVec_and]
  rfl

theorem toNat_of_clear {h : Int32} (hc : subHalIndexIsClear h = true) : h.toBitVec.toNat < 2 ^ 24 := by
  have hz : h &&& kSensorHandleSubHalIndexMask = 0 := of_decide_eq_true hc
  have hupper : h.toBitVec &&& 0xFF000000#32 = 0#32 := congrArg Int32.toBitVec hz
  have hpayload : TaggedWord.payload 24 h.toBitVec = h.toBitVec := by
    calc h.toBitVec &&& 0xFFFFFF#32
        = (h.toBitVec &&& 0xFF000000#32) ||| (h.toBitVec &&& 0xFFFFFF#32) := by rw [hupper, BitVec.zero_or]
      _ = h.toBitVec &&& BitVec.allOnes 32 := (BitVec.and_or_distrib_left ..).symm
      _ = h.toBitVec := BitVec.and_allOnes
  rw [← hpayload, TaggedWord.toNat_payload (by decide)]
  exact Nat.mod_lt _ (by decide)

/-- `static_cast<size_t>` sends a negative number to the other end of the range. -/
theorem toSizeT_eq (x : Int32) : (toSizeT x : Int) = if 0 ≤ x.toInt then x.toInt else x.toInt + 2 ^ 64 := by
  have hint : x.toInt64.toBitVec.toInt = x.toInt := Int32.toInt_toInt64 x
  have hlt := x.toInt64.toBitVec.isLt
  rw [BitVec.toInt_eq_toNat_cond] at hint
  show (x.toInt64.toBitVec.toNat : Int) = _
  split at hint <;> split <;> omega

theorem ofNat_toSizeT (x : Int32) : Int32.ofNat (toSizeT x) = x := by
  calc Int32.ofNat (toSizeT x) = x.toInt64.toInt32 := by
        apply Int32.toBitVec_inj.1
        show BitVec.ofNat 32 x.toInt64.toBitVec.toNat = x.toInt64.toBitVec.signExtend 32
        rw [BitVec.ofNat_toNat, BitVec.signExtend_eq_setWidth_of_le _ (by decide)]
    _ = x := Int32.toInt32_toInt64 x

section Encoding

variable {h h' : Int32} {i j : Nat}

theorem clear_set (hc : subHalIndexIsClear h = true) (i : Nat) : clearSubHalIndex (setSubHalIndex h i) = h := by
  apply Int32.toBitVec_inj.1
  rw [toBitVec_clearSubHalIndex, toBitVec_setSubHalIndex]
  exact TaggedWord.payload_pack (by decide) (toNat_of_clear hc) i

theorem set_inj (hc : subHalIndexIsClear h = true) (hc' : subHalIndexIsClear h' = true) (hi : i < 256) (hj : j < 256)
    (heq : setSubHalIndex h i = setSubHalIndex h' j) : i = j ∧ h = h' := by
  have hbits := congrArg Int32.toBitVec heq
  rw [toBitVec_setSubHalIndex, toBitVec_setSubHalIndex] at hbits
  obtain ⟨hij, hhh⟩ := TaggedWord.pack_inj (by decide) (toNat_of_clear hc) (toNat_of_clear hc') hi hj hbits
  exact ⟨hij, Int32.toBitVec_inj.1 hhh⟩

/-- **The index is read back right below 128**; from there on it is out of every range. -/
theorem extract_set (hc : subHalIndexIsClear h = true) (hi : i < 256) :
    extractSubHalIndex (setSubHalIndex h i) = if i < 128 then i else i + (2 ^ 64 - 256) := by
  have hshift : (setSubHalIndex h i >>> kBitsAfterSubHalIndex).toInt = if i < 128 then (i : Int) else i - 256 := by
    have htag := TaggedWord.toInt_sshiftRight_pack (by decide) (toNat_of_clear hc) hi
    rw [← toBitVec_setSubHalIndex] at htag
    exact htag
  have hsize := toSizeT_eq (setSubHalIndex h i >>> kBitsAfterSubHalIndex)
  rw [hshift] at hsize
  unfold extractSubHalIndex
  by_cases hlt : i < 128
  · rw [if_pos hlt] at hsize ⊢
    split at hsize <;> omega
  · rw [if_neg hlt] at hsize ⊢
    split at hsize <;> omega

end Encoding

/-! ## The sensor list -/

def SensorFlagBits.maskDirectReport : UInt32 := 0x380

def SensorFlagBits.maskDirectChannel : UInt32 := 0xC00

namespace HalProxy

/-- Direct channels are left to the first sub-HAL with a sensor that supports them. -/
def setDirectChannelFlags (p : HalProxy) (sensorInfo : SensorInfo) (subHalIndex : Nat) : HalProxy × SensorInfo :=
  let mask := SensorFlagBits.maskDirectReport ||| SensorFlagBits.maskDirectChannel
  let sensorSupportsDirectChannel := sensorInfo.flags &&& mask ≠ 0
  if p.mDirectChannelSubHal = none ∧ sensorSupportsDirectChannel then
    ({ p with mDirectChannelSubHal := some subHalIndex }, sensorInfo)
  else if p.mDirectChannelSubHal ≠ none ∧ p.mDirectChannelSubHal ≠ some subHalIndex then
    (p, { sensorInfo with flags := sensorInfo.flags &&& ~~~mask })
  else (p, sensorInfo)

/-- The body of the loop of `initializeSensorList`. -/
def loadSensor (p : HalProxy) (subHalIndex : Nat) (sensor : SensorInfo) : HalProxy :=
  if subHalIndexIsClear sensor.sensorHandle then
    let sensor := { sensor with sensorHandle := setSubHalIndex sensor.sensorHandle subHalIndex }
    let (p, sensor) := p.setDirectChannelFlags sensor subHalIndex
    { p with mSensors := p.mSensors.insert sensor.sensorHandle sensor }
  else p

def initializeSensorList (p : HalProxy) : HalProxy :=
  p.mSubHalList.zipIdx.foldl (fun p (subHal, subHalIndex) =>
    subHal.sensors.foldl (fun p sensor => p.loadSensor subHalIndex sensor) p) p

end HalProxy

/-! ## Requests -/

inductive Result
  | ok
  | permissionDenied
  | noMemory
  | badValue
  | invalidOperation
  deriving DecidableEq, Repr

inductive SubHalCall
  | activate (sensorHandle : Int32) (enabled : Bool)
  | batch (sensorHandle : Int32) (samplingPeriodNs maxReportLatencyNs : Int64)
  | flush (sensorHandle : Int32)
  | injectSensorData (event : Event)
  deriving DecidableEq, Repr

namespace HalProxy

def isSubHalIndexValid (p : HalProxy) (sensorHandle : Int32) : Bool :=
  extractSubHalIndex sensorHandle < p.mSubHalList.length

/-- What the requests for one sensor have in common: the call goes to a sub-HAL, whose result is the result, or the
request fails. -/
def forward (p : HalProxy) (sensorHandle : Int32) (call : Int32 → SubHalCall) : Except Result (Nat × SubHalCall) :=
  if p.isSubHalIndexValid sensorHandle then
    .ok (extractSubHalIndex sensorHandle, call (clearSubHalIndex sensorHandle))
  else .error .badValue

def activate (p : HalProxy) (sensorHandle : Int32) (enabled : Bool) : Except Result (Nat × SubHalCall) :=
  p.forward sensorHandle (.activate · enabled)

def batch (p : HalProxy) (sensorHandle : Int32) (samplingPeriodNs maxReportLatencyNs : Int64) :
    Except Result (Nat × SubHalCall) :=
  p.forward sensorHandle (.batch · samplingPeriodNs maxReportLatencyNs)

def flush (p : HalProxy) (sensorHandle : Int32) : Except Result (Nat × SubHalCall) := p.forward sensorHandle .flush

def injectSensorData (p : HalProxy) (event : Event) : Except Result (Nat × SubHalCall) :=
  if p.mCurrentOperationMode = .normal ∧ event.sensorType ≠ .additionalInfo then .error .badValue
  else p.forward event.sensorHandle (fun sensorHandle => .injectSensorData { event with sensorHandle := sensorHandle })

end HalProxy

/-! ## Events of a sub-HAL -/

/-- An event under its framework handle; the second word of a `dynamic` payload is a handle as well. -/
def processEvent (mSubHalIndex : Int32) (event : Event) : Event where
  timestamp := event.timestamp
  sensorHandle := HalProxyCallback.setSubHalIndex event.sensorHandle (toSizeT mSubHalIndex)
  sensorType := event.sensorType
  u :=
    if event.sensorType = .dynamicSensorMeta then
      event.u.set 1 (HalProxyCallback.setSubHalIndex event.u[1] (toSizeT mSubHalIndex))
    else event.u

namespace HalProxy

def processEvents (p : HalProxy) (mSubHalIndex : Int32) (events : List Event) : HalProxy × List Event × Nat :=
  events.foldl
    (fun (p, eventsOut, numWakeupEvents) event =>
      let event := processEvent mSubHalIndex event
      (p.lookUpSensor event.sensorHandle, eventsOut ++ [event],
        if isWakeUp p.mSensors event then numWakeupEvents + 1 else numWakeupEvents))
    (p, [], 0)

/-- `HalProxyCallbackBase::postEvents`. -/
def postEvents (p : HalProxy) (mSubHalIndex : Int32) (events : List Event) (wakelock : ScopedWakelock) (now : Int)
    (availableToWrite : Nat) (writeOk : Bool) : HalProxy × List ProxyCall :=
  if events = [] ∨ p.mThreadsRun = false then (p, [])
  else
    let (p, processedEvents, numWakeupEvents) := p.processEvents mSubHalIndex events
    p.postEventsToMessageQueue processedEvents numWakeupEvents wakelock now availableToWrite writeOk

end HalProxy

namespace ProxyRoute

open HalProxy (isWakeUp kMaxSizePendingWriteEventsQueue)
open ProxyFifo (fates)

/-! ## Faithful routing -/

/-- Sub-HAL `i` reports a sensor under the handle `h`, whose upper byte is clear. -/
def Reported (p : HalProxy) (i : Nat) (h : Int32) : Prop :=
  subHalIndexIsClear h = true ∧ ∃ subHal, p.mSubHalList[i]? = some subHal ∧ ∃ sensor ∈ subHal.sensors, sensor.sensorHandle = h

/-- `q` is the proxy at a later time; the list of sub-HALs never changes. -/
def Later (p q : HalProxy) : Prop := q.mSubHalList = p.mSubHalList

/-- The events that a step of the proxy has taken over: it wrote or refused them, or they wait. -/
def handedOver (p : HalProxy) (r : HalProxy × List ProxyCall) : List Event :=
  (fates r.2).flatMap Prod.snd ++
    (r.1.mPendingWriteEventsQueue.drop p.mPendingWriteEventsQueue.length).flatMap Prod.fst

/-- **Handles are routed faithfully**, with `setSubHalIndex` for the framework handle of a sensor.
* A reported sensor is listed under its framework handle, and different sensors have different ones.
* Whatever the state of the proxy, a request for a framework handle goes to the sub-HAL that reported the sensor, with
  the handle it was reported under.
* The events of a batch are taken over under their framework handles, all of them and in order. -/
structure Faithful (p : HalProxy) : Prop where
  listed : ∀ i h, Reported p i h → ∃ sensor, p.initializeSensorList.mSensors[setSubHalIndex h i]? = some sensor ∧
    sensor.sensorHandle = setSubHalIndex h i
  injective : ∀ i j h h', i < p.mSubHalList.length → j < p.mSubHalList.length → subHalIndexIsClear h = true →
    subHalIndexIsClear h' = true → setSubHalIndex h i = setSubHalIndex h' j → i = j ∧ h = h'
  activate : ∀ q i h, Later p q → Reported p i h → ∀ enabled,
    q.activate (setSubHalIndex h i) enabled = .ok (i, .activate h enabled)
  batch : ∀ q i h, Later p q → Reported p i h → ∀ samplingPeriodNs maxReportLatencyNs,
    q.batch (setSubHalIndex h i) samplingPeriodNs maxReportLatencyNs =
      .ok (i, .batch h samplingPeriodNs maxReportLatencyNs)
  flush : ∀ q i h, Later p q → Reported p i h → q.flush (setSubHalIndex h i) = .ok (i, .flush h)
  injectSensorData : ∀ q i event, Later p q → Reported p i event.sensorHandle →
    ¬ (q.mCurrentOperationMode = .normal ∧ event.sensorType ≠ .additionalInfo) →
    q.injectSensorData { event with sensorHandle := setSubHalIndex event.sensorHandle i } =
      .ok (i, .injectSensorData event)
  events : ∀ q i, Later p q → i < p.mSubHalList.length → q.mThreadsRun = true →
    ∀ events wakelock now availableToWrite writeOk,
      (handedOver q (q.postEvents (Int32.ofNat i) events wakelock now availableToWrite writeOk)).map
        Event.sensorHandle = events.map (fun event => setSubHalIndex event.sensorHandle i)

/-! ### Events -/

theorem callback_setSubHalIndex (h : Int32) (i : Nat) :
    HalProxyCallback.setSubHalIndex h (toSizeT (Int32.ofNat i)) = setSubHalIndex h i := by
  unfold HalProxyCallback.setSubHalIndex setSubHalIndex
  rw [ofNat_toSizeT]

theorem process_foldl (wakeUp : Event → Bool) (mSubHalIndex : Int32) :
    ∀ (events : List Event) (out : List Event) (n : Nat),
      events.foldl (fun (eventsOut, numWakeupEvents) event =>
          (eventsOut ++ [processEvent mSubHalIndex event],
            if wakeUp (processEvent mSubHalIndex event) then numWakeupEvents + 1 else numWakeupEvents)) (out, n) =
        (out ++ events.map (processEvent mSubHalIndex), n + (events.map (processEvent mSubHalIndex)).countP wakeUp)
  | [], out, n => by rw [List.map_nil, List.append_nil]; rfl
  | event :: events, out, n => by
    rw [List.foldl_cons, process_foldl wakeUp mSubHalIndex events, List.map_cons, List.append_assoc, List.countP_cons]
    refine Prod.ext rfl ?_
    dsimp only
    split <;> omega

/-- **A processed batch comes with its number of wake-up events.** -/
theorem processEvents_eq (p : HalProxy) (mSubHalIndex : Int32) (events : List Event) :
    p.processEvents mSubHalIndex events =
      (p.lookUpSensors (events.map (processEvent mSubHalIndex)), events.map (processEvent mSubHalIndex),
        (events.map (processEvent mSubHalIndex)).countP (isWakeUp p.mSensors)) := by
  have hloop := HalProxy.foldl_lookUp (processEvent mSubHalIndex) (fun wakeUp (out : List Event × Nat) event =>
    (out.1 ++ [processEvent mSubHalIndex event],
      if wakeUp (processEvent mSubHalIndex event) then out.2 + 1 else out.2)) events p ([], 0)
  rw [process_foldl, List.nil_append, Nat.zero_add] at hloop
  exact hloop

theorem queue_push (p : HalProxy) (left : List Event) (n : Nat) :
    (p.pushPending left n).1.mPendingWriteEventsQueue = p.mPendingWriteEventsQueue ++
      (if left = [] then []
      else if p.mSizePendingWriteEventsQueue + left.length ≤ kMaxSizePendingWriteEventsQueue then [(left, n)]
      else []) := by
  unfold HalProxy.pushPending
  split
  · exact (List.append_nil _).symm
  · split
    · rfl
    · exact (List.append_nil _).symm

/-- **A batch is taken over whole.** -/
theorem handedOver_post (p : HalProxy) (events : List Event) (n : Nat) (wakelock : ScopedWakelock) (now : Int)
    (availableToWrite : Nat) (writeOk : Bool) :
    handedOver p (p.postEventsToMessageQueue events n wakelock now availableToWrite writeOk) = events := by
  have hquiet := ProxyFifo.quiet_of_locking (HalProxy.locking_acquire p n wakelock (fun _ => trivial) now)
  unfold HalProxy.postEventsToMessageQueue
  generalize p.acquireForEvents n wakelock now = r at hquiet
  obtain ⟨q, calls⟩ := r
  generalize hk : q.numWritten events availableToWrite writeOk = k
  have hdirect := (ProxyFifo.directWrite_spec q events availableToWrite writeOk).1
  rw [hk] at hdirect
  have hqueue : (q.pushPending (events.drop k) n).1.mPendingWriteEventsQueue.drop
      p.mPendingWriteEventsQueue.length =
        (if events.drop k = [] then []
        else if q.mSizePendingWriteEventsQueue + (events.drop k).length ≤ kMaxSizePendingWriteEventsQueue then
          [(events.drop k, n)]
        else []) := by
    rw [queue_push, show q.mPendingWriteEventsQueue = p.mPendingWriteEventsQueue from hquiet.same.queue,
      List.drop_left]
  have hwritten : (if k = 0 then [] else [(LossyFifo.Fate.delivered, events.take k)]).flatMap Prod.snd =
      events.take k := by
    split
    · rename_i hzero
      rw [hzero]
      rfl
    · exact List.append_nil _
  dsimp only
  rw [hk]
  show (fates (calls ++ q.directWrite events availableToWrite writeOk ++ (q.pushPending (events.drop k) n).2)).flatMap
    Prod.snd ++ ((q.pushPending (events.drop k) n).1.mPendingWriteEventsQueue.drop
      p.mPendingWriteEventsQueue.length).flatMap Prod.fst = events
  rw [hqueue, ProxyFifo.fates_append, ProxyFifo.fates_append, hquiet.fates, hdirect, ProxyFifo.fates_push,
    List.nil_append, List.flatMap_append, hwritten]
  by_cases hleft : events.drop k = []
  · rw [if_pos hleft, if_pos hleft]
    have hsplit := List.take_append_drop k events
    rw [hleft] at hsplit
    simpa using hsplit
  · rw [if_neg hleft, if_neg hleft]
    split
    · simp
    · simp

theorem handedOver_nil (p : HalProxy) : handedOver p (p, []) = [] := by
  unfold handedOver
  rw [List.drop_length]
  rfl

/-- **A batch of sub-HAL `i` is taken over under framework handles.** -/
theorem handles_postEvents {q : HalProxy} (hrun : q.mThreadsRun = true) (i : Nat) (events : List Event)
    (wakelock : ScopedWakelock) (now : Int) (availableToWrite : Nat) (writeOk : Bool) :
    (handedOver q (q.postEvents (Int32.ofNat i) events wakelock now availableToWrite writeOk)).map
      Event.sensorHandle = events.map (fun event => setSubHalIndex event.sensorHandle i) := by
  unfold HalProxy.postEvents
  by_cases hempty : events = []
  · rw [if_pos (Or.inl hempty), handedOver_nil, hempty]
    rfl
  · rw [if_neg (fun hn => hn.elim hempty (fun hstop => by rw [hrun] at hstop; cases hstop)), processEvents_eq]
    have hpost := handedOver_post (q.lookUpSensors (events.map (processEvent (Int32.ofNat i))))
      (events.map (processEvent (Int32.ofNat i)))
      ((events.map (processEvent (Int32.ofNat i))).countP (isWakeUp q.mSensors)) wakelock now availableToWrite writeOk
    refine (congrArg (List.map Event.sensorHandle) hpost).trans ?_
    rw [List.map_map]
    exact List.map_congr_left (fun event _ => callback_setSubHalIndex event.sensorHandle i)

/-! ### The sensor list -/

/-- There is a sensor listed under `k`, and it knows its handle. -/
def Listed (k : Int32) (p : HalProxy) : Prop := ∃ sensor, p.mSensors[k]? = some sensor ∧ sensor.sensorHandle = k

theorem setDirectChannelFlags_spec (p : HalProxy) (sensorInfo : SensorInfo) (subHalIndex : Nat) :
    (p.setDirectChannelFlags sensorInfo subHalIndex).1.mSensors = p.mSensors ∧
    (p.setDirectChannelFlags sensorInfo subHalIndex).2.sensorHandle = sensorInfo.sensorHandle := by
  unfold HalProxy.setDirectChannelFlags
  dsimp only
  split
  · exact ⟨rfl, rfl⟩
  · split <;> exact ⟨rfl, rfl⟩

theorem loadSensor_eq (p : HalProxy) (subHalIndex : Nat) {sensor : SensorInfo}
    (hc : subHalIndexIsClear sensor.sensorHandle = true) :
    ∃ sensor', (p.loadSensor subHalIndex sensor).mSensors = p.mSensors.insert sensor'.sensorHandle sensor' ∧
      sensor'.sensorHandle = setSubHalIndex sensor.sensorHandle subHalIndex := by
  obtain ⟨hm, hh⟩ := setDirectChannelFlags_spec p
    { sensor with sensorHandle := setSubHalIndex sensor.sensorHandle subHalIndex } subHalIndex
  refine ⟨_, ?_, hh⟩
  unfold HalProxy.loadSensor
  rw [if_pos hc]
  show (HalProxy.setDirectChannelFlags p _ subHalIndex).1.mSensors.insert _ _ = _
  rw [hm]

theorem listed_load_self (p : HalProxy) (subHalIndex : Nat) {sensor : SensorInfo}
    (hc : subHalIndexIsClear sensor.sensorHandle = true) :
    Listed (setSubHalIndex sensor.sensorHandle subHalIndex) (p.loadSensor subHalIndex sensor) := by
  obtain ⟨sensor', hm, hh⟩ := loadSensor_eq p subHalIndex hc
  refine ⟨sensor', ?_, hh⟩
  rw [hm, hh]
  exact Std.ExtTreeMap.getElem?_insert_self

theorem listed_load (k : Int32) (p : HalProxy) (subHalIndex : Nat) (sensor : SensorInfo) (h : Listed k p) :
    Listed k (p.loadSensor subHalIndex sensor) := by
  by_cases hc : subHalIndexIsClear sensor.sensorHandle = true
  · obtain ⟨sensor', hm, -⟩ := loadSensor_eq p subHalIndex hc
    obtain ⟨old, hold, hk⟩ := h
    by_cases hsame : sensor'.sensorHandle = k
    · refine ⟨sensor', ?_, hsame⟩
      rw [hm, hsame]
      exact Std.ExtTreeMap.getElem?_insert_self
    · refine ⟨old, ?_, hk⟩
      rw [hm, Std.ExtTreeMap.getElem?_insert, if_neg (by simpa using hsame)]
      exact hold
  · unfold HalProxy.loadSensor
    rw [if_neg hc]
    exact h

theorem loadSensor_fields (p : HalProxy) (subHalIndex : Nat) (sensor : SensorInfo) :
    ∃ m index, p.loadSensor subHalIndex sensor = { p with mSensors := m, mDirectChannelSubHal := index } := by
  have hflags : ∀ sensorInfo, ∃ index, (p.setDirectChannelFlags sensorInfo subHalIndex).1 =
      { p with mDirectChannelSubHal := index } := by
    intro sensorInfo
    unfold HalProxy.setDirectChannelFlags
    dsimp only
    split
    · exact ⟨_, rfl⟩
    · split <;> exact ⟨_, rfl⟩
  unfold HalProxy.loadSensor
  split
  · obtain ⟨index, h⟩ := hflags { sensor with sensorHandle := setSubHalIndex sensor.sensorHandle subHalIndex }
    dsimp only
    rw [h]
    exact ⟨_, index, rfl⟩
  · exact ⟨_, _, rfl⟩

/-- Loading the sensors changes their list and the sub-HAL of the direct channels, nothing else. -/
theorem initializeSensorList_fields (p : HalProxy) :
    ∃ m index, p.initializeSensorList = { p with mSensors := m, mDirectChannelSubHal := index } := by
  let Loaded (q : HalProxy) : Prop := ∃ m index, q = { p with mSensors := m, mDirectChannelSubHal := index }
  have hload : ∀ (q : HalProxy) (subHalIndex : Nat) (sensor : SensorInfo), Loaded q →
      Loaded (q.loadSensor subHalIndex sensor) := by
    rintro _ subHalIndex sensor ⟨m, index, rfl⟩
    exact loadSensor_fields _ subHalIndex sensor
  exact Run.run_of_inv (fun (p : HalProxy) (e : SubHal × Nat) =>
      e.1.sensors.foldl (fun p sensor => p.loadSensor e.2 sensor) p) Loaded
    (fun q e hq => Run.run_of_inv (fun (p : HalProxy) sensor => p.loadSensor e.2 sensor) Loaded
      (fun q' sensor => hload q' e.2 sensor) e.1.sensors hq) p.mSubHalList.zipIdx (s := p) ⟨_, _, rfl⟩

/-- **Every reported sensor is listed**, since sensors that come later only overwrite their own entry. -/
theorem listed_initialize {p : HalProxy} {i : Nat} {h : Int32} (hr : Reported p i h) :
    Listed (setSubHalIndex h i) p.initializeSensorList := by
  obtain ⟨hc, subHal, hsub, sensor, hm, rfl⟩ := hr
  refine Run.run_of_mem (fun (p : HalProxy) (e : SubHal × Nat) =>
      e.1.sensors.foldl (fun p sensor => p.loadSensor e.2 sensor) p)
    (Listed _) (fun q e hq => ?_) (fun q => ?_) p (List.mk_mem_zipIdx_iff_getElem?.2 hsub)
  · exact Run.run_of_inv (fun (p : HalProxy) sensor => p.loadSensor e.2 sensor) (Listed _)
      (fun q' sensor' => listed_load _ q' e.2 sensor') e.1.sensors hq
  · exact Run.run_of_mem (fun (p : HalProxy) sensor => p.loadSensor i sensor) (Listed _)
      (fun q' sensor' => listed_load _ q' i sensor') (fun q' => listed_load_self q' i hc) q hm

/-! ### Requests -/

/-- **Routing below index 128** ends at the sub-HAL that reported the sensor. -/
theorem forward_of_lt {q : HalProxy} {i : Nat} {h : Int32} (hc : subHalIndexIsClear h = true) (hi : i < 128)
    (hlen : i < q.mSubHalList.length) (call : Int32 → SubHalCall) :
    q.forward (setSubHalIndex h i) call = .ok (i, call h) := by
  have hindex : extractSubHalIndex (setSubHalIndex h i) = i := by rw [extract_set hc (by omega), if_pos hi]
  have hvalid : q.isSubHalIndexValid (setSubHalIndex h i) = true := by
    unfold HalProxy.isSubHalIndexValid
    rw [hindex]
    exact decide_eq_true hlen
  unfold HalProxy.forward
  rw [if_pos hvalid, hindex, clear_set hc]

/-- **From index 128 on** every request fails. -/
theorem forward_of_ge {q : HalProxy} {i : Nat} {h : Int32} (hc : subHalIndexIsClear h = true) (hi : 128 ≤ i)
    (hsize : i < 256) (hlen : q.mSubHalList.length ≤ 256) (call : Int32 → SubHalCall) :
    q.forward (setSubHalIndex h i) call = .error .badValue := by
  have hindex : extractSubHalIndex (setSubHalIndex h i) = i + (2 ^ 64 - 256) := by
    rw [extract_set hc hsize, if_neg (Nat.not_lt.2 hi)]
  have hvalid : ¬ q.isSubHalIndexValid (setSubHalIndex h i) = true := by
    unfold HalProxy.isSubHalIndexValid
    rw [hindex, decide_eq_true_iff]
    omega
  unfold HalProxy.forward
  rw [if_neg hvalid]

theorem Reported.lt_length {p : HalProxy} {i : Nat} {h : Int32} (hr : Reported p i h) : i < p.mSubHalList.length := by
  obtain ⟨-, subHal, hsub, -⟩ := hr
  exact (List.getElem?_eq_some_iff.1 hsub).1

/-- **Routing is faithful exactly if only sub-HALs below index 128 report sensors** with a clear upper byte. -/
theorem faithful_iff (p : HalProxy) (hsize : p.mSubHalList.length ≤ 256) :
    Faithful p ↔ ∀ i h, Reported p i h → i < 128 := by
  constructor
  · intro hf i h hr
    by_contra hi
    have hlt := hr.lt_length
    have hok := hf.flush p i h rfl hr
    have hfail := forward_of_ge (q := p) hr.1 (Nat.not_lt.1 hi) (by omega) hsize .flush
    rw [HalProxy.flush, hfail] at hok
    cases hok
  · intro hbelow
    have hroute : ∀ q i h, Later p q → Reported p i h → ∀ call : Int32 → SubHalCall,
        q.forward (setSubHalIndex h i) call = .ok (i, call h) := by
      intro q i h hq hr call
      have hlen := hr.lt_length
      rw [← hq] at hlen
      exact forward_of_lt hr.1 (hbelow i h hr) hlen call
    refine ⟨fun i h hr => listed_initialize hr, fun i j h h' hi hj hc hc' heq => ?_, fun q i h hq hr enabled => ?_,
      fun q i h hq hr samplingPeriodNs maxReportLatencyNs => ?_, fun q i h hq hr => ?_,
      fun q i event hq hr hmode => ?_, fun q i hq hi hrun events wakelock now availableToWrite writeOk => ?_⟩
    · exact set_inj hc hc' (by omega) (by omega) heq
    · exact hroute q i h hq hr _
    · exact hroute q i h hq hr _
    · exact hroute q i h hq hr _
    · unfold HalProxy.injectSensorData
      rw [if_neg hmode]
      exact hroute q i event.sensorHandle hq hr _
    · exact handles_postEvents hrun i events wakelock now availableToWrite writeOk

/-- Two sub-HALs whose sensors have the same handles. -/
def twoSubHals : HalProxy :=
  { wakeUpProxy with
    mSubHalList := [⟨[⟨1, SensorFlagBits.wakeUp⟩, ⟨2, 0⟩]⟩, ⟨[⟨1, 0⟩, ⟨2, SensorFlagBits.maskDirectReport⟩]⟩] }

theorem faithful_twoSubHals : Faithful twoSubHals :=
  (faithful_iff twoSubHals (by decide)).2 (fun _ _ hr => Nat.lt_trans hr.lt_length (by decide))

/-- The last of 129 sub-HALs reports a sensor. -/
def manySubHals : HalProxy :=
  { wakeUpProxy with mSubHalList := List.replicate 128 ⟨[]⟩ ++ [⟨[⟨1, SensorFlagBits.wakeUp⟩]⟩] }

/-- The handle of that sensor is negative, and a request for it fails. -/
theorem not_faithful_manySubHals : manySubHals.mSubHalList.length ≤ 256 ∧ ¬ Faithful manySubHals := by
  have hlen : manySubHals.mSubHalList.length = 129 := by simp [manySubHals]
  refine ⟨by omega, fun hf => ?_⟩
  have hreported : Reported manySubHals 128 1 :=
    ⟨by decide, ⟨[⟨1, SensorFlagBits.wakeUp⟩]⟩, rfl, ⟨1, SensorFlagBits.wakeUp⟩, List.mem_cons_self, rfl⟩
  have hok := hf.activate manySubHals 128 1 rfl hreported true
  have hfail : manySubHals.activate (setSubHalIndex 1 128) true = .error .badValue :=
    forward_of_ge (by decide) (by decide) (by decide) (by omega) _
  rw [hfail] at hok
  cases hok

end ProxyRoute
end MultiHal
end MemsHal
