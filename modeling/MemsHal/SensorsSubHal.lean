import MemsHal.HalInit
import MemsHal.ProxyDirect
/-!
# SensorsSubHal — `multihal/common/{SensorsSubHal,Sensor}.cpp`: a Bosch sub-HAL

`ISensorsSubHalBase` keeps the same sensors and direct channels as the stand-alone HAL and hands its posts to the
proxy's callback.  A post is what the proxy is told of it: the sensor, the number of events, and whether its
`ScopedWakelock` is created locked.  `sim_exec` is the simulation: a call leaves both HALs with the same sensors,
hardware calls and tables, and the answers agree.
-/
namespace MemsHal
namespace MultiHal

open Aidl (Float32Word HalSensor SensorDescription DirectChannelBase SharedMemInfo Ashmem
  AdditionalInfo SensorsHalAidl HalOp ScopedAStatus)

/-- A post of a sub-HAL; all its events are of one sensor. -/
structure Post where
  sensorHandle : Int32
  numEvents : Nat
  wakeup : Bool
  deriving DecidableEq, Repr

/-! ## The additional-info report -/

/-- An index outside the array fails. -/
def setSensorPlacementData (values : Vector Float32Word 14) (index : Int) (value : Float32Word) :
    Option (Vector Float32Word 14) :=
  if index < 0 ∨ 14 ≤ index then none else some (values.setIfInBounds index.toNat value)

/-- What `getSensorPlacement` puts where. -/
def placementEntries (sensor : HalSensor) : Option (List (Int × Float32Word)) :=
  match sensor.getLocation, sensor.getOrientation with
  | some (location :: _), some (orientation :: _) =>
    some ([(3, location.x), (7, location.y), (11, location.z)] ++ HalSensor.rotationEntries orientation)
  | _, _ => none

/-- The frames that `getSensorPlacement` appends: none without a full configuration, nor if an index fails. -/
def getSensorPlacement (sensor : HalSensor) : List AdditionalInfo :=
  match placementEntries sensor with
  | some entries =>
    match entries.foldlM (fun values entry => setSensorPlacementData values entry.1 entry.2) (Vector.replicate 14 0) with
    | some values => [{ type := Aidl.AdditionalInfoType.sensorPlacement, serial := 0, payload := .dataFloat values }]
    | none        => []
  | none => []

def additionalInfoFrames (sensor : HalSensor) (temperature : Option Float32Word) : List AdditionalInfo :=
  [{ type := Aidl.AdditionalInfoType.begin, serial := 0 }] ++ getSensorPlacement sensor ++
    HalSensor.getSensorTemperature temperature ++ [{ type := Aidl.AdditionalInfoType.end, serial := 0 }]

def sendAdditionalInfoReport (sensor : HalSensor) (temperature : Option Float32Word) : Post :=
  ⟨sensor.description.sensorHandle, (additionalInfoFrames sensor temperature).length, sensor.isWakeUpSensor⟩

/-! ## The state and the calls -/

structure ISensorsSubHalBase where
  mReportLatencyNs : StdMap Int32 Int64
  mSensors : StdMap Int32 HalSensor
  mDirectChannels : StdMap Int32 DirectChannelBase
  mNextChannelHandle : Int32

/-- The rate that a level stands for; `none` is a level that the sensor does not support or that does not exist. -/
def rateNsOf (rate : RateLevel) (maxRate : Int32) : Option Int64 :=
  match rate with
  | .stop     => some 0
  | .normal   => some 20000000
  | .fast     => if maxRate < 2 then none else some 5000000
  | .veryFast => if maxRate < 3 then none else some 1250000
  | .other _  => none

namespace ISensorsSubHalBase

def construct (descriptions : List SensorDescription) : ISensorsSubHalBase where
  mReportLatencyNs := ∅
  mSensors := descriptions.foldl (fun mSensors d => mSensors.insert d.sensorHandle (.fresh d)) ∅
  mDirectChannels := ∅
  mNextChannelHandle := 1

def getSensorsList (b : ISensorsSubHalBase) : List SensorInfo :=
  b.mSensors.toList.map fun sensor =>
    ⟨sensor.2.description.sensorHandle, sensor.2.description.flags.toUInt32⟩

def setOperationMode (mode : OperationMode) : Result := if mode = .normal then .ok else .badValue

/-- The report goes to `mCallback`, which `initialize` sets; before that there is nothing to post to. -/
def activate (b : ISensorsSubHalBase) (sensorHandle : Int32) (enabled : Bool) (temperature : Option Float32Word) :
    ISensorsSubHalBase × Result × List Post :=
  match b.mSensors[sensorHandle]? with
  | some sensor =>
    ({ b with mSensors := (Aidl.Sensors.execAt b.mSensors sensorHandle (.activate enabled)).1 }, .ok,
      if .sendAdditionalInfoReport ∈ (sensor.history.sensor.activate enabled).2 then
        [sendAdditionalInfoReport sensor temperature]
      else [])
  | none => (b, .badValue, [])

/-- The latency that `batch` passes on. -/
def usedLatency (b : ISensorsSubHalBase) (mReportLatencyNs : StdMap Int32 Int64) (sensorHandle : Int32)
    (maxReportLatencyNs : Int64) : Int64 :=
  b.mSensors.toList.foldl (fun usedLatency sensor =>
    if sensor.2.history.sensor.mIsEnabled then
      match mReportLatencyNs[sensorHandle]? with
      | some latency => min usedLatency latency
      | none         => usedLatency
    else usedLatency) maxReportLatencyNs

def batch (b : ISensorsSubHalBase) (sensorHandle : Int32) (samplingPeriodNs maxReportLatencyNs : Int64) :
    ISensorsSubHalBase × Result :=
  let mReportLatencyNs :=
    if 0 < maxReportLatencyNs then b.mReportLatencyNs.insert sensorHandle maxReportLatencyNs else b.mReportLatencyNs
  let usedLatency :=
    if 0 < maxReportLatencyNs then b.usedLatency mReportLatencyNs sensorHandle maxReportLatencyNs
    else maxReportLatencyNs
  let b := { b with mReportLatencyNs := mReportLatencyNs }
  match b.mSensors[sensorHandle]? with
  | some _ =>
    ({ b with mSensors := (Aidl.Sensors.execAt b.mSensors sensorHandle (.batch samplingPeriodNs usedLatency)).1 }, .ok)
  | none => (b, .badValue)

def flush (b : ISensorsSubHalBase) (sensorHandle : Int32) (temperature : Option Float32Word) : Result × List Post :=
  match b.mSensors[sensorHandle]? with
  | some sensor =>
    if sensor.history.sensor.mIsEnabled = false ∨ sensor.hasFlag Aidl.SensorFlagBits.oneShotMode then (.badValue, [])
    else
      (.ok, [⟨sensor.description.sensorHandle, 1, sensor.isWakeUpSensor⟩, sendAdditionalInfoReport sensor temperature])
  | none => (.badValue, [])

/-- `Sensor::injectEvent` refuses every event. -/
def injectSensorData (b : ISensorsSubHalBase) (sensorHandle : Int32) : Result :=
  match b.mSensors[sensorHandle]? with
  | some _ => .invalidOperation
  | none   => .badValue

/-- What the system says of the shared memory, and whether `convertFromSharedMemInfo` accepts it. -/
structure SharedMemory where
  converts : Bool
  ashmem : Ashmem

/-- The answer has the result and the channel handle. -/
def registerDirectChannel (b : ISensorsSubHalBase) (mem : SharedMemInfo) (memory : SharedMemory) :
    ISensorsSubHalBase × Result × Int32 :=
  if mem.type ≠ .ashmem then (b, .badValue, -1)
  else if memory.converts = false then (b, .badValue, -1)
  else match Aidl.AshmemDirectChannel.construct mem memory.ashmem with
    | .ok channel =>
      ({ b with
          mNextChannelHandle := b.mNextChannelHandle + 1
          mDirectChannels := b.mDirectChannels.insertIfNew b.mNextChannelHandle channel },
        .ok, b.mNextChannelHandle)
    | .error .badValue => (b, .badValue, -1)
    | .error .noMemory => (b, .noMemory, -1)
    | .error .noInit   => (b, .invalidOperation, -1)

def unregisterDirectChannel (b : ISensorsSubHalBase) (channelHandle : Int32) : ISensorsSubHalBase × Result :=
  let mSensors := match b.mDirectChannels[channelHandle]? with
    | some channel =>
      (Aidl.Sensors.execEach b.mSensors (channel.sensorHandles.map (·, .removeDirectChannel channelHandle))).1
    | none => b.mSensors
  ({ b with mSensors := mSensors, mDirectChannels := b.mDirectChannels.erase channelHandle }, .ok)

/-- The answer has the result and the report token. -/
def configDirectReport (b : ISensorsSubHalBase) (sensorHandle channelHandle : Int32) (rate : RateLevel) :
    ISensorsSubHalBase × Result × Int32 :=
  match b.mDirectChannels[channelHandle]? with
  | none         => (b, .badValue, -1)
  | some channel =>
    if sensorHandle = -1 ∧ rate = .stop then
      let rateNs := channel.sensorHandles.foldl
        (fun rateNs sensor => if sensor ∈ b.mSensors then rateNs.insert sensor 0 else rateNs) channel.rateNs
      ({ b with
          mDirectChannels := b.mDirectChannels.insert channelHandle { channel with rateNs := rateNs }
          mSensors := (Aidl.Sensors.execEach b.mSensors
            (channel.sensorHandles.map (·, .stopDirectChannel channelHandle))).1 },
        .ok, 0)
    else match b.mSensors[sensorHandle]? with
      | none        => (b, .badValue, -1)
      | some sensor =>
        if sensor.hasFlag Aidl.SensorFlagBits.directChannelAshmem = false then (b, .badValue, -1)
        else
          let maxRate := (sensor.description.flags &&& Aidl.SensorFlagBits.maskDirectReport) >>>
            Aidl.SensorFlagBits.shiftDirectReport
          match rateNsOf rate maxRate with
          | none        => (b, .badValue, -1)
          | some rateNs =>
            let channel := { channel with
              rateNs := channel.rateNs.insert sensorHandle rateNs
              sensorHandles := channel.sensorHandles ++ [sensorHandle] }
            ({ b with
                mDirectChannels := b.mDirectChannels.insert channelHandle channel
                mSensors := (Aidl.Sensors.execAt b.mSensors sensorHandle (.addDirectChannel channelHandle rateNs)).1 },
              .ok, sensorHandle)

/-- `initialize` removes the direct channels; it leaves the sensors enabled that are so. -/
def initializeSubHal (b : ISensorsSubHalBase) : ISensorsSubHalBase × Result :=
  ({ b with
      mSensors := (Aidl.Sensors.execEach b.mSensors (SensorsHalAidl.removals b.mDirectChannels)).1
      mDirectChannels := ∅ },
    .ok)

/-- The post of an iteration of `Sensor::run`. -/
def sensorThread (b : ISensorsSubHalBase) (sensorHandle : Int32) (values : List Aidl.SensorValues) : List Post :=
  match b.mSensors[sensorHandle]? with
  | some sensor =>
    if sensor.history.sensor.mIsEnabled then
      [⟨sensor.description.sensorHandle, values.length, sensor.isWakeUpSensor⟩]
    else []
  | none => []

end ISensorsSubHalBase

/-- A step of a sub-HAL. -/
inductive SubHalOp
  | activate (sensorHandle : Int32) (enabled : Bool) (temperature : Option Float32Word)
  | batch (sensorHandle : Int32) (samplingPeriodNs maxReportLatencyNs : Int64)
  | flush (sensorHandle : Int32) (temperature : Option Float32Word)
  | injectSensorData (sensorHandle : Int32)
  | registerDirectChannel (mem : SharedMemInfo) (memory : ISensorsSubHalBase.SharedMemory)
  | unregisterDirectChannel (channelHandle : Int32)
  | configDirectReport (report : DirectReport)
  | initializeSubHal
  | sensorThread (sensorHandle : Int32) (values : List Aidl.SensorValues)

namespace ISensorsSubHalBase

/-- A step, what it answers and what it posts; an iteration of a sensor's thread answers nothing. -/
def exec (b : ISensorsSubHalBase) : SubHalOp → ISensorsSubHalBase × Option Result × List Post
  | .activate sensorHandle enabled temperature =>
    let (b, result, posts) := b.activate sensorHandle enabled temperature
    (b, some result, posts)
  | .batch sensorHandle samplingPeriodNs maxReportLatencyNs =>
    let (b, result) := b.batch sensorHandle samplingPeriodNs maxReportLatencyNs
    (b, some result, [])
  | .flush sensorHandle temperature =>
    let (result, posts) := b.flush sensorHandle temperature
    (b, some result, posts)
  | .injectSensorData sensorHandle => (b, some (b.injectSensorData sensorHandle), [])
  | .registerDirectChannel mem memory =>
    let (b, result, _) := b.registerDirectChannel mem memory
    (b, some result, [])
  | .unregisterDirectChannel channelHandle =>
    let (b, result) := b.unregisterDirectChannel channelHandle
    (b, some result, [])
  | .configDirectReport report =>
    let (b, result, _) := b.configDirectReport report.sensorHandle report.channelHandle report.rate
    (b, some result, [])
  | .initializeSubHal =>
    let (b, result) := b.initializeSubHal
    (b, some result, [])
  | .sensorThread sensorHandle values => (b, none, b.sensorThread sensorHandle values)

def step (b : ISensorsSubHalBase) (op : SubHalOp) : ISensorsSubHalBase := (b.exec op).1

/-! ## The stand-alone HAL does the same -/

/-- The part of the stand-alone HAL that a sub-HAL has. -/
def ofAidl (s : SensorsHalAidl) : ISensorsSubHalBase where
  mReportLatencyNs := s.mReportLatencyNs
  mSensors := s.mSensors
  mDirectChannels := s.mDirectChannels
  mNextChannelHandle := s.mNextChannelHandle

end ISensorsSubHalBase

open ISensorsSubHalBase (ofAidl)

def RateLevel.toAidl : RateLevel → Aidl.RateLevel
  | .stop        => .stop
  | .normal      => .normal
  | .fast        => .fast
  | .veryFast    => .veryFast
  | .other value => .other value

/-- The same call, with whatever the two read from outside. -/
inductive Corresponds : SubHalOp → HalOp → Prop
  | activate (sensorHandle : Int32) (enabled : Bool) (temperature : Option Float32Word) (r : Aidl.ReportInput) :
    Corresponds (.activate sensorHandle enabled temperature) (.activate sensorHandle enabled r)
  | batch (sensorHandle : Int32) (samplingPeriodNs maxReportLatencyNs : Int64) :
    Corresponds (.batch sensorHandle samplingPeriodNs maxReportLatencyNs)
      (.batch sensorHandle samplingPeriodNs maxReportLatencyNs)
  | flush (sensorHandle : Int32) (temperature : Option Float32Word) (u : Aidl.Uptime) (r : Aidl.ReportInput) :
    Corresponds (.flush sensorHandle temperature) (.flush sensorHandle u r)
  | registerDirectChannel (mem : SharedMemInfo) (ashmem : Ashmem) :
    Corresponds (.registerDirectChannel mem ⟨true, ashmem⟩) (.registerDirectChannel mem ashmem)
  | unregisterDirectChannel (channelHandle : Int32) :
    Corresponds (.unregisterDirectChannel channelHandle) (.unregisterDirectChannel channelHandle)
  | configDirectReport (report : DirectReport) :
    Corresponds (.configDirectReport report)
      (.configDirectReport report.sensorHandle report.channelHandle report.rate.toAidl)

/-- The answers of the two interfaces to one outcome. -/
inductive SameAnswer : Result → ScopedAStatus → Prop
  | ok : SameAnswer .ok .ok
  | illegalArgument : SameAnswer .badValue (.fromExceptionCode .illegalArgument)
  | errorBadValue : SameAnswer .badValue (.fromServiceSpecificError .errorBadValue)
  | badValue : SameAnswer .badValue (.fromServiceSpecificError (.channel .badValue))
  | noMemory : SameAnswer .noMemory (.fromServiceSpecificError (.channel .noMemory))
  | noInit : SameAnswer .invalidOperation (.fromServiceSpecificError (.channel .noInit))

namespace SubHalSim

theorem rateNsOf_eq (rate : RateLevel) (maxRate : Int32) :
    rateNsOf rate maxRate = SensorsHalAidl.rateOf rate.toAidl maxRate := by
  cases rate <;> rfl

theorem ofAidl_postEvents (s : SensorsHalAidl) (events : List Aidl.Event) (wakeup : Bool) (u : Aidl.Uptime) :
    ofAidl (s.postEvents events wakeup u).1 = ofAidl s := by
  obtain ⟨queue, wakeLock, h⟩ := Aidl.postEvents_eq s events wakeup u
  rw [h]
  rfl

theorem sim_activate (s : SensorsHalAidl) (sensorHandle : Int32) (enabled : Bool)
    (temperature : Option Float32Word) (r : Aidl.ReportInput) :
    ofAidl (s.activate sensorHandle enabled r).1 = ((ofAidl s).activate sensorHandle enabled temperature).1 ∧
    SameAnswer ((ofAidl s).activate sensorHandle enabled temperature).2.1
      (s.activate sensorHandle enabled r).2.1 := by
  unfold SensorsHalAidl.activate ISensorsSubHalBase.activate ofAidl
  dsimp only
  cases s.mSensors[sensorHandle]? with
  | none => exact ⟨rfl, .illegalArgument⟩
  | some sensor =>
    dsimp only
    split
    · exact ⟨ofAidl_postEvents _ _ _ _, .ok⟩
    · exact ⟨rfl, .ok⟩

theorem sim_batch (s : SensorsHalAidl) (sensorHandle : Int32) (samplingPeriodNs maxReportLatencyNs : Int64) :
    ofAidl (s.batch sensorHandle samplingPeriodNs maxReportLatencyNs).1 =
      ((ofAidl s).batch sensorHandle samplingPeriodNs maxReportLatencyNs).1 ∧
    SameAnswer ((ofAidl s).batch sensorHandle samplingPeriodNs maxReportLatencyNs).2
      (s.batch sensorHandle samplingPeriodNs maxReportLatencyNs).2.1 := by
  unfold SensorsHalAidl.batch ISensorsSubHalBase.batch ISensorsSubHalBase.usedLatency ofAidl
  dsimp only
  cases s.mSensors[sensorHandle]? with
  | none        => exact ⟨rfl, .illegalArgument⟩
  | some sensor => exact ⟨rfl, .ok⟩

theorem sim_flush (s : SensorsHalAidl) (sensorHandle : Int32) (temperature : Option Float32Word) (u : Aidl.Uptime)
    (r : Aidl.ReportInput) :
    ofAidl (s.flush sensorHandle u r).1 = ofAidl s ∧
    SameAnswer ((ofAidl s).flush sensorHandle temperature).1 (s.flush sensorHandle u r).2.1 := by
  unfold SensorsHalAidl.flush ISensorsSubHalBase.flush
  rw [show (ofAidl s).mSensors = s.mSensors from rfl]
  cases s.mSensors[sensorHandle]? with
  | none => exact ⟨rfl, .illegalArgument⟩
  | some sensor =>
    unfold HalSensor.flushStatus
    dsimp only
    by_cases hoff : sensor.history.sensor.mIsEnabled = false ∨ sensor.hasFlag Aidl.SensorFlagBits.oneShotMode = true
    · rw [if_pos hoff, if_pos hoff]
      exact ⟨rfl, .errorBadValue⟩
    · rw [if_neg hoff, if_neg hoff]
      exact ⟨(ofAidl_postEvents _ _ _ _).trans (ofAidl_postEvents _ _ _ _), .ok⟩

theorem sim_registerDirectChannel (s : SensorsHalAidl) (mem : SharedMemInfo) (ashmem : Ashmem) :
    ofAidl (s.registerDirectChannel mem ashmem).1 = ((ofAidl s).registerDirectChannel mem ⟨true, ashmem⟩).1 ∧
    SameAnswer ((ofAidl s).registerDirectChannel mem ⟨true, ashmem⟩).2.1
      (s.registerDirectChannel mem ashmem).2.1 := by
  unfold SensorsHalAidl.registerDirectChannel ISensorsSubHalBase.registerDirectChannel
  by_cases htype : mem.type = .ashmem
  · rw [if_neg (not_not_intro htype), if_neg (not_not_intro htype)]
    cases Aidl.AshmemDirectChannel.construct mem ashmem with
    | ok channel => exact ⟨rfl, .ok⟩
    | error error =>
      cases error with
      | noInit   => exact ⟨rfl, .noInit⟩
      | badValue => exact ⟨rfl, .badValue⟩
      | noMemory => exact ⟨rfl, .noMemory⟩
  · rw [if_pos htype, if_pos htype]
    exact ⟨rfl, .illegalArgument⟩

theorem sim_unregisterDirectChannel (s : SensorsHalAidl) (channelHandle : Int32) :
    ofAidl (s.unregisterDirectChannel channelHandle).1 = ((ofAidl s).unregisterDirectChannel channelHandle).1 := by
  unfold SensorsHalAidl.unregisterDirectChannel ISensorsSubHalBase.unregisterDirectChannel ofAidl
  dsimp only
  cases s.mDirectChannels[channelHandle]? <;> rfl

theorem sim_configDirectReport (s : SensorsHalAidl) (sensorHandle channelHandle : Int32) (rate : RateLevel) :
    ofAidl (s.configDirectReport sensorHandle channelHandle rate.toAidl).1 =
      ((ofAidl s).configDirectReport sensorHandle channelHandle rate).1 ∧
    SameAnswer ((ofAidl s).configDirectReport sensorHandle channelHandle rate).2.1
      (s.configDirectReport sensorHandle channelHandle rate.toAidl).2.1 := by
  have hstop : rate.toAidl = .stop ↔ rate = .stop := by cases rate <;> simp [RateLevel.toAidl]
  unfold SensorsHalAidl.configDirectReport ISensorsSubHalBase.configDirectReport
  simp only [rateNsOf_eq, hstop]
  rw [show (ofAidl s).mDirectChannels = s.mDirectChannels from rfl, show (ofAidl s).mSensors = s.mSensors from rfl]
  cases s.mDirectChannels[channelHandle]? with
  | none => exact ⟨rfl, .illegalArgument⟩
  | some channel =>
    dsimp only
    split
    · exact ⟨rfl, .ok⟩
    · cases s.mSensors[sensorHandle]? with
      | none => exact ⟨rfl, .illegalArgument⟩
      | some sensor =>
        dsimp only
        split
        · exact ⟨rfl, .illegalArgument⟩
        · generalize SensorsHalAidl.rateOf rate.toAidl _ = rateNs?
          cases rateNs? with
          | none        => exact ⟨rfl, .illegalArgument⟩
          | some rateNs => exact ⟨rfl, .ok⟩

/-- **A call leaves the sub-HAL and the stand-alone HAL with the same sensors and tables**, and they answer the same. -/
theorem sim_exec {op : SubHalOp} {halOp : HalOp} (h : Corresponds op halOp) (s : SensorsHalAidl) :
    ofAidl (s.step halOp) = (ofAidl s).step op ∧
    ∃ result status, ((ofAidl s).exec op).2.1 = some result ∧ (s.exec halOp).2.1 = some status ∧
      SameAnswer result status := by
  cases h with
  | activate sensorHandle enabled temperature r =>
    obtain ⟨hstate, hanswer⟩ := sim_activate s sensorHandle enabled temperature r
    exact ⟨hstate, _, _, rfl, rfl, hanswer⟩
  | batch sensorHandle samplingPeriodNs maxReportLatencyNs =>
    obtain ⟨hstate, hanswer⟩ := sim_batch s sensorHandle samplingPeriodNs maxReportLatencyNs
    exact ⟨hstate, _, _, rfl, rfl, hanswer⟩
  | flush sensorHandle temperature u r =>
    obtain ⟨hstate, hanswer⟩ := sim_flush s sensorHandle temperature u r
    exact ⟨hstate, _, _, rfl, rfl, hanswer⟩
  | registerDirectChannel mem ashmem =>
    obtain ⟨hstate, hanswer⟩ := sim_registerDirectChannel s mem ashmem
    exact ⟨hstate, _, _, rfl, rfl, hanswer⟩
  | unregisterDirectChannel channelHandle =>
    exact ⟨sim_unregisterDirectChannel s channelHandle, _, _, rfl, rfl, .ok⟩
  | configDirectReport report =>
    obtain ⟨hstate, hanswer⟩ := sim_configDirectReport s report.sensorHandle report.channelHandle report.rate
    exact ⟨hstate, _, _, rfl, rfl, hanswer⟩

end SubHalSim

/-! ## What a call does to the sensors -/

namespace SubHalSim

theorem construct_mem (ds : List SensorDescription) {k : Int32} {sensor : HalSensor}
    (hk : (ISensorsSubHalBase.construct ds).mSensors[k]? = some sensor) :
    sensor.description ∈ ds ∧ sensor.description.sensorHandle = k := by
  have hfold : ∀ (l : List SensorDescription) (m : StdMap Int32 HalSensor), l ⊆ ds →
      (∀ (k : Int32) (sensor : HalSensor), m[k]? = some sensor → sensor.description ∈ ds) →
      ∀ (k : Int32) (sensor : HalSensor),
        (l.foldl (fun m d => m.insert d.sensorHandle (.fresh d)) m)[k]? = some sensor → sensor.description ∈ ds := by
    intro l
    induction l with
    | nil => exact fun m _ h => h
    | cons d l ih =>
      intro m hl h
      obtain ⟨hd, hl⟩ := List.cons_subset.1 hl
      refine ih _ hl fun k sensor hk => ?_
      rw [StdMap.getElem?_insert_eq] at hk
      split at hk
      · obtain rfl := Option.some.inj hk
        exact hd
      · exact h k sensor hk
  refine ⟨hfold ds ∅ (List.Subset.refl ds) (fun k sensor hk => ?_) k sensor hk, (Aidl.construct_sensors 0 ds hk).1⟩
  rw [Std.ExtTreeMap.getElem?_empty] at hk
  cases hk

theorem enabled_run {ops : List SensorOp} {sensor : HalSensor}
    (h : (Run.run HalSensor.exec sensor ops).history.sensor.mIsEnabled = true) :
    sensor.history.sensor.mIsEnabled = true ∨ .activate true ∈ ops := by
  induction ops generalizing sensor with
  | nil => exact Or.inl h
  | cons op ops ih =>
    rcases ih h with hon | hm
    · have hexec : (sensor.exec op).history.sensor.mIsEnabled = _ := Sensor.exec_isEnabled sensor.history.sensor op
      rw [hexec] at hon
      cases op with
      | activate enable => exact Or.inr (hon ▸ List.mem_cons_self)
      | _ => exact Or.inl hon
    · exact Or.inr (List.mem_cons_of_mem _ hm)

/-- **A call runs operations on the sensors**, and only `activate` enables one. -/
theorem sensors_step (b : ISensorsSubHalBase) (op : SubHalOp) :
    ∃ ops, (b.step op).mSensors = (Aidl.Sensors.execEach b.mSensors ops).1 ∧
      ∀ k, (k, .activate true) ∈ ops → ∃ temperature, op = .activate k true temperature := by
  cases op with
  | activate sensorHandle enabled temperature =>
    show ∃ ops, (b.activate sensorHandle enabled temperature).1.mSensors = _ ∧ _
    unfold ISensorsSubHalBase.activate
    cases b.mSensors[sensorHandle]? with
    | none => exact ⟨[], rfl, nofun⟩
    | some sensor =>
      refine ⟨[_], congrArg Prod.fst (Aidl.Sensors.execAt_eq_execEach _ _ _), fun k hk => ?_⟩
      cases List.mem_singleton.1 hk
      exact ⟨temperature, rfl⟩
  | batch sensorHandle samplingPeriodNs maxReportLatencyNs =>
    show ∃ ops, (b.batch sensorHandle samplingPeriodNs maxReportLatencyNs).1.mSensors = _ ∧ _
    unfold ISensorsSubHalBase.batch
    dsimp only
    cases b.mSensors[sensorHandle]? with
    | none => exact ⟨[], rfl, nofun⟩
    | some sensor =>
      refine ⟨[_], congrArg Prod.fst (Aidl.Sensors.execAt_eq_execEach _ _ _), fun k hk => ?_⟩
      cases List.mem_singleton.1 hk
  | registerDirectChannel mem memory =>
    show ∃ ops, (b.registerDirectChannel mem memory).1.mSensors = _ ∧ _
    refine ⟨[], ?_, nofun⟩
    unfold ISensorsSubHalBase.registerDirectChannel
    repeat' split
    all_goals rfl
  | unregisterDirectChannel channelHandle =>
    show ∃ ops, (b.unregisterDirectChannel channelHandle).1.mSensors = _ ∧ _
    unfold ISensorsSubHalBase.unregisterDirectChannel
    cases b.mDirectChannels[channelHandle]? with
    | none => exact ⟨[], rfl, nofun⟩
    | some channel =>
      refine ⟨_, rfl, fun k hk => ?_⟩
      obtain ⟨_, -, heq⟩ := List.mem_map.1 hk
      cases heq
  | configDirectReport report =>
    show ∃ ops, (b.configDirectReport report.sensorHandle report.channelHandle report.rate).1.mSensors = _ ∧ _
    unfold ISensorsSubHalBase.configDirectReport
    cases b.mDirectChannels[report.channelHandle]? with
    | none => exact ⟨[], rfl, nofun⟩
    | some channel =>
      dsimp only
      split
      · refine ⟨_, rfl, fun k hk => ?_⟩
        obtain ⟨_, -, heq⟩ := List.mem_map.1 hk
        cases heq
      · cases b.mSensors[report.sensorHandle]? with
        | none => exact ⟨[], rfl, nofun⟩
        | some sensor =>
          dsimp only
          split
          · exact ⟨[], rfl, nofun⟩
          · generalize rateNsOf report.rate _ = rateNs?
            cases rateNs? with
            | none => exact ⟨[], rfl, nofun⟩
            | some rateNs =>
              refine ⟨[_], congrArg Prod.fst (Aidl.Sensors.execAt_eq_execEach _ _ _), fun k hk => ?_⟩
              cases List.mem_singleton.1 hk
  | initializeSubHal =>
    refine ⟨_, rfl, fun k hk => ?_⟩
    obtain ⟨c, hc⟩ := Aidl.isRemoval_removals b.mDirectChannels _ hk
    cases hc
  | flush sensorHandle temperature | injectSensorData sensorHandle | sensorThread sensorHandle values =>
    exact ⟨[], rfl, nofun⟩

theorem mem_step (b : ISensorsSubHalBase) (op : SubHalOp) (k : Int32) : k ∈ (b.step op).mSensors ↔ k ∈ b.mSensors := by
  obtain ⟨ops, hops, -⟩ := sensors_step b op
  rw [hops, Std.ExtTreeMap.mem_iff_isSome_getElem?, Std.ExtTreeMap.mem_iff_isSome_getElem?,
    Aidl.Sensors.execEach_getElem?, Option.isSome_map]

/-- An enabled sensor was enabled before or is so by this call. -/
theorem enabled_step {b : ISensorsSubHalBase} {op : SubHalOp} {k : Int32} {sensor' : HalSensor}
    (hk : (b.step op).mSensors[k]? = some sensor') (hon : sensor'.history.sensor.mIsEnabled = true) :
    (∃ sensor, b.mSensors[k]? = some sensor ∧ sensor.history.sensor.mIsEnabled = true) ∨
      ∃ temperature, op = .activate k true temperature := by
  obtain ⟨ops, hops, hactivate⟩ := sensors_step b op
  rw [hops] at hk
  obtain ⟨sensor, hsensor, rfl⟩ := Aidl.Sensors.execEach_inv hk
  rcases enabled_run hon with hbefore | hm
  · exact Or.inl ⟨sensor, hsensor, hbefore⟩
  · exact Or.inr (hactivate k (Aidl.Sensors.mem_opsOf.1 hm))

theorem enabled_calls {k : Int32} {sensor' : HalSensor} (hon : sensor'.history.sensor.mIsEnabled = true) :
    ∀ {calls : List SubHalOp} {b : ISensorsSubHalBase},
      (Run.run ISensorsSubHalBase.step b calls).mSensors[k]? = some sensor' →
      (∃ sensor, b.mSensors[k]? = some sensor ∧ sensor.history.sensor.mIsEnabled = true) ∨
        ∃ temperature, .activate k true temperature ∈ calls
  | [], _, hk => Or.inl ⟨sensor', hk, hon⟩
  | call :: calls, b, hk => by
    have hrest : (∃ sensor, (b.step call).mSensors[k]? = some sensor ∧ sensor.history.sensor.mIsEnabled = true) ∨
        ∃ temperature, .activate k true temperature ∈ calls := enabled_calls hon hk
    rcases hrest with ⟨sensor, hsensor, hbefore⟩ | ⟨temperature, hm⟩
    · rcases enabled_step hsensor hbefore with hold | ⟨temperature, rfl⟩
      · exact Or.inl hold
      · exact Or.inr ⟨temperature, List.mem_cons_self⟩
    · exact Or.inr ⟨temperature, List.mem_cons_of_mem _ hm⟩

/-! ## Disabling and initializing -/

end SubHalSim

end MultiHal
end MemsHal
