import MemsHal.AidlEvent
import MemsHal.Sensor
/-!
# SensorsHalAidl — `aidl/SensorsHalAidl.{h,cpp}`: the stand-alone AIDL HAL

Each call of the framework, each post of a sensor thread and each pass of the wake-lock thread is one step.  The two
clock readings of `updateWakeLock`, the outcome of the system's wake-lock calls, temperatures and shared-memory answers
are inputs.  A step returns the calls it makes in order: posts, what enters the Event FMQ, calls on the underlying
`mSensor`, wake-lock calls.  Waking the framework through the event flag changes nothing here and is left out.
-/
namespace MemsHal
namespace Aidl

inductive RateLevel
  | stop
  | normal
  | fast
  | veryFast
  | other (value : Int32)
  deriving DecidableEq, Repr

inductive OperationMode
  | normal
  | dataInjection
  | other (value : Int32)
  deriving DecidableEq, Repr

inductive ExceptionCode
  | illegalArgument
  | transactionFailed
  | unsupportedOperation
  deriving DecidableEq, Repr

/-- The `status_t` that a direct channel keeps as its error. -/
inductive ChannelError
  | noInit
  | badValue
  | noMemory
  deriving DecidableEq, Repr

inductive ServiceError
  | errorBadValue
  | channel (error : ChannelError)
  deriving DecidableEq, Repr

inductive ScopedAStatus
  | ok
  | fromExceptionCode (code : ExceptionCode)
  | fromServiceSpecificError (error : ServiceError)
  deriving DecidableEq, Repr

def ScopedAStatus.isOk (status : ScopedAStatus) : Bool := status = .ok

namespace SensorFlagBits

def wakeUp : Int32 := 0x1

def oneShotMode : Int32 := 0x4

def dataInjection : Int32 := 0x10

def directChannelAshmem : Int32 := 0x400

def maskDirectReport : Int32 := 0x380

def shiftDirectReport : Int32 := 7

end SensorFlagBits

/-! ## A sensor of the HAL -/

structure Location where
  x : Float32Word
  y : Float32Word
  z : Float32Word

structure Axis where
  map : Int
  negate : Bool

structure Orientation where
  rotate : Bool
  firstX : Axis
  firstY : Axis
  firstZ : Axis

structure Configuration where
  location : List Location
  orientation : List Orientation

/-- The fields of `SensorInfo`, and the XML configuration, that the HAL reads. -/
structure SensorDescription where
  sensorHandle : Int32
  name : String := ""
  type : SensorType
  flags : Int32
  resolution : Float32Word := 0
  delays : SensorInfo
  mConfig : Option (List Configuration) := none

/-- A `Sensor`, with the calls it has made on `mSensor`. -/
structure HalSensor where
  description : SensorDescription
  history : Sensor.History

/-- One entry of what `ISensorHal::readSensorValues` returns. -/
structure SensorValues where
  timestamp : Int64
  data : List Float32Word

namespace HalSensor

def fresh (description : SensorDescription) : HalSensor := ⟨description, Sensor.History.fresh description.delays⟩

def exec (sensor : HalSensor) (op : SensorOp) : HalSensor := { sensor with history := sensor.history.step op }

def hasFlag (sensor : HalSensor) (bit : Int32) : Bool := sensor.description.flags &&& bit ≠ 0

def isWakeUpSensor (sensor : HalSensor) : Bool := sensor.hasFlag SensorFlagBits.wakeUp

def supportsDataInjection (sensor : HalSensor) : Bool := sensor.hasFlag SensorFlagBits.dataInjection

def setOperationMode (_ : HalSensor) (mode : OperationMode) : ScopedAStatus :=
  if mode = .normal then .ok else .fromExceptionCode .illegalArgument

def injectEvent (sensor : HalSensor) (event : Event) : ScopedAStatus :=
  if event.sensorType = .additionalInfo then .ok
  else if sensor.supportsDataInjection = false then .fromExceptionCode .unsupportedOperation
  else .fromServiceSpecificError .errorBadValue

/-! ### Events of the sensor thread -/

def areAlmostEqual (a b : Float32Word) : Bool := (Float32.ofBits a - Float32.ofBits b).abs < 1e-5

def gyroUncalibratedFix (sensor : HalSensor) : Float32Word :=
  if 1 < (sensor.description.name.splitOn "SMI230 BOSCH").length then sensor.description.resolution else 0

def plus (a b : Float32Word) : Float32Word := (Float32.ofBits a + Float32.ofBits b).toBits

/-- One event of `readEvents`, and the last temperature reported by any sensor.  A payload that the source does not set
stays the default one. -/
def readEvent (sensor : HalSensor) (lastTemperature : Float32Word) (value : SensorValues) : Event × Float32Word :=
  let event : Event :=
    { timestamp := value.timestamp, sensorHandle := sensor.description.sensorHandle,
      sensorType := sensor.description.type }
  if sensor.description.type = .ambientTemperature then
    let scalar := value.data.headD 0
    if areAlmostEqual scalar lastTemperature then (event, lastTemperature)
    else ({ event with payload := .scalar scalar }, scalar)
  else match value.data with
    | [x, y, z] =>
      if sensor.description.type = .gyroscopeUncalibrated then
        let fix := sensor.gyroUncalibratedFix
        ({ event with payload := .uncal ⟨plus x fix, plus y fix, plus z fix, 0, 0, 0⟩ }, lastTemperature)
      else if sensor.description.type = .accelerometerUncalibrated then
        ({ event with payload := .uncal ⟨x, y, z, 0, 0, 0⟩ }, lastTemperature)
      else ({ event with payload := .vec3 ⟨x, y, z, SensorStatus.accuracyHigh⟩ }, lastTemperature)
    | _ => (event, lastTemperature)

def readEvents (sensor : HalSensor) (lastTemperature : Float32Word) : List SensorValues → List Event × Float32Word
  | []              => ([], lastTemperature)
  | value :: values =>
    let (event, lastTemperature) := sensor.readEvent lastTemperature value
    let (events, lastTemperature) := sensor.readEvents lastTemperature values
    (event :: events, lastTemperature)

/-! ### The additional-info report -/

def floatOne : Float32Word := 0x3F800000

def floatMinusOne : Float32Word := 0xBF800000

/-- An index outside the array leaves it as it is; the source then writes outside of it. -/
def setSensorPlacementData (values : Vector Float32Word 14) (index : Int) (value : Float32Word) :
    Vector Float32Word 14 :=
  if index < 0 then values else values.setIfInBounds index.toNat value

/-- The `int` that the index of an axis is passed as. -/
def rotationIndex (start map : Int) : Int := (Int32.ofInt (start + 4 * map)).toInt

def rotationSign (axis : Axis) : Float32Word := if axis.negate then floatMinusOne else floatOne

/-- The entries of a rotation: where each is put, and its sign. -/
def rotationEntries (orientation : Orientation) : List (Int × Float32Word) :=
  if orientation.rotate then [(0 + 0, floatOne), (1 + 4, floatOne), (2 + 8, floatOne)]
  else
    [(rotationIndex 0 orientation.firstX.map, rotationSign orientation.firstX),
      (rotationIndex 1 orientation.firstY.map, rotationSign orientation.firstY),
      (rotationIndex 2 orientation.firstZ.map, rotationSign orientation.firstZ)]

def getLocation (sensor : HalSensor) : Option (List Location) :=
  match sensor.description.mConfig with
  | some (sensorCfg :: _) => some sensorCfg.location
  | _                     => none

def getOrientation (sensor : HalSensor) : Option (List Orientation) :=
  match sensor.description.mConfig with
  | some (sensorCfg :: _) => some sensorCfg.orientation
  | _                     => none

/-- The frames that `getSensorPlacement` appends. -/
def getSensorPlacement (sensor : HalSensor) : List AdditionalInfo :=
  match sensor.getLocation, sensor.getOrientation with
  | some (location :: _), some (orientation :: _) =>
    let entries := [(3, location.x), (7, location.y), (11, location.z)] ++ rotationEntries orientation
    let values := entries.foldl (fun values entry => setSensorPlacementData values entry.1 entry.2)
      (Vector.replicate 14 0)
    [{ type := AdditionalInfoType.sensorPlacement, serial := 0, payload := .dataFloat values }]
  | _, _ => []

/-- The frames that `getSensorTemperature` appends; `none` is a failed read. -/
def getSensorTemperature (temperature : Option Float32Word) : List AdditionalInfo :=
  match temperature with
  | some value =>
    [{ type := AdditionalInfoType.internalTemperature, serial := 0,
       payload := .dataFloat ((Vector.replicate 14 0).set 0 value) }]
  | none => []

def additionalInfoFrames (sensor : HalSensor) (temperature : Option Float32Word) : List AdditionalInfo :=
  [{ type := AdditionalInfoType.begin, serial := 0 }] ++ sensor.getSensorPlacement ++
    getSensorTemperature temperature ++ [{ type := AdditionalInfoType.end, serial := 0 }]

/-- The events of a report; `elapsed i` is the time read for the frame `i`. -/
def additionalInfoEvents (sensor : HalSensor) (temperature : Option Float32Word) (elapsed : Nat → Int64) : List Event :=
  (sensor.additionalInfoFrames temperature).mapIdx fun i frame =>
    { timestamp := elapsed i, sensorHandle := sensor.description.sensorHandle, sensorType := .additionalInfo,
      payload := .additional frame }

/-- The completion event of a flush. -/
def flushComplete (sensor : HalSensor) : Event :=
  { timestamp := 0, sensorHandle := sensor.description.sensorHandle, sensorType := .metaData,
    payload := .metaData MetaDataEventType.flushComplete }

/-- What `Sensor::flush` answers. -/
def flushStatus (sensor : HalSensor) : ScopedAStatus :=
  if sensor.history.sensor.mIsEnabled = false ∨ sensor.hasFlag SensorFlagBits.oneShotMode then
    .fromServiceSpecificError .errorBadValue
  else .ok

end HalSensor

/-! ## The state -/

/-- The Event FMQ: its size and the events that the framework has not read. -/
structure EventQueue where
  quantumCount : Nat
  unread : List Event

namespace EventQueue

def write (queue : EventQueue) (events : List Event) : Option EventQueue :=
  if queue.unread.length + events.length ≤ queue.quantumCount then
    some { queue with unread := queue.unread ++ events }
  else none

def read (queue : EventQueue) (count : Nat) : EventQueue := { queue with unread := queue.unread.drop count }

end EventQueue

/-- What `updateWakeLock` asks of the system. -/
structure Uptime where
  now : Int
  nowCheck : Int
  acquireOk : Bool := true
  releaseOk : Bool := true

/-- A call that the HAL makes. -/
inductive HalCall
  | posted (events : List Event) (wakeup : Bool)
  | written (events : List Event)
  | sensor (handle : Int32) (call : SensorCall)
  | acquireWakeLock (ok : Bool)
  | releaseWakeLock (ok : Bool)
  deriving DecidableEq, Repr

/-- The wake-lock fields; `timeoutSeconds` comes from a constant of the AIDL interface. -/
structure WakeLock where
  timeoutSeconds : UInt32
  mOutstandingWakeUpEvents : UInt32
  mAutoReleaseWakeLockTime : Int
  mHasWakeLock : Bool

namespace WakeLock

def fresh (timeoutSeconds : UInt32) : WakeLock := ⟨timeoutSeconds, 0, 0, false⟩

/-- `mOutstandingWakeUpEvents + eventsWritten - eventsHandled` as the C++ conversions make it. -/
def newVal (w : WakeLock) (eventsWritten eventsHandled : Int32) : Int32 :=
  (w.mOutstandingWakeUpEvents + eventsWritten.toUInt32 - eventsHandled.toUInt32).toInt32

/-- The count that the first statements of `updateWakeLock` leave. -/
def counted (w : WakeLock) (eventsWritten eventsHandled : Int32) : UInt32 :=
  if w.newVal eventsWritten eventsHandled < 0 then 0 else (w.newVal eventsWritten eventsHandled).toUInt32

/-- The deadline that `updateWakeLock` leaves. -/
def deadline (w : WakeLock) (eventsWritten : Int32) (u : Uptime) : Int :=
  if 0 < eventsWritten then u.now + (w.timeoutSeconds * 1000).toNat else w.mAutoReleaseWakeLockTime

def updateWakeLock (w : WakeLock) (eventsWritten eventsHandled : Int32) (u : Uptime) : WakeLock × List HalCall :=
  let count := w.counted eventsWritten eventsHandled
  let deadline := w.deadline eventsWritten u
  if w.mHasWakeLock = false then
    ({ w with
        mOutstandingWakeUpEvents := count
        mAutoReleaseWakeLockTime := deadline
        mHasWakeLock := 0 < count && u.acquireOk },
      if 0 < count then [.acquireWakeLock u.acquireOk] else [])
  else
    let count := if deadline < u.nowCheck then 0 else count
    ({ w with
        mOutstandingWakeUpEvents := count
        mAutoReleaseWakeLockTime := deadline
        mHasWakeLock := !(count = 0 && u.releaseOk) },
      if count = 0 then [.releaseWakeLock u.releaseOk] else [])

end WakeLock

/-- A direct channel; its ring buffer is modelled by itself. -/
structure DirectChannelBase where
  sensorHandles : List Int32
  rateNs : StdMap Int32 Int64
  sampleCount : StdMap Int32 Int32

def DirectChannelBase.fresh : DirectChannelBase := ⟨[], ∅, ∅⟩

/-- `lastTemperature` is a static variable of `Sensor::readEvents`. -/
structure SensorsHalAidl where
  mEventQueue : Option EventQueue
  wakeLock : WakeLock
  mReadWakeLockQueueRun : Bool
  mReportLatencyNs : StdMap Int32 Int64
  mSensors : StdMap Int32 HalSensor
  mDirectChannels : StdMap Int32 DirectChannelBase
  mNextChannelHandle : Int32
  lastTemperature : Float32Word

/-- What a report reads from outside. -/
structure ReportInput where
  temperature : Option Float32Word
  elapsed : Nat → Int64
  uptime : Uptime

/-- The arguments of `initialize`: the size of the Event FMQ, whether the event flag could be created and the callback
is not null; and the pass that the old wake-lock thread makes before it is joined, if it makes one. -/
structure InitializeInput where
  quantumCount : Nat
  eventFlagOk : Bool := true
  callback : Bool := true
  lastPass : Option (Int32 × Uptime) := none

inductive SharedMemType
  | ashmem
  | gralloc
  | other (value : Int32)
  deriving DecidableEq, Repr

structure SharedMemInfo where
  type : SharedMemType
  size : Int32

/-- What the system says of the shared memory.  A mapping that fails is left out: `MAP_FAILED` is not null, and the
constructor goes on to write there. -/
structure Ashmem where
  valid : Bool
  sizeRegion : Int32
  mmapNull : Bool

/-- The constructor of `AshmemDirectChannel`. -/
def AshmemDirectChannel.construct (mem : SharedMemInfo) (ashmem : Ashmem) : Except ChannelError DirectChannelBase :=
  if ashmem.valid = false then .error .badValue
  else if ashmem.sizeRegion.toInt64.toUInt64 ≠ mem.size.toInt64.toUInt64 then .error .badValue
  else if ashmem.mmapNull then .error .noMemory
  else .ok .fresh

/-! ## Calls on the sensors -/

namespace Sensors

/-- An operation on one sensor, if there is one of that handle. -/
def execAt (mSensors : StdMap Int32 HalSensor) (handle : Int32) (op : SensorOp) :
    StdMap Int32 HalSensor × List HalCall :=
  match mSensors[handle]? with
  | some sensor =>
    (mSensors.insert handle (sensor.exec op), (sensor.history.sensor.exec op).2.map (.sensor handle))
  | none => (mSensors, [])

/-- A loop of operations. -/
def execEach (mSensors : StdMap Int32 HalSensor) : List (Int32 × SensorOp) → StdMap Int32 HalSensor × List HalCall
  | []                  => (mSensors, [])
  | (handle, op) :: ops =>
    let (mSensors, calls) := execAt mSensors handle op
    let (mSensors, later) := execEach mSensors ops
    (mSensors, calls ++ later)

end Sensors

namespace SensorsHalAidl

def construct (timeoutSeconds : UInt32) (descriptions : List SensorDescription) : SensorsHalAidl where
  mEventQueue := none
  wakeLock := .fresh timeoutSeconds
  mReadWakeLockQueueRun := false
  mReportLatencyNs := ∅
  mSensors := descriptions.foldl (fun mSensors d => mSensors.insert d.sensorHandle (.fresh d)) ∅
  mDirectChannels := ∅
  mNextChannelHandle := 1
  lastTemperature := 0

/-! ## Posting events -/

def postEvents (s : SensorsHalAidl) (events : List Event) (wakeup : Bool) (u : Uptime) :
    SensorsHalAidl × List HalCall :=
  match s.mEventQueue with
  | none       => (s, [.posted events wakeup])
  | some queue =>
    match queue.write events with
    | none       => (s, [.posted events wakeup])
    | some queue =>
      let s := { s with mEventQueue := some queue }
      if wakeup then
        let (wakeLock, calls) := s.wakeLock.updateWakeLock (Int32.ofNat events.length) 0 u
        ({ s with wakeLock := wakeLock }, [.posted events wakeup, .written events] ++ calls)
      else (s, [.posted events wakeup, .written events])

def sendAdditionalInfoReport (s : SensorsHalAidl) (sensor : HalSensor) (r : ReportInput) :
    SensorsHalAidl × List HalCall :=
  s.postEvents (sensor.additionalInfoEvents r.temperature r.elapsed) sensor.isWakeUpSensor r.uptime

/-- A pass of `readWakeLockFMQ`; a read that times out leaves 0 events handled. -/
def readWakeLockFMQ (s : SensorsHalAidl) (eventsHandled : Int32) (u : Uptime) : SensorsHalAidl × List HalCall :=
  if s.mReadWakeLockQueueRun then
    let (wakeLock, calls) := s.wakeLock.updateWakeLock 0 eventsHandled u
    ({ s with wakeLock := wakeLock }, calls)
  else (s, [])

/-! ## The calls of the framework -/

def activate (s : SensorsHalAidl) (sensorHandle : Int32) (enabled : Bool) (r : ReportInput) :
    SensorsHalAidl × ScopedAStatus × List HalCall :=
  match s.mSensors[sensorHandle]? with
  | some sensor =>
    let (mSensors, calls) := Sensors.execAt s.mSensors sensorHandle (.activate enabled)
    let s := { s with mSensors := mSensors }
    if .sendAdditionalInfoReport ∈ (sensor.history.sensor.activate enabled).2 then
      let (s, posts) := s.sendAdditionalInfoReport sensor r
      (s, .ok, calls ++ posts)
    else (s, .ok, calls)
  | none => (s, .fromExceptionCode .illegalArgument, [])

def batch (s : SensorsHalAidl) (sensorHandle : Int32) (samplingPeriodNs maxReportLatencyNs : Int64) :
    SensorsHalAidl × ScopedAStatus × List HalCall :=
  let mReportLatencyNs :=
    if 0 < maxReportLatencyNs then s.mReportLatencyNs.insert sensorHandle maxReportLatencyNs else s.mReportLatencyNs
  let usedLatency :=
    if 0 < maxReportLatencyNs then
      s.mSensors.toList.foldl (fun usedLatency sensor =>
        if sensor.2.history.sensor.mIsEnabled then
          match mReportLatencyNs[sensorHandle]? with
          | some latency => min usedLatency latency
          | none         => usedLatency
        else usedLatency) maxReportLatencyNs
    else maxReportLatencyNs
  let s := { s with mReportLatencyNs := mReportLatencyNs }
  match s.mSensors[sensorHandle]? with
  | some _ =>
    let (mSensors, calls) := Sensors.execAt s.mSensors sensorHandle (.batch samplingPeriodNs usedLatency)
    ({ s with mSensors := mSensors }, .ok, calls)
  | none => (s, .fromExceptionCode .illegalArgument, [])

/-- The rate that a level stands for; `none` is a level that the sensor does not support or that does not exist. -/
def rateOf (rate : RateLevel) (maxRate : Int32) : Option Int64 :=
  match rate with
  | .stop     => some 0
  | .normal   => some 20000000
  | .fast     => if maxRate < 2 then none else some 5000000
  | .veryFast => if maxRate < 3 then none else some 1250000
  | .other _  => none

def configDirectReport (s : SensorsHalAidl) (sensorHandle channelHandle : Int32) (rate : RateLevel) :
    SensorsHalAidl × ScopedAStatus × List HalCall :=
  match s.mDirectChannels[channelHandle]? with
  | none         => (s, .fromExceptionCode .illegalArgument, [])
  | some channel =>
    if sensorHandle = -1 ∧ rate = .stop then
      let rateNs := channel.sensorHandles.foldl
        (fun rateNs sensor => if sensor ∈ s.mSensors then rateNs.insert sensor 0 else rateNs) channel.rateNs
      let (mSensors, calls) :=
        Sensors.execEach s.mSensors (channel.sensorHandles.map (·, .stopDirectChannel channelHandle))
      ({ s with
          mDirectChannels := s.mDirectChannels.insert channelHandle { channel with rateNs := rateNs }
          mSensors := mSensors },
        .ok, calls)
    else match s.mSensors[sensorHandle]? with
      | none        => (s, .fromExceptionCode .illegalArgument, [])
      | some sensor =>
        if sensor.hasFlag SensorFlagBits.directChannelAshmem = false then
          (s, .fromExceptionCode .illegalArgument, [])
        else
          let maxRate :=
            (sensor.description.flags &&& SensorFlagBits.maskDirectReport) >>> SensorFlagBits.shiftDirectReport
          match rateOf rate maxRate with
          | none     => (s, .fromExceptionCode .illegalArgument, [])
          | some rateNs =>
            let channel := { channel with
              rateNs := channel.rateNs.insert sensorHandle rateNs
              sensorHandles := channel.sensorHandles ++ [sensorHandle] }
            let (mSensors, calls) := Sensors.execAt s.mSensors sensorHandle (.addDirectChannel channelHandle rateNs)
            ({ s with
                mDirectChannels := s.mDirectChannels.insert channelHandle channel
                mSensors := mSensors },
              .ok, calls)

def flush (s : SensorsHalAidl) (sensorHandle : Int32) (u : Uptime) (r : ReportInput) :
    SensorsHalAidl × ScopedAStatus × List HalCall :=
  match s.mSensors[sensorHandle]? with
  | some sensor =>
    if sensor.flushStatus.isOk then
      let (s, calls) := s.postEvents [sensor.flushComplete] sensor.isWakeUpSensor u
      let (s, reports) := s.sendAdditionalInfoReport sensor r
      (s, .ok, calls ++ reports)
    else (s, sensor.flushStatus, [])
  | none => (s, .fromExceptionCode .illegalArgument, [])

/-- The old wake-lock thread is told to stop and joined; it may be in the middle of a pass. -/
def joinWakeLockThread (s : SensorsHalAidl) (lastPass : Option (Int32 × Uptime)) : SensorsHalAidl × List HalCall :=
  match lastPass with
  | some (eventsHandled, u) => s.readWakeLockFMQ eventsHandled u
  | none                    => (s, [])

/-- The loop of `initialize` over the direct channels. -/
def removals (mDirectChannels : StdMap Int32 DirectChannelBase) : List (Int32 × SensorOp) :=
  mDirectChannels.toList.flatMap fun channel =>
    channel.2.sensorHandles.map (·, .removeDirectChannel channel.1)

def initializeHal (s : SensorsHalAidl) (i : InitializeInput) : SensorsHalAidl × ScopedAStatus × List HalCall :=
  let (mSensors, calls) := Sensors.execEach s.mSensors (s.mSensors.keys.map (·, .activate false))
  let s := { s with mSensors := mSensors }
  let (s, passCalls) := s.joinWakeLockThread i.lastPass
  let s := { s with mEventQueue := some ⟨i.quantumCount, []⟩ }
  let (mSensors, removeCalls) := Sensors.execEach s.mSensors (removals s.mDirectChannels)
  ({ s with mSensors := mSensors, mDirectChannels := ∅, mReadWakeLockQueueRun := true },
    if i.eventFlagOk ∧ i.callback then .ok else .fromExceptionCode .illegalArgument,
    calls ++ passCalls ++ removeCalls)

def injectSensorData (s : SensorsHalAidl) (event : Event) : SensorsHalAidl × ScopedAStatus × List HalCall :=
  match s.mSensors[event.sensorHandle]? with
  | some sensor => (s, sensor.injectEvent event, [])
  | none        => (s, .fromServiceSpecificError .errorBadValue, [])

/-- A handle that is still in use, after the counter has wrapped, keeps its channel. -/
def registerDirectChannel (s : SensorsHalAidl) (mem : SharedMemInfo) (ashmem : Ashmem) :
    SensorsHalAidl × ScopedAStatus × List HalCall :=
  if mem.type ≠ .ashmem then (s, .fromExceptionCode .illegalArgument, [])
  else match AshmemDirectChannel.construct mem ashmem with
    | .ok channel =>
      ({ s with
          mNextChannelHandle := s.mNextChannelHandle + 1
          mDirectChannels := s.mDirectChannels.insertIfNew s.mNextChannelHandle channel },
        .ok, [])
    | .error error => (s, .fromServiceSpecificError (.channel error), [])

def setOperationMode (s : SensorsHalAidl) (mode : OperationMode) : SensorsHalAidl × ScopedAStatus × List HalCall :=
  (s, s.mSensors.toList.foldl (fun _ sensor => sensor.2.setOperationMode mode) .ok, [])

def unregisterDirectChannel (s : SensorsHalAidl) (channelHandle : Int32) :
    SensorsHalAidl × ScopedAStatus × List HalCall :=
  let (mSensors, calls) := match s.mDirectChannels[channelHandle]? with
    | some channel =>
      Sensors.execEach s.mSensors (channel.sensorHandles.map (·, .removeDirectChannel channelHandle))
    | none => (s.mSensors, [])
  ({ s with mSensors := mSensors, mDirectChannels := s.mDirectChannels.erase channelHandle }, .ok, calls)

/-! ## Steps of other threads -/

/-- The post of a pass of `Sensor::run`. -/
def sensorThread (s : SensorsHalAidl) (sensorHandle : Int32) (values : List SensorValues) (u : Uptime) :
    SensorsHalAidl × List HalCall :=
  match s.mSensors[sensorHandle]? with
  | some sensor =>
    let (events, lastTemperature) := sensor.readEvents s.lastTemperature values
    let s := { s with lastTemperature := lastTemperature }
    if sensor.history.sensor.mIsEnabled then s.postEvents events sensor.isWakeUpSensor u else (s, [])
  | none => (s, [])

/-- The framework takes events from the Event FMQ. -/
def frameworkReads (s : SensorsHalAidl) (count : Nat) : SensorsHalAidl :=
  { s with mEventQueue := s.mEventQueue.map (·.read count) }

end SensorsHalAidl

/-- A step of the HAL. -/
inductive HalOp
  | activate (sensorHandle : Int32) (enabled : Bool) (r : ReportInput)
  | batch (sensorHandle : Int32) (samplingPeriodNs maxReportLatencyNs : Int64)
  | configDirectReport (sensorHandle channelHandle : Int32) (rate : RateLevel)
  | flush (sensorHandle : Int32) (u : Uptime) (r : ReportInput)
  | initializeHal (i : InitializeInput)
  | injectSensorData (event : Event)
  | registerDirectChannel (mem : SharedMemInfo) (ashmem : Ashmem)
  | setOperationMode (mode : OperationMode)
  | unregisterDirectChannel (channelHandle : Int32)
  | sensorThread (sensorHandle : Int32) (values : List SensorValues) (u : Uptime)
  | readWakeLockFMQ (eventsHandled : Int32) (u : Uptime)
  | frameworkReads (count : Nat)

namespace SensorsHalAidl

/-- A step, what it answers and the calls it makes; a step that is no call of the framework answers nothing. -/
def exec (s : SensorsHalAidl) : HalOp → SensorsHalAidl × Option ScopedAStatus × List HalCall
  | .activate sensorHandle enabled r =>
    let (s, status, calls) := s.activate sensorHandle enabled r
    (s, some status, calls)
  | .batch sensorHandle samplingPeriodNs maxReportLatencyNs =>
    let (s, status, calls) := s.batch sensorHandle samplingPeriodNs maxReportLatencyNs
    (s, some status, calls)
  | .configDirectReport sensorHandle channelHandle rate =>
    let (s, status, calls) := s.configDirectReport sensorHandle channelHandle rate
    (s, some status, calls)
  | .flush sensorHandle u r =>
    let (s, status, calls) := s.flush sensorHandle u r
    (s, some status, calls)
  | .initializeHal i =>
    let (s, status, calls) := s.initializeHal i
    (s, some status, calls)
  | .injectSensorData event =>
    let (s, status, calls) := s.injectSensorData event
    (s, some status, calls)
  | .registerDirectChannel mem ashmem =>
    let (s, status, calls) := s.registerDirectChannel mem ashmem
    (s, some status, calls)
  | .setOperationMode mode =>
    let (s, status, calls) := s.setOperationMode mode
    (s, some status, calls)
  | .unregisterDirectChannel channelHandle =>
    let (s, status, calls) := s.unregisterDirectChannel channelHandle
    (s, some status, calls)
  | .sensorThread sensorHandle values u =>
    let (s, calls) := s.sensorThread sensorHandle values u
    (s, none, calls)
  | .readWakeLockFMQ eventsHandled u =>
    let (s, calls) := s.readWakeLockFMQ eventsHandled u
    (s, none, calls)
  | .frameworkReads count => (s.frameworkReads count, none, [])

def step (s : SensorsHalAidl) (op : HalOp) : SensorsHalAidl := (s.exec op).1

end SensorsHalAidl
end Aidl
end MemsHal
