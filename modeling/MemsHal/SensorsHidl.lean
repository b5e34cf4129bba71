import MemsHal.HidlSensor
/-!
# SensorsHidl — `2.X/Sensors.h`: the stand-alone HAL of the HIDL interfaces

The sensors, the tables and what the calls make of them are those of a sub-HAL; the Event FMQ and the wake lock are
those of the AIDL HAL, but a post that comes before the first `initialize` goes through a null pointer, which is
`none`.
-/
namespace MemsHal
namespace Hidl

open Aidl (Event Float32Word HalSensor SensorDescription SharedMemInfo HalCall HalOp WakeLock Uptime
  ReportInput InitializeInput SensorsHalAidl ScopedAStatus)
open ConvertUtils (HidlEvent)
open MultiHal (ISensorsSubHalBase Result RateLevel)

structure EventQueue where
  quantumCount : Nat
  unread : List HidlEvent

namespace EventQueue

def write (queue : EventQueue) (events : List HidlEvent) : Option EventQueue :=
  if queue.unread.length + events.length ≤ queue.quantumCount then
    some { queue with unread := queue.unread ++ events }
  else none

def read (queue : EventQueue) (count : Nat) : EventQueue := { queue with unread := queue.unread.drop count }

end EventQueue

/-- A call that the HAL makes; the sensors keep their own. -/
inductive Call
  | posted (events : List HidlEvent) (wakeup : Bool)
  | written (events : List HidlEvent)
  | wakeLock (call : HalCall)

structure Sensors extends ISensorsSubHalBase where
  mEventQueue : Option EventQueue
  wakeLock : WakeLock
  mReadWakeLockQueueRun : Bool
  lastTemperature : Float32Word

namespace Sensors

def construct (timeoutSeconds : UInt32) (descriptions : List SensorDescription) : Sensors where
  toISensorsSubHalBase := .construct descriptions
  mEventQueue := none
  wakeLock := .fresh timeoutSeconds
  mReadWakeLockQueueRun := false
  lastTemperature := 0

/-! ## Posting events -/

def updateWakeLock (s : Sensors) (eventsWritten eventsHandled : Int32) (u : Uptime) : Sensors × List Call :=
  let (wakeLock, calls) := s.wakeLock.updateWakeLock eventsWritten eventsHandled u
  ({ s with wakeLock := wakeLock }, calls.map .wakeLock)

/-- A write that succeeds wakes the event flag, which the last `initialize` is taken to have created. -/
def postEvents (s : Sensors) (events : List HidlEvent) (wakeup : Bool) (u : Uptime) : Option (Sensors × List Call) :=
  match s.mEventQueue with
  | none       => none
  | some queue =>
    match queue.write events with
    | none       => some (s, [.posted events wakeup])
    | some queue =>
      let s := { s with mEventQueue := some queue }
      if wakeup then
        let (s, calls) := s.updateWakeLock (Int32.ofNat events.length) 0 u
        some (s, [.posted events wakeup, .written events] ++ calls)
      else some (s, [.posted events wakeup, .written events])

def sendAdditionalInfoReport (s : Sensors) (sensor : HalSensor) (fresh : ByteMemory) (r : ReportInput) :
    Option (Sensors × List Call) :=
  s.postEvents (additionalInfoEvents sensor fresh r.temperature r.elapsed) sensor.isWakeUpSensor r.uptime

/-- A pass of `readWakeLockFMQ`; a read that times out leaves 0 events handled. -/
def readWakeLockFMQ (s : Sensors) (eventsHandled : UInt32) (u : Uptime) : Sensors × List Call :=
  if s.mReadWakeLockQueueRun then s.updateWakeLock 0 eventsHandled.toInt32 u else (s, [])

/-! ## The calls of the framework -/

/-- What a call makes of the sensors and the tables. -/
def withBase (s : Sensors) (b : ISensorsSubHalBase) : Sensors := { s with toISensorsSubHalBase := b }

def setOperationMode (s : Sensors) (mode : Aidl.OperationMode) : Result :=
  s.mSensors.toList.foldl (fun _ _ => if mode = .normal then .ok else .badValue) .ok

def activate (s : Sensors) (sensorHandle : Int32) (enabled : Bool) (fresh : ByteMemory) (r : ReportInput) :
    Option (Sensors × Result × List Call) :=
  match s.mSensors[sensorHandle]? with
  | some sensor =>
    let s := s.withBase { s.toISensorsSubHalBase with
      mSensors := (Aidl.Sensors.execAt s.mSensors sensorHandle (.activate enabled)).1 }
    if .sendAdditionalInfoReport ∈ (sensor.history.sensor.activate enabled).2 then
      (s.sendAdditionalInfoReport sensor fresh r).map fun (s, calls) => (s, .ok, calls)
    else some (s, .ok, [])
  | none => some (s, .badValue, [])

def batch (s : Sensors) (sensorHandle : Int32) (samplingPeriodNs maxReportLatencyNs : Int64) : Sensors × Result :=
  let (b, result) := s.toISensorsSubHalBase.batch sensorHandle samplingPeriodNs maxReportLatencyNs
  (s.withBase b, result)

/-- `ev` is the event of `Sensor::flush` before it is set. -/
def flush (s : Sensors) (sensorHandle : Int32) (ev : HidlEvent) (fresh : ByteMemory) (u : Uptime) (r : ReportInput) :
    Option (Sensors × Result × List Call) :=
  match s.mSensors[sensorHandle]? with
  | some sensor =>
    if sensor.history.sensor.mIsEnabled = false ∨ sensor.hasFlag Aidl.SensorFlagBits.oneShotMode then
      some (s, .badValue, [])
    else
      match s.postEvents [flushComplete sensor ev] sensor.isWakeUpSensor u with
      | none            => none
      | some (s, calls) =>
        (s.sendAdditionalInfoReport sensor fresh r).map fun (s, reports) => (s, .ok, calls ++ reports)
  | none => some (s, .badValue, [])

/-- The old wake-lock thread is told to stop and joined; it may be in the middle of a pass. -/
def joinWakeLockThread (s : Sensors) (lastPass : Option (UInt32 × Uptime)) : Sensors × List Call :=
  match lastPass with
  | some (eventsHandled, u) => s.readWakeLockFMQ eventsHandled u
  | none                    => (s, [])

def initializeBase (s : Sensors) (quantumCount : Nat) (eventFlagOk callback : Bool)
    (lastPass : Option (UInt32 × Uptime)) : Sensors × Result × List Call :=
  let s := s.withBase { s.toISensorsSubHalBase with
    mSensors := (Aidl.Sensors.execEach s.mSensors (s.mSensors.keys.map (·, .activate false))).1 }
  let (s, calls) := s.joinWakeLockThread lastPass
  let s := s.withBase { s.toISensorsSubHalBase with
    mSensors := (Aidl.Sensors.execEach s.mSensors (SensorsHalAidl.removals s.mDirectChannels)).1
    mDirectChannels := ∅ }
  ({ s with mEventQueue := some ⟨quantumCount, []⟩, mReadWakeLockQueueRun := true },
    if eventFlagOk ∧ callback then .ok else .badValue, calls)

def injectSensorData (s : Sensors) (sensorHandle : Int32) : Result :=
  s.toISensorsSubHalBase.injectSensorData sensorHandle

def registerDirectChannel (s : Sensors) (mem : SharedMemInfo) (memory : ISensorsSubHalBase.SharedMemory) :
    Sensors × Result × Int32 :=
  let (b, answer) := s.toISensorsSubHalBase.registerDirectChannel mem memory
  (s.withBase b, answer)

def unregisterDirectChannel (s : Sensors) (channelHandle : Int32) : Sensors × Result :=
  let (b, result) := s.toISensorsSubHalBase.unregisterDirectChannel channelHandle
  (s.withBase b, result)

def configDirectReport (s : Sensors) (sensorHandle channelHandle : Int32) (rate : RateLevel) :
    Sensors × Result × Int32 :=
  let (b, answer) := s.toISensorsSubHalBase.configDirectReport sensorHandle channelHandle rate
  (s.withBase b, answer)

/-! ## Steps of other threads -/

/-- The post of a pass of `Sensor::run`. -/
def sensorThread (s : Sensors) (sensorHandle : Int32) (fresh : ByteMemory) (values : List Aidl.SensorValues)
    (u : Uptime) : Option (Sensors × List Call) :=
  match s.mSensors[sensorHandle]? with
  | some sensor =>
    let (events, lastTemperature) := readEvents sensor fresh s.lastTemperature values
    let s := { s with lastTemperature := lastTemperature }
    if sensor.history.sensor.mIsEnabled then s.postEvents events sensor.isWakeUpSensor u else some (s, [])
  | none => some (s, [])

/-- The framework takes events from the Event FMQ. -/
def frameworkReads (s : Sensors) (count : Nat) : Sensors :=
  { s with mEventQueue := s.mEventQueue.map (·.read count) }

end Sensors

/-- A step of the HAL; `fresh` and `ev` are what the memory of a new union and of a new event holds. -/
inductive Op
  | activate (sensorHandle : Int32) (enabled : Bool) (fresh : ByteMemory) (r : ReportInput)
  | batch (sensorHandle : Int32) (samplingPeriodNs maxReportLatencyNs : Int64)
  | configDirectReport (sensorHandle channelHandle : Int32) (rate : RateLevel)
  | flush (sensorHandle : Int32) (ev : HidlEvent) (fresh : ByteMemory) (u : Uptime) (r : ReportInput)
  | initializeBase (quantumCount : Nat) (eventFlagOk callback : Bool) (lastPass : Option (UInt32 × Uptime))
  | injectSensorData (sensorHandle : Int32)
  | registerDirectChannel (mem : SharedMemInfo) (memory : ISensorsSubHalBase.SharedMemory)
  | setOperationMode (mode : Aidl.OperationMode)
  | unregisterDirectChannel (channelHandle : Int32)
  | sensorThread (sensorHandle : Int32) (fresh : ByteMemory) (values : List Aidl.SensorValues) (u : Uptime)
  | readWakeLockFMQ (eventsHandled : UInt32) (u : Uptime)
  | frameworkReads (count : Nat)

namespace Sensors

/-- A step, what it answers and the calls it makes; a step that is no call of the framework answers nothing. -/
def exec (s : Sensors) : Op → Option (Sensors × Option Result × List Call)
  | .activate sensorHandle enabled fresh r =>
    (s.activate sensorHandle enabled fresh r).map fun (s, result, calls) => (s, some result, calls)
  | .batch sensorHandle samplingPeriodNs maxReportLatencyNs =>
    let (s, result) := s.batch sensorHandle samplingPeriodNs maxReportLatencyNs
    some (s, some result, [])
  | .configDirectReport sensorHandle channelHandle rate =>
    let (s, result, _) := s.configDirectReport sensorHandle channelHandle rate
    some (s, some result, [])
  | .flush sensorHandle ev fresh u r =>
    (s.flush sensorHandle ev fresh u r).map fun (s, result, calls) => (s, some result, calls)
  | .initializeBase quantumCount eventFlagOk callback lastPass =>
    let (s, result, calls) := s.initializeBase quantumCount eventFlagOk callback lastPass
    some (s, some result, calls)
  | .injectSensorData sensorHandle => some (s, some (s.injectSensorData sensorHandle), [])
  | .registerDirectChannel mem memory =>
    let (s, result, _) := s.registerDirectChannel mem memory
    some (s, some result, [])
  | .setOperationMode mode => some (s, some (s.setOperationMode mode), [])
  | .unregisterDirectChannel channelHandle =>
    let (s, result) := s.unregisterDirectChannel channelHandle
    some (s, some result, [])
  | .sensorThread sensorHandle fresh values u =>
    (s.sensorThread sensorHandle fresh values u).map fun (s, calls) => (s, none, calls)
  | .readWakeLockFMQ eventsHandled u =>
    let (s, calls) := s.readWakeLockFMQ eventsHandled u
    some (s, none, calls)
  | .frameworkReads count => some (s.frameworkReads count, none, [])

end Sensors
end Hidl
end MemsHal
