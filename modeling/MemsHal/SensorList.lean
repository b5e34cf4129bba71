import MemsHal.SensorCore
/-!
# SensorList — `sensors/SMI230.cpp`, `SMI240.cpp`, `SMI330.cpp`, `SensorList.h`

The twelve `SensorCore` instances of `SensorList`, what their subclasses do in `setPowerMode` and `setSamplingRate`,
and the sysfs attributes they write.  Each physical channel has a calibrated and an uncalibrated instance, and all
four SMI330 instances share the one `Smi330Imu`.  Writes succeed, so an attribute holds what was last written.
-/
namespace MemsHal

/-- The elements of `SensorList::mSensorList`, in its order. -/
inductive SensorId
  | smi330Acc
  | smi330Gyro
  | smi240Acc
  | smi240Gyro
  | smi230Acc
  | smi230Gyro
  | smi330AccUncalibrated
  | smi330GyroUncalibrated
  | smi240AccUncalibrated
  | smi240GyroUncalibrated
  | smi230AccUncalibrated
  | smi230GyroUncalibrated
  deriving DecidableEq, Repr

/-! ## The constructors' sensor data -/

def smi330Acc : SensorData where
  driverName := "smi330"
  sensorName := "SMI330 BOSCH Accelerometer Sensor"
  type := .accel
  minDelayUs := 5000
  maxDelayUs := 1280000

def smi330AccUncalibrated : SensorData :=
  { smi330Acc with sensorName := "SMI330 BOSCH Accelerometer Uncalibrated Sensor", type := .accelUncalibrated }

def smi330Gyro : SensorData where
  driverName := "smi330"
  sensorName := "SMI330 BOSCH Gyroscope Sensor"
  type := .gyro
  minDelayUs := 5000
  maxDelayUs := 1280000

def smi330GyroUncalibrated : SensorData :=
  { smi330Gyro with sensorName := "SMI330 BOSCH Gyroscope Uncalibrated Sensor", type := .gyroUncalibrated }

def smi240Acc : SensorData where
  driverName := "smi240"
  sensorName := "SMI240 BOSCH Accelerometer Sensor"
  type := .accel
  minDelayUs := 5000
  maxDelayUs := 2000000

def smi240AccUncalibrated : SensorData :=
  { smi240Acc with sensorName := "SMI240 BOSCH Accelerometer Uncalibrated Sensor", type := .accelUncalibrated }

def smi240Gyro : SensorData where
  driverName := "smi240"
  sensorName := "SMI240 BOSCH Gyroscope Sensor"
  type := .gyro
  minDelayUs := 5000
  maxDelayUs := 2000000

def smi240GyroUncalibrated : SensorData :=
  { smi240Gyro with sensorName := "SMI240 BOSCH Gyroscope Uncalibrated Sensor", type := .gyroUncalibrated }

def smi230Acc : SensorData where
  driverName := "smi230acc"
  sensorName := "SMI230 BOSCH Accelerometer Sensor"
  type := .accel
  minDelayUs := 10000
  maxDelayUs := 2000000

def smi230AccUncalibrated : SensorData :=
  { smi230Acc with sensorName := "SMI230 BOSCH Accelerometer Uncalibrated Sensor", type := .accelUncalibrated }

def smi230Gyro : SensorData where
  driverName := "smi230gyro"
  sensorName := "SMI230 BOSCH Gyroscope Sensor"
  type := .gyro
  minDelayUs := 10000
  maxDelayUs := 2000000

def smi230GyroUncalibrated : SensorData :=
  { smi230Gyro with sensorName := "SMI230 BOSCH Gyroscope Uncalibrated Sensor", type := .gyroUncalibrated }

def SensorId.data : SensorId → SensorData
  | .smi330Acc              => MemsHal.smi330Acc
  | .smi330Gyro             => MemsHal.smi330Gyro
  | .smi240Acc              => MemsHal.smi240Acc
  | .smi240Gyro             => MemsHal.smi240Gyro
  | .smi230Acc              => MemsHal.smi230Acc
  | .smi230Gyro             => MemsHal.smi230Gyro
  | .smi330AccUncalibrated  => MemsHal.smi330AccUncalibrated
  | .smi330GyroUncalibrated => MemsHal.smi330GyroUncalibrated
  | .smi240AccUncalibrated  => MemsHal.smi240AccUncalibrated
  | .smi240GyroUncalibrated => MemsHal.smi240GyroUncalibrated
  | .smi230AccUncalibrated  => MemsHal.smi230AccUncalibrated
  | .smi230GyroUncalibrated => MemsHal.smi230GyroUncalibrated

/-! ## Sysfs -/

/-- One successful `bosch::hwctl::WriteHandler`. -/
structure SysfsWrite where
  device : String
  file : String
  content : String
  deriving DecidableEq, Repr

/-- What an attribute holds after the writes of a log, `none` if it was never written. -/
def lastWritten (log : List SysfsWrite) (device file : String) : Option String :=
  (log.reverse.find? (fun w => w.device == device && w.file == file)).map SysfsWrite.content

@[simp] theorem lastWritten_nil (device file : String) : lastWritten [] device file = none := rfl

theorem lastWritten_append (a b : List SysfsWrite) (device file : String) :
    lastWritten (a ++ b) device file = (lastWritten b device file).or (lastWritten a device file) := by
  unfold lastWritten
  rw [List.reverse_append, List.find?_append]
  cases List.find? (fun w : SysfsWrite => w.device == device && w.file == file) b.reverse <;> rfl

theorem lastWritten_cons (w : SysfsWrite) (log : List SysfsWrite) (device file : String) :
    lastWritten (w :: log) device file =
      (lastWritten log device file).or (if w.device = device ∧ w.file = file then some w.content else none) := by
  rw [← List.singleton_append, lastWritten_append]
  congr 1
  unfold lastWritten
  simp only [List.reverse_singleton, List.find?_singleton, Bool.and_eq_true, beq_iff_eq]
  split <;> rfl

/-- Where `isSensorAvailable` found the drivers.  A directory names one driver, so the two SMI230 ones differ. -/
structure Devices where
  path : String → String
  distinct : path "smi230acc" ≠ path "smi230gyro"

/-- Each driver in a directory of its own name. -/
def Devices.byName : Devices := ⟨id, by decide⟩

/-! ## `Smi330Imu` -/

namespace Smi330Imu

inductive Index
  | accel
  | gyro
  deriving DecidableEq, Repr

def mMinSamplingRateNs : Int := 2500000
def mMaxSamplingRateNs : Int := 1280000000
def mSysfsOdr : String := "in_sampling_frequency"

def mSysfsPowerMode : Index → String
  | .accel => "in_accel_en"
  | .gyro  => "in_anglvel_en"

end Smi330Imu

/-- The state of the `Smi330Imu` singleton, an entry per `Index`. -/
structure Smi330Imu where
  mIsEnabled : Smi330Imu.Index → Bool := fun _ => false
  mSamplingPeriodNs : Smi330Imu.Index → Int := fun _ => Smi330Imu.mMaxSamplingRateNs

namespace Smi330Imu

/-- The loop of `updateSamplingRate` from one rung of the ladder on.  An `int64_t` is halved at most 63 times. -/
def odrLoop (samplingPeriodNs odr : Int) : Nat → Int → Int
  | 0,        _            => odr
  | fuel + 1, samplingRate =>
    if samplingRate ≥ mMinSamplingRateNs then
      if samplingPeriodNs ≥ samplingRate then 1000000000 / samplingRate
      else odrLoop samplingPeriodNs odr fuel (samplingRate / 2)
    else odr

def odrOf (samplingPeriodNs : Int) : Int :=
  odrLoop samplingPeriodNs (1000000000 / mMaxSamplingRateNs) 63 mMaxSamplingRateNs

/-- The period `updateSamplingRate` serves, `none` where it returns without writing. -/
def servedPeriod (imu : Smi330Imu) : Option Int :=
  if imu.mIsEnabled .accel && imu.mIsEnabled .gyro then
    some (min (imu.mSamplingPeriodNs .accel) (imu.mSamplingPeriodNs .gyro))
  else if imu.mIsEnabled .accel then some (imu.mSamplingPeriodNs .accel)
  else if imu.mIsEnabled .gyro then some (imu.mSamplingPeriodNs .gyro)
  else none

def updateSamplingRate (imu : Smi330Imu) (device : String) : List SysfsWrite :=
  match imu.servedPeriod with
  | none                  => []
  | some samplingPeriodNs => [⟨device, mSysfsOdr, toString (odrOf samplingPeriodNs)⟩]

def setPowerMode (imu : Smi330Imu) (idx : Index) (enable : Bool) (device : String) : Smi330Imu × List SysfsWrite :=
  let imu := { imu with mIsEnabled := Function.update imu.mIsEnabled idx enable }
  (imu, imu.updateSamplingRate device ++ [⟨device, mSysfsPowerMode idx, if enable then "3" else "0"⟩])

def setSamplingRate (imu : Smi330Imu) (idx : Index) (samplingPeriodNs : Int) (device : String) :
    Smi330Imu × List SysfsWrite :=
  let imu := { imu with mSamplingPeriodNs := Function.update imu.mSamplingPeriodNs idx samplingPeriodNs }
  (imu, imu.updateSamplingRate device)

end Smi330Imu

/-! ## The subclasses' virtual functions -/

/-- The slot of `Smi330Imu` an SMI330 instance uses. -/
def SensorId.imuIndex : SensorId → Option Smi330Imu.Index
  | .smi330Acc | .smi330AccUncalibrated   => some .accel
  | .smi330Gyro | .smi330GyroUncalibrated => some .gyro
  | _                                     => none

def Smi330Gyro.setScale (mDevice : String) : List SysfsWrite := [⟨mDevice, "in_anglvel_scale", "0.007629395"⟩]

def Smi230Acc.setPowerMode (mDevice : String) (enable : Bool) : List SysfsWrite :=
  [⟨mDevice, "odr", "200Hz"⟩, ⟨mDevice, "pwr", if enable then "normal" else "suspend"⟩]

def Smi230Gyro.setPowerMode (mDevice : String) (enable : Bool) : List SysfsWrite :=
  [⟨mDevice, "bw_odr", "bw64_odr200"⟩, ⟨mDevice, "pwr", if enable then "normal" else "suspend"⟩]

/-- `setPowerMode` of each subclass; the SMI240 inherits the empty one. -/
def setPowerMode (id : SensorId) (mDevice : String) (imu : Smi330Imu) (enable : Bool) : Smi330Imu × List SysfsWrite :=
  match id with
  | .smi330Acc | .smi330AccUncalibrated => imu.setPowerMode .accel enable mDevice
  | .smi330Gyro | .smi330GyroUncalibrated =>
    let (imu', writes) := imu.setPowerMode .gyro enable mDevice
    (imu', (if enable then Smi330Gyro.setScale mDevice else []) ++ writes)
  | .smi230Acc | .smi230AccUncalibrated => (imu, Smi230Acc.setPowerMode mDevice enable)
  | .smi230Gyro | .smi230GyroUncalibrated => (imu, Smi230Gyro.setPowerMode mDevice enable)
  | .smi240Acc | .smi240AccUncalibrated | .smi240Gyro | .smi240GyroUncalibrated => (imu, [])

/-- `setSamplingRate` of each subclass; the SMI230 and the SMI240 inherit the empty one. -/
def setSamplingRate (id : SensorId) (mDevice : String) (imu : Smi330Imu) (samplingPeriodNs : Int) :
    Smi330Imu × List SysfsWrite :=
  match id.imuIndex with
  | some idx => imu.setSamplingRate idx samplingPeriodNs mDevice
  | none     => (imu, [])

def DriverCall.run (id : SensorId) (mDevice : String) (imu : Smi330Imu) : DriverCall → Smi330Imu × List SysfsWrite
  | .setPowerMode enable              => MemsHal.setPowerMode id mDevice imu enable
  | .setSamplingRate samplingPeriodNs => MemsHal.setSamplingRate id mDevice imu samplingPeriodNs

/-- The calls an operation makes on its driver, one after the other. -/
def runCalls (id : SensorId) (mDevice : String) : Smi330Imu → List DriverCall → Smi330Imu × List SysfsWrite
  | imu, []            => (imu, [])
  | imu, call :: calls =>
    let (imu', writes) := call.run id mDevice imu
    let (imu'', writes') := runCalls id mDevice imu' calls
    (imu'', writes ++ writes')

/-! ## All instances together -/

/-- The cores of a `SensorList`, the singleton they share, everything written to sysfs and what was asked of each
core. -/
structure Fleet where
  cores : SensorId → SensorCore
  imu : Smi330Imu
  sysfs : List SysfsWrite
  asked : SensorId → Clients BoschSensorType Int

namespace Fleet

def fresh (devices : Devices) : Fleet where
  cores := fun id => { mSensorData := id.data, mDevice := devices.path id.data.driverName }
  imu := {}
  sysfs := []
  asked := fun _ => .none

/-- An operation on one instance, whoever issues it. -/
def step (f : Fleet) (op : SensorId × CoreOp) : Fleet :=
  let (core, calls) := (f.cores op.1).exec op.2
  let (imu, writes) := runCalls op.1 core.mDevice f.imu calls
  { cores := Function.update f.cores op.1 core
    imu := imu
    sysfs := f.sysfs ++ writes
    asked := Function.update f.asked op.1 (op.2.ask (f.asked op.1)) }

/-- What holds of every reachable fleet. -/
structure Inv (devices : Devices) (f : Fleet) : Prop where
  clients : ∀ id, (f.cores id).clients = f.asked id
  consistent : ∀ id, (f.cores id).Consistent
  device : ∀ id, (f.cores id).mDevice = devices.path id.data.driverName
  data : ∀ id, (f.cores id).mSensorData = id.data

theorem inv_fresh (devices : Devices) : Inv devices (fresh devices) where
  clients := fun _ => rfl
  consistent := fun _ => iff_of_false Bool.false_ne_true Clients.not_running_none
  device := fun _ => rfl
  data := fun _ => rfl

theorem inv_step (devices : Devices) (f : Fleet) (op : SensorId × CoreOp) (h : Inv devices f) :
    Inv devices (f.step op) := by
  have hcore : ∀ id, (f.step op).cores id = if id = op.1 then ((f.cores op.1).exec op.2).1 else f.cores id :=
    fun id => Function.update_apply ..
  have hasked : ∀ id, (f.step op).asked id = if id = op.1 then op.2.ask (f.asked op.1) else f.asked id :=
    fun id => Function.update_apply ..
  refine ⟨fun id => ?_, fun id => ?_, fun id => ?_, fun id => ?_⟩
  · rw [hcore, hasked]
    split
    · rw [SensorCore.exec_clients, h.clients]
    · exact h.clients id
  · rw [hcore]
    split
    · exact SensorCore.exec_consistent _ _ (h.consistent op.1)
    · exact h.consistent id
  · rw [hcore]
    split
    · rename_i hid
      rw [SensorCore.exec_device, h.device, hid]
    · exact h.device id
  · rw [hcore]
    split
    · rename_i hid
      rw [SensorCore.exec_data, h.data, hid]
    · exact h.data id

@[simp] theorem step_asked_self (f : Fleet) (op : SensorId × CoreOp) :
    (f.step op).asked op.1 = op.2.ask (f.asked op.1) := by
  simp [step]

theorem step_asked_of_ne (f : Fleet) (op : SensorId × CoreOp) {id : SensorId} (h : id ≠ op.1) :
    (f.step op).asked id = f.asked id := by
  simp [step, h]

/-- The enable flag of an instance tells whether it has an enabled type. -/
theorem Inv.isEnabled_iff {devices : Devices} {f : Fleet} (h : Inv devices f) (id : SensorId) :
    (f.cores id).mIsEnabled = true ↔ (f.asked id).Running := by
  rw [← h.clients]
  exact h.consistent id

end Fleet

/-! ## Composite sensors

`mJustStarted` and `mSamplingPeriodNs` have no initializer: `none` until they are assigned. -/

structure CompositeSensorCore where
  mSensorData : SensorData
  mDependencyList : List SensorId
  mJustStarted : Option Bool := none
  mSamplingPeriodNs : Option Int := none

/-- The composite after the call, and the calls it makes on its dependencies. -/
def CompositeSensorCore.activate (c : CompositeSensorCore) (enable : Bool) :
    CompositeSensorCore × List (SensorId × CoreOp) :=
  ({ c with mJustStarted := some true },
    c.mDependencyList.map (fun sensor => (sensor, .activateByType c.mSensorData.type enable)))

def CompositeSensorCore.batch (c : CompositeSensorCore) (samplingPeriodNs maxReportLatencyNs : Int64) :
    CompositeSensorCore × List (SensorId × CoreOp) :=
  ({ c with mSamplingPeriodNs := some samplingPeriodNs.toInt },
    c.mDependencyList.map
      (fun sensor => (sensor, .batchByType c.mSensorData.type samplingPeriodNs maxReportLatencyNs)))

end MemsHal
