import MemsHal.RawSysfs
import MemsHal.SensorList
/-!
# Discovery — `hwctl/FileHandler.cpp` and `sensors/SensorList.cpp`: which sensors there are

A sensor is there if the name of some IIO device starts with that of its driver, and its files are those of the first
such device; a composite sensor is there if both sensors that it is computed from are.  No driver's name is the start of
another's, so a device belongs to one driver, which is what `Devices` asks for (`IioBus.devices`).
-/
namespace MemsHal

open RegularExpression CharClass

/-- The entries of `/sys/bus/iio/devices/` in the order of `readdir`, `none` if the directory cannot be opened; and what
the files hold that can be. -/
structure IioBus where
  entries : Option (List String)
  file : String → Option (List Char)

def iioPath : String := "/sys/bus/iio/devices/"

/-- `iio:device\d+` -/
def iioPattern : RegularExpression Char :=
  "iio:device".toList.foldr (fun c r => char c * r) (atLeastOnce (oneOf RawSysfs.digits))

namespace IioBus

/-- An entry is a device whose name starts with that of the driver. -/
def isDriver (bus : IioBus) (driverName entry : String) : Bool :=
  iioPattern.rmatch entry.toList &&
    match bus.file (iioPath ++ (entry ++ "/name")) with
    | some name => driverName.toList.isPrefixOf name
    | none      => false

/-- The device that the search leaves, if it finds one. -/
def isSensorAvailable (bus : IioBus) (driverName : String) : Option String :=
  match bus.entries with
  | none         => none
  | some entries => (entries.find? (bus.isDriver driverName)).map fun entry => iioPath ++ entry ++ "/"

theorem isSensorAvailable_eq_some {bus : IioBus} {driverName device : String}
    (h : bus.isSensorAvailable driverName = some device) :
    ∃ entry, device = iioPath ++ entry ++ "/" ∧ bus.isDriver driverName entry = true := by
  unfold isSensorAvailable at h
  split at h
  · cases h
  · obtain ⟨entry, hentry, rfl⟩ := Option.map_eq_some_iff.1 h
    exact ⟨entry, rfl, List.find?_some hentry⟩

theorem device_inj {entry entry' : String} (h : iioPath ++ entry ++ "/" = iioPath ++ entry' ++ "/") :
    entry = entry' := by
  have hlist := congrArg String.toList h
  simp only [String.toList_append] at hlist
  exact String.toList_inj.1 (List.append_cancel_left (List.append_cancel_right hlist))

/-- A device has one name, so the names of two drivers at it start alike. -/
theorem prefix_of_isDriver {bus : IioBus} {driverName driverName' entry : String}
    (h : bus.isDriver driverName entry = true) (h' : bus.isDriver driverName' entry = true) :
    driverName.toList <+: driverName'.toList ∨ driverName'.toList <+: driverName.toList := by
  obtain ⟨-, h⟩ := Bool.and_eq_true_iff.1 h
  obtain ⟨-, h'⟩ := Bool.and_eq_true_iff.1 h'
  cases hname : bus.file (iioPath ++ (entry ++ "/name")) with
  | none =>
    rw [hname] at h
    cases h
  | some name =>
    rw [hname] at h h'
    exact List.prefix_or_prefix_of_prefix (List.isPrefixOf_iff_prefix.1 h) (List.isPrefixOf_iff_prefix.1 h')

/-- **Two drivers are found at two devices**, unless the name of one starts with that of the other. -/
theorem device_ne {bus : IioBus} {driverName driverName' device device' : String}
    (h : bus.isSensorAvailable driverName = some device) (h' : bus.isSensorAvailable driverName' = some device')
    (hne : ¬ (driverName.toList <+: driverName'.toList ∨ driverName'.toList <+: driverName.toList)) :
    device ≠ device' := by
  obtain ⟨entry, rfl, hdriver⟩ := isSensorAvailable_eq_some h
  obtain ⟨entry', rfl, hdriver'⟩ := isSensorAvailable_eq_some h'
  intro heq
  obtain rfl := device_inj heq
  exact hne (prefix_of_isDriver hdriver hdriver')

/-- A device is not a driver's name. -/
theorem device_ne_name {bus : IioBus} {driverName device : String}
    (h : bus.isSensorAvailable driverName = some device) {name : List Char} (hname : '/' ∉ name) :
    device.toList ≠ name := by
  obtain ⟨entry, rfl, -⟩ := isSensorAvailable_eq_some h
  rintro rfl
  refine hname ?_
  simp only [String.toList_append, List.mem_append]
  exact Or.inr (by decide)

/-- Where the drivers are; one that is not there has its name for a device. -/
def devices (bus : IioBus) : Devices where
  path driverName := (bus.isSensorAvailable driverName).getD driverName
  distinct := by
    cases hacc : bus.isSensorAvailable "smi230acc" with
    | none =>
      cases hgyro : bus.isSensorAvailable "smi230gyro" with
      | none => decide
      | some gyro => exact fun heq => device_ne_name hgyro (by decide) (congrArg String.toList heq).symm
    | some acc =>
      cases hgyro : bus.isSensorAvailable "smi230gyro" with
      | none => exact fun heq => device_ne_name hacc (by decide) (congrArg String.toList heq)
      | some gyro => exact device_ne hacc hgyro (by decide)

end IioBus

/-! ## `SensorList` -/

/-- `SensorList::mSensorList`. -/
def mSensorList : List SensorId :=
  [.smi330Acc, .smi330Gyro, .smi240Acc, .smi240Gyro, .smi230Acc, .smi230Gyro, .smi330AccUncalibrated,
    .smi330GyroUncalibrated, .smi240AccUncalibrated, .smi240GyroUncalibrated, .smi230AccUncalibrated,
    .smi230GyroUncalibrated]

/-- The elements of `SensorList::mCompositeSensorList`, in its order. -/
inductive CompositeId
  | smi330Gravity
  | smi330LinearAcc
  | smi240Gravity
  | smi240LinearAcc
  | smi230Gravity
  | smi230LinearAcc
  deriving DecidableEq, Repr

def mCompositeSensorList : List CompositeId :=
  [.smi330Gravity, .smi330LinearAcc, .smi240Gravity, .smi240LinearAcc, .smi230Gravity, .smi230LinearAcc]

theorem composite_noOverflow : (20000 : Int) * 1000 < 2 ^ 31 := by decide

/-- What a constructor sets of a composite sensor. -/
def compositeCore (sensorName : String) (type : BoschSensorType) (minDelayUs : Int) (accel gyro : SensorId) :
    CompositeSensorCore where
  mSensorData :=
    { driverName := "", sensorName := sensorName, type := type, minDelayUs := minDelayUs, maxDelayUs := 20000,
      noOverflow := composite_noOverflow }
  mDependencyList := [accel, gyro]

def CompositeId.core : CompositeId → CompositeSensorCore
  | .smi330Gravity   => compositeCore "SMI330 BOSCH Gravity Sensor" .gravity 5000 .smi330Acc .smi330Gyro
  | .smi330LinearAcc =>
    compositeCore "SMI330 BOSCH Linear Accelerometer Sensor" .linearAccel 5000 .smi330Acc .smi330Gyro
  | .smi240Gravity   => compositeCore "SMI240 BOSCH Gravity Sensor" .gravity 5000 .smi240Acc .smi240Gyro
  | .smi240LinearAcc =>
    compositeCore "SMI240 BOSCH Linear Accelerometer Sensor" .linearAccel 5000 .smi240Acc .smi240Gyro
  | .smi230Gravity   => compositeCore "SMI230 BOSCH Gravity Sensor" .gravity 10000 .smi230Acc .smi230Gyro
  | .smi230LinearAcc =>
    compositeCore "SMI230 BOSCH Linear Accelerometer Sensor" .linearAccel 10000 .smi230Acc .smi230Gyro

/-- An element of what `getAvailableSensors` returns. -/
inductive AvailableSensor
  | core (id : SensorId)
  | composite (id : CompositeId)
  deriving DecidableEq, Repr

def AvailableSensor.getSensorData : AvailableSensor → SensorData
  | core id      => id.data
  | composite id => id.core.mSensorData

/-- A core is made available, with the device that was found. -/
def SensorId.isAvailable (bus : IioBus) (id : SensorId) : Bool := (bus.isSensorAvailable id.data.driverName).isSome

/-- The composite has as many available dependencies as it has dependencies. -/
def CompositeId.isAvailable (bus : IioBus) (id : CompositeId) : Bool :=
  id.core.mDependencyList.countP (SensorId.isAvailable bus) = id.core.mDependencyList.length

def getAvailableSensors (bus : IioBus) : List AvailableSensor :=
  (mSensorList.filter (SensorId.isAvailable bus)).map .core ++
    (mCompositeSensorList.filter (CompositeId.isAvailable bus)).map .composite

theorem mem_mSensorList (id : SensorId) : id ∈ mSensorList := by cases id <;> decide

theorem mem_mCompositeSensorList (id : CompositeId) : id ∈ mCompositeSensorList := by cases id <;> decide

theorem core_mem_getAvailableSensors (bus : IioBus) (id : SensorId) :
    .core id ∈ getAvailableSensors bus ↔ bus.isSensorAvailable id.data.driverName ≠ none := by
  unfold getAvailableSensors
  simp [mem_mSensorList, SensorId.isAvailable, Option.isSome_iff_ne_none]

/-- **A composite sensor is there exactly if all that it is computed from is.** -/
theorem composite_mem_getAvailableSensors (bus : IioBus) (id : CompositeId) :
    .composite id ∈ getAvailableSensors bus ↔
      ∀ sensor ∈ id.core.mDependencyList, .core sensor ∈ getAvailableSensors bus := by
  have hcount : id.isAvailable bus = true ↔ ∀ sensor ∈ id.core.mDependencyList, sensor.isAvailable bus = true := by
    unfold CompositeId.isAvailable
    rw [decide_eq_true_iff, List.countP_eq_length]
  have hmem : .composite id ∈ getAvailableSensors bus ↔ id.isAvailable bus = true := by
    unfold getAvailableSensors
    simp [mem_mCompositeSensorList]
  rw [hmem, hcount]
  refine forall₂_congr fun sensor _ => ?_
  rw [core_mem_getAvailableSensors, SensorId.isAvailable, Option.isSome_iff_ne_none]

theorem nodup_getAvailableSensors (bus : IioBus) : (getAvailableSensors bus).Nodup := by
  have hcores : mSensorList.Nodup := by decide
  have hcomposites : mCompositeSensorList.Nodup := by decide
  refine List.nodup_append.2 ⟨?_, ?_, ?_⟩
  · exact (hcores.filter _).map fun _ _ h => AvailableSensor.core.inj h
  · exact (hcomposites.filter _).map fun _ _ h => AvailableSensor.composite.inj h
  · intro a ha b hb
    obtain ⟨_, -, rfl⟩ := List.mem_map.1 ha
    obtain ⟨_, -, rfl⟩ := List.mem_map.1 hb
    exact nofun

end MemsHal
