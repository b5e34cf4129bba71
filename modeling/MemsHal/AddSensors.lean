import MemsHal.Discovery
import MemsHal.HalChannels
/-!
# AddSensors — the sensors that the shipped HAL offers

`AddSensors` numbers the available sensors from 1 and gives each the flags of its reporting mode, which is continuous
for all of them.  The framework sees the same list in every run (`getSensorsList_run`).
-/
namespace MemsHal

def BoschSensorType.toSensorType : BoschSensorType → Aidl.SensorType
  | .accel             => .accelerometer
  | .gyro              => .gyroscope
  | .gravity           => .gravity
  | .linearAccel       => .linearAcceleration
  | .gyroUncalibrated  => .gyroscopeUncalibrated
  | .accelUncalibrated => .accelerometerUncalibrated

/-- The cast between the enumerations keeps the number. -/
theorem BoschSensorType.toSensorType_value (type : BoschSensorType) :
    type.toSensorType.value = Int32.ofNat type.value := by
  cases type <;> rfl

inductive SensorReportingMode
  | continuous
  | onChange
  | oneShot
  | specialReporting

/-- What every constructor sets of `reportMode`. -/
def AvailableSensor.reportMode (_ : AvailableSensor) : SensorReportingMode := .continuous

namespace Aidl

namespace SensorFlagBits

def continuousMode : Int32 := 0x0

def onChangeMode : Int32 := 0x2

def specialReportingMode : Int32 := 0x6

def additionalInfo : Int32 := 0x40

end SensorFlagBits

/-- The flags that `AddSensors` gives a sensor. -/
def flagsOf : SensorReportingMode → Int32
  | .continuous => SensorFlagBits.continuousMode ||| SensorFlagBits.additionalInfo |||
    SensorFlagBits.directChannelAshmem ||| ((1 : Int32) <<< SensorFlagBits.shiftDirectReport)
  | .onChange         => SensorFlagBits.onChangeMode
  | .oneShot          => SensorFlagBits.oneShotMode
  | .specialReporting => SensorFlagBits.specialReportingMode

/-- What `AddSensors` takes from elsewhere: the configuration of a sensor in the XML files, and its resolution. -/
structure Shipping where
  getSensorConfiguration : String → SensorType → Option (List Configuration)
  resolution : AvailableSensor → Float32Word

def delaysOf (data : SensorData) : SensorInfo := ⟨Int32.ofInt data.minDelayUs, Int32.ofInt data.maxDelayUs⟩

def Shipping.sensorInfo (shipping : Shipping) (sensorHandle : Int32) (sensor : AvailableSensor) :
    SensorDescription where
  sensorHandle := sensorHandle
  name := sensor.getSensorData.sensorName
  type := sensor.getSensorData.type.toSensorType
  flags := flagsOf sensor.reportMode
  resolution := shipping.resolution sensor
  delays := delaysOf sensor.getSensorData
  mConfig := shipping.getSensorConfiguration sensor.getSensorData.sensorName sensor.getSensorData.type.toSensorType

/-- The sensors that `AddSensors` adds, `mNextHandle` counting from 1. -/
def Shipping.addSensors (shipping : Shipping) (bus : IioBus) : List SensorDescription :=
  ((getAvailableSensors bus).zipIdx 1).map fun sensor => shipping.sensorInfo (Int32.ofNat sensor.2) sensor.1

def SensorsHalAidl.getSensorsList (s : SensorsHalAidl) : List SensorDescription :=
  s.mSensors.toList.map fun sensor => sensor.2.description

/-- The HAL as its constructor leaves it. -/
def Shipping.hal (shipping : Shipping) (timeoutSeconds : UInt32) (bus : IioBus) : SensorsHalAidl :=
  .construct timeoutSeconds (shipping.addSensors bus)

namespace AddSensors

open Run (run)

variable (shipping : Shipping) (timeoutSeconds : UInt32) (bus : IioBus)

/-! ## The list -/

theorem length_getAvailableSensors : (getAvailableSensors bus).length ≤ 18 := by
  unfold getAvailableSensors
  rw [List.length_append, List.length_map, List.length_map]
  have hcores := List.length_filter_le (SensorId.isAvailable bus) mSensorList
  have hcomposites := List.length_filter_le (CompositeId.isAvailable bus) mCompositeSensorList
  exact Nat.add_le_add hcores hcomposites

theorem compare_handles {i j : Nat} (hlt : i < j) (hj : j ≤ 18) : compare (Int32.ofNat i) (Int32.ofNat j) = .lt := by
  rw [Std.compare_eq_lt, Int32.lt_iff_toInt_lt, Int32.toInt_ofNat_of_lt (by omega), Int32.toInt_ofNat_of_lt (by omega)]
  omega

/-- The handles ascend. -/
theorem ascending : (shipping.addSensors bus).Pairwise fun a b => compare a.sensorHandle b.sensorHandle = .lt := by
  have hlength := length_getAvailableSensors bus
  refine List.pairwise_map.2 (List.pairwise_iff_getElem.2 fun i j hi hj hlt => ?_)
  rw [List.length_zipIdx] at hi hj
  simp only [List.getElem_zipIdx]
  exact compare_handles (by omega) (by omega)

theorem mem_addSensors {d : SensorDescription} (h : d ∈ shipping.addSensors bus) :
    ∃ sensorHandle sensor, sensor ∈ getAvailableSensors bus ∧ d = shipping.sensorInfo sensorHandle sensor := by
  obtain ⟨⟨sensor, n⟩, hm, rfl⟩ := List.mem_map.1 h
  exact ⟨Int32.ofNat n, sensor, (List.mem_zipIdx hm).2.2 ▸ List.getElem_mem _, rfl⟩

theorem description_step (s : SensorsHalAidl) (op : HalOp) (k : Int32) :
    (s.step op).mSensors[k]?.map HalSensor.description = s.mSensors[k]?.map HalSensor.description := by
  have heffect := effect_step s op
  cases hk : (s.step op).mSensors[k]? with
  | none =>
    have hnot : k ∉ s.mSensors := fun hm => by
      have hm' := (heffect.mem_iff k).2 hm
      rw [Std.ExtTreeMap.mem_iff_isSome_getElem?, hk] at hm'
      cases hm'
    rw [Std.ExtTreeMap.getElem?_eq_none hnot]
  | some sensor' =>
    obtain ⟨sensor, ops, hsensor, rfl⟩ := heffect.sensor hk
    rw [hsensor, Option.map_some, Option.map_some, HalSensor.description_run]

theorem getSensorsList_congr {s s' : SensorsHalAidl}
    (h : ∀ k : Int32, s'.mSensors[k]?.map HalSensor.description = s.mSensors[k]?.map HalSensor.description) :
    s'.getSensorsList = s.getSensorsList := by
  have hmap : s'.mSensors.map (fun _ => HalSensor.description) = s.mSensors.map (fun _ => HalSensor.description) :=
    Std.ExtTreeMap.ext_getElem? fun k => by
      rw [Std.ExtTreeMap.getElem?_map, Std.ExtTreeMap.getElem?_map, h k]
  have hlist := congrArg (fun m => m.toList.map Prod.snd) hmap
  simp only [Std.ExtTreeMap.toList_map, List.map_map] at hlist
  exact hlist

theorem getSensorsList_construct : (shipping.hal timeoutSeconds bus).getSensorsList = shipping.addSensors bus := by
  have hlist : (shipping.hal timeoutSeconds bus).mSensors.toList =
      (shipping.addSensors bus).map fun d => (d.sensorHandle, HalSensor.fresh d) :=
    StdMap.toList_assign (ascending shipping bus)
  unfold SensorsHalAidl.getSensorsList
  rw [hlist, List.map_map]
  exact List.map_id _

/-- The sensors are told apart by their names. -/
theorem sensorName_nodup :
    ((mSensorList.map AvailableSensor.core ++ mCompositeSensorList.map AvailableSensor.composite).map
      fun sensor => sensor.getSensorData.sensorName).Nodup := by
  decide

theorem sensorName_inj {a b : AvailableSensor} (h : a.getSensorData.sensorName = b.getSensorData.sensorName) :
    a = b := by
  have hmem : ∀ sensor : AvailableSensor,
      sensor ∈ mSensorList.map AvailableSensor.core ++ mCompositeSensorList.map AvailableSensor.composite := by
    rintro (id | id)
    · exact List.mem_append_left _ (List.mem_map_of_mem (mem_mSensorList id))
    · exact List.mem_append_right _ (List.mem_map_of_mem (mem_mCompositeSensorList id))
  exact List.inj_on_of_nodup_map sensorName_nodup (hmem a) (hmem b) h

/-- A sensor is offered, under its name, exactly if it is available. -/
theorem name_mem_iff (sensor : AvailableSensor) :
    (∃ d ∈ shipping.addSensors bus, d.name = sensor.getSensorData.sensorName) ↔ sensor ∈ getAvailableSensors bus := by
  constructor
  · rintro ⟨d, hd, hname⟩
    obtain ⟨_, available, hm, rfl⟩ := mem_addSensors shipping bus hd
    rwa [← sensorName_inj hname]
  · intro hm
    obtain ⟨i, hi, rfl⟩ := List.getElem_of_mem hm
    have hz : ((getAvailableSensors bus)[i], 1 + i) ∈ (getAvailableSensors bus).zipIdx 1 := by
      rw [List.mk_add_mem_zipIdx_iff_getElem?]
      exact List.getElem?_eq_getElem hi
    exact ⟨_, List.mem_map_of_mem hz, rfl⟩

/-- **The framework sees the same list in every run**: the available sensors in the order of the search, numbered
from 1, and a composite sensor exactly if all that it is computed from is there. -/
theorem getSensorsList_run (ops : List HalOp) :
    let list := (run SensorsHalAidl.step (shipping.hal timeoutSeconds bus) ops).getSensorsList
    list = shipping.addSensors bus ∧
    ∀ id : CompositeId, (∃ d ∈ list, d.name = id.core.mSensorData.sensorName) ↔
      ∀ sensor ∈ id.core.mDependencyList, ∃ d ∈ list, d.name = sensor.data.sensorName := by
  have hstep : ∀ s op, SensorsHalAidl.getSensorsList s = shipping.addSensors bus →
      (SensorsHalAidl.step s op).getSensorsList = shipping.addSensors bus :=
    fun s op h => (getSensorsList_congr (description_step s op)).trans h
  have hlist := Run.run_of_inv SensorsHalAidl.step (fun s => s.getSensorsList = shipping.addSensors bus) hstep ops
    (getSensorsList_construct shipping timeoutSeconds bus)
  dsimp only
  rw [hlist]
  refine ⟨rfl, fun id => ?_⟩
  refine (name_mem_iff shipping bus (.composite id)).trans ((composite_mem_getAvailableSensors bus id).trans ?_)
  exact forall₂_congr fun sensor _ => (name_mem_iff shipping bus (.core sensor)).symm

end AddSensors
end Aidl
end MemsHal
