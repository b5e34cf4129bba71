import MemsHal.AidlEvent
import MemsHal.Codec
/-!
# ConvertUtils — `multihal/aidl/ConvertUtils.cpp`

An event of the AIDL interface has a tagged payload, one of the HIDL interface a union, which is memory here: the fields
lie where a C compiler puts them.  The enumerations of both interfaces have the same values, so the casts between them
are identities, and the HIDL interface has no name for the head tracker.  `get` of a payload with another tag aborts, as
does a `CHECK` that fails; that is `none`.
-/
namespace MemsHal
namespace ConvertUtils

open Aidl
open Codec (word long byte)

/-- A HIDL event. -/
structure HidlEvent where
  timestamp : Int64
  sensorHandle : Int32
  sensorType : SensorType
  u : ByteMemory

/-! ## The payloads -/

section Get

def getMeta? : EventPayload → Option MetaDataEventType
  | .metaData what => some what
  | _              => none

def getVec3? : EventPayload → Option Vec3
  | .vec3 v => some v
  | _       => none

def getVec4? : EventPayload → Option Vec4
  | .vec4 v => some v
  | _       => none

def getUncal? : EventPayload → Option Uncal
  | .uncal v => some v
  | _        => none

def getScalar? : EventPayload → Option Float32Word
  | .scalar v => some v
  | _         => none

def getStepCount? : EventPayload → Option UInt64
  | .stepCount v => some v
  | _            => none

def getHeartRate? : EventPayload → Option HeartRate
  | .heartRate v => some v
  | _            => none

def getPose6Dof? : EventPayload → Option (Vector Float32Word 15)
  | .pose6Dof values => some values
  | _                => none

def getDynamic? : EventPayload → Option DynamicSensorInfo
  | .dynamic v => some v
  | _          => none

def getAdditional? : EventPayload → Option AdditionalInfo
  | .additional v => some v
  | _             => none

def getData? : EventPayload → Option (Vector Float32Word 16)
  | .data values => some values
  | _            => none

def getHeadTracker? : EventPayload → Option HeadTracker
  | .headTracker v => some v
  | _              => none

end Get

/-- The first five values, and the other eleven as they are after construction. -/
def firstFive (values : Vector Float32Word 5) : Vector Float32Word 16 :=
  Vector.ofFn fun i => if h : i.val < 5 then values[i.val] else 0

/-! ## The conversions -/

/-- What `convertToHidlEvent` writes into the union. -/
def toHidlPayload (sensorType : SensorType) (payload : EventPayload) (u : ByteMemory) : Option ByteMemory :=
  match sensorType with
  | .metaData => (getMeta? payload).map fun what => word.write u 0 what
  | .accelerometer | .magneticField | .orientation | .gyroscope | .gravity | .linearAcceleration =>
    (getVec3? payload).map fun v =>
      byte.write (word.write (word.write (word.write u 0 v.x) 4 v.y) 8 v.z) 12 v.status
  | .gameRotationVector =>
    (getVec4? payload).map fun v =>
      word.write (word.write (word.write (word.write u 0 v.x) 4 v.y) 8 v.z) 12 v.w
  | .rotationVector | .geomagneticRotationVector =>
    (getData? payload).map fun values => (word.vector 5).write u 0 (Vector.ofFn fun i => values[i.val])
  | .accelerometerUncalibrated | .magneticFieldUncalibrated | .gyroscopeUncalibrated =>
    (getUncal? payload).map fun v =>
      let u := word.write (word.write (word.write u 0 v.x) 4 v.y) 8 v.z
      word.write (word.write (word.write u 12 v.xBias) 16 v.yBias) 20 v.zBias
  | .deviceOrientation | .light | .pressure | .proximity | .relativeHumidity | .ambientTemperature
  | .significantMotion | .stepDetector | .tiltDetector | .wakeGesture | .glanceGesture | .pickUpGesture
  | .wristTiltGesture | .stationaryDetect | .motionDetect | .heartBeat | .lowLatencyOffbodyDetect | .hingeAngle =>
    (getScalar? payload).map fun v => word.write u 0 v
  | .stepCounter => (getStepCount? payload).map fun v => long.write u 0 v
  | .heartRate => (getHeartRate? payload).map fun v => byte.write (word.write u 0 v.bpm) 4 v.status
  | .pose6Dof => (getPose6Dof? payload).map fun values => (word.vector 15).write u 0 values
  | .dynamicSensorMeta =>
    (getDynamic? payload).map fun v =>
      let u := byte.write u 0 (if v.connected then 1 else 0)
      (byte.vector 16).write (word.write u 4 v.sensorHandle) 8 v.uuid
  | .additionalInfo =>
    (getAdditional? payload).map fun v =>
      let u := word.write (word.write u 0 v.type) 4 v.serial
      match v.payload with
      | .dataInt32 values => (word.vector 14).write u 8 values
      | .dataFloat values => (word.vector 14).write u 8 values
  | .headTracker =>
    (getHeadTracker? payload).map fun v =>
      let u := word.write (word.write (word.write u 0 v.rx) 4 v.ry) 8 v.rz
      let u := word.write (word.write (word.write u 12 v.vx) 16 v.vy) 20 v.vz
      word.write u 24 v.discontinuityCount
  | _ =>
    if SensorType.devicePrivateBase ≤ sensorType.value then
      (getData? payload).map fun values => (word.vector 16).write u 0 values
    else none

/-- `hidlEvent` is the event before the call, whose union is overwritten in part. -/
def convertToHidlEvent (aidlEvent : Event) (hidlEvent : HidlEvent) : Option HidlEvent :=
  (toHidlPayload aidlEvent.sensorType aidlEvent.payload hidlEvent.u).map fun u =>
    { timestamp := aidlEvent.timestamp
      sensorHandle := aidlEvent.sensorHandle
      sensorType := aidlEvent.sensorType
      u := u }

/-- The payload that `convertToAidlEvent` sets. -/
def toAidlPayload (sensorType : SensorType) (u : ByteMemory) : Option EventPayload :=
  match sensorType with
  | .metaData => some (.metaData (word.read u 0))
  | .accelerometer | .magneticField | .orientation | .gyroscope | .gravity | .linearAcceleration =>
    some (.vec3 ⟨word.read u 0, word.read u 4, word.read u 8, byte.read u 12⟩)
  | .gameRotationVector => some (.vec4 ⟨word.read u 0, word.read u 4, word.read u 8, word.read u 12⟩)
  | .rotationVector | .geomagneticRotationVector => some (.data (firstFive ((word.vector 5).read u 0)))
  | .magneticFieldUncalibrated | .gyroscopeUncalibrated | .accelerometerUncalibrated =>
    some (.uncal ⟨word.read u 0, word.read u 4, word.read u 8, word.read u 12, word.read u 16, word.read u 20⟩)
  | .deviceOrientation | .light | .pressure | .proximity | .relativeHumidity | .ambientTemperature
  | .significantMotion | .stepDetector | .tiltDetector | .wakeGesture | .glanceGesture | .pickUpGesture
  | .wristTiltGesture | .stationaryDetect | .motionDetect | .heartBeat | .lowLatencyOffbodyDetect | .hingeAngle =>
    some (.scalar (word.read u 0))
  | .stepCounter => some (.stepCount (long.read u 0))
  | .heartRate => some (.heartRate ⟨word.read u 0, byte.read u 4⟩)
  | .pose6Dof => some (.pose6Dof ((word.vector 15).read u 0))
  | .dynamicSensorMeta =>
    some (.dynamic ⟨byte.read u 0 ≠ 0, word.read u 4, (byte.vector 16).read u 8⟩)
  | .additionalInfo =>
    some (.additional ⟨word.read u 0, word.read u 4, .dataInt32 ((word.vector 14).read u 8)⟩)
  | _ =>
    if sensorType.value = SensorType.headTracker.value then
      some (.headTracker ⟨word.read u 0, word.read u 4, word.read u 8, word.read u 12, word.read u 16, word.read u 20,
        word.read u 24⟩)
    else if SensorType.devicePrivateBase ≤ sensorType.value then some (.data ((word.vector 16).read u 0))
    else none

def convertToAidlEvent (hidlEvent : HidlEvent) : Option Event :=
  (toAidlPayload hidlEvent.sensorType hidlEvent.u).map fun payload =>
    { timestamp := hidlEvent.timestamp
      sensorHandle := hidlEvent.sensorHandle
      sensorType := hidlEvent.sensorType
      payload := payload }

/-! ## What should come back -/

/-- The types that `convertToAidlEvent` has a case for. -/
def HasCase : SensorType → Prop
  | .accelerometerLimitedAxes | .gyroscopeLimitedAxes | .accelerometerLimitedAxesUncalibrated
  | .gyroscopeLimitedAxesUncalibrated | .heading => False
  | .other value => SensorType.devicePrivateBase ≤ value
  | _ => True

inductive PayloadTag
  | vec3
  | vec4
  | uncal
  | metaData
  | scalar
  | stepCount
  | heartRate
  | pose6Dof
  | dynamic
  | additional
  | data
  | headTracker
  | limitedAxesImu
  | limitedAxesImuUncal
  | heading
  deriving DecidableEq, Repr

def tag : EventPayload → PayloadTag
  | .vec3 _               => .vec3
  | .vec4 _               => .vec4
  | .uncal _              => .uncal
  | .metaData _           => .metaData
  | .scalar _             => .scalar
  | .stepCount _          => .stepCount
  | .heartRate _          => .heartRate
  | .pose6Dof _           => .pose6Dof
  | .dynamic _            => .dynamic
  | .additional _         => .additional
  | .data _               => .data
  | .headTracker _        => .headTracker
  | .limitedAxesImu _     => .limitedAxesImu
  | .limitedAxesImuUncal _ => .limitedAxesImuUncal
  | .heading _            => .heading

/-- The tag that the interface asks for. -/
def requiredTag : SensorType → PayloadTag
  | .metaData => .metaData
  | .accelerometer | .magneticField | .orientation | .gyroscope | .gravity | .linearAcceleration => .vec3
  | .gameRotationVector => .vec4
  | .accelerometerUncalibrated | .magneticFieldUncalibrated | .gyroscopeUncalibrated => .uncal
  | .deviceOrientation | .light | .pressure | .proximity | .relativeHumidity | .ambientTemperature
  | .significantMotion | .stepDetector | .tiltDetector | .wakeGesture | .glanceGesture | .pickUpGesture
  | .wristTiltGesture | .stationaryDetect | .motionDetect | .heartBeat | .lowLatencyOffbodyDetect | .hingeAngle =>
    .scalar
  | .stepCounter => .stepCount
  | .heartRate => .heartRate
  | .pose6Dof => .pose6Dof
  | .dynamicSensorMeta => .dynamic
  | .additionalInfo => .additional
  | .headTracker => .headTracker
  | .accelerometerLimitedAxes | .gyroscopeLimitedAxes => .limitedAxesImu
  | .accelerometerLimitedAxesUncalibrated | .gyroscopeLimitedAxesUncalibrated => .limitedAxesImuUncal
  | .heading => .heading
  | .rotationVector | .geomagneticRotationVector | .other _ => .data

/-- What comes back of a payload: additional info as integers, five words of a rotation vector. -/
def received : SensorType → EventPayload → EventPayload
  | .rotationVector, .data values            => .data (firstFive (Vector.ofFn fun i => values[i.val]))
  | .geomagneticRotationVector, .data values => .data (firstFive (Vector.ofFn fun i => values[i.val]))
  | _, .additional v                         => .additional { v with payload := .dataInt32 v.payload.words }
  | _, payload                               => payload

/-- The number of bytes of the union that a type uses. -/
def payloadSize : SensorType → Nat
  | .metaData => 4
  | .accelerometer | .magneticField | .orientation | .gyroscope | .gravity | .linearAcceleration => 13
  | .gameRotationVector => 16
  | .rotationVector | .geomagneticRotationVector => 20
  | .accelerometerUncalibrated | .magneticFieldUncalibrated | .gyroscopeUncalibrated => 24
  | .deviceOrientation | .light | .pressure | .proximity | .relativeHumidity | .ambientTemperature
  | .significantMotion | .stepDetector | .tiltDetector | .wakeGesture | .glanceGesture | .pickUpGesture
  | .wristTiltGesture | .stationaryDetect | .motionDetect | .heartBeat | .lowLatencyOffbodyDetect | .hingeAngle => 4
  | .stepCounter => 8
  | .heartRate => 5
  | .pose6Dof => 60
  | .dynamicSensorMeta => 24
  | .additionalInfo => 64
  | .headTracker => 28
  | .accelerometerLimitedAxes | .gyroscopeLimitedAxes | .accelerometerLimitedAxesUncalibrated
  | .gyroscopeLimitedAxesUncalibrated | .heading => 0
  | .other _ => 64

/-- Two unions have the same payload.  In that of a dynamic sensor the first byte is the truth value `connected`, and
three more are padding. -/
def SamePayload (sensorType : SensorType) (u u' : ByteMemory) : Prop :=
  (∀ i < payloadSize sensorType, (sensorType = .dynamicSensorMeta → 4 ≤ i) → u' i = u i) ∧
    (sensorType = .dynamicSensorMeta → (byte.read u' 0 ≠ 0 ↔ byte.read u 0 ≠ 0))

structure SameEvent (e e' : HidlEvent) : Prop where
  timestamp : e'.timestamp = e.timestamp
  sensorHandle : e'.sensorHandle = e.sensorHandle
  sensorType : e'.sensorType = e.sensorType
  payload : SamePayload e.sensorType e.u e'.u

/-! ## From AIDL and back -/

theorem firstFive_getElem (values : Vector Float32Word 5) {i : Nat} (hi : i < 5) (h : i < 16) :
    (firstFive values)[i] = values[i] := by
  unfold firstFive
  rw [Vector.getElem_ofFn, dif_pos hi]

/-- **What was written into the union is what is read from it.** -/
theorem toAidl_toHidl {t : SensorType} (hcase : HasCase t) {payload : EventPayload} (htag : tag payload = requiredTag t)
    (u : ByteMemory) :
    ∃ u', toHidlPayload t payload u = some u' ∧ toAidlPayload t u' = some (received t payload) := by
  cases payload with
  | metaData what =>
    cases t with
    | metaData =>
      refine ⟨_, rfl, ?_⟩
      simp only [toAidlPayload, Codec.read_write]
      rfl
    | _ => cases htag
  | vec3 v =>
    cases t with
    | accelerometer | magneticField | orientation | gyroscope | gravity | linearAcceleration =>
      refine ⟨_, rfl, ?_⟩
      simp (disch := decide) only [toAidlPayload, Codec.read_write, Codec.read_write_other]
      rfl
    | _ => cases htag
  | vec4 v =>
    cases t with
    | gameRotationVector =>
      refine ⟨_, rfl, ?_⟩
      simp (disch := decide) only [toAidlPayload, Codec.read_write, Codec.read_write_other]
      rfl
    | _ => cases htag
  | uncal v =>
    cases t with
    | accelerometerUncalibrated | magneticFieldUncalibrated | gyroscopeUncalibrated =>
      refine ⟨_, rfl, ?_⟩
      simp (disch := decide) only [toAidlPayload, Codec.read_write, Codec.read_write_other]
      rfl
    | _ => cases htag
  | scalar v =>
    cases t with
    | deviceOrientation | light | pressure | proximity | relativeHumidity | ambientTemperature | significantMotion
    | stepDetector | tiltDetector | wakeGesture | glanceGesture | pickUpGesture | wristTiltGesture | stationaryDetect
    | motionDetect | heartBeat | lowLatencyOffbodyDetect | hingeAngle =>
      refine ⟨_, rfl, ?_⟩
      simp only [toAidlPayload, Codec.read_write]
      rfl
    | _ => cases htag
  | stepCount v =>
    cases t with
    | stepCounter =>
      refine ⟨_, rfl, ?_⟩
      simp only [toAidlPayload, Codec.read_write]
      rfl
    | _ => cases htag
  | heartRate v =>
    cases t with
    | heartRate =>
      refine ⟨_, rfl, ?_⟩
      simp (disch := decide) only [toAidlPayload, Codec.read_write, Codec.read_write_other]
      rfl
    | _ => cases htag
  | pose6Dof values =>
    cases t with
    | pose6Dof =>
      refine ⟨_, rfl, ?_⟩
      simp only [toAidlPayload, Codec.read_write]
      rfl
    | _ => cases htag
  | dynamic v =>
    cases t with
    | dynamicSensorMeta =>
      have hconnected : (if v.connected then (1 : UInt8) else 0) ≠ 0 ↔ v.connected = true := by
        cases v.connected <;> decide
      refine ⟨_, rfl, ?_⟩
      simp (disch := decide) only [toAidlPayload, Codec.read_write, Codec.read_write_other, hconnected]
      simp only [Bool.decide_eq_true]
      rfl
    | _ => cases htag
  | additional v =>
    cases t with
    | additionalInfo =>
      obtain ⟨type, serial, payload⟩ := v
      cases payload <;>
      · refine ⟨_, rfl, ?_⟩
        simp (disch := decide) only [toAidlPayload, Codec.read_write, Codec.read_write_other]
        rfl
    | _ => cases htag
  | data values =>
    cases t with
    | rotationVector | geomagneticRotationVector =>
      refine ⟨_, rfl, ?_⟩
      simp only [toAidlPayload, Codec.read_write]
      rfl
    | other value =>
      have hbase : SensorType.devicePrivateBase ≤ value := hcase
      have hne : value ≠ 37 := by
        rintro rfl
        exact absurd hbase (by decide)
      refine ⟨(word.vector 16).write u 0 values, if_pos hbase, ?_⟩
      simp only [toAidlPayload, SensorType.value, Codec.read_write]
      rw [if_neg hne, if_pos hbase]
      rfl
    | _ => cases htag
  | headTracker v =>
    cases t with
    | headTracker =>
      refine ⟨_, rfl, ?_⟩
      simp (disch := decide) only [toAidlPayload, Codec.read_write, Codec.read_write_other]
      rfl
    | _ => cases htag
  | limitedAxesImu v =>
    cases t with
    | accelerometerLimitedAxes | gyroscopeLimitedAxes => cases hcase
    | _ => cases htag
  | limitedAxesImuUncal v =>
    cases t with
    | accelerometerLimitedAxesUncalibrated | gyroscopeLimitedAxesUncalibrated => cases hcase
    | _ => cases htag
  | heading v =>
    cases t with
    | heading => cases hcase
    | _ => cases htag

/-! ## From HIDL and back -/

theorem samePayload_of_ne {t : SensorType} (hne : t ≠ .dynamicSensorMeta) {u u' : ByteMemory}
    (h : ∀ i < payloadSize t, u' i = u i) : SamePayload t u u' :=
  ⟨fun i hi _ => h i hi, fun ht => absurd ht hne⟩

/-- **What was read from the union is what is written into the other one.** -/
theorem toHidl_toAidl {t : SensorType} (hcase : HasCase t) (u old : ByteMemory) :
    ∃ payload u', toAidlPayload t u = some payload ∧ toHidlPayload t payload old = some u' ∧ SamePayload t u u' := by
  cases t with
  | metaData | accelerometer | magneticField | orientation | gyroscope | gravity | linearAcceleration
  | gameRotationVector | accelerometerUncalibrated | magneticFieldUncalibrated | gyroscopeUncalibrated
  | deviceOrientation | light | pressure | proximity | relativeHumidity | ambientTemperature | significantMotion
  | stepDetector | tiltDetector | wakeGesture | glanceGesture | pickUpGesture | wristTiltGesture | stationaryDetect
  | motionDetect | heartBeat | lowLatencyOffbodyDetect | hingeAngle | stepCounter | heartRate | pose6Dof
  | additionalInfo | headTracker =>
    -- field by field, and the fields fill the bytes that the type uses
    refine ⟨_, _, rfl, rfl, samePayload_of_ne (fun h => by cases h) fun i hi => ?_⟩
    simp only [payloadSize] at hi
    simp only [Codec.write_read, Codec.word_size, Codec.byte_size, Codec.long_size, Codec.vector_size,
      ByteMemory.memcpy_same]
    split_ifs <;> first | rfl | omega
  | rotationVector | geomagneticRotationVector =>
    refine ⟨_, _, rfl, rfl, samePayload_of_ne (fun h => by cases h) fun i hi => ?_⟩
    have hlt : i < 20 := hi
    dsimp only
    have hfive : ∀ values : Vector Float32Word 5, (Vector.ofFn fun i : Fin 5 => (firstFive values)[i.val]) = values :=
      fun values => Vector.ext fun i hi => by rw [Vector.getElem_ofFn, firstFive_getElem values hi]
    rw [hfive, Codec.write_read, ByteMemory.memcpy_same, Codec.vector_size, Codec.word_size, if_pos (by omega)]
  | dynamicSensorMeta =>
    refine ⟨_, _, rfl, rfl, fun i hi hpadding => ?_, fun _ => ?_⟩
    · have hlt : i < 24 := hi
      have hge := hpadding rfl
      dsimp only
      rw [Codec.write_read, ByteMemory.memcpy_same, Codec.vector_size, Codec.byte_size, Codec.write_read,
        ByteMemory.memcpy_same, Codec.word_size]
      split_ifs <;> first | rfl | omega
    · simp (disch := decide) only [Codec.read_write, Codec.read_write_other]
      by_cases hzero : byte.read u 0 = 0 <;> simp [hzero]
  | other value =>
    have hbase : SensorType.devicePrivateBase ≤ value := hcase
    have hne : value ≠ SensorType.headTracker.value := by
      rintro rfl
      exact absurd hbase (by decide)
    refine ⟨_, _, (if_neg hne).trans (if_pos hbase), if_pos hbase,
      samePayload_of_ne (fun h => by cases h) fun i hi => ?_⟩
    have hlt : i < 64 := hi
    dsimp only
    rw [Codec.write_read, ByteMemory.memcpy_same, Codec.vector_size, Codec.word_size, if_pos (by omega)]
  | _ => cases hcase

/-! ## Events -/

/-- **A HIDL event comes back from its AIDL form, and an AIDL event from its HIDL form**, for the types that both
conversions have a case for. -/
theorem roundTrip :
    (∀ (e old : HidlEvent), HasCase e.sensorType →
      ∃ a e', convertToAidlEvent e = some a ∧ convertToHidlEvent a old = some e' ∧ SameEvent e e') ∧
    ∀ (a : Event) (old : HidlEvent), HasCase a.sensorType → tag a.payload = requiredTag a.sensorType →
      ∃ e, convertToHidlEvent a old = some e ∧
        convertToAidlEvent e = some { a with payload := received a.sensorType a.payload } := by
  constructor
  · intro e old hcase
    obtain ⟨payload, u', haidl, hhidl, hsame⟩ := toHidl_toAidl hcase e.u old.u
    refine ⟨_, _, congrArg (Option.map _) haidl, congrArg (Option.map _) hhidl, ?_⟩
    exact ⟨rfl, rfl, rfl, hsame⟩
  · intro a old hcase htag
    obtain ⟨u', hhidl, haidl⟩ := toAidl_toHidl hcase htag old.u
    exact ⟨_, congrArg (Option.map _) hhidl, congrArg (Option.map _) haidl⟩

/-- A heading has no HIDL form: its conversion fails the check. -/
theorem not_convertToHidlEvent_heading :
    ¬ ∀ (a : Event) (old : HidlEvent), tag a.payload = requiredTag a.sensorType →
      ∃ e, convertToHidlEvent a old = some e ∧
        convertToAidlEvent e = some { a with payload := received a.sensorType a.payload } := by
  intro h
  obtain ⟨e, he, -⟩ := h ⟨1000, 1, .heading, .heading ⟨0, 0⟩⟩ ⟨0, 0, .metaData, fun _ => 0⟩ rfl
  cases (show (none : Option HidlEvent) = some e from he)

end ConvertUtils
end MemsHal
