import MemsHal.ConvertUtils
import MemsHal.ProxyRoute
/-!
# ProxyInject — `HalProxyAidl::injectSensorData`

The event is converted before anything about it is checked.  A conversion that aborts is `none`, and that is for the
sensor type and the payload to decide (`toHidlPayload_isSome_iff`): handle and operation mode are not looked at until
it is over.
-/
namespace MemsHal
namespace ConvertUtils

open Aidl

/-! ## The payloads that are accepted -/

section Get

variable (payload : EventPayload)

theorem getMeta?_isSome : (getMeta? payload).isSome ↔ tag payload = .metaData := by
  cases payload <;> simp [getMeta?, tag]

theorem getVec3?_isSome : (getVec3? payload).isSome ↔ tag payload = .vec3 := by
  cases payload <;> simp [getVec3?, tag]

theorem getVec4?_isSome : (getVec4? payload).isSome ↔ tag payload = .vec4 := by
  cases payload <;> simp [getVec4?, tag]

theorem getUncal?_isSome : (getUncal? payload).isSome ↔ tag payload = .uncal := by
  cases payload <;> simp [getUncal?, tag]

theorem getScalar?_isSome : (getScalar? payload).isSome ↔ tag payload = .scalar := by
  cases payload <;> simp [getScalar?, tag]

theorem getStepCount?_isSome : (getStepCount? payload).isSome ↔ tag payload = .stepCount := by
  cases payload <;> simp [getStepCount?, tag]

theorem getHeartRate?_isSome : (getHeartRate? payload).isSome ↔ tag payload = .heartRate := by
  cases payload <;> simp [getHeartRate?, tag]

theorem getPose6Dof?_isSome : (getPose6Dof? payload).isSome ↔ tag payload = .pose6Dof := by
  cases payload <;> simp [getPose6Dof?, tag]

theorem getDynamic?_isSome : (getDynamic? payload).isSome ↔ tag payload = .dynamic := by
  cases payload <;> simp [getDynamic?, tag]

theorem getAdditional?_isSome : (getAdditional? payload).isSome ↔ tag payload = .additional := by
  cases payload <;> simp [getAdditional?, tag]

theorem getData?_isSome : (getData? payload).isSome ↔ tag payload = .data := by
  cases payload <;> simp [getData?, tag]

theorem getHeadTracker?_isSome : (getHeadTracker? payload).isSome ↔ tag payload = .headTracker := by
  cases payload <;> simp [getHeadTracker?, tag]

end Get

/-- **The conversion comes to its end exactly if the type has a case and the payload the tag that this case reads.** -/
theorem toHidlPayload_isSome_iff (sensorType : SensorType) (payload : EventPayload) (u : ByteMemory) :
    (toHidlPayload sensorType payload u).isSome ↔
      HasCase sensorType ∧ tag payload = requiredTag sensorType := by
  have hmap : ∀ {α : Type} {get : Option α} {f : α → ByteMemory} {wanted : PayloadTag},
      (get.isSome ↔ tag payload = wanted) → ((get.map f).isSome ↔ True ∧ tag payload = wanted) := by
    intro α get f wanted hget
    rw [Option.isSome_map, hget, true_and]
  cases sensorType with
  | metaData => exact hmap (getMeta?_isSome payload)
  | accelerometer | magneticField | orientation | gyroscope | gravity | linearAcceleration =>
    exact hmap (getVec3?_isSome payload)
  | gameRotationVector => exact hmap (getVec4?_isSome payload)
  | rotationVector | geomagneticRotationVector => exact hmap (getData?_isSome payload)
  | accelerometerUncalibrated | magneticFieldUncalibrated | gyroscopeUncalibrated =>
    exact hmap (getUncal?_isSome payload)
  | deviceOrientation | light | pressure | proximity | relativeHumidity | ambientTemperature
  | significantMotion | stepDetector | tiltDetector | wakeGesture | glanceGesture | pickUpGesture
  | wristTiltGesture | stationaryDetect | motionDetect | heartBeat | lowLatencyOffbodyDetect | hingeAngle =>
    exact hmap (getScalar?_isSome payload)
  | stepCounter => exact hmap (getStepCount?_isSome payload)
  | heartRate => exact hmap (getHeartRate?_isSome payload)
  | pose6Dof => exact hmap (getPose6Dof?_isSome payload)
  | dynamicSensorMeta => exact hmap (getDynamic?_isSome payload)
  | additionalInfo => exact hmap (getAdditional?_isSome payload)
  | headTracker => exact hmap (getHeadTracker?_isSome payload)
  | accelerometerLimitedAxes | gyroscopeLimitedAxes | accelerometerLimitedAxesUncalibrated
  | gyroscopeLimitedAxesUncalibrated | heading =>
    -- The default case checks for a private type, which these are not.
    exact iff_of_false Bool.false_ne_true (fun h => h.1)
  | other value =>
    show (if SensorType.devicePrivateBase ≤ value then _ else none : Option ByteMemory).isSome ↔
      SensorType.devicePrivateBase ≤ value ∧ tag payload = .data
    split
    case isTrue hprivate => rw [Option.isSome_map, getData?_isSome, and_iff_right hprivate]
    case isFalse hprivate => exact iff_of_false Bool.false_ne_true (fun h => hprivate h.1)

end ConvertUtils

namespace MultiHal

open ConvertUtils (HidlEvent HasCase tag requiredTag)

/-! ## The request -/

namespace HalProxyAidl

inductive ExceptionCode
  | security
  | illegalArgument
  | unsupportedOperation
  deriving DecidableEq, Repr

inductive ScopedAStatus
  | ok
  | fromExceptionCode (code : ExceptionCode)
  | errorNoMemory
  deriving DecidableEq, Repr

def resultToAStatus : Result → ScopedAStatus
  | .ok               => .ok
  | .permissionDenied => .fromExceptionCode .security
  | .noMemory         => .errorNoMemory
  | .badValue         => .fromExceptionCode .illegalArgument
  | .invalidOperation => .fromExceptionCode .unsupportedOperation

/-- `convertToOldEvent` is the framework's; `subHal` tells what the sub-HALs answer, and `hidlEvent` is the local
variable before it is filled in. -/
def injectSensorData (p : HalProxy) (convertToOldEvent : HidlEvent → Event) (subHal : Nat → SubHalCall → Result)
    (hidlEvent : HidlEvent) (in_event : Aidl.Event) : Option ScopedAStatus :=
  (ConvertUtils.convertToHidlEvent in_event hidlEvent).map fun hidlEvent =>
    match p.injectSensorData (convertToOldEvent hidlEvent) with
    | .ok (subHalIndex, call) => resultToAStatus (subHal subHalIndex call)
    | .error result           => resultToAStatus result

end HalProxyAidl

namespace ProxyInject

/-- The call comes back with a status. -/
def Returns (p : HalProxy) (convertToOldEvent : HidlEvent → Event) (subHal : Nat → SubHalCall → Result)
    (hidlEvent : HidlEvent) (in_event : Aidl.Event) : Prop :=
  ∃ status, HalProxyAidl.injectSensorData p convertToOldEvent subHal hidlEvent in_event = some status

section

variable (p : HalProxy) (convertToOldEvent : HidlEvent → Event) (subHal : Nat → SubHalCall → Result)
  (hidlEvent : HidlEvent) (in_event : Aidl.Event)

theorem returns_iff_isSome : Returns p convertToOldEvent subHal hidlEvent in_event ↔
    (ConvertUtils.toHidlPayload in_event.sensorType in_event.payload hidlEvent.u).isSome := by
  unfold Returns HalProxyAidl.injectSensorData ConvertUtils.convertToHidlEvent
  rw [← Option.isSome_iff_exists, Option.isSome_map, Option.isSome_map]

/-- **Injecting an event comes back exactly if its type has a HIDL form and its payload the tag of its type**, whatever
the handle and the operation mode. -/
theorem returns_iff : Returns p convertToOldEvent subHal hidlEvent in_event ↔
    HasCase in_event.sensorType ∧ tag in_event.payload = requiredTag in_event.sensorType := by
  rw [returns_iff_isSome]
  exact ConvertUtils.toHidlPayload_isSome_iff _ _ _

end

/-- **A heading aborts the Multi-HAL**, in an operation mode in which no such event is let through. -/
theorem not_returns_heading : ∃ p : HalProxy, p.mCurrentOperationMode = .normal ∧ p.mSubHalList ≠ [] ∧
    ∀ convertToOldEvent subHal hidlEvent,
      ¬ Returns p convertToOldEvent subHal hidlEvent ⟨1000, 1, .heading, .heading ⟨0, 0⟩⟩ := by
  refine ⟨ProxyRoute.twoSubHals, rfl, List.cons_ne_nil _ _, fun convertToOldEvent subHal hidlEvent h => ?_⟩
  exact Bool.false_ne_true ((returns_iff_isSome ..).1 h)

end ProxyInject
end MultiHal
end MemsHal
