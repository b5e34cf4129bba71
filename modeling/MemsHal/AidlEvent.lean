import Mathlib.Tactic.Common
/-!
# AidlEvent — the events of the AIDL interface

A float is its 32-bit word.  An enumeration that the code only copies is its numeric value; a sensor type without a
name of its own is `other`.
-/
namespace MemsHal
namespace Aidl

inductive SensorType
  | metaData
  | accelerometer
  | magneticField
  | orientation
  | gyroscope
  | light
  | pressure
  | proximity
  | gravity
  | linearAcceleration
  | rotationVector
  | relativeHumidity
  | ambientTemperature
  | magneticFieldUncalibrated
  | gameRotationVector
  | gyroscopeUncalibrated
  | significantMotion
  | stepDetector
  | stepCounter
  | geomagneticRotationVector
  | heartRate
  | tiltDetector
  | wakeGesture
  | glanceGesture
  | pickUpGesture
  | wristTiltGesture
  | deviceOrientation
  | pose6Dof
  | stationaryDetect
  | motionDetect
  | heartBeat
  | dynamicSensorMeta
  | additionalInfo
  | lowLatencyOffbodyDetect
  | accelerometerUncalibrated
  | hingeAngle
  | headTracker
  | accelerometerLimitedAxes
  | gyroscopeLimitedAxes
  | accelerometerLimitedAxesUncalibrated
  | gyroscopeLimitedAxesUncalibrated
  | heading
  | other (value : Int32)
  deriving DecidableEq, Repr

def SensorType.devicePrivateBase : Int32 := 0x10000

def SensorType.value : SensorType → Int32
  | .metaData                             => 0
  | .accelerometer                        => 1
  | .magneticField                        => 2
  | .orientation                          => 3
  | .gyroscope                            => 4
  | .light                                => 5
  | .pressure                             => 6
  | .proximity                            => 8
  | .gravity                              => 9
  | .linearAcceleration                   => 10
  | .rotationVector                       => 11
  | .relativeHumidity                     => 12
  | .ambientTemperature                   => 13
  | .magneticFieldUncalibrated            => 14
  | .gameRotationVector                   => 15
  | .gyroscopeUncalibrated                => 16
  | .significantMotion                    => 17
  | .stepDetector                         => 18
  | .stepCounter                          => 19
  | .geomagneticRotationVector            => 20
  | .heartRate                            => 21
  | .tiltDetector                         => 22
  | .wakeGesture                          => 23
  | .glanceGesture                        => 24
  | .pickUpGesture                        => 25
  | .wristTiltGesture                     => 26
  | .deviceOrientation                    => 27
  | .pose6Dof                             => 28
  | .stationaryDetect                     => 29
  | .motionDetect                         => 30
  | .heartBeat                            => 31
  | .dynamicSensorMeta                    => 32
  | .additionalInfo                       => 33
  | .lowLatencyOffbodyDetect              => 34
  | .accelerometerUncalibrated            => 35
  | .hingeAngle                           => 36
  | .headTracker                          => 37
  | .accelerometerLimitedAxes             => 38
  | .gyroscopeLimitedAxes                 => 39
  | .accelerometerLimitedAxesUncalibrated => 40
  | .gyroscopeLimitedAxesUncalibrated     => 41
  | .heading                              => 42
  | .other value                          => value

abbrev Float32Word := UInt32

/-- The numeric value of a `SensorStatus`, which is one byte wide. -/
abbrev SensorStatus := UInt8

def SensorStatus.accuracyHigh : SensorStatus := 3

/-- The numeric value of a `MetaDataEventType`. -/
abbrev MetaDataEventType := UInt32

def MetaDataEventType.flushComplete : MetaDataEventType := 1

/-- The numeric value of an `AdditionalInfoType`. -/
abbrev AdditionalInfoType := UInt32

namespace AdditionalInfoType

def begin : AdditionalInfoType := 0

def «end» : AdditionalInfoType := 1

def internalTemperature : AdditionalInfoType := 0x10001

def sensorPlacement : AdditionalInfoType := 0x10003

end AdditionalInfoType

inductive AdditionalInfoPayload
  | dataInt32 (values : Vector Float32Word 14)
  | dataFloat (values : Vector Float32Word 14)
  deriving DecidableEq, Repr

namespace AdditionalInfoPayload

/-- The 14 words of either reading. -/
def words : AdditionalInfoPayload → Vector UInt32 14
  | .dataInt32 values => values
  | .dataFloat values => values

end AdditionalInfoPayload

structure AdditionalInfo where
  type : AdditionalInfoType
  serial : UInt32
  payload : AdditionalInfoPayload := .dataInt32 (Vector.replicate 14 0)
  deriving DecidableEq, Repr

structure Vec3 where
  x : Float32Word
  y : Float32Word
  z : Float32Word
  status : SensorStatus
  deriving DecidableEq, Repr

structure Vec4 where
  x : Float32Word
  y : Float32Word
  z : Float32Word
  w : Float32Word
  deriving DecidableEq, Repr

structure Uncal where
  x : Float32Word
  y : Float32Word
  z : Float32Word
  xBias : Float32Word
  yBias : Float32Word
  zBias : Float32Word
  deriving DecidableEq, Repr

structure HeartRate where
  bpm : Float32Word
  status : SensorStatus
  deriving DecidableEq, Repr

structure DynamicSensorInfo where
  connected : Bool
  sensorHandle : UInt32
  uuid : Vector UInt8 16
  deriving DecidableEq, Repr

structure HeadTracker where
  rx : Float32Word
  ry : Float32Word
  rz : Float32Word
  vx : Float32Word
  vy : Float32Word
  vz : Float32Word
  discontinuityCount : UInt32
  deriving DecidableEq, Repr

structure LimitedAxesImu where
  x : Float32Word
  y : Float32Word
  z : Float32Word
  xSupported : Float32Word
  ySupported : Float32Word
  zSupported : Float32Word
  deriving DecidableEq, Repr

structure LimitedAxesImuUncal where
  uncal : Uncal
  xSupported : Float32Word
  ySupported : Float32Word
  zSupported : Float32Word
  deriving DecidableEq, Repr

structure Heading where
  heading : Float32Word
  accuracy : Float32Word
  deriving DecidableEq, Repr

inductive EventPayload
  | vec3 (v : Vec3)
  | vec4 (v : Vec4)
  | uncal (v : Uncal)
  | metaData (what : MetaDataEventType)
  | scalar (v : Float32Word)
  | stepCount (v : UInt64)
  | heartRate (v : HeartRate)
  | pose6Dof (values : Vector Float32Word 15)
  | dynamic (v : DynamicSensorInfo)
  | additional (v : AdditionalInfo)
  | data (values : Vector Float32Word 16)
  | headTracker (v : HeadTracker)
  | limitedAxesImu (v : LimitedAxesImu)
  | limitedAxesImuUncal (v : LimitedAxesImuUncal)
  | heading (v : Heading)
  deriving DecidableEq, Repr

/-- A default-constructed payload holds its first member, zeroed. -/
def EventPayload.default : EventPayload := .vec3 ⟨0, 0, 0, 0⟩

structure Event where
  timestamp : Int64
  sensorHandle : Int32
  sensorType : SensorType
  payload : EventPayload := .default
  deriving DecidableEq, Repr

end Aidl
end MemsHal
