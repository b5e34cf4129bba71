import MemsHal.ConvertUtils
import MemsHal.HalPlacement
import MemsHal.SensorsSubHal
/-!
# HidlSensor — the events of `2.X/Sensor.cpp` and `multihal/common/Sensor.cpp`

The two files build the same HIDL events.  A `Sensor` of the HIDL interfaces is the one of the AIDL interface but for
what it posts: the payload is written into the union of an event that is not always set whole before.  `Renders h e`
says that the HIDL event `h` is converted to what the AIDL interface can receive of the event `e`;
`renders_readEvents`, `renders_additionalInfoEvents` and `renders_flushComplete` say so of every event of a sensor.
-/
namespace MemsHal
namespace Hidl

open Aidl (Event EventPayload SensorType Float32Word HalSensor AdditionalInfo SensorDescription)
open ConvertUtils (HidlEvent HasCase toHidlPayload toAidlPayload toAidl_toHidl tag requiredTag received)
open Codec (word byte)

/-! ## The events -/

/-- One event of `readEvents`, and the last temperature reported by any sensor; `fresh` is the union of a new event. -/
def readEvent (sensor : HalSensor) (fresh : ByteMemory) (lastTemperature : Float32Word) (value : Aidl.SensorValues) :
    HidlEvent × Float32Word :=
  let event : HidlEvent := ⟨value.timestamp, sensor.description.sensorHandle, sensor.description.type, fresh⟩
  if sensor.description.type = .ambientTemperature then
    let scalar := value.data.headD 0
    if HalSensor.areAlmostEqual scalar lastTemperature then (event, lastTemperature)
    else ({ event with u := word.write event.u 0 scalar }, scalar)
  else match value.data with
    | [x, y, z] =>
      if sensor.description.type = .gyroscopeUncalibrated then
        let fix := sensor.gyroUncalibratedFix
        let u := word.write (word.write (word.write event.u 0 (HalSensor.plus x fix)) 4 (HalSensor.plus y fix)) 8
          (HalSensor.plus z fix)
        ({ event with u := word.write (word.write (word.write u 12 0) 16 0) 20 0 }, lastTemperature)
      else if sensor.description.type = .accelerometerUncalibrated then
        let u := word.write (word.write (word.write event.u 0 x) 4 y) 8 z
        ({ event with u := word.write (word.write (word.write u 12 0) 16 0) 20 0 }, lastTemperature)
      else
        let u := word.write (word.write (word.write event.u 0 x) 4 y) 8 z
        ({ event with u := byte.write u 12 Aidl.SensorStatus.accuracyHigh }, lastTemperature)
    | _ => (event, lastTemperature)

def readEvents (sensor : HalSensor) (fresh : ByteMemory) (lastTemperature : Float32Word) :
    List Aidl.SensorValues → List HidlEvent × Float32Word
  | []              => ([], lastTemperature)
  | value :: values =>
    let (event, lastTemperature) := readEvent sensor fresh lastTemperature value
    let (events, lastTemperature) := readEvents sensor fresh lastTemperature values
    (event :: events, lastTemperature)

/-- A frame fills the union. -/
def additionalUnion (fresh : ByteMemory) (frame : AdditionalInfo) : ByteMemory :=
  (word.vector 14).write (word.write (word.write fresh 0 frame.type) 4 frame.serial) 8 frame.payload.words

/-- The events of a report; `elapsed i` is the time read for the frame `i`. -/
def additionalInfoEvents (sensor : HalSensor) (fresh : ByteMemory) (temperature : Option Float32Word)
    (elapsed : Nat → Int64) : List HidlEvent :=
  (MultiHal.additionalInfoFrames sensor temperature).mapIdx fun i frame =>
    { timestamp := elapsed i, sensorHandle := sensor.description.sensorHandle, sensorType := .additionalInfo,
      u := additionalUnion fresh frame }

/-- The completion event of a flush; `ev` is the local variable before it is set, and keeps its time. -/
def flushComplete (sensor : HalSensor) (ev : HidlEvent) : HidlEvent :=
  { ev with
    sensorHandle := sensor.description.sensorHandle
    sensorType := .metaData
    u := word.write ev.u 0 Aidl.MetaDataEventType.flushComplete }

/-! ## What they are converted to -/

/-- `h` is converted to what can be received of `e`; the time of a completion event is not set. -/
structure Renders (h : HidlEvent) (e : Event) : Prop where
  timestamp : e.sensorType = .metaData ∨ h.timestamp = e.timestamp
  sensorHandle : h.sensorHandle = e.sensorHandle
  sensorType : h.sensorType = e.sensorType
  payload : toAidlPayload h.sensorType h.u = some (received e.sensorType e.payload)

/-- Away from completion events, this is the conversion. -/
theorem Renders.convertToAidlEvent {h : HidlEvent} {e : Event} (hr : Renders h e) (hne : e.sensorType ≠ .metaData) :
    ConvertUtils.convertToAidlEvent h = some { e with payload := received e.sensorType e.payload } := by
  obtain ⟨timestamp, sensorHandle, sensorType, u⟩ := h
  obtain ⟨htime, hhandle, htype, hpayload⟩ := hr
  dsimp only at htime hhandle htype hpayload
  subst hhandle htype
  unfold ConvertUtils.convertToAidlEvent
  dsimp only
  rw [hpayload, htime.resolve_left hne]
  rfl

/-- An event is rendered by writing its payload into any union, if the payload is of the type's kind. -/
theorem renders_of_toHidlPayload {e : Event} (hcase : HasCase e.sensorType)
    (htag : tag e.payload = requiredTag e.sensorType) {fresh u : ByteMemory}
    (hu : toHidlPayload e.sensorType e.payload fresh = some u) :
    Renders ⟨e.timestamp, e.sensorHandle, e.sensorType, u⟩ e := by
  obtain ⟨u', hhidl, haidl⟩ := toAidl_toHidl hcase htag fresh
  obtain rfl := Option.some.inj (hu.symm.trans hhidl)
  exact ⟨Or.inr rfl, rfl, rfl, haidl⟩

/-- The types of the sensors of `SensorList`. -/
inductive BoschType : SensorType → Prop
  | accelerometer : BoschType .accelerometer
  | gyroscope : BoschType .gyroscope
  | gravity : BoschType .gravity
  | linearAcceleration : BoschType .linearAcceleration
  | gyroscopeUncalibrated : BoschType .gyroscopeUncalibrated
  | accelerometerUncalibrated : BoschType .accelerometerUncalibrated

section Renders

variable {sensor : HalSensor} (fresh : ByteMemory)

/-- What a sensor reads it posts to either interface, and the payload is of the type's kind. -/
theorem readEvent_toHidlPayload (htype : BoschType sensor.description.type) (lastTemperature : Float32Word)
    {value : Aidl.SensorValues} (hlen : value.data.length = 3) :
    ∃ u, toHidlPayload sensor.description.type (sensor.readEvent lastTemperature value).1.payload fresh = some u ∧
      tag (sensor.readEvent lastTemperature value).1.payload = requiredTag sensor.description.type ∧
      (sensor.readEvent lastTemperature value).1 = ⟨value.timestamp, sensor.description.sensorHandle,
        sensor.description.type, (sensor.readEvent lastTemperature value).1.payload⟩ ∧
      readEvent sensor fresh lastTemperature value =
        (⟨value.timestamp, sensor.description.sensorHandle, sensor.description.type, u⟩,
          (sensor.readEvent lastTemperature value).2) := by
  obtain ⟨timestamp, data⟩ := value
  obtain ⟨x, y, z, rfl⟩ := List.length_eq_three.1 hlen
  unfold HalSensor.readEvent readEvent
  dsimp only
  generalize sensor.description.type = type at htype
  cases htype <;> exact ⟨_, rfl, rfl, rfl, rfl⟩

theorem hasCase_of_boschType {type : SensorType} (htype : BoschType type) : HasCase type := by
  cases htype <;> trivial

theorem renders_readEvent (htype : BoschType sensor.description.type) (lastTemperature : Float32Word)
    {value : Aidl.SensorValues} (hlen : value.data.length = 3) :
    Renders (readEvent sensor fresh lastTemperature value).1 (sensor.readEvent lastTemperature value).1 ∧
      (readEvent sensor fresh lastTemperature value).2 = (sensor.readEvent lastTemperature value).2 := by
  obtain ⟨u, hu, htag, heq, hhidl⟩ := readEvent_toHidlPayload fresh htype lastTemperature hlen
  rw [hhidl, heq]
  exact ⟨renders_of_toHidlPayload (e := ⟨_, _, sensor.description.type, _⟩) (hasCase_of_boschType htype) htag hu, rfl⟩

/-- **A read is posted to both interfaces alike.** -/
theorem renders_readEvents (htype : BoschType sensor.description.type) :
    ∀ (values : List Aidl.SensorValues) (lastTemperature : Float32Word), (∀ value ∈ values, value.data.length = 3) →
      List.Forall₂ Renders (readEvents sensor fresh lastTemperature values).1
        (sensor.readEvents lastTemperature values).1 ∧
      (readEvents sensor fresh lastTemperature values).2 = (sensor.readEvents lastTemperature values).2
  | [], _, _ => ⟨.nil, rfl⟩
  | value :: values, lastTemperature, hlen => by
    obtain ⟨hvalue, hvalues⟩ := List.forall_mem_cons.1 hlen
    obtain ⟨hevent, htemperature⟩ := renders_readEvent fresh htype lastTemperature hvalue
    obtain ⟨hevents, hlast⟩ := renders_readEvents htype values (sensor.readEvent lastTemperature value).2 hvalues
    unfold readEvents HalSensor.readEvents
    dsimp only
    rw [htemperature]
    exact ⟨.cons hevent hevents, hlast⟩

theorem renders_flushComplete (sensor : HalSensor) (ev : HidlEvent) :
    Renders (flushComplete sensor ev) sensor.flushComplete :=
  ⟨Or.inl rfl, rfl, rfl, congrArg (fun what => some (EventPayload.metaData what)) (Codec.read_write _ _ _ _)⟩

theorem renders_additional (sensorHandle : Int32) (timestamp : Int64) (frame : AdditionalInfo) :
    Renders ⟨timestamp, sensorHandle, .additionalInfo, additionalUnion fresh frame⟩
      { timestamp := timestamp, sensorHandle := sensorHandle, sensorType := .additionalInfo,
        payload := .additional frame } := by
  have hu : toHidlPayload .additionalInfo (.additional frame) fresh = some (additionalUnion fresh frame) := by
    obtain ⟨type, serial, payload⟩ := frame
    cases payload <;> rfl
  exact renders_of_toHidlPayload (e := ⟨timestamp, sensorHandle, .additionalInfo, .additional frame⟩) trivial rfl hu

/-! ### The report -/

/-- The entries of the placement that a sensor's configuration gives lie in the array. -/
def Placeable (sensor : HalSensor) : Prop :=
  ∀ entries, MultiHal.placementEntries sensor = some entries → Aidl.HalPlacement.Inside entries

theorem foldlM_setSensorPlacementData : ∀ {entries : List (Int × Float32Word)} (values : Vector Float32Word 14),
    Aidl.HalPlacement.Inside entries →
    entries.foldlM (fun values entry => MultiHal.setSensorPlacementData values entry.1 entry.2) values =
      some (entries.foldl (fun values entry => HalSensor.setSensorPlacementData values entry.1 entry.2) values)
  | [], _, _ => rfl
  | entry :: entries, values, hinside => by
    obtain ⟨⟨hnonneg, hlt⟩, hentries⟩ := List.forall_mem_cons.1 hinside
    have hentry : MultiHal.setSensorPlacementData values entry.1 entry.2 =
        some (HalSensor.setSensorPlacementData values entry.1 entry.2) := by
      unfold MultiHal.setSensorPlacementData HalSensor.setSensorPlacementData
      rw [if_neg (by omega), if_neg (by omega)]
    rw [List.foldlM_cons, hentry]
    exact foldlM_setSensorPlacementData _ hentries

theorem getSensorPlacement_eq (hplace : Placeable sensor) :
    MultiHal.getSensorPlacement sensor = sensor.getSensorPlacement := by
  unfold Placeable MultiHal.placementEntries at hplace
  unfold MultiHal.getSensorPlacement MultiHal.placementEntries HalSensor.getSensorPlacement
  generalize sensor.getLocation = locations at hplace ⊢
  generalize sensor.getOrientation = orientations at hplace ⊢
  rcases locations with _ | _ | ⟨location, _⟩
  · rfl
  · rfl
  · rcases orientations with _ | _ | ⟨orientation, _⟩
    · rfl
    · rfl
    · have hset := foldlM_setSensorPlacementData (Vector.replicate 14 0) (hplace _ rfl)
      simp only [hset]

/-- **A report is posted to both interfaces alike**, if the placement can be. -/
theorem renders_additionalInfoEvents (hplace : Placeable sensor) (temperature : Option Float32Word)
    (elapsed : Nat → Int64) :
    List.Forall₂ Renders (additionalInfoEvents sensor fresh temperature elapsed)
      (sensor.additionalInfoEvents temperature elapsed) := by
  have hframes : MultiHal.additionalInfoFrames sensor temperature = sensor.additionalInfoFrames temperature := by
    unfold MultiHal.additionalInfoFrames HalSensor.additionalInfoFrames
    rw [getSensorPlacement_eq hplace]
  unfold additionalInfoEvents HalSensor.additionalInfoEvents
  rw [hframes, List.mapIdx_eq_zipIdx_map, List.mapIdx_eq_zipIdx_map, List.forall₂_map_left_iff,
    List.forall₂_map_right_iff, List.forall₂_same]
  exact fun frame _ => renders_additional fresh _ _ _

end Renders

end Hidl
end MemsHal
