import MemsHal.GravityFusion
import MemsHal.Sensor
/-!
# SensorHal — `core/ISensorHal.h`: the object behind a sensor, and what it reads

A `SensorCore` reads the files of its sysfs directory, and a file that cannot be read leaves the vector of its values
empty.  A composite reads its accelerometer and its gyroscope and hands both vectors to `calculateGravity`.  `none`
stands for taking an element of an empty vector.
-/
namespace MemsHal

/-- A pass over the files: the values, unless one could not be read. -/
structure RawRead (K : Type*) where
  timestamp : Int64
  data : Option (Fin 3 → K)

/-- `[0].data[0..2]` of a vector, with the rest of it. -/
def Samples.of? {K : Type*} : List (SensorValues K) → Option (Samples K)
  | []            => none
  | first :: rest => if three : 3 ≤ first.data.length then some ⟨first, rest, three⟩ else none

namespace SensorCore

variable {K : Type*}

def readPollingData (values : List (SensorValues K)) (read : RawRead K) : List (SensorValues K) :=
  match read.data with
  | none      => values
  | some data => values ++ [{ timestamp := read.timestamp, data := [data 0, data 1, data 2] }]

def readSensorValues (read : RawRead K) : List (SensorValues K) := readPollingData [] read

theorem readSensorValues_of_none {read : RawRead K} (h : read.data = none) : readSensorValues read = [] := by
  unfold readSensorValues readPollingData
  rw [h]

theorem readSensorValues_of_some {read : RawRead K} {data : Fin 3 → K} (h : read.data = some data) :
    readSensorValues read = [{ timestamp := read.timestamp, data := [data 0, data 1, data 2] }] := by
  unfold readSensorValues readPollingData
  rw [h]
  rfl

theorem of?_readSensorValues_of_some {read : RawRead K} {data : Fin 3 → K} (h : read.data = some data) :
    Samples.of? (readSensorValues read) = some (.one read.timestamp (data 0) (data 1) (data 2)) := by
  rw [readSensorValues_of_some h]
  rfl

end SensorCore

/-! ## What a call leaves of the part that all composites share -/

namespace GravityFusion

section Core

variable {K : Type*} [Field K] [LinearOrder K] (p : Platform K) (f : GravityFusion K)

theorem checkState_core : f.checkState.toCompositeSensorCore = f.toCompositeSensorCore := by
  unfold checkState
  split <;> rfl

theorem predict_core (w : Fin 3 → K) (dT : K) :
    (f.predict p w dT).toCompositeSensorCore = f.toCompositeSensorCore := checkState_core _

theorem update_core (z Bi : Fin 3 → K) (sigma : K) :
    (f.update p z Bi sigma).toCompositeSensorCore = f.toCompositeSensorCore := checkState_core _

theorem start_core (accel : Fin 3 → K) :
    (f.start p accel).1.toCompositeSensorCore =
      { f.toCompositeSensorCore with
        mJustStarted := if f.mJustStarted = some true then some false else f.mJustStarted } := by
  unfold start
  split <;> rfl

theorem correct_core (accel : Fin 3 → K) :
    (f.correct p accel).1.toCompositeSensorCore = f.toCompositeSensorCore := by
  unfold correct
  dsimp only
  split
  · rw [update_core, update_core]
  · rfl

/-- **`calculateGravity` clears `mJustStarted`** and changes nothing else that a composite keeps beside its filter. -/
theorem calculateGravity_core (accValues gyroValues : Samples K) :
    (f.calculateGravity p accValues gyroValues).fusion.toCompositeSensorCore =
      { f.toCompositeSensorCore with
        mJustStarted := if f.mJustStarted = some true then some false else f.mJustStarted } := by
  rw [← start_core p f accValues.axis, ← correct_core p (f.start p accValues.axis).1 accValues.axis]
  exact predict_core p _ _ _

theorem calculateGravity_mDependencyList (accValues gyroValues : Samples K) :
    (f.calculateGravity p accValues gyroValues).fusion.mDependencyList = f.mDependencyList := by
  rw [calculateGravity_core]

end Core

/-- A call that the `Sensor` makes on its `mSensor`. -/
def call {K : Type*} (f : GravityFusion K) : SensorCall → GravityFusion K
  | .activate enable                           => (f.activate enable).1
  | .batch samplingPeriodNs maxReportLatencyNs =>
    (f.batch (Int64.ofInt samplingPeriodNs) (Int64.ofInt maxReportLatencyNs)).1
  | .sendAdditionalInfoReport                  => f

/-- The loop of either `readSensorValues` over the dependencies: `accValues` and `gyroValues`. -/
def dependencyValues {K : Type*} (f : GravityFusion K) (reads : SensorId → RawRead K) :
    List (SensorValues K) × List (SensorValues K) :=
  f.mDependencyList.foldl (fun values sensor =>
    if sensor.data.type = .accel then (SensorCore.readSensorValues (reads sensor), values.2)
    else if sensor.data.type = .gyro then (values.1, SensorCore.readSensorValues (reads sensor))
    else values) ([], [])

end GravityFusion

/-- A composite as its constructor leaves it: on an accelerometer and a gyroscope. -/
structure CompositeSensor (K : Type*) where
  fusion : GravityFusion K
  accel : SensorId
  gyro : SensorId
  accel_type : accel.data.type = .accel
  gyro_type : gyro.data.type = .gyro
  dependencies : fusion.mDependencyList = [accel, gyro]

namespace CompositeSensor

variable {K : Type*}

def withFusion (c : CompositeSensor K) (fusion : GravityFusion K)
    (h : fusion.mDependencyList = c.fusion.mDependencyList) : CompositeSensor K :=
  { c with fusion := fusion, dependencies := h.trans c.dependencies }

def call (c : CompositeSensor K) (sensorCall : SensorCall) : CompositeSensor K :=
  c.withFusion (c.fusion.call sensorCall) (by cases sensorCall <;> rfl)

theorem dependencyValues_eq (c : CompositeSensor K) (reads : SensorId → RawRead K) :
    c.fusion.dependencyValues reads =
      (SensorCore.readSensorValues (reads c.accel), SensorCore.readSensorValues (reads c.gyro)) := by
  have hgyro : ¬ c.gyro.data.type = .accel := by
    rw [c.gyro_type]
    decide
  unfold GravityFusion.dependencyValues
  rw [c.dependencies, List.foldl_cons, List.foldl_cons, List.foldl_nil, if_pos c.accel_type, if_neg hgyro,
    if_pos c.gyro_type]

variable [Field K] [LinearOrder K] (p : Platform K)

/-- A call of `calculateGravity` on vectors: the composite after it, the accelerometer's vector and the result. -/
def calculateGravity (c : CompositeSensor K) (values : List (SensorValues K) × List (SensorValues K)) :
    Option (CompositeSensor K × Samples K × SensorValues K) :=
  match Samples.of? values.1, Samples.of? values.2 with
  | some accValues, some gyroValues =>
    let outcome := c.fusion.calculateGravity p accValues gyroValues
    let fusion := c.withFusion outcome.fusion (c.fusion.calculateGravity_mDependencyList p accValues gyroValues)
    some (fusion, accValues, outcome.result)
  | _, _ => none

/-- Both vectors have an element exactly if both reads succeeded. -/
theorem calculateGravity_eq_none_iff (c : CompositeSensor K) (reads : SensorId → RawRead K) :
    c.calculateGravity p (c.fusion.dependencyValues reads) = none ↔
      ¬ ((reads c.accel).data.isSome = true ∧ (reads c.gyro).data.isSome = true) := by
  rw [dependencyValues_eq]
  unfold calculateGravity
  cases hacc : (reads c.accel).data with
  | none =>
    rw [SensorCore.readSensorValues_of_none hacc]
    exact iff_of_true rfl fun h => Bool.false_ne_true h.1
  | some acc =>
    dsimp only
    rw [SensorCore.of?_readSensorValues_of_some hacc]
    cases hgyro : (reads c.gyro).data with
    | none =>
      rw [SensorCore.readSensorValues_of_none hgyro]
      exact iff_of_true rfl fun h => Bool.false_ne_true h.2
    | some gyro =>
      rw [SensorCore.of?_readSensorValues_of_some hgyro]
      exact iff_of_false (fun h => by cases h) fun h => h ⟨rfl, rfl⟩

end CompositeSensor

section ReadSensorValues

variable {K : Type*} [Field K] [LinearOrder K] (p : Platform K)

def Gravity.readSensorValues (c : CompositeSensor K) (reads : SensorId → RawRead K) :
    Option (CompositeSensor K × List (SensorValues K)) :=
  (c.calculateGravity p (c.fusion.dependencyValues reads)).map fun (c, _, result) => (c, [result])

def LinearAcceleration.readSensorValues (c : CompositeSensor K) (reads : SensorId → RawRead K) :
    Option (CompositeSensor K × List (SensorValues K)) :=
  (c.calculateGravity p (c.fusion.dependencyValues reads)).map fun (c, accValues, result) =>
    let data := List.zipWith (· - ·) accValues.first.data result.data ++ accValues.first.data.drop 3
    (c, [{ accValues.first with data := data }])

end ReadSensorValues

/-- The object behind a sensor. -/
inductive ISensorHal (K : Type*)
  | sensorCore (id : SensorId)
  | gravity (composite : CompositeSensor K)
  | linearAcceleration (composite : CompositeSensor K)

namespace ISensorHal

variable {K : Type*}

/-- A call of its `Sensor`.  What a call does to the cores decides nothing that is read. -/
def call : ISensorHal K → SensorCall → ISensorHal K
  | .sensorCore id, _                          => .sensorCore id
  | .gravity composite, sensorCall             => .gravity (composite.call sensorCall)
  | .linearAcceleration composite, sensorCall  => .linearAcceleration (composite.call sensorCall)

/-- The cores that it reads. -/
def dependencies : ISensorHal K → List SensorId
  | .sensorCore id                                              => [id]
  | .gravity composite | .linearAcceleration composite => composite.fusion.mDependencyList

/-- A read of every file succeeds. -/
def ReadsSucceed (hal : ISensorHal K) (reads : SensorId → RawRead K) : Prop :=
  ∀ id ∈ hal.dependencies, (reads id).data.isSome = true

instance (hal : ISensorHal K) (reads : SensorId → RawRead K) : Decidable (hal.ReadsSucceed reads) :=
  inferInstanceAs (Decidable (∀ id ∈ hal.dependencies, _))

/-- It is a composite. -/
def isComposite : ISensorHal K → Bool
  | .sensorCore _ => false
  | _             => true

variable [Field K] [LinearOrder K] (p : Platform K)

def readSensorValues : ISensorHal K → (SensorId → RawRead K) → Option (ISensorHal K × List (SensorValues K))
  | .sensorCore id, reads                => some (.sensorCore id, SensorCore.readSensorValues (reads id))
  | .gravity composite, reads            => (Gravity.readSensorValues p composite reads).map (Prod.map .gravity id)
  | .linearAcceleration composite, reads =>
    (LinearAcceleration.readSensorValues p composite reads).map (Prod.map .linearAcceleration id)

omit [Field K] [LinearOrder K] in
theorem readsSucceed_iff {c : CompositeSensor K} {reads : SensorId → RawRead K} :
    (∀ id ∈ c.fusion.mDependencyList, (reads id).data.isSome = true) ↔
      (reads c.accel).data.isSome = true ∧ (reads c.gyro).data.isSome = true := by
  rw [c.dependencies, List.forall_mem_cons, List.forall_mem_singleton]

/-- **A composite takes an element of an empty vector** exactly if one of its reads fails. -/
theorem readSensorValues_eq_none_iff (hal : ISensorHal K) (reads : SensorId → RawRead K) :
    hal.readSensorValues p reads = none ↔ hal.isComposite = true ∧ ¬ hal.ReadsSucceed reads := by
  cases hal with
  | sensorCore id => exact iff_of_false (fun h => by cases h) fun h => Bool.false_ne_true h.1
  | gravity c =>
    have hnone := c.calculateGravity_eq_none_iff p reads
    rw [← readsSucceed_iff] at hnone
    simp only [readSensorValues, Gravity.readSensorValues, Option.map_eq_none_iff, isComposite, true_and]
    exact hnone
  | linearAcceleration c =>
    have hnone := c.calculateGravity_eq_none_iff p reads
    rw [← readsSucceed_iff] at hnone
    simp only [readSensorValues, LinearAcceleration.readSensorValues, Option.map_eq_none_iff, isComposite, true_and]
    exact hnone

/-- **What is returned is empty** exactly if it comes from a `SensorCore` whose read failed. -/
theorem values_eq_nil_iff {hal after : ISensorHal K} {reads : SensorId → RawRead K} {values : List (SensorValues K)}
    (h : hal.readSensorValues p reads = some (after, values)) : values = [] ↔ ¬ hal.ReadsSucceed reads := by
  have hread : hal.isComposite = true → hal.ReadsSucceed reads := fun hcomposite => by
    by_contra hfail
    rw [(readSensorValues_eq_none_iff p hal reads).2 ⟨hcomposite, hfail⟩] at h
    cases h
  cases hal with
  | sensorCore id =>
    have hvalues : SensorCore.readSensorValues (reads id) = values := congrArg Prod.snd (Option.some.inj h)
    have hid : (ISensorHal.sensorCore id).ReadsSucceed reads ↔ (reads id).data.isSome = true :=
      List.forall_mem_singleton
    rw [hid, ← hvalues]
    cases hdata : (reads id).data with
    | none => exact iff_of_true (SensorCore.readSensorValues_of_none hdata) Bool.false_ne_true
    | some data =>
      rw [SensorCore.readSensorValues_of_some hdata]
      exact iff_of_false (List.cons_ne_nil _ _) fun hn => hn rfl
  | gravity c =>
    obtain ⟨⟨c', result⟩, hresult, heq⟩ := Option.map_eq_some_iff.1 h
    obtain ⟨outcome, -, hone⟩ := Option.map_eq_some_iff.1 hresult
    have hvalues : result = values := congrArg Prod.snd heq
    have hsingle : _ :: _ = result := congrArg Prod.snd hone
    rw [← hvalues, ← hsingle]
    exact iff_of_false (List.cons_ne_nil _ _) fun hfail => hfail (hread rfl)
  | linearAcceleration c =>
    obtain ⟨⟨c', result⟩, hresult, heq⟩ := Option.map_eq_some_iff.1 h
    obtain ⟨outcome, -, hone⟩ := Option.map_eq_some_iff.1 hresult
    have hvalues : result = values := congrArg Prod.snd heq
    have hsingle : _ :: _ = result := congrArg Prod.snd hone
    rw [← hvalues, ← hsingle]
    exact iff_of_false (List.cons_ne_nil _ _) fun hfail => hfail (hread rfl)

end ISensorHal

end MemsHal
