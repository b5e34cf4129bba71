import Mathlib.Algebra.Ring.Int.Defs
import MemsHal.Clients
import MemsHal.StdMap
/-!
# SensorCore — `core/SensorCore.cpp`, `core/CompositeSensors.cpp`: activation and batching

A `SensorCore` arbitrates the types that use one physical sensor: its own and those of the composite sensors built on
it.  The virtual functions `setPowerMode` and `setSamplingRate` belong to the subclasses, so every operation returns
the calls it makes on them, in order, with the new core.
-/
namespace MemsHal

inductive BoschSensorType
  | accel
  | gyro
  | gravity
  | linearAccel
  | gyroUncalibrated
  | accelUncalibrated
  deriving DecidableEq, Repr

/-- The enumerators' values, the order of a `std::map` over them. -/
def BoschSensorType.value : BoschSensorType → Nat
  | .accel             => 1
  | .gyro              => 4
  | .gravity           => 9
  | .linearAccel       => 10
  | .gyroUncalibrated  => 16
  | .accelUncalibrated => 35

instance : Ord BoschSensorType := ⟨fun a b => compare a.value b.value⟩

instance : Std.TransOrd BoschSensorType where
  eq_swap := Std.OrientedOrd.eq_swap (α := Nat)
  isLE_trans := Std.TransOrd.isLE_trans (α := Nat)

instance : Std.LawfulEqOrd BoschSensorType where
  eq_of_compare {a b} h := by
    have : a.value = b.value := Std.LawfulEqOrd.eq_of_compare (α := Nat) h
    cases a <;> cases b <;> first | rfl | cases this

/-- The fields of `SensorData` that activation and batching read.  `maxDelayUs * 1000` is an `int` product. -/
structure SensorData where
  driverName : String
  sensorName : String
  type : BoschSensorType
  minDelayUs : Int
  maxDelayUs : Int
  noOverflow : maxDelayUs * 1000 < 2 ^ 31 := by decide

structure SensorCore where
  mSensorData : SensorData
  mDevice : String
  mIsEnabled : Bool := false
  mEnableState : StdMap BoschSensorType Bool := ∅
  mSamplingPeriods : StdMap BoschSensorType Int := ∅

/-- A call of a virtual function of `SensorCore`. -/
inductive DriverCall
  | setPowerMode (enable : Bool)
  | setSamplingRate (samplingPeriodNs : Int)
  deriving DecidableEq, Repr

namespace SensorCore

/-- The slowest period, in nanoseconds. -/
def maxDelayNs (c : SensorCore) : Int := c.mSensorData.maxDelayUs * 1000

/-- One pass of the loop of `updateSamplingRate`; `mEnableState[type]` is evaluated for every batched type. -/
def scanPeriod (acc : StdMap BoschSensorType Bool × Int) (samplingPeriod : BoschSensorType × Int) :
    StdMap BoschSensorType Bool × Int :=
  let mEnableState := acc.1.subscript samplingPeriod.1 false
  (mEnableState,
    if mEnableState.getD samplingPeriod.1 false = true ∧ samplingPeriod.2 < acc.2 then samplingPeriod.2 else acc.2)

def updateSamplingRate (c : SensorCore) : SensorCore × List DriverCall :=
  let (mEnableState, usedSamplingPeriod) :=
    c.mSamplingPeriods.toList.foldl scanPeriod (c.mEnableState, c.maxDelayNs)
  ({ c with mEnableState := mEnableState }, [.setSamplingRate usedSamplingPeriod])

def activateByType (c : SensorCore) (type : BoschSensorType) (enable : Bool) : SensorCore × List DriverCall :=
  let c := { c with mEnableState := c.mEnableState.insert type enable }
  let isEnabled := c.mEnableState.toList.any (fun state => state.2)
  if isEnabled ≠ c.mIsEnabled then
    let (c, calls) := { c with mIsEnabled := isEnabled }.updateSamplingRate
    (c, .setPowerMode isEnabled :: calls)
  else (c, [])

def batchByType (c : SensorCore) (type : BoschSensorType) (samplingPeriodNs _maxReportLatencyNs : Int64) :
    SensorCore × List DriverCall :=
  { c with mSamplingPeriods := c.mSamplingPeriods.insert type samplingPeriodNs.toInt }.updateSamplingRate

def activate (c : SensorCore) (enable : Bool) : SensorCore × List DriverCall :=
  c.activateByType c.mSensorData.type enable

def batch (c : SensorCore) (samplingPeriodNs maxReportLatencyNs : Int64) : SensorCore × List DriverCall :=
  c.batchByType c.mSensorData.type samplingPeriodNs maxReportLatencyNs

/-- The types a core serves, as clients of its sampling rate. -/
def clients (c : SensorCore) : Clients BoschSensorType Int :=
  ⟨fun t => c.mEnableState.getD t false, fun t => c.mSamplingPeriods[t]?⟩

theorem any_enabled_iff (c : SensorCore) :
    c.mEnableState.toList.any (fun state => state.2) = true ↔ c.clients.Running := by
  simp only [List.any_eq_true, Prod.exists, StdMap.mem_toList, Clients.Running, clients,
    Std.ExtTreeMap.getD_eq_getD_getElem?]
  constructor
  · rintro ⟨t, b, ht, rfl⟩
    exact ⟨t, by rw [ht]; rfl⟩
  · rintro ⟨t, ht⟩
    refine ⟨t, true, ?_, rfl⟩
    cases hs : c.mEnableState[t]? with
    | none => rw [hs] at ht; cases ht
    | some b => rw [hs] at ht; exact congrArg some ht

/-- The loop leaves every enable flag as it reads. -/
theorem scanPeriod_getD : ∀ (l : List (BoschSensorType × Int)) (acc : StdMap BoschSensorType Bool × Int)
    (t : BoschSensorType), (l.foldl scanPeriod acc).1.getD t false = acc.1.getD t false
  | [], _, _ => rfl
  | e :: l, acc, t => by
    rw [List.foldl_cons, scanPeriod_getD l, scanPeriod, StdMap.getD_subscript]

/-- The loop computes the least of its start and the enabled periods. -/
theorem scanPeriod_eq_scanLeast : ∀ (l : List (BoschSensorType × Int)) (acc : StdMap BoschSensorType Bool × Int),
    (l.foldl scanPeriod acc).2 =
      Least.scanLeast (fun e : BoschSensorType × Int => acc.1.getD e.1 false) Prod.snd acc.2 l
  | [], _ => rfl
  | e :: l, acc => by
    rw [List.foldl_cons, scanPeriod_eq_scanLeast l]
    simp only [scanPeriod, StdMap.getD_subscript]
    rfl

/-- The period `updateSamplingRate` passes on. -/
def usedSamplingPeriod (c : SensorCore) : Int :=
  (c.mSamplingPeriods.toList.foldl scanPeriod (c.mEnableState, c.maxDelayNs)).2

/-- **`updateSamplingRate` computes the rate the enabled types need.** -/
theorem isRate_usedSamplingPeriod (c : SensorCore) : c.clients.IsRate {c.maxDelayNs} c.usedSamplingPeriod := by
  have h := Least.isLeast_scanLeast (fun e : BoschSensorType × Int => c.mEnableState.getD e.1 false) Prod.snd
    c.mSamplingPeriods.toList c.maxDelayNs
  unfold usedSamplingPeriod Clients.IsRate
  rw [scanPeriod_eq_scanLeast]
  convert h using 1
  ext q
  simp only [Clients.demands, clients, Set.mem_singleton_iff, Set.mem_ofPred_eq, Prod.exists, StdMap.mem_toList]
  constructor
  · rintro (rfl | ⟨t, ht, hq⟩)
    · exact Or.inl rfl
    · exact Or.inr ⟨t, q, hq, ht, rfl⟩
  · rintro (rfl | ⟨t, p, hp, ht, rfl⟩)
    · exact Or.inl rfl
    · exact Or.inr ⟨t, ht, hp⟩

@[simp] theorem updateSamplingRate_clients (c : SensorCore) : c.updateSamplingRate.1.clients = c.clients := by
  have h : ∀ t, c.updateSamplingRate.1.mEnableState.getD t false = c.mEnableState.getD t false :=
    fun t => scanPeriod_getD c.mSamplingPeriods.toList (c.mEnableState, c.maxDelayNs) t
  simp only [clients, h]
  rfl

end SensorCore

/-- The operations of `SensorCore` that clients interleave. -/
inductive CoreOp
  | activateByType (type : BoschSensorType) (enable : Bool)
  | batchByType (type : BoschSensorType) (samplingPeriodNs maxReportLatencyNs : Int64)

/-- What an operation asks for, whatever the core makes of it. -/
def CoreOp.ask : CoreOp → Clients BoschSensorType Int → Clients BoschSensorType Int
  | .activateByType type enable, c        => c.activate type enable
  | .batchByType type samplingPeriodNs _, c => c.batch type samplingPeriodNs.toInt

namespace SensorCore

def exec (c : SensorCore) : CoreOp → SensorCore × List DriverCall
  | .activateByType type enable => c.activateByType type enable
  | .batchByType type samplingPeriodNs maxReportLatencyNs => c.batchByType type samplingPeriodNs maxReportLatencyNs

/-- `mIsEnabled` tells whether some type is enabled. -/
def Consistent (c : SensorCore) : Prop := c.mIsEnabled = true ↔ c.clients.Running

theorem clients_insert_enableState (c : SensorCore) (t : BoschSensorType) (e b : Bool) :
    clients { c with mEnableState := c.mEnableState.insert t e, mIsEnabled := b } = c.clients.activate t e := by
  have h : (fun a => (c.mEnableState.insert t e).getD a false) = Function.update c.clients.active t e := by
    funext a
    rw [StdMap.getD_insert_eq, Function.update_apply]
    by_cases ha : t = a
    · subst ha; simp
    · rw [if_neg ha, if_neg (Ne.symm ha)]; rfl
  exact congrArg (fun f => Clients.mk f c.clients.period) h

theorem clients_insert_samplingPeriods (c : SensorCore) (t : BoschSensorType) (p : Int) :
    clients { c with mSamplingPeriods := c.mSamplingPeriods.insert t p } = c.clients.batch t p := by
  have h : (fun a => (c.mSamplingPeriods.insert t p)[a]?) = Function.update c.clients.period t (some p) := by
    funext a
    rw [StdMap.getElem?_insert_eq, Function.update_apply]
    by_cases ha : t = a
    · subst ha; simp
    · rw [if_neg ha, if_neg (Ne.symm ha)]; rfl
  exact congrArg (fun f => Clients.mk c.clients.active f) h

theorem exec_data (c : SensorCore) (op : CoreOp) : (c.exec op).1.mSensorData = c.mSensorData := by
  cases op with
  | activateByType t e => unfold exec activateByType; dsimp only; split <;> rfl
  | batchByType t p l => rfl

theorem exec_device (c : SensorCore) (op : CoreOp) : (c.exec op).1.mDevice = c.mDevice := by
  cases op with
  | activateByType t e => unfold exec activateByType; dsimp only; split <;> rfl
  | batchByType t p l => rfl

/-- **The two maps of a core hold exactly what was asked of it.** -/
theorem exec_clients (c : SensorCore) (op : CoreOp) : (c.exec op).1.clients = op.ask c.clients := by
  cases op with
  | activateByType t e =>
    unfold exec activateByType
    dsimp only
    split
    · exact (updateSamplingRate_clients _).trans (clients_insert_enableState c t e _)
    · exact clients_insert_enableState c t e c.mIsEnabled
  | batchByType t p l => exact (updateSamplingRate_clients _).trans (clients_insert_samplingPeriods c t p.toInt)

theorem exec_activateByType (c : SensorCore) (t : BoschSensorType) (e : Bool) :
    ((c.exec (.activateByType t e)).1.mIsEnabled = true ↔ (c.clients.activate t e).Running) ∧
    (((c.exec (.activateByType t e)).1.mIsEnabled = c.mIsEnabled ∧ (c.exec (.activateByType t e)).2 = []) ∨
     ((c.exec (.activateByType t e)).1.mIsEnabled ≠ c.mIsEnabled ∧ ∃ p,
        (c.clients.activate t e).IsRate {c.maxDelayNs} p ∧
        (c.exec (.activateByType t e)).2 =
          [.setPowerMode (c.exec (.activateByType t e)).1.mIsEnabled, .setSamplingRate p])) := by
  have hrun := any_enabled_iff { c with mEnableState := c.mEnableState.insert t e }
  rw [clients_insert_enableState c t e c.mIsEnabled] at hrun
  unfold exec activateByType
  dsimp only
  split
  · rename_i hne
    have hrate := isRate_usedSamplingPeriod
      { c with mEnableState := c.mEnableState.insert t e,
               mIsEnabled := (c.mEnableState.insert t e).toList.any (fun state => state.2) }
    rw [clients_insert_enableState] at hrate
    exact ⟨hrun, Or.inr ⟨hne, _, hrate, rfl⟩⟩
  · rename_i heq
    rw [Decidable.not_not.1 heq] at hrun
    exact ⟨hrun, Or.inl ⟨rfl, rfl⟩⟩

theorem exec_batchByType (c : SensorCore) (t : BoschSensorType) (q l : Int64) :
    (c.exec (.batchByType t q l)).1.mIsEnabled = c.mIsEnabled ∧ ∃ p,
      (c.clients.batch t q.toInt).IsRate {c.maxDelayNs} p ∧
      (c.exec (.batchByType t q l)).2 = [.setSamplingRate p] := by
  have hrate := isRate_usedSamplingPeriod { c with mSamplingPeriods := c.mSamplingPeriods.insert t q.toInt }
  rw [clients_insert_samplingPeriods] at hrate
  exact ⟨rfl, _, hrate, rfl⟩

theorem exec_consistent (c : SensorCore) (op : CoreOp) (hc : c.Consistent) : (c.exec op).1.Consistent := by
  unfold Consistent
  rw [exec_clients]
  cases op with
  | activateByType t e => exact (exec_activateByType c t e).1
  | batchByType t q l => rw [(exec_batchByType c t q l).1]; exact hc

end SensorCore

end MemsHal
