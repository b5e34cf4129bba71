import MemsHal.GravityFusion
import MemsHal.Run
/-!
# GravityTime — the time that the fusion integrates over

`Gravity` and `LinearAcceleration` read by way of `calculateGravity`, which turns the orientation by the gyroscope over
the time since `mLastTimestamp`, as a float.  Neither `activate` nor `initFusion` sets that member, so the first read of
an activation covers the time since the last read before it, or since boot, and the float is rounded
(`steps_current_iff`).
-/
namespace MemsHal

namespace GravityFusion

section LastTimestamp

variable {K : Type*} [Field K] [LinearOrder K] (p : Platform K) (f : GravityFusion K)

/-- The time, in nanoseconds, that a call of `calculateGravity` hands to `predict`. -/
def deltaTime (accValues gyroValues : Samples K) : Int :=
  FloatRound.ofInt 24
    (gyroValues.first.timestamp - ((f.start p accValues.axis).1.correct p accValues.axis).1.mLastTimestamp).toInt

/-- **The last act of `calculateGravity`** on the filter is to predict over `deltaTime`. -/
theorem calculateGravity_fusion (accValues gyroValues : Samples K) :
    (f.calculateGravity p accValues gyroValues).fusion =
      predict p { ((f.start p accValues.axis).1.correct p accValues.axis).1 with
        mLastTimestamp := gyroValues.first.timestamp } gyroValues.axis
        ((f.deltaTime p accValues gyroValues : K) / 1e9) := rfl

@[simp] theorem checkState_mLastTimestamp : f.checkState.mLastTimestamp = f.mLastTimestamp := by
  unfold checkState
  split <;> rfl

@[simp] theorem predict_mLastTimestamp (w : Fin 3 → K) (dT : K) :
    (f.predict p w dT).mLastTimestamp = f.mLastTimestamp := checkState_mLastTimestamp _

@[simp] theorem update_mLastTimestamp (z Bi : Fin 3 → K) (sigma : K) :
    (f.update p z Bi sigma).mLastTimestamp = f.mLastTimestamp := checkState_mLastTimestamp _

@[simp] theorem start_mLastTimestamp (accel : Fin 3 → K) : (f.start p accel).1.mLastTimestamp = f.mLastTimestamp := by
  unfold start
  split <;> rfl

@[simp] theorem correct_mLastTimestamp (accel : Fin 3 → K) :
    (f.correct p accel).1.mLastTimestamp = f.mLastTimestamp := by
  unfold correct
  dsimp only
  split
  · rw [update_mLastTimestamp, update_mLastTimestamp]
  · rfl

theorem deltaTime_eq (accValues gyroValues : Samples K) :
    f.deltaTime p accValues gyroValues =
      FloatRound.ofInt 24 (gyroValues.first.timestamp - f.mLastTimestamp).toInt := by
  unfold deltaTime
  rw [correct_mLastTimestamp, start_mLastTimestamp]

theorem calculateGravity_mLastTimestamp (accValues gyroValues : Samples K) :
    (f.calculateGravity p accValues gyroValues).fusion.mLastTimestamp = gyroValues.first.timestamp := by
  rw [calculateGravity_fusion, predict_mLastTimestamp]

end LastTimestamp

end GravityFusion

namespace GravityTime

open GravityFusion
open Run (Steps run)

variable {K : Type*} [Field K] [LinearOrder K] (p : Platform K)

/-- The calls on a composite sensor; `activate` is called at the time `now`. -/
inductive FusionOp (K : Type*)
  | activate (enable : Bool) (now : Int64)
  | batch (samplingPeriodNs maxReportLatencyNs : Int64)
  | readSensorValues (accValues gyroValues : Samples K)

/-- A composite sensor with the time of its latest `activate(true)`, whether it was read since, and the gyroscope
timestamp of its last read. -/
structure Session (K : Type*) where
  fusion : GravityFusion K
  active : Bool
  activatedAt : Int64
  unread : Bool
  lastGyro : Option Int64

namespace Session

def construct (fusion : GravityFusion K) : Session K := ⟨fusion, false, 0, true, none⟩

def step (s : Session K) : FusionOp K → Session K
  | .activate true now =>
    { s with fusion := (s.fusion.activate true).1, active := true, activatedAt := now, unread := true }
  | .activate false _ => { s with fusion := (s.fusion.activate false).1, active := false }
  | .batch samplingPeriodNs maxReportLatencyNs =>
    { s with fusion := (s.fusion.batch samplingPeriodNs maxReportLatencyNs).1 }
  | .readSensorValues accValues gyroValues =>
    { s with
      fusion := (s.fusion.calculateGravity p accValues gyroValues).fusion
      unread := false
      lastGyro := some gyroValues.first.timestamp }

end Session

/-- Reads come only while the sensor is active, with gyroscope timestamps, read off the time since boot, that do not
decrease. -/
def Legal (s : Session K) : FusionOp K → Prop
  | .readSensorValues _ gyroValues =>
    s.active = true ∧ 0 ≤ gyroValues.first.timestamp ∧ ∀ t ∈ s.lastGyro, t ≤ gyroValues.first.timestamp
  | _ => True

/-- **A read integrates over the current activation only**: the first read over no time before it, a later one over the
time since the read before. -/
def Current (s : Session K) : FusionOp K → Prop
  | .readSensorValues accValues gyroValues =>
    if s.unread then
      s.fusion.deltaTime p accValues gyroValues ≤ gyroValues.first.timestamp.toInt - s.activatedAt.toInt
    else ∃ t, s.lastGyro = some t ∧
      s.fusion.deltaTime p accValues gyroValues = gyroValues.first.timestamp.toInt - t.toInt
  | _ => True

/-- A first read finds a timestamp that is not from before the activation, and what rounding adds to the time since; a
later one comes after a time that a float can hold. -/
def Remembers (s : Session K) : FusionOp K → Prop
  | .readSensorValues _ gyroValues =>
    let elapsed := gyroValues.first.timestamp.toInt - s.fusion.mLastTimestamp.toInt
    if s.unread then s.activatedAt.toInt + FloatRound.error 24 elapsed ≤ s.fusion.mLastTimestamp.toInt
    else FloatRound.Exact 24 elapsed
  | _ => True

structure Inv (s : Session K) : Prop where
  lastTimestamp : s.fusion.mLastTimestamp = s.lastGyro.getD 0
  nonneg : 0 ≤ s.fusion.mLastTimestamp
  read : s.unread = false → s.lastGyro.isSome = true

omit [Field K] [LinearOrder K] in
theorem inv_construct {fusion : GravityFusion K} (h : fusion.mLastTimestamp = 0) : Inv (Session.construct fusion) where
  lastTimestamp := h
  nonneg := by
    show 0 ≤ fusion.mLastTimestamp
    rw [h]
    exact Int64.le_refl 0
  read h := by cases h

theorem inv_step (s : Session K) (op : FusionOp K) (h : Inv s) (hop : Legal s op) : Inv (s.step p op) := by
  cases op with
  | activate enable now =>
    cases enable with
    | true => exact ⟨h.lastTimestamp, h.nonneg, fun hn => by cases hn⟩
    | false => exact ⟨h.lastTimestamp, h.nonneg, h.read⟩
  | batch samplingPeriodNs maxReportLatencyNs => exact ⟨h.lastTimestamp, h.nonneg, h.read⟩
  | readSensorValues accValues gyroValues =>
    have hlast := calculateGravity_mLastTimestamp p s.fusion accValues gyroValues
    refine ⟨hlast, ?_, fun _ => rfl⟩
    show 0 ≤ (s.fusion.calculateGravity p accValues gyroValues).fusion.mLastTimestamp
    rw [hlast]
    exact hop.2.1

theorem toInt_sub_of_nonneg {a b : Int64} (ha : 0 ≤ a) (hb : 0 ≤ b) : (a - b).toInt = a.toInt - b.toInt := by
  rw [Int64.le_iff_toInt_le] at ha hb
  have ha' : a.toInt < 2 ^ 63 := Int64.toInt_lt a
  have hb' : b.toInt < 2 ^ 63 := Int64.toInt_lt b
  have hz : (0 : Int64).toInt = 0 := rfl
  rw [Int64.toInt_sub, Int.bmod_eq_of_le] <;> omega

/-- **One step** is current exactly if it meets that. -/
theorem current_iff (s : Session K) (op : FusionOp K) (h : Inv s) (hop : Legal s op) :
    Current p s op ↔ Remembers s op := by
  cases op with
  | activate enable now => exact Iff.rfl
  | batch samplingPeriodNs maxReportLatencyNs => exact Iff.rfl
  | readSensorValues accValues gyroValues =>
    have hdelta : s.fusion.deltaTime p accValues gyroValues =
        FloatRound.ofInt 24 (gyroValues.first.timestamp.toInt - s.fusion.mLastTimestamp.toInt) := by
      rw [deltaTime_eq, toInt_sub_of_nonneg hop.2.1 h.nonneg]
    simp only [Current, Remembers, hdelta]
    cases hunread : s.unread with
    | true =>
      rw [if_pos rfl, if_pos rfl]
      unfold FloatRound.error
      omega
    | false =>
      rw [if_neg Bool.false_ne_true, if_neg Bool.false_ne_true, ← FloatRound.ofInt_eq_iff]
      obtain ⟨t, ht⟩ := Option.isSome_iff_exists.1 (h.read hunread)
      have hlast : s.fusion.mLastTimestamp = t := by rw [h.lastTimestamp, ht, Option.getD_some]
      rw [hlast]
      constructor
      · rintro ⟨t', ht', hdiff⟩
        obtain rfl := Option.some.inj (ht.symm.trans ht')
        exact hdiff
      · exact fun hdiff => ⟨t, ht, hdiff⟩

/-- **The fusion integrates over the current activation only, in a run of a new object,** exactly if every first read
finds a timestamp that is not from before the activation and every later one a time that needs no rounding. -/
theorem steps_current_iff {fusion : GravityFusion K} (hnew : fusion.mLastTimestamp = 0) {ops : List (FusionOp K)}
    (hlegal : Steps (Session.step p) Legal (Session.construct fusion) ops) :
    Steps (Session.step p) (Current p) (Session.construct fusion) ops ↔
      Steps (Session.step p) Remembers (Session.construct fusion) ops :=
  Run.steps_congr (inv_step p) (current_iff p) (inv_construct hnew) hlegal

/-- Started at boot and read twice. -/
def startedAtBoot : List (FusionOp ℝ) :=
  [.activate true 0, .batch 5000000 0, .readSensorValues (.one 5000000 0 0 9.8) (.one 5000000 0 0 0),
    .readSensorValues (.one 10000000 0 0 9.8) (.one 10000000 0 0 0)]

theorem steps_current_startedAtBoot :
    Steps (Session.step (.real id 0)) (Current (.real id 0)) (Session.construct smi330Gravity) startedAtBoot := by
  have hlegal : Steps (Session.step (.real id 0)) Legal (Session.construct smi330Gravity) startedAtBoot :=
    ⟨trivial, trivial, ⟨rfl, by decide, fun t ht => by cases ht⟩,
      ⟨rfl, by decide, fun t ht => by cases ht; decide⟩, trivial⟩
  refine (steps_current_iff (.real id 0) rfl hlegal).2 ⟨trivial, trivial, ?_, ?_, trivial⟩
  · show 0 + FloatRound.error 24 5000000 ≤ 0
    rw [FloatRound.error_of_exact (FloatRound.exact_of_lt (by decide) (by decide))]
    exact Int.le_refl 0
  · have hlast := calculateGravity_mLastTimestamp (.real id 0) ((smi330Gravity.activate true).1.batch 5000000 0).1
      (.one 5000000 0 0 9.8) (.one 5000000 0 0 0)
    have helapsed : FloatRound.Exact 24 (10000000 - (5000000 : Int64).toInt) :=
      FloatRound.exact_of_lt (by decide) (by decide)
    rw [← show _ = (5000000 : Int64) from hlast] at helapsed
    exact helapsed

/-- Started ten seconds after boot and read five milliseconds later. -/
def startedLate : List (FusionOp ℝ) :=
  [.activate true 10000000000, .batch 5000000 0,
    .readSensorValues (.one 10005000000 0 0 9.8) (.one 10005000000 0 0 0)]

/-- **The first read integrates over the ten seconds, too.** -/
theorem not_steps_current_startedLate :
    Steps (Session.step (.real id 0)) Legal (Session.construct smi330Gravity) startedLate ∧
      ¬ Steps (Session.step (.real id 0)) (Current (.real id 0)) (Session.construct smi330Gravity) startedLate := by
  refine ⟨⟨trivial, trivial, ⟨rfl, by decide, fun t ht => by cases ht⟩, trivial⟩, fun h => ?_⟩
  obtain ⟨-, -, hread, -⟩ := h
  have hle : GravityFusion.deltaTime (.real id 0) ((smi330Gravity.activate true).1.batch 5000000 0).1
      (.one 10005000000 0 0 9.8) (.one 10005000000 0 0 0) ≤ 5000000 := hread
  rw [deltaTime_eq, show (Int64.toInt _) = 10005000000 from rfl] at hle
  have herror := (FloatRound.error_bounds_of_lt (p := 24) (k := 10) (n := 10005000000) (by decide) (by decide)
    (by decide)).1
  unfold FloatRound.error at herror
  omega

end GravityTime

end MemsHal
