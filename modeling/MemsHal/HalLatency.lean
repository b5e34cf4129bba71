import Mathlib.Order.Bounds.Defs
import MemsHal.HalTables
/-!
# HalLatency — the report latency that `batch` forwards

`batch` records the latency it is asked for and then goes through the enabled sensors for a shorter one.  In every round
it looks the latency of its own sensor up and not that of the sensor of the round, so it finds what it has just recorded
and forwards what it was asked for (`usedLatency_eq`).
-/
namespace MemsHal
namespace Aidl

/-- The latency that `batch` passes to `Sensor::batch`. -/
def SensorsHalAidl.usedLatency (s : SensorsHalAidl) (sensorHandle : Int32) (maxReportLatencyNs : Int64) : Int64 :=
  let mReportLatencyNs :=
    if 0 < maxReportLatencyNs then s.mReportLatencyNs.insert sensorHandle maxReportLatencyNs else s.mReportLatencyNs
  if 0 < maxReportLatencyNs then
    s.mSensors.toList.foldl (fun usedLatency sensor =>
      if sensor.2.history.sensor.mIsEnabled then
        match mReportLatencyNs[sensorHandle]? with
        | some latency => min usedLatency latency
        | none         => usedLatency
      else usedLatency) maxReportLatencyNs
  else maxReportLatencyNs

namespace HalLatency

open Run (Steps)

/-- **`batch` runs `Sensor::batch` with that latency** on the sensor. -/
theorem batch_eq {s : SensorsHalAidl} {sensorHandle : Int32} {sensor : HalSensor}
    (h : s.mSensors[sensorHandle]? = some sensor) (samplingPeriodNs maxReportLatencyNs : Int64) :
    s.batch sensorHandle samplingPeriodNs maxReportLatencyNs =
      ({ s with
          mReportLatencyNs :=
            latenciesAfter s.mReportLatencyNs (.batch sensorHandle samplingPeriodNs maxReportLatencyNs)
          mSensors := s.mSensors.insert sensorHandle
            (sensor.exec (.batch samplingPeriodNs (s.usedLatency sensorHandle maxReportLatencyNs))) },
        .ok, ((sensor.history.sensor.batch samplingPeriodNs
          (s.usedLatency sensorHandle maxReportLatencyNs)).2.map (.sensor sensorHandle))) := by
  have hexec : ∀ op, Sensors.execAt s.mSensors sensorHandle op =
      (s.mSensors.insert sensorHandle (sensor.exec op),
        (sensor.history.sensor.exec op).2.map (.sensor sensorHandle)) := by
    intro op
    unfold Sensors.execAt
    rw [h]
  unfold SensorsHalAidl.batch
  dsimp only
  rw [h]
  dsimp only
  rw [hexec]
  rfl

/-- **Whatever the other sensors have recorded**, the latency is the one asked for. -/
theorem usedLatency_eq (s : SensorsHalAidl) (sensorHandle : Int32) (maxReportLatencyNs : Int64) :
    s.usedLatency sensorHandle maxReportLatencyNs = maxReportLatencyNs := by
  have hloop : ∀ sensors : List (Int32 × HalSensor), sensors.foldl (fun usedLatency sensor =>
      if sensor.2.history.sensor.mIsEnabled then min usedLatency maxReportLatencyNs else usedLatency)
      maxReportLatencyNs = maxReportLatencyNs := by
    intro sensors
    induction sensors with
    | nil => rfl
    | cons sensor sensors ih =>
      have hmin : min maxReportLatencyNs maxReportLatencyNs = maxReportLatencyNs := ite_self _
      rw [List.foldl_cons, hmin, ite_self, ih]
  unfold SensorsHalAidl.usedLatency
  split
  · simp only [StdMap.getElem?_insert_eq, if_true]
    exact hloop _
  · rfl

/-! ## What has been recorded -/

/-- The HAL and the steps it has made. -/
structure Past where
  hal : SensorsHalAidl
  ops : List HalOp

def Past.step (w : Past) (op : HalOp) : Past := ⟨w.hal.step op, w.ops ++ [op]⟩

def Past.start (timeoutSeconds : UInt32) (descriptions : List SensorDescription) : Past :=
  ⟨.construct timeoutSeconds descriptions, []⟩

/-- The latency that a step records for the sensor `k`. -/
def recorded? (k : Int32) : HalOp → Option Int64
  | .batch sensorHandle _ maxReportLatencyNs =>
    if sensorHandle = k ∧ 0 < maxReportLatencyNs then some maxReportLatencyNs else none
  | _ => none

/-- The latency most recently recorded for the sensor `k`. -/
def latest (k : Int32) (ops : List HalOp) : Option Int64 := Run.lastOf (recorded? k) ops

theorem latest_concat (k : Int32) (ops : List HalOp) (op : HalOp) :
    latest k (ops ++ [op]) = (recorded? k op).or (latest k ops) := by
  unfold latest
  rw [Run.lastOf_append, Run.lastOf_cons]
  rfl

/-- **The table of the HAL holds what was recorded last.** -/
def Recorded (w : Past) : Prop := ∀ k : Int32, w.hal.mReportLatencyNs[k]? = latest k w.ops

theorem latenciesAfter_getElem? (m : StdMap Int32 Int64) (op : HalOp) (k : Int32) :
    (latenciesAfter m op)[k]? = (recorded? k op).or m[k]? := by
  cases op with
  | batch sensorHandle p l =>
    unfold latenciesAfter recorded?
    dsimp only
    by_cases hl : 0 < l
    · rw [if_pos hl, StdMap.getElem?_insert_eq]
      simp only [hl, and_true]
      split <;> rfl
    · rw [if_neg hl, if_neg (fun h => hl h.2), Option.none_or]
  | _ => rfl

theorem recorded_step (w : Past) (op : HalOp) (h : Recorded w) : Recorded (w.step op) := by
  intro k
  show (w.hal.step op).mReportLatencyNs[k]? = latest k (w.ops ++ [op])
  rw [latencies_step, latenciesAfter_getElem?, latest_concat, h k]

theorem recorded_start (timeoutSeconds : UInt32) (descriptions : List SensorDescription) :
    Recorded (Past.start timeoutSeconds descriptions) :=
  fun _ => Std.ExtTreeMap.getElem?_empty

/-! ## Other sensors -/

/-- The latencies most recently recorded for the sensors that are enabled. -/
def activeLatencies (s : SensorsHalAidl) (ops : List HalOp) : Set Int64 :=
  {latency | ∃ (k : Int32) (sensor : HalSensor), s.mSensors[k]? = some sensor ∧
    sensor.history.sensor.mIsEnabled = true ∧ latest k ops = some latency}

/-- A `batch` on a sensor forwards the least of its latency and the latencies of the enabled sensors; one that asks for
no latency is forwarded as it is. -/
def TakesOthers (w : Past) : HalOp → Prop
  | .batch sensorHandle samplingPeriodNs maxReportLatencyNs =>
    sensorHandle ∈ w.hal.mSensors →
      (0 < maxReportLatencyNs → IsLeast (insert maxReportLatencyNs (activeLatencies w.hal
        (w.ops ++ [.batch sensorHandle samplingPeriodNs maxReportLatencyNs])))
        (w.hal.usedLatency sensorHandle maxReportLatencyNs)) ∧
      (maxReportLatencyNs ≤ 0 → w.hal.usedLatency sensorHandle maxReportLatencyNs = maxReportLatencyNs)
  | _ => True

/-- No other enabled sensor has a shorter latency on record than a `batch` on a sensor asks for. -/
def NoneShorter (s : SensorsHalAidl) : HalOp → Prop
  | .batch sensorHandle _ maxReportLatencyNs =>
    sensorHandle ∈ s.mSensors → 0 < maxReportLatencyNs →
      ∀ (k : Int32) (sensor : HalSensor) (latency : Int64), k ≠ sensorHandle → s.mSensors[k]? = some sensor →
        sensor.history.sensor.mIsEnabled = true → s.mReportLatencyNs[k]? = some latency → maxReportLatencyNs ≤ latency
  | _ => True

theorem takesOthers_iff (w : Past) (op : HalOp) (h : Recorded w) : TakesOthers w op ↔ NoneShorter w.hal op := by
  cases op with
  | batch sensorHandle p l =>
    unfold TakesOthers NoneShorter
    dsimp only
    rw [usedLatency_eq]
    refine imp_congr_right fun _ => (and_iff_left fun _ => rfl).trans (imp_congr_right fun hl => ?_)
    constructor
    · rintro hleast k sensor latency hk hsensor hen hlatency
      refine hleast.2 (Or.inr ⟨k, sensor, hsensor, hen, ?_⟩)
      have hother : recorded? k (.batch sensorHandle p l) = none := if_neg fun h => hk h.1.symm
      rw [latest_concat, hother, Option.none_or, ← h k, hlatency]
    · refine fun hnone => ⟨Or.inl rfl, ?_⟩
      rintro latency (rfl | ⟨k, sensor, hsensor, hen, hlatest⟩)
      · exact Int64.le_refl _
      · rw [latest_concat] at hlatest
        by_cases hk : k = sensorHandle
        · -- the sensor itself has just recorded `l`
          have hself : recorded? k (.batch sensorHandle p l) = some l := if_pos ⟨hk.symm, hl⟩
          rw [hself] at hlatest
          exact Option.some.inj hlatest ▸ Int64.le_refl _
        · have hother : recorded? k (.batch sensorHandle p l) = none := if_neg fun h => hk h.1.symm
          rw [hother, Option.none_or, ← h k] at hlatest
          exact hnone k sensor latency hk hsensor hen hlatest
  | _ => exact Iff.rfl

/-- **The latencies that a HAL forwards take the other sensors into account exactly as long as** none of them has a
shorter one. -/
theorem steps_takesOthers_iff (timeoutSeconds : UInt32) (descriptions : List SensorDescription) (ops : List HalOp) :
    Steps Past.step TakesOthers (.start timeoutSeconds descriptions) ops ↔
      Steps Past.step (fun w => NoneShorter w.hal) (.start timeoutSeconds descriptions) ops :=
  Run.steps_iff_steps (I := Recorded) (fun w op h _ => recorded_step w op h) (fun w op h => takesOthers_iff w op h)
    ops (recorded_start timeoutSeconds descriptions)

def twoSensors : List SensorDescription :=
  [{ sensorHandle := 1, type := .accelerometer, flags := 0, delays := ⟨5000, 20000⟩ },
    { sensorHandle := 2, type := .gyroscope, flags := 0, delays := ⟨5000, 20000⟩ }]

/-- The first sensor is enabled with a latency of 5 ms; then the second one asks for 10 ms. -/
def secondAsksForMore : List HalOp :=
  [.activate 1 true ⟨none, fun _ => 0, ⟨0, 0, true, true⟩⟩, .batch 1 10000000 5000000, .batch 2 10000000 10000000]

/-- The 10 ms are forwarded. -/
theorem not_steps_takesOthers_secondAsksForMore :
    ¬ Steps Past.step TakesOthers (.start 1 twoSensors) secondAsksForMore := by
  rintro ⟨-, -, hbatch, -⟩
  have hleast := (hbatch (by decide)).1 (by decide)
  rw [usedLatency_eq] at hleast
  have hle : (10000000 : Int64) ≤ 5000000 := hleast.2 (Or.inr ⟨1, _, rfl, rfl, by decide⟩)
  exact absurd hle (by decide)

end HalLatency
end Aidl
end MemsHal
