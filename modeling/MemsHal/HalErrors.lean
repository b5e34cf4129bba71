import MemsHal.SensorsHalAidl
/-!
# HalErrors — a call that is answered with an error changes nothing

Every error exit of the eight calls comes before the first write, except one: `batch` stores the report latency before
it looks the sensor up (`unchanged_iff`).
-/
namespace MemsHal
namespace Aidl

/-- The calls of the framework other than `initialize`. -/
def HalOp.IsCall : HalOp → Prop
  | .activate .. | .batch .. | .configDirectReport .. | .flush .. | .injectSensorData .. | .registerDirectChannel ..
  | .setOperationMode .. | .unregisterDirectChannel .. => True
  | _ => False

namespace HalErrors

/-- An answer that is an error leaves the state as it was and made no call. -/
def Unchanged (s : SensorsHalAidl) (answer : SensorsHalAidl × ScopedAStatus × List HalCall) : Prop :=
  answer.2.1 ≠ .ok → answer.1 = s ∧ answer.2.2 = []

/-- **A call that fails changes nothing**: the state is the same as before, nothing was posted and nothing reached an
underlying sensor. -/
def FailsUnchanged (s : SensorsHalAidl) (op : HalOp) : Prop :=
  op.IsCall → ∀ status, (s.exec op).2.1 = some status → status ≠ .ok → s.step op = s ∧ (s.exec op).2.2 = []

/-- The step is not a `batch` that records a new latency, greater than 0, for a handle that no sensor has. -/
def KeepsLatency (s : SensorsHalAidl) : HalOp → Prop
  | .batch sensorHandle _ maxReportLatencyNs =>
    ¬ (s.mSensors[sensorHandle]? = none ∧ 0 < maxReportLatencyNs ∧
      s.mReportLatencyNs[sensorHandle]? ≠ some maxReportLatencyNs)
  | _ => True

theorem failsUnchanged_iff {s : SensorsHalAidl} {op : HalOp} (answer : SensorsHalAidl × ScopedAStatus × List HalCall)
    (hexec : s.exec op = (answer.1, some answer.2.1, answer.2.2)) (hcall : op.IsCall) :
    FailsUnchanged s op ↔ Unchanged s answer := by
  unfold FailsUnchanged Unchanged SensorsHalAidl.step
  rw [hexec]
  constructor
  · exact fun h => h hcall answer.2.1 rfl
  · intro h _ status heq hstatus
    exact h (Option.some.inj heq ▸ hstatus)

theorem insert_eq_self_iff (m : StdMap Int32 Int64) (k : Int32) (v : Int64) : m.insert k v = m ↔ m[k]? = some v := by
  constructor
  · intro h
    rw [← h, StdMap.getElem?_insert_eq, if_pos rfl]
  · intro h
    refine Std.ExtTreeMap.ext_getElem? (fun a => ?_)
    rw [StdMap.getElem?_insert_eq]
    split
    · rename_i hka
      rw [← hka, h]
    · rfl

section calls

variable (s : SensorsHalAidl)

theorem unchanged_activate (sensorHandle : Int32) (enabled : Bool) (r : ReportInput) :
    Unchanged s (s.activate sensorHandle enabled r) := by
  unfold Unchanged SensorsHalAidl.activate
  split
  · dsimp only
    split <;> exact fun h => absurd rfl h
  · exact fun _ => ⟨rfl, rfl⟩

theorem unchanged_configDirectReport (sensorHandle channelHandle : Int32) (rate : RateLevel) :
    Unchanged s (s.configDirectReport sensorHandle channelHandle rate) := by
  unfold Unchanged SensorsHalAidl.configDirectReport
  split
  · exact fun _ => ⟨rfl, rfl⟩
  · split
    · exact fun h => absurd rfl h
    · split
      · exact fun _ => ⟨rfl, rfl⟩
      · split
        · exact fun _ => ⟨rfl, rfl⟩
        · dsimp only
          split
          · exact fun _ => ⟨rfl, rfl⟩
          · exact fun h => absurd rfl h

theorem unchanged_flush (sensorHandle : Int32) (u : Uptime) (r : ReportInput) :
    Unchanged s (s.flush sensorHandle u r) := by
  unfold Unchanged SensorsHalAidl.flush
  split
  · split
    · exact fun h => absurd rfl h
    · exact fun _ => ⟨rfl, rfl⟩
  · exact fun _ => ⟨rfl, rfl⟩

theorem unchanged_injectSensorData (event : Event) : Unchanged s (s.injectSensorData event) := by
  unfold Unchanged SensorsHalAidl.injectSensorData
  split <;> exact fun _ => ⟨rfl, rfl⟩

theorem unchanged_registerDirectChannel (mem : SharedMemInfo) (ashmem : Ashmem) :
    Unchanged s (s.registerDirectChannel mem ashmem) := by
  unfold Unchanged SensorsHalAidl.registerDirectChannel
  split
  · exact fun _ => ⟨rfl, rfl⟩
  · split
    · exact fun h => absurd rfl h
    · exact fun _ => ⟨rfl, rfl⟩

/-- **A `batch` that fails leaves the latency it was given.** -/
theorem unchanged_batch_iff (sensorHandle : Int32) (samplingPeriodNs maxReportLatencyNs : Int64) :
    Unchanged s (s.batch sensorHandle samplingPeriodNs maxReportLatencyNs) ↔
      ¬ (s.mSensors[sensorHandle]? = none ∧ 0 < maxReportLatencyNs ∧
        s.mReportLatencyNs[sensorHandle]? ≠ some maxReportLatencyNs) := by
  unfold Unchanged SensorsHalAidl.batch
  dsimp only
  cases hsensor : s.mSensors[sensorHandle]? with
  | some sensor => exact iff_of_true (fun h => absurd rfl h) (fun h => by cases h.1)
  | none =>
    dsimp only
    have hfails : (.fromExceptionCode .illegalArgument : ScopedAStatus) ≠ .ok := by decide
    have hsame : ∀ m, { s with mReportLatencyNs := m } = s ↔ m = s.mReportLatencyNs :=
      fun m => ⟨fun h => congrArg SensorsHalAidl.mReportLatencyNs h, fun h => by rw [h]⟩
    rw [hsame]
    by_cases hpos : 0 < maxReportLatencyNs
    · rw [if_pos hpos, insert_eq_self_iff]
      constructor
      · exact fun h hnew => hnew.2.2 (h hfails).1
      · exact fun h _ => ⟨Decidable.not_not.1 (fun hne => h ⟨rfl, hpos, hne⟩), rfl⟩
    · rw [if_neg hpos]
      exact iff_of_true (fun _ => ⟨rfl, rfl⟩) (fun h => hpos h.2.1)

end calls

/-- **A failed call changes nothing, exactly unless it is a `batch` with a new latency for an unknown handle**, in every
state. -/
theorem unchanged_iff (s : SensorsHalAidl) (op : HalOp) : FailsUnchanged s op ↔ KeepsLatency s op := by
  have hkept : ∀ answer : SensorsHalAidl × ScopedAStatus × List HalCall,
      s.exec op = (answer.1, some answer.2.1, answer.2.2) → op.IsCall → Unchanged s answer → KeepsLatency s op →
      (FailsUnchanged s op ↔ KeepsLatency s op) :=
    fun answer hexec hcall hunchanged hkeeps =>
      iff_of_true ((failsUnchanged_iff answer hexec hcall).2 hunchanged) hkeeps
  cases op with
  | activate sensorHandle enabled r =>
    exact hkept (s.activate sensorHandle enabled r) rfl trivial (unchanged_activate s sensorHandle enabled r) trivial
  | batch sensorHandle p l =>
    refine (failsUnchanged_iff (s.batch sensorHandle p l) rfl ?_).trans (unchanged_batch_iff s sensorHandle p l)
    trivial
  | configDirectReport sensorHandle channelHandle rate =>
    exact hkept (s.configDirectReport sensorHandle channelHandle rate) rfl trivial
      (unchanged_configDirectReport s sensorHandle channelHandle rate) trivial
  | flush sensorHandle u r =>
    exact hkept (s.flush sensorHandle u r) rfl trivial (unchanged_flush s sensorHandle u r) trivial
  | injectSensorData event =>
    exact hkept (s.injectSensorData event) rfl trivial (unchanged_injectSensorData s event) trivial
  | registerDirectChannel mem ashmem =>
    exact hkept (s.registerDirectChannel mem ashmem) rfl trivial (unchanged_registerDirectChannel s mem ashmem) trivial
  | setOperationMode mode =>
    exact hkept (s.setOperationMode mode) rfl trivial (fun _ => ⟨rfl, rfl⟩) trivial
  | unregisterDirectChannel channelHandle =>
    exact hkept (s.unregisterDirectChannel channelHandle) rfl trivial (fun h => absurd rfl h) trivial
  | _ => exact iff_of_true (fun h => absurd h id) trivial

/-- A HAL without sensors: `batch` for the handle 7 is refused, and its latency is stored. -/
theorem not_failsUnchanged_batchUnknownHandle :
    ¬ FailsUnchanged (SensorsHalAidl.construct 200 []) (.batch 7 1000000 5000000) := by
  intro h
  have hlatency := congrArg (fun s => s.mReportLatencyNs[(7 : Int32)]?) (h trivial _ rfl (by decide)).1
  exact absurd hlatency (by decide)

end HalErrors
end Aidl
end MemsHal
