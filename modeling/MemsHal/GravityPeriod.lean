import MemsHal.Run
import MemsHal.SensorHal
/-!
# GravityPeriod — the members of a composite that have no initializer

`mJustStarted` is set by the first `activate` that the `Sensor` forwards, and its thread reads nothing before.
`mSamplingPeriodNs` is set by the first `batch`, and the `Sensor` forwards only a period that the faster of its two
demands does not hide.  So the first read finds both set exactly if a batch was forwarded before it
(`steps_readsAssigned_iff`); activation alone, or a channel slower than the default period, does not forward one.
-/
namespace MemsHal

namespace Sensor

/-- The operation finds a period to forward: a batched one that beats the channels, or a fastest channel that is new and
beats the batched one. -/
def Forwards (s : Sensor) : SensorOp → Prop
  | .batch samplingPeriodNs _ => s.mSensorInfo.clamp samplingPeriodNs.toInt < s.mDirectChannelRateNs
  | .activate _ => False
  | op =>
    s.mDirectChannelRateNs ≠ fastestChannel (channelsAfter s.mDirectChannels op) ∧
      fastestChannel (channelsAfter s.mDirectChannels op) < s.mSamplingPeriodNs

theorem forwards_iff (s : Sensor) (op : SensorOp) : (lastBatch (s.exec op).2).isSome = true ↔ s.Forwards op := by
  by_cases hop : op.OnChannel
  · have hforwards : s.Forwards op ↔ s.mDirectChannelRateNs ≠ fastestChannel (channelsAfter s.mDirectChannels op) ∧
        fastestChannel (channelsAfter s.mDirectChannels op) < s.mSamplingPeriodNs := by
      cases op <;> first | exact Iff.rfl | exact absurd hop id
    rw [exec_channel s op hop, lastBatch_updateDirectChannel, hforwards]
    dsimp only
    split
    · rename_i h
      exact iff_of_true rfl h
    · rename_i h
      exact iff_of_false Bool.false_ne_true h
  · cases op with
    | batch samplingPeriodNs maxReportLatencyNs =>
      show (lastBatch (s.batch samplingPeriodNs maxReportLatencyNs).2).isSome = true ↔ _ < _
      unfold batch
      dsimp only
      split
      · rename_i h
        exact iff_of_true rfl h
      · rename_i h
        exact iff_of_false Bool.false_ne_true h
    | activate enable =>
      refine iff_of_false ?_ id
      show ¬ (lastBatch (s.activate enable).2).isSome = true
      unfold activate
      split
      · cases enable <;> exact Bool.false_ne_true
      · exact Bool.false_ne_true
    | _ => exact absurd trivial hop

/-- **A sensor comes into use by an activation** that it forwards. -/
theorem inUse_exec (s : Sensor) (op : SensorOp) (h : (s.exec op).1.InUse) :
    s.InUse ∨ (lastActivate (s.exec op).2).isSome = true := by
  by_cases hop : op.OnChannel
  · rw [exec_channel s op hop] at h ⊢
    unfold InUse at h ⊢
    rw [updateDirectChannel_isEnabled, updateDirectChannel_enabled] at h
    rw [lastActivate_updateDirectChannel]
    dsimp only at h ⊢
    split
    · exact Or.inr rfl
    · rename_i hsame
      by_cases hen : s.mIsEnabled = true
      · exact Or.inl (Or.inl hen)
      · have hstill := Decidable.not_not.1 fun hne => hsame ⟨hne, Bool.not_eq_true _ |>.mp hen⟩
        rw [hstill]
        exact Or.inl h
  · cases op with
    | batch samplingPeriodNs maxReportLatencyNs => exact Or.inl h
    | activate enable =>
      show s.InUse ∨ (lastActivate (s.activate enable).2).isSome = true
      unfold activate
      split
      · exact Or.inr (by cases enable <;> rfl)
      · rename_i hsame
        change (s.activate enable).1.InUse at h
        unfold activate at h
        rw [if_neg hsame] at h
        exact Or.inl h
    | _ => exact absurd trivial hop

end Sensor

namespace GravityFusion

variable {K : Type*}

/-- What a read of a composite takes from the two members has been assigned. -/
def Assigned (f : GravityFusion K) : Prop :=
  f.mJustStarted.isSome = true ∧ (f.mJustStarted = some true → f.mSamplingPeriodNs.isSome = true)

/-- **A read of assigned members** does not depend on what the memory held before. -/
theorem calculateGravity_of_assigned [Field K] [LinearOrder K] (p : Platform K) {f : GravityFusion K} (h : f.Assigned)
    (mSamplingPeriodNs : Int) (accValues gyroValues : Samples K) :
    f.calculateGravity { p with mSamplingPeriodNs := mSamplingPeriodNs } accValues gyroValues =
      f.calculateGravity p accValues gyroValues := by
  have hstart : f.start { p with mSamplingPeriodNs := mSamplingPeriodNs } accValues.axis =
      f.start p accValues.axis := by
    unfold start
    split
    · rename_i hjust
      obtain ⟨period, hperiod⟩ := Option.isSome_iff_exists.1 (h.2 hjust)
      unfold initRodrParams initFusion
      rw [hperiod, Option.getD_some, Option.getD_some]
    · rfl
  have hcorrect : ∀ (g : GravityFusion K) (accel : Fin 3 → K),
      g.correct { p with mSamplingPeriodNs := mSamplingPeriodNs } accel = g.correct p accel := fun _ _ => rfl
  have hpropagate : ∀ g : GravityFusion K,
      g.propagate { p with mSamplingPeriodNs := mSamplingPeriodNs } gyroValues = g.propagate p gyroValues := fun _ => rfl
  unfold calculateGravity
  simp only [hstart, hcorrect, hpropagate]

theorem foldl_call_mJustStarted : ∀ (calls : List SensorCall) (f : GravityFusion K),
    (calls.foldl call f).mJustStarted =
      if (Sensor.lastActivate calls).isSome = true then some true else f.mJustStarted
  | [], _ => rfl
  | c :: calls, f => by
    rw [List.foldl_cons, foldl_call_mJustStarted calls, Sensor.lastActivate, Sensor.lastActivate, Run.lastOf_cons,
      Option.isSome_or]
    cases c <;> cases (Run.lastOf Sensor.activate? calls).isSome <;> rfl

theorem foldl_call_mSamplingPeriodNs : ∀ (calls : List SensorCall) (f : GravityFusion K),
    (calls.foldl call f).mSamplingPeriodNs.isSome =
      ((Sensor.lastBatch calls).isSome || f.mSamplingPeriodNs.isSome)
  | [], _ => rfl
  | c :: calls, f => by
    rw [List.foldl_cons, foldl_call_mSamplingPeriodNs calls, Sensor.lastBatch, Sensor.lastBatch, Run.lastOf_cons,
      Option.isSome_or]
    cases c <;> cases (Run.lastOf Sensor.batch? calls).isSome <;> rfl

end GravityFusion

namespace GravityPeriod

open Run (Steps)

variable {K : Type*}

/-- A `Sensor` on a composite. -/
structure Wrapped (K : Type*) where
  sensor : Sensor
  fusion : GravityFusion K

/-- A call of the HAL, or a pass of the thread with what the dependencies would give it. -/
inductive Op (K : Type*)
  | call (op : SensorOp)
  | pass (accValues gyroValues : Samples K)

namespace Wrapped

def construct (sensorInfo : SensorInfo) (fusion : GravityFusion K) : Wrapped K where
  sensor := .fresh sensorInfo
  fusion := { fusion with mJustStarted := none, mSamplingPeriodNs := none }

/-- The thread waits while nothing needs the sensor. -/
def step [Field K] [LinearOrder K] (p : Platform K) (w : Wrapped K) : Op K → Wrapped K
  | .call op                    => ⟨(w.sensor.exec op).1, (w.sensor.exec op).2.foldl GravityFusion.call w.fusion⟩
  | .pass accValues gyroValues =>
    if w.sensor.InUse then { w with fusion := (w.fusion.calculateGravity p accValues gyroValues).fusion } else w

end Wrapped

/-- **A pass that reads finds both members assigned.** -/
def ReadsAssigned (w : Wrapped K) : Op K → Prop
  | .call _   => True
  | .pass _ _ => w.sensor.InUse → w.fusion.Assigned

/-- The first operation that forwards a batch comes before the first pass that reads. -/
def BatchedFirst (s : Sensor) : List (Op K) → Prop
  | []               => True
  | .call op :: ops  => s.Forwards op ∨ BatchedFirst (s.exec op).1 ops
  | .pass _ _ :: ops => ¬ s.InUse ∧ BatchedFirst s ops

/-- A sensor in use has been activated. -/
def Started (w : Wrapped K) : Prop := w.sensor.InUse → w.fusion.mJustStarted.isSome = true

variable [Field K] [LinearOrder K] (p : Platform K)

theorem started_step (w : Wrapped K) (op : Op K) (h : Started w) : Started (w.step p op) := by
  cases op with
  | call op =>
    intro huse
    show ((w.sensor.exec op).2.foldl GravityFusion.call w.fusion).mJustStarted.isSome = true
    rw [GravityFusion.foldl_call_mJustStarted]
    split
    · rfl
    · rename_i hnone
      exact h ((Sensor.inUse_exec w.sensor op huse).resolve_right hnone)
  | pass accValues gyroValues =>
    unfold Wrapped.step
    dsimp only
    split
    · intro huse
      have hjust := congrArg CompositeSensorCore.mJustStarted
        (w.fusion.calculateGravity_core p accValues gyroValues)
      dsimp only at hjust ⊢
      rw [hjust]
      split
      · rfl
      · exact h huse
    · exact h

theorem period_step (w : Wrapped K) (op : Op K) (h : w.fusion.mSamplingPeriodNs.isSome = true) :
    (w.step p op).fusion.mSamplingPeriodNs.isSome = true := by
  cases op with
  | call op =>
    show ((w.sensor.exec op).2.foldl GravityFusion.call w.fusion).mSamplingPeriodNs.isSome = true
    rw [GravityFusion.foldl_call_mSamplingPeriodNs, h, Bool.or_true]
  | pass accValues gyroValues =>
    unfold Wrapped.step
    dsimp only
    split
    · have hperiod := congrArg CompositeSensorCore.mSamplingPeriodNs
        (w.fusion.calculateGravity_core p accValues gyroValues)
      dsimp only at hperiod ⊢
      rw [hperiod]
      exact h
    · exact h

/-- With a period, every later pass finds both members assigned. -/
theorem steps_readsAssigned_of_period {w : Wrapped K} (hstarted : Started w)
    (hperiod : w.fusion.mSamplingPeriodNs.isSome = true) (ops : List (Op K)) :
    Steps (Wrapped.step p) ReadsAssigned w ops := by
  refine Run.steps_of_step (I := fun w => Started w ∧ w.fusion.mSamplingPeriodNs.isSome = true)
    (L := fun _ _ => True) (fun w op h _ => ⟨started_step p w op h.1, period_step p w op h.2⟩) (fun w op h _ => ?_)
    ⟨hstarted, hperiod⟩ (Run.steps_true ops w)
  cases op with
  | call op => trivial
  | pass accValues gyroValues => exact fun huse => ⟨h.1 huse, fun _ => h.2⟩

/-- Before the first batch is forwarded, no pass may read. -/
theorem steps_readsAssigned_of_fresh : ∀ (ops : List (Op K)) {w : Wrapped K}, Started w →
    w.fusion.mSamplingPeriodNs.isSome = false → w.fusion.mJustStarted ≠ some false →
    (Steps (Wrapped.step p) ReadsAssigned w ops ↔ BatchedFirst w.sensor ops)
  | [], _, _, _, _ => Iff.rfl
  | .call op :: ops, w, hstarted, hperiod, hjust => by
    have hstarted' := started_step p w (.call op) hstarted
    have hperiod' : (w.step p (.call op)).fusion.mSamplingPeriodNs.isSome = true ↔ w.sensor.Forwards op := by
      rw [← Sensor.forwards_iff]
      show ((w.sensor.exec op).2.foldl GravityFusion.call w.fusion).mSamplingPeriodNs.isSome = true ↔ _
      rw [GravityFusion.foldl_call_mSamplingPeriodNs, hperiod, Bool.or_false]
    have hfirst : ReadsAssigned w (.call op) := trivial
    refine (and_iff_right hfirst).trans ?_
    by_cases hforwards : w.sensor.Forwards op
    · exact iff_of_true (steps_readsAssigned_of_period p hstarted' (hperiod'.2 hforwards) ops) (Or.inl hforwards)
    · have hjust' : (w.step p (.call op)).fusion.mJustStarted ≠ some false := by
        show ((w.sensor.exec op).2.foldl GravityFusion.call w.fusion).mJustStarted ≠ some false
        rw [GravityFusion.foldl_call_mJustStarted]
        split
        · decide
        · exact hjust
      have hnone : (w.step p (.call op)).fusion.mSamplingPeriodNs.isSome = false :=
        Bool.eq_false_iff.2 fun h => hforwards (hperiod'.1 h)
      exact (steps_readsAssigned_of_fresh ops hstarted' hnone hjust').trans (or_iff_right hforwards).symm
  | .pass accValues gyroValues :: ops, w, hstarted, hperiod, hjust => by
    by_cases huse : w.sensor.InUse
    · refine iff_of_false (fun h => ?_) fun h => h.1 huse
      -- the members are as after the activation
      obtain ⟨just, hsome⟩ := Option.isSome_iff_exists.1 (hstarted huse)
      have htrue : w.fusion.mJustStarted = some true := by
        cases just with
        | true => exact hsome
        | false => exact absurd hsome hjust
      have hassigned := (h.1 huse).2 htrue
      rw [hperiod] at hassigned
      cases hassigned
    · have hstay : w.step p (.pass accValues gyroValues) = w := if_neg huse
      have hfirst : ReadsAssigned w (.pass accValues gyroValues) := fun h => absurd h huse
      refine (and_iff_right hfirst).trans ?_
      rw [hstay, steps_readsAssigned_of_fresh ops hstarted hperiod hjust]
      exact (and_iff_right huse).symm

/-- **Every read of a composite finds its members assigned** exactly if the first batch is forwarded before the first
pass that reads. -/
theorem steps_readsAssigned_iff (sensorInfo : SensorInfo) (fusion : GravityFusion K) (ops : List (Op K)) :
    Steps (Wrapped.step p) ReadsAssigned (.construct sensorInfo fusion) ops ↔
      BatchedFirst (Sensor.fresh sensorInfo) ops :=
  steps_readsAssigned_of_fresh p ops (fun huse => huse.elim (fun h => by cases h) fun h => by cases h) rfl
    fun h => by cases h

/-- Activated and read, before it is batched. -/
def activatedFirst : List (Op ℝ) :=
  [.call (.activate true), .pass (.one 5000000 0 0 9.8) (.one 5000000 0 0 0), .call (.batch 5000000 0)]

theorem not_steps_readsAssigned_activatedFirst :
    ¬ Steps (Wrapped.step (.real id 0)) ReadsAssigned (.construct ⟨5000, 20000⟩ smi330Gravity) activatedFirst := by
  rintro ⟨-, hread, -⟩
  have hassigned := (hread (Or.inl rfl)).2 rfl
  cases hassigned

end GravityPeriod

end MemsHal
