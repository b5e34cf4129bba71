import MemsHal.Sensor
/-!
# SensorRate — the sampling period of one sensor

`batch` forwards a period that beats the channels', `updateDirectChannel` a channel period that is new and beats the
batched one.  A period withheld there is not forwarded later, when the demand that beat it ends or when the sensor
starts, so the period last forwarded is the fastest demand exactly as long as every step is a `KeepsRate` step, which is
told from the demands alone (`along_fastestForwarded_iff`).
-/
namespace MemsHal
namespace SensorRate

open Run (Along Steps)
open Sensor

/-- What the subscription and the enabled channels ask for. -/
def activeDemands (s : Sensor) : Set Int :=
  {q | (s.mIsEnabled = true ∧ q = s.mSamplingPeriodNs) ∨ q ∈ channelDemands s.mDirectChannels}

/-- **The hardware runs at the fastest demand**: while one of the two needs the sensor, the period last forwarded is
the least one asked for. -/
def FastestForwarded (w : History) : Prop :=
  w.sensor.mIsEnabled = true ∨ w.sensor.mDirectChannelEnabled = true →
    ∃ p, lastBatch w.calls = some p ∧ IsLeast (activeDemands w.sensor) p

/-- The fastest demand, from the fields. -/
def fastest (s : Sensor) : Int :=
  if s.mIsEnabled then min s.mSamplingPeriodNs s.mDirectChannelRateNs else s.mDirectChannelRateNs

/-- A sensor with the demand that it is left at when nobody needs it: the fastest one while it was last in use, or the
period batched since. -/
structure Demanded where
  history : History
  lastDemand : Option Int

namespace Demanded

def fresh (sensorInfo : SensorInfo) : Demanded := ⟨History.fresh sensorInfo, none⟩

def step (w : Demanded) (op : SensorOp) : Demanded :=
  let history := w.history.step op
  { history := history
    lastDemand :=
      if history.sensor.InUse then some (fastest history.sensor)
      else match op with
        | .batch _ _ => some history.sensor.mSamplingPeriodNs
        | _          => w.lastDemand }

end Demanded

/-- The operation withholds no request that is, or comes to be, the fastest demand.
* A batch under the subscription beats the channels, or they were faster before too; one with channels only does not
  beat them.
* The subscription starts or ends under channels faster than it, or it starts alone with the period that was demanded
  last.
* A channel operation under the subscription leaves a channel that beats it, or finds none; without the subscription
  the fastest channel it leaves beats the batched period, or has the period that was demanded last. -/
def KeepsRate (w : Demanded) (op : SensorOp) : Prop :=
  let s := w.history.sensor
  let left := channelDemands (channelsAfter s.mDirectChannels op)
  match op with
  | .batch p _ =>
    (s.mIsEnabled = true → s.mSensorInfo.clamp p.toInt < s.mDirectChannelRateNs ∨
      s.mDirectChannelRateNs ≤ s.mSamplingPeriodNs) ∧
    (s.mIsEnabled = false → s.mDirectChannelEnabled = true →
      s.mDirectChannelRateNs ≤ s.mSensorInfo.clamp p.toInt)
  | .activate enable =>
    s.mIsEnabled ≠ enable →
      (s.mDirectChannelEnabled = true → s.mDirectChannelRateNs ≤ s.mSamplingPeriodNs) ∧
      (s.mDirectChannelEnabled = false → enable = true → w.lastDemand = some s.mSamplingPeriodNs)
  | _ =>
    (s.mIsEnabled = true → (∃ q ∈ left, q < s.mSamplingPeriodNs) ∨ s.mSamplingPeriodNs ≤ s.mDirectChannelRateNs) ∧
    (s.mIsEnabled = false → ∀ r, IsLeast left r → r < s.mSamplingPeriodNs ∨ w.lastDemand = some r)

/-! ## The fastest demand -/

/-- With a channel enabled the default rate does not count. -/
theorem isLeast_channelDemands {m : StdMap Int32 DirectChannel} (hle : ∀ q ∈ channelDemands m, q ≤ int64Max)
    (hne : (channelDemands m).Nonempty) (r : Int) :
    IsLeast (insert int64Max (channelDemands m)) r ↔ IsLeast (channelDemands m) r := by
  obtain ⟨q, hq⟩ := hne
  exact Least.isLeast_insert_of_le hq (hle q hq)

theorem rate_of_not_enabled {s : Sensor} (h : Inv s) (hd : s.mDirectChannelEnabled = false) :
    s.mDirectChannelRateNs = int64Max := by
  rcases h.rate.1 with hr | hr
  · exact hr
  · rw [h.enabled.2 ⟨_, hr⟩] at hd
    cases hd

theorem isLeast_activeDemands {s : Sensor} (h : Inv s)
    (hact : s.mIsEnabled = true ∨ s.mDirectChannelEnabled = true) : IsLeast (activeDemands s) (fastest s) := by
  unfold fastest
  cases hen : s.mIsEnabled with
  | true =>
    have hset : activeDemands s = insert s.mSamplingPeriodNs (channelDemands s.mDirectChannels) := by
      ext q
      simp [activeDemands, hen]
    have hl : IsLeast (insert s.mSamplingPeriodNs (insert int64Max (channelDemands s.mDirectChannels)))
        (min s.mSamplingPeriodNs s.mDirectChannelRateNs) := h.rate.insert _
    rw [Set.insert_comm] at hl
    rw [if_pos rfl, hset]
    exact (Least.isLeast_insert_of_le (Set.mem_insert _ _) h.period).1 hl
  | false =>
    have hset : activeDemands s = channelDemands s.mDirectChannels := by
      ext q
      simp [activeDemands, hen]
    rw [hen] at hact
    rw [if_neg Bool.false_ne_true, hset]
    exact (isLeast_channelDemands h.channels (h.enabled.1 (hact.resolve_left Bool.false_ne_true)) _).1 h.rate

theorem fastestForwarded_iff {w : History} (h : Inv w.sensor) :
    FastestForwarded w ↔ (w.sensor.mIsEnabled = true ∨ w.sensor.mDirectChannelEnabled = true →
      lastBatch w.calls = some (fastest w.sensor)) := by
  refine forall_congr' (fun hact => ?_)
  have hl := isLeast_activeDemands h hact
  constructor
  · rintro ⟨p, hp, hpl⟩
    rw [hp, hpl.unique hl]
  · intro hp
    exact ⟨_, hp, hl⟩

theorem lastBatch_activate (s : Sensor) (e : Bool) : lastBatch (s.exec (.activate e)).2 = none := by
  show lastBatch (s.activate e).2 = none
  unfold Sensor.activate
  split
  · cases e <;> rfl
  · rfl

/-- What the sensor can be batched to is less than the rate without channels. -/
theorem clamp_lt (info : SensorInfo) (p : Int) : info.clamp p < int64Max := by
  have hmin : info.minDelayUs.toInt ≤ 2 ^ 31 - 1 := Int32.toInt_le info.minDelayUs
  have hmax : info.maxDelayUs.toInt ≤ 2 ^ 31 - 1 := Int32.toInt_le info.maxDelayUs
  unfold SensorInfo.clamp SensorInfo.minDelayNs SensorInfo.maxDelayNs int64Max
  split
  · omega
  · split <;> omega

/-! ## One step -/

/-- While `FastestForwarded` has held, the period last forwarded is the last demand. -/
structure Linked (w : Demanded) : Prop where
  inv : Inv w.history.sensor
  lastBatch : lastBatch w.history.calls = w.lastDemand

section Step

variable {w : Demanded} (h : Linked w) (hf : FastestForwarded w.history)
include h hf

theorem fastestForwarded_batch_iff (p l : Int64) :
    FastestForwarded (w.history.step (.batch p l)) ↔ KeepsRate w (.batch p l) := by
  have hcall : lastBatch (w.history.sensor.exec (.batch p l)).2 =
      if w.history.sensor.mSensorInfo.clamp p.toInt < w.history.sensor.mDirectChannelRateNs then
        some (w.history.sensor.mSensorInfo.clamp p.toInt)
      else none := by
    unfold exec Sensor.batch
    dsimp only
    split <;> rfl
  have hfast : fastest (w.history.step (.batch p l)).sensor =
      if w.history.sensor.mIsEnabled then
        min (w.history.sensor.mSensorInfo.clamp p.toInt) w.history.sensor.mDirectChannelRateNs
      else w.history.sensor.mDirectChannelRateNs := rfl
  rw [fastestForwarded_iff (inv_exec w.history.sensor (.batch p l) h.inv), History.lastBatch_step, hcall, hfast]
  rw [fastestForwarded_iff h.inv] at hf
  show (w.history.sensor.mIsEnabled = true ∨ w.history.sensor.mDirectChannelEnabled = true → _) ↔ _
  unfold KeepsRate
  unfold fastest at hf
  dsimp only
  generalize w.history.sensor.mSensorInfo.clamp p.toInt = c
  cases hen : w.history.sensor.mIsEnabled with
  | true =>
    rw [hen] at hf
    have hlast := hf (Or.inl rfl)
    by_cases hc : c < w.history.sensor.mDirectChannelRateNs
    · simp [hc, le_of_lt hc]
    · simp [hc, hlast, not_lt.1 hc]
  | false =>
    rw [hen] at hf
    cases hd : w.history.sensor.mDirectChannelEnabled with
    | true =>
      have hlast := hf (Or.inr hd)
      by_cases hc : c < w.history.sensor.mDirectChannelRateNs
      · simp [hc, ne_of_lt hc]
      · simp [hc, hlast, not_lt.1 hc]
    | false => simp

theorem fastestForwarded_activate_iff (e : Bool) :
    FastestForwarded (w.history.step (.activate e)) ↔ KeepsRate w (.activate e) := by
  have hcall := lastBatch_activate w.history.sensor e
  by_cases hsame : w.history.sensor.mIsEnabled = e
  · have hstep : (w.history.step (.activate e)).sensor = w.history.sensor :=
      congrArg Prod.fst (if_neg (not_not.2 hsame))
    refine iff_of_true ?_ (fun hne => absurd hsame hne)
    unfold FastestForwarded
    rw [History.lastBatch_step, hcall, Option.none_or, hstep]
    exact hf
  · have hstep : (w.history.step (.activate e)).sensor =
        { w.history.sensor with mIsEnabled := e, mNextSampleTimeNs := if e then 0 else int64Max } :=
      congrArg Prod.fst (if_pos hsame)
    have hfast : fastest (w.history.step (.activate e)).sensor =
        if e then min w.history.sensor.mSamplingPeriodNs w.history.sensor.mDirectChannelRateNs
        else w.history.sensor.mDirectChannelRateNs := by
      rw [hstep]; rfl
    have hB := h.inv.period
    rw [fastestForwarded_iff (inv_exec w.history.sensor (.activate e) h.inv), History.lastBatch_step, hcall, hfast,
      Option.none_or, hstep]
    rw [fastestForwarded_iff h.inv] at hf
    unfold KeepsRate
    rw [← h.lastBatch]
    unfold fastest at hf
    dsimp only
    rw [forall_prop_of_true hsame]
    cases hd : w.history.sensor.mDirectChannelEnabled with
    | true =>
      have hlast := hf (Or.inr hd)
      cases e with
      | true =>
        have hen : w.history.sensor.mIsEnabled = false := Bool.eq_false_of_not_eq_true hsame
        simp [hlast, hen]
      | false =>
        have hen : w.history.sensor.mIsEnabled = true := Bool.eq_true_of_not_eq_false hsame
        simp [hlast, hen]
    | false =>
      have hR := rate_of_not_enabled h.inv hd
      cases e with
      | true => simp [hR, hB]
      | false => simp

omit h hf in
theorem keepsRate_channel_iff {op : SensorOp} (hop : op.OnChannel) : KeepsRate w op ↔
    (w.history.sensor.mIsEnabled = true →
      (∃ q ∈ channelDemands (channelsAfter w.history.sensor.mDirectChannels op), q < w.history.sensor.mSamplingPeriodNs) ∨
        w.history.sensor.mSamplingPeriodNs ≤ w.history.sensor.mDirectChannelRateNs) ∧
    (w.history.sensor.mIsEnabled = false →
      ∀ r, IsLeast (channelDemands (channelsAfter w.history.sensor.mDirectChannels op)) r →
        r < w.history.sensor.mSamplingPeriodNs ∨ w.lastDemand = some r) := by
  cases op <;> first | exact absurd hop id | rfl

/-- Without a subscription a channel period that is in force and beats the batched one was forwarded. -/
theorem lastBatch_of_rate (hen : w.history.sensor.mIsEnabled = false)
    (hlt : w.history.sensor.mDirectChannelRateNs < w.history.sensor.mSamplingPeriodNs) :
    lastBatch w.history.calls = some w.history.sensor.mDirectChannelRateNs := by
  rw [fastestForwarded_iff h.inv] at hf
  have hopen : w.history.sensor.mDirectChannelEnabled = true := by
    by_contra hclosed
    have hrate := rate_of_not_enabled h.inv (Bool.eq_false_of_not_eq_true hclosed)
    exact absurd (hrate ▸ hlt) (not_lt.2 h.inv.period)
  rw [hf (Or.inr hopen)]
  unfold fastest
  rw [if_neg (by rw [hen]; exact Bool.false_ne_true)]

theorem fastestForwarded_channel_iff (op : SensorOp) (hop : op.OnChannel) :
    FastestForwarded (w.history.step op) ↔ KeepsRate w op := by
  have hinv := inv_exec w.history.sensor op h.inv
  have hs : (w.history.step op).sensor = (w.history.sensor.exec op).1 := rfl
  have hforwarded := lastBatch_of_rate h hf
  rw [keepsRate_channel_iff hop, fastestForwarded_iff hinv, History.lastBatch_step, hs, ← h.lastBatch]
  rw [fastestForwarded_iff h.inv] at hf
  rw [exec_channel w.history.sensor op hop] at hinv ⊢
  have hmin := fastestChannel_isLeast (channelsAfter w.history.sensor.mDirectChannels op)
  have hle := channelsAfter_le w.history.sensor.mDirectChannels op h.inv.channels
  unfold fastest at hf ⊢
  rw [lastBatch_updateDirectChannel, updateDirectChannel_isEnabled, updateDirectChannel_enabled,
    updateDirectChannel_samplingPeriodNs, updateDirectChannel_rateNs, anyChannelEnabled_iff]
  dsimp only
  generalize channelsAfter w.history.sensor.mDirectChannels op = m at hmin hle ⊢
  -- the new rate beats the batched period exactly when some channel does
  have hbeats : (∃ q ∈ channelDemands m, q < w.history.sensor.mSamplingPeriodNs) ↔
      fastestChannel m < w.history.sensor.mSamplingPeriodNs := by
    rw [← not_le, le_fastestChannel_iff, and_iff_right h.inv.period]
    simp only [not_forall, not_le, exists_prop]
  rw [hbeats]
  generalize hr : fastestChannel m = r at hmin ⊢
  cases hen : w.history.sensor.mIsEnabled with
  | true =>
    rw [hen] at hf
    have hlast := hf (Or.inl rfl)
    rw [if_pos rfl] at hlast
    by_cases hcall : w.history.sensor.mDirectChannelRateNs ≠ r ∧ r < w.history.sensor.mSamplingPeriodNs
    · simp [hcall, le_of_lt hcall.2]
    · simp only [if_neg hcall, Option.none_or, hlast, true_or, if_true, forall_const, Option.some.injEq,
        Bool.true_eq_false, false_implies, and_true]
      omega
  | false =>
    simp only [Bool.false_eq_true, false_or, if_false, false_implies, true_and, forall_const]
    constructor
    · intro hstep r' hr'
      obtain rfl : r = r' := ((isLeast_channelDemands hle hr'.nonempty r).1 hmin).unique hr'
      have hlast := hstep hr'.nonempty
      by_cases hcall : w.history.sensor.mDirectChannelRateNs ≠ r ∧ r < w.history.sensor.mSamplingPeriodNs
      · exact Or.inl hcall.2
      · rw [if_neg hcall, Option.none_or] at hlast
        exact Or.inr hlast
    · intro hk hne
      by_cases hcall : w.history.sensor.mDirectChannelRateNs ≠ r ∧ r < w.history.sensor.mSamplingPeriodNs
      · rw [if_pos hcall]
        rfl
      · rw [if_neg hcall, Option.none_or]
        rcases hk r ((isLeast_channelDemands hle hne r).1 hmin) with hlt | hlast
        · -- the rate has not changed
          obtain rfl : w.history.sensor.mDirectChannelRateNs = r := Decidable.not_not.1 fun hdiff => hcall ⟨hdiff, hlt⟩
          exact hforwarded hen hlt
        · exact hlast

/-- **One step keeps the fastest demand forwarded exactly when it is a `KeepsRate` step.** -/
theorem fastestForwarded_step_iff (op : SensorOp) : FastestForwarded (w.history.step op) ↔ KeepsRate w op := by
  by_cases hop : op.OnChannel
  · exact fastestForwarded_channel_iff h hf op hop
  · cases op with
    | batch p l => exact fastestForwarded_batch_iff h hf p l
    | activate e => exact fastestForwarded_activate_iff h hf e
    | _ => exact absurd trivial hop

end Step

/-- A sensor that nobody needs after an operation forwards a batched period and no other. -/
theorem lastBatch_idle {s : Sensor} (h : Inv s) (op : SensorOp) (hidle : ¬ (s.exec op).1.InUse) :
    lastBatch (s.exec op).2 = match op with
      | .batch _ _ => some (s.exec op).1.mSamplingPeriodNs
      | _          => none := by
  have hclosed : (s.exec op).1.mDirectChannelEnabled = false := Bool.eq_false_of_not_eq_true fun hd => hidle (Or.inr hd)
  by_cases hop : op.OnChannel
  · have hrate := rate_of_not_enabled (inv_exec s op h) hclosed
    rw [exec_channel s op hop] at hrate ⊢
    rw [updateDirectChannel_rateNs] at hrate
    rw [lastBatch_updateDirectChannel, if_neg (fun hcall => absurd hcall.2 (not_lt.2 (by rw [hrate]; exact h.period)))]
    cases op <;> first | exact absurd hop id | rfl
  · cases op with
    | batch p l =>
      have hrate := rate_of_not_enabled h hclosed
      have hlt := clamp_lt s.mSensorInfo p.toInt
      unfold exec Sensor.batch
      dsimp only
      rw [if_pos (by rw [hrate]; exact hlt)]
      rfl
    | activate e => exact lastBatch_activate s e
    | _ => exact absurd trivial hop

theorem linked_step {w : Demanded} (op : SensorOp) (h : Linked w) (hf : FastestForwarded (w.history.step op)) :
    Linked (w.step op) := by
  have hinv := inv_exec w.history.sensor op h.inv
  refine ⟨hinv, ?_⟩
  unfold Demanded.step
  dsimp only
  by_cases huse : (w.history.step op).sensor.InUse
  · rw [if_pos huse]
    exact (fastestForwarded_iff hinv).1 hf huse
  · rw [if_neg huse, History.lastBatch_step, lastBatch_idle h.inv op huse, h.lastBatch]
    cases op <;> rfl

/-- **The sampling period of a sensor along a run.** -/
theorem along_fastestForwarded_iff (sensorInfo : SensorInfo) (ops : List SensorOp) :
    Along History.step FastestForwarded (History.fresh sensorInfo) ops ↔
      Steps Demanded.step KeepsRate (Demanded.fresh sensorInfo) ops := by
  refine Run.along_iff_steps_ghost (t := Demanded.fresh sensorInfo) (fun _ _ => rfl)
    (fun w op h _ hf => linked_step op h hf) (fun w op h hf => fastestForwarded_step_iff h hf op) ops
    ⟨inv_fresh sensorInfo, rfl⟩ ?_
  rintro (hen | hen) <;> cases hen

/-- A 10 ms subscription runs while a 5 ms channel opens and closes. -/
def fastChannelCloses : List SensorOp :=
  [.batch 10000000 0, .activate true, .addDirectChannel 1 5000000, .stopDirectChannel 1]

/-- **The period of a closed channel stays in force.** -/
theorem not_along_fastestForwarded_fastChannelCloses :
    ¬ Along History.step FastestForwarded (History.fresh ⟨5000, 1280000⟩) fastChannelCloses := by
  intro h
  obtain ⟨p, hp, hl⟩ := h.last (Or.inl (by decide))
  have hlast : lastBatch (Run.run History.step (History.fresh ⟨5000, 1280000⟩) fastChannelCloses).calls =
      some 5000000 := by
    decide
  obtain rfl : p = 5000000 := Option.some.inj (hp.symm.trans hlast)
  rcases hl.1 with ⟨-, hper⟩ | ⟨handle, channel, hm, hen, hper⟩
  · exact absurd hper (by decide)
  · -- the one channel left is disabled
    have hstopped : ∀ e ∈ (Run.run History.step (History.fresh ⟨5000, 1280000⟩)
        fastChannelCloses).sensor.mDirectChannels.toList, e.2.enabled = false := by
      decide
    rw [hstopped _ ((StdMap.mem_toList _ _ _).2 hm)] at hen
    cases hen

end SensorRate
end MemsHal
