import MemsHal.HalReads
/-!
# SensorDeadline — the next times of a sensor whose period changes

`batch` and the channel operations write the period, passes of `run` the deadlines, from the period of that moment.  A
deadline is brought forward when its stream starts and at no other time, so a shorter period takes effect at once
exactly if its stream has nothing due from before (`along_atOnce_iff`).
-/
namespace MemsHal
namespace SensorDeadline

open Run (Along Steps)
open Sensor

/-- The time of a post or write, and the period it scheduled the next one with. -/
structure Stamp where
  currentTime : Int
  periodNs : Int

/-- A sensor, with its last post since activation and its last write since a channel was enabled. -/
structure Stream where
  sensor : Sensor
  lastPost : Option Stamp
  lastWrite : Option Stamp

/-- A public call, or an iteration of `run`. -/
inductive Op
  | call (op : SensorOp)
  | run (currentTime : Int)

namespace Stream

def fresh (sensorInfo : SensorInfo) : Stream := ⟨Sensor.fresh sensorInfo, none, none⟩

/-- What a stream last did, forgotten where it starts or ends. -/
def remember (before after : Bool) (last : Option Stamp) : Option Stamp := if before = after then last else none

/-- The sum of a deadline is exact here. -/
def step (w : Stream) : Op → Stream
  | .call op =>
    let s := (w.sensor.exec op).1
    { sensor := s
      lastPost := remember w.sensor.mIsEnabled s.mIsEnabled w.lastPost
      lastWrite := remember w.sensor.mDirectChannelEnabled s.mDirectChannelEnabled w.lastWrite }
  | .run currentTime =>
    let s := w.sensor
    if s.InUse then
      { sensor := s.reschedule (· + ·) currentTime
        lastPost := if s.sampleDue currentTime then some ⟨currentTime, s.mSamplingPeriodNs⟩ else w.lastPost
        lastWrite := if s.directDue currentTime then some ⟨currentTime, s.mDirectChannelRateNs⟩ else w.lastWrite }
    else w

end Stream

/-- The last time of a stream plus a period; a stream that has just started is due at once. -/
def after (last : Option Stamp) (periodNs : Int) : Int :=
  match last with
  | some stamp => stamp.currentTime + periodNs
  | none       => 0

/-- **The periods in force hold of the next times.** -/
structure AtOnce (w : Stream) : Prop where
  sample : w.sensor.mIsEnabled = true → w.sensor.mNextSampleTimeNs ≤ after w.lastPost w.sensor.mSamplingPeriodNs
  direct : w.sensor.mDirectChannelEnabled = true →
    w.sensor.mNextDirectChannelNs ≤ after w.lastWrite w.sensor.mDirectChannelRateNs

/-- The operation shortens no period that the next time of a running stream was computed with. -/
def KeepsPace (w : Stream) : Op → Prop
  | .call (.batch samplingPeriodNs _) => w.sensor.mIsEnabled = true →
    ∀ post ∈ w.lastPost, post.periodNs ≤ w.sensor.mSensorInfo.clamp samplingPeriodNs.toInt
  | .call (.activate _) => True
  | .call op => w.sensor.mDirectChannelEnabled = true →
    ∀ write ∈ w.lastWrite, ∀ q ∈ channelDemands (channelsAfter w.sensor.mDirectChannels op), write.periodNs ≤ q
  | .run _ => True

/-! ## What the next times are -/

/-- The next time that a stream's last post or write left. -/
def deadline : Option Stamp → Int
  | some stamp => stamp.currentTime + stamp.periodNs
  | none       => 0

theorem deadline_le_after_iff (last : Option Stamp) (periodNs : Int) :
    deadline last ≤ after last periodNs ↔ ∀ stamp ∈ last, stamp.periodNs ≤ periodNs := by
  cases last with
  | none => exact iff_of_true le_rfl fun _ h => by cases h
  | some stamp =>
    refine (add_le_add_iff_left stamp.currentTime).trans ⟨fun h other hother => ?_, fun h => h stamp rfl⟩
    obtain rfl := Option.some.inj hother
    exact h

/-- **Only posts, writes and starts set the next times.** -/
structure Scheduled (w : Stream) : Prop where
  inv : w.sensor.Inv
  sample : w.sensor.mIsEnabled = true → w.sensor.mNextSampleTimeNs = deadline w.lastPost
  direct : w.sensor.mDirectChannelEnabled = true → w.sensor.mNextDirectChannelNs = deadline w.lastWrite

theorem atOnce_iff {w : Stream} (h : Scheduled w) : AtOnce w ↔
    (w.sensor.mIsEnabled = true → ∀ post ∈ w.lastPost, post.periodNs ≤ w.sensor.mSamplingPeriodNs) ∧
      (w.sensor.mDirectChannelEnabled = true → ∀ write ∈ w.lastWrite, write.periodNs ≤ w.sensor.mDirectChannelRateNs) := by
  constructor
  · intro hatOnce
    refine ⟨fun hen => ?_, fun hen => ?_⟩
    · rw [← deadline_le_after_iff, ← h.sample hen]
      exact hatOnce.sample hen
    · rw [← deadline_le_after_iff, ← h.direct hen]
      exact hatOnce.direct hen
  · rintro ⟨hsample, hdirect⟩
    refine ⟨fun hen => ?_, fun hen => ?_⟩
    · rw [h.sample hen, deadline_le_after_iff]
      exact hsample hen
    · rw [h.direct hen, deadline_le_after_iff]
      exact hdirect hen

theorem scheduled_fresh (sensorInfo : SensorInfo) : Scheduled (Stream.fresh sensorInfo) where
  inv := inv_fresh sensorInfo
  sample h := by cases h
  direct h := by cases h

/-! ## One step -/

@[simp] theorem remember_same (before : Bool) (last : Option Stamp) : Stream.remember before before last = last :=
  if_pos rfl

theorem step_batch (w : Stream) (p l : Int64) : w.step (.call (.batch p l)) =
    { w with sensor := { w.sensor with mSamplingPeriodNs := w.sensor.mSensorInfo.clamp p.toInt } } := by
  show Stream.mk _ (Stream.remember w.sensor.mIsEnabled w.sensor.mIsEnabled w.lastPost)
    (Stream.remember w.sensor.mDirectChannelEnabled w.sensor.mDirectChannelEnabled w.lastWrite) = _
  rw [remember_same, remember_same]
  rfl

theorem step_activate_same (w : Stream) {enable : Bool} (h : w.sensor.mIsEnabled = enable) :
    w.step (.call (.activate enable)) = w := by
  have hexec : w.sensor.exec (.activate enable) = (w.sensor, []) := if_neg (not_not.2 h)
  unfold Stream.step
  dsimp only
  rw [hexec, remember_same, remember_same]

theorem step_activate_change (w : Stream) {enable : Bool} (h : w.sensor.mIsEnabled ≠ enable) :
    w.step (.call (.activate enable)) =
      { w with
        sensor := { w.sensor with mIsEnabled := enable, mNextSampleTimeNs := if enable then 0 else int64Max }
        lastPost := none } := by
  have hexec : (w.sensor.exec (.activate enable)).1 =
      { w.sensor with mIsEnabled := enable, mNextSampleTimeNs := if enable then 0 else int64Max } :=
    congrArg Prod.fst (if_pos h)
  unfold Stream.step
  dsimp only
  rw [hexec, remember_same]
  unfold Stream.remember
  rw [if_neg h]

section Channel

variable (w : Stream) {op : SensorOp} (hop : op.OnChannel)

include hop in
theorem step_channel_sample : (w.step (.call op)).sensor.mIsEnabled = w.sensor.mIsEnabled ∧
    (w.step (.call op)).sensor.mSamplingPeriodNs = w.sensor.mSamplingPeriodNs ∧
    (w.step (.call op)).sensor.mNextSampleTimeNs = w.sensor.mNextSampleTimeNs ∧
    (w.step (.call op)).lastPost = w.lastPost := by
  obtain ⟨hen, hperiod, hnext⟩ := exec_channel_sample w.sensor hop
  refine ⟨hen, hperiod, hnext, ?_⟩
  unfold Stream.step
  dsimp only
  rw [hen, remember_same]

include hop in
/-- What it does to the channels' stream: it starts, ends, or goes on as it was. -/
theorem step_channel_direct :
    (w.step (.call op)).sensor.mDirectChannelEnabled =
        anyChannelEnabled (channelsAfter w.sensor.mDirectChannels op) ∧
      (w.step (.call op)).sensor.mDirectChannelRateNs = fastestChannel (channelsAfter w.sensor.mDirectChannels op) ∧
      (w.sensor.mDirectChannelEnabled = anyChannelEnabled (channelsAfter w.sensor.mDirectChannels op) →
        (w.step (.call op)).sensor.mNextDirectChannelNs = w.sensor.mNextDirectChannelNs ∧
          (w.step (.call op)).lastWrite = w.lastWrite) ∧
      (w.sensor.mDirectChannelEnabled ≠ anyChannelEnabled (channelsAfter w.sensor.mDirectChannels op) →
        (w.step (.call op)).sensor.mNextDirectChannelNs =
            (if anyChannelEnabled (channelsAfter w.sensor.mDirectChannels op) then 0 else int64Max) ∧
          (w.step (.call op)).lastWrite = none) := by
  unfold Stream.step Stream.remember
  dsimp only
  rw [exec_channel w.sensor op hop, updateDirectChannel_enabled, updateDirectChannel_rateNs,
    updateDirectChannel_nextDirectChannelNs]
  refine ⟨rfl, rfl, fun hsame => ⟨if_neg (not_not.2 hsame), if_pos hsame⟩, fun hchange =>
    ⟨if_pos hchange, if_neg hchange⟩⟩

end Channel

theorem scheduled_channel (w : Stream) {op : SensorOp} (hop : op.OnChannel) (h : Scheduled w) :
    Scheduled (w.step (.call op)) := by
  obtain ⟨hen, -, hnext, hpost⟩ := step_channel_sample w hop
  obtain ⟨hany, -, hsame, hchange⟩ := step_channel_direct w hop
  refine ⟨inv_exec w.sensor op h.inv, fun henabled => ?_, fun henabled => ?_⟩
  · rw [hnext, hpost]
    exact h.sample (hen ▸ henabled)
  · rw [hany] at henabled
    by_cases hbefore : w.sensor.mDirectChannelEnabled = anyChannelEnabled (channelsAfter w.sensor.mDirectChannels op)
    · obtain ⟨hnext, hwrite⟩ := hsame hbefore
      rw [hnext, hwrite]
      exact h.direct (hbefore.trans henabled)
    · obtain ⟨hnext, hwrite⟩ := hchange hbefore
      rw [hnext, hwrite, henabled]
      rfl

theorem scheduled_run (w : Stream) (currentTime : Int) (h : Scheduled w) : Scheduled (w.step (.run currentTime)) := by
  unfold Stream.step
  dsimp only
  split
  · refine ⟨⟨h.inv.enabled, h.inv.rate, h.inv.channels, h.inv.period⟩, fun hen => ?_, fun hen => ?_⟩
    · have hbefore := h.sample hen
      unfold reschedule
      dsimp only
      split
      · rfl
      · exact hbefore
    · have hbefore := h.direct hen
      unfold reschedule
      dsimp only
      split
      · rfl
      · exact hbefore
  · exact h

theorem scheduled_step (w : Stream) (op : Op) (h : Scheduled w) : Scheduled (w.step op) := by
  cases op with
  | run currentTime => exact scheduled_run w currentTime h
  | call op =>
    by_cases hop : op.OnChannel
    · exact scheduled_channel w hop h
    · cases op with
      | batch p l =>
        rw [step_batch]
        exact ⟨inv_exec w.sensor (.batch p l) h.inv, h.sample, h.direct⟩
      | activate enable =>
        by_cases hsame : w.sensor.mIsEnabled = enable
        · rw [step_activate_same w hsame]
          exact h
        · rw [step_activate_change w hsame]
          refine ⟨⟨h.inv.enabled, h.inv.rate, h.inv.channels, h.inv.period⟩, fun hen => if_pos hen, h.direct⟩
      | _ => exact absurd trivial hop

/-- A batch keeps the promise exactly if it does not shorten the period of a subscription that has posted. -/
theorem atOnce_batch_iff (w : Stream) (p l : Int64) (h : Scheduled w) (hatOnce : AtOnce w) :
    AtOnce (w.step (.call (.batch p l))) ↔ KeepsPace w (.call (.batch p l)) := by
  have hstep := scheduled_step w (.call (.batch p l)) h
  rw [atOnce_iff hstep, step_batch]
  exact and_iff_left ((atOnce_iff h).1 hatOnce).2

theorem atOnce_activate (w : Stream) (enable : Bool) (h : Scheduled w) (hatOnce : AtOnce w) :
    AtOnce (w.step (.call (.activate enable))) := by
  by_cases hsame : w.sensor.mIsEnabled = enable
  · rw [step_activate_same w hsame]
    exact hatOnce
  · have hstep := scheduled_step w (.call (.activate enable)) h
    rw [step_activate_change w hsame] at hstep ⊢
    refine (atOnce_iff hstep).2 ⟨fun _ post hpost => ?_, ((atOnce_iff h).1 hatOnce).2⟩
    cases hpost

theorem atOnce_run (w : Stream) (currentTime : Int) (h : Scheduled w) (hatOnce : AtOnce w) :
    AtOnce (w.step (.run currentTime)) := by
  refine (atOnce_iff (scheduled_run w currentTime h)).2 ?_
  obtain ⟨hsample, hdirect⟩ := (atOnce_iff h).1 hatOnce
  unfold Stream.step
  dsimp only
  split
  · refine ⟨fun hen post hpost => ?_, fun hen write hwrite => ?_⟩
    · dsimp only at hpost
      split at hpost
      · obtain rfl := Option.some.inj hpost
        exact le_rfl
      · exact hsample hen post hpost
    · dsimp only at hwrite
      split at hwrite
      · obtain rfl := Option.some.inj hwrite
        exact le_rfl
      · exact hdirect hen write hwrite
  · exact ⟨hsample, hdirect⟩

/-- A channel operation keeps the promise exactly if it leaves no channel faster than the period of the last write. -/
theorem atOnce_channel_iff (w : Stream) {op : SensorOp} (hop : op.OnChannel) (h : Scheduled w) (hatOnce : AtOnce w) :
    AtOnce (w.step (.call op)) ↔ (w.sensor.mDirectChannelEnabled = true → ∀ write ∈ w.lastWrite,
      ∀ q ∈ channelDemands (channelsAfter w.sensor.mDirectChannels op), write.periodNs ≤ q) := by
  obtain ⟨hen, hperiod, -, hpost⟩ := step_channel_sample w hop
  obtain ⟨hany, hrate, hsame, hchange⟩ := step_channel_direct w hop
  obtain ⟨hsample, -⟩ := (atOnce_iff h).1 hatOnce
  rw [atOnce_iff (scheduled_channel w hop h), hen, hperiod, hpost, and_iff_right hsample, hany, hrate]
  by_cases hbefore : w.sensor.mDirectChannelEnabled = anyChannelEnabled (channelsAfter w.sensor.mDirectChannels op)
  · rw [(hsame hbefore).2, ← hbefore]
    refine forall_congr' fun henabled => forall₂_congr fun write _ => ?_
    -- a channel is enabled, and its period is no more than `INT64_MAX`
    obtain ⟨q, hq⟩ := (anyChannelEnabled_iff _).1 (hbefore ▸ henabled)
    have hmax := channelsAfter_le _ op h.inv.channels q hq
    rw [le_fastestChannel_iff]
    exact and_iff_right_of_imp fun hp => (hp q hq).trans hmax
  · rw [(hchange hbefore).2]
    refine iff_of_true (fun _ write hwrite => by cases hwrite) fun henabled write _ q hq => ?_
    -- the channels' stream was on, so it has ended
    have hon := (anyChannelEnabled_iff _).2 ⟨q, hq⟩
    exact absurd (henabled.trans hon.symm) hbefore

/-- **One operation keeps the promise** exactly if it shortens no period that a next time was computed with. -/
theorem atOnce_step_iff (w : Stream) (op : Op) (h : Scheduled w) (hatOnce : AtOnce w) :
    AtOnce (w.step op) ↔ KeepsPace w op := by
  cases op with
  | run currentTime => exact iff_of_true (atOnce_run w currentTime h hatOnce) trivial
  | call op =>
    cases op with
    | batch p l => exact atOnce_batch_iff w p l h hatOnce
    | activate enable => exact iff_of_true (atOnce_activate w enable h hatOnce) trivial
    | _ => exact atOnce_channel_iff w trivial h hatOnce

/-! ## Runs -/

theorem atOnce_fresh (sensorInfo : SensorInfo) : AtOnce (Stream.fresh sensorInfo) where
  sample h := by cases h
  direct h := by cases h

/-- **A new period takes effect at once along a run** exactly if no operation of it shortens a period that the next
time of a running stream was computed with. -/
theorem along_atOnce_iff (sensorInfo : SensorInfo) (ops : List Op) :
    Along Stream.step AtOnce (.fresh sensorInfo) ops ↔ Steps Stream.step KeepsPace (.fresh sensorInfo) ops :=
  Run.along_iff_steps' scheduled_step atOnce_step_iff ops (scheduled_fresh sensorInfo) (atOnce_fresh sensorInfo)

/-- A subscription at 20 ms that has posted, and then asks for 5 ms. -/
def fasterBatch : List Op :=
  [.call (.batch 20000000 0), .call (.activate true), .run 0, .call (.batch 5000000 0)]

/-- A channel at 20 ms that was written to, and then another at 5 ms. -/
def fasterChannel : List Op :=
  [.call (.addDirectChannel 1 20000000), .run 0, .call (.addDirectChannel 2 5000000)]

theorem not_along_atOnce_fasterBatch :
    (¬ Along Stream.step AtOnce (.fresh ⟨5000, 20000⟩) fasterBatch) ∧
      ¬ Along Stream.step AtOnce (.fresh ⟨5000, 20000⟩) fasterChannel := by
  constructor
  · intro h
    exact absurd (h.last.sample rfl) (by decide)
  · intro h
    exact absurd (h.last.direct rfl) (by decide)

end SensorDeadline
end MemsHal
