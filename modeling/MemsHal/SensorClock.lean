import MemsHal.FloatRound
import MemsHal.HalReads
/-!
# SensorClock — the deadlines of `run`, summed in floats

`POLL_TIME_REDUCTION_FACTOR` is a float, so `currentTime` and the period are rounded to 24 bits before they are added,
and the sum once more.  As the uptime grows the deadline falls before the period is over, or long after it.  Whatever
the clock reads next, posts keep their period exactly if the three roundings of each add up to something between nothing
and a period (`along_spaced_iff`); for the first 2.4 hours no deadline is late (`nextTime_of_uptime`).
-/
namespace MemsHal
namespace SensorClock

open Run (Along Steps)
open Sensor

/-- `currentTime + periodNs * POLL_TIME_REDUCTION_FACTOR`; the product with 1 is exact. -/
def nextTime (currentTime periodNs : Int) : Int := FloatRound.add 24 currentTime periodNs

/-- What the conversions add to the sum. -/
def roundingError (currentTime periodNs : Int) : Int := FloatRound.addError 24 currentTime periodNs

/-- A sensor, the time of its last post, and the last reading of the clock. -/
structure Posting where
  sensor : Sensor
  lastPost : Option Int
  clock : Int

/-- An operation on the direct channels, or an iteration of `run` with its two readings of the clock.  The second one
goes into the time to wait, which a notification or a spurious wake-up may cut short. -/
inductive Op
  | channel (op : SensorOp) (onChannel : op.OnChannel)
  | run (currentTime afterwards : Int)

namespace Posting

/-- The subscription is on and nothing has been posted. -/
def start (s : Sensor) : Posting := ⟨s, none, 0⟩

def step (w : Posting) : Op → Posting
  | .channel op _ => { w with sensor := (w.sensor.exec op).1 }
  | .run currentTime afterwards =>
    { sensor := w.sensor.reschedule nextTime currentTime
      lastPost := if w.sensor.sampleDue currentTime then some currentTime else w.lastPost
      clock := afterwards }

end Posting

/-- The clock never goes back, and stays below `2 ^ 62`. -/
def Legal (w : Posting) : Op → Prop
  | .channel _ _                => True
  | .run currentTime afterwards => w.clock ≤ currentTime ∧ currentTime ≤ afterwards ∧ afterwards < 2 ^ 62

instance (w : Posting) : ∀ op, Decidable (Legal w op)
  | .channel _ _ => inferInstanceAs (Decidable True)
  | .run _ _     => inferInstanceAs (Decidable (_ ∧ _ ∧ _))

/-- **The post of an iteration keeps the period**: it is a period or more after the one before, and leaves a deadline
that is two periods away at most. -/
def Kept (w : Posting) : Op → Prop
  | .channel _ _                => True
  | .run currentTime afterwards => w.sensor.sampleDue currentTime = true →
    (∀ post ∈ w.lastPost, post + w.sensor.mSamplingPeriodNs ≤ currentTime) ∧
      (w.step (.run currentTime afterwards)).sensor.mNextSampleTimeNs ≤ currentTime + 2 * w.sensor.mSamplingPeriodNs

/-- **The deadline keeps the period**, whatever the clock reads next. -/
structure Spaced (w : Posting) : Prop where
  apart : ∀ post ∈ w.lastPost, ∀ currentTime, post ≤ currentTime → w.sensor.mNextSampleTimeNs ≤ currentTime →
    post + w.sensor.mSamplingPeriodNs ≤ currentTime
  near : ∀ post ∈ w.lastPost, w.sensor.mNextSampleTimeNs ≤ post + 2 * w.sensor.mSamplingPeriodNs

/-- The conversions of a post take nothing away, and add a period at most. -/
def Faithful (w : Posting) : Op → Prop
  | .channel _ _       => True
  | .run currentTime _ => w.sensor.sampleDue currentTime = true →
    0 ≤ roundingError currentTime w.sensor.mSamplingPeriodNs ∧
      roundingError currentTime w.sensor.mSamplingPeriodNs ≤ w.sensor.mSamplingPeriodNs

/-! ## One post -/

/-- **A deadline keeps the period, whatever the clock reads next,** exactly if the conversions are faithful. -/
theorem nextTime_keeps_iff (currentTime : Int) {periodNs : Int} (hperiod : 0 < periodNs) :
    ((∀ next, currentTime ≤ next → nextTime currentTime periodNs ≤ next → currentTime + periodNs ≤ next) ∧
        nextTime currentTime periodNs ≤ currentTime + 2 * periodNs) ↔
      0 ≤ roundingError currentTime periodNs ∧ roundingError currentTime periodNs ≤ periodNs := by
  have hsum : nextTime currentTime periodNs = currentTime + periodNs + roundingError currentTime periodNs :=
    FloatRound.add_eq 24 currentTime periodNs
  rw [hsum]
  constructor
  · rintro ⟨hapart, hnear⟩
    have hnext := hapart (max currentTime (currentTime + periodNs + roundingError currentTime periodNs))
      (le_max_left _ _) (le_max_right _ _)
    omega
  · rintro ⟨hlow, hhigh⟩
    exact ⟨fun next _ hnext => by omega, by omega⟩

/-- **For the first 2.4 hours no deadline is late**, and none is early by more than 0.8 ms. -/
theorem nextTime_of_uptime {currentTime periodNs : Int} (hclock : 0 ≤ currentTime) (huptime : currentTime < 2 ^ 43)
    (hperiod : 1000000 ≤ periodNs) (hperiod' : periodNs ≤ 2000000000) :
    currentTime + periodNs - 800000 ≤ nextTime currentTime periodNs ∧
      nextTime currentTime periodNs ≤ currentTime + 2 * periodNs := by
  have hsum : nextTime currentTime periodNs = currentTime + periodNs + roundingError currentTime periodNs :=
    FloatRound.add_eq 24 currentTime periodNs
  obtain ⟨hclockLow, hclockHigh⟩ := FloatRound.error_bounds_of_lt (p := 24) (k := 19) (by decide) hclock huptime
  obtain ⟨hperiodLow, hperiodHigh⟩ := FloatRound.error_bounds_of_lt (p := 24) (k := 7) (n := periodNs) (by decide)
    (by omega) (by omega)
  unfold FloatRound.error at hclockLow hclockHigh hperiodLow hperiodHigh
  obtain ⟨hsumLow, hsumHigh⟩ := FloatRound.error_bounds_of_lt (p := 24) (k := 20)
    (n := FloatRound.ofInt 24 currentTime + FloatRound.ofInt 24 periodNs) (by decide) (by omega) (by omega)
  unfold roundingError FloatRound.addError at hsum
  unfold FloatRound.error at hsum hsumLow hsumHigh
  omega

/-! ## Runs -/

/-- The subscription stays on, with its period. -/
structure Subscribed (periodNs : Int) (w : Posting) : Prop where
  enabled : w.sensor.mIsEnabled = true
  period : w.sensor.mSamplingPeriodNs = periodNs
  past : ∀ post ∈ w.lastPost, post ≤ w.clock

theorem sampleDue_iff {w : Posting} {periodNs : Int} (h : Subscribed periodNs w) (currentTime : Int) :
    w.sensor.sampleDue currentTime = true ↔ w.sensor.mNextSampleTimeNs ≤ currentTime := by
  unfold sampleDue
  rw [h.enabled, Bool.true_and, decide_eq_true_eq]

theorem step_due {w : Posting} {currentTime : Int} (afterwards : Int) (hdue : w.sensor.sampleDue currentTime = true) :
    (w.step (.run currentTime afterwards)).lastPost = some currentTime ∧
      (w.step (.run currentTime afterwards)).sensor.mNextSampleTimeNs =
        nextTime currentTime w.sensor.mSamplingPeriodNs :=
  ⟨if_pos hdue, if_pos hdue⟩

theorem step_not_due {w : Posting} {currentTime : Int} (afterwards : Int)
    (hdue : ¬ w.sensor.sampleDue currentTime = true) :
    (w.step (.run currentTime afterwards)).lastPost = w.lastPost ∧
      (w.step (.run currentTime afterwards)).sensor.mNextSampleTimeNs = w.sensor.mNextSampleTimeNs :=
  ⟨if_neg hdue, if_neg hdue⟩

theorem subscribed_step {periodNs : Int} (w : Posting) (op : Op) (h : Subscribed periodNs w) (hlegal : Legal w op) :
    Subscribed periodNs (w.step op) := by
  cases op with
  | channel op onChannel =>
    obtain ⟨hen, hperiod, -⟩ := exec_channel_sample w.sensor onChannel
    exact ⟨hen.trans h.enabled, hperiod.trans h.period, h.past⟩
  | run currentTime afterwards =>
    obtain ⟨hclock, hafterwards, -⟩ := hlegal
    refine ⟨h.enabled, h.period, fun post hpost => ?_⟩
    by_cases hdue : w.sensor.sampleDue currentTime = true
    · rw [(step_due afterwards hdue).1] at hpost
      obtain rfl := Option.some.inj hpost
      exact hafterwards
    · rw [(step_not_due afterwards hdue).1] at hpost
      exact (h.past post hpost).trans (hclock.trans hafterwards)

/-- **A step keeps the deadline spaced** exactly if its conversions are faithful. -/
theorem spaced_step_iff {periodNs : Int} (hperiod : 0 < periodNs) (w : Posting) (op : Op) (h : Subscribed periodNs w)
    (hspaced : Spaced w) : Spaced (w.step op) ↔ Faithful w op := by
  cases op with
  | channel op onChannel =>
    obtain ⟨-, hperiod, hnext⟩ := exec_channel_sample w.sensor onChannel
    refine iff_of_true ⟨?_, ?_⟩ trivial
    · show ∀ post ∈ w.lastPost, ∀ currentTime, post ≤ currentTime → (w.sensor.exec op).1.mNextSampleTimeNs ≤ currentTime →
        post + (w.sensor.exec op).1.mSamplingPeriodNs ≤ currentTime
      rw [hperiod, hnext]
      exact hspaced.apart
    · show ∀ post ∈ w.lastPost,
        (w.sensor.exec op).1.mNextSampleTimeNs ≤ post + 2 * (w.sensor.exec op).1.mSamplingPeriodNs
      rw [hperiod, hnext]
      exact hspaced.near
  | run currentTime afterwards =>
    have hsame : (w.step (.run currentTime afterwards)).sensor.mSamplingPeriodNs = w.sensor.mSamplingPeriodNs := rfl
    by_cases hdue : w.sensor.sampleDue currentTime = true
    · obtain ⟨hpost, hnext⟩ := step_due afterwards hdue
      have hkeeps := nextTime_keeps_iff currentTime (h.period ▸ hperiod)
      refine Iff.trans ⟨fun hafter => ?_, fun hboth => ⟨?_, ?_⟩⟩ (hkeeps.trans (imp_iff_right hdue).symm)
      · refine ⟨fun next hle hdeadline => ?_, ?_⟩
        · exact hafter.apart currentTime hpost next hle (hnext ▸ hdeadline)
        · rw [← hnext]
          exact hafter.near currentTime hpost
      · rw [hpost, hnext, hsame]
        rintro post hmem
        obtain rfl := Option.some.inj hmem
        exact hboth.1
      · rw [hpost, hnext, hsame]
        rintro post hmem
        obtain rfl := Option.some.inj hmem
        exact hboth.2
    · obtain ⟨hpost, hnext⟩ := step_not_due afterwards hdue
      refine iff_of_true ⟨?_, ?_⟩ fun hdue' => absurd hdue' hdue
      · rw [hpost, hnext, hsame]
        exact hspaced.apart
      · rw [hpost, hnext, hsame]
        exact hspaced.near

/-- A post from a spaced deadline whose conversions are faithful keeps the period. -/
theorem kept_of_spaced {periodNs : Int} (hperiod : 0 < periodNs) {w : Posting} {op : Op} (h : Subscribed periodNs w)
    (hspaced : Spaced w) (hlegal : Legal w op) (hfaithful : Faithful w op) : Kept w op := by
  have hafter := (spaced_step_iff hperiod w op h hspaced).2 hfaithful
  cases op with
  | channel op onChannel => trivial
  | run currentTime afterwards =>
    intro hdue
    refine ⟨fun post hpost => ?_, hafter.near currentTime (step_due afterwards hdue).1⟩
    exact hspaced.apart post hpost currentTime ((h.past post hpost).trans hlegal.1)
      ((sampleDue_iff h currentTime).1 hdue)

theorem spaced_start (s : Sensor) : Spaced (.start s) where
  apart _ h := by cases h
  near _ h := by cases h

theorem subscribed_start {s : Sensor} (henabled : s.mIsEnabled = true) :
    Subscribed s.mSamplingPeriodNs (.start s) := ⟨henabled, rfl, fun _ h => by cases h⟩

/-- **Deadlines along a run**: whatever the clock reads next, they keep the period, exactly if the conversions of every
post are faithful; and then every post keeps the period. -/
theorem along_spaced_iff (s : Sensor) (ops : List Op) (henabled : s.mIsEnabled = true)
    (hperiod : 1000000 ≤ s.mSamplingPeriodNs ∧ s.mSamplingPeriodNs ≤ 2000000000)
    (hlegal : Steps Posting.step Legal (.start s) ops) :
    (Along Posting.step Spaced (.start s) ops ↔ Steps Posting.step Faithful (.start s) ops) ∧
      (Steps Posting.step Faithful (.start s) ops → Steps Posting.step Kept (.start s) ops) := by
  have hpositive : 0 < s.mSamplingPeriodNs := by omega
  have hstart := subscribed_start henabled
  refine ⟨Run.along_iff_steps (L := Legal) subscribed_step (fun w op h _ => spaced_step_iff hpositive w op h) hstart
    (spaced_start s) hlegal, fun hfaithful => ?_⟩
  refine Run.steps_of_step (I := fun w => Subscribed s.mSamplingPeriodNs w ∧ Spaced w)
    (L := fun w op => Legal w op ∧ Faithful w op) ?_ ?_ ⟨hstart, spaced_start s⟩ ((Run.steps_and ops _).2 ⟨hlegal, hfaithful⟩)
  · rintro w op ⟨h, hspaced⟩ ⟨hlegal, hfaithful⟩
    exact ⟨subscribed_step w op h hlegal, (spaced_step_iff hpositive w op h hspaced).2 hfaithful⟩
  · rintro w op ⟨h, hspaced⟩ ⟨hlegal, hfaithful⟩
    exact kept_of_spaced hpositive h hspaced hlegal hfaithful

/-- A sensor started at 5 ms. -/
def started : Sensor := ((Sensor.fresh ⟨5000, 20000⟩).exec (.activate true)).1

/-- Two posts within the first 10 ms of uptime, where the conversions are exact. -/
def atBoot : List Op := [.run 0 0, .run 5000000 5000000]

theorem along_spaced_iff_atBoot :
    Along Posting.step Spaced (.start started) atBoot ∧ Steps Posting.step Kept (.start started) atBoot := by
  have h := along_spaced_iff started atBoot rfl (by decide) ⟨by decide, by decide, trivial⟩
  have hfaithful : Steps Posting.step Faithful (.start started) atBoot :=
    ⟨fun _ => by decide, fun _ => by decide, trivial⟩
  exact ⟨h.1.2 hfaithful, h.2 hfaithful⟩

/-- After 39 hours: the deadline of the first post is the time of the post, so the next iteration posts again. -/
def early : List Op := [.run (2 ^ 47) (2 ^ 47), .run (2 ^ 47 + 1000000) (2 ^ 47 + 1000000)]

/-- After 3 days: the deadline is nearly 17 ms away. -/
def late : List Op := [.run (2 ^ 48 + 2 ^ 24 + 1) (2 ^ 48 + 2 ^ 24 + 1)]

theorem not_steps_kept_early :
    (Steps Posting.step Legal (.start started) early ∧ ¬ Steps Posting.step Kept (.start started) early) ∧
      Steps Posting.step Legal (.start started) late ∧ ¬ Steps Posting.step Kept (.start started) late := by
  refine ⟨⟨⟨by decide, by decide, trivial⟩, ?_⟩, ⟨by decide, trivial⟩, ?_⟩
  · rintro ⟨-, hkept, -⟩
    exact absurd ((hkept (by decide)).1 (2 ^ 47) (by decide)) (by decide)
  · rintro ⟨hkept, -⟩
    exact absurd (hkept (by decide)).2 (by decide)

end SensorClock
end MemsHal
