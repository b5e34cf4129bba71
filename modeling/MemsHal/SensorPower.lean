import MemsHal.Sensor
/-!
# SensorPower — the power switch of one sensor

The event subscription and the direct channels share `mSensor->activate`.  `updateDirectChannel` leaves the switch
alone while the subscription needs it; `activate` does not look at the channels, so the end of the subscription
switches the sensor off under them.
-/
namespace MemsHal
namespace SensorPower

open Run (Along Steps)
open Sensor

/-- **The sensor is powered as needed**: the last `mSensor->activate` says whether one of the two needs it. -/
def PoweredAsNeeded (w : History) : Prop :=
  (lastActivate w.calls).getD false = (w.sensor.mIsEnabled || w.sensor.mDirectChannelEnabled)

/-- The operation does not end the subscription while a direct channel is enabled. -/
def KeepsPower (w : History) (op : SensorOp) : Prop :=
  op = .activate false → w.sensor.mIsEnabled = true → w.sensor.mDirectChannelEnabled = false

theorem poweredAsNeeded_channel (w : History) (op : SensorOp) (hop : op.OnChannel) (h : PoweredAsNeeded w) :
    PoweredAsNeeded (w.step op) := by
  unfold PoweredAsNeeded at h ⊢
  have hs : (w.step op).sensor = (w.sensor.exec op).1 := rfl
  rw [History.lastActivate_step, hs, exec_channel w.sensor op hop, lastActivate_updateDirectChannel,
    updateDirectChannel_isEnabled, updateDirectChannel_enabled]
  dsimp only
  by_cases hcall : w.sensor.mDirectChannelEnabled ≠ anyChannelEnabled (channelsAfter w.sensor.mDirectChannels op) ∧
      w.sensor.mIsEnabled = false
  · rw [if_pos hcall, hcall.2]
    rfl
  · rw [if_neg hcall, Option.none_or, h]
    -- no call is made where the subscription keeps the sensor on or the channels want what they wanted
    cases hen : w.sensor.mIsEnabled with
    | true => rfl
    | false =>
      rw [Decidable.not_not.1 (fun hne => hcall ⟨hne, hen⟩)]

/-- **One step keeps the sensor powered as needed exactly when it is a `KeepsPower` step.** -/
theorem poweredAsNeeded_step_iff (w : History) (op : SensorOp) (h : PoweredAsNeeded w) :
    PoweredAsNeeded (w.step op) ↔ KeepsPower w op := by
  by_cases hop : op.OnChannel
  · refine iff_of_true (poweredAsNeeded_channel w op hop h) (fun he => ?_)
    rw [he] at hop
    exact absurd hop id
  · unfold PoweredAsNeeded at h ⊢
    rw [History.lastActivate_step]
    cases op with
    | batch p l =>
      have hcall : lastActivate (w.sensor.exec (.batch p l)).2 = none := by
        unfold exec Sensor.batch
        dsimp only
        split <;> rfl
      rw [hcall, Option.none_or]
      exact iff_of_true h (fun he => by cases he)
    | activate e =>
      have hs : (w.step (.activate e)).sensor = (w.sensor.exec (.activate e)).1 := rfl
      rw [hs]
      unfold KeepsPower exec Sensor.activate
      by_cases hsame : w.sensor.mIsEnabled = e
      · dsimp only
        rw [if_neg (not_not.2 hsame)]
        refine iff_of_true h (fun he hen => ?_)
        cases he
        exact absurd hen (by rw [hsame]; decide)
      · dsimp only
        rw [if_pos hsame]
        cases e with
        | true => exact iff_of_true rfl (fun he => by cases he)
        | false =>
          have hon : w.sensor.mIsEnabled = true := Bool.eq_true_of_not_eq_false hsame
          exact ⟨fun hl _ _ => hl.symm, fun hkeep => (hkeep rfl hon).symm⟩
    | _ => exact absurd trivial hop

/-- **The power of a sensor along a run.** -/
theorem along_poweredAsNeeded_iff (sensorInfo : SensorInfo) (ops : List SensorOp) :
    Along History.step PoweredAsNeeded (History.fresh sensorInfo) ops ↔
      Steps History.step KeepsPower (History.fresh sensorInfo) ops :=
  Run.along_iff_steps' (I := fun _ => True) (fun _ _ _ => trivial)
    (fun w op _ h => poweredAsNeeded_step_iff w op h) ops trivial rfl

/-- A direct channel is opened, then the subscription starts and ends. -/
def subscriptionEndsUnderChannel : List SensorOp :=
  [.addDirectChannel 1 5000000, .activate true, .activate false]

/-- **The end of the subscription switches the sensor off under an open channel.** -/
theorem not_along_poweredAsNeeded_subscriptionEndsUnderChannel :
    ¬ Along History.step PoweredAsNeeded (History.fresh ⟨5000, 1280000⟩) subscriptionEndsUnderChannel := by
  intro h
  have hlast := h.last
  revert hlast
  unfold PoweredAsNeeded
  decide

end SensorPower
end MemsHal
