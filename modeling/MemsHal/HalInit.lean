import MemsHal.HalChannels
import MemsHal.HalWakelock
/-!
# HalInit — what `initialize` leaves of the old session

The sensors are deactivated and every entry of the direct-channel tables is removed, from any reachable state.  The
count of outstanding wake-up events and the wake lock are not touched, so the new session starts clean exactly when
nothing was outstanding after the last pass of the old wake-lock thread (`initialized_iff`).
-/
namespace MemsHal

namespace Sensor

/-- `mIsEnabled` after an operation. -/
theorem exec_isEnabled (s : Sensor) (op : SensorOp) :
    (s.exec op).1.mIsEnabled = match op with
      | .activate enable => enable
      | _                => s.mIsEnabled := by
  by_cases hop : op.OnChannel
  · rw [exec_channel s op hop, updateDirectChannel_isEnabled]
    cases op <;> first | rfl | exact absurd hop id
  · cases op with
    | batch p l => rfl
    | activate e =>
      unfold exec activate
      dsimp only
      split
      · rfl
      · exact Decidable.not_not.1 ‹_›
    | _ => exact absurd trivial hop

/-- The hardware was last told to run only if the sensor or one of its channels is on. -/
def Settled (w : History) : Prop :=
  lastActivate w.calls = some true → w.sensor.mIsEnabled = true ∨ w.sensor.mDirectChannelEnabled = true

theorem settled_step (w : History) (op : SensorOp) (h : Settled w) : Settled (w.step op) := by
  unfold Settled
  rw [History.lastActivate_step]
  show _ → (w.sensor.exec op).1.mIsEnabled = true ∨ (w.sensor.exec op).1.mDirectChannelEnabled = true
  by_cases hop : op.OnChannel
  · rw [exec_channel w.sensor op hop, lastActivate_updateDirectChannel, updateDirectChannel_isEnabled,
      updateDirectChannel_enabled]
    dsimp only
    split
    · intro heq
      exact Or.inr (Option.some.inj heq)
    · rename_i hsame
      intro heq
      by_cases hen : w.sensor.mIsEnabled = true
      · exact Or.inl hen
      · have hstill := Decidable.not_not.1 (fun hne => hsame ⟨hne, Bool.not_eq_true _ |>.mp hen⟩)
        rw [← hstill]
        exact Or.inr ((h heq).resolve_left hen)
  · cases op with
    | batch p l =>
      have hnone : lastActivate (w.sensor.exec (.batch p l)).2 = none := by
        show lastActivate (w.sensor.batch p l).2 = none
        unfold batch
        dsimp only
        split <;> rfl
      rw [hnone]
      exact h
    | activate e =>
      unfold exec activate
      dsimp only
      split
      · cases e
        · intro heq
          cases heq
        · exact fun _ => Or.inl rfl
      · exact h
    | _ => exact absurd trivial hop

end Sensor

namespace Aidl
namespace HalInit

/-- **A clean session.** -/
structure CleanSession (s : SensorsHalAidl) : Prop where
  sensors : ∀ (k : Int32) (sensor : HalSensor), s.mSensors[k]? = some sensor →
    sensor.history.sensor.mIsEnabled = false ∧ sensor.history.sensor.mDirectChannelEnabled = false ∧
      Sensor.lastActivate sensor.history.calls ≠ some true ∧ sensor.channels = ∅
  channels : s.mDirectChannels = ∅
  outstanding : s.wakeLock.mOutstandingWakeUpEvents = 0
  lock : s.wakeLock.mHasWakeLock = false

/-- A pass of the wake-lock thread leaves nothing outstanding: the lock is past its deadline, or the acknowledgement
takes the count to 0 or below, where a balance of 2^31 and more counts as negative; and a held lock can be released. -/
def Emptied (w : WakeLock) (eventsHandled : Int32) (u : Uptime) : Prop :=
  (w.TimedOut 0 u ∨ w.balance 0 eventsHandled.toInt ≤ 0 ∨ 2 ^ 31 ≤ w.balance 0 eventsHandled.toInt) ∧
    (w.mHasWakeLock = true → u.releaseOk = true)

/-- Nothing is outstanding and the lock is not held once the old wake-lock thread is joined. -/
def Drained (s : SensorsHalAidl) (i : InitializeInput) : Prop :=
  match s.mReadWakeLockQueueRun, i.lastPass with
  | true, some (eventsHandled, u) => Emptied s.wakeLock eventsHandled u
  | _, _ => s.wakeLock.mOutstandingWakeUpEvents = 0 ∧ s.wakeLock.mHasWakeLock = false

/-! ## The sensors -/

theorem mem_opsOf_activate {m : StdMap Int32 HalSensor} {k : Int32} {sensor : HalSensor} (hk : m[k]? = some sensor) :
    .activate false ∈ Sensors.opsOf k (m.keys.map (·, .activate false)) := by
  refine Sensors.mem_opsOf.2 (List.mem_map.2 ⟨k, ?_, rfl⟩)
  exact Std.ExtTreeMap.mem_keys.2 (Std.ExtTreeMap.mem_iff_isSome_getElem?.2 (by rw [hk]; rfl))

/-- Deactivations and removals leave a deactivated sensor deactivated. -/
theorem disabled_run {ops : List SensorOp} (hops : ∀ op ∈ ops, op = .activate false ∨ op.OnChannel)
    {sensor : HalSensor} (h : sensor.history.sensor.mIsEnabled = false ∨ .activate false ∈ ops) :
    (Run.run HalSensor.exec sensor ops).history.sensor.mIsEnabled = false := by
  induction ops generalizing sensor with
  | nil => exact h.resolve_right List.not_mem_nil
  | cons op ops ih =>
    refine ih (fun op hm => hops op (List.mem_cons_of_mem _ hm)) ?_
    have hexec : (sensor.exec op).history.sensor.mIsEnabled = _ := Sensor.exec_isEnabled sensor.history.sensor op
    rcases hops op List.mem_cons_self with rfl | hop
    · exact Or.inl hexec
    · rcases h with hoff | hm
      · left
        rw [hexec]
        cases op <;> first | exact hoff | exact absurd hop id
      · rcases List.mem_cons.1 hm with rfl | hm
        · exact absurd hop id
        · exact Or.inr hm

variable (s : SensorsHalAidl) (i : InitializeInput)

theorem disabled_initialize {k : Int32} {sensor' : HalSensor}
    (hk : (s.initializeHal i).1.mSensors[k]? = some sensor') : sensor'.history.sensor.mIsEnabled = false := by
  rw [(initialize_tables s i).2] at hk
  obtain ⟨middle, hmiddle, rfl⟩ := Sensors.execEach_inv hk
  obtain ⟨sensor, hsensor, rfl⟩ := Sensors.execEach_inv hmiddle
  refine disabled_run (fun op hm => Or.inr ?_) (Or.inl (disabled_run (fun op hm => Or.inl ?_)
    (Or.inr (mem_opsOf_activate hsensor))))
  · obtain ⟨c, hc⟩ := isRemoval_removals s.mDirectChannels _ (Sensors.mem_opsOf.1 hm)
    rw [show op = .removeDirectChannel c from hc]
    trivial
  · obtain ⟨_, -, heq⟩ := List.mem_map.1 (Sensors.mem_opsOf.1 hm)
    cases heq
    rfl

/-- **The sensors and tables of a new session**, from any state in which the tables agree and the hardware is settled. -/
theorem initialize_sensors (hagree : Agree s)
    (hsettled : ∀ (k : Int32) (sensor : HalSensor), s.mSensors[k]? = some sensor → Sensor.Settled sensor.history)
    (k : Int32) (sensor : HalSensor) (hk : (s.initializeHal i).1.mSensors[k]? = some sensor) :
    sensor.history.sensor.mIsEnabled = false ∧ sensor.history.sensor.mDirectChannelEnabled = false ∧
      Sensor.lastActivate sensor.history.calls ≠ some true ∧ sensor.channels = ∅ := by
  obtain ⟨hinv, hentries⟩ := initialize_entries hagree i hk
  have hoff := disabled_initialize s i hk
  have hempty : sensor.channels = ∅ := Std.ExtTreeMap.ext_getElem? (fun c => by
    rw [hentries c, Std.ExtTreeMap.getElem?_empty])
  have hchannel : sensor.history.sensor.mDirectChannelEnabled = false := by
    refine Bool.not_eq_true _ |>.mp (fun hon => ?_)
    obtain ⟨q, c, channel, hc, -⟩ := hinv.enabled.1 hon
    rw [show sensor.history.sensor.mDirectChannels[c]? = none from hentries c] at hc
    cases hc
  refine ⟨hoff, hchannel, fun hlast => ?_, hempty⟩
  obtain ⟨old, ops, hold, rfl⟩ := (effect_step s (.initializeHal i)).sensor hk
  have hset : Sensor.Settled (Run.run HalSensor.exec old ops).history :=
    Run.run_of_inv HalSensor.exec (fun sensor => Sensor.Settled sensor.history)
      (fun sensor op h => Sensor.settled_step sensor.history op h) ops (hsettled k old hold)
  rcases hset hlast with hon | hon
  · rw [hoff] at hon
    cases hon
  · rw [hchannel] at hon
    cases hon

/-! ## The wake lock -/

theorem initialize_wakeLock : (s.initializeHal i).1.wakeLock = match s.mReadWakeLockQueueRun, i.lastPass with
    | true, some (eventsHandled, u) => (s.wakeLock.updateWakeLock 0 eventsHandled u).1
    | _, _ => s.wakeLock := by
  unfold SensorsHalAidl.initializeHal SensorsHalAidl.joinWakeLockThread SensorsHalAidl.readWakeLockFMQ
  cases i.lastPass with
  | none => cases s.mReadWakeLockQueueRun <;> rfl
  | some pass =>
    dsimp only
    cases s.mReadWakeLockQueueRun <;> rfl

/-- **An empty count after an update.** -/
theorem counted_eq_zero {w : WakeLock} (hcount : w.mOutstandingWakeUpEvents.toNat < 2 ^ 31) (eventsHandled : Int32) :
    w.counted 0 eventsHandled = 0 ↔
      w.balance 0 eventsHandled.toInt ≤ 0 ∨ 2 ^ 31 ≤ w.balance 0 eventsHandled.toInt := by
  have hzero : w.counted 0 eventsHandled = 0 ↔ (w.counted 0 eventsHandled).toNat = 0 := UInt32.toNat_inj.symm
  have heq := WakeLock.counted_toNat w 0 eventsHandled
  have hle := Int32.le_toInt eventsHandled
  have hlt := Int32.toInt_lt eventsHandled
  rw [hzero]
  rw [show (0 : Int32).toInt = 0 from rfl] at heq
  unfold WakeLock.balance at heq ⊢
  rw [Int.bmod_eq_emod] at heq
  split at heq <;> omega

theorem emptied_iff {w : WakeLock} (hcount : w.mOutstandingWakeUpEvents.toNat < 2 ^ 31) (eventsHandled : Int32)
    (u : Uptime) :
    ((w.updateWakeLock 0 eventsHandled u).1.mOutstandingWakeUpEvents = 0 ∧
      (w.updateWakeLock 0 eventsHandled u).1.mHasWakeLock = false) ↔ Emptied w eventsHandled u := by
  have hzero : (w.updateWakeLock 0 eventsHandled u).1.mOutstandingWakeUpEvents = 0 ↔
      (w.TimedOut 0 u ∨ w.balance 0 eventsHandled.toInt ≤ 0 ∨ 2 ^ 31 ≤ w.balance 0 eventsHandled.toInt) := by
    rw [WakeLock.updateWakeLock_count, ← counted_eq_zero hcount]
    split
    · exact iff_of_true rfl (Or.inl ‹_›)
    · exact (or_iff_right ‹_›).symm
  unfold Emptied
  rw [hzero, and_congr_right_iff]
  intro hempty
  rw [WakeLock.updateWakeLock_held, hzero.2 hempty]
  cases w.mHasWakeLock <;> cases u.releaseOk <;> simp

/-! ## Reachable states -/

theorem count_lt (timeoutSeconds : UInt32) (descriptions : List SensorDescription) (ops : List HalOp) :
    (Run.run SensorsHalAidl.step (SensorsHalAidl.construct timeoutSeconds descriptions)
      ops).wakeLock.mOutstandingWakeUpEvents.toNat < 2 ^ 31 := by
  refine Run.run_of_inv SensorsHalAidl.step (fun s => s.wakeLock.mOutstandingWakeUpEvents.toNat < 2 ^ 31) ?_ ops
    (show (0 : UInt32).toNat < 2 ^ 31 by decide)
  refine fun s op => (effect_step s op).wakeLock (P := fun w => w.mOutstandingWakeUpEvents.toNat < 2 ^ 31) ?_
  intro w eventsWritten eventsHandled u _
  rw [WakeLock.updateWakeLock_count]
  split
  · decide
  · exact WakeLock.counted_lt w eventsWritten eventsHandled

theorem settled_run (timeoutSeconds : UInt32) (descriptions : List SensorDescription) (ops : List HalOp) (k : Int32)
    (sensor : HalSensor)
    (hk : (Run.run SensorsHalAidl.step (SensorsHalAidl.construct timeoutSeconds descriptions) ops).mSensors[k]? =
      some sensor) : Sensor.Settled sensor.history := by
  refine sensors_run (P := fun sensor => Sensor.Settled sensor.history)
    (fun sensor op h => Sensor.settled_step sensor.history op h) _ ops (fun k sensor hk => ?_) k sensor hk
  rw [(construct_sensors timeoutSeconds descriptions hk).2]
  intro hlast
  cases hlast

/-- **`initialize` starts a clean session** from a reachable state exactly when nothing is outstanding once the old
wake-lock thread is joined. -/
theorem initialized_iff (timeoutSeconds : UInt32) (descriptions : List SensorDescription) (ops : List HalOp)
    (i : InitializeInput) :
    let s := Run.run SensorsHalAidl.step (SensorsHalAidl.construct timeoutSeconds descriptions) ops
    CleanSession (s.step (.initializeHal i)) ↔ Drained s i := by
  intro s
  have hagree : Agree s := Run.run_of_inv _ Agree agree_step ops (agree_construct timeoutSeconds descriptions)
  have hcount : s.wakeLock.mOutstandingWakeUpEvents.toNat < 2 ^ 31 := count_lt timeoutSeconds descriptions ops
  have hclean : CleanSession (s.step (.initializeHal i)) ↔
      (s.initializeHal i).1.wakeLock.mOutstandingWakeUpEvents = 0 ∧
        (s.initializeHal i).1.wakeLock.mHasWakeLock = false := by
    constructor
    · exact fun h => ⟨h.outstanding, h.lock⟩
    · exact fun h => ⟨initialize_sensors s i hagree (settled_run timeoutSeconds descriptions ops),
        (initialize_tables s i).1, h.1, h.2⟩
  rw [hclean, initialize_wakeLock]
  unfold Drained
  split
  · exact emptied_iff hcount _ _
  · exact Iff.rfl

/-- A wake-up sensor is activated, and with that posts its additional-info report; then a new session is started. -/
theorem not_initialized_reportOutstanding :
    ¬ CleanSession ((Run.run SensorsHalAidl.step
      (SensorsHalAidl.construct 200
        [{ sensorHandle := 1, type := .accelerometer, flags := SensorFlagBits.wakeUp, delays := ⟨2500, 1000000⟩ }])
      [.initializeHal { quantumCount := 16 },
        .activate 1 true ⟨none, fun _ => 0, { now := 1000, nowCheck := 1000 }⟩]).step
        (.initializeHal { quantumCount := 16 })) := by
  intro h
  exact absurd h.lock (by decide)

end HalInit
end Aidl
end MemsHal
