import MemsHal.AddSensors
import MemsHal.HalInit
import MemsHal.HalTables
import MemsHal.SensorsSubHal
/-!
# Shipped — the HAL with the sensors that it ships

None of the sensors is a wake-up sensor, and each supports direct reports at the rate `NORMAL`.  So the wake lock is left
alone but for a negative acknowledgement (`along_unlocked_iff`), and the hardware is never asked for a period outside of
what the sensor is listed with (`along_modest`).
-/
namespace MemsHal
namespace Aidl
namespace Shipped

open Run (run Along Steps)
open AddSensors (mem_addSensors)
open Sensor (channelsAfter channelDemands)

variable (shipping : Shipping) (timeoutSeconds : UInt32) (bus : IioBus)

/-! ## The wake lock -/

/-- What the wake-lock thread reads in a step. -/
def acknowledged (s : SensorsHalAidl) : HalOp → Option (Int32 × Uptime)
  | .readWakeLockFMQ eventsHandled u => if s.mReadWakeLockQueueRun then some (eventsHandled, u) else none
  | .initializeHal i                 => if s.mReadWakeLockQueueRun then i.lastPass else none
  | _                                => none

/-- No event counts as outstanding, and the lock is not held. -/
def Unlocked (s : SensorsHalAidl) : Prop :=
  s.wakeLock.mOutstandingWakeUpEvents = 0 ∧ s.wakeLock.mHasWakeLock = false

/-- The framework acknowledges no negative number of events, but for the one that is its own negation. -/
def Sensible (s : SensorsHalAidl) (op : HalOp) : Prop :=
  ∀ eventsHandled u, acknowledged s op = some (eventsHandled, u) → 0 ≤ eventsHandled ∨ eventsHandled = Int32.minValue

def NoWakeUp (s : SensorsHalAidl) : Prop :=
  ∀ (k : Int32) (sensor : HalSensor), s.mSensors[k]? = some sensor → sensor.isWakeUpSensor = false

theorem noWakeUp_step (s : SensorsHalAidl) (op : HalOp) (h : NoWakeUp s) : NoWakeUp (s.step op) := by
  intro k sensor' hk
  obtain ⟨sensor, ops, hsensor, rfl⟩ := (effect_step s op).sensor hk
  have hflags : (run HalSensor.exec sensor ops).isWakeUpSensor = sensor.isWakeUpSensor := by
    unfold HalSensor.isWakeUpSensor HalSensor.hasFlag
    rw [HalSensor.description_run]
  exact hflags.trans (h k sensor hsensor)

theorem postEvents_wakeLock (s : SensorsHalAidl) (events : List Event) (u : Uptime) :
    (s.postEvents events false u).1.wakeLock = s.wakeLock := by
  unfold SensorsHalAidl.postEvents
  split
  · rfl
  · split <;> rfl

/-- **Without wake-up sensors only the wake-lock thread updates the wake lock.** -/
theorem wakeLock_step (s : SensorsHalAidl) (op : HalOp) (h : NoWakeUp s) :
    (s.step op).wakeLock =
      (acknowledged s op).elim s.wakeLock fun pass => (s.wakeLock.updateWakeLock 0 pass.1 pass.2).1 := by
  cases op with
  | activate sensorHandle enabled r =>
    show (s.activate sensorHandle enabled r).1.wakeLock = s.wakeLock
    unfold SensorsHalAidl.activate SensorsHalAidl.sendAdditionalInfoReport
    split
    · rename_i sensor hsensor
      dsimp only
      split
      · dsimp only
        rw [h sensorHandle sensor hsensor, postEvents_wakeLock]
      · rfl
    · rfl
  | batch sensorHandle p l =>
    show (s.batch sensorHandle p l).1.wakeLock = s.wakeLock
    unfold SensorsHalAidl.batch
    dsimp only
    split <;> rfl
  | configDirectReport sensorHandle channelHandle rate =>
    show (s.configDirectReport sensorHandle channelHandle rate).1.wakeLock = s.wakeLock
    unfold SensorsHalAidl.configDirectReport
    dsimp only
    repeat' split
    all_goals rfl
  | flush sensorHandle u r =>
    show (s.flush sensorHandle u r).1.wakeLock = s.wakeLock
    unfold SensorsHalAidl.flush SensorsHalAidl.sendAdditionalInfoReport
    split
    · rename_i sensor hsensor
      rw [h sensorHandle sensor hsensor]
      split
      · dsimp only
        rw [postEvents_wakeLock, postEvents_wakeLock]
      · rfl
    · rfl
  | initializeHal i =>
    refine (HalInit.initialize_wakeLock s i).trans ?_
    cases hpass : i.lastPass <;> cases hrun : s.mReadWakeLockQueueRun <;> simp [acknowledged, hpass, hrun]
  | injectSensorData event =>
    show (s.injectSensorData event).1.wakeLock = s.wakeLock
    unfold SensorsHalAidl.injectSensorData
    split <;> rfl
  | registerDirectChannel mem ashmem =>
    show (s.registerDirectChannel mem ashmem).1.wakeLock = s.wakeLock
    unfold SensorsHalAidl.registerDirectChannel
    repeat' split
    all_goals rfl
  | setOperationMode mode => rfl
  | unregisterDirectChannel channelHandle =>
    show (s.unregisterDirectChannel channelHandle).1.wakeLock = s.wakeLock
    rw [unregister_eq]
  | sensorThread sensorHandle values u =>
    show (s.sensorThread sensorHandle values u).1.wakeLock = s.wakeLock
    unfold SensorsHalAidl.sensorThread
    split
    · rename_i sensor hsensor
      rw [h sensorHandle sensor hsensor]
      dsimp only
      split
      · exact postEvents_wakeLock _ _ u
      · rfl
    · rfl
  | readWakeLockFMQ eventsHandled u =>
    show (s.readWakeLockFMQ eventsHandled u).1.wakeLock = _
    unfold SensorsHalAidl.readWakeLockFMQ acknowledged
    cases s.mReadWakeLockQueueRun <;> rfl
  | frameworkReads count => rfl

/-- An update of a lock that is not held, with nothing outstanding. -/
theorem unlocked_update {w : WakeLock} (hcount : w.mOutstandingWakeUpEvents = 0) (hfree : w.mHasWakeLock = false)
    (eventsHandled : Int32) (u : Uptime) :
    ((w.updateWakeLock 0 eventsHandled u).1.mOutstandingWakeUpEvents = 0 ∧
      (w.updateWakeLock 0 eventsHandled u).1.mHasWakeLock = false) ↔
      0 ≤ eventsHandled ∨ eventsHandled = Int32.minValue := by
  have hnot : ¬ w.TimedOut 0 u := fun htimed => Bool.false_ne_true (hfree.symm.trans htimed.1)
  have hheld := WakeLock.updateWakeLock_held w 0 eventsHandled u
  rw [if_pos hfree] at hheld
  have hafter := WakeLock.updateWakeLock_count w 0 eventsHandled u
  rw [if_neg hnot] at hafter
  have hzero : (w.updateWakeLock 0 eventsHandled u).1.mOutstandingWakeUpEvents = 0 ↔
      0 ≤ eventsHandled ∨ eventsHandled = Int32.minValue := by
    rw [hafter, HalInit.counted_eq_zero (by rw [hcount]; decide), Int32.le_iff_toInt_le, ← Int32.toInt_inj]
    have hlower := Int32.le_toInt eventsHandled
    unfold WakeLock.balance
    rw [hcount, show (UInt32.toNat 0 : Int) = 0 from rfl, show (0 : Int32).toInt = 0 from rfl,
      show Int32.minValue.toInt = -2 ^ 31 from rfl]
    omega
  rw [← hzero]
  refine and_iff_left_of_imp fun hnone => ?_
  rw [hheld, hnone]
  rfl

theorem unlocked_step_iff (s : SensorsHalAidl) (op : HalOp) (h : NoWakeUp s) (hs : Unlocked s) :
    Unlocked (s.step op) ↔ Sensible s op := by
  unfold Unlocked Sensible
  rw [wakeLock_step s op h]
  cases acknowledged s op with
  | none => exact iff_of_true hs nofun
  | some pass =>
    refine (unlocked_update hs.1 hs.2 pass.1 pass.2).trans ?_
    constructor
    · rintro hsensible _ _ heq
      obtain rfl := Option.some.inj heq
      exact hsensible
    · exact fun hall => hall pass.1 pass.2 rfl

theorem noWakeUp_hal : NoWakeUp (shipping.hal timeoutSeconds bus) := by
  intro k sensor hk
  obtain ⟨_, _, -, hdescription⟩ := mem_addSensors shipping bus (MultiHal.SubHalSim.construct_mem _ hk).1
  have hflags : flagsOf .continuous &&& SensorFlagBits.wakeUp = 0 := by decide
  unfold HalSensor.isWakeUpSensor HalSensor.hasFlag
  rw [hdescription]
  exact decide_eq_false (not_not_intro hflags)

/-- **The shipped HAL never takes the wake lock**, nor counts an event as outstanding, exactly as long as the framework
acknowledges no negative number of events. -/
theorem along_unlocked_iff (ops : List HalOp) :
    Along SensorsHalAidl.step Unlocked (shipping.hal timeoutSeconds bus) ops ↔
      Steps SensorsHalAidl.step Sensible (shipping.hal timeoutSeconds bus) ops :=
  Run.along_iff_steps' noWakeUp_step unlocked_step_iff ops (noWakeUp_hal shipping timeoutSeconds bus) ⟨rfl, rfl⟩

/-! ## The periods -/

/-- What a sensor with these delays may come to: its period, and every period that it has asked the hardware for, lies
between them, and its channels have the period of the rate `NORMAL`. -/
structure Offered (delays : SensorInfo) (w : Sensor.History) : Prop where
  info : w.sensor.mSensorInfo = delays
  normal : ∀ q ∈ channelDemands w.sensor.mDirectChannels, q = 20000000
  period : delays.minDelayNs ≤ w.sensor.mSamplingPeriodNs ∧ w.sensor.mSamplingPeriodNs ≤ delays.maxDelayNs
  asked : ∀ p l, .batch p l ∈ w.calls → delays.minDelayNs ≤ p ∧ p ≤ delays.maxDelayNs

/-- A channel is added with the period of `NORMAL`, or with none. -/
def Normal : SensorOp → Prop
  | .addDirectChannel _ samplingPeriodNs => samplingPeriodNs = 0 ∨ samplingPeriodNs = 20000000
  | _                                    => True

theorem normal_channelsAfter {m : StdMap Int32 DirectChannel} (h : ∀ q ∈ channelDemands m, q = 20000000) {op : SensorOp}
    (hop : Normal op) : ∀ q ∈ channelDemands (channelsAfter m op), q = 20000000 := by
  rintro q ⟨handle, channel, hm, henabled, rfl⟩
  have hold : m[handle]? = some channel → channel.samplingPeriodNs = 20000000 :=
    fun hm => h _ ⟨handle, channel, hm, henabled, rfl⟩
  have hstopped : channel ≠ ⟨false, 0⟩ := by
    rintro rfl
    cases henabled
  cases op with
  | batch p l => exact hold hm
  | activate e => exact hold hm
  | addDirectChannel k samplingPeriodNs =>
    rw [channelsAfter, StdMap.getElem?_insert_eq] at hm
    split at hm
    · rcases hop with rfl | rfl
      · exact absurd (Option.some.inj hm).symm hstopped
      · obtain rfl := Option.some.inj hm
        rfl
    · exact hold hm
  | stopDirectChannel k =>
    rw [channelsAfter] at hm
    split at hm
    · rw [StdMap.getElem?_insert_eq] at hm
      split at hm
      · exact absurd (Option.some.inj hm).symm hstopped
      · exact hold hm
    · exact hold hm
  | removeDirectChannel k =>
    rw [channelsAfter, StdMap.getElem?_erase_eq] at hm
    split at hm
    · cases hm
    · exact hold hm

theorem clamp_mem {delays : SensorInfo} (hdelays : delays.minDelayNs ≤ delays.maxDelayNs) (p : Int) :
    delays.minDelayNs ≤ delays.clamp p ∧ delays.clamp p ≤ delays.maxDelayNs := by
  unfold SensorInfo.clamp
  split
  · exact ⟨le_rfl, hdelays⟩
  · split <;> omega

theorem maxDelayNs_lt (delays : SensorInfo) : delays.maxDelayNs < int64Max := by
  have h : delays.maxDelayUs.toInt ≤ 2 ^ 31 - 1 := Int32.toInt_le delays.maxDelayUs
  unfold SensorInfo.maxDelayNs int64Max
  omega

theorem offered_step {delays : SensorInfo} (hdelays : delays.minDelayNs ≤ 20000000 ∧ 20000000 ≤ delays.maxDelayNs)
    {w : Sensor.History} (h : Offered delays w) {op : SensorOp} (hop : Normal op) : Offered delays (w.step op) := by
  have hdemands := normal_channelsAfter h.normal hop
  rw [← Sensor.exec_directChannels] at hdemands
  have hperiod := h.period
  -- it remains to look at what is asked for now
  have hlast : (∀ p l, .batch p l ∈ (w.sensor.exec op).2 → delays.minDelayNs ≤ p ∧ p ≤ delays.maxDelayNs) →
      ∀ p l, .batch p l ∈ (w.step op).calls → delays.minDelayNs ≤ p ∧ p ≤ delays.maxDelayNs := fun hnew p l hm =>
    (List.mem_append.1 hm).elim (h.asked p l) (hnew p l)
  by_cases hchannel : op.OnChannel
  · have hsample := (Sensor.exec_channel_sample w.sensor hchannel).2.1
    refine ⟨?_, hdemands, ?_, hlast fun p l hm => ?_⟩
    · show (w.sensor.exec op).1.mSensorInfo = delays
      rw [Sensor.exec_channel _ _ hchannel, Sensor.updateDirectChannel_info]
      exact h.info
    · rw [← hsample] at hperiod
      exact hperiod
    · rw [Sensor.exec_directChannels] at hdemands
      rw [Sensor.exec_channel _ _ hchannel, Sensor.updateDirectChannel_calls] at hm
      rcases List.mem_append.1 hm with hbatch | hactivate
      · split at hbatch
        · rename_i hguard
          cases List.mem_singleton.1 hbatch
          rcases (Sensor.fastestChannel_isLeast (channelsAfter w.sensor.mDirectChannels op)).1 with hmax | hmem
          · have hlt := hguard.2
            have hle := h.period.2
            have hbound := maxDelayNs_lt delays
            dsimp only at hlt
            omega
          · exact hdemands _ hmem ▸ hdelays
        · cases hbatch
      · split at hactivate
        · cases List.mem_singleton.1 hactivate
        · cases hactivate
  · cases op with
    | batch samplingPeriodNs maxReportLatencyNs =>
      have hclamp := clamp_mem (hdelays.1.trans hdelays.2) samplingPeriodNs.toInt
      rw [← h.info] at hclamp
      refine ⟨h.info, hdemands, h.info ▸ hclamp, hlast fun p l hm => ?_⟩
      unfold Sensor.exec Sensor.batch at hm
      dsimp only at hm
      split at hm
      · cases List.mem_singleton.1 hm
        exact h.info ▸ hclamp
      · cases hm
    | activate enable =>
      refine ⟨?_, hdemands, ?_, hlast fun p l hm => ?_⟩
      · show (w.sensor.activate enable).1.mSensorInfo = delays
        unfold Sensor.activate
        split <;> exact h.info
      · have hsame : (w.sensor.activate enable).1.mSamplingPeriodNs = w.sensor.mSamplingPeriodNs := by
          unfold Sensor.activate
          split <;> rfl
        rw [← hsame] at hperiod
        exact hperiod
      · unfold Sensor.exec Sensor.activate at hm
        dsimp only at hm
        split at hm
        · cases enable <;> simp at hm
        · cases hm
    | _ => exact absurd trivial hchannel

theorem execEach_append (m : StdMap Int32 HalSensor) (ops later : List (Int32 × SensorOp)) :
    Sensors.execEach m (ops ++ later) = ((Sensors.execEach (Sensors.execEach m ops).1 later).1,
      (Sensors.execEach m ops).2 ++ (Sensors.execEach (Sensors.execEach m ops).1 later).2) := by
  induction ops generalizing m with
  | nil => rfl
  | cons head ops ih =>
    simp only [List.cons_append, Sensors.execEach, ih, List.append_assoc]

theorem postEvents_sensors (s : SensorsHalAidl) (events : List Event) (wakeup : Bool) (u : Uptime) :
    (s.postEvents events wakeup u).1.mSensors = s.mSensors := by
  obtain ⟨queue, wakeLock, heq⟩ := postEvents_eq s events wakeup u
  rw [heq]

def sensorCall? : HalCall → Option (Int32 × SensorCall)
  | .sensor handle call => some (handle, call)
  | _                   => none

/-- The calls on the sensors' hardware. -/
def sensorCalls (calls : List HalCall) : List (Int32 × SensorCall) := calls.filterMap sensorCall?

theorem sensorCalls_append (calls later : List HalCall) :
    sensorCalls (calls ++ later) = sensorCalls calls ++ sensorCalls later :=
  List.filterMap_append

theorem sensorCalls_updateWakeLock (w : WakeLock) (eventsWritten eventsHandled : Int32) (u : Uptime) :
    sensorCalls (w.updateWakeLock eventsWritten eventsHandled u).2 = [] := by
  unfold WakeLock.updateWakeLock
  dsimp only
  repeat' split
  all_goals rfl

theorem sensorCalls_postEvents (s : SensorsHalAidl) (events : List Event) (wakeup : Bool) (u : Uptime) :
    sensorCalls (s.postEvents events wakeup u).2 = [] := by
  unfold SensorsHalAidl.postEvents
  split
  · rfl
  · split
    · rfl
    · split
      · exact sensorCalls_updateWakeLock _ _ _ u
      · rfl

theorem sensorCalls_readWakeLockFMQ (s : SensorsHalAidl) (eventsHandled : Int32) (u : Uptime) :
    sensorCalls (s.readWakeLockFMQ eventsHandled u).2 = [] := by
  unfold SensorsHalAidl.readWakeLockFMQ
  split
  · exact sensorCalls_updateWakeLock _ _ _ u
  · rfl

theorem sensorCalls_initialize (s : SensorsHalAidl) (i : InitializeInput) :
    sensorCalls (s.initializeHal i).2.2 =
      sensorCalls ((Sensors.execEach s.mSensors (s.mSensors.keys.map (·, .activate false))).2 ++
        (Sensors.execEach (Sensors.execEach s.mSensors (s.mSensors.keys.map (·, .activate false))).1
          (SensorsHalAidl.removals s.mDirectChannels)).2) := by
  unfold SensorsHalAidl.initializeHal SensorsHalAidl.joinWakeLockThread
  dsimp only
  cases i.lastPass with
  | none => rw [List.append_nil]
  | some pass =>
    obtain ⟨wakeLock, heq⟩ := readWakeLockFMQ_eq (Aidl.allInactive s) pass.1 pass.2
    unfold Aidl.allInactive at heq
    dsimp only
    rw [sensorCalls_append, sensorCalls_append, sensorCalls_readWakeLockFMQ, List.append_nil, ← sensorCalls_append, heq]

/-- The operations that can switch a sensor on. -/
def Wakes : SensorOp → Prop
  | .activate enable      => enable = true
  | .addDirectChannel _ _ => True
  | _                     => False

/-- What a step does with the sensors: operations on some of them, of which only a single one can switch a sensor on,
and nothing else with their hardware. -/
structure Operates (s : SensorsHalAidl) (after : StdMap Int32 HalSensor) (calls : List HalCall)
    (ops : List (Int32 × SensorOp)) : Prop where
  sensors : after = (Sensors.execEach s.mSensors ops).1
  calls : sensorCalls calls = sensorCalls (Sensors.execEach s.mSensors ops).2
  single : ops.length ≤ 1 ∨ ∀ op ∈ ops, ¬ Wakes op.2

/-- The sensors change by operations on them, of which `configDirectReport` alone adds a channel. -/
def Acts (s : SensorsHalAidl) (after : StdMap Int32 HalSensor) (calls : List HalCall) : Prop :=
  ∃ ops, Operates s after calls ops ∧
    ∀ k c rateNs, (k, .addDirectChannel c rateNs) ∈ ops → ∃ rate channel, Configures s k c rate channel rateNs

section Acts

variable (s : SensorsHalAidl)

theorem acts_none {after : StdMap Int32 HalSensor} {calls : List HalCall} (hafter : after = s.mSensors)
    (hcalls : sensorCalls calls = []) : Acts s after calls :=
  ⟨[], ⟨hafter, hcalls, Or.inl (Nat.zero_le 1)⟩, nofun⟩

/-- One operation that adds no channel, and then posts. -/
theorem acts_one (handle : Int32) (sensorOp : SensorOp) (hne : ∀ c rateNs, sensorOp ≠ .addDirectChannel c rateNs)
    {after : StdMap Int32 HalSensor} {posts : List HalCall}
    (hafter : after = (Sensors.execAt s.mSensors handle sensorOp).1) (hposts : sensorCalls posts = []) :
    Acts s after ((Sensors.execAt s.mSensors handle sensorOp).2 ++ posts) := by
  refine ⟨[(handle, sensorOp)], ⟨?_, ?_, Or.inl le_rfl⟩, fun k c rateNs hm => ?_⟩
  · rw [hafter, Sensors.execAt_eq_execEach]
  · rw [sensorCalls_append, hposts, List.append_nil, Sensors.execAt_eq_execEach]
  · exact absurd (congrArg Prod.snd (List.mem_singleton.1 hm)).symm (hne c rateNs)

theorem acts_activate (sensorHandle : Int32) (enabled : Bool) (r : ReportInput) :
    Acts s (s.activate sensorHandle enabled r).1.mSensors (s.activate sensorHandle enabled r).2.2 := by
  unfold SensorsHalAidl.activate SensorsHalAidl.sendAdditionalInfoReport
  split
  · dsimp only
    split
    · exact acts_one s sensorHandle (.activate enabled) nofun (postEvents_sensors _ _ _ _)
        (sensorCalls_postEvents _ _ _ _)
    · rw [← List.append_nil (Sensors.execAt _ _ _).2]
      exact acts_one s sensorHandle (.activate enabled) nofun rfl rfl
  · exact acts_none s rfl rfl

theorem acts_batch (sensorHandle : Int32) (samplingPeriodNs maxReportLatencyNs : Int64) :
    Acts s (s.batch sensorHandle samplingPeriodNs maxReportLatencyNs).1.mSensors
      (s.batch sensorHandle samplingPeriodNs maxReportLatencyNs).2.2 := by
  unfold SensorsHalAidl.batch
  dsimp only
  split
  · rw [← List.append_nil (Sensors.execAt _ _ _).2]
    refine acts_one s sensorHandle _ ?_ rfl rfl
    exact nofun
  · exact acts_none s rfl rfl

theorem acts_configDirectReport (sensorHandle channelHandle : Int32) (rate : RateLevel) :
    Acts s (s.configDirectReport sensorHandle channelHandle rate).1.mSensors
      (s.configDirectReport sensorHandle channelHandle rate).2.2 := by
  unfold SensorsHalAidl.configDirectReport
  split
  · exact acts_none s rfl rfl
  · rename_i channel hchannel
    split
    · refine ⟨_, ⟨rfl, rfl, Or.inr fun op hm => ?_⟩, fun k c rateNs hm => ?_⟩
      · obtain ⟨_, -, rfl⟩ := List.mem_map.1 hm
        exact id
      · obtain ⟨_, -, heq⟩ := List.mem_map.1 hm
        cases heq
    · rename_i hall
      split
      · exact acts_none s rfl rfl
      · rename_i sensor hsensor
        split
        · exact acts_none s rfl rfl
        · rename_i hflag
          dsimp only
          split
          · exact acts_none s rfl rfl
          · rename_i rateNs hrate
            refine ⟨[(sensorHandle, .addDirectChannel channelHandle rateNs)], ⟨?_, ?_, Or.inl le_rfl⟩,
              fun k c rateNs' hm => ?_⟩
            · rw [Sensors.execAt_eq_execEach]
            · rw [Sensors.execAt_eq_execEach]
            · cases List.mem_singleton.1 hm
              exact ⟨rate, channel, hchannel, hall, sensor, hsensor, Bool.eq_true_of_not_eq_false hflag, hrate⟩

theorem acts_flush (sensorHandle : Int32) (u : Uptime) (r : ReportInput) :
    Acts s (s.flush sensorHandle u r).1.mSensors (s.flush sensorHandle u r).2.2 := by
  unfold SensorsHalAidl.flush SensorsHalAidl.sendAdditionalInfoReport
  split
  · split
    · refine acts_none s ?_ ?_
      · dsimp only
        rw [postEvents_sensors, postEvents_sensors]
      · dsimp only
        rw [sensorCalls_append, sensorCalls_postEvents, sensorCalls_postEvents]
        rfl
    · exact acts_none s rfl rfl
  · exact acts_none s rfl rfl

theorem acts_initializeHal (i : InitializeInput) :
    Acts s (s.initializeHal i).1.mSensors (s.initializeHal i).2.2 := by
  have htables := (initialize_tables s i).2
  refine ⟨s.mSensors.keys.map (·, .activate false) ++ SensorsHalAidl.removals s.mDirectChannels,
    ⟨?_, ?_, Or.inr fun op hm => ?_⟩, fun k c rateNs hm => ?_⟩
  · rw [execEach_append]
    exact htables
  · rw [execEach_append]
    exact sensorCalls_initialize s i
  · rcases List.mem_append.1 hm with hactivate | hremove
    · obtain ⟨_, -, rfl⟩ := List.mem_map.1 hactivate
      exact Bool.false_ne_true
    · obtain ⟨_, heq⟩ := isRemoval_removals s.mDirectChannels _ hremove
      rw [heq]
      exact id
  · rcases List.mem_append.1 hm with hactivate | hremove
    · obtain ⟨_, -, heq⟩ := List.mem_map.1 hactivate
      cases heq
    · obtain ⟨_, heq⟩ := isRemoval_removals s.mDirectChannels _ hremove
      cases heq

theorem acts_injectSensorData (event : Event) :
    Acts s (s.injectSensorData event).1.mSensors (s.injectSensorData event).2.2 := by
  unfold SensorsHalAidl.injectSensorData
  split <;> exact acts_none s rfl rfl

theorem acts_registerDirectChannel (mem : SharedMemInfo) (ashmem : Ashmem) :
    Acts s (s.registerDirectChannel mem ashmem).1.mSensors (s.registerDirectChannel mem ashmem).2.2 := by
  unfold SensorsHalAidl.registerDirectChannel
  split
  · exact acts_none s rfl rfl
  · split <;> exact acts_none s rfl rfl

theorem acts_unregisterDirectChannel (channelHandle : Int32) :
    Acts s (s.unregisterDirectChannel channelHandle).1.mSensors (s.unregisterDirectChannel channelHandle).2.2 := by
  refine ⟨((s.mDirectChannels[channelHandle]?).elim [] (·.sensorHandles)).map (·, .removeDirectChannel channelHandle),
    ⟨?_, ?_, Or.inr fun op hm => ?_⟩, fun k c rateNs hm => ?_⟩
  · exact congrArg SensorsHalAidl.mSensors (unregister_eq s channelHandle)
  · unfold SensorsHalAidl.unregisterDirectChannel
    cases s.mDirectChannels[channelHandle]? <;> rfl
  · obtain ⟨_, -, rfl⟩ := List.mem_map.1 hm
    exact id
  · obtain ⟨_, -, heq⟩ := List.mem_map.1 hm
    cases heq

theorem acts_sensorThread (sensorHandle : Int32) (values : List SensorValues) (u : Uptime) :
    Acts s (s.sensorThread sensorHandle values u).1.mSensors (s.sensorThread sensorHandle values u).2 := by
  unfold SensorsHalAidl.sensorThread
  split
  · dsimp only
    split
    · exact acts_none s (postEvents_sensors _ _ _ _) (sensorCalls_postEvents _ _ _ _)
    · exact acts_none s rfl rfl
  · exact acts_none s rfl rfl

theorem acts_readWakeLockFMQ (eventsHandled : Int32) (u : Uptime) :
    Acts s (s.readWakeLockFMQ eventsHandled u).1.mSensors (s.readWakeLockFMQ eventsHandled u).2 := by
  obtain ⟨wakeLock, heq⟩ := readWakeLockFMQ_eq s eventsHandled u
  refine acts_none s ?_ (sensorCalls_readWakeLockFMQ s eventsHandled u)
  rw [heq]

/-- **The operations on the sensors in a step.** -/
theorem sensors_step (op : HalOp) : Acts s (s.step op).mSensors (s.exec op).2.2 := by
  cases op with
  | activate sensorHandle enabled r => exact acts_activate s sensorHandle enabled r
  | batch sensorHandle p l => exact acts_batch s sensorHandle p l
  | configDirectReport sensorHandle channelHandle rate => exact acts_configDirectReport s sensorHandle channelHandle rate
  | flush sensorHandle u r => exact acts_flush s sensorHandle u r
  | initializeHal i => exact acts_initializeHal s i
  | injectSensorData event => exact acts_injectSensorData s event
  | registerDirectChannel mem ashmem => exact acts_registerDirectChannel s mem ashmem
  | setOperationMode mode => exact acts_none s rfl rfl
  | unregisterDirectChannel channelHandle => exact acts_unregisterDirectChannel s channelHandle
  | sensorThread sensorHandle values u => exact acts_sensorThread s sensorHandle values u
  | readWakeLockFMQ eventsHandled u => exact acts_readWakeLockFMQ s eventsHandled u
  | frameworkReads count => exact acts_none s rfl rfl

end Acts

/-- What every step keeps of the sensors. -/
def Fits (s : SensorsHalAidl) : Prop :=
  ∀ (k : Int32) (sensor : HalSensor), s.mSensors[k]? = some sensor →
    sensor.description ∈ shipping.addSensors bus ∧ sensor.description.sensorHandle = k ∧
      Offered sensor.description.delays sensor.history

/-- **No sensor has asked the hardware for a period outside of its delays**, and the fast rates of a direct channel are
refused. -/
structure Modest (s : SensorsHalAidl) : Prop where
  asked : ∀ (k : Int32) (sensor : HalSensor), s.mSensors[k]? = some sensor → ∀ p l, .batch p l ∈ sensor.history.calls →
    ∃ d ∈ shipping.addSensors bus, d.sensorHandle = k ∧ d.delays.minDelayNs ≤ p ∧ p ≤ d.delays.maxDelayNs
  refused : ∀ (k c : Int32) (rate : RateLevel), rate = .fast ∨ rate = .veryFast →
    s.configDirectReport k c rate = (s, .fromExceptionCode .illegalArgument, [])

/-- The period of `NORMAL` lies between the delays of every sensor. -/
theorem delays_normal (sensor : AvailableSensor) : (delaysOf sensor.getSensorData).minDelayNs ≤ 20000000 ∧
    20000000 ≤ (delaysOf sensor.getSensorData).maxDelayNs := by
  rcases sensor with id | id <;> cases id <;> decide

theorem maxRate_eq : (flagsOf .continuous &&& SensorFlagBits.maskDirectReport) >>> SensorFlagBits.shiftDirectReport =
    1 := by
  decide

variable {shipping bus}

theorem flags_of_mem {d : SensorDescription} (h : d ∈ shipping.addSensors bus) : d.flags = flagsOf .continuous := by
  obtain ⟨_, _, -, rfl⟩ := mem_addSensors shipping bus h
  rfl

theorem normal_of_configures {s : SensorsHalAidl} (h : Fits shipping bus s) {k c : Int32} {rate : RateLevel}
    {channel : DirectChannelBase} {rateNs : Int64} (hconf : Configures s k c rate channel rateNs) :
    rateNs = 0 ∨ rateNs = 20000000 := by
  obtain ⟨sensor, hsensor, -, hrate⟩ := hconf.supported
  rw [flags_of_mem (h k sensor hsensor).1, maxRate_eq] at hrate
  cases rate with
  | stop => exact Or.inl (Option.some.inj hrate).symm
  | normal => exact Or.inr (Option.some.inj hrate).symm
  | fast | veryFast | other _ => cases hrate

theorem fits_step (s : SensorsHalAidl) (op : HalOp) (h : Fits shipping bus s) : Fits shipping bus (s.step op) := by
  intro k sensor' hk
  obtain ⟨ops, ⟨hops, -, -⟩, hadd⟩ := sensors_step s op
  rw [hops] at hk
  obtain ⟨sensor, hsensor, rfl⟩ := Sensors.execEach_inv hk
  obtain ⟨hlisted, hhandle, hoffered⟩ := h k sensor hsensor
  rw [HalSensor.description_run]
  refine ⟨hlisted, hhandle, ?_⟩
  have hdelays : sensor.description.delays.minDelayNs ≤ 20000000 ∧ 20000000 ≤ sensor.description.delays.maxDelayNs := by
    obtain ⟨sensorHandle, available, -, heq⟩ := mem_addSensors shipping bus hlisted
    rw [heq]
    exact delays_normal available
  refine Run.run_of_forall (P := fun x : HalSensor => Offered sensor.description.delays x.history) (Q := Normal)
    (fun x op hop hx => offered_step hdelays hx hop) _ (fun op hm => ?_) hoffered
  cases op with
  | addDirectChannel c rateNs =>
    obtain ⟨rate, channel, hconf⟩ := hadd k c rateNs (Sensors.mem_opsOf.1 hm)
    exact normal_of_configures h hconf
  | _ => trivial

theorem modest_of_fits {s : SensorsHalAidl} (h : Fits shipping bus s) : Modest shipping bus s where
  asked k sensor hsensor p l hm := by
    obtain ⟨hlisted, hhandle, hoffered⟩ := h k sensor hsensor
    exact ⟨_, hlisted, hhandle, hoffered.asked p l hm⟩
  refused k c rate hrate := by
    have hstop : ¬ (k = -1 ∧ rate = .stop) := fun hall => by
      rw [hall.2] at hrate
      rcases hrate with hrate | hrate <;> cases hrate
    unfold SensorsHalAidl.configDirectReport
    cases s.mDirectChannels[c]? with
    | none => rfl
    | some channel =>
      dsimp only
      rw [if_neg hstop]
      cases hsensor : s.mSensors[k]? with
      | none => rfl
      | some sensor =>
        dsimp only
        rw [flags_of_mem (h k sensor hsensor).1, maxRate_eq]
        split
        · rfl
        · rcases hrate with rfl | rfl <;> rfl

theorem fits_hal (shipping : Shipping) (timeoutSeconds : UInt32) (bus : IioBus) :
    Fits shipping bus (shipping.hal timeoutSeconds bus) := by
  intro k sensor hk
  obtain ⟨hlisted, hhandle⟩ := MultiHal.SubHalSim.construct_mem _ hk
  refine ⟨hlisted, hhandle, ?_⟩
  obtain ⟨sensorHandle, available, -, heq⟩ := mem_addSensors shipping bus hlisted
  have hdelays := delays_normal available
  rw [show delaysOf available.getSensorData = sensor.description.delays from heq ▸ rfl] at hdelays
  rw [(construct_sensors timeoutSeconds _ hk).2]
  refine ⟨rfl, fun q hq => ?_, ⟨le_rfl, hdelays.1.trans hdelays.2⟩, nofun⟩
  obtain ⟨_, _, hm, -⟩ := hq
  rw [show (HalSensor.fresh sensor.description).history.sensor.mDirectChannels = ∅ from rfl,
    Std.ExtTreeMap.getElem?_empty] at hm
  cases hm

/-- **The shipped HAL asks the hardware for no period outside of what it lists**, whatever the framework asks for: a
period is clamped, and of the rates of a direct channel only `NORMAL` is granted, which every sensor offers. -/
theorem along_modest (shipping : Shipping) (timeoutSeconds : UInt32) (bus : IioBus) (ops : List HalOp) :
    Along SensorsHalAidl.step (Modest shipping bus) (shipping.hal timeoutSeconds bus) ops :=
  (Run.along_of_inv fits_step ops (fits_hal shipping timeoutSeconds bus)).imp fun _ => modest_of_fits

end Shipped
end Aidl
end MemsHal
