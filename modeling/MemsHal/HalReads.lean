import MemsHal.HalChannels
import MemsHal.SensorHal
/-!
# HalReads — a pass of `Sensor::run`, from the sysfs files to the Event FMQ

A failed read is an empty vector.  A composite takes `[0]` of the vectors of both its dependencies, and
`SensorsHalAidl::postEvents` takes the `front()` of what it is given once there is an Event FMQ.  Nothing on the way
checks for the empty vector, so a pass is harmless exactly if its reads succeed, or it is one of a `SensorCore` that
posts nothing (`steps_harmless_iff`).
-/
namespace MemsHal

namespace Sensor

/-- A pass writes to the direct channels. -/
def directDue (s : Sensor) (currentTime : Int) : Bool :=
  s.mDirectChannelEnabled && decide (s.mNextDirectChannelNs ≤ currentTime)

/-- A pass posts events. -/
def sampleDue (s : Sensor) (currentTime : Int) : Bool := s.mIsEnabled && decide (s.mNextSampleTimeNs ≤ currentTime)

/-- The next times that a pass leaves. -/
def reschedule (s : Sensor) (nextTime : Int → Int → Int) (currentTime : Int) : Sensor :=
  { s with
    mNextDirectChannelNs :=
      if s.directDue currentTime then nextTime currentTime s.mDirectChannelRateNs else s.mNextDirectChannelNs
    mNextSampleTimeNs :=
      if s.sampleDue currentTime then nextTime currentTime s.mSamplingPeriodNs else s.mNextSampleTimeNs }

end Sensor

namespace Aidl

/-- What the floats of a pass come to: a number as a float, and `currentTime` and a period times
`POLL_TIME_REDUCTION_FACTOR` added as floats. -/
structure Rounding (K : Type*) where
  word : K → Float32Word
  nextTime : Int → Int → Int

def Rounding.values {K : Type*} (r : Rounding K) (values : MemsHal.SensorValues K) : SensorValues :=
  { timestamp := values.timestamp, data := values.data.map r.word }

namespace DirectChannelBase

/-- One event for one channel: the channel after it, and whether the event is written. -/
def sample (channel : DirectChannelBase) (event : Event) (samplingPeriodNs : Int) : DirectChannelBase × Bool :=
  if event.sensorHandle ∉ channel.sensorHandles then (channel, false)
  else
    let channel := { channel with rateNs := channel.rateNs.subscript event.sensorHandle 0 }
    let rateNs := channel.rateNs.getD event.sensorHandle 0
    if rateNs = 0 then (channel, false)
    else
      let sampleCount := channel.sampleCount.getD event.sensorHandle 0 + 1
      if samplingPeriodNs * sampleCount.toInt < rateNs.toInt then
        ({ channel with sampleCount := channel.sampleCount.insert event.sensorHandle sampleCount }, false)
      else ({ channel with sampleCount := channel.sampleCount.insert event.sensorHandle 0 }, true)

end DirectChannelBase

/-- The channel table and the events written to its channels. -/
structure DirectWrites where
  mDirectChannels : StdMap Int32 DirectChannelBase
  written : List (Int32 × Event)

/-- The inner loop of `writeToDirectBuffer`. -/
def DirectWrites.writeEvent (samplingPeriodNs : Int) (w : DirectWrites) (event : Event) : DirectWrites :=
  w.mDirectChannels.toList.foldl (fun w channel =>
    let (sampled, written) := channel.2.sample event samplingPeriodNs
    { mDirectChannels := w.mDirectChannels.insert channel.1 sampled
      written := w.written ++ if written then [(channel.1, event)] else [] }) w

/-- Nothing is written while another thread holds `mChannelMutex`. -/
def writeToDirectBuffer (mDirectChannels : StdMap Int32 DirectChannelBase) (events : List Event)
    (samplingPeriodNs : Int) (try_lock : Bool) : DirectWrites :=
  if try_lock then events.foldl (DirectWrites.writeEvent samplingPeriodNs) ⟨mDirectChannels, []⟩
  else ⟨mDirectChannels, []⟩

/-- The events that a call hands on. -/
def HalCall.events : HalCall → List Event
  | .posted events _ | .written events => events
  | _                                  => []

namespace SensorsHalAidl

/-- `postEvents` with the element it takes of `events`, which an empty vector does not have. -/
def postFront (s : SensorsHalAidl) (events : List Event) (wakeup : Bool) (u : Uptime) :
    Option (SensorsHalAidl × List HalCall) :=
  if s.mEventQueue.isSome ∧ events = [] then none else some (s.postEvents events wakeup u)

end SensorsHalAidl

namespace HalReads

open Run (Steps)

variable {K : Type*}

/-- The HAL with the objects behind its sensors. -/
structure Threads (K : Type*) where
  hal : SensorsHalAidl
  mSensor : Int32 → ISensorHal K

/-- What a pass meets: its reads, the clock, the lock of the direct channels. -/
structure PassInput (K : Type*) where
  reads : SensorId → RawRead K
  currentTime : Int
  try_lock : Bool := true
  uptime : Uptime

/-- What a pass leaves, and the events it handed on. -/
structure Passed (K : Type*) where
  threads : Threads K
  calls : List HalCall
  written : List (Int32 × Event)

/-- No event was handed on. -/
def Passed.Silent (passed : Passed K) : Prop := (∀ c ∈ passed.calls, c.events = []) ∧ passed.written = []

namespace Threads

/-- A pass once it has read. -/
def deliver (r : Rounding K) (w : Threads K) (sensorHandle : Int32) (sensor : HalSensor) (mSensor : ISensorHal K)
    (values : List (MemsHal.SensorValues K)) (i : PassInput K) : Option (Passed K) :=
  let s := sensor.history.sensor
  let read := sensor.readEvents w.hal.lastTemperature (values.map r.values)
  let direct :=
    if s.directDue i.currentTime then
      writeToDirectBuffer w.hal.mDirectChannels read.1 s.mDirectChannelRateNs i.try_lock
    else ⟨w.hal.mDirectChannels, []⟩
  let rescheduled :=
    { sensor with history := { sensor.history with sensor := s.reschedule r.nextTime i.currentTime } }
  let hal := { w.hal with
    mSensors := w.hal.mSensors.insert sensorHandle rescheduled
    mDirectChannels := direct.mDirectChannels
    lastTemperature := read.2 }
  let posted :=
    if s.sampleDue i.currentTime then hal.postFront read.1 sensor.isWakeUpSensor i.uptime else some (hal, [])
  posted.map fun (hal, calls) =>
    { threads := ⟨hal, Function.update w.mSensor sensorHandle mSensor⟩, calls := calls, written := direct.written }

variable [Field K] [LinearOrder K] (p : Platform K) (r : Rounding K)

/-- A pass of the loop of `run`, `none` if it takes an element of an empty vector. -/
def pass (w : Threads K) (sensorHandle : Int32) (i : PassInput K) : Option (Passed K) :=
  match w.hal.mSensors[sensorHandle]? with
  | none        => some ⟨w, [], []⟩
  | some sensor =>
    if sensor.history.sensor.InUse then
      match (w.mSensor sensorHandle).readSensorValues p i.reads with
      | none                   => none
      | some (mSensor, values) => w.deliver r sensorHandle sensor mSensor values i
    else some ⟨w, [], []⟩

end Threads

/-- The thread's part that `HalOp` has is a pass here. -/
def ofThread : HalOp → Bool
  | .sensorThread _ _ _ => true
  | _                   => false

/-- A call of the framework, a step of another thread, or a pass of a sensor's thread. -/
inductive Op (K : Type*)
  | call (op : HalOp) (other : ofThread op = false)
  | pass (sensorHandle : Int32) (i : PassInput K)

/-- The calls that reach one sensor's `mSensor`. -/
def callOn (sensorHandle : Int32) : HalCall → Option SensorCall
  | .sensor handle sensorCall => if handle = sensorHandle then some sensorCall else none
  | _                         => none

variable [Field K] [LinearOrder K] (p : Platform K) (r : Rounding K)

def Threads.step (w : Threads K) : Op K → Threads K
  | .call op _           =>
    let (hal, _, calls) := w.hal.exec op
    { hal := hal
      mSensor := fun sensorHandle =>
        (calls.filterMap (callOn sensorHandle)).foldl ISensorHal.call (w.mSensor sensorHandle) }
  | .pass sensorHandle i => ((w.pass p r sensorHandle i).map Passed.threads).getD w

/-- **A pass takes no element of an empty vector**, and none of its events comes from a failed read. -/
def Harmless (w : Threads K) : Op K → Prop
  | .call _ _            => True
  | .pass sensorHandle i => ∃ passed, w.pass p r sensorHandle i = some passed ∧
    (¬ (w.mSensor sensorHandle).ReadsSucceed i.reads → passed.Silent)

/-- The reads of a pass succeed, or it is one of a `SensorCore` that posts nothing: no post is due, or there is no
Event FMQ yet. -/
def Sound (w : Threads K) : Op K → Prop
  | .call _ _            => True
  | .pass sensorHandle i => ∀ sensor, w.hal.mSensors[sensorHandle]? = some sensor → sensor.history.sensor.InUse →
    (w.mSensor sensorHandle).ReadsSucceed i.reads ∨
    ((w.mSensor sensorHandle).isComposite = false ∧
      ¬ (sensor.history.sensor.sampleDue i.currentTime = true ∧ w.hal.mEventQueue.isSome = true))

/-! ## The way of an empty vector -/

omit [Field K] [LinearOrder K] in
theorem readEvents_eq_nil_iff (sensor : HalSensor) (lastTemperature : Float32Word) (values : List SensorValues) :
    (sensor.readEvents lastTemperature values).1 = [] ↔ values = [] := by
  cases values with
  | nil => exact iff_of_true rfl rfl
  | cons value values => exact iff_of_false (List.cons_ne_nil _ _) (List.cons_ne_nil _ _)

theorem writeToDirectBuffer_nil (mDirectChannels : StdMap Int32 DirectChannelBase) (samplingPeriodNs : Int)
    (try_lock : Bool) : writeToDirectBuffer mDirectChannels [] samplingPeriodNs try_lock = ⟨mDirectChannels, []⟩ := by
  unfold writeToDirectBuffer
  split <;> rfl

theorem postFront_eq_none_iff (s : SensorsHalAidl) (events : List Event) (wakeup : Bool) (u : Uptime) :
    s.postFront events wakeup u = none ↔ s.mEventQueue.isSome = true ∧ events = [] := by
  unfold SensorsHalAidl.postFront
  split
  · rename_i h
    exact iff_of_true rfl h
  · rename_i h
    exact iff_of_false (fun hn => by cases hn) h

/-- A post of no events that takes none hands none on. -/
theorem events_postFront_nil {s : SensorsHalAidl} {wakeup : Bool} {u : Uptime} {posted : SensorsHalAidl × List HalCall}
    (h : s.postFront [] wakeup u = some posted) : ∀ c ∈ posted.2, c.events = [] := by
  unfold SensorsHalAidl.postFront at h
  split at h
  · cases h
  · rename_i hqueue
    have hnone : s.mEventQueue = none := Option.not_isSome_iff_eq_none.1 fun hsome => hqueue ⟨hsome, rfl⟩
    unfold SensorsHalAidl.postEvents at h
    rw [hnone] at h
    obtain rfl := Option.some.inj h
    exact List.forall_mem_singleton.2 rfl

section Deliver

variable (w : Threads K) (sensorHandle : Int32) (sensor : HalSensor) (mSensor : ISensorHal K)
  (values : List (MemsHal.SensorValues K)) (i : PassInput K)

omit [Field K] [LinearOrder K] in
/-- **After its read a pass goes wrong** exactly if it posts an empty vector to an Event FMQ. -/
theorem deliver_eq_none_iff :
    w.deliver r sensorHandle sensor mSensor values i = none ↔
      (sensor.history.sensor.sampleDue i.currentTime = true ∧ w.hal.mEventQueue.isSome = true) ∧ values = [] := by
  unfold Threads.deliver
  dsimp only
  rw [Option.map_eq_none_iff]
  split
  · rename_i hdue
    rw [postFront_eq_none_iff, readEvents_eq_nil_iff, List.map_eq_nil_iff, and_iff_right hdue]
  · rename_i hdue
    exact iff_of_false (fun hn => by cases hn) fun h => hdue h.1.1

omit [Field K] [LinearOrder K] in
/-- An empty vector that does no harm hands no event on. -/
theorem silent_of_deliver {passed : Passed K} (h : w.deliver r sensorHandle sensor mSensor [] i = some passed) :
    passed.Silent := by
  unfold Threads.deliver at h
  dsimp only at h
  obtain ⟨posted, hposted, rfl⟩ := Option.map_eq_some_iff.1 h
  have hevents : (sensor.readEvents w.hal.lastTemperature ([].map r.values)).1 = [] := rfl
  rw [hevents] at hposted
  constructor
  · split at hposted
    · exact events_postFront_nil hposted
    · obtain rfl := Option.some.inj hposted
      exact List.forall_mem_nil _
  · dsimp only
    rw [hevents]
    split
    · rw [writeToDirectBuffer_nil]
    · rfl

end Deliver

section Pass

variable {w : Threads K} {sensorHandle : Int32} {i : PassInput K}

/-- A sensor that nothing needs does not read. -/
theorem pass_idle (h : ∀ sensor, w.hal.mSensors[sensorHandle]? = some sensor → ¬ sensor.history.sensor.InUse) :
    w.pass p r sensorHandle i = some ⟨w, [], []⟩ := by
  unfold Threads.pass
  cases hsensor : w.hal.mSensors[sensorHandle]? with
  | none => rfl
  | some sensor => exact if_neg (h sensor hsensor)

theorem pass_inUse {sensor : HalSensor} (hsensor : w.hal.mSensors[sensorHandle]? = some sensor)
    (huse : sensor.history.sensor.InUse) :
    w.pass p r sensorHandle i = ((w.mSensor sensorHandle).readSensorValues p i.reads).bind fun after =>
      w.deliver r sensorHandle sensor after.1 after.2 i := by
  unfold Threads.pass
  rw [hsensor]
  dsimp only
  rw [if_pos huse]
  cases (w.mSensor sensorHandle).readSensorValues p i.reads <;> rfl

omit [Field K] [LinearOrder K] in
theorem sound_iff {sensor : HalSensor} (hsensor : w.hal.mSensors[sensorHandle]? = some sensor)
    (huse : sensor.history.sensor.InUse) :
    Sound w (.pass sensorHandle i) ↔ (w.mSensor sensorHandle).ReadsSucceed i.reads ∨
      ((w.mSensor sensorHandle).isComposite = false ∧
        ¬ (sensor.history.sensor.sampleDue i.currentTime = true ∧ w.hal.mEventQueue.isSome = true)) := by
  refine ⟨fun h => h sensor hsensor huse, fun h sensor' hs _ => ?_⟩
  rw [hsensor] at hs
  obtain rfl := Option.some.inj hs
  exact h

/-- A pass whose reads succeed meets no empty vector. -/
theorem harmless_of_succeed {sensor : HalSensor} (hsensor : w.hal.mSensors[sensorHandle]? = some sensor)
    (huse : sensor.history.sensor.InUse) (hsucceed : (w.mSensor sensorHandle).ReadsSucceed i.reads) :
    Harmless p r w (.pass sensorHandle i) := by
  have hread : (w.mSensor sensorHandle).readSensorValues p i.reads ≠ none := fun hn =>
    ((ISensorHal.readSensorValues_eq_none_iff p _ _).1 hn).2 hsucceed
  obtain ⟨⟨mSensor, values⟩, hread⟩ := Option.ne_none_iff_exists'.1 hread
  have hsome : w.deliver r sensorHandle sensor mSensor values i ≠ none := fun hn =>
    (ISensorHal.values_eq_nil_iff p hread).1 ((deliver_eq_none_iff r w sensorHandle sensor mSensor values i).1 hn).2
      hsucceed
  obtain ⟨passed, hpassed⟩ := Option.ne_none_iff_exists'.1 hsome
  refine ⟨passed, ?_, fun hfail => absurd hsucceed hfail⟩
  rw [pass_inUse p r hsensor huse, hread]
  exact hpassed

/-- A pass whose reads fail is harmless only for a `SensorCore` that posts nothing. -/
theorem harmless_iff_of_fail {sensor : HalSensor} (hsensor : w.hal.mSensors[sensorHandle]? = some sensor)
    (huse : sensor.history.sensor.InUse) (hfail : ¬ (w.mSensor sensorHandle).ReadsSucceed i.reads) :
    Harmless p r w (.pass sensorHandle i) ↔ (w.mSensor sensorHandle).isComposite = false ∧
      ¬ (sensor.history.sensor.sampleDue i.currentTime = true ∧ w.hal.mEventQueue.isSome = true) := by
  have hpass := pass_inUse p r (i := i) hsensor huse
  cases hread : (w.mSensor sensorHandle).readSensorValues p i.reads with
  | none =>
    have hcomposite := ((ISensorHal.readSensorValues_eq_none_iff p _ _).1 hread).1
    rw [hread] at hpass
    refine iff_of_false ?_ fun hcore => ?_
    · rintro ⟨passed, hpassed, -⟩
      rw [hpass] at hpassed
      cases hpassed
    · rw [hcomposite] at hcore
      cases hcore.1
  | some after =>
    obtain ⟨mSensor, values⟩ := after
    have hcore : (w.mSensor sensorHandle).isComposite = false := by
      by_contra hcomposite
      rw [(ISensorHal.readSensorValues_eq_none_iff p _ _).2 ⟨Bool.not_eq_false _ |>.mp hcomposite, hfail⟩] at hread
      cases hread
    obtain rfl := (ISensorHal.values_eq_nil_iff p hread).2 hfail
    have hnone := (deliver_eq_none_iff r w sensorHandle sensor mSensor [] i).trans (and_iff_left rfl)
    rw [hread] at hpass
    rw [and_iff_right hcore, ← not_congr hnone]
    constructor
    · rintro ⟨passed, hpassed, -⟩ hn
      rw [hpass] at hpassed
      exact absurd (hn.symm.trans hpassed) (Option.some_ne_none passed).symm
    · intro hsome
      obtain ⟨passed, hpassed⟩ := Option.ne_none_iff_exists'.1 hsome
      exact ⟨passed, hpass.trans hpassed, fun _ => silent_of_deliver r w sensorHandle sensor mSensor i hpassed⟩

end Pass

/-- **One pass is harmless** exactly if it is sound. -/
theorem harmless_iff (w : Threads K) (op : Op K) : Harmless p r w op ↔ Sound w op := by
  cases op with
  | call op other => exact Iff.rfl
  | pass sensorHandle i =>
    by_cases hidle : ∀ sensor, w.hal.mSensors[sensorHandle]? = some sensor → ¬ sensor.history.sensor.InUse
    · exact iff_of_true ⟨_, pass_idle p r hidle, fun _ => ⟨List.forall_mem_nil _, rfl⟩⟩ fun sensor hsensor huse =>
        absurd huse (hidle sensor hsensor)
    · push Not at hidle
      obtain ⟨sensor, hsensor, huse⟩ := hidle
      rw [sound_iff hsensor huse]
      by_cases hsucceed : (w.mSensor sensorHandle).ReadsSucceed i.reads
      · exact iff_of_true (harmless_of_succeed p r hsensor huse hsucceed) (Or.inl hsucceed)
      · rw [or_iff_right hsucceed]
        exact harmless_iff_of_fail p r hsensor huse hsucceed

/-- **Failed reads along a run**: every pass is harmless exactly if every pass is sound, from any state of the HAL. -/
theorem steps_harmless_iff (w : Threads K) (ops : List (Op K)) :
    Steps (Threads.step p r) (Harmless p r) w ops ↔ Steps (Threads.step p r) Sound w ops :=
  Run.steps_iff_steps (I := fun _ => True) (fun _ _ _ _ => trivial) (fun w op _ => harmless_iff p r w op) ops trivial

/-- One sensor on the accelerometer of the SMI330, or on its gravity sensor. -/
def one (mSensor : ISensorHal ℝ) : Threads ℝ where
  hal := .construct 1 [{ sensorHandle := 1, type := .accelerometer, flags := 0, delays := ⟨5000, 20000⟩ }]
  mSensor _ := mSensor

/-- The framework starts the sensor, and its first read fails. -/
def firstReadFails : List (Op ℝ) :=
  [.call (.initializeHal { quantumCount := 16 }) rfl,
    .call (.activate 1 true { temperature := none, elapsed := fun _ => 0, uptime := ⟨0, 0, true, true⟩ }) rfl,
    .pass 1 { reads := fun _ => ⟨0, none⟩, currentTime := 0, uptime := ⟨0, 0, true, true⟩ }]

noncomputable def smi330GravitySensor : CompositeSensor ℝ where
  fusion := smi330Gravity
  accel := .smi330Acc
  gyro := .smi330Gyro
  accel_type := rfl
  gyro_type := rfl
  dependencies := rfl

def noRounding : Rounding ℝ := ⟨fun _ => 0, fun currentTime samplingPeriodNs => currentTime + samplingPeriodNs⟩

theorem not_steps_harmless_firstReadFails :
    (¬ Steps (Threads.step (.real id 0) noRounding) (Harmless (.real id 0) noRounding) (one (.sensorCore .smi330Acc))
      firstReadFails) ∧
    ¬ Steps (Threads.step (.real id 0) noRounding) (Harmless (.real id 0) noRounding)
      (one (.gravity smi330GravitySensor)) firstReadFails := by
  constructor
  · rintro ⟨-, -, hpass, -⟩
    have hsound := (harmless_iff _ _ _ _).1 hpass _ rfl (Or.inl rfl)
    rcases hsound with hsucceed | ⟨-, hquiet⟩
    · exact Bool.false_ne_true (hsucceed .smi330Acc List.mem_cons_self)
    · exact hquiet ⟨rfl, rfl⟩
  · rintro ⟨-, -, hpass, -⟩
    have hsound := (harmless_iff _ _ _ _).1 hpass _ rfl (Or.inl rfl)
    rcases hsound with hsucceed | ⟨hcore, -⟩
    · exact Bool.false_ne_true (hsucceed .smi330Acc List.mem_cons_self)
    · cases hcore

end HalReads

end Aidl
end MemsHal
