import MemsHal.HalInit
import MemsHal.Lockstep
import MemsHal.SensorsHidl
/-!
# HidlMirrors — the HIDL HAL does what the AIDL HAL does

The two stand-alone HALs are given the same calls.  Their sensors, tables and wake locks are then the same, and the
Event FMQs hold the same events, each in the form of its interface (`Renders`).  The one difference is a post that
comes before the first `initialize`: the AIDL HAL drops it and the HIDL HAL crashes.  `mirrors_runs` is the result: of
the runs whose initializations create their event flags, the HIDL HAL survives exactly those in which no sensor is
enabled before the first `initialize`, and it mirrors the AIDL HAL on these.
-/
namespace MemsHal
namespace Hidl

open Aidl (Event Float32Word HalSensor SensorDescription SharedMemInfo Ashmem HalCall HalOp WakeLock Uptime
  ReportInput InitializeInput SensorsHalAidl ScopedAStatus)
open ConvertUtils (HidlEvent)
open MultiHal (ISensorsSubHalBase Result RateLevel)

/-! ## The relation -/

/-- The same call, with whatever the two read from outside.  A read gives three values or fails; a call that injects
additional info is answered differently and changes nothing in either HAL.  An initialization creates its event flag:
after one that does not, the next write crashes either HAL. -/
inductive Corresponds : Op → HalOp → Prop
  | activate (sensorHandle : Int32) (enabled : Bool) (fresh : ByteMemory) (r : ReportInput) :
    Corresponds (.activate sensorHandle enabled fresh r) (.activate sensorHandle enabled r)
  | batch (sensorHandle : Int32) (samplingPeriodNs maxReportLatencyNs : Int64) :
    Corresponds (.batch sensorHandle samplingPeriodNs maxReportLatencyNs)
      (.batch sensorHandle samplingPeriodNs maxReportLatencyNs)
  | configDirectReport (sensorHandle channelHandle : Int32) (rate : RateLevel) :
    Corresponds (.configDirectReport sensorHandle channelHandle rate)
      (.configDirectReport sensorHandle channelHandle rate.toAidl)
  | flush (sensorHandle : Int32) (ev : HidlEvent) (fresh : ByteMemory) (u : Uptime) (r : ReportInput) :
    Corresponds (.flush sensorHandle ev fresh u r) (.flush sensorHandle u r)
  | initializeBase (quantumCount : Nat) (callback : Bool) (lastPass : Option (UInt32 × Uptime)) :
    Corresponds (.initializeBase quantumCount true callback lastPass)
      (.initializeHal ⟨quantumCount, true, callback, lastPass.map fun pass => (pass.1.toInt32, pass.2)⟩)
  | injectSensorData (event : Event) (hne : event.sensorType ≠ .additionalInfo) :
    Corresponds (.injectSensorData event.sensorHandle) (.injectSensorData event)
  | registerDirectChannel (mem : SharedMemInfo) (ashmem : Ashmem) :
    Corresponds (.registerDirectChannel mem ⟨true, ashmem⟩) (.registerDirectChannel mem ashmem)
  | setOperationMode (mode : Aidl.OperationMode) : Corresponds (.setOperationMode mode) (.setOperationMode mode)
  | unregisterDirectChannel (channelHandle : Int32) :
    Corresponds (.unregisterDirectChannel channelHandle) (.unregisterDirectChannel channelHandle)
  | sensorThread (sensorHandle : Int32) (fresh : ByteMemory) (values : List Aidl.SensorValues) (u : Uptime)
    (hlen : ∀ value ∈ values, value.data.length = 3) :
    Corresponds (.sensorThread sensorHandle fresh values u) (.sensorThread sensorHandle values u)
  | readWakeLockFMQ (eventsHandled : UInt32) (u : Uptime) :
    Corresponds (.readWakeLockFMQ eventsHandled u) (.readWakeLockFMQ eventsHandled.toInt32 u)
  | frameworkReads (count : Nat) : Corresponds (.frameworkReads count) (.frameworkReads count)

/-- The answers of the two interfaces to one outcome. -/
inductive SameAnswer : Result → ScopedAStatus → Prop
  | table {result : Result} {status : ScopedAStatus} (h : MultiHal.SameAnswer result status) : SameAnswer result status
  | unsupported : SameAnswer .invalidOperation (.fromExceptionCode .unsupportedOperation)
  | refused : SameAnswer .invalidOperation (.fromServiceSpecificError .errorBadValue)

/-- The same call to the outside. -/
inductive SameCall : Call → HalCall → Prop
  | posted {events : List HidlEvent} {events' : List Event} (h : List.Forall₂ Renders events events') (wakeup : Bool) :
    SameCall (.posted events wakeup) (.posted events' wakeup)
  | written {events : List HidlEvent} {events' : List Event} (h : List.Forall₂ Renders events events') :
    SameCall (.written events) (.written events')
  | wakeLock (call : HalCall) : SameCall (.wakeLock call) call

/-- A call that is not one on a sensor, which keeps those itself. -/
def outside : HalCall → Bool
  | .sensor _ _ => false
  | _           => true

/-- The same answer and the same calls. -/
structure Alike (a : Option Result × List Call) (b : Option ScopedAStatus × List HalCall) : Prop where
  answer : Option.Rel SameAnswer a.1 b.1
  calls : List.Forall₂ SameCall a.2 (b.2.filter outside)

inductive SameQueue : Option EventQueue → Option Aidl.EventQueue → Prop
  | none : SameQueue none none
  | some (quantumCount : Nat) {unread : List HidlEvent} {unread' : List Event}
    (h : List.Forall₂ Renders unread unread') : SameQueue (some ⟨quantumCount, unread⟩) (some ⟨quantumCount, unread'⟩)

/-- **The HIDL HAL mirrors the AIDL HAL.** -/
structure Mirrors (s : Sensors) (t : SensorsHalAidl) : Prop where
  base : s.toISensorsSubHalBase = .ofAidl t
  queue : SameQueue s.mEventQueue t.mEventQueue
  wakeLock : s.wakeLock = t.wakeLock
  running : s.mReadWakeLockQueueRun = t.mReadWakeLockQueueRun
  lastTemperature : s.lastTemperature = t.lastTemperature

/-- A sensor of a type that `SensorList` has, whose placement can be reported. -/
structure Supported (sensor : HalSensor) : Prop where
  type : BoschType sensor.description.type
  placeable : Placeable sensor

/-- What the AIDL HAL keeps while the HIDL HAL survives. -/
structure Inv (t : SensorsHalAidl) : Prop where
  supported : ∀ (k : Int32) (sensor : HalSensor), t.mSensors[k]? = some sensor → Supported sensor
  quiet : t.mEventQueue = none → ∀ (k : Int32) (sensor : HalSensor), t.mSensors[k]? = some sensor →
    sensor.history.sensor.mIsEnabled = false

/-- A step does not enable a sensor without an Event FMQ. -/
def Ready (t : SensorsHalAidl) (op : HalOp) : Prop :=
  t.mEventQueue = none → ∀ sensorHandle r, op = .activate sensorHandle true r → t.mSensors[sensorHandle]? = none

/-! ## Posts -/

section Posts

variable {s : Sensors} {t : SensorsHalAidl}

theorem Mirrors.mSensors (h : Mirrors s t) : s.mSensors = t.mSensors := congrArg (·.mSensors) h.base

theorem sameCall_wakeLock : ∀ (calls : List HalCall), (∀ call ∈ calls, outside call = true) →
    List.Forall₂ SameCall (calls.map .wakeLock) (calls.filter outside)
  | [], _ => .nil
  | call :: calls, hout => by
    obtain ⟨hcall, hcalls⟩ := List.forall_mem_cons.1 hout
    rw [List.filter_cons_of_pos hcall]
    exact .cons (.wakeLock call) (sameCall_wakeLock calls hcalls)

theorem outside_updateWakeLock (w : WakeLock) (eventsWritten eventsHandled : Int32) (u : Uptime) :
    ∀ call ∈ (w.updateWakeLock eventsWritten eventsHandled u).2, outside call = true := by
  have hone : ∀ {c : Prop} [Decidable c] {call call' : HalCall}, call ∈ (if c then [call'] else []) → call = call' := by
    intro c _ call call' hm
    by_cases hc : c
    · rw [if_pos hc] at hm
      exact List.mem_singleton.1 hm
    · rw [if_neg hc] at hm
      cases hm
  intro call hm
  unfold WakeLock.updateWakeLock at hm
  dsimp only at hm
  by_cases hheld : w.mHasWakeLock = false
  · rw [if_pos hheld] at hm
    rw [hone hm]
    rfl
  · rw [if_neg hheld] at hm
    rw [hone hm]
    rfl

theorem sim_updateWakeLock (h : Mirrors s t) (eventsWritten eventsHandled : Int32) (u : Uptime) :
    Mirrors (s.updateWakeLock eventsWritten eventsHandled u).1
      { t with wakeLock := (t.wakeLock.updateWakeLock eventsWritten eventsHandled u).1 } ∧
    List.Forall₂ SameCall (s.updateWakeLock eventsWritten eventsHandled u).2
      ((t.wakeLock.updateWakeLock eventsWritten eventsHandled u).2.filter outside) := by
  unfold Sensors.updateWakeLock
  dsimp only
  rw [h.wakeLock]
  exact ⟨⟨h.base, h.queue, rfl, h.running, h.lastTemperature⟩,
    sameCall_wakeLock _ (outside_updateWakeLock _ _ _ _)⟩

/-- **A post reaches both Event FMQs or neither.** -/
theorem sim_postEvents (h : Mirrors s t) (hqueue : t.mEventQueue ≠ none) {events : List HidlEvent}
    {events' : List Event} (hevents : List.Forall₂ Renders events events') (wakeup : Bool) (u : Uptime) :
    ∃ s' calls, s.postEvents events wakeup u = some (s', calls) ∧ Mirrors s' (t.postEvents events' wakeup u).1 ∧
      List.Forall₂ SameCall calls ((t.postEvents events' wakeup u).2.filter outside) := by
  have hlen := hevents.length_eq
  have hsame := h.queue
  unfold Sensors.postEvents SensorsHalAidl.postEvents
  generalize hq : s.mEventQueue = queue, hq' : t.mEventQueue = queue' at hsame
  cases hsame with
  | none => exact absurd hq' hqueue
  | @some quantumCount unread unread' hunread =>
    dsimp only
    unfold EventQueue.write Aidl.EventQueue.write
    dsimp only
    rw [← hunread.length_eq, ← hlen]
    by_cases hfits : unread.length + events.length ≤ quantumCount
    · rw [if_pos hfits, if_pos hfits]
      dsimp only
      have hwritten : Mirrors { s with mEventQueue := some ⟨quantumCount, unread ++ events⟩ }
          { t with mEventQueue := some ⟨quantumCount, unread' ++ events'⟩ } :=
        ⟨h.base, .some quantumCount (List.rel_append hunread hevents), h.wakeLock, h.running, h.lastTemperature⟩
      cases wakeup with
      | false => exact ⟨_, _, rfl, hwritten, .cons (.posted hevents false) (.cons (.written hevents) .nil)⟩
      | true =>
        obtain ⟨hmirrors, hcalls⟩ := sim_updateWakeLock hwritten (Int32.ofNat events.length) 0 u
        refine ⟨_, _, rfl, hmirrors, ?_⟩
        exact .cons (.posted hevents true) (.cons (.written hevents) hcalls)
    · rw [if_neg hfits, if_neg hfits]
      exact ⟨_, _, rfl, h, .cons (.posted hevents wakeup) .nil⟩

theorem sim_sendAdditionalInfoReport (h : Mirrors s t) (hqueue : t.mEventQueue ≠ none) {sensor : HalSensor}
    (hplace : Placeable sensor) (fresh : ByteMemory) (r : ReportInput) :
    ∃ s' calls, s.sendAdditionalInfoReport sensor fresh r = some (s', calls) ∧
      Mirrors s' (t.sendAdditionalInfoReport sensor r).1 ∧
      List.Forall₂ SameCall calls ((t.sendAdditionalInfoReport sensor r).2.filter outside) :=
  sim_postEvents h hqueue (renders_additionalInfoEvents fresh hplace r.temperature r.elapsed) sensor.isWakeUpSensor
    r.uptime

theorem eventQueue_postEvents (t : SensorsHalAidl) (events : List Event) (wakeup : Bool) (u : Uptime) :
    (t.postEvents events wakeup u).1.mEventQueue = none ↔ t.mEventQueue = none := by
  unfold SensorsHalAidl.postEvents
  cases hq : t.mEventQueue with
  | none => exact iff_of_true hq rfl
  | some queue =>
    dsimp only
    cases queue.write events with
    | none => exact iff_of_false (fun h => by rw [hq] at h; cases h) nofun
    | some queue => cases wakeup <;> exact iff_of_false nofun nofun

end Posts

/-! ## The calls of the framework -/

section Calls

variable {s : Sensors} {t : SensorsHalAidl}

theorem filter_execAt (m : StdMap Int32 HalSensor) (handle : Int32) (op : SensorOp) :
    (Aidl.Sensors.execAt m handle op).2.filter outside = [] := by
  unfold Aidl.Sensors.execAt
  cases m[handle]? with
  | none => rfl
  | some sensor =>
    refine List.filter_eq_nil_iff.2 fun call hm => ?_
    obtain ⟨_, -, rfl⟩ := List.mem_map.1 hm
    exact Bool.false_ne_true

theorem filter_execEach : ∀ (ops : List (Int32 × SensorOp)) (m : StdMap Int32 HalSensor),
    (Aidl.Sensors.execEach m ops).2.filter outside = []
  | [], _ => rfl
  | (handle, op) :: ops, m => by
    unfold Aidl.Sensors.execEach
    dsimp only
    rw [List.filter_append, filter_execAt, filter_execEach ops]
    rfl

/-- Where the sensors and the tables change alike, the HALs still mirror each other. -/
theorem Mirrors.withBase (h : Mirrors s t) {b : ISensorsSubHalBase} {t' : SensorsHalAidl}
    (hbase : b = .ofAidl t') (hqueue : t'.mEventQueue = t.mEventQueue) (hwakeLock : t'.wakeLock = t.wakeLock)
    (hrunning : t'.mReadWakeLockQueueRun = t.mReadWakeLockQueueRun) (hlast : t'.lastTemperature = t.lastTemperature) :
    Mirrors (s.withBase b) t' :=
  ⟨hbase, hqueue ▸ h.queue, hwakeLock ▸ h.wakeLock, hrunning ▸ h.running, hlast ▸ h.lastTemperature⟩

theorem reports_iff (sensor : Sensor) (enabled : Bool) :
    .sendAdditionalInfoReport ∈ (sensor.activate enabled).2 ↔ enabled = true ∧ sensor.mIsEnabled = false := by
  unfold Sensor.activate
  cases enabled <;> cases sensor.mIsEnabled <;> simp

theorem sim_activate (h : Mirrors s t) (hI : Inv t) (sensorHandle : Int32) (enabled : Bool) (fresh : ByteMemory)
    (r : ReportInput) (hready : Ready t (.activate sensorHandle enabled r)) :
    ∃ s' result calls, s.activate sensorHandle enabled fresh r = some (s', result, calls) ∧
      Mirrors s' (t.activate sensorHandle enabled r).1 ∧ SameAnswer result (t.activate sensorHandle enabled r).2.1 ∧
      List.Forall₂ SameCall calls ((t.activate sensorHandle enabled r).2.2.filter outside) := by
  unfold Sensors.activate SensorsHalAidl.activate
  rw [h.mSensors]
  cases hsensor : t.mSensors[sensorHandle]? with
  | none => exact ⟨_, _, _, rfl, h, .table .illegalArgument, .nil⟩
  | some sensor =>
    have hbase : Mirrors
        (s.withBase { s.toISensorsSubHalBase with
          mSensors := (Aidl.Sensors.execAt t.mSensors sensorHandle (.activate enabled)).1 })
        { t with mSensors := (Aidl.Sensors.execAt t.mSensors sensorHandle (.activate enabled)).1 } :=
      h.withBase (by rw [h.base]; rfl) rfl rfl rfl rfl
    dsimp only
    by_cases hreport : .sendAdditionalInfoReport ∈ (sensor.history.sensor.activate enabled).2
    · rw [if_pos hreport, if_pos hreport]
      obtain ⟨rfl, -⟩ := (reports_iff _ _).1 hreport
      have hqueue : t.mEventQueue ≠ none := fun hnone => by
        have hgone := hready hnone sensorHandle r rfl
        rw [hsensor] at hgone
        cases hgone
      obtain ⟨s', calls, hsend, hmirrors, hcalls⟩ := sim_sendAdditionalInfoReport hbase hqueue
        (hI.supported sensorHandle sensor hsensor).placeable fresh r
      refine ⟨s', .ok, calls, ?_, hmirrors, .table .ok, ?_⟩
      · rw [hsend]
        rfl
      · dsimp only
        rw [List.filter_append, filter_execAt]
        exact hcalls
    · rw [if_neg hreport, if_neg hreport]
      refine ⟨_, _, _, rfl, hbase, .table .ok, ?_⟩
      dsimp only
      rw [filter_execAt]
      exact .nil

theorem sim_flush (h : Mirrors s t) (hI : Inv t) (sensorHandle : Int32) (ev : HidlEvent) (fresh : ByteMemory)
    (u : Uptime) (r : ReportInput) :
    ∃ s' result calls, s.flush sensorHandle ev fresh u r = some (s', result, calls) ∧
      Mirrors s' (t.flush sensorHandle u r).1 ∧ SameAnswer result (t.flush sensorHandle u r).2.1 ∧
      List.Forall₂ SameCall calls ((t.flush sensorHandle u r).2.2.filter outside) := by
  unfold Sensors.flush SensorsHalAidl.flush
  rw [h.mSensors]
  cases hsensor : t.mSensors[sensorHandle]? with
  | none => exact ⟨_, _, _, rfl, h, .table .illegalArgument, .nil⟩
  | some sensor =>
    dsimp only
    unfold HalSensor.flushStatus
    by_cases hoff : sensor.history.sensor.mIsEnabled = false ∨ sensor.hasFlag Aidl.SensorFlagBits.oneShotMode = true
    · rw [if_pos hoff, if_pos hoff]
      exact ⟨_, _, _, rfl, h, .table .errorBadValue, .nil⟩
    · rw [if_neg hoff, if_neg hoff, if_pos (show ScopedAStatus.ok.isOk = true from rfl)]
      have hqueue : t.mEventQueue ≠ none := fun hnone => hoff (Or.inl (hI.quiet hnone sensorHandle sensor hsensor))
      obtain ⟨s₁, calls, hpost, hmirrors, hcalls⟩ := sim_postEvents h hqueue
        (.cons (renders_flushComplete sensor ev) .nil) sensor.isWakeUpSensor u
      have hqueue₁ : (t.postEvents [sensor.flushComplete] sensor.isWakeUpSensor u).1.mEventQueue ≠ none :=
        mt (eventQueue_postEvents t _ _ _).1 hqueue
      obtain ⟨s₂, reports, hsend, hmirrors₂, hreports⟩ := sim_sendAdditionalInfoReport hmirrors hqueue₁
        (hI.supported sensorHandle sensor hsensor).placeable fresh r
      refine ⟨s₂, .ok, calls ++ reports, ?_, hmirrors₂, .table .ok, ?_⟩
      · rw [hpost]
        dsimp only
        rw [hsend]
        rfl
      · dsimp only
        rw [List.filter_append]
        exact List.rel_append hcalls hreports

theorem sim_sensorThread (h : Mirrors s t) (hI : Inv t) (sensorHandle : Int32) (fresh : ByteMemory)
    {values : List Aidl.SensorValues} (hlen : ∀ value ∈ values, value.data.length = 3) (u : Uptime) :
    ∃ s' calls, s.sensorThread sensorHandle fresh values u = some (s', calls) ∧
      Mirrors s' (t.sensorThread sensorHandle values u).1 ∧
      List.Forall₂ SameCall calls ((t.sensorThread sensorHandle values u).2.filter outside) := by
  unfold Sensors.sensorThread SensorsHalAidl.sensorThread
  rw [h.mSensors]
  cases hsensor : t.mSensors[sensorHandle]? with
  | none => exact ⟨_, _, rfl, h, .nil⟩
  | some sensor =>
    obtain ⟨hevents, hlast⟩ := renders_readEvents fresh (hI.supported sensorHandle sensor hsensor).type values
      t.lastTemperature hlen
    dsimp only
    rw [h.lastTemperature, hlast]
    have hread : Mirrors { s with lastTemperature := (sensor.readEvents t.lastTemperature values).2 }
        { t with lastTemperature := (sensor.readEvents t.lastTemperature values).2 } :=
      ⟨h.base, h.queue, h.wakeLock, h.running, rfl⟩
    by_cases hon : sensor.history.sensor.mIsEnabled = true
    · rw [if_pos hon, if_pos hon]
      have hqueue : t.mEventQueue ≠ none := fun hnone => by
        have hoff := hI.quiet hnone sensorHandle sensor hsensor
        rw [hon] at hoff
        cases hoff
      exact sim_postEvents hread hqueue hevents sensor.isWakeUpSensor u
    · rw [if_neg hon, if_neg hon]
      exact ⟨_, _, rfl, hread, .nil⟩

theorem sim_readWakeLockFMQ (h : Mirrors s t) (eventsHandled : UInt32) (u : Uptime) :
    Mirrors (s.readWakeLockFMQ eventsHandled u).1 (t.readWakeLockFMQ eventsHandled.toInt32 u).1 ∧
      List.Forall₂ SameCall (s.readWakeLockFMQ eventsHandled u).2
        ((t.readWakeLockFMQ eventsHandled.toInt32 u).2.filter outside) := by
  unfold Sensors.readWakeLockFMQ SensorsHalAidl.readWakeLockFMQ
  rw [h.running]
  by_cases hrun : t.mReadWakeLockQueueRun = true
  · rw [if_pos hrun, if_pos hrun]
    exact sim_updateWakeLock h 0 eventsHandled.toInt32 u
  · rw [if_neg hrun, if_neg hrun]
    exact ⟨h, .nil⟩

theorem sim_joinWakeLockThread (h : Mirrors s t) (lastPass : Option (UInt32 × Uptime)) :
    Mirrors (s.joinWakeLockThread lastPass).1
        (t.joinWakeLockThread (lastPass.map fun pass => (pass.1.toInt32, pass.2))).1 ∧
      List.Forall₂ SameCall (s.joinWakeLockThread lastPass).2
        ((t.joinWakeLockThread (lastPass.map fun pass => (pass.1.toInt32, pass.2))).2.filter outside) := by
  cases lastPass with
  | none => exact ⟨h, .nil⟩
  | some pass => exact sim_readWakeLockFMQ h pass.1 pass.2

theorem sim_initializeBase (h : Mirrors s t) (quantumCount : Nat) (eventFlagOk callback : Bool)
    (lastPass : Option (UInt32 × Uptime)) :
    let i : InitializeInput := ⟨quantumCount, eventFlagOk, callback,
      lastPass.map fun pass => (pass.1.toInt32, pass.2)⟩
    Mirrors (s.initializeBase quantumCount eventFlagOk callback lastPass).1 (t.initializeHal i).1 ∧
      SameAnswer (s.initializeBase quantumCount eventFlagOk callback lastPass).2.1 (t.initializeHal i).2.1 ∧
      List.Forall₂ SameCall (s.initializeBase quantumCount eventFlagOk callback lastPass).2.2
        ((t.initializeHal i).2.2.filter outside) := by
  intro i
  have hdeactivated : Mirrors (s.withBase { s.toISensorsSubHalBase with
      mSensors := (Aidl.Sensors.execEach s.mSensors (s.mSensors.keys.map (·, .activate false))).1 })
      (Aidl.allInactive t) :=
    h.withBase (by rw [h.mSensors, h.base]; rfl) rfl rfl rfl rfl
  obtain ⟨hjoined, hcalls⟩ := sim_joinWakeLockThread hdeactivated lastPass
  refine ⟨⟨?_, .some quantumCount .nil, hjoined.wakeLock, rfl, hjoined.lastTemperature⟩, ?_, ?_⟩
  · exact congrArg (fun b : ISensorsSubHalBase => { b with
      mSensors := (Aidl.Sensors.execEach b.mSensors (SensorsHalAidl.removals b.mDirectChannels)).1
      mDirectChannels := ∅ }) hjoined.base
  · unfold Sensors.initializeBase SensorsHalAidl.initializeHal
    dsimp only
    by_cases hok : eventFlagOk = true ∧ callback = true
    · rw [if_pos hok, if_pos hok]
      exact .table .ok
    · rw [if_neg hok, if_neg hok]
      exact .table .illegalArgument
  · unfold SensorsHalAidl.initializeHal
    dsimp only
    rw [List.filter_append, List.filter_append, filter_execEach, filter_execEach, List.append_nil, List.nil_append]
    exact hcalls

/-- A call that changes the sensors and the tables only, and makes no call to the outside. -/
structure OnTables (t : SensorsHalAidl) (after : SensorsHalAidl × ScopedAStatus × List HalCall) : Prop where
  queue : after.1.mEventQueue = t.mEventQueue
  wakeLock : after.1.wakeLock = t.wakeLock
  running : after.1.mReadWakeLockQueueRun = t.mReadWakeLockQueueRun
  lastTemperature : after.1.lastTemperature = t.lastTemperature
  calls : after.2.2.filter outside = []

theorem onTables_batch (t : SensorsHalAidl) (sensorHandle : Int32) (samplingPeriodNs maxReportLatencyNs : Int64) :
    OnTables t (t.batch sensorHandle samplingPeriodNs maxReportLatencyNs) := by
  unfold SensorsHalAidl.batch
  dsimp only
  split
  · exact ⟨rfl, rfl, rfl, rfl, filter_execAt _ _ _⟩
  · exact ⟨rfl, rfl, rfl, rfl, rfl⟩

theorem onTables_configDirectReport (t : SensorsHalAidl) (sensorHandle channelHandle : Int32) (rate : Aidl.RateLevel) :
    OnTables t (t.configDirectReport sensorHandle channelHandle rate) := by
  unfold SensorsHalAidl.configDirectReport
  split
  · exact ⟨rfl, rfl, rfl, rfl, rfl⟩
  · split
    · exact ⟨rfl, rfl, rfl, rfl, filter_execEach _ _⟩
    · split
      · exact ⟨rfl, rfl, rfl, rfl, rfl⟩
      · split
        · exact ⟨rfl, rfl, rfl, rfl, rfl⟩
        · dsimp only
          split
          · exact ⟨rfl, rfl, rfl, rfl, rfl⟩
          · exact ⟨rfl, rfl, rfl, rfl, filter_execAt _ _ _⟩

theorem onTables_registerDirectChannel (t : SensorsHalAidl) (mem : SharedMemInfo) (ashmem : Ashmem) :
    OnTables t (t.registerDirectChannel mem ashmem) := by
  unfold SensorsHalAidl.registerDirectChannel
  split
  · exact ⟨rfl, rfl, rfl, rfl, rfl⟩
  · split <;> exact ⟨rfl, rfl, rfl, rfl, rfl⟩

theorem onTables_unregisterDirectChannel (t : SensorsHalAidl) (channelHandle : Int32) :
    OnTables t (t.unregisterDirectChannel channelHandle) := by
  refine ⟨rfl, rfl, rfl, rfl, ?_⟩
  unfold SensorsHalAidl.unregisterDirectChannel
  dsimp only
  split
  · exact filter_execEach _ _
  · rfl

theorem Mirrors.ofTables (h : Mirrors s t) {b : ISensorsSubHalBase}
    {after : SensorsHalAidl × ScopedAStatus × List HalCall} (hbase : .ofAidl after.1 = b) (hon : OnTables t after) :
    Mirrors (s.withBase b) after.1 :=
  h.withBase hbase.symm hon.queue hon.wakeLock hon.running hon.lastTemperature

theorem injectSensorData_eq (t : SensorsHalAidl) (event : Event) :
    (t.injectSensorData event).1 = t ∧ (t.injectSensorData event).2.2 = [] := by
  unfold SensorsHalAidl.injectSensorData
  split <;> exact ⟨rfl, rfl⟩

theorem sameQueue_read {queue : Option EventQueue} {queue' : Option Aidl.EventQueue} (h : SameQueue queue queue')
    (count : Nat) : SameQueue (queue.map (·.read count)) (queue'.map (·.read count)) := by
  cases h with
  | none => exact .none
  | some quantumCount h => exact .some quantumCount (List.forall₂_drop count h)

theorem sameAnswer_setOperationMode (mode : Aidl.OperationMode) : ∀ (sensors : List (Int32 × HalSensor))
    {result : Result} {status : ScopedAStatus}, SameAnswer result status →
    SameAnswer (sensors.foldl (fun _ _ => if mode = .normal then .ok else .badValue) result)
      (sensors.foldl (fun _ sensor => sensor.2.setOperationMode mode) status)
  | [], _, _, h => h
  | sensor :: sensors, _, _, _ => by
    refine sameAnswer_setOperationMode mode sensors ?_
    unfold HalSensor.setOperationMode
    by_cases hmode : mode = .normal
    · rw [if_pos hmode, if_pos hmode]
      exact .table .ok
    · rw [if_neg hmode, if_neg hmode]
      exact .table .illegalArgument

theorem sameAnswer_injectSensorData (t : SensorsHalAidl) {event : Event} (hne : event.sensorType ≠ .additionalInfo) :
    SameAnswer ((ISensorsSubHalBase.ofAidl t).injectSensorData event.sensorHandle) (t.injectSensorData event).2.1 := by
  unfold ISensorsSubHalBase.injectSensorData SensorsHalAidl.injectSensorData
  rw [show (ISensorsSubHalBase.ofAidl t).mSensors = t.mSensors from rfl]
  cases t.mSensors[event.sensorHandle]? with
  | none => exact .table .errorBadValue
  | some sensor =>
    dsimp only
    unfold HalSensor.injectEvent
    rw [if_neg hne]
    by_cases hsupports : sensor.supportsDataInjection = false
    · rw [if_pos hsupports]
      exact .unsupported
    · rw [if_neg hsupports]
      exact .refused

end Calls

/-! ## A step -/

section Step

variable {s : Sensors} {t : SensorsHalAidl} {op : Op} {halOp : HalOp}

/-- **A step leaves the HALs mirroring each other**, unless it enables a sensor without an Event FMQ. -/
theorem sim_exec (h : Mirrors s t) (hI : Inv t) (hcorr : Corresponds op halOp) (hready : Ready t halOp) :
    ∃ s' a, s.exec op = some (s', a) ∧ Mirrors s' (t.exec halOp).1 ∧ Alike a (t.exec halOp).2 := by
  cases hcorr with
  | activate sensorHandle enabled fresh r =>
    obtain ⟨s', result, calls, hexec, hmirrors, hanswer, hcalls⟩ :=
      sim_activate h hI sensorHandle enabled fresh r hready
    refine ⟨s', (some result, calls), ?_, hmirrors, .some hanswer, hcalls⟩
    dsimp only [Sensors.exec]
    rw [hexec]
    rfl
  | batch sensorHandle samplingPeriodNs maxReportLatencyNs =>
    obtain ⟨hbase, hanswer⟩ := MultiHal.SubHalSim.sim_batch t sensorHandle samplingPeriodNs maxReportLatencyNs
    rw [← h.base] at hbase hanswer
    have hon := onTables_batch t sensorHandle samplingPeriodNs maxReportLatencyNs
    exact ⟨_, _, rfl, h.ofTables hbase hon, .some (.table hanswer), hon.calls ▸ .nil⟩
  | configDirectReport sensorHandle channelHandle rate =>
    obtain ⟨hbase, hanswer⟩ := MultiHal.SubHalSim.sim_configDirectReport t sensorHandle channelHandle rate
    rw [← h.base] at hbase hanswer
    have hon := onTables_configDirectReport t sensorHandle channelHandle rate.toAidl
    exact ⟨_, _, rfl, h.ofTables hbase hon, .some (.table hanswer), hon.calls ▸ .nil⟩
  | flush sensorHandle ev fresh u r =>
    obtain ⟨s', result, calls, hexec, hmirrors, hanswer, hcalls⟩ := sim_flush h hI sensorHandle ev fresh u r
    refine ⟨s', (some result, calls), ?_, hmirrors, .some hanswer, hcalls⟩
    dsimp only [Sensors.exec]
    rw [hexec]
    rfl
  | initializeBase quantumCount callback lastPass =>
    obtain ⟨hmirrors, hanswer, hcalls⟩ := sim_initializeBase h quantumCount true callback lastPass
    exact ⟨_, _, rfl, hmirrors, .some hanswer, hcalls⟩
  | injectSensorData event hne =>
    have hanswer := sameAnswer_injectSensorData t hne
    rw [← h.base] at hanswer
    obtain ⟨hsame, hcalls⟩ := injectSensorData_eq t event
    exact ⟨_, _, rfl, hsame.symm ▸ h, .some hanswer, hcalls.symm ▸ .nil⟩
  | registerDirectChannel mem ashmem =>
    obtain ⟨hbase, hanswer⟩ := MultiHal.SubHalSim.sim_registerDirectChannel t mem ashmem
    rw [← h.base] at hbase hanswer
    have hon := onTables_registerDirectChannel t mem ashmem
    exact ⟨_, _, rfl, h.ofTables hbase hon, .some (.table hanswer), hon.calls ▸ .nil⟩
  | setOperationMode mode =>
    refine ⟨_, _, rfl, h, .some ?_, .nil⟩
    unfold Sensors.setOperationMode
    rw [h.mSensors]
    exact sameAnswer_setOperationMode mode _ (.table .ok)
  | unregisterDirectChannel channelHandle =>
    have hbase := MultiHal.SubHalSim.sim_unregisterDirectChannel t channelHandle
    rw [← h.base] at hbase
    have hon := onTables_unregisterDirectChannel t channelHandle
    exact ⟨_, _, rfl, h.ofTables hbase hon, .some (.table .ok), hon.calls ▸ .nil⟩
  | sensorThread sensorHandle fresh values u hlen =>
    obtain ⟨s', calls, hexec, hmirrors, hcalls⟩ := sim_sensorThread h hI sensorHandle fresh hlen u
    refine ⟨s', (none, calls), ?_, hmirrors, .none, hcalls⟩
    dsimp only [Sensors.exec]
    rw [hexec]
    rfl
  | readWakeLockFMQ eventsHandled u =>
    obtain ⟨hmirrors, hcalls⟩ := sim_readWakeLockFMQ h eventsHandled u
    exact ⟨_, _, rfl, hmirrors, .none, hcalls⟩
  | frameworkReads count =>
    exact ⟨_, _, rfl, ⟨h.base, sameQueue_read h.queue count, h.wakeLock, h.running, h.lastTemperature⟩, .none, .nil⟩

theorem eventQueue_readWakeLockFMQ (t : SensorsHalAidl) (eventsHandled : Int32) (u : Uptime) :
    (t.readWakeLockFMQ eventsHandled u).1.mEventQueue = t.mEventQueue := by
  obtain ⟨wakeLock, heq⟩ := Aidl.readWakeLockFMQ_eq t eventsHandled u
  rw [heq]

/-- There is no Event FMQ until the first `initialize`. -/
theorem eventQueue_step (t : SensorsHalAidl) (op : HalOp) :
    (t.step op).mEventQueue = none ↔ t.mEventQueue = none ∧ ∀ i, op ≠ .initializeHal i := by
  have hother : ∀ {t' : SensorsHalAidl}, (t'.mEventQueue = none ↔ t.mEventQueue = none) →
      (∀ i, op ≠ .initializeHal i) → (t'.mEventQueue = none ↔ t.mEventQueue = none ∧ ∀ i, op ≠ .initializeHal i) :=
    fun hqueue hne => hqueue.trans (and_iff_left hne).symm
  cases op with
  | activate sensorHandle enabled r =>
    refine hother ?_ nofun
    show (t.activate sensorHandle enabled r).1.mEventQueue = none ↔ _
    unfold SensorsHalAidl.activate
    split
    · dsimp only
      split
      · exact eventQueue_postEvents _ _ _ _
      · exact Iff.rfl
    · exact Iff.rfl
  | batch sensorHandle samplingPeriodNs maxReportLatencyNs =>
    exact hother (iff_of_eq (congrArg (· = none) (onTables_batch t _ _ _).queue)) nofun
  | configDirectReport sensorHandle channelHandle rate =>
    exact hother (iff_of_eq (congrArg (· = none) (onTables_configDirectReport t _ _ _).queue)) nofun
  | flush sensorHandle u r =>
    refine hother ?_ nofun
    show (t.flush sensorHandle u r).1.mEventQueue = none ↔ _
    unfold SensorsHalAidl.flush
    split
    · split
      · exact (eventQueue_postEvents _ _ _ _).trans (eventQueue_postEvents _ _ _ _)
      · exact Iff.rfl
    · exact Iff.rfl
  | initializeHal i => exact iff_of_false nofun fun h => h.2 i rfl
  | injectSensorData event =>
    exact hother (iff_of_eq (congrArg (fun t : SensorsHalAidl => t.mEventQueue = none) (injectSensorData_eq t event).1))
      nofun
  | registerDirectChannel mem ashmem =>
    exact hother (iff_of_eq (congrArg (· = none) (onTables_registerDirectChannel t _ _).queue)) nofun
  | setOperationMode mode => exact hother Iff.rfl nofun
  | unregisterDirectChannel channelHandle => exact hother Iff.rfl nofun
  | sensorThread sensorHandle values u =>
    refine hother ?_ nofun
    show (t.sensorThread sensorHandle values u).1.mEventQueue = none ↔ _
    unfold SensorsHalAidl.sensorThread
    split
    · dsimp only
      split
      · exact eventQueue_postEvents _ _ _ _
      · exact Iff.rfl
    · exact Iff.rfl
  | readWakeLockFMQ eventsHandled u =>
    exact hother (iff_of_eq (congrArg (· = none) (eventQueue_readWakeLockFMQ t eventsHandled u))) nofun
  | frameworkReads count => exact hother Option.map_eq_none_iff nofun

/-- A sensor enabled after a step was so before, or the step enables it, or it makes an Event FMQ. -/
theorem enabled_of_step (hcorr : Corresponds op halOp) {k : Int32} {sensor' : HalSensor}
    (hk : (t.step halOp).mSensors[k]? = some sensor') (hon : sensor'.history.sensor.mIsEnabled = true) :
    (∃ sensor, t.mSensors[k]? = some sensor ∧ sensor.history.sensor.mIsEnabled = true) ∨
      (∃ r, halOp = .activate k true r) ∨ ∃ i, halOp = .initializeHal i := by
  -- on a call that a sub-HAL has too
  have hsub : ∀ {subOp : MultiHal.SubHalOp}, ISensorsSubHalBase.ofAidl (t.step halOp) =
      (ISensorsSubHalBase.ofAidl t).step subOp →
      (∃ sensor, t.mSensors[k]? = some sensor ∧ sensor.history.sensor.mIsEnabled = true) ∨
        ∃ temperature, subOp = .activate k true temperature := fun {subOp} heq =>
    MultiHal.SubHalSim.enabled_step (show ((ISensorsSubHalBase.ofAidl t).step subOp).mSensors[k]? = _ from heq ▸ hk) hon
  cases hcorr with
  | activate sensorHandle enabled fresh r =>
    rcases hsub (MultiHal.SubHalSim.sim_exec (.activate sensorHandle enabled none r) t).1 with hold | ⟨_, heq⟩
    · exact Or.inl hold
    · cases heq
      exact Or.inr (Or.inl ⟨r, rfl⟩)
  | batch sensorHandle samplingPeriodNs maxReportLatencyNs =>
    have hsim := MultiHal.SubHalSim.sim_exec (.batch sensorHandle samplingPeriodNs maxReportLatencyNs) t
    exact (hsub hsim.1).imp_right nofun
  | configDirectReport sensorHandle channelHandle rate =>
    have hsim := MultiHal.SubHalSim.sim_exec (.configDirectReport ⟨sensorHandle, channelHandle, rate⟩) t
    exact (hsub hsim.1).imp_right nofun
  | flush sensorHandle ev fresh u r =>
    exact (hsub (MultiHal.SubHalSim.sim_exec (.flush sensorHandle none u r) t).1).imp_right nofun
  | initializeBase quantumCount callback lastPass => exact Or.inr (Or.inr ⟨_, rfl⟩)
  | injectSensorData event hne =>
    rw [show t.step (.injectSensorData event) = t from (injectSensorData_eq t event).1] at hk
    exact Or.inl ⟨sensor', hk, hon⟩
  | registerDirectChannel mem ashmem =>
    exact (hsub (MultiHal.SubHalSim.sim_exec (.registerDirectChannel mem ashmem) t).1).imp_right nofun
  | setOperationMode mode => exact Or.inl ⟨sensor', hk, hon⟩
  | unregisterDirectChannel channelHandle =>
    exact (hsub (MultiHal.SubHalSim.sim_exec (.unregisterDirectChannel channelHandle) t).1).imp_right nofun
  | sensorThread sensorHandle fresh values u hlen =>
    have hsame : (t.step (.sensorThread sensorHandle values u)).mSensors = t.mSensors := by
      show (t.sensorThread sensorHandle values u).1.mSensors = _
      unfold SensorsHalAidl.sensorThread
      split
      · dsimp only
        split
        · exact congrArg (·.mSensors) (MultiHal.SubHalSim.ofAidl_postEvents _ _ _ _)
        · rfl
      · rfl
    exact Or.inl ⟨sensor', hsame ▸ hk, hon⟩
  | readWakeLockFMQ eventsHandled u =>
    obtain ⟨wakeLock, heq⟩ := Aidl.readWakeLockFMQ_eq t eventsHandled.toInt32 u
    rw [show t.step (.readWakeLockFMQ eventsHandled.toInt32 u) = { t with wakeLock := wakeLock } from heq] at hk
    exact Or.inl ⟨sensor', hk, hon⟩
  | frameworkReads count => exact Or.inl ⟨sensor', hk, hon⟩

theorem Supported.congr {sensor sensor' : HalSensor} (h : Supported sensor)
    (hdescription : sensor'.description = sensor.description) : Supported sensor' := by
  refine ⟨hdescription ▸ h.type, fun entries hentries => h.placeable entries (Eq.trans ?_ hentries)⟩
  unfold MultiHal.placementEntries HalSensor.getLocation HalSensor.getOrientation
  rw [hdescription]

/-- **A step that the HIDL HAL survives** keeps the sensors supported, and disabled without an Event FMQ. -/
theorem inv_exec (hI : Inv t) (hcorr : Corresponds op halOp) (hready : Ready t halOp) : Inv (t.step halOp) := by
  have heffect := Aidl.effect_step t halOp
  constructor
  · intro k sensor' hk
    obtain ⟨sensor, ops, hsensor, rfl⟩ := heffect.sensor hk
    exact (hI.supported k sensor hsensor).congr (HalSensor.description_run ops sensor)
  · intro hnone k sensor' hk
    obtain ⟨hnone', hne⟩ := (eventQueue_step t halOp).1 hnone
    refine Bool.eq_false_iff.2 fun hon => ?_
    rcases enabled_of_step hcorr hk hon with ⟨sensor, hsensor, hbefore⟩ | ⟨r, rfl⟩ | ⟨i, rfl⟩
    · rw [hI.quiet hnone' k sensor hsensor] at hbefore
      cases hbefore
    · obtain ⟨sensor, -, hsensor, -⟩ := heffect.sensor hk
      rw [hready hnone' k r rfl] at hsensor
      cases hsensor
    · exact hne i rfl

end Step

/-! ## Runs -/

def accelerometer : SensorDescription :=
  { sensorHandle := 1, type := .accelerometer, flags := 0x480, delays := ⟨5000, 20000⟩ }

/-- The accelerometer is enabled in a new session and read. -/
def session : List Op :=
  [.initializeBase 64 true true none, .activate 1 true (fun _ => 0) ⟨none, fun _ => 5, ⟨1, 1, true, true⟩⟩,
    .sensorThread 1 (fun _ => 0) [⟨10, [1, 2, 3]⟩] ⟨2, 2, true, true⟩]

end Hidl
end MemsHal
