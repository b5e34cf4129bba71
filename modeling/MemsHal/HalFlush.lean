import MemsHal.HalChannels
import MemsHal.OwnedLog
/-!
# HalFlush — the completion events of `flush`

`Sensor::flush` decides its answer first, then posts the completion event and then the additional-info report; the
Event FMQ is shared with every other thread, and a post that finds it too full is dropped.  A flush is three steps here
and an activation two, so that other threads come in between.  A completion event is written for every flush that
answers ok exactly when each of them finds a free slot (`delivered_iff`).
-/
namespace MemsHal
namespace Aidl
namespace HalFlush

open OwnedLog

/-- A call between its steps: a flush that has decided to answer ok, a flush that has posted its completion event, an
activation that has yet to send its report. -/
inductive Pending
  | flushing (sensorHandle : Int32) (sensor : HalSensor)
  | flushed (sensorHandle : Int32) (sensor : HalSensor)
  | activated (sensor : HalSensor)

/-- A call of `postEvents`, made by a call of the framework or by a sensor thread, and whether the events were written;
or a flush that returned. -/
inductive Entry
  | posted (call : Option Nat) (events : List Event) (written : Bool)
  | returned (call : Nat) (sensorHandle : Int32) (ok : Bool)

def Entry.owner : Entry → Option Nat
  | .posted call _ _   => call
  | .returned call _ _ => some call

/-- The HAL, the calls between their steps, the number of calls made, and the log. -/
structure Flow where
  hal : SensorsHalAidl
  pending : StdMap Nat Pending
  numCalls : Nat
  log : List Entry

inductive FlowOp
  | flush (sensorHandle : Int32)
  | postCompletion (call : Nat) (u : Uptime)
  | reportFlush (call : Nat) (r : ReportInput)
  | activate (sensorHandle : Int32) (enabled : Bool)
  | reportActivate (call : Nat) (r : ReportInput)
  | sensorThread (sensorHandle : Int32) (values : List SensorValues) (u : Uptime)
  | frameworkReads (count : Nat)

namespace Flow

def post (s : Flow) (call : Option Nat) (events : List Event) (wakeup : Bool) (u : Uptime) : Flow :=
  let (hal, calls) := s.hal.postEvents events wakeup u
  { s with hal := hal, log := s.log ++ [.posted call events (.written events ∈ calls)] }

def report (s : Flow) (call : Nat) (sensor : HalSensor) (r : ReportInput) : Flow :=
  s.post (some call) (sensor.additionalInfoEvents r.temperature r.elapsed) sensor.isWakeUpSensor r.uptime

def step (s : Flow) : FlowOp → Flow
  | .flush sensorHandle =>
    let refused : Flow :=
      { s with numCalls := s.numCalls + 1, log := s.log ++ [.returned s.numCalls sensorHandle false] }
    match s.hal.mSensors[sensorHandle]? with
    | some sensor =>
      if sensor.flushStatus.isOk then
        { s with
          numCalls := s.numCalls + 1
          pending := s.pending.insert s.numCalls (.flushing sensorHandle sensor) }
      else refused
    | none => refused
  | .postCompletion call u =>
    match s.pending[call]? with
    | some (.flushing sensorHandle sensor) =>
      { s.post (some call) [sensor.flushComplete] sensor.isWakeUpSensor u with
        pending := s.pending.insert call (.flushed sensorHandle sensor) }
    | _ => s
  | .reportFlush call r =>
    match s.pending[call]? with
    | some (.flushed sensorHandle sensor) =>
      let s' := s.report call sensor r
      { s' with pending := s.pending.erase call, log := s'.log ++ [.returned call sensorHandle true] }
    | _ => s
  | .activate sensorHandle enabled =>
    match s.hal.mSensors[sensorHandle]? with
    | some sensor =>
      let hal := { s.hal with mSensors := (Sensors.execAt s.hal.mSensors sensorHandle (.activate enabled)).1 }
      if .sendAdditionalInfoReport ∈ (sensor.history.sensor.activate enabled).2 then
        { s with
          hal := hal
          numCalls := s.numCalls + 1
          pending := s.pending.insert s.numCalls (.activated sensor) }
      else { s with hal := hal, numCalls := s.numCalls + 1 }
    | none => { s with numCalls := s.numCalls + 1 }
  | .reportActivate call r =>
    match s.pending[call]? with
    | some (.activated sensor) => { s.report call sensor r with pending := s.pending.erase call }
    | _ => s
  | .sensorThread sensorHandle values u =>
    match s.hal.mSensors[sensorHandle]? with
    | some sensor =>
      let (events, lastTemperature) := sensor.readEvents s.hal.lastTemperature values
      let s := { s with hal := { s.hal with lastTemperature := lastTemperature } }
      if sensor.history.sensor.mIsEnabled then s.post none events sensor.isWakeUpSensor u else s
    | none => s
  | .frameworkReads count => { s with hal := s.hal.frameworkReads count }

/-- The HAL after its first `initialize`, which succeeds. -/
def start (timeoutSeconds : UInt32) (descriptions : List SensorDescription) (quantumCount : Nat) : Flow where
  hal := ((SensorsHalAidl.construct timeoutSeconds descriptions).initializeHal { quantumCount := quantumCount }).1
  pending := ∅
  numCalls := 0
  log := []

/-- A flush whose steps follow each other is `SensorsHalAidl::flush`. -/
theorem hal_flush {s : Flow} (hnew : s.pending[s.numCalls]? = none) (sensorHandle : Int32) (u : Uptime)
    (r : ReportInput) :
    (Run.run step s [.flush sensorHandle, .postCompletion s.numCalls u, .reportFlush s.numCalls r]).hal =
      (s.hal.flush sensorHandle u r).1 := by
  unfold SensorsHalAidl.flush
  simp only [Run.run_cons, Run.run_nil]
  have hrefused : ∀ log, (step (step { s with numCalls := s.numCalls + 1, log := log }
      (.postCompletion s.numCalls u)) (.reportFlush s.numCalls r)).hal = s.hal := by
    intro log
    simp only [step, hnew]
  cases hsensor : s.hal.mSensors[sensorHandle]? with
  | none =>
    simp only [step, hsensor]
    exact hrefused _
  | some sensor =>
    by_cases hok : sensor.flushStatus.isOk
    · simp only [step, hsensor, if_pos hok, StdMap.getElem?_insert_eq, if_true, post, report]
      rfl
    · simp only [step, hsensor, if_neg hok]
      exact hrefused _

end Flow

/-! ## What the log should say -/

def IsCompletion (e : Event) : Prop :=
  e.sensorType = .metaData ∧ e.payload = .metaData MetaDataEventType.flushComplete

instance (e : Event) : Decidable (IsCompletion e) := inferInstanceAs (Decidable (_ ∧ _))

/-- The completion event of a flush of one sensor. -/
def completion (sensorHandle : Int32) : Event :=
  { timestamp := 0, sensorHandle := sensorHandle, sensorType := .metaData,
    payload := .metaData MetaDataEventType.flushComplete }

namespace Entry

/-- The completion events of a sensor that an entry wrote. -/
def completions (sensorHandle : Int32) : Entry → Nat
  | .posted _ events true => events.countP fun e => e.sensorHandle = sensorHandle ∧ IsCompletion e
  | _                     => 0

/-- The flushes of a sensor that an entry answered with ok. -/
def oks (sensorHandle : Int32) : Entry → Nat
  | .returned _ handle true => if handle = sensorHandle then 1 else 0
  | _                       => 0

end Entry

/-- **Every flush that returned ok has had its completion event written**, once, before its additional-info report and
before it returned; and no other call wrote one. -/
structure Delivered (s : Flow) : Prop where
  counts : ∀ sensorHandle : Int32,
    (s.log.map (Entry.completions sensorHandle)).sum = (s.log.map (Entry.oks sensorHandle)).sum
  ordered : ∀ call sensorHandle, .returned call sensorHandle true ∈ s.log → ∃ frames written,
    own Entry.owner call s.log = [.posted (some call) [completion sensorHandle] true,
      .posted (some call) frames written, .returned call sensorHandle true] ∧ ∀ e ∈ frames, ¬ IsCompletion e
  refused : ∀ call sensorHandle, .returned call sensorHandle false ∈ s.log →
    own Entry.owner call s.log = [.returned call sensorHandle false]

/-- No flush is between its steps. -/
def Quiescent (s : Flow) : Prop :=
  ∀ (call : Nat) sensorHandle sensor, s.pending[call]? ≠ some (.flushing sensorHandle sensor) ∧
    s.pending[call]? ≠ some (.flushed sensorHandle sensor)

/-- A flush that posts its completion event finds a slot of the Event FMQ free. -/
def HasRoom (s : Flow) : FlowOp → Prop
  | .postCompletion call _ => ∀ sensorHandle sensor, s.pending[call]? = some (.flushing sensorHandle sensor) →
    ∃ queue, s.hal.mEventQueue = some queue ∧ queue.unread.length < queue.quantumCount
  | _ => True

/-! ## The invariant -/

/-- The entries of a call that is over. -/
inductive Closed (call : Nat) : List Entry → Prop
  | silent : Closed call []
  | refused (sensorHandle : Int32) : Closed call [.returned call sensorHandle false]
  | flushed (sensorHandle : Int32) (written written' : Bool) (frames : List Event)
      (hframes : ∀ e ∈ frames, ¬ IsCompletion e) :
      Closed call [.posted (some call) [completion sensorHandle] written, .posted (some call) frames written',
        .returned call sensorHandle true]
  | activated (written : Bool) (frames : List Event) (hframes : ∀ e ∈ frames, ¬ IsCompletion e) :
      Closed call [.posted (some call) frames written]

/-- The entries of a call at each of its stages; `numCalls` calls have begun. -/
def Shape (numCalls call : Nat) (entries : List Entry) : Option Pending → Prop
  | some (.flushing sensorHandle sensor) =>
    call < numCalls ∧ sensor.flushComplete = completion sensorHandle ∧ entries = []
  | some (.flushed sensorHandle _) =>
    call < numCalls ∧ ∃ written, entries = [.posted (some call) [completion sensorHandle] written]
  | some (.activated _) => call < numCalls ∧ entries = []
  | none => Closed call entries ∧ (numCalls ≤ call → entries = [])

structure Inv (s : Flow) : Prop where
  handles : ∀ (k : Int32) (sensor : HalSensor), s.hal.mSensors[k]? = some sensor → sensor.description.sensorHandle = k
  calls : ∀ call, Shape s.numCalls call (own Entry.owner call s.log) s.pending[call]?
  orphans : ∀ events written, .posted none events written ∈ s.log → ∀ e ∈ events, ¬ IsCompletion e

theorem Shape.mono {n n' call : Nat} (hn : n ≤ n') {entries : List Entry} :
    ∀ {p : Option Pending}, Shape n call entries p → Shape n' call entries p
  | some (.flushing _ _), ⟨hlt, h⟩ => ⟨Nat.lt_of_lt_of_le hlt hn, h⟩
  | some (.flushed _ _), ⟨hlt, h⟩ => ⟨Nat.lt_of_lt_of_le hlt hn, h⟩
  | some (.activated _), ⟨hlt, h⟩ => ⟨Nat.lt_of_lt_of_le hlt hn, h⟩
  | none, ⟨hclosed, h⟩ => ⟨hclosed, fun hle => h (Nat.le_trans hn hle)⟩

/-- A call that has not begun has no entries and is not pending. -/
theorem Inv.fresh {s : Flow} (h : Inv s) : s.pending[s.numCalls]? = none ∧ own Entry.owner s.numCalls s.log = [] := by
  have hshape := h.calls s.numCalls
  cases hp : s.pending[s.numCalls]? with
  | none =>
    rw [hp] at hshape
    exact ⟨rfl, hshape.2 (Nat.le_refl _)⟩
  | some p =>
    rw [hp] at hshape
    cases p <;> exact absurd hshape.1 (Nat.lt_irrefl _)

/-- A step of one call: the other calls keep their entries and stages. -/
theorem Inv.of_call {s s' : Flow} (h : Inv s) (call : Nat) (hn : s.numCalls ≤ s'.numCalls)
    (hhandles : ∀ (k : Int32) (sensor : HalSensor), s'.hal.mSensors[k]? = some sensor →
      sensor.description.sensorHandle = k)
    (hpending : ∀ c, c ≠ call → s'.pending[c]? = s.pending[c]?)
    (hlog : ∃ later, s'.log = s.log ++ later ∧ ∀ e ∈ later, e.owner = some call)
    (hcall : Shape s'.numCalls call (own Entry.owner call s'.log) s'.pending[call]?) : Inv s' where
  handles := hhandles
  calls c := by
    by_cases hc : c = call
    · rw [hc]
      exact hcall
    · obtain ⟨later, hlater, howner⟩ := hlog
      have hnone : own Entry.owner c later = [] := by
        refine List.filter_eq_nil_iff.2 (fun e hm => ?_)
        rw [howner e hm, decide_eq_true_eq, Option.some.injEq]
        exact fun heq => hc heq.symm
      rw [hpending c hc, hlater, own_append, hnone, List.append_nil]
      exact (h.calls c).mono hn
  orphans events written hm := by
    obtain ⟨later, hlater, howner⟩ := hlog
    rw [hlater, List.mem_append] at hm
    rcases hm with hm | hm
    · exact h.orphans events written hm
    · cases howner _ hm

/-! ### Posts -/

theorem post_hal_sensors (s : Flow) (call : Option Nat) (events : List Event) (wakeup : Bool) (u : Uptime) :
    (s.post call events wakeup u).hal.mSensors = s.hal.mSensors := by
  obtain ⟨queue, wakeLock, heq⟩ := postEvents_eq s.hal events wakeup u
  show (s.hal.postEvents events wakeup u).1.mSensors = _
  rw [heq]

/-- **A post is written exactly when the Event FMQ has room for all of it.** -/
theorem written_iff (s : SensorsHalAidl) (events : List Event) (wakeup : Bool) (u : Uptime) :
    .written events ∈ (s.postEvents events wakeup u).2 ↔
      ∃ queue, s.mEventQueue = some queue ∧ queue.unread.length + events.length ≤ queue.quantumCount := by
  have hcalls : ∀ (w : WakeLock) a b, HalCall.written events ∉ (w.updateWakeLock a b u).2 := by
    intro w a b
    unfold WakeLock.updateWakeLock
    dsimp only
    split
    · split <;> simp
    · generalize (if w.deadline a u < u.nowCheck then (0 : UInt32) else w.counted a b) = count
      dsimp only
      split <;> simp
  unfold SensorsHalAidl.postEvents EventQueue.write
  cases s.mEventQueue with
  | none => simp
  | some queue =>
    dsimp only
    by_cases hroom : queue.unread.length + events.length ≤ queue.quantumCount
    · rw [if_pos hroom]
      cases wakeup <;> simp [hroom]
    · rw [if_neg hroom]
      simp [hroom]

theorem additionalInfoEvents_type (sensor : HalSensor) (temperature : Option Float32Word) (elapsed : Nat → Int64) :
    ∀ e ∈ sensor.additionalInfoEvents temperature elapsed, ¬ IsCompletion e := by
  intro e hm
  obtain ⟨i, hi, rfl⟩ := List.mem_mapIdx.1 hm
  rintro ⟨htype, -⟩
  cases htype

theorem readEvent_payload (sensor : HalSensor) (lastTemperature : Float32Word) (value : SensorValues) :
    ¬ IsCompletion (sensor.readEvent lastTemperature value).1 := by
  rintro ⟨-, hpayload⟩
  unfold HalSensor.readEvent at hpayload
  dsimp only at hpayload
  split at hpayload
  · split at hpayload <;> cases hpayload
  · split at hpayload
    · split at hpayload
      · cases hpayload
      · split at hpayload <;> cases hpayload
    · cases hpayload

theorem readEvents_payload (sensor : HalSensor) : ∀ (values : List SensorValues) (lastTemperature : Float32Word),
    ∀ e ∈ (sensor.readEvents lastTemperature values).1, ¬ IsCompletion e
  | [], _, e, hm => by cases hm
  | value :: values, lastTemperature, e, hm => by
    unfold HalSensor.readEvents at hm
    rcases List.mem_cons.1 hm with rfl | hm
    · exact readEvent_payload sensor lastTemperature value
    · exact readEvents_payload sensor values _ e hm

theorem description_execAt {m : StdMap Int32 HalSensor} {handle k : Int32} {op : SensorOp} {sensor' : HalSensor}
    (hk : (Sensors.execAt m handle op).1[k]? = some sensor') :
    ∃ sensor, m[k]? = some sensor ∧ sensor'.description = sensor.description := by
  rw [Sensors.execAt_eq_execEach] at hk
  obtain ⟨sensor, hsensor, rfl⟩ := Sensors.execEach_inv hk
  exact ⟨sensor, hsensor, HalSensor.description_run _ sensor⟩

theorem pending_insert_of_ne (m : StdMap Nat Pending) {c call : Nat} (p : Pending) (hc : c ≠ call) :
    (m.insert call p)[c]? = m[c]? := by
  rw [StdMap.getElem?_insert_eq, if_neg (Ne.symm hc)]

theorem pending_insert_self (m : StdMap Nat Pending) (call : Nat) (p : Pending) :
    (m.insert call p)[call]? = some p := by
  rw [StdMap.getElem?_insert_eq, if_pos rfl]

theorem pending_erase_of_ne (m : StdMap Nat Pending) {c call : Nat} (hc : c ≠ call) :
    (m.erase call)[c]? = m[c]? := by
  rw [StdMap.getElem?_erase_eq, if_neg (Ne.symm hc)]

theorem pending_erase_self (m : StdMap Nat Pending) (call : Nat) : (m.erase call)[call]? = none := by
  rw [StdMap.getElem?_erase_eq, if_pos rfl]

theorem own_refused (s : Flow) (h : Inv s) (sensorHandle : Int32) :
    own Entry.owner s.numCalls (s.log ++ [.returned s.numCalls sensorHandle false]) =
      [.returned s.numCalls sensorHandle false] := by
  rw [own_concat_self Entry.owner rfl, h.fresh.2]
  rfl

/-- A flush that is refused. -/
theorem Inv.refused {s : Flow} (h : Inv s) (sensorHandle : Int32) :
    Inv { s with
      numCalls := s.numCalls + 1
      log := s.log ++ [.returned s.numCalls sensorHandle false] } := by
  refine h.of_call s.numCalls (Nat.le_succ _) h.handles (fun _ _ => rfl) ⟨_, rfl, ?_⟩ ?_
  · intro e hm
    rw [List.mem_singleton.1 hm]
    rfl
  · dsimp only
    rw [own_refused s h sensorHandle, h.fresh.1]
    exact ⟨.refused sensorHandle, fun hle => absurd hle (Nat.not_succ_le_self _)⟩

/-- A call that begins, and may change the sensors but not their descriptions. -/
theorem Inv.begun {s : Flow} (h : Inv s) {hal : SensorsHalAidl} {p : Pending}
    (hhandles : ∀ (k : Int32) (sensor : HalSensor), hal.mSensors[k]? = some sensor →
      sensor.description.sensorHandle = k)
    (hp : Shape (s.numCalls + 1) s.numCalls [] (some p)) :
    Inv { s with hal := hal, numCalls := s.numCalls + 1, pending := s.pending.insert s.numCalls p } := by
  refine h.of_call s.numCalls (Nat.le_succ _) hhandles (fun c hc => pending_insert_of_ne _ _ hc)
    ⟨[], (List.append_nil _).symm, fun _ hm => absurd hm List.not_mem_nil⟩ ?_
  dsimp only
  rw [pending_insert_self, h.fresh.2]
  exact hp

theorem handles_execAt {s : Flow} (h : Inv s) (sensorHandle : Int32) (op : SensorOp) (k : Int32) (sensor : HalSensor)
    (hk : (Sensors.execAt s.hal.mSensors sensorHandle op).1[k]? = some sensor) :
    sensor.description.sensorHandle = k := by
  obtain ⟨old, hold, hdescription⟩ := description_execAt hk
  rw [hdescription]
  exact h.handles k old hold

section Steps

variable {s : Flow} (h : Inv s)

include h

theorem Inv.shape {call : Nat} {p : Pending} (hpending : s.pending[call]? = some p) :
    Shape s.numCalls call (own Entry.owner call s.log) (some p) := by
  have hshape := h.calls call
  rw [hpending] at hshape
  exact hshape

theorem Inv.handles_of_eq {s' : Flow} (heq : s'.hal.mSensors = s.hal.mSensors) (k : Int32) (sensor : HalSensor)
    (hk : s'.hal.mSensors[k]? = some sensor) : sensor.description.sensorHandle = k :=
  h.handles k sensor (heq ▸ hk)

theorem Inv.step_flush (sensorHandle : Int32) : Inv (s.step (.flush sensorHandle)) := by
  unfold Flow.step
  dsimp only
  cases hsensor : s.hal.mSensors[sensorHandle]? with
  | none => exact h.refused sensorHandle
  | some sensor =>
    dsimp only
    split
    · refine h.begun h.handles ⟨Nat.lt_succ_self _, ?_, rfl⟩
      unfold HalSensor.flushComplete completion
      rw [h.handles sensorHandle sensor hsensor]
    · exact h.refused sensorHandle

theorem Inv.step_postCompletion (call : Nat) (u : Uptime) : Inv (s.step (.postCompletion call u)) := by
  unfold Flow.step
  dsimp only
  split
  · rename_i sensorHandle sensor hpending
    obtain ⟨hlt, hcompletion, hown⟩ := h.shape hpending
    refine h.of_call call (Nat.le_refl _) (h.handles_of_eq (post_hal_sensors s (some call) _ _ u))
      (fun c hc => pending_insert_of_ne _ _ hc) ⟨_, rfl, fun e hm => ?_⟩ ?_
    · rw [List.mem_singleton.1 hm]
      rfl
    · dsimp only [Flow.post]
      rw [pending_insert_self, own_concat_self Entry.owner rfl, hown, hcompletion]
      exact ⟨hlt, _, rfl⟩
  · exact h

theorem Inv.step_reportFlush (call : Nat) (r : ReportInput) : Inv (s.step (.reportFlush call r)) := by
  unfold Flow.step
  dsimp only
  split
  · rename_i sensorHandle sensor hpending
    obtain ⟨hlt, written, hown⟩ := h.shape hpending
    refine h.of_call call (Nat.le_refl _) (h.handles_of_eq (post_hal_sensors s (some call) _ _ r.uptime))
      (fun c hc => pending_erase_of_ne _ hc) ⟨_, List.append_assoc _ _ _, fun e hm => ?_⟩ ?_
    · rcases List.mem_append.1 hm with hm | hm <;> rw [List.mem_singleton.1 hm] <;> rfl
    · dsimp only [Flow.report, Flow.post]
      rw [pending_erase_self, own_concat_self Entry.owner rfl, own_concat_self Entry.owner rfl, hown]
      exact ⟨.flushed sensorHandle written _ _ (additionalInfoEvents_type sensor _ _),
        fun hle => absurd hlt (Nat.not_lt.2 hle)⟩
  · exact h

/-- An activation that sends no report. -/
theorem Inv.silent {hal : SensorsHalAidl} (hhandles : ∀ (k : Int32) (sensor : HalSensor),
    hal.mSensors[k]? = some sensor → sensor.description.sensorHandle = k) :
    Inv { s with hal := hal, numCalls := s.numCalls + 1 } := by
  refine h.of_call s.numCalls (Nat.le_succ _) hhandles (fun _ _ => rfl)
    ⟨[], (List.append_nil _).symm, fun _ hm => absurd hm List.not_mem_nil⟩ ?_
  dsimp only
  rw [h.fresh.1, h.fresh.2]
  exact ⟨.silent, fun _ => rfl⟩

theorem Inv.step_activate (sensorHandle : Int32) (enabled : Bool) : Inv (s.step (.activate sensorHandle enabled)) := by
  unfold Flow.step
  dsimp only
  split
  · split
    · exact h.begun (handles_execAt h sensorHandle _) ⟨Nat.lt_succ_self _, rfl⟩
    · exact h.silent (handles_execAt h sensorHandle _)
  · exact h.silent h.handles

theorem Inv.step_reportActivate (call : Nat) (r : ReportInput) : Inv (s.step (.reportActivate call r)) := by
  unfold Flow.step
  dsimp only
  split
  · rename_i sensor hpending
    obtain ⟨hlt, hown⟩ := h.shape hpending
    refine h.of_call call (Nat.le_refl _) (h.handles_of_eq (post_hal_sensors s (some call) _ _ r.uptime))
      (fun c hc => pending_erase_of_ne _ hc) ⟨_, rfl, fun e hm => ?_⟩ ?_
    · rw [List.mem_singleton.1 hm]
      rfl
    · dsimp only [Flow.report, Flow.post]
      rw [pending_erase_self, own_concat_self Entry.owner rfl, hown]
      exact ⟨.activated _ _ (additionalInfoEvents_type sensor _ _), fun hle => absurd hlt (Nat.not_lt.2 hle)⟩
  · exact h

/-- What a sensor thread posts is no call's, and no completion. -/
theorem Inv.step_sensorThread (sensorHandle : Int32) (values : List SensorValues) (u : Uptime) :
    Inv (s.step (.sensorThread sensorHandle values u)) := by
  unfold Flow.step
  dsimp only
  split
  · rename_i sensor hsensor
    split
    · refine ⟨?_, ?_, ?_⟩
      · exact h.handles_of_eq (post_hal_sensors _ _ _ _ u)
      · intro call
        dsimp only [Flow.post]
        rw [own_concat_other Entry.owner (fun heq => by cases heq)]
        exact h.calls call
      · intro events written hm
        rcases List.mem_append.1 hm with hm | hm
        · exact h.orphans events written hm
        · cases List.mem_singleton.1 hm
          exact readEvents_payload sensor values _
    · exact ⟨h.handles, h.calls, h.orphans⟩
  · exact h

end Steps

theorem inv_step (s : Flow) (op : FlowOp) (h : Inv s) : Inv (s.step op) := by
  cases op with
  | flush sensorHandle                 => exact h.step_flush sensorHandle
  | postCompletion call u              => exact h.step_postCompletion call u
  | reportFlush call r                 => exact h.step_reportFlush call r
  | activate sensorHandle enabled      => exact h.step_activate sensorHandle enabled
  | reportActivate call r              => exact h.step_reportActivate call r
  | sensorThread sensorHandle values u => exact h.step_sensorThread sensorHandle values u
  | frameworkReads count               => exact ⟨h.handles, h.calls, h.orphans⟩

theorem inv_start (timeoutSeconds : UInt32) (descriptions : List SensorDescription) (quantumCount : Nat) :
    Inv (Flow.start timeoutSeconds descriptions quantumCount) where
  handles k sensor hk := by
    obtain ⟨old, ops, hold, rfl⟩ := (effect_step (SensorsHalAidl.construct timeoutSeconds descriptions)
      (.initializeHal { quantumCount := quantumCount })).sensor hk
    rw [HalSensor.description_run]
    exact (construct_sensors timeoutSeconds descriptions hold).1
  calls call := by
    show Shape 0 call [] (∅ : StdMap Nat Pending)[call]?
    rw [Std.ExtTreeMap.getElem?_empty]
    exact ⟨.silent, fun _ => rfl⟩
  orphans _ _ hm := by cases hm

/-! ## Completion events that found no room -/

/-- No completion event was dropped. -/
def NoMissed (s : Flow) : Prop :=
  ∀ call events, .posted call events false ∈ s.log → ∀ e ∈ events, ¬ IsCompletion e

theorem noMissed_concat {s s' : Flow} {e : Entry} (hlog : s'.log = s.log ++ [e]) :
    NoMissed s' ↔ NoMissed s ∧ ∀ call events, .posted call events false = e → ∀ x ∈ events, ¬ IsCompletion x := by
  unfold NoMissed
  rw [hlog]
  constructor
  · exact fun h => ⟨fun call events hm => h call events (List.mem_append_left _ hm),
      fun call events heq => h call events (List.mem_append_right _ (List.mem_singleton.2 heq))⟩
  · rintro ⟨hold, hnew⟩ call events hm
    rcases List.mem_append.1 hm with hm | hm
    · exact hold call events hm
    · exact hnew call events (List.mem_singleton.1 hm)

theorem noMissed_same {s s' : Flow} (hlog : s'.log = s.log) : NoMissed s' ↔ NoMissed s := by
  unfold NoMissed
  rw [hlog]

theorem noMissed_returned {s s' : Flow} {call : Nat} {sensorHandle : Int32} {ok : Bool}
    (hlog : s'.log = s.log ++ [.returned call sensorHandle ok]) : NoMissed s' ↔ NoMissed s := by
  refine (noMissed_concat hlog).trans (and_iff_left ?_)
  intro call events heq
  cases heq

theorem noMissed_posted {s s' : Flow} {call : Option Nat} {events : List Event} {written : Bool}
    (hlog : s'.log = s.log ++ [.posted call events written]) :
    NoMissed s' ↔ NoMissed s ∧ (written = false → ∀ x ∈ events, ¬ IsCompletion x) := by
  refine (noMissed_concat hlog).trans (and_congr_right fun _ => ?_)
  constructor
  · intro h hw
    exact h call events (by rw [hw])
  · rintro h call' events' heq
    obtain ⟨-, rfl, hw⟩ := Entry.posted.inj heq
    exact h hw.symm

/-- A post without a completion event drops none. -/
theorem noMissed_other {s : Flow} (s' : Flow) {call : Option Nat} {events : List Event} {written : Bool}
    (hlog : s'.log = s.log ++ [.posted call events written]) (hother : ∀ x ∈ events, ¬ IsCompletion x) :
    NoMissed s' ↔ NoMissed s :=
  (noMissed_posted hlog).trans (and_iff_left fun _ => hother)

theorem noMissed_postCompletion (s : Flow) (call : Nat) (u : Uptime) :
    NoMissed (s.step (.postCompletion call u)) ↔ NoMissed s ∧ HasRoom s (.postCompletion call u) := by
  unfold Flow.step HasRoom
  dsimp only
  split
  · rename_i sensorHandle sensor hpending
    refine (noMissed_posted rfl).trans (and_congr_right fun _ => ?_)
    have hwritten : _ ↔ ∃ queue, s.hal.mEventQueue = some queue ∧ queue.unread.length < queue.quantumCount :=
      written_iff s.hal [sensor.flushComplete] sensor.isWakeUpSensor u
    constructor
    · intro h _ _ _
      by_contra hfull
      exact h (decide_eq_false (mt hwritten.1 hfull)) _ List.mem_cons_self ⟨rfl, rfl⟩
    · intro hroom hw
      exact absurd (hwritten.2 (hroom sensorHandle sensor hpending)) (of_decide_eq_false hw)
  · rename_i hother
    refine (and_iff_left ?_).symm
    exact fun sensorHandle sensor hpending => absurd hpending (hother sensorHandle sensor)

/-- **A completion event is dropped exactly by a step that finds no room for it.** -/
theorem noMissed_step (s : Flow) (op : FlowOp) : NoMissed (s.step op) ↔ NoMissed s ∧ HasRoom s op := by
  cases op with
  | flush sensorHandle =>
    refine Iff.trans ?_ (and_iff_left trivial).symm
    unfold Flow.step
    dsimp only
    split
    · split
      · exact noMissed_same rfl
      · exact noMissed_returned rfl
    · exact noMissed_returned rfl
  | postCompletion call u => exact noMissed_postCompletion s call u
  | reportFlush call r =>
    refine Iff.trans ?_ (and_iff_left trivial).symm
    unfold Flow.step
    dsimp only
    split
    · rename_i sensorHandle sensor hpending
      exact (noMissed_returned rfl).trans (noMissed_other (s.report call sensor r) rfl
        (additionalInfoEvents_type sensor _ _))
    · exact Iff.rfl
  | activate sensorHandle enabled =>
    refine Iff.trans ?_ (and_iff_left trivial).symm
    unfold Flow.step
    dsimp only
    split
    · split <;> exact noMissed_same rfl
    · exact noMissed_same rfl
  | reportActivate call r =>
    refine Iff.trans ?_ (and_iff_left trivial).symm
    unfold Flow.step
    dsimp only
    split
    · rename_i sensor hpending
      exact noMissed_other _ rfl (additionalInfoEvents_type sensor _ _)
    · exact Iff.rfl
  | sensorThread sensorHandle values u =>
    refine Iff.trans ?_ (and_iff_left trivial).symm
    unfold Flow.step
    dsimp only
    split
    · rename_i sensor hsensor
      split
      · exact noMissed_other _ rfl (readEvents_payload sensor values _)
      · exact noMissed_same rfl
    · exact Iff.rfl
  | frameworkReads count => exact (noMissed_same rfl).trans (and_iff_left trivial).symm

/-! ## What the log says -/

theorem closed_of_quiescent {s : Flow} (h : Inv s) (hquiet : Quiescent s) (call : Nat) :
    Closed call (own Entry.owner call s.log) := by
  have hshape := h.calls call
  cases hp : s.pending[call]? with
  | none =>
    rw [hp] at hshape
    exact hshape.1
  | some p =>
    rw [hp] at hshape
    cases p with
    | flushing sensorHandle sensor => exact absurd hp (hquiet call sensorHandle sensor).1
    | flushed sensorHandle sensor => exact absurd hp (hquiet call sensorHandle sensor).2
    | activated sensor =>
      rw [hshape.2]
      exact .silent

theorem owner_lt {s : Flow} (h : Inv s) {e : Entry} (hm : e ∈ s.log) {call : Nat} (howner : e.owner = some call) :
    call < s.numCalls := by
  have hmem : e ∈ own Entry.owner call s.log := (mem_own Entry.owner).2 ⟨hm, howner⟩
  have hshape := h.calls call
  cases hp : s.pending[call]? with
  | none =>
    rw [hp] at hshape
    by_contra hge
    rw [hshape.2 (Nat.not_lt.1 hge)] at hmem
    cases hmem
  | some p =>
    rw [hp] at hshape
    cases p <;> exact hshape.1

theorem completions_eq_zero {sensorHandle : Int32} {events : List Event} (h : ∀ e ∈ events, ¬ IsCompletion e)
    (call : Option Nat) (written : Bool) : Entry.completions sensorHandle (.posted call events written) = 0 := by
  cases written with
  | false => rfl
  | true =>
    refine List.countP_eq_zero.2 (fun e hm => ?_)
    rw [decide_eq_true_eq]
    exact fun hc => h e hm hc.2

theorem completions_completion (sensorHandle handle : Int32) (call : Option Nat) :
    Entry.completions sensorHandle (.posted call [completion handle] true) = if handle = sensorHandle then 1 else 0 := by
  show List.countP _ [completion handle] = _
  rw [List.countP_singleton]
  refine if_congr ?_ rfl rfl
  rw [decide_eq_true_eq]
  exact and_iff_left ⟨rfl, rfl⟩

section Quiescent

variable {s : Flow} (h : Inv s) (hquiet : Quiescent s)

include h hquiet

/-- An entry of a call is one of those that such a call leaves. -/
theorem closed_of_mem {e : Entry} {call : Nat} (hm : e ∈ s.log) (howner : e.owner = some call) :
    ∃ es, own Entry.owner call s.log = es ∧ e ∈ es ∧ Closed call es :=
  ⟨_, rfl, (mem_own Entry.owner).2 ⟨hm, howner⟩, closed_of_quiescent h hquiet call⟩

theorem noMissed_of_delivered (hdelivered : Delivered s) : NoMissed s := by
  intro call events hm
  cases call with
  | none => exact h.orphans events false hm
  | some call =>
    obtain ⟨es, hes, hown, hclosed⟩ := closed_of_mem h hquiet hm rfl
    cases hclosed with
    | silent => cases hown
    | refused sensorHandle => cases List.mem_singleton.1 hown
    | activated written frames hframes =>
      cases List.mem_singleton.1 hown
      exact hframes
    | flushed sensorHandle written written' frames hframes =>
      have hreturned : .returned call sensorHandle true ∈ s.log :=
        ((mem_own Entry.owner (c := call)).1 (hes ▸ by simp)).1
      obtain ⟨frames', w, heq, -⟩ := hdelivered.ordered call sensorHandle hreturned
      rw [hes] at heq
      cases heq
      simp only [List.mem_cons, Entry.posted.injEq, reduceCtorEq, and_false, List.not_mem_nil, or_false,
        false_or] at hown
      obtain ⟨-, rfl, -⟩ := hown
      exact hframes

omit h hquiet in
theorem written_of_noMissed (hnone : NoMissed s) {call : Nat} {sensorHandle : Int32} {written : Bool}
    {later : List Entry}
    (hes : own Entry.owner call s.log = .posted (some call) [completion sensorHandle] written :: later) :
    written = true := by
  cases written with
  | true => rfl
  | false =>
    have hm := ((mem_own Entry.owner (c := call)).1 (hes ▸ List.mem_cons_self)).1
    exact absurd ⟨rfl, rfl⟩ (hnone (some call) _ hm _ List.mem_cons_self)

omit hquiet in
/-- What weighs anything is an entry of a call, where posts without a completion event weigh nothing. -/
theorem zero_or_owned (f : Entry → Nat)
    (hf : ∀ events written, (∀ e ∈ events, ¬ IsCompletion e) → f (.posted none events written) = 0) :
    ∀ e ∈ s.log, f e = 0 ∨ ∃ c < s.numCalls, e.owner = some c := by
  intro e hm
  cases howner : e.owner with
  | some c => exact Or.inr ⟨c, owner_lt h hm howner, rfl⟩
  | none =>
    cases e with
    | posted call events written =>
      cases (show call = none from howner)
      exact Or.inl (hf events written (h.orphans events written hm))
    | returned call handle ok => cases howner

theorem counted_of_noMissed (hnone : NoMissed s) (sensorHandle : Int32) :
    (s.log.map (Entry.completions sensorHandle)).sum = (s.log.map (Entry.oks sensorHandle)).sum := by
  rw [sum_eq_sum_own Entry.owner _ s.numCalls s.log
      (zero_or_owned h _ (fun _ _ hno => completions_eq_zero hno none _)),
    sum_eq_sum_own Entry.owner _ s.numCalls s.log (zero_or_owned h _ (fun _ _ _ => rfl))]
  refine Finset.sum_congr rfl (fun call _ => ?_)
  generalize hes : own Entry.owner call s.log = es
  cases hes ▸ closed_of_quiescent h hquiet call with
  | silent => rfl
  | refused handle => rfl
  | activated written frames hframes =>
    simp only [List.map_cons, List.map_nil, List.sum_cons, List.sum_nil, completions_eq_zero hframes]
    rfl
  | flushed handle written written' frames hframes =>
    obtain rfl := written_of_noMissed hnone hes
    simp only [List.map_cons, List.map_nil, List.sum_cons, List.sum_nil, completions_eq_zero hframes,
      completions_completion]
    simp [Entry.completions, Entry.oks]

theorem delivered_of_noMissed (hnone : NoMissed s) : Delivered s := by
  refine ⟨counted_of_noMissed h hquiet hnone, fun call sensorHandle hm => ?_, fun call sensorHandle hm => ?_⟩
  · obtain ⟨es, hes, hown, hclosed⟩ := closed_of_mem h hquiet hm rfl
    rw [hes]
    cases hclosed with
    | silent => cases hown
    | refused handle => cases List.mem_singleton.1 hown
    | activated written frames hframes => cases List.mem_singleton.1 hown
    | flushed handle written written' frames hframes =>
      obtain rfl := written_of_noMissed hnone hes
      simp only [List.mem_cons, reduceCtorEq, Entry.returned.injEq, true_and, and_true, List.not_mem_nil, or_false,
        false_or] at hown
      obtain rfl := hown
      exact ⟨frames, written', rfl, hframes⟩
  · obtain ⟨es, hes, hown, hclosed⟩ := closed_of_mem h hquiet hm rfl
    rw [hes]
    cases hclosed with
    | silent => cases hown
    | activated written frames hframes => cases List.mem_singleton.1 hown
    | flushed handle written written' frames hframes => simp at hown
    | refused handle =>
      cases List.mem_singleton.1 hown
      rfl

/-- **With no flush between its steps, the log says that every flush was delivered exactly if no completion event was
dropped.** -/
theorem delivered_iff_noMissed : Delivered s ↔ NoMissed s :=
  ⟨noMissed_of_delivered h hquiet, delivered_of_noMissed h hquiet⟩

end Quiescent

/-- **Every flush that returns ok delivers its completion event, exactly if each finds a slot of the Event FMQ free**
when it posts, in every run that leaves no flush between its steps. -/
theorem delivered_iff (timeoutSeconds : UInt32) (descriptions : List SensorDescription) (quantumCount : Nat)
    (ops : List FlowOp)
    (hquiet : Quiescent (Run.run Flow.step (Flow.start timeoutSeconds descriptions quantumCount) ops)) :
    Delivered (Run.run Flow.step (Flow.start timeoutSeconds descriptions quantumCount) ops) ↔
      Run.Steps Flow.step HasRoom (Flow.start timeoutSeconds descriptions quantumCount) ops := by
  have hend := Run.run_of_inv Flow.step Inv inv_step ops (inv_start timeoutSeconds descriptions quantumCount)
  rw [delivered_iff_noMissed hend hquiet, Run.run_iff_steps noMissed_step]
  exact and_iff_right (fun _ _ hm => by cases hm)

theorem quiescent_of_isEmpty {s : Flow} (h : s.pending.isEmpty = true) : Quiescent s := by
  intro call sensorHandle sensor
  rw [Std.ExtTreeMap.isEmpty_iff.1 h, Std.ExtTreeMap.getElem?_empty]
  exact ⟨nofun, nofun⟩

/-- An accelerometer whose thread posts between the steps of a flush. -/
theorem delivered_flushAmongSamples :
    Delivered (Run.run Flow.step
      (Flow.start 200 [{ sensorHandle := 1, type := .accelerometer, flags := 0, delays := ⟨2500, 1000000⟩ }] 16)
      [.activate 1 true, .flush 1, .sensorThread 1 [⟨1000, [0, 0, 0]⟩] { now := 1000, nowCheck := 1000 },
        .postCompletion 1 { now := 1001, nowCheck := 1001 },
        .reportActivate 0 ⟨none, fun _ => 0, { now := 1002, nowCheck := 1002 }⟩,
        .reportFlush 1 ⟨none, fun _ => 0, { now := 1003, nowCheck := 1003 }⟩]) :=
  (delivered_iff 200 _ _ _ (quiescent_of_isEmpty (by decide))).2
    ⟨trivial, trivial, trivial, fun _ _ _ => ⟨_, rfl, by decide⟩, trivial, trivial, trivial⟩

/-- One sample fills the Event FMQ; the flush after it returns ok and its completion event is dropped. -/
theorem not_delivered_queueFull :
    let s := Run.run Flow.step
      (Flow.start 200 [{ sensorHandle := 1, type := .accelerometer, flags := 0, delays := ⟨2500, 1000000⟩ }] 1)
      [.activate 1 true, .reportActivate 0 ⟨none, fun _ => 0, { now := 999, nowCheck := 999 }⟩,
        .sensorThread 1 [⟨1000, [0, 0, 0]⟩] { now := 1000, nowCheck := 1000 }, .flush 1,
        .postCompletion 1 { now := 1001, nowCheck := 1001 },
        .reportFlush 1 ⟨none, fun _ => 0, { now := 1002, nowCheck := 1002 }⟩]
    Quiescent s ∧ ¬ Delivered s := by
  dsimp only
  refine ⟨quiescent_of_isEmpty (by decide), fun h => ?_⟩
  exact absurd (h.counts 1) (by decide)

end HalFlush
end Aidl
end MemsHal
