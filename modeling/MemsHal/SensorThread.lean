import MemsHal.Sensor
import MemsHal.HalReads
import MemsHal.Waiter
/-!
# SensorThread — the thread of a `Sensor`, its wake-ups and its end

`Sensor::run` waits on `mWaitCV` while nobody uses the sensor; the public calls change the sensor under `mRunMutex`
and notify.  `~Sensor` asks the thread to stop under the same mutex and joins it.  `multihal/common/Sensor.cpp` leaves
the scope of the lock first ("or a deadlock will occur"); `aidl/Sensor.cpp` and `2.X/Sensor.cpp` call
`lock.release()`, which gives up the ownership of the mutex and leaves it locked.
-/
namespace MemsHal
namespace SensorThread

open Run Waiter

structure Data where
  sensor : Sensor
  mStopThread : Bool

def inUse (d : Data) : Bool := d.sensor.mIsEnabled || d.sensor.mDirectChannelEnabled

/-- `Sensor::run`; after a wait the loop begins anew. -/
def loop : Waiter.Loop Data where
  running d := !d.mStopThread
  waits d := !inUse d
  ready d := inUse d || d.mStopThread
  resumes _ := false

/-- Whether a public call notifies `mWaitCV`. -/
def notifies : SensorOp → Data → Bool
  | .batch samplingPeriodNs _, d =>
    d.sensor.mSamplingPeriodNs ≠ d.sensor.mSensorInfo.clamp samplingPeriodNs.toInt
  | .activate enable, d => d.sensor.mIsEnabled ≠ enable
  | _, _ => true

/-- What happens between the thread and its sensor: a step of the thread, a public call, the deadlines that an iteration
of the thread sets, and a wake-up without a cause. -/
inductive ThreadOp
  | advance
  | call (op : SensorOp)
  | iterate (nextTime : Int → Int → Int) (currentTime : Int)
  | wake

def ThreadOp.op : ThreadOp → Waiter.Op Data
  | advance => .advance
  | call op => .locked (fun d => { d with sensor := (d.sensor.exec op).1 }) (notifies op)
  | iterate nextTime currentTime =>
    .work fun d => { d with sensor := d.sensor.reschedule nextTime currentTime }
  | wake => .notify

/-- What `~Sensor` writes. -/
def shutDown (d : Data) : Data where
  sensor := { d.sensor with mIsEnabled := false, mDirectChannelEnabled := false }
  mStopThread := true

/-- `~Sensor` of `aidl` and `2.X` up to the join: `lock.release()` does not unlock. -/
def destroyReleasing : Waiter.Op Data := .seize shutDown

/-- `~Sensor` of `multihal/common` up to the join: the lock has a scope of its own. -/
def destroyScoped : Waiter.Op Data := .locked shutDown fun _ => true

def start (sensorInfo : SensorInfo) : Waiter.State Data := ⟨⟨Sensor.fresh sensorInfo, false⟩, .starting, false⟩

def run (s : Waiter.State Data) (ops : List ThreadOp) : Waiter.State Data :=
  Run.run (Waiter.step loop) s (ops.map ThreadOp.op)

/-! ## No wake-up is lost -/

theorem inUse_exec {d : Data} {op : SensorOp} (h : inUse { d with sensor := (d.sensor.exec op).1 } = true) :
    inUse d = true ∨ notifies op d = true := by
  cases op with
  | batch samplingPeriodNs maxReportLatencyNs => exact Or.inl h
  | activate enable =>
    by_cases henable : d.sensor.mIsEnabled = enable
    · rw [Sensor.exec, Sensor.activate, if_neg (not_not.2 henable)] at h
      exact Or.inl h
    · exact Or.inr (decide_eq_true henable)
  | addDirectChannel channelHandle samplingPeriodNs => exact Or.inr rfl
  | stopDirectChannel channelHandle => exact Or.inr rfl
  | removeDirectChannel channelHandle => exact Or.inr rfl

theorem announces_op (s : Waiter.State Data) (op : ThreadOp) :
    Waiter.Announces (fun d => inUse d = true) s op.op := by
  cases op with
  | call op => exact inUse_exec
  | _ => trivial

/-- **The thread never sleeps in the untimed wait while its sensor is in use**, whatever calls, iterations and spurious
wake-ups interleave with its steps. -/
theorem along_awake (sensorInfo : SensorInfo) (ops : List ThreadOp) :
    Along (Waiter.step loop) (fun s => s.position.asleep = true → ¬ inUse s.data = true) (start sensorInfo)
      (ops.map ThreadOp.op) := by
  have hstart : (start sensorInfo).position.asleep = true → ¬ inUse (start sensorInfo).data = true :=
    fun h => absurd h Bool.false_ne_true
  refine along_not_lost (P := fun d => inUse d = true) (s := start sensorInfo) (fun d h => ?_) hstart
    (steps_of_forall _ fun op hop s => ?_)
  · simp [loop, h]
  · obtain ⟨op, -, rfl⟩ := List.mem_map.1 hop
    exact announces_op s op

/-! ## The destructor -/

/-- Before the destructor nobody asks the thread to stop, and it does not. -/
structure Alive (s : Waiter.State Data) : Prop where
  running : s.data.mStopThread = false
  free : s.taken = false
  position : s.position ≠ .ended

theorem alive_step (s : Waiter.State Data) (op : ThreadOp) (h : Alive s) : Alive (Waiter.step loop s op.op) := by
  cases op with
  | advance =>
    refine ⟨h.running, h.free, ?_⟩
    have hpos := h.position
    rcases s with ⟨data, position, taken⟩
    have hrunning := h.running
    cases position <;> simp_all [Waiter.step, ThreadOp.op, next, loop]
    all_goals split <;> simp
  | call op =>
    simp only [ThreadOp.op, Waiter.step]
    split
    · refine ⟨h.running, h.free, ?_⟩
      have hpos := h.position
      rcases s with ⟨data, position, taken⟩
      cases position <;> simp_all [Position.notified]
      split <;> simp
    · exact h
  | iterate nextTime currentTime =>
    simp only [ThreadOp.op, Waiter.step]
    split
    · exact ⟨h.running, h.free, h.position⟩
    · exact h
  | wake =>
    refine ⟨h.running, h.free, ?_⟩
    have hpos := h.position
    rcases s with ⟨data, position, taken⟩
    cases position <;> simp_all [Waiter.step, ThreadOp.op, Position.notified]

theorem alive_run (sensorInfo : SensorInfo) (ops : List ThreadOp) : Alive (run (start sensorInfo) ops) := by
  unfold run
  rw [Run.run, List.foldl_map]
  exact run_of_inv (fun s op => Waiter.step loop s (ThreadOp.op op)) Alive alive_step ops ⟨rfl, rfl, by simp [start]⟩

theorem holds_notified (p : Position) : p.notified.holds = p.holds := by cases p <;> rfl

/-- **The join of `~Sensor` returns exactly if the lock had a scope of its own**: given up by `lock.release()`, the mutex
stays locked and the thread, which needs it to see `mStopThread`, never ends, whatever happens; else its own next six
steps end it. -/
theorem destroy_joins (sensorInfo : SensorInfo) (before : List ThreadOp)
    (hfree : (run (start sensorInfo) before).free = true) :
    (∀ after, (Run.run (Waiter.step loop) (Waiter.step loop (run (start sensorInfo) before) destroyReleasing)
      after).position ≠ .ended) ∧
    (advances loop (Waiter.step loop (run (start sensorInfo) before) destroyScoped) 6).position = .ended := by
  have halive := alive_run sensorInfo before
  generalize run (start sensorInfo) before = s at hfree halive
  have hholds : s.position.holds = false := by
    cases hh : s.position.holds with
    | false => rfl
    | true => simp [State.free, hh] at hfree
  constructor
  · intro after
    have hseized : Waiter.step loop s destroyReleasing = ⟨shutDown s.data, s.position.notified, true⟩ := by
      simp [destroyReleasing, Waiter.step, hfree]
    rw [hseized]
    refine along_not_ended rfl ((holds_notified _).trans hholds) ?_ after
    have hpos := halive.position
    rcases s with ⟨data, position, taken⟩
    cases position <;> simp_all [Position.notified]
  · have hstopped : Waiter.step loop s destroyScoped = ⟨shutDown s.data, s.position.notified, s.taken⟩ := by
      simp [destroyScoped, Waiter.step, hfree]
    rw [hstopped]
    refine advances_ended halive.free rfl (by simp [loop, shutDown]) ?_
    rcases s with ⟨data, position, taken⟩
    cases position <;> simp_all [Position.notified, Position.asleep, Position.holds]

/-- A thread that sleeps when the destructor comes. -/
theorem destroy_joins_asleep :
    (∀ after, (Run.run (Waiter.step loop) (Waiter.step loop
      (run (start ⟨1000, 200000⟩) [.advance, .advance, .advance, .advance]) destroyReleasing) after).position ≠ .ended) ∧
    (advances loop (Waiter.step loop
      (run (start ⟨1000, 200000⟩) [.advance, .advance, .advance, .advance]) destroyScoped) 6).position = .ended :=
  destroy_joins ⟨1000, 200000⟩ [.advance, .advance, .advance, .advance] rfl

end SensorThread
end MemsHal
