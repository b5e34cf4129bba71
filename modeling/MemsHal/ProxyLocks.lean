import Mathlib.Data.Fintype.Sum
import Mathlib.Data.Fintype.Prod
import MemsHal.SensorLocks
/-!
# ProxyLocks — the threads and mutexes of `multihal/2.X/HalProxy` over Bosch sub-HALs

A post of a sub-HAL takes `mWakelockMutex` for its `ScopedWakelock`, then `mEventQueueWriteMutex` and under it
`mWakelockMutex` again; the two threads of the proxy take the same mutexes.  `mWakelockMutex` is recursive.  Callers are
the framework's threads; a thread may run each of its functions at any values of what the function reads, the condition
of its loop apart.

Every loop sleeps on a condition variable at its head.  Whether `stopThreads` wakes the threads that it joins is not
decided here: a join may wait for a thread that sleeps.
-/
namespace MemsHal
namespace MultiHal
namespace ProxyLocks

open LockOrder LockOrder.Program

universe u v w x

/-- The mutexes of the proxy and of its sub-HALs, and the lives of the threads. -/
inductive Lock (S : Type u) (H : Type v) (File : Type w)
  | mDynamicSensorsMutex
  | mPendingWritesThread
  | mWakelockThread
  | mChannelMutex (subHal : S)
  | runThread (subHal : S) (handle : H)
  | mRunMutex (subHal : S) (handle : H)
  | mEventQueueWriteMutex
  | mWakelockMutex
  | mSysfsMutex (file : File)
  deriving DecidableEq

variable {S : Type u} {H : Type v} {File : Type w} {Caller : Type x}

/-- Locks are taken from high to low. -/
def Lock.level : Lock S H File → Nat
  | mDynamicSensorsMutex => 4
  | mPendingWritesThread => 4
  | mWakelockThread => 4
  | mChannelMutex _ => 4
  | runThread _ _ => 4
  | mRunMutex _ _ => 3
  | mEventQueueWriteMutex => 2
  | mWakelockMutex => 1
  | mSysfsMutex _ => 0

def recursive : Lock S H File → Prop
  | .mWakelockMutex => True
  | _ => False

/-! ### Reference counting -/

/-- `incrementRefCountAndMaybeAcquireWakelock` and `decrementRefCountAndMaybeReleaseWakelock`. -/
def countRefs (running : Bool) : Program (Lock S H File) Bool :=
  if running then within .mWakelockMutex .done else .done

def resetSharedWakelock (running : Bool) : Program (Lock S H File) Bool := within .mWakelockMutex (countRefs running)

/-! ### Posts of a sub-HAL -/

/-- A post: whether it is of a wake-up sensor, whether there are events, and `mThreadsRun` each time it is read. -/
structure Post where
  wakeup : Bool
  anyEvents : Bool
  runsAtCreation : Bool
  runsAtPost : Bool
  runsAtCount : Bool
  runsAtRelease : Bool

def Post.locked (post : Post) : Bool := post.wakeup && post.runsAtCreation

def createScopedWakelock (post : Post) : Program (Lock S H File) Bool :=
  if post.wakeup then countRefs post.runsAtCreation else .done

def postEventsToMessageQueue (post : Post) : Program (Lock S H File) Bool :=
  within .mEventQueueWriteMutex (if post.locked then countRefs post.runsAtCount else .done)

def releaseScopedWakelock (post : Post) : Program (Lock S H File) Bool :=
  if post.locked then countRefs post.runsAtRelease else .done

def postEvents (post : Post) : Program (Lock S H File) Bool :=
  (createScopedWakelock post).andThen
    ((if post.anyEvents && post.runsAtPost then postEventsToMessageQueue post else .done).andThen
      (releaseScopedWakelock post))

def sensor (s : S × H) : SensorLocks (Lock S H File) File Post where
  runMutex := .mRunMutex s.1 s.2
  runThread := .runThread s.1 s.2
  channelMutex := .mChannelMutex s.1
  sysfsMutex := .mSysfsMutex
  postEvents := postEvents

/-! ### The threads of the proxy -/

/-- The mutex is given up in the waits and for the blocking writes, and held when the loop is left. -/
def handlePendingWrites : Program (Lock S H File) Bool :=
  looping .mPendingWritesThread (within .mEventQueueWriteMutex .done)

/-- A hold of the mutex, up to a wait or a blocking write; `some` is a write that failed with wake-up events in it, and
`mThreadsRun` then. -/
def pendingWritesPass (dropped : Option Bool) : Program (Lock S H File) Bool :=
  (within .mEventQueueWriteMutex .done).andThen (dropped.elim .done countRefs)

/-- What `handleWakelocks` does with the mutex held, and `mThreadsRun` then. -/
inductive WakelockWork
  | reset (running : Bool)
  | acknowledge (running : Bool)

def WakelockWork.program : WakelockWork → Program (Lock S H File) Bool
  | reset running => resetSharedWakelock running
  | acknowledge running => countRefs running

/-- A hold of the mutex, up to a wait or a blocking read. -/
def wakelockPass (works : List WakelockWork) : Program (Lock S H File) Bool :=
  within .mWakelockMutex (each works WakelockWork.program)

/-- In its last hold of the mutex the thread may count what a read has brought, and resets the wake lock. -/
def handleWakelocks (last : List WakelockWork) : Program (Lock S H File) Bool :=
  looping .mWakelockThread (wakelockPass last)

/-! ### The calls of the framework -/

abbrev Disabled (S : Type u) (H : Type v) (File : Type w) := List ((S × H) × Outcome File Post)

/-- What is stored is `mThreadsRun`; the threads that are joinable are joined. -/
def stopThreads (pendingWrites wakelock : Bool) : Program (Lock S H File) Bool :=
  .store (fun _ => false)
    ((if pendingWrites then join .mPendingWritesThread else .done).andThen
      (if wakelock then join .mWakelockThread else .done))

def disable (sensors : Disabled S H File) : Program (Lock S H File) Bool :=
  each sensors fun s => (sensor s.1).activate false s.2

def disableAllSensors (sensors dynamicSensors : Disabled S H File) : Program (Lock S H File) Bool :=
  (disable sensors).andThen (within .mDynamicSensorsMutex (disable dynamicSensors))

def initializeCommon (pendingWrites wakelock running : Bool) (sensors dynamicSensors : Disabled S H File)
    (channels : Disabled S H File) : Program (Lock S H File) Bool :=
  (stopThreads pendingWrites wakelock).andThen
    ((resetSharedWakelock running).andThen
      ((disableAllSensors sensors dynamicSensors).andThen
        (.store (fun _ => true) (removeDirectChannels sensor channels))))

/-- `onDynamicSensorsConnected` and `onDynamicSensorsDisconnected`, up to the callback, which runs without the mutex. -/
def onDynamicSensors : Program (Lock S H File) Bool := within .mDynamicSensorsMutex .done

/-- The calls of the framework, and those of the sub-HALs on the proxy, that take a lock. -/
inductive Call : Program (Lock S H File) Bool → Prop
  | activate (s enable o) : Call ((sensor s).activate enable o)
  | batch (s o) : Call ((sensor s).batch o)
  | flush (s accepted o) : Call ((sensor s).flush accepted o)
  | configDirectReport (subHal) (report : Report H File Post) :
      Call (lockConfigDirectReport (.mChannelMutex subHal) (fun h => sensor (subHal, h)) report)
  | registerDirectChannel (subHal) : Call (lockRegisterDirectChannel (.mChannelMutex subHal))
  | unregisterDirectChannel (subHal) (sensors : List (H × Outcome File Post)) :
      Call (lockUnregisterDirectChannel (.mChannelMutex subHal) (fun h => sensor (subHal, h)) sensors)
  | initializeCommon (pendingWrites wakelock running sensors dynamicSensors channels) :
      Call (initializeCommon pendingWrites wakelock running sensors dynamicSensors channels)
  | stopThreads (pendingWrites wakelock) : Call (stopThreads pendingWrites wakelock)
  | onDynamicSensors : Call onDynamicSensors

inductive Thread (S : Type u) (H : Type v) (Caller : Type x)
  | caller (c : Caller)
  | sensor (subHal : S) (handle : H)
  | pendingWrites
  | wakelock
  deriving DecidableEq

def Thread.equiv (S : Type u) (H : Type v) (Caller : Type x) : Caller ⊕ (S × H) ⊕ Bool ≃ Thread S H Caller where
  toFun
    | .inl c => .caller c
    | .inr (.inl s) => .sensor s.1 s.2
    | .inr (.inr false) => .pendingWrites
    | .inr (.inr true) => .wakelock
  invFun
    | .caller c => .inl c
    | .sensor subHal handle => .inr (.inl (subHal, handle))
    | .pendingWrites => .inr (.inr false)
    | .wakelock => .inr (.inr true)
  left_inv := by rintro (c | s | _ | _) <;> rfl
  right_inv := by rintro (c | s | _ | _) <;> rfl

instance [Fintype S] [Fintype H] [Fintype Caller] : Fintype (Thread S H Caller) :=
  Fintype.ofEquiv _ (Thread.equiv S H Caller)

/-- What a thread may begin; the proxy starts its threads with `mThreadsRun` set. -/
def programs : Thread S H Caller → Bool → Set (Program (Lock S H File) Bool)
  | .caller _, _ => {p | Call p}
  | .sensor subHal handle, _ => {(sensor (subHal, handle)).run}
  | .pendingWrites, mThreadsRun => {p | mThreadsRun = true ∧ p = handlePendingWrites}
  | .wakelock, mThreadsRun => {p | mThreadsRun = true ∧ ∃ last, p = handleWakelocks last}

def passes : Lock S H File → Set (Program (Lock S H File) Bool)
  | .runThread subHal handle => {p | ∃ i, p = (sensor (subHal, handle)).pass i}
  | .mPendingWritesThread => {p | ∃ dropped, p = pendingWritesPass dropped}
  | .mWakelockThread => {p | ∃ works, p = wakelockPass works}
  | _ => ∅

/-- Every loop sleeps on a condition variable; no call stops the thread of a sensor. -/
def system : System (Lock S H File) Bool (Thread S H Caller) where
  recursive := recursive
  programs := programs
  passes := passes
  running
    | .runThread _ _, _ => True
    | _, mThreadsRun => mThreadsRun = true
  sleeps _ := True

/-! ## Every function keeps the order -/

section Order

variable [DecidableEq S] [DecidableEq H] [DecidableEq File] {held : List (Lock S H File)}

/-- `p` may run while locks from level `n` up are held. -/
abbrev Keeps (p : Program (Lock S H File) Bool) (n : Nat) : Prop := FitsBelow Lock.level recursive p n

theorem keeps_countRefs (running : Bool) : Keeps (countRefs running : Program (Lock S H File) Bool) 2 :=
  fitsBelow_ite (fitsBelow_within fitsBelow_done) fitsBelow_done

/-- Under `mWakelockMutex` the count is taken again. -/
theorem fits_countRefs (hmem : .mWakelockMutex ∈ held) (running : Bool) :
    Fits Lock.level recursive held (countRefs running) := by
  unfold countRefs
  split
  · exact fits_again trivial hmem fits_done
  · exact fits_done

theorem keeps_resetSharedWakelock (running : Bool) :
    Keeps (resetSharedWakelock running : Program (Lock S H File) Bool) 2 :=
  fun _ hheld => fits_within hheld (fits_countRefs List.mem_cons_self running)

theorem fits_wakelockWork (work : WakelockWork) :
    Fits Lock.level recursive [.mWakelockMutex, .mWakelockThread] (work.program : Program (Lock S H File) Bool) := by
  cases work with
  | reset running =>
    exact fits_again trivial List.mem_cons_self (fits_countRefs List.mem_cons_self running)
  | acknowledge running => exact fits_countRefs List.mem_cons_self running

theorem keeps_postEvents (post : Post) : Keeps (postEvents post : Program (Lock S H File) Bool) 3 := by
  have hcreate : Keeps (createScopedWakelock post : Program (Lock S H File) Bool) 3 :=
    (fitsBelow_ite (keeps_countRefs _) fitsBelow_done).mono (Nat.le_succ 2)
  have hpost : Keeps (postEventsToMessageQueue post : Program (Lock S H File) Bool) 3 :=
    fitsBelow_within (fitsBelow_ite (keeps_countRefs _) fitsBelow_done)
  have hrelease : Keeps (releaseScopedWakelock post : Program (Lock S H File) Bool) 3 :=
    (fitsBelow_ite (keeps_countRefs _) fitsBelow_done).mono (Nat.le_succ 2)
  exact hcreate.andThen ((fitsBelow_ite hpost fitsBelow_done).andThen hrelease)

theorem layered_sensor (s : S × H) :
    SensorLocks.Layered Lock.level recursive (sensor s : SensorLocks (Lock S H File) File Post) where
  sysfs _ := by simp [sensor, Lock.level]
  post := keeps_postEvents
  channel := by simp [sensor, Lock.level]
  thread := by simp [sensor, Lock.level]
  apart := by simp [sensor]

theorem keeps_pendingWritesPass (dropped : Option Bool) :
    Keeps (pendingWritesPass dropped : Program (Lock S H File) Bool) 4 := by
  have hhold : Keeps (within .mEventQueueWriteMutex .done : Program (Lock S H File) Bool) 4 :=
    (fitsBelow_within fitsBelow_done).mono (Nat.le_succ 3)
  cases dropped with
  | none => exact hhold.andThen fitsBelow_done
  | some running => exact hhold.andThen ((keeps_countRefs running).mono (Nat.le_add_right 2 2))

theorem fits_wakelockPass (works : List WakelockWork) :
    Fits Lock.level recursive [.mWakelockThread] (wakelockPass works : Program (Lock S H File) Bool) :=
  fits_within (by simp [Lock.level]) (fits_each fun work _ => fits_wakelockWork work)

theorem keeps_disable (sensors : Disabled S H File) : Keeps (disable sensors) 4 :=
  fitsBelow_each fun s => SensorLocks.fits_activate (layered_sensor s.1) _ _

theorem keeps_stopThreads (pendingWrites wakelock : Bool) :
    Keeps (stopThreads pendingWrites wakelock : Program (Lock S H File) Bool) 5 :=
  fitsBelow_store ((fitsBelow_ite (fitsBelow_within fitsBelow_done) fitsBelow_done).andThen
    (fitsBelow_ite (fitsBelow_within fitsBelow_done) fitsBelow_done))

theorem keeps_initializeCommon (pendingWrites wakelock running : Bool)
    (sensors dynamicSensors channels : Disabled S H File) :
    Keeps (initializeCommon pendingWrites wakelock running sensors dynamicSensors channels) 5 := by
  have hdisable : Keeps (disableAllSensors sensors dynamicSensors) 5 :=
    ((keeps_disable sensors).mono (Nat.le_succ 4)).andThen (fitsBelow_within (keeps_disable dynamicSensors))
  have hremove : Keeps (removeDirectChannels sensor channels) 5 :=
    fits_removeDirectChannels layered_sensor (fun _ => (by decide : 3 < 5)) channels
  have hreset : Keeps (resetSharedWakelock running : Program (Lock S H File) Bool) 5 :=
    (keeps_resetSharedWakelock running).mono (by decide)
  exact (keeps_stopThreads _ _).andThen (hreset.andThen (hdisable.andThen (fitsBelow_store hremove)))

theorem keeps_call {p : Program (Lock S H File) Bool} (h : Call p) : Keeps p 5 := by
  have hlayered : ∀ (subHal : S) (h : H), SensorLocks.Layered Lock.level recursive
      (sensor (subHal, h) : SensorLocks (Lock S H File) File Post) := fun _ _ => layered_sensor _
  cases h with
  | activate s enable o => exact (SensorLocks.fits_activate (layered_sensor s) _ _).mono (Nat.le_succ 4)
  | batch s o => exact (SensorLocks.fits_driver (layered_sensor s) _).mono (Nat.le_succ 4)
  | flush s accepted o => exact (SensorLocks.fits_flush (layered_sensor s) _ _).mono (Nat.le_add_right 3 2)
  | configDirectReport subHal report => exact fits_configDirectReport (hlayered subHal) (fun _ => rfl) report
  | registerDirectChannel subHal => exact fitsBelow_within fitsBelow_done
  | unregisterDirectChannel subHal sensors => exact fits_unregister (hlayered subHal) (fun _ => rfl) sensors
  | initializeCommon pendingWrites wakelock running sensors dynamicSensors channels =>
    exact keeps_initializeCommon _ _ _ _ _ _
  | stopThreads pendingWrites wakelock => exact keeps_stopThreads _ _
  | onDynamicSensors => exact fitsBelow_within fitsBelow_done

theorem fitting_system : (system : System (Lock S H File) Bool (Thread S H Caller)).Fitting Lock.level where
  programs t mThreadsRun p h := by
    have hnone : ∀ k ∈ ([] : List (Lock S H File)), 5 ≤ k.level := by simp
    cases t with
    | caller c => exact keeps_call h _ hnone
    | sensor subHal handle =>
      obtain rfl := h
      exact fits_looping fits_done
    | pendingWrites =>
      obtain ⟨-, rfl⟩ := h
      exact fits_looping (keeps_pendingWritesPass none _ (by simp [Lock.level]))
    | wakelock =>
      obtain ⟨-, last, rfl⟩ := h
      exact fits_looping (fits_wakelockPass last)
  passes life p h := by
    cases life with
    | runThread subHal handle =>
      obtain ⟨i, rfl⟩ := h
      exact SensorLocks.fits_pass (layered_sensor (subHal, handle)) i
    | mPendingWritesThread =>
      obtain ⟨dropped, rfl⟩ := h
      exact keeps_pendingWritesPass dropped _ (by simp [Lock.level])
    | mWakelockThread =>
      obtain ⟨works, rfl⟩ := h
      exact fits_wakelockPass works
    | mDynamicSensorsMutex | mChannelMutex _ | mRunMutex _ _ | mEventQueueWriteMutex | mWakelockMutex
    | mSysfsMutex _ => exact h.elim

end Order

/-! ## No deadlock -/

section Live

variable [DecidableEq S] [Fintype S] [DecidableEq H] [Fintype H] [DecidableEq Caller] [Fintype Caller]
  [DecidableEq File]

/-- **The Multi-HAL never deadlocks** over Bosch sub-HALs: in every state that any number of callers, the sensor threads
of all sub-HALs and the two threads of the proxy reach together. -/
theorem live_multihal {s : State (Lock S H File) Bool (Thread S H Caller)} (h : Reachable system false s) :
    Live system s :=
  live_of_fits fitting_system h

end Live

/-- A caller in `batch` while the sensor's thread holds `mRunMutex`. -/
def contended : State (Lock Unit Unit Unit) Bool (Thread Unit Unit Unit) where
  threads
    | .caller _ => ⟨[], (sensor ((), ())).batch ⟨false, [], [], ⟨true, true, true, true, true, true⟩⟩⟩
    | .sensor _ _ => ⟨[.mRunMutex () (), .runThread () ()],
        .unlock (.mRunMutex () ()) (.loop (.runThread () ()) (.unlock (.runThread () ()) .done))⟩
    | _ => ⟨[], .done⟩
  data := false

theorem reachable_contended : Reachable system false contended := by
  have hprogram : (sensor ((), ())).run ∈
      (system : System (Lock Unit Unit Unit) Bool (Thread Unit Unit Unit)).programs (.sensor () ()) false := rfl
  have hpass : (sensor ((), ())).pass none ∈
      (system : System (Lock Unit Unit Unit) Bool (Thread Unit Unit Unit)).passes (.runThread () ()) := ⟨none, rfl⟩
  have hgoes : ∀ d, (system : System (Lock Unit Unit Unit) Bool (Thread Unit Unit Unit)).running (.runThread () ()) d :=
    fun _ => trivial
  have hbatch : (sensor ((), ())).batch ⟨false, [], [], ⟨true, true, true, true, true, true⟩⟩ ∈
      (system : System (Lock Unit Unit Unit) Bool (Thread Unit Unit Unit)).programs (.caller ()) false :=
    Call.batch ((), ()) _
  have hbegins : Reachable (system : System (Lock Unit Unit Unit) Bool (Thread Unit Unit Unit)) false _ :=
    .tail .refl (.begins rfl hprogram)
  have hlife := hbegins.tail (.work ⟨.sensor () (), _, _, .lock rfl (free_set_idle _ _ _ _ _)
    fun h => absurd h List.not_mem_nil, rfl⟩)
  have hpasses := hlife.tail (.goOn (t := .sensor () ()) rfl (hgoes _) hpass)
  have hholds := hpasses.tail (.work ⟨.sensor () (), _, _, .lock rfl (fun u hu => by
      rcases u with ⟨⟩ | _ | _ | _
      · exact List.not_mem_nil
      · exact absurd rfl hu
      · exact List.not_mem_nil
      · exact List.not_mem_nil) (fun h => by cases List.mem_singleton.1 h), rfl⟩)
  have hcall := hholds.tail (.begins rfl hbatch)
  unfold Reachable
  convert hcall using 1
  refine congrArg₂ State.mk (funext fun t => ?_) rfl
  rcases t with ⟨⟩ | _ | _ | _ <;> rfl

theorem live_multihal_contended : Waits contended (.caller ()) (.sensor () ()) ∧ Live system contended :=
  ⟨⟨by simp, .mRunMutex () (), _, rfl, List.mem_cons_self⟩, live_multihal reachable_contended⟩

end ProxyLocks
end MultiHal
end MemsHal
