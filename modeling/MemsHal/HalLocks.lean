import Mathlib.Data.Fintype.Sum
import MemsHal.SensorLocks
/-!
# HalLocks — the threads and mutexes of `aidl/SensorsHalAidl`

Callers are the framework's threads, any number of them; each sensor has its thread (`Sensor::run`), and one thread
reads the wake-lock queue while `mReadWakeLockQueueRun` is set.  A thread may run each of its functions at any values of
what the function reads, that flag apart.

`initialize` clears the flag, joins the wake-lock thread and sets the flag for a new one.  Two of these calls at once may
join the new thread, which does not end; so every call returns if there is one of them at a time.
-/
namespace MemsHal
namespace Aidl
namespace HalLocks

open LockOrder LockOrder.Program

universe u v w

/-- The mutexes of the HAL and the lives of its threads. -/
inductive Lock (H : Type u) (File : Type v)
  | channelMutex
  | wakeLockThread
  | runThread (handle : H)
  | runMutex (handle : H)
  | writeLock
  | wakeLockLock
  | sysfsMutex (file : File)
  deriving DecidableEq

/-- Locks are taken from high to low. -/
def Lock.level {H : Type u} {File : Type v} : Lock H File → Nat
  | channelMutex => 4
  | wakeLockThread => 4
  | runThread _ => 4
  | runMutex _ => 3
  | writeLock => 2
  | wakeLockLock => 1
  | sysfsMutex _ => 0

/-- Whether the event queue takes the events of a post, and whether they belong to a wake-up sensor. -/
structure Post where
  written : Bool
  wakeup : Bool

variable {Caller : Type w} {H : Type u} {File : Type v}

def updateWakeLock : Program (Lock H File) Bool := within .wakeLockLock .done

def postEvents (post : Post) : Program (Lock H File) Bool :=
  within .writeLock (if post.written && post.wakeup then updateWakeLock else .done)

def sensor (handle : H) : SensorLocks (Lock H File) File Post where
  runMutex := .runMutex handle
  runThread := .runThread handle
  channelMutex := .channelMutex
  sysfsMutex := .sysfsMutex
  postEvents := postEvents

/-- The wake-lock thread is joined if it is running; what is stored is `mReadWakeLockQueueRun`. -/
def stopWakeLockThread (running : Bool) : Program (Lock H File) Bool :=
  if running then .store (fun _ => false) (join .wakeLockThread) else .done

/-- `initialize` takes no `mChannelMutex`. -/
def initializeHal (sensors : List (H × Outcome File Post)) (running : Bool) (channels : List (H × Outcome File Post)) :
    Program (Lock H File) Bool :=
  (each sensors fun s => (sensor s.1).activate false s.2).andThen
    ((stopWakeLockThread running).andThen
      ((removeDirectChannels sensor channels).andThen (.store (fun _ => true) .done)))

/-- The loop of the wake-lock thread; a pass reads the Wake Lock FMQ and then does `updateWakeLock`. -/
def readWakeLockFMQ : Program (Lock H File) Bool := looping .wakeLockThread .done

/-- The calls of the framework that take a lock. -/
inductive Call : Program (Lock H File) Bool → Prop
  | activate (handle enable o) : Call ((sensor handle).activate enable o)
  | batch (handle o) : Call ((sensor handle).batch o)
  | flush (handle accepted o) : Call ((sensor handle).flush accepted o)
  | configDirectReport (report) : Call (lockConfigDirectReport .channelMutex sensor report)
  | registerDirectChannel : Call (lockRegisterDirectChannel .channelMutex)
  | unregisterDirectChannel (sensors) : Call (lockUnregisterDirectChannel .channelMutex sensor sensors)
  | initializeHal (sensors running channels) : Call (initializeHal sensors running channels)

inductive Thread (Caller : Type w) (H : Type u)
  | caller (c : Caller)
  | sensor (handle : H)
  | wakeLock
  deriving DecidableEq

def Thread.equiv (Caller : Type w) (H : Type u) : Caller ⊕ H ⊕ Unit ≃ Thread Caller H where
  toFun
    | .inl c => .caller c
    | .inr (.inl handle) => .sensor handle
    | .inr (.inr _) => .wakeLock
  invFun
    | .caller c => .inl c
    | .sensor handle => .inr (.inl handle)
    | .wakeLock => .inr (.inr ())
  left_inv := by rintro (c | handle | ⟨⟩) <;> rfl
  right_inv := by rintro (c | handle | _) <;> rfl

instance [Fintype Caller] [Fintype H] : Fintype (Thread Caller H) :=
  Fintype.ofEquiv _ (Thread.equiv Caller H)

/-- What a thread of the HAL may begin; the wake-lock thread is started with its flag set. -/
def programs : Thread Caller H → Bool → Set (Program (Lock H File) Bool)
  | .caller _, _ => {p | Call p}
  | .sensor handle, _ => {(sensor handle).run}
  | .wakeLock, mReadWakeLockQueueRun => {p | mReadWakeLockQueueRun = true ∧ p = readWakeLockFMQ}

def passes : Lock H File → Set (Program (Lock H File) Bool)
  | .runThread handle => {p | ∃ i, p = (sensor handle).pass i}
  | .wakeLockThread => {updateWakeLock}
  | _ => ∅

/-- No mutex of the HAL is recursive; a sensor's thread sleeps on `mWaitCV`, and no call stops it. -/
def system : System (Lock H File) Bool (Thread Caller H) where
  recursive _ := False
  programs := programs
  passes := passes
  running
    | .runThread _, _ => True
    | _, mReadWakeLockQueueRun => mReadWakeLockQueueRun = true
  sleeps
    | .runThread _ => True
    | _ => False

/-! ## Every function keeps the order -/

section Order

variable [DecidableEq H] [DecidableEq File]

/-- `p` may run while locks from level `n` up are held. -/
abbrev Keeps (p : Program (Lock H File) Bool) (n : Nat) : Prop := FitsBelow Lock.level (fun _ => False) p n

theorem keeps_updateWakeLock : Keeps (updateWakeLock : Program (Lock H File) Bool) 2 :=
  fitsBelow_within fitsBelow_done

theorem keeps_postEvents (post : Post) : Keeps (postEvents post : Program (Lock H File) Bool) 3 :=
  fitsBelow_within (fitsBelow_ite keeps_updateWakeLock fitsBelow_done)

theorem layered_sensor (handle : H) :
    SensorLocks.Layered Lock.level (fun _ => False) (sensor handle : SensorLocks (Lock H File) File Post) where
  sysfs _ := by simp [sensor, Lock.level]
  post := keeps_postEvents
  channel := by simp [sensor, Lock.level]
  thread := by simp [sensor, Lock.level]
  apart := by simp [sensor]

theorem keeps_initialize (sensors : List (H × Outcome File Post)) (running : Bool)
    (channels : List (H × Outcome File Post)) : Keeps (initializeHal sensors running channels) 5 := by
  have hdisable : Keeps (each sensors fun s => (sensor s.1).activate false s.2) 5 :=
    fitsBelow_each fun s => (SensorLocks.fits_activate (layered_sensor s.1) _ _).mono (Nat.le_succ 4)
  have hjoin : Keeps (stopWakeLockThread running : Program (Lock H File) Bool) 5 :=
    fitsBelow_ite (fitsBelow_store (fitsBelow_within fitsBelow_done)) fitsBelow_done
  have hremove : Keeps (removeDirectChannels sensor channels) 5 :=
    fits_removeDirectChannels layered_sensor (fun _ => (by decide : 3 < 5)) channels
  exact hdisable.andThen (hjoin.andThen (hremove.andThen (fitsBelow_store fitsBelow_done)))

theorem keeps_call {p : Program (Lock H File) Bool} (h : Call p) : Keeps p 5 := by
  cases h with
  | activate handle enable o => exact (SensorLocks.fits_activate (layered_sensor handle) _ _).mono (Nat.le_succ 4)
  | batch handle o => exact (SensorLocks.fits_driver (layered_sensor handle) _).mono (Nat.le_succ 4)
  | flush handle accepted o =>
    exact (SensorLocks.fits_flush (layered_sensor handle) _ _).mono (Nat.le_add_right 3 2)
  | configDirectReport report => exact fits_configDirectReport layered_sensor (fun _ => rfl) report
  | registerDirectChannel => exact fitsBelow_within fitsBelow_done
  | unregisterDirectChannel sensors => exact fits_unregister layered_sensor (fun _ => rfl) sensors
  | initializeHal sensors running channels => exact keeps_initialize sensors running channels

theorem fitting_system : (system : System (Lock H File) Bool (Thread Caller H)).Fitting Lock.level where
  programs t mReadWakeLockQueueRun p h := by
    have hnone : ∀ k ∈ ([] : List (Lock H File)), 5 ≤ k.level := by simp
    cases t with
    | caller c => exact keeps_call h _ hnone
    | sensor handle =>
      obtain rfl := h
      exact fits_looping fits_done
    | wakeLock =>
      obtain ⟨-, rfl⟩ := h
      exact fits_looping fits_done
  passes life p h := by
    cases life with
    | runThread handle =>
      obtain ⟨i, rfl⟩ := h
      exact SensorLocks.fits_pass (layered_sensor handle) i
    | wakeLockThread =>
      obtain rfl := h
      exact keeps_updateWakeLock _ (by simp [Lock.level])
    | channelMutex | runMutex _ | writeLock | wakeLockLock | sysfsMutex _ => exact h.elim

end Order

/-! ## Who joins the wake-lock thread has cleared its flag -/

section Join

/-- Only callers join, and only the wake-lock thread, with `mReadWakeLockQueueRun` cleared. -/
def okay : Thread Caller H → Lock H File → Bool → Prop
  | .caller _, .wakeLockThread, mReadWakeLockQueueRun => mReadWakeLockQueueRun = false
  | .caller _, .runThread _, _ => False
  | .sensor handle, .runThread handle', _ => handle = handle'
  | .sensor _, .wakeLockThread, _ => False
  | .wakeLock, .runThread _, _ => False
  | _, _, _ => True

/-- Whose life it is. -/
def own : Thread Caller H → Lock H File → Prop
  | .sensor handle, .runThread handle' => handle = handle'
  | .wakeLock, .wakeLockThread => True
  | _, _ => False

theorem silent_updateWakeLock (t : Thread Caller H) :
    Silent okay own t (updateWakeLock : Program (Lock H File) Bool) := by
  refine silent_within (fun d => ?_) silent_done
  cases t <;> trivial

theorem unconditional_sensor (t : Thread Caller H) (handle : H) :
    SensorLocks.Unconditional okay own t (sensor handle : SensorLocks (Lock H File) File Post) where
  run d := by cases t <;> trivial
  sysfs file d := by cases t <;> trivial
  post p := by
    refine silent_within (fun d => ?_) (silent_ite (silent_updateWakeLock t) silent_done)
    cases t <;> trivial

theorem proper_initialize (c : Caller) (sensors : List (H × Outcome File Post)) (running : Bool)
    (channels : List (H × Outcome File Post)) :
    Proper okay own (.caller c : Thread Caller H) (initializeHal sensors running channels) fun _ => True := by
  have hsensor : ∀ handle, SensorLocks.Unconditional okay own (.caller c : Thread Caller H)
      (sensor handle : SensorLocks (Lock H File) File Post) := unconditional_sensor _
  have hstart : ∀ A, Proper okay own (.caller c : Thread Caller H)
      ((removeDirectChannels sensor channels).andThen (.store (fun _ => true) .done)) A := fun A =>
    (silent_removeDirectChannels hsensor channels).andThen_proper (q := .store (fun _ => true) .done) trivial
  refine Silent.andThen_proper (silent_each fun s => SensorLocks.silent_activate (hsensor s.1) _ _) ?_
  cases running with
  | false => exact hstart _
  | true => exact ⟨fun d ⟨_, _, hd⟩ => hd.symm, hstart _⟩

theorem proper_call (c : Caller) {p : Program (Lock H File) Bool} (h : Call p) :
    Proper okay own (.caller c : Thread Caller H) p fun _ => True := by
  have hsensor : ∀ handle, SensorLocks.Unconditional okay own (.caller c : Thread Caller H)
      (sensor handle : SensorLocks (Lock H File) File Post) := unconditional_sensor _
  have hchannel : ∀ d, okay (.caller c : Thread Caller H) (.channelMutex : Lock H File) d := fun _ => trivial
  cases h with
  | activate handle enable o => exact (SensorLocks.silent_activate (hsensor handle) _ _).proper _
  | batch handle o => exact (SensorLocks.silent_driver (hsensor handle) _).proper _
  | flush handle accepted o => exact (SensorLocks.silent_flush (hsensor handle) _ _).proper _
  | configDirectReport report => exact (silent_configDirectReport hsensor hchannel report).proper _
  | registerDirectChannel => exact (silent_within hchannel silent_done).proper _
  | unregisterDirectChannel sensors => exact (silent_unregister hsensor hchannel sensors).proper _
  | initializeHal sensors running channels => exact proper_initialize c sensors running channels

theorem waiting_system : (system : System (Lock H File) Bool (Thread Caller H)).Waiting okay own where
  programs t mReadWakeLockQueueRun p h := by
    cases t with
    | caller c => exact proper_call c h
    | sensor handle =>
      obtain rfl := h
      have hlife : ∀ d, okay (.sensor handle : Thread Caller H) (.runThread handle : Lock H File) d := fun _ => rfl
      exact (silent_looping hlife rfl silent_done).proper _
    | wakeLock =>
      obtain ⟨-, rfl⟩ := h
      have hlife : ∀ d, okay (.wakeLock : Thread Caller H) (.wakeLockThread : Lock H File) d := fun _ => trivial
      exact (silent_looping hlife trivial silent_done).proper _
  passes t life _ p h := by
    cases life with
    | runThread handle =>
      obtain ⟨i, rfl⟩ := h
      exact SensorLocks.silent_pass (unconditional_sensor t handle) i
    | wakeLockThread =>
      obtain rfl := h
      exact silent_updateWakeLock t
    | channelMutex | runMutex _ | writeLock | wakeLockLock | sysfsMutex _ => exact h.elim

end Join

/-! ## No deadlock -/

section Live

variable [DecidableEq Caller] [Fintype Caller] [DecidableEq H] [Fintype H] [DecidableEq File]

/-- **The stand-alone HAL never deadlocks**: in every state that any number of callers, the sensor threads and the
wake-lock thread reach together.  **With one `initialize` at a time every call returns**, the join of the wake-lock thread
included. -/
theorem live_hal {s : State (Lock H File) Bool (Thread Caller H)}
    (h : Reachable system false s) :
    Live system s ∧ (ReachableAlone system okay own false s → Returns system s) := by
  have hlive := live_of_fits fitting_system h
  refine ⟨hlive, fun halone => returns_of_okay waiting_system (fun t u life d hne hown hokay => ?_) halone hlive⟩
  cases u with
  | caller c => exact hown.elim
  | sensor handle =>
    cases life with
    | runThread handle' =>
      cases t with
      | caller c => exact hokay.elim
      | sensor handle'' => exact absurd (congrArg Thread.sensor (hokay.trans hown.symm)) hne
      | wakeLock => exact hokay.elim
    | channelMutex | wakeLockThread | runMutex _ | writeLock | wakeLockLock | sysfsMutex _ => exact hown.elim
  | wakeLock =>
    cases life with
    | wakeLockThread =>
      cases t with
      | caller c => exact ⟨fun hrun => Bool.false_ne_true (hokay.symm.trans hrun), id⟩
      | sensor handle => exact hokay.elim
      | wakeLock => exact absurd rfl hne
    | channelMutex | runThread _ | runMutex _ | writeLock | wakeLockLock | sysfsMutex _ => exact hown.elim

end Live

theorem free_wakeLock {s : State (Lock H File) Bool (Thread Caller H)} (hcaller : ∀ c, (s.threads (.caller c)).held = [])
    (hsensor : ∀ handle, (s.threads (.sensor handle)).held = []) (l : Lock H File) : Free s .wakeLock l := by
  intro u hu
  cases u with
  | caller c => simp [hcaller c]
  | sensor handle => simp [hsensor handle]
  | wakeLock => exact absurd rfl hu

/-- A caller in the join of its `initialize`, and the wake-lock thread of the one before at the head of its loop. -/
def joining : State (Lock Unit Unit) Bool (Thread Unit Unit) where
  threads
    | .caller _ => ⟨[], .lock .wakeLockThread (.unlock .wakeLockThread (.store (fun _ => true) .done))⟩
    | .sensor _ => ⟨[], .done⟩
    | .wakeLock => ⟨[.wakeLockThread], .loop .wakeLockThread (.unlock .wakeLockThread .done)⟩
  data := false

theorem alone_of_silent {s : State (Lock Unit Unit) Bool (Thread Unit Unit)}
    (hsensor : Silent okay own (.sensor () : Thread Unit Unit) (s.threads (.sensor ())).todo)
    (hwakeLock : Silent okay own (.wakeLock : Thread Unit Unit) (s.threads .wakeLock).todo) : Alone okay own s := by
  rintro (⟨⟩ | ⟨⟩ | _) (⟨⟩ | ⟨⟩ | _) hne <;>
    first | exact absurd rfl hne | exact Or.inl hsensor | exact Or.inr hsensor | exact Or.inl hwakeLock |
      exact Or.inr hwakeLock

theorem reachable_joining : ReachableAlone system okay own false joining := by
  have hprogram : ∀ running d, initializeHal [] running [] ∈
      (system : System (Lock Unit Unit) Bool (Thread Unit Unit)).programs (.caller ()) d :=
    fun running _ => Call.initializeHal [] running []
  have hthread : readWakeLockFMQ ∈ (system : System (Lock Unit Unit) Bool (Thread Unit Unit)).programs .wakeLock true :=
    ⟨rfl, rfl⟩
  have hfirst : ReachableAlone (system : System (Lock Unit Unit) Bool (Thread Unit Unit)) okay own false _ :=
    .tail .refl ⟨.begins rfl (hprogram false false), alone_of_silent trivial trivial⟩
  have hset := hfirst.tail ⟨.work ⟨.caller (), _, _, .store rfl, rfl⟩, alone_of_silent trivial trivial⟩
  have hbegins := hset.tail ⟨.begins rfl hthread,
    alone_of_silent trivial ⟨fun _ => trivial, trivial, trivial⟩⟩
  have hruns := hbegins.tail ⟨.work ⟨.wakeLock, _, _, .lock rfl (free_wakeLock (fun _ => rfl) (fun _ => rfl) _)
    fun h => absurd h List.not_mem_nil, rfl⟩, alone_of_silent trivial ⟨trivial, trivial⟩⟩
  have hcall := hruns.tail ⟨.begins rfl (hprogram true true), alone_of_silent trivial ⟨trivial, trivial⟩⟩
  have hclear := hcall.tail ⟨.work ⟨.caller (), _, _, .store rfl, rfl⟩, alone_of_silent trivial ⟨trivial, trivial⟩⟩
  unfold ReachableAlone
  convert hclear using 1
  refine congrArg₂ State.mk (funext fun t => ?_) rfl
  rcases t with ⟨⟩ | ⟨⟩ | _ <;> rfl

theorem live_hal_joining :
    Waits joining (.caller ()) .wakeLock ∧ Live system joining ∧ Returns system joining :=
  ⟨⟨by simp, .wakeLockThread, _, rfl, List.mem_cons_self⟩, (live_hal (reachable_of_alone reachable_joining)).1,
    (live_hal (reachable_of_alone reachable_joining)).2 reachable_joining⟩

/-- A caller in the join of its `initialize`, and the wake-lock thread that another `initialize` has just started. -/
def overtaken : State (Lock Empty Empty) Bool (Thread Bool Empty) where
  threads
    | .caller true => ⟨[], .done⟩
    | .caller false => ⟨[], .lock .wakeLockThread (.unlock .wakeLockThread (.store (fun _ => true) .done))⟩
    | .wakeLock => ⟨[.wakeLockThread], .loop .wakeLockThread (.unlock .wakeLockThread .done)⟩
  data := true

theorem reachable_overtaken : Reachable system false overtaken := by
  have hprogram : ∀ c running d, initializeHal [] running [] ∈
      (system : System (Lock Empty Empty) Bool (Thread Bool Empty)).programs (.caller c) d :=
    fun _ running _ => Call.initializeHal [] running []
  have hthread : readWakeLockFMQ ∈ (system : System (Lock Empty Empty) Bool (Thread Bool Empty)).programs .wakeLock true :=
    ⟨rfl, rfl⟩
  have hawake : ¬ (system : System (Lock Empty Empty) Bool (Thread Bool Empty)).sleeps .wakeLockThread := id
  have hstopped : ¬ (system : System (Lock Empty Empty) Bool (Thread Bool Empty)).running .wakeLockThread false :=
    Bool.false_ne_true
  -- a first session
  have hfirst : Reachable (system : System (Lock Empty Empty) Bool (Thread Bool Empty)) false _ :=
    .tail .refl (.begins rfl (hprogram true false false))
  have hset := hfirst.tail (.work ⟨.caller true, _, _, .store rfl, rfl⟩)
  have hbegins := hset.tail (.begins rfl hthread)
  have hruns := hbegins.tail (.work ⟨.wakeLock, _, _, .lock rfl
    (free_wakeLock (by rintro (_ | _) <;> rfl) nofun _) fun h => absurd h List.not_mem_nil, rfl⟩)
  -- two calls, both of which find the thread running
  have hone := hruns.tail (.begins rfl (hprogram true true true))
  have htwo := hone.tail (.begins rfl (hprogram false true true))
  have hclear := htwo.tail (.work ⟨.caller true, _, _, .store rfl, rfl⟩)
  have hagain := hclear.tail (.work ⟨.caller false, _, _, .store rfl, rfl⟩)
  have hleaves := hagain.tail (.work ⟨.wakeLock, _, _, .leave rfl hstopped hawake, rfl⟩)
  have hends := hleaves.tail (.work ⟨.wakeLock, _, _, .unlock rfl, rfl⟩)
  -- one of them returns from its join and starts the thread again
  have hjoins := hends.tail (.work ⟨.caller true, _, _, .lock rfl (fun u hu => by
      rcases u with (_ | _) | ⟨⟨⟩⟩ | _
      · exact List.not_mem_nil
      · exact absurd rfl hu
      · exact List.not_mem_nil) (fun h => absurd h List.not_mem_nil), rfl⟩)
  have hjoined := hjoins.tail (.work ⟨.caller true, _, _, .unlock rfl, rfl⟩)
  have hsets := hjoined.tail (.work ⟨.caller true, _, _, .store rfl, rfl⟩)
  have hstarts := hsets.tail (.begins rfl hthread)
  have hlast := hstarts.tail (.work ⟨.wakeLock, _, _, .lock rfl
    (free_wakeLock (by rintro (_ | _) <;> rfl) nofun _) fun h => absurd h List.not_mem_nil, rfl⟩)
  unfold Reachable
  convert hlast using 1
  refine congrArg₂ State.mk (funext fun t => ?_) rfl
  rcases t with (_ | _) | ⟨⟨⟩⟩ | _ <;> rfl

/-- **With two at a time an `initialize` may not return.** -/
theorem not_returns_overtaken : Reachable system false overtaken ∧ ¬ Returns system overtaken := by
  refine ⟨reachable_overtaken, fun h => ?_⟩
  have hstuck : ∀ s', ¬ Work system overtaken s' := by
    rintro s' ⟨(_ | _) | ⟨⟨⟩⟩ | _, θ, d, hm, -⟩
    · cases hm with
      | lock htodo free _ =>
        cases htodo
        exact free .wakeLock nofun List.mem_cons_self
      | taken htodo _ _ | missed htodo | unlock htodo | store htodo | leave htodo _ _ => cases htodo
    · cases hm <;> contradiction
    · cases hm with
      | leave htodo stopped _ =>
        cases htodo
        exact stopped rfl
      | lock htodo _ _ | taken htodo _ _ | missed htodo | unlock htodo | store htodo => cases htodo
  rcases h overtaken .refl hstuck (.caller false) with hdone | ⟨_, _, hrests, -⟩
  · cases hdone
  · cases hrests

end HalLocks
end Aidl
end MemsHal
