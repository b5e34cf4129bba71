import MemsHal.LockOrder
/-!
# SensorLocks — what a `Sensor` and its direct channels lock

`aidl/Sensor.cpp` and `multihal/common/Sensor.cpp` take the same locks in the same order, and so do
`SensorsHalAidl` and `ISensorsSubHalBase` around their direct channels; only `postEvents` differs.  Each function is the
program of its lock operations.  What it reads decides how it branches: that is an argument.  The shared datum is the
flag by which a HAL lets its own threads run.
-/
namespace MemsHal

open LockOrder LockOrder.Program

universe u v w x y

/-- The locks of one sensor: its mutex, the life of its thread, the channel mutex of its HAL, the mutexes of the
driver's files, and what its `postEvents` locks. -/
structure SensorLocks (L : Type u) (File : Type v) (Post : Type w) where
  runMutex : L
  runThread : L
  channelMutex : L
  sysfsMutex : File → L
  postEvents : Post → Program L Bool

/-- What a call meets: whether it changes `mIsEnabled`, the files the driver reads or writes, the file of the
temperature, and how the post goes. -/
structure Outcome (File : Type v) (Post : Type w) where
  changes : Bool
  files : List File
  temperature : List File
  post : Post

/-- One iteration of `run` with a channel or the sensor enabled; `direct` and `sample` say which deadline has passed. -/
structure Iteration (File : Type v) (Post : Type w) where
  outcome : Outcome File Post
  direct : Bool
  sample : Bool

namespace SensorLocks

variable {L : Type u} {File : Type v} {Post : Type w} (m : SensorLocks L File Post)

def access (files : List File) : Program L Bool := each files fun file => within (m.sysfsMutex file) .done

def sendAdditionalInfoReport (o : Outcome File Post) : Program L Bool :=
  (m.access o.temperature).andThen (m.postEvents o.post)

def activate (enable : Bool) (o : Outcome File Post) : Program L Bool :=
  within m.runMutex
    (if o.changes then (m.access o.files).andThen (if enable then m.sendAdditionalInfoReport o else .done) else .done)

def batch (o : Outcome File Post) : Program L Bool := within m.runMutex (m.access o.files)

/-- `flush` takes no `mRunMutex`: both posts go out without it. -/
def flush (accepted : Bool) (o : Outcome File Post) : Program L Bool :=
  if accepted then (m.postEvents o.post).andThen (m.sendAdditionalInfoReport o) else .done

def stopDirectChannel (o : Outcome File Post) : Program L Bool := within m.runMutex (m.access o.files)

def removeDirectChannel (o : Outcome File Post) : Program L Bool := within m.runMutex (m.access o.files)

/-- At period 0 `mRunMutex` is taken twice, one time after the other. -/
def addDirectChannel (stops : Bool) (o : Outcome File Post) : Program L Bool :=
  if stops then (within m.runMutex .done).andThen (m.stopDirectChannel o) else within m.runMutex (m.access o.files)

def writeToDirectBuffer : Program L Bool := attempt m.channelMutex .done

def iteration (i : Iteration File Post) : Program L Bool :=
  (m.access i.outcome.files).andThen
    ((if i.direct then m.writeToDirectBuffer else .done).andThen
      (if i.sample then m.postEvents i.outcome.post else .done))

/-- The sensor's thread: each wait on `mWaitCV` gives `mRunMutex` back and takes it again. -/
def run : Program L Bool := looping m.runThread .done

/-- Between two waits on `mWaitCV` there is one iteration at most. -/
def pass (i : Option (Iteration File Post)) : Program L Bool := within m.runMutex (i.elim .done m.iteration)

end SensorLocks

/-! ### The direct channels of a HAL -/

section Channels

variable {L : Type u} {File : Type v} {Post : Type w} {H : Type x} (channelMutex : L)
  (sensor : H → SensorLocks L File Post)

/-- What `configDirectReport` comes to. -/
inductive Report (H : Type x) (File : Type v) (Post : Type w)
  | refused
  | stopAll (sensors : List (H × Outcome File Post))
  | configured (handle : H) (stops : Bool) (o : Outcome File Post)

def lockConfigDirectReport : Report H File Post → Program L Bool
  | .refused => within channelMutex .done
  | .stopAll sensors => within channelMutex (each sensors fun s => (sensor s.1).stopDirectChannel s.2)
  | .configured handle stops o => within channelMutex ((sensor handle).addDirectChannel stops o)

def lockRegisterDirectChannel : Program L Bool := within channelMutex .done

def removeDirectChannels (sensors : List (H × Outcome File Post)) : Program L Bool :=
  each sensors fun s => (sensor s.1).removeDirectChannel s.2

def lockUnregisterDirectChannel (sensors : List (H × Outcome File Post)) : Program L Bool :=
  within channelMutex (removeDirectChannels sensor sensors)

end Channels

/-! ## Every function keeps the order -/

namespace SensorLocks

variable {L : Type u} [DecidableEq L] {File : Type v} {Post : Type w} {H : Type x}

/-- **A sensor's locks in layers**: the driver's files and what a post locks lie below `mRunMutex`, `mRunMutex` below the
channel mutex and below the life of the thread. -/
structure Layered (level : L → Nat) (recursive : L → Prop) (m : SensorLocks L File Post) : Prop where
  sysfs : ∀ file, level (m.sysfsMutex file) < level m.runMutex
  post : ∀ p, FitsBelow level recursive (m.postEvents p) (level m.runMutex)
  channel : level m.runMutex < level m.channelMutex
  thread : level m.runMutex < level m.runThread
  apart : m.channelMutex ≠ m.runThread

variable {level : L → Nat} {recursive : L → Prop} {m : SensorLocks L File Post} (hm : Layered level recursive m)
include hm

theorem fits_access (files : List File) : FitsBelow level recursive (m.access files) (level m.runMutex) :=
  fitsBelow_each fun file => (fitsBelow_within fitsBelow_done).mono (hm.sysfs file)

theorem fits_report (o : Outcome File Post) :
    FitsBelow level recursive (m.sendAdditionalInfoReport o) (level m.runMutex) :=
  (fits_access hm _).andThen (hm.post _)

theorem fits_activate (enable : Bool) (o : Outcome File Post) :
    FitsBelow level recursive (m.activate enable o) (level m.runMutex + 1) := by
  have hreport := fitsBelow_ite (c := enable) (fits_report hm o) fitsBelow_done
  exact fitsBelow_within (fitsBelow_ite ((fits_access hm _).andThen hreport) fitsBelow_done)

/-- A scope of `mRunMutex` in which only the driver is called. -/
theorem fits_driver (files : List File) :
    FitsBelow level recursive (within m.runMutex (m.access files)) (level m.runMutex + 1) :=
  fitsBelow_within (fits_access hm files)

theorem fits_flush (accepted : Bool) (o : Outcome File Post) :
    FitsBelow level recursive (m.flush accepted o) (level m.runMutex) :=
  fitsBelow_ite ((hm.post _).andThen (fits_report hm o)) fitsBelow_done

theorem fits_addDirectChannel (stops : Bool) (o : Outcome File Post) :
    FitsBelow level recursive (m.addDirectChannel stops o) (level m.runMutex + 1) :=
  fitsBelow_ite ((fitsBelow_within fitsBelow_done).andThen (fits_driver hm _)) (fits_driver hm _)

/-- The sensor's thread tries the channel mutex with `mRunMutex` held, against the order, but does not wait for it. -/
theorem fits_iteration (i : Iteration File Post) :
    Fits level recursive [m.runMutex, m.runThread] (m.iteration i) := by
  have hheld : ∀ k ∈ [m.runMutex, m.runThread], level m.runMutex ≤ level k := by
    simp [hm.thread.le]
  have hdirect : Fits level recursive [m.runMutex, m.runThread]
      (if i.direct then m.writeToDirectBuffer else .done) := by
    have hapart : m.channelMutex ≠ m.runMutex := fun h => absurd (h ▸ hm.channel) (lt_irrefl _)
    split
    · exact fits_attempt (by simp [hapart, hm.apart]) fits_done
    · exact fits_done
  exact (fits_access hm _ _ hheld).andThen (hdirect.andThen (fitsBelow_ite (hm.post _) fitsBelow_done _ hheld))

theorem fits_pass (i : Option (Iteration File Post)) : Fits level recursive [m.runThread] (m.pass i) := by
  refine fits_within (by simp [hm.thread]) ?_
  cases i with
  | none => exact fits_done
  | some i => exact fits_iteration hm i

end SensorLocks

section Channels

variable {L : Type u} [DecidableEq L] {File : Type v} {Post : Type w} {H : Type x} {level : L → Nat}
  {recursive : L → Prop} {channelMutex : L} {sensor : H → SensorLocks L File Post}
  (hm : ∀ h, SensorLocks.Layered level recursive (sensor h))
  (hc : ∀ h, (sensor h).channelMutex = channelMutex)
include hm

theorem fits_removeDirectChannels {n : Nat} (hn : ∀ h, level (sensor h).runMutex < n)
    (sensors : List (H × Outcome File Post)) :
    FitsBelow level recursive (removeDirectChannels sensor sensors) n :=
  fitsBelow_each fun s => (SensorLocks.fits_driver (hm s.1) _).mono (hn s.1)

include hc

theorem fits_unregister (sensors : List (H × Outcome File Post)) :
    FitsBelow level recursive (lockUnregisterDirectChannel channelMutex sensor sensors) (level channelMutex + 1) :=
  fitsBelow_within (fits_removeDirectChannels hm (fun h => hc h ▸ (hm h).channel) sensors)

theorem fits_configDirectReport (report : Report H File Post) :
    FitsBelow level recursive (lockConfigDirectReport channelMutex sensor report) (level channelMutex + 1) := by
  have hrun : ∀ h, level (sensor h).runMutex + 1 ≤ level channelMutex := fun h => hc h ▸ (hm h).channel
  cases report with
  | refused => exact fitsBelow_within fitsBelow_done
  | stopAll sensors =>
    exact fitsBelow_within (fitsBelow_each fun s => (SensorLocks.fits_driver (hm s.1) _).mono (hrun s.1))
  | configured handle stops o =>
    exact fitsBelow_within ((SensorLocks.fits_addDirectChannel (hm handle) stops o).mono (hrun handle))

end Channels

/-! ## No function stores the flag -/

namespace SensorLocks

variable {L : Type u} {File : Type v} {Post : Type w} {T : Type x} (okay : T → L → Bool → Prop) (own : T → L → Prop)
  (t : T)

/-- A thread may wait for the locks of a sensor whatever the flag is. -/
structure Unconditional (m : SensorLocks L File Post) : Prop where
  run : ∀ d, okay t m.runMutex d
  sysfs : ∀ file d, okay t (m.sysfsMutex file) d
  post : ∀ p, Silent okay own t (m.postEvents p)

variable {okay own t} {m : SensorLocks L File Post} (hm : Unconditional okay own t m)
include hm

theorem silent_access (files : List File) : Silent okay own t (m.access files) :=
  silent_each fun file => silent_within (hm.sysfs file) silent_done

theorem silent_report (o : Outcome File Post) : Silent okay own t (m.sendAdditionalInfoReport o) :=
  (silent_access hm _).andThen (hm.post _)

theorem silent_activate (enable : Bool) (o : Outcome File Post) : Silent okay own t (m.activate enable o) := by
  have hreport := silent_ite (c := enable) (silent_report hm o) silent_done
  exact silent_within hm.run (silent_ite ((silent_access hm _).andThen hreport) silent_done)

/-- A scope of `mRunMutex` in which only the driver is called. -/
theorem silent_driver (files : List File) : Silent okay own t (within m.runMutex (m.access files)) :=
  silent_within hm.run (silent_access hm files)

theorem silent_flush (accepted : Bool) (o : Outcome File Post) : Silent okay own t (m.flush accepted o) :=
  silent_ite ((hm.post _).andThen (silent_report hm o)) silent_done

theorem silent_addDirectChannel (stops : Bool) (o : Outcome File Post) :
    Silent okay own t (m.addDirectChannel stops o) :=
  silent_ite ((silent_within hm.run silent_done).andThen (silent_driver hm _)) (silent_driver hm _)

theorem silent_pass (i : Option (Iteration File Post)) : Silent okay own t (m.pass i) := by
  refine silent_within hm.run ?_
  cases i with
  | none => exact silent_done
  | some i =>
    have hdirect : Silent okay own t (if i.direct then m.writeToDirectBuffer else .done) :=
      silent_ite (silent_attempt silent_done) silent_done
    exact (silent_access hm _).andThen (hdirect.andThen (silent_ite (hm.post _) silent_done))

end SensorLocks

section Channels

variable {L : Type u} {File : Type v} {Post : Type w} {H : Type x} {T : Type y} {okay : T → L → Bool → Prop}
  {own : T → L → Prop} {t : T} {channelMutex : L} {sensor : H → SensorLocks L File Post}
  (hm : ∀ h, SensorLocks.Unconditional okay own t (sensor h))
include hm

theorem silent_removeDirectChannels (sensors : List (H × Outcome File Post)) :
    Silent okay own t (removeDirectChannels sensor sensors) :=
  silent_each fun s => SensorLocks.silent_driver (hm s.1) _

variable (hc : ∀ d, okay t channelMutex d)
include hc

theorem silent_unregister (sensors : List (H × Outcome File Post)) :
    Silent okay own t (lockUnregisterDirectChannel channelMutex sensor sensors) :=
  silent_within hc (silent_removeDirectChannels hm sensors)

theorem silent_configDirectReport (report : Report H File Post) :
    Silent okay own t (lockConfigDirectReport channelMutex sensor report) := by
  cases report with
  | refused => exact silent_within hc silent_done
  | stopAll sensors => exact silent_within hc (silent_each fun s => SensorLocks.silent_driver (hm s.1) _)
  | configured handle stops o => exact silent_within hc (SensorLocks.silent_addDirectChannel (hm handle) stops o)

end Channels

end MemsHal
