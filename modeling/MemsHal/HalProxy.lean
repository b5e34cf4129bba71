import MemsHal.Run
import MemsHal.StdMap
/-!
# HalProxy — `multihal/2.X/HalProxy.cpp`, `ScopedWakelock.cpp`: events and wake locks

The proxy writes the events of its sub-HALs to the Event FMQ, keeps what does not fit in a pending queue, and counts
the reasons to hold the system wake lock.  What a mutex covers is one step; `handlePendingWrites` gives its mutex up
around the blocking write and so makes three, and `handleWakelocks` makes two around its blocking read.  The clock, the
free space of the FMQ and the outcome of each write are inputs of the steps.
-/
namespace MemsHal
namespace MultiHal

inductive SensorType
  | dynamicSensorMeta
  | additionalInfo
  | other (value : Int32)
  deriving DecidableEq, Repr

inductive OperationMode
  | normal
  | dataInjection
  deriving DecidableEq, Repr

/-- The fields of `SensorInfo` that the proxy reads or changes, with the values `mSensors[handle]` gives a new entry. -/
structure SensorInfo where
  sensorHandle : Int32 := 0
  flags : UInt32 := 0
  deriving DecidableEq, Repr

def SensorFlagBits.wakeUp : UInt32 := 1

/-- An event; `u` holds the words of the payload union. -/
structure Event where
  timestamp : Int64
  sensorHandle : Int32
  sensorType : SensorType
  u : Vector Int32 16
  deriving DecidableEq, Repr

/-- A sub-HAL as the proxy sees it: the sensors it reports. -/
structure SubHal where
  sensors : List SensorInfo

/-- Where `handlePendingWrites` stands: waiting, before its blocking write, or after it. -/
inductive PendingWrites
  | waiting
  | writing (numWakeupEvents numToWrite : Nat)
  | written (numToWrite : Nat)
  deriving DecidableEq, Repr

/-- `kWakelockTimeoutNs` comes from an enumeration that the AIDL compiler generates; `eventQueueSize` is the quantum
count of the Event FMQ; `mReadingWakelocks` tells whether `handleWakelocks` is in its blocking read. -/
structure HalProxy where
  kWakelockTimeoutNs : Int
  mSubHalList : List SubHal
  mSensors : StdMap Int32 SensorInfo
  mDynamicSensors : StdMap Int32 SensorInfo
  mCurrentOperationMode : OperationMode
  mDirectChannelSubHal : Option Nat
  mPendingWriteEventsQueue : List (List Event × Nat)
  mSizePendingWriteEventsQueue : Nat
  mMostEventsObservedPendingWriteEventsQueue : Nat
  mThreadsRun : Bool
  mWakelockRefCount : Nat
  mWakelockTimeoutStartTime : Int
  mWakelockTimeoutResetTime : Int
  eventQueueSize : Nat
  mPendingWrites : PendingWrites
  mReadingWakelocks : Bool

/-- A call on the system wake lock or the Event FMQ; `dropped` marks events that `postEventsToMessageQueue` leaves
behind. -/
inductive ProxyCall
  | acquireWakeLock
  | releaseWakeLock
  | write (events : List Event) (success : Bool)
  | writeBlocking (events : List Event) (success : Bool)
  | dropped (events : List Event)
  deriving DecidableEq, Repr

structure ScopedWakelock where
  mCreatedAtTimeNs : Int
  mLocked : Bool
  deriving DecidableEq, Repr

namespace HalProxy

def kMaxSizePendingWriteEventsQueue : Nat := 100000

/-! ## The wake lock -/

def incrementRefCountAndMaybeAcquireWakelock (p : HalProxy) (delta : Nat) (now : Int) :
    Bool × HalProxy × List ProxyCall :=
  if p.mThreadsRun then
    (true,
      { p with mWakelockTimeoutStartTime := now, mWakelockRefCount := p.mWakelockRefCount + delta },
      if p.mWakelockRefCount = 0 then [.acquireWakeLock] else [])
  else (false, p, [])

/-- `timeoutStart` is -1 where the source leaves the argument out. -/
def decrementRefCountAndMaybeReleaseWakelock (p : HalProxy) (delta : Nat) (timeoutStart : Int) :
    HalProxy × List ProxyCall :=
  if p.mThreadsRun then
    let timeoutStart := if timeoutStart = -1 then p.mWakelockTimeoutResetTime else timeoutStart
    if p.mWakelockRefCount = 0 ∨ timeoutStart < p.mWakelockTimeoutResetTime then (p, [])
    else
      let mWakelockRefCount := p.mWakelockRefCount - min p.mWakelockRefCount delta
      ({ p with mWakelockRefCount := mWakelockRefCount }, if mWakelockRefCount = 0 then [.releaseWakeLock] else [])
  else (p, [])

def resetSharedWakelock (p : HalProxy) (now : Int) : HalProxy × List ProxyCall :=
  let (p, calls) := p.decrementRefCountAndMaybeReleaseWakelock p.mWakelockRefCount (-1)
  ({ p with mWakelockTimeoutResetTime := now }, calls)

def sharedWakelockDidTimeout (p : HalProxy) (now : Int) : Bool :=
  now - p.mWakelockTimeoutStartTime > p.kWakelockTimeoutNs

/-- The constructor of `ScopedWakelock`; the creation time of an unlocked one is never read. -/
def createScopedWakelock (p : HalProxy) (lock : Bool) (now : Int) : ScopedWakelock × HalProxy × List ProxyCall :=
  if lock then
    let (mLocked, p, calls) := p.incrementRefCountAndMaybeAcquireWakelock 1 now
    (⟨p.mWakelockTimeoutStartTime, mLocked⟩, p, calls)
  else (⟨0, false⟩, p, [])

/-- The destructor of `ScopedWakelock`. -/
def destroyScopedWakelock (p : HalProxy) (wakelock : ScopedWakelock) : HalProxy × List ProxyCall :=
  if wakelock.mLocked then p.decrementRefCountAndMaybeReleaseWakelock 1 wakelock.mCreatedAtTimeNs else (p, [])

/-- `handleWakelocks` from the top of its loop to the blocking read, or through a reset. -/
def handleWakelocksCheck (p : HalProxy) (now nowReset : Int) : HalProxy × List ProxyCall :=
  if p.mThreadsRun ∧ p.mReadingWakelocks = false ∧ 0 < p.mWakelockRefCount then
    if p.sharedWakelockDidTimeout now then p.resetSharedWakelock nowReset
    else ({ p with mReadingWakelocks := true }, [])
  else (p, [])

/-- `handleWakelocks` after the blocking read, which returned a number of events or failed. -/
def handleWakelocksRead (p : HalProxy) (numWakeLocksProcessed : Option UInt32) : HalProxy × List ProxyCall :=
  if p.mReadingWakelocks then
    let p := { p with mReadingWakelocks := false }
    match numWakeLocksProcessed with
    | some n => p.decrementRefCountAndMaybeReleaseWakelock n.toNat (-1)
    | none   => (p, [])
  else (p, [])

/-! ## Events -/

/-- The test of `countNumWakeupEvents` and `processEvents`. -/
def isWakeUp (mSensors : StdMap Int32 SensorInfo) (event : Event) : Bool :=
  (mSensors.getD event.sensorHandle {}).flags &&& SensorFlagBits.wakeUp ≠ 0

/-- `mSensors[sensorHandle]` adds an entry for a handle it does not hold. -/
def lookUpSensor (p : HalProxy) (sensorHandle : Int32) : HalProxy :=
  { p with mSensors := p.mSensors.subscript sensorHandle {} }

def countNumWakeupEvents (p : HalProxy) (events : List Event) (n : Nat) : HalProxy × Nat :=
  (events.take n).foldl
    (fun (p, numWakeupEvents) event =>
      (p.lookUpSensor event.sensorHandle,
        if isWakeUp p.mSensors event then numWakeupEvents + 1 else numWakeupEvents))
    (p, 0)

/-- The references that `postEventsToMessageQueue` takes for the wake-up events of a batch. -/
def acquireForEvents (p : HalProxy) (numWakeupEvents : Nat) (wakelock : ScopedWakelock) (now : Int) :
    HalProxy × List ProxyCall :=
  if wakelock.mLocked then (p.incrementRefCountAndMaybeAcquireWakelock numWakeupEvents now).2 else (p, [])

/-- The number of events that the direct write of `postEventsToMessageQueue` delivers. -/
def numWritten (p : HalProxy) (events : List Event) (availableToWrite : Nat) (writeOk : Bool) : Nat :=
  if p.mPendingWriteEventsQueue.isEmpty ∧ writeOk then min events.length availableToWrite else 0

/-- The direct write as a call on the FMQ. -/
def directWrite (p : HalProxy) (events : List Event) (availableToWrite : Nat) (writeOk : Bool) : List ProxyCall :=
  if p.mPendingWriteEventsQueue.isEmpty ∧ 0 < min events.length availableToWrite then
    [.write (events.take (min events.length availableToWrite)) writeOk]
  else []

/-- Keeps the events that were not written, where there is room for them. -/
def pushPending (p : HalProxy) (eventsLeft : List Event) (numWakeupEvents : Nat) : HalProxy × List ProxyCall :=
  if eventsLeft = [] then (p, [])
  else if p.mSizePendingWriteEventsQueue + eventsLeft.length ≤ kMaxSizePendingWriteEventsQueue then
    let mSizePendingWriteEventsQueue := p.mSizePendingWriteEventsQueue + eventsLeft.length
    ({ p with
        mPendingWriteEventsQueue := p.mPendingWriteEventsQueue ++ [(eventsLeft, numWakeupEvents)]
        mSizePendingWriteEventsQueue := mSizePendingWriteEventsQueue
        mMostEventsObservedPendingWriteEventsQueue :=
          max p.mMostEventsObservedPendingWriteEventsQueue mSizePendingWriteEventsQueue }, [])
  else (p, [.dropped eventsLeft])

/-- The body of `postEventsToMessageQueue`; its `wakelock` parameter is destroyed afterwards. -/
def postEventsToMessageQueue (p : HalProxy) (events : List Event) (numWakeupEvents : Nat) (wakelock : ScopedWakelock)
    (now : Int) (availableToWrite : Nat) (writeOk : Bool) : HalProxy × List ProxyCall :=
  let (p, acquire) := p.acquireForEvents numWakeupEvents wakelock now
  let numToWrite := p.numWritten events availableToWrite writeOk
  let (p', push) := p.pushPending (events.drop numToWrite) numWakeupEvents
  (p', acquire ++ p.directWrite events availableToWrite writeOk ++ push)

/-- The first critical section of a pass of `handlePendingWrites`. -/
def handlePendingWritesTake (p : HalProxy) : HalProxy :=
  match p.mPendingWrites, p.mPendingWriteEventsQueue with
  | .waiting, (pendingWriteEvents, numWakeupEvents) :: _ =>
    if p.mThreadsRun then
      { p with mPendingWrites := .writing numWakeupEvents (min pendingWriteEvents.length p.eventQueueSize) }
    else p
  | _, _ => p

/-- What `handlePendingWrites` does about the wake lock after a failed blocking write. -/
def releaseDropped (p : HalProxy) (pendingWriteEvents : List Event) (numWakeupEvents : Nat) :
    HalProxy × List ProxyCall :=
  if 0 < numWakeupEvents then
    if p.eventQueueSize < pendingWriteEvents.length then
      let (p, numDropped) := p.countNumWakeupEvents pendingWriteEvents p.eventQueueSize
      p.decrementRefCountAndMaybeReleaseWakelock numDropped (-1)
    else p.decrementRefCountAndMaybeReleaseWakelock numWakeupEvents (-1)
  else (p, [])

/-- The blocking write of a pass of `handlePendingWrites`. -/
def handlePendingWritesWrite (p : HalProxy) (success : Bool) : HalProxy × List ProxyCall :=
  match p.mPendingWrites, p.mPendingWriteEventsQueue with
  | .writing numWakeupEvents numToWrite, (pendingWriteEvents, _) :: _ =>
    let p := { p with mPendingWrites := .written numToWrite }
    let (p, calls) := if success then (p, []) else p.releaseDropped pendingWriteEvents numWakeupEvents
    (p, .writeBlocking (pendingWriteEvents.take numToWrite) success :: calls)
  | _, _ => (p, [])

/-- The second critical section of a pass of `handlePendingWrites`. -/
def handlePendingWritesCommit (p : HalProxy) : HalProxy :=
  match p.mPendingWrites, p.mPendingWriteEventsQueue with
  | .written numToWrite, (pendingWriteEvents, numWakeupEvents) :: rest =>
    { p with
      mPendingWrites := .waiting
      mSizePendingWriteEventsQueue := p.mSizePendingWriteEventsQueue - numToWrite
      mPendingWriteEventsQueue :=
        if p.eventQueueSize < pendingWriteEvents.length then
          (pendingWriteEvents.drop p.eventQueueSize, numWakeupEvents) :: rest
        else rest }
  | _, _ => p

/-! ### What the functions do to the state -/

/-- A reference taken at `timeoutStart` is from before the last reset. -/
def Stale (p : HalProxy) (timeoutStart : Int) : Prop :=
  timeoutStart ≠ -1 ∧ timeoutStart < p.mWakelockTimeoutResetTime

instance (p : HalProxy) (timeoutStart : Int) : Decidable (p.Stale timeoutStart) := inferInstanceAs (Decidable (_ ∧ _))

/-- The count that `decrementRefCountAndMaybeReleaseWakelock` leaves. -/
def remaining (p : HalProxy) (delta : Nat) (timeoutStart : Int) : Nat :=
  if p.mThreadsRun = true ∧ ¬ p.Stale timeoutStart then p.mWakelockRefCount - delta else p.mWakelockRefCount

/-- **A decrement changes the count only**, and gives the lock up when the count becomes zero. -/
theorem decrement_eq (p : HalProxy) (delta : Nat) (timeoutStart : Int) :
    p.decrementRefCountAndMaybeReleaseWakelock delta timeoutStart =
      ({ p with mWakelockRefCount := p.remaining delta timeoutStart },
        if 0 < p.mWakelockRefCount ∧ p.remaining delta timeoutStart = 0 then [.releaseWakeLock] else []) := by
  have hstale : (if timeoutStart = -1 then p.mWakelockTimeoutResetTime else timeoutStart) <
      p.mWakelockTimeoutResetTime ↔ p.Stale timeoutStart := by
    unfold Stale
    split <;> simp_all
  have hself : p.remaining delta timeoutStart = p.mWakelockRefCount →
      (p, []) = ({ p with mWakelockRefCount := p.remaining delta timeoutStart },
        if 0 < p.mWakelockRefCount ∧ p.remaining delta timeoutStart = 0 then [ProxyCall.releaseWakeLock] else []) := by
    intro h
    rw [h, if_neg (fun hz => Nat.ne_of_gt hz.1 hz.2)]
  unfold decrementRefCountAndMaybeReleaseWakelock
  simp only [hstale]
  by_cases hrun : p.mThreadsRun = true
  · rw [if_pos hrun]
    by_cases hst : p.Stale timeoutStart
    · rw [if_pos (Or.inr hst)]
      exact hself (if_neg (fun h => h.2 hst))
    · have hrem : p.remaining delta timeoutStart = p.mWakelockRefCount - delta := if_pos ⟨hrun, hst⟩
      by_cases hzero : p.mWakelockRefCount = 0
      · rw [if_pos (Or.inl hzero)]
        exact hself (by rw [hrem, hzero, Nat.zero_sub])
      · have hpos : (0 < p.mWakelockRefCount ∧ p.remaining delta timeoutStart = 0) ↔
            p.mWakelockRefCount - delta = 0 := by
          rw [hrem]
          exact and_iff_right (Nat.pos_of_ne_zero hzero)
        rw [if_neg (fun h => h.elim hzero hst)]
        simp only [hpos, ← Nat.sub_eq_sub_min]
        rw [hrem]
  · rw [if_neg hrun]
    exact hself (if_neg (fun h => hrun h.1))

/-- What the functions about the wake lock are made of: increments by amounts of one kind, decrements, and changes of the
fields that only they use. -/
inductive Locking (kind : Nat → Prop) : HalProxy → HalProxy × List ProxyCall → Prop
  | increment (p : HalProxy) {delta : Nat} (h : kind delta) (now : Int) :
    Locking kind p (p.incrementRefCountAndMaybeAcquireWakelock delta now).2
  | decrement (p : HalProxy) (delta : Nat) (timeoutStart : Int) :
    Locking kind p (p.decrementRefCountAndMaybeReleaseWakelock delta timeoutStart)
  | setResetTime (p : HalProxy) (now : Int) : Locking kind p ({ p with mWakelockTimeoutResetTime := now }, [])
  | setReading (p : HalProxy) (reading : Bool) : Locking kind p ({ p with mReadingWakelocks := reading }, [])
  | trans {p : HalProxy} {r r' : HalProxy × List ProxyCall} (h : Locking kind p r) (h' : Locking kind r.1 r') :
    Locking kind p (r'.1, r.2 ++ r'.2)

section Locking

variable {kind : Nat → Prop}

theorem Locking.refl (p : HalProxy) : Locking kind p (p, []) := .setReading p p.mReadingWakelocks

theorem locking_create (h : kind 1) (p : HalProxy) (lock : Bool) (now : Int) :
    Locking kind p (p.createScopedWakelock lock now).2 := by
  unfold createScopedWakelock
  split
  · exact .increment p h now
  · exact .refl p

theorem locking_destroy (p : HalProxy) (wakelock : ScopedWakelock) :
    Locking kind p (p.destroyScopedWakelock wakelock) := by
  unfold destroyScopedWakelock
  split
  · exact .decrement p 1 _
  · exact .refl p

theorem locking_acquire (p : HalProxy) (numWakeupEvents : Nat) (wakelock : ScopedWakelock)
    (h : wakelock.mLocked = true → kind numWakeupEvents) (now : Int) :
    Locking kind p (p.acquireForEvents numWakeupEvents wakelock now) := by
  unfold acquireForEvents
  split
  · rename_i hlocked
    exact .increment p (h hlocked) now
  · exact .refl p

theorem locking_reset (p : HalProxy) (now : Int) : Locking kind p (p.resetSharedWakelock now) := by
  have hdecrement : Locking kind p (p.decrementRefCountAndMaybeReleaseWakelock p.mWakelockRefCount (-1)) :=
    .decrement p _ _
  have hreset := hdecrement.trans (.setResetTime _ now)
  rw [List.append_nil] at hreset
  exact hreset

theorem locking_check (p : HalProxy) (now nowReset : Int) : Locking kind p (p.handleWakelocksCheck now nowReset) := by
  unfold handleWakelocksCheck
  split
  · split
    · exact locking_reset p nowReset
    · exact .setReading p true
  · exact .refl p

theorem locking_read (p : HalProxy) (numWakeLocksProcessed : Option UInt32) :
    Locking kind p (p.handleWakelocksRead numWakeLocksProcessed) := by
  have hread : Locking kind p ({ p with mReadingWakelocks := false }, []) := .setReading p false
  unfold handleWakelocksRead
  split
  · cases numWakeLocksProcessed with
    | none => exact hread
    | some n => exact hread.trans (.decrement _ n.toNat (-1))
  · exact .refl p

end Locking

@[simp] theorem isWakeUp_subscript (m : StdMap Int32 SensorInfo) (sensorHandle : Int32) :
    isWakeUp (m.subscript sensorHandle {}) = isWakeUp m := by
  funext event
  simp only [isWakeUp, StdMap.getD_subscript]

/-- The proxy after the sensors of `events` were looked up. -/
def lookUpSensors (p : HalProxy) (events : List Event) : HalProxy :=
  { p with mSensors := p.mSensors.subscripts (events.map Event.sensorHandle) {} }

/-- Looking sensors up changes no wake-up flag. -/
theorem isWakeUp_lookUpSensors (p : HalProxy) (events : List Event) :
    isWakeUp (p.lookUpSensors events).mSensors = isWakeUp p.mSensors := by
  funext event
  simp only [isWakeUp, lookUpSensors, StdMap.getD_subscripts]

/-- A loop that looks a sensor up in each round and goes by wake-up flags otherwise. -/
theorem foldl_lookUp {β : Type} (handle : Event → Event) (f : (Event → Bool) → β → Event → β) :
    ∀ (events : List Event) (p : HalProxy) (b : β),
      events.foldl (fun (r : HalProxy × β) event =>
          (r.1.lookUpSensor (handle event).sensorHandle, f (isWakeUp r.1.mSensors) r.2 event)) (p, b) =
        (p.lookUpSensors (events.map handle), events.foldl (f (isWakeUp p.mSensors)) b)
  | [], _, _ => rfl
  | event :: events, p, b => by
    have hflags : isWakeUp (p.lookUpSensor (handle event).sensorHandle).mSensors = isWakeUp p.mSensors :=
      isWakeUp_subscript p.mSensors _
    rw [List.foldl_cons, foldl_lookUp handle f events, hflags]
    rfl

theorem count_foldl (wakeUp : Event → Bool) : ∀ (events : List Event) (k : Nat),
    events.foldl (fun numWakeupEvents event => if wakeUp event then numWakeupEvents + 1 else numWakeupEvents) k =
      k + events.countP wakeUp
  | [], _ => rfl
  | event :: events, k => by
    rw [List.foldl_cons, count_foldl wakeUp events, List.countP_cons]
    split <;> omega

/-- **Counting wake-up events** looks their sensors up. -/
theorem countNumWakeupEvents_eq (p : HalProxy) (events : List Event) (n : Nat) :
    p.countNumWakeupEvents events n =
      (p.lookUpSensors (events.take n), (events.take n).countP (isWakeUp p.mSensors)) := by
  have hloop := foldl_lookUp id (fun wakeUp numWakeupEvents event =>
    if wakeUp event then numWakeupEvents + 1 else numWakeupEvents) (events.take n) p 0
  rw [count_foldl, Nat.zero_add, List.map_id] at hloop
  exact hloop

/-- The writer is about to write the first `numToWrite` of `events`. -/
def Writing (p : HalProxy) (numWakeupEvents numToWrite : Nat) (events : List Event) : Prop :=
  p.mPendingWrites = .writing numWakeupEvents numToWrite ∧
    ∃ n rest, p.mPendingWriteEventsQueue = (events, n) :: rest

theorem write_eq {p : HalProxy} {numWakeupEvents numToWrite : Nat} {events : List Event}
    (h : p.Writing numWakeupEvents numToWrite events) (success : Bool) :
    ∃ r, r = (if success then ({ p with mPendingWrites := .written numToWrite }, [])
        else releaseDropped { p with mPendingWrites := .written numToWrite } events numWakeupEvents) ∧
      p.handlePendingWritesWrite success = (r.1, .writeBlocking (events.take numToWrite) success :: r.2) := by
  obtain ⟨hphase, n, rest, hq⟩ := h
  refine ⟨_, rfl, ?_⟩
  unfold handlePendingWritesWrite
  rw [hphase, hq]

/-- The writer is about to write a front entry, or nothing happens. -/
theorem write_cases (p : HalProxy) (success : Bool) :
    (∃ numWakeupEvents numToWrite events, p.Writing numWakeupEvents numToWrite events) ∨
    ((∀ numWakeupEvents numToWrite events, ¬ p.Writing numWakeupEvents numToWrite events) ∧
      p.handlePendingWritesWrite success = (p, [])) := by
  by_cases h : ∃ numWakeupEvents numToWrite events, p.Writing numWakeupEvents numToWrite events
  · exact Or.inl h
  · have hnone : ∀ numWakeupEvents numToWrite events, ¬ p.Writing numWakeupEvents numToWrite events :=
      fun numWakeupEvents numToWrite events hw => h ⟨numWakeupEvents, numToWrite, events, hw⟩
    refine Or.inr ⟨hnone, ?_⟩
    unfold handlePendingWritesWrite
    split
    · rename_i hphase hq
      exact absurd ⟨hphase, _, _, hq⟩ (hnone _ _ _)
    · rfl

end HalProxy

/-! ## The proxy and its clients -/

/-- The proxy, the `ScopedWakelock`s its sub-HALs hold and the calls it has made. -/
structure System where
  proxy : HalProxy
  wakelocks : List ScopedWakelock
  calls : List ProxyCall

/-- The steps that sub-HALs, the two threads and the framework interleave; `i` names a live `ScopedWakelock`. -/
inductive ProxyOp
  | createScopedWakelock (lock : Bool) (now : Int)
  | destroyScopedWakelock (i : Nat)
  | postEventsToMessageQueue (events : List Event) (numWakeupEvents : Nat) (i : Nat) (now : Int)
      (availableToWrite : Nat) (writeOk : Bool)
  | handlePendingWritesTake
  | handlePendingWritesWrite (success : Bool)
  | handlePendingWritesCommit
  | handleWakelocksCheck (now nowReset : Int)
  | handleWakelocksRead (numWakeLocksProcessed : Option UInt32)

namespace System

/-- The system after the proxy has made `calls`. -/
def after (s : System) (r : HalProxy × List ProxyCall) : System := { s with proxy := r.1, calls := s.calls ++ r.2 }

@[simp] theorem after_nil (s : System) : s.after (s.proxy, []) = s := by
  unfold after
  rw [List.append_nil]

/-- The end of the life of `wakelock`, the `i`-th one. -/
def destroy (s : System) (i : Nat) (wakelock : ScopedWakelock) : System :=
  { s.after (s.proxy.destroyScopedWakelock wakelock) with wakelocks := s.wakelocks.eraseIdx i }

def step (s : System) : ProxyOp → System
  | .createScopedWakelock lock now =>
    let (wakelock, r) := s.proxy.createScopedWakelock lock now
    { s.after r with wakelocks := s.wakelocks ++ [wakelock] }
  | .destroyScopedWakelock i =>
    match s.wakelocks[i]? with
    | some wakelock => s.destroy i wakelock
    | none          => s
  | .postEventsToMessageQueue events numWakeupEvents i now availableToWrite writeOk =>
    match s.wakelocks[i]? with
    | some wakelock =>
      (s.after (s.proxy.postEventsToMessageQueue events numWakeupEvents wakelock now availableToWrite writeOk)).destroy
        i wakelock
    | none => s
  | .handlePendingWritesTake          => { s with proxy := s.proxy.handlePendingWritesTake }
  | .handlePendingWritesWrite success => s.after (s.proxy.handlePendingWritesWrite success)
  | .handlePendingWritesCommit        => { s with proxy := s.proxy.handlePendingWritesCommit }
  | .handleWakelocksCheck now nowReset => s.after (s.proxy.handleWakelocksCheck now nowReset)
  | .handleWakelocksRead numWakeLocksProcessed => s.after (s.proxy.handleWakelocksRead numWakeLocksProcessed)

theorem step_destroy {s : System} {i : Nat} {wakelock : ScopedWakelock} (h : s.wakelocks[i]? = some wakelock) :
    s.step (.destroyScopedWakelock i) = s.destroy i wakelock := by
  simp only [step, h]

theorem step_destroy_none {s : System} {i : Nat} (h : s.wakelocks[i]? = none) :
    s.step (.destroyScopedWakelock i) = s := by
  simp only [step, h]

theorem step_post {s : System} {i : Nat} {wakelock : ScopedWakelock} (h : s.wakelocks[i]? = some wakelock)
    (events : List Event) (numWakeupEvents : Nat) (now : Int) (availableToWrite : Nat) (writeOk : Bool) :
    s.step (.postEventsToMessageQueue events numWakeupEvents i now availableToWrite writeOk) =
      (s.after (s.proxy.postEventsToMessageQueue events numWakeupEvents wakelock now availableToWrite
        writeOk)).destroy i wakelock := by
  simp only [step, h]

theorem step_post_none {s : System} {i : Nat} (h : s.wakelocks[i]? = none) (events : List Event)
    (numWakeupEvents : Nat) (now : Int) (availableToWrite : Nat) (writeOk : Bool) :
    s.step (.postEventsToMessageQueue events numWakeupEvents i now availableToWrite writeOk) = s := by
  simp only [step, h]

end System

/-! ## A small proxy -/

/-- An idle proxy of one sub-HAL with one sensor, a wake-up one. -/
def wakeUpProxy : HalProxy where
  kWakelockTimeoutNs := 1000000000
  mSubHalList := [⟨[⟨1, SensorFlagBits.wakeUp⟩]⟩]
  mSensors := (∅ : StdMap Int32 SensorInfo).insert 1 ⟨1, SensorFlagBits.wakeUp⟩
  mDynamicSensors := ∅
  mCurrentOperationMode := .normal
  mDirectChannelSubHal := none
  mPendingWriteEventsQueue := []
  mSizePendingWriteEventsQueue := 0
  mMostEventsObservedPendingWriteEventsQueue := 0
  mThreadsRun := true
  mWakelockRefCount := 0
  mWakelockTimeoutStartTime := 0
  mWakelockTimeoutResetTime := 0
  eventQueueSize := 8
  mPendingWrites := .waiting
  mReadingWakelocks := false

/-- An event of that sensor. -/
def wakeUpEvent (timestamp : Int64) : Event where
  timestamp := timestamp
  sensorHandle := 1
  sensorType := .other 1
  u := Vector.replicate 16 0

end MultiHal
end MemsHal
