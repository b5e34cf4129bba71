import Mathlib.Data.List.Perm.Basic
import MemsHal.CountedLock
import MemsHal.HalProxy
/-!
# ProxyWakelock — the reference count of `HalProxy`, function by function

While the threads run every function adds to the count or takes from it; the lemmas say how much, and that the fields
the count depends on stay as they are.
-/
namespace MemsHal
namespace MultiHal

/-- The number of live locked `ScopedWakelock`s. -/
def numLocked (wakelocks : List ScopedWakelock) : Nat := wakelocks.countP ScopedWakelock.mLocked

theorem countP_eraseIdx {α : Type} (q : α → Bool) {l : List α} {i : Nat} {a : α} (h : l[i]? = some a) :
    l.countP q = (l.eraseIdx i).countP q + if q a then 1 else 0 := by
  obtain ⟨hi, rfl⟩ := List.getElem?_eq_some_iff.1 h
  rw [← (List.getElem_cons_eraseIdx_perm hi).countP_eq q, List.countP_cons]

namespace HalProxy

/-- The fields that no step without a reset or a stop changes, and the wake-up flags of the sensors. -/
structure SameSession (p p' : HalProxy) : Prop where
  run : p'.mThreadsRun = p.mThreadsRun
  resetTime : p'.mWakelockTimeoutResetTime = p.mWakelockTimeoutResetTime
  wakeUp : isWakeUp p'.mSensors = isWakeUp p.mSensors

theorem SameSession.refl (p : HalProxy) : SameSession p p := ⟨rfl, rfl, rfl⟩

theorem SameSession.trans {p p' p'' : HalProxy} (h : SameSession p p') (h' : SameSession p' p'') :
    SameSession p p'' :=
  ⟨h'.run.trans h.run, h'.resetTime.trans h.resetTime, h'.wakeUp.trans h.wakeUp⟩

theorem SameSession.stale_iff {p p' : HalProxy} (h : SameSession p p') (t : Int) : p'.Stale t ↔ p.Stale t := by
  unfold Stale
  rw [h.resetTime]

theorem remaining_of_run {p : HalProxy} (hrun : p.mThreadsRun = true) (delta : Nat) (t : Int) :
    p.remaining delta t = if p.Stale t then p.mWakelockRefCount else p.mWakelockRefCount - delta := by
  unfold remaining
  by_cases hst : p.Stale t
  · rw [if_pos hst, if_neg (fun h => h.2 hst)]
  · rw [if_neg hst, if_pos ⟨hrun, hst⟩]

/-- A decrement without a time is never stale. -/
theorem remaining_default {p : HalProxy} (hrun : p.mThreadsRun = true) (delta : Nat) :
    p.remaining delta (-1) = p.mWakelockRefCount - delta := by
  rw [remaining_of_run hrun, if_neg (fun h => h.1 rfl)]

theorem create_spec {p : HalProxy} (hrun : p.mThreadsRun = true) (lock : Bool) (now : Int) :
    (p.createScopedWakelock lock now).1.mLocked = lock ∧
    (p.createScopedWakelock lock now).2.1.mWakelockRefCount = p.mWakelockRefCount + (if lock then 1 else 0) ∧
    SameSession p (p.createScopedWakelock lock now).2.1 := by
  unfold createScopedWakelock incrementRefCountAndMaybeAcquireWakelock
  rw [if_pos hrun]
  cases lock with
  | true => exact ⟨rfl, rfl, rfl, rfl, rfl⟩
  | false => exact ⟨rfl, rfl, .refl p⟩

theorem destroy_sameSession (p : HalProxy) (wakelock : ScopedWakelock) :
    SameSession p (p.destroyScopedWakelock wakelock).1 := by
  unfold destroyScopedWakelock
  split
  · rw [decrement_eq]
    exact ⟨rfl, rfl, rfl⟩
  · exact .refl p

/-- **A destroyed wakelock gives its reference back** unless it is stale. -/
theorem destroy_refCount {p : HalProxy} (hrun : p.mThreadsRun = true) (wakelock : ScopedWakelock) :
    (p.destroyScopedWakelock wakelock).1.mWakelockRefCount =
      if wakelock.mLocked = true ∧ ¬ p.Stale wakelock.mCreatedAtTimeNs then p.mWakelockRefCount - 1
      else p.mWakelockRefCount := by
  unfold destroyScopedWakelock
  split
  · rename_i hl
    rw [decrement_eq]
    show p.remaining 1 wakelock.mCreatedAtTimeNs = _
    rw [remaining_of_run hrun]
    by_cases hst : p.Stale wakelock.mCreatedAtTimeNs
    · rw [if_pos hst, if_neg (fun h => h.2 hst)]
    · rw [if_neg hst, if_pos ⟨hl, hst⟩]
  · rename_i hl
    rw [if_neg (fun h => hl h.1)]

theorem acquire_spec {p : HalProxy} (hrun : p.mThreadsRun = true) (numWakeupEvents : Nat) (wakelock : ScopedWakelock)
    (now : Int) :
    (p.acquireForEvents numWakeupEvents wakelock now).1.mWakelockRefCount =
      p.mWakelockRefCount + (if wakelock.mLocked then numWakeupEvents else 0) ∧
    SameSession p (p.acquireForEvents numWakeupEvents wakelock now).1 := by
  unfold acquireForEvents incrementRefCountAndMaybeAcquireWakelock
  rw [if_pos hrun]
  split
  · exact ⟨rfl, rfl, rfl, rfl⟩
  · exact ⟨rfl, .refl p⟩

theorem push_spec (p : HalProxy) (left : List Event) (n : Nat) :
    (p.pushPending left n).1.mWakelockRefCount = p.mWakelockRefCount ∧ SameSession p (p.pushPending left n).1 := by
  unfold pushPending
  split
  · exact ⟨rfl, .refl p⟩
  · split
    · exact ⟨rfl, rfl, rfl, rfl⟩
    · exact ⟨rfl, .refl p⟩

/-- **A post takes a reference for every wake-up event** of a batch with a locked wakelock. -/
theorem post_spec {p : HalProxy} (hrun : p.mThreadsRun = true) (events : List Event) (numWakeupEvents : Nat)
    (wakelock : ScopedWakelock) (now : Int) (availableToWrite : Nat) (writeOk : Bool) :
    (p.postEventsToMessageQueue events numWakeupEvents wakelock now availableToWrite writeOk).1.mWakelockRefCount =
      p.mWakelockRefCount + (if wakelock.mLocked then numWakeupEvents else 0) ∧
    SameSession p (p.postEventsToMessageQueue events numWakeupEvents wakelock now availableToWrite writeOk).1 := by
  obtain ⟨hcount, hsame⟩ := acquire_spec hrun numWakeupEvents wakelock now
  have hpush := push_spec (p.acquireForEvents numWakeupEvents wakelock now).1
    (events.drop ((p.acquireForEvents numWakeupEvents wakelock now).1.numWritten events availableToWrite writeOk))
    numWakeupEvents
  exact ⟨hpush.1.trans hcount, hsame.trans hpush.2⟩

/-- A post and the end of its wakelock. -/
theorem post_destroy_spec {p : HalProxy} (hrun : p.mThreadsRun = true) (events : List Event) (numWakeupEvents : Nat)
    (wakelock : ScopedWakelock) (now : Int) (availableToWrite : Nat) (writeOk : Bool) :
    ((p.postEventsToMessageQueue events numWakeupEvents wakelock now availableToWrite
        writeOk).1.destroyScopedWakelock wakelock).1.mWakelockRefCount =
      p.mWakelockRefCount + (if wakelock.mLocked then numWakeupEvents else 0) -
        (if wakelock.mLocked = true ∧ ¬ p.Stale wakelock.mCreatedAtTimeNs then 1 else 0) ∧
    SameSession p ((p.postEventsToMessageQueue events numWakeupEvents wakelock now availableToWrite
      writeOk).1.destroyScopedWakelock wakelock).1 := by
  obtain ⟨hpost, hsame⟩ := post_spec hrun events numWakeupEvents wakelock now availableToWrite writeOk
  refine ⟨?_, hsame.trans (destroy_sameSession _ wakelock)⟩
  rw [destroy_refCount (hsame.run.trans hrun)]
  simp only [hsame.stale_iff, hpost]
  split <;> rfl

/-- The number of references that a failed blocking write gives back. -/
def numDropped (p : HalProxy) (events : List Event) (numWakeupEvents : Nat) : Nat :=
  if 0 < numWakeupEvents then
    if p.eventQueueSize < events.length then (events.take p.eventQueueSize).countP (isWakeUp p.mSensors)
    else numWakeupEvents
  else 0

/-- A chunk that leaves events behind is counted event by event. -/
theorem numDropped_of_lt {p : HalProxy} {events : List Event} {numWakeupEvents : Nat}
    (hlong : p.eventQueueSize < events.length) (hn : events.countP (isWakeUp p.mSensors) ≤ numWakeupEvents) :
    p.numDropped events numWakeupEvents = (events.take p.eventQueueSize).countP (isWakeUp p.mSensors) := by
  have hle : (events.take p.eventQueueSize).countP (isWakeUp p.mSensors) ≤ events.countP (isWakeUp p.mSensors) :=
    (List.take_sublist p.eventQueueSize events).countP_le
  unfold numDropped
  rw [if_pos hlong]
  split <;> omega

/-- The last chunk of an entry is worth what the entry recorded. -/
theorem numDropped_of_le {p : HalProxy} {events : List Event} (h : events.length ≤ p.eventQueueSize)
    (numWakeupEvents : Nat) : p.numDropped events numWakeupEvents = numWakeupEvents := by
  unfold numDropped
  rw [if_neg (Nat.not_lt.2 h)]
  split <;> omega

theorem releaseDropped_spec {p : HalProxy} (hrun : p.mThreadsRun = true) (events : List Event)
    (numWakeupEvents : Nat) :
    (p.releaseDropped events numWakeupEvents).1.mWakelockRefCount =
      p.mWakelockRefCount - p.numDropped events numWakeupEvents ∧
    SameSession p (p.releaseDropped events numWakeupEvents).1 := by
  unfold releaseDropped numDropped
  by_cases hn : 0 < numWakeupEvents
  · rw [if_pos hn, if_pos hn]
    by_cases hlong : p.eventQueueSize < events.length
    · rw [if_pos hlong, if_pos hlong, countNumWakeupEvents_eq]
      dsimp only
      rw [decrement_eq]
      exact ⟨remaining_default (p := p.lookUpSensors _) hrun _, rfl, rfl, isWakeUp_lookUpSensors p _⟩
    · rw [if_neg hlong, if_neg hlong, decrement_eq]
      exact ⟨remaining_default hrun _, rfl, rfl, rfl⟩
  · rw [if_neg hn, if_neg hn]
    exact ⟨rfl, .refl p⟩

/-- **A successful blocking write leaves the count alone**, and a failed one gives back what its entry recorded. -/
theorem write_spec {p : HalProxy} (hrun : p.mThreadsRun = true) {numWakeupEvents numToWrite : Nat}
    {events : List Event} (h : p.Writing numWakeupEvents numToWrite events) (success : Bool) :
    (p.handlePendingWritesWrite success).1.mWakelockRefCount =
      p.mWakelockRefCount - (if success then 0 else p.numDropped events numWakeupEvents) ∧
    SameSession p (p.handlePendingWritesWrite success).1 := by
  obtain ⟨r, hr, hwrite⟩ := write_eq h success
  rw [hwrite, hr]
  cases success with
  | true => exact ⟨rfl, rfl, rfl, rfl⟩
  | false =>
    have h := releaseDropped_spec (p := { p with mPendingWrites := .written numToWrite }) hrun events numWakeupEvents
    exact ⟨h.1, h.2.run, h.2.resetTime, h.2.wakeUp⟩

theorem take_spec (p : HalProxy) :
    p.handlePendingWritesTake.mWakelockRefCount = p.mWakelockRefCount ∧ SameSession p p.handlePendingWritesTake := by
  unfold handlePendingWritesTake
  split
  · split
    · exact ⟨rfl, rfl, rfl, rfl⟩
    · exact ⟨rfl, .refl p⟩
  · exact ⟨rfl, .refl p⟩

theorem commit_spec (p : HalProxy) :
    p.handlePendingWritesCommit.mWakelockRefCount = p.mWakelockRefCount ∧
      SameSession p p.handlePendingWritesCommit := by
  unfold handlePendingWritesCommit
  split
  · exact ⟨rfl, rfl, rfl, rfl⟩
  · exact ⟨rfl, .refl p⟩

/-- `handleWakelocks` finds the timeout expired. -/
def TimesOut (p : HalProxy) (now : Int) : Prop :=
  p.mThreadsRun = true ∧ p.mReadingWakelocks = false ∧ 0 < p.mWakelockRefCount ∧
    p.sharedWakelockDidTimeout now = true

instance (p : HalProxy) (now : Int) : Decidable (p.TimesOut now) := inferInstanceAs (Decidable (_ ∧ _ ∧ _ ∧ _))

theorem check_spec_of_not_timesOut {p : HalProxy} {now : Int} (h : ¬ p.TimesOut now) (nowReset : Int) :
    (p.handleWakelocksCheck now nowReset).1.mWakelockRefCount = p.mWakelockRefCount ∧
      SameSession p (p.handleWakelocksCheck now nowReset).1 := by
  unfold handleWakelocksCheck
  split
  · rename_i hguard
    rw [if_neg (fun ht => h ⟨hguard.1, hguard.2.1, hguard.2.2, ht⟩)]
    exact ⟨rfl, rfl, rfl, rfl⟩
  · exact ⟨rfl, .refl p⟩

/-- **A timeout drops every reference.** -/
theorem check_spec_of_timesOut {p : HalProxy} {now : Int} (h : p.TimesOut now) (nowReset : Int) :
    (p.handleWakelocksCheck now nowReset).1 =
      { p with mWakelockRefCount := 0, mWakelockTimeoutResetTime := nowReset } := by
  obtain ⟨hrun, hreading, hpos, hout⟩ := h
  unfold handleWakelocksCheck resetSharedWakelock
  rw [if_pos ⟨hrun, hreading, hpos⟩, if_pos hout, decrement_eq, remaining_default hrun, Nat.sub_self]

/-- An acknowledgement gives back as many references as it says. -/
theorem read_spec {p : HalProxy} (hrun : p.mThreadsRun = true) (n : Option UInt32) :
    (p.handleWakelocksRead n).1.mWakelockRefCount =
      p.mWakelockRefCount - (if p.mReadingWakelocks then (n.getD 0).toNat else 0) ∧
    SameSession p (p.handleWakelocksRead n).1 := by
  unfold handleWakelocksRead
  split
  · cases n with
    | none => exact ⟨rfl, rfl, rfl, rfl⟩
    | some n =>
      dsimp only
      rw [decrement_eq]
      refine ⟨?_, rfl, rfl, rfl⟩
      exact remaining_default (p := { p with mReadingWakelocks := false }) hrun _
  · exact ⟨rfl, .refl p⟩

end HalProxy

/-- The step drops every reference. -/
def System.Resets (s : System) : ProxyOp → Prop
  | .handleWakelocksCheck now _ => s.proxy.TimesOut now
  | _                           => False

instance (s : System) : DecidablePred s.Resets
  | .handleWakelocksCheck now _ => inferInstanceAs (Decidable (s.proxy.TimesOut now))
  | .createScopedWakelock .. | .destroyScopedWakelock _ | .postEventsToMessageQueue .. | .handlePendingWritesTake
  | .handlePendingWritesWrite _ | .handlePendingWritesCommit | .handleWakelocksRead _ => .isFalse id

theorem sameSession_step (s : System) (op : ProxyOp) (hrun : s.proxy.mThreadsRun = true) (hr : ¬ s.Resets op) :
    HalProxy.SameSession s.proxy (s.step op).proxy := by
  cases op with
  | createScopedWakelock lock now => exact (HalProxy.create_spec hrun lock now).2.2
  | destroyScopedWakelock i =>
    cases hwl : s.wakelocks[i]? with
    | none => rw [System.step_destroy_none hwl]; exact .refl _
    | some wakelock => rw [System.step_destroy hwl]; exact HalProxy.destroy_sameSession _ wakelock
  | postEventsToMessageQueue events n i now availableToWrite writeOk =>
    cases hwl : s.wakelocks[i]? with
    | none => rw [System.step_post_none hwl]; exact .refl _
    | some wakelock =>
      rw [System.step_post hwl]
      exact (HalProxy.post_destroy_spec hrun events n wakelock now availableToWrite writeOk).2
  | handlePendingWritesTake => exact (HalProxy.take_spec s.proxy).2
  | handlePendingWritesWrite success =>
    show HalProxy.SameSession s.proxy (s.proxy.handlePendingWritesWrite success).1
    rcases s.proxy.write_cases success with ⟨n, k, events, hwriting⟩ | ⟨-, hwrite⟩
    · exact (HalProxy.write_spec hrun hwriting success).2
    · rw [hwrite]
      exact .refl _
  | handlePendingWritesCommit => exact (HalProxy.commit_spec s.proxy).2
  | handleWakelocksCheck now nowReset => exact (HalProxy.check_spec_of_not_timesOut hr nowReset).2
  | handleWakelocksRead n => exact (HalProxy.read_spec hrun n).2

/-! ## The system wake lock -/

/-- What a call does to the system wake lock. -/
def lockCall? : ProxyCall → Option Bool
  | .acquireWakeLock => some true
  | .releaseWakeLock => some false
  | _                => none

/-- The system wake lock is held after these calls. -/
def WakeLockHeld (calls : List ProxyCall) : Prop := Run.lastOf lockCall? calls = some true

instance (calls : List ProxyCall) : Decidable (WakeLockHeld calls) := inferInstanceAs (Decidable (_ = _))

/-- The system wake lock is held exactly while there are references. -/
def HoldsLock (s : System) : Prop := WakeLockHeld s.calls ↔ 0 < s.proxy.mWakelockRefCount

/-- A part of a step that leaves the lock held exactly if there are references. -/
def KeepsLock (p : HalProxy) (r : HalProxy × List ProxyCall) : Prop :=
  ∀ calls, (WakeLockHeld calls ↔ 0 < p.mWakelockRefCount) →
    (WakeLockHeld (calls ++ r.2) ↔ 0 < r.1.mWakelockRefCount)

/-- The system wake lock after these calls, with the references to it. -/
def systemWakeLock (p : HalProxy) (calls : List ProxyCall) : CountedLock :=
  ⟨p.mWakelockRefCount, calls.filterMap lockCall?⟩

/-- A part of a step that takes references and gives them back. -/
def Counts (p : HalProxy) (r : HalProxy × List ProxyCall) : Prop :=
  ∀ calls, (systemWakeLock p calls).Reaches (systemWakeLock r.1 (calls ++ r.2))

theorem Counts.keepsLock {p : HalProxy} {r : HalProxy × List ProxyCall} (h : Counts p r) : KeepsLock p r :=
  fun calls hp => (h calls).held hp

theorem Counts.of_silent {p : HalProxy} {r : HalProxy × List ProxyCall}
    (hcount : r.1.mWakelockRefCount = p.mWakelockRefCount) (hcalls : r.2.filterMap lockCall? = []) : Counts p r := by
  intro calls
  unfold systemWakeLock
  rw [List.filterMap_append, hcalls, List.append_nil, hcount]
  exact .refl _

theorem Counts.trans {p : HalProxy} {r r' : HalProxy × List ProxyCall} (h : Counts p r) (h' : Counts r.1 r') :
    Counts p (r'.1, r.2 ++ r'.2) := by
  intro calls
  rw [← List.append_assoc]
  exact (h calls).trans (h' (calls ++ r.2))

theorem counts_increment (p : HalProxy) {delta : Nat} (hdelta : 0 < delta) (now : Int) :
    Counts p (p.incrementRefCountAndMaybeAcquireWakelock delta now).2 := by
  unfold HalProxy.incrementRefCountAndMaybeAcquireWakelock
  split
  · intro calls
    have hcalls : (if p.mWakelockRefCount = 0 then [ProxyCall.acquireWakeLock] else []).filterMap lockCall? =
        if p.mWakelockRefCount = 0 then [true] else [] := by
      split <;> rfl
    have htake : (systemWakeLock p calls).Reaches ((systemWakeLock p calls).step (.take delta)) := .step _ hdelta
    unfold systemWakeLock
    rw [List.filterMap_append, hcalls]
    exact htake
  · exact .of_silent rfl rfl

/-- A decrement that has no effect gives nothing back, and any other one `delta` references. -/
theorem counts_decrement (p : HalProxy) (delta : Nat) (timeoutStart : Int) :
    Counts p (p.decrementRefCountAndMaybeReleaseWakelock delta timeoutStart) := by
  have hcalls : ∀ n : Nat, (if 0 < p.mWakelockRefCount ∧ n = 0 then [ProxyCall.releaseWakeLock] else []).filterMap
      lockCall? = if 0 < p.mWakelockRefCount ∧ n = 0 then [false] else [] := by
    intro n
    split <;> rfl
  rw [HalProxy.decrement_eq]
  by_cases hsame : p.remaining delta timeoutStart = p.mWakelockRefCount
  · refine .of_silent hsame ?_
    rw [hcalls, hsame, if_neg (by omega)]
  · intro calls
    have hrem : p.remaining delta timeoutStart = p.mWakelockRefCount - delta :=
      if_pos (by_contra fun h => hsame (if_neg h))
    have hpos : 0 < p.mWakelockRefCount := by omega
    have hgive : (systemWakeLock p calls).Reaches ((systemWakeLock p calls).step (.give delta)) := .step _ trivial
    rw [CountedLock.step_give hpos] at hgive
    unfold systemWakeLock
    rw [List.filterMap_append, hcalls, hrem]
    simp only [hpos, true_and]
    exact hgive

/-- The functions about the wake lock take references, one or more at a time, and give them back. -/
theorem counts_of_locking {p : HalProxy} {r : HalProxy × List ProxyCall} (h : HalProxy.Locking (0 < ·) p r) :
    Counts p r := by
  induction h with
  | increment p hdelta now => exact counts_increment p hdelta now
  | decrement p delta timeoutStart => exact counts_decrement p delta timeoutStart
  | setResetTime p now => exact .of_silent rfl rfl
  | setReading p reading => exact .of_silent rfl rfl
  | trans _ _ ih ih' => exact ih.trans ih'

theorem counts_releaseDropped (p : HalProxy) (events : List Event) (n : Nat) : Counts p (p.releaseDropped events n) := by
  unfold HalProxy.releaseDropped
  split
  · split
    · rw [HalProxy.countNumWakeupEvents_eq]
      exact counts_decrement (p.lookUpSensors _) _ _
    · exact counts_decrement p n _
  · exact .of_silent rfl rfl

theorem counts_write (p : HalProxy) (success : Bool) : Counts p (p.handlePendingWritesWrite success) := by
  rcases p.write_cases success with ⟨n, k, events, hwriting⟩ | ⟨-, hwrite⟩
  · obtain ⟨r, hr, hwrite⟩ := HalProxy.write_eq hwriting success
    rw [hwrite, hr]
    have hsilent : Counts p ({ p with mPendingWrites := .written k }, [.writeBlocking (events.take k) success]) :=
      .of_silent rfl rfl
    cases success with
    | true => exact hsilent
    | false => exact hsilent.trans (counts_releaseDropped _ events n)
  · rw [hwrite]
    exact .of_silent rfl rfl

/-- A post with a locked wakelock takes a reference for each wake-up event, of which there is at least one. -/
theorem counts_post (p : HalProxy) (events : List Event) (numWakeupEvents : Nat) (wakelock : ScopedWakelock)
    (now : Int) (availableToWrite : Nat) (writeOk : Bool) (h : wakelock.mLocked = true → 0 < numWakeupEvents) :
    Counts p (p.postEventsToMessageQueue events numWakeupEvents wakelock now availableToWrite writeOk) := by
  have hacquire : Counts p (p.acquireForEvents numWakeupEvents wakelock now) :=
    counts_of_locking (p.locking_acquire numWakeupEvents wakelock h now)
  have hdirect : ∀ q : HalProxy, Counts q (q, q.directWrite events availableToWrite writeOk) := by
    intro q
    refine .of_silent rfl ?_
    unfold HalProxy.directWrite
    split <;> rfl
  have hpush : ∀ (q : HalProxy) (left : List Event), Counts q (q.pushPending left numWakeupEvents) := by
    intro q left
    refine .of_silent (HalProxy.push_spec q left numWakeupEvents).1 ?_
    unfold HalProxy.pushPending
    split
    · rfl
    · split <;> rfl
  exact (hacquire.trans (hdirect _)).trans (hpush _ _)

/-- What `HalProxyCallbackBase::postEvents` asserts of a batch: one with a locked wakelock has wake-up events. -/
def System.Promised (s : System) : ProxyOp → Prop
  | .postEventsToMessageQueue _ numWakeupEvents i _ _ _ =>
    ∀ wakelock, s.wakelocks[i]? = some wakelock → wakelock.mLocked = true → 0 < numWakeupEvents
  | _ => True

/-- The system wake lock of a system. -/
def System.lock (s : System) : CountedLock := systemWakeLock s.proxy s.calls

/-- **Every step takes references and gives them back.** -/
theorem reaches_step (s : System) (op : ProxyOp) (hop : s.Promised op) : s.lock.Reaches (s.step op).lock := by
  cases op with
  | createScopedWakelock lock now => exact counts_of_locking (HalProxy.locking_create Nat.one_pos _ lock now) _
  | destroyScopedWakelock i =>
    cases hwl : s.wakelocks[i]? with
    | none =>
      rw [System.step_destroy_none hwl]
      exact .refl _
    | some wakelock =>
      rw [System.step_destroy hwl]
      exact counts_of_locking (HalProxy.locking_destroy _ wakelock) _
  | postEventsToMessageQueue events n i now availableToWrite writeOk =>
    cases hwl : s.wakelocks[i]? with
    | none =>
      rw [System.step_post_none hwl]
      exact .refl _
    | some wakelock =>
      have hpost := counts_post s.proxy events n wakelock now availableToWrite writeOk (hop wakelock hwl)
      rw [System.step_post hwl]
      exact (hpost s.calls).trans (counts_of_locking (HalProxy.locking_destroy _ wakelock) _)
  | handlePendingWritesTake =>
    have hcount := (HalProxy.take_spec s.proxy).1
    unfold System.lock systemWakeLock
    rw [show (s.step .handlePendingWritesTake).proxy.mWakelockRefCount = s.proxy.mWakelockRefCount from hcount]
    exact .refl _
  | handlePendingWritesWrite success => exact counts_write _ success _
  | handlePendingWritesCommit =>
    have hcount := (HalProxy.commit_spec s.proxy).1
    unfold System.lock systemWakeLock
    rw [show (s.step .handlePendingWritesCommit).proxy.mWakelockRefCount = s.proxy.mWakelockRefCount from hcount]
    exact .refl _
  | handleWakelocksCheck now nowReset => exact counts_of_locking (HalProxy.locking_check _ now nowReset) _
  | handleWakelocksRead n => exact counts_of_locking (HalProxy.locking_read _ n) _

/-- **The system wake lock is held exactly while there are references.** -/
theorem holdsLock_step (s : System) (op : ProxyOp) (h : HoldsLock s) (hop : s.Promised op) :
    HoldsLock (s.step op) :=
  (reaches_step s op hop).held h

end MultiHal
end MemsHal
