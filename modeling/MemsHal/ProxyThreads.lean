import MemsHal.ProxyLife
import MemsHal.Waiter
/-!
# ProxyThreads — how the two threads of `HalProxy` wait, and how `stopThreads` ends them

`handlePendingWrites` waits for `!mPendingWriteEventsQueue.empty() || !mThreadsRun`, `handleWakelocks` for
`mWakelockRefCount > 0 || !mThreadsRun`, each on its own mutex and condition variable.  Posts and counts notify with the
mutex held; `stopThreads` stores `mThreadsRun`, notifies both and joins both without any mutex.

So a thread never sleeps over events or references (`along_awake`), but the notification of `stopThreads` is lost on a
thread that has read `mThreadsRun` just before the store and does not sleep yet, and then the join does not return
(`join_returns`).
-/
namespace MemsHal
namespace MultiHal
namespace ProxyThreads

open Run Waiter

/-- The threads that `initializeCommon` starts. -/
inductive ProxyThread
  | mPendingWritesThread
  | mWakelockThread
  deriving DecidableEq

namespace ProxyThread

/-- What a thread waits for, apart from the end. -/
def hasWork (t : ProxyThread) (s : System) : Bool :=
  match t with
  | mPendingWritesThread => !s.proxy.mPendingWriteEventsQueue.isEmpty
  | mWakelockThread      => decide (0 < s.proxy.mWakelockRefCount)

/-- `handlePendingWrites` and `handleWakelocks`. -/
def loop (t : ProxyThread) : Waiter.Loop System where
  running s := s.proxy.mThreadsRun
  waits _ := true
  ready s := t.hasWork s || !s.proxy.mThreadsRun
  resumes s := s.proxy.mThreadsRun

/-- The steps that a thread makes itself, at work. -/
def owns : ProxyThread → ProxyOp → Bool
  | mPendingWritesThread, .handlePendingWritesTake        => true
  | mPendingWritesThread, .handlePendingWritesWrite _     => true
  | mPendingWritesThread, .handlePendingWritesCommit      => true
  | mWakelockThread,      .handleWakelocksCheck _ _       => true
  | mWakelockThread,      .handleWakelocksRead _          => true
  | _,                    _                               => false

/-- The steps of others that take the mutex of the thread: `mEventQueueWriteMutex` or `mWakelockMutex`. -/
def locks : ProxyThread → ProxyOp → Bool
  | mPendingWritesThread, .postEventsToMessageQueue _ _ _ _ _ _ => true
  | mWakelockThread,      .createScopedWakelock _ _             => true
  | mWakelockThread,      .destroyScopedWakelock _              => true
  | mWakelockThread,      .postEventsToMessageQueue _ _ _ _ _ _ => true
  | mWakelockThread,      .handlePendingWritesWrite _           => true
  | _,                    _                                     => false

/-- `postEventsToMessageQueue` notifies where it pushes, `incrementRefCountAndMaybeAcquireWakelock` where it acquires
the system's wake lock. -/
def notifies (t : ProxyThread) (op : ProxyOp) (s : System) : Bool :=
  match t with
  | mPendingWritesThread =>
    s.proxy.mPendingWriteEventsQueue.length < (s.step op).proxy.mPendingWriteEventsQueue.length
  | mWakelockThread => ProxyCall.acquireWakeLock ∈ (s.step op).calls.drop s.calls.length

end ProxyThread

/-- What happens around a thread: its own steps, those of the proxy and its clients, the store with which `stopThreads`
begins, and a notification, by `stopThreads` or without a cause. -/
inductive ThreadOp
  | advance
  | proxy (op : ProxyOp)
  | stop
  | notify

def ThreadOp.op (t : ProxyThread) : ThreadOp → Waiter.Op System
  | advance  => .advance
  | proxy op =>
    if t.owns op then .work (·.step op)
    else if t.locks op then .locked (·.step op) (t.notifies op)
    else .store (·.step op)
  | stop     => .store (·.setThreadsRun false)
  | notify   => .notify

theorem op_proxy (t : ProxyThread) (op : ProxyOp) :
    (ThreadOp.proxy op).op t =
      if t.owns op then .work (·.step op)
      else if t.locks op then .locked (·.step op) (t.notifies op)
      else .store (·.step op) :=
  rfl

/-- A thread that `initializeCommon` has just started. -/
def start (s : System) : Waiter.State System := ⟨s, .starting, false⟩

def run (t : ProxyThread) (w : Waiter.State System) (ops : List ThreadOp) : Waiter.State System :=
  Run.run (Waiter.step t.loop) w (ops.map (ThreadOp.op t))

/-! ## What a step changes for the threads -/

/-- A call of the proxy that brings references acquires the system's wake lock, and leaves `mThreadsRun` as it is. -/
structure Brings (p : HalProxy) (r : HalProxy × List ProxyCall) : Prop where
  acquires : 0 < r.1.mWakelockRefCount → 0 < p.mWakelockRefCount ∨ ProxyCall.acquireWakeLock ∈ r.2
  threadsRun : r.1.mThreadsRun = p.mThreadsRun

theorem Brings.of_same {p : HalProxy} {r : HalProxy × List ProxyCall}
    (hcount : r.1.mWakelockRefCount = p.mWakelockRefCount) (hrun : r.1.mThreadsRun = p.mThreadsRun) : Brings p r :=
  ⟨fun h => Or.inl (hcount ▸ h), hrun⟩

theorem Brings.trans {p : HalProxy} {r r' : HalProxy × List ProxyCall} (h : Brings p r) (h' : Brings r.1 r') :
    Brings p (r'.1, r.2 ++ r'.2) := by
  refine ⟨fun hpos => ?_, h'.threadsRun.trans h.threadsRun⟩
  rcases h'.acquires hpos with hpos | hmem
  · exact (h.acquires hpos).imp_right fun hmem => List.mem_append_left _ hmem
  · exact Or.inr (List.mem_append_right _ hmem)

theorem brings_of_locking {p : HalProxy} {r : HalProxy × List ProxyCall}
    (h : HalProxy.Locking (fun _ => True) p r) : Brings p r := by
  induction h with
  | increment p _ now =>
    unfold HalProxy.incrementRefCountAndMaybeAcquireWakelock
    split
    · refine ⟨fun _ => ?_, rfl⟩
      rcases Nat.eq_zero_or_pos p.mWakelockRefCount with hzero | hpos
      · exact Or.inr (by rw [if_pos hzero]; exact List.mem_singleton_self _)
      · exact Or.inl hpos
    · exact .of_same rfl rfl
  | decrement p delta timeoutStart =>
    rw [HalProxy.decrement_eq]
    refine ⟨fun hpos => Or.inl (lt_of_lt_of_le hpos ?_), rfl⟩
    simp only [HalProxy.remaining]
    split
    · exact Nat.sub_le _ _
    · exact le_rfl
  | setResetTime p now => exact .of_same rfl rfl
  | setReading p reading => exact .of_same rfl rfl
  | trans _ _ ih ih' => exact ih.trans ih'

theorem brings_push (p : HalProxy) (left : List Event) (n : Nat) : Brings p (p.pushPending left n) := by
  have hspec := p.push_spec left n
  exact .of_same hspec.1 hspec.2.run

theorem brings_post (p : HalProxy) (events : List Event) (numWakeupEvents : Nat) (wakelock : ScopedWakelock)
    (now : Int) (availableToWrite : Nat) (writeOk : Bool) :
    Brings p (p.postEventsToMessageQueue events numWakeupEvents wakelock now availableToWrite writeOk) := by
  have hacquire : Brings p (p.acquireForEvents numWakeupEvents wakelock now) :=
    brings_of_locking (p.locking_acquire numWakeupEvents wakelock (fun _ => trivial) now)
  have hdirect : ∀ q : HalProxy, Brings q (q, q.directWrite events availableToWrite writeOk) :=
    fun q => .of_same rfl rfl
  exact (hacquire.trans (hdirect _)).trans (brings_push _ _ _)

theorem brings_releaseDropped (p : HalProxy) (events : List Event) (n : Nat) : Brings p (p.releaseDropped events n) := by
  unfold HalProxy.releaseDropped
  split
  · split
    · rw [HalProxy.countNumWakeupEvents_eq]
      have hcount := brings_of_locking (.decrement (p.lookUpSensors (events.take p.eventQueueSize))
        ((events.take p.eventQueueSize).countP (HalProxy.isWakeUp p.mSensors)) (-1))
      exact ⟨hcount.acquires, hcount.threadsRun⟩
    · exact brings_of_locking (.decrement _ _ _)
  · exact .of_same rfl rfl

theorem brings_write (p : HalProxy) (success : Bool) : Brings p (p.handlePendingWritesWrite success) := by
  rcases p.write_cases success with ⟨n, k, events, hwriting⟩ | ⟨-, hwrite⟩
  · obtain ⟨r, hr, hwrite⟩ := HalProxy.write_eq hwriting success
    rw [hwrite, hr]
    have hsame : Brings p ({ p with mPendingWrites := .written k }, [.writeBlocking (events.take k) success]) :=
      .of_same rfl rfl
    cases success with
    | true => exact hsame
    | false => exact hsame.trans (brings_releaseDropped _ events n)
  · rw [hwrite]
    exact .of_same rfl rfl

/-- **What a step brings**, and the calls it appends. -/
theorem brings_step (s : System) (op : ProxyOp) :
    ∃ calls, (s.step op).calls = s.calls ++ calls ∧ Brings s.proxy ((s.step op).proxy, calls) := by
  cases op with
  | createScopedWakelock lock now => exact ⟨_, rfl, brings_of_locking (HalProxy.locking_create trivial _ lock now)⟩
  | destroyScopedWakelock i =>
    cases hwl : s.wakelocks[i]? with
    | none =>
      rw [System.step_destroy_none hwl]
      exact ⟨[], (List.append_nil _).symm, .of_same rfl rfl⟩
    | some wakelock =>
      rw [System.step_destroy hwl]
      exact ⟨_, rfl, brings_of_locking (HalProxy.locking_destroy _ wakelock)⟩
  | postEventsToMessageQueue events n i now availableToWrite writeOk =>
    cases hwl : s.wakelocks[i]? with
    | none =>
      rw [System.step_post_none hwl]
      exact ⟨[], (List.append_nil _).symm, .of_same rfl rfl⟩
    | some wakelock =>
      rw [System.step_post hwl]
      exact ⟨_, List.append_assoc .., (brings_post _ _ _ _ _ _ _).trans
        (brings_of_locking (HalProxy.locking_destroy _ wakelock))⟩
  | handlePendingWritesTake =>
    have hspec := HalProxy.take_spec s.proxy
    exact ⟨[], (List.append_nil _).symm, .of_same hspec.1 hspec.2.run⟩
  | handlePendingWritesWrite success => exact ⟨_, rfl, brings_write _ success⟩
  | handlePendingWritesCommit =>
    have hspec := HalProxy.commit_spec s.proxy
    exact ⟨[], (List.append_nil _).symm, .of_same hspec.1 hspec.2.run⟩
  | handleWakelocksCheck now nowReset => exact ⟨_, rfl, brings_of_locking (HalProxy.locking_check _ now nowReset)⟩
  | handleWakelocksRead n => exact ⟨_, rfl, brings_of_locking (HalProxy.locking_read _ n)⟩

theorem threadsRun_step (s : System) (op : ProxyOp) : (s.step op).proxy.mThreadsRun = s.proxy.mThreadsRun := by
  obtain ⟨_, -, h⟩ := brings_step s op
  exact h.threadsRun

theorem notifies_of_references {s : System} {op : ProxyOp} (h : 0 < (s.step op).proxy.mWakelockRefCount) :
    0 < s.proxy.mWakelockRefCount ∨ ProxyThread.notifies .mWakelockThread op s = true := by
  obtain ⟨calls, hcalls, hbrings⟩ := brings_step s op
  refine (hbrings.acquires h).imp_right fun hmem => decide_eq_true ?_
  rw [hcalls, List.drop_left]
  exact hmem

/-- The steps that do not take `mEventQueueWriteMutex` leave the pending events alone. -/
theorem queue_of_quiet {s : System} {op : ProxyOp} (howns : ProxyThread.owns .mPendingWritesThread op = false)
    (hlocks : ProxyThread.locks .mPendingWritesThread op = false) :
    (s.step op).proxy.mPendingWriteEventsQueue = s.proxy.mPendingWriteEventsQueue := by
  cases op with
  | createScopedWakelock lock now =>
    exact (ProxyFifo.quiet_of_locking (HalProxy.locking_create trivial _ lock now)).same.queue
  | destroyScopedWakelock i =>
    cases hwl : s.wakelocks[i]? with
    | none => rw [System.step_destroy_none hwl]
    | some wakelock =>
      rw [System.step_destroy hwl]
      exact (ProxyFifo.quiet_of_locking (HalProxy.locking_destroy _ wakelock)).same.queue
  | postEventsToMessageQueue events n i now availableToWrite writeOk => cases hlocks
  | handlePendingWritesTake => cases howns
  | handlePendingWritesWrite success => cases howns
  | handlePendingWritesCommit => cases howns
  | handleWakelocksCheck now nowReset =>
    exact (ProxyFifo.quiet_of_locking (HalProxy.locking_check _ now nowReset)).same.queue
  | handleWakelocksRead n => exact (ProxyFifo.quiet_of_locking (HalProxy.locking_read _ n)).same.queue

/-- The steps that do not take `mWakelockMutex` leave the count alone. -/
theorem refCount_of_quiet {s : System} {op : ProxyOp} (howns : ProxyThread.owns .mWakelockThread op = false)
    (hlocks : ProxyThread.locks .mWakelockThread op = false) :
    (s.step op).proxy.mWakelockRefCount = s.proxy.mWakelockRefCount := by
  cases op with
  | handlePendingWritesTake => exact (HalProxy.take_spec s.proxy).1
  | handlePendingWritesCommit => exact (HalProxy.commit_spec s.proxy).1
  | createScopedWakelock lock now => cases hlocks
  | destroyScopedWakelock i => cases hlocks
  | postEventsToMessageQueue events n i now availableToWrite writeOk => cases hlocks
  | handlePendingWritesWrite success => cases hlocks
  | handleWakelocksCheck now nowReset => cases howns
  | handleWakelocksRead n => cases howns

/-! ## A thread never sleeps over work -/

theorem announces_op (t : ProxyThread) (w : Waiter.State System) (op : ThreadOp) :
    Waiter.Announces (fun s => t.hasWork s = true) w (op.op t) := by
  cases op with
  | advance => trivial
  | notify => trivial
  | stop => exact id
  | proxy op =>
    rw [op_proxy]
    split
    · trivial
    · rename_i howns
      rw [Bool.not_eq_true] at howns
      split
      · intro h
        cases t with
        | mPendingWritesThread =>
          simp only [ProxyThread.hasWork, Bool.not_eq_true', List.isEmpty_eq_false_iff] at h ⊢
          by_cases hempty : w.data.proxy.mPendingWriteEventsQueue = []
          · refine Or.inr (decide_eq_true ?_)
            rw [hempty]
            exact List.length_pos_iff.2 h
          · exact Or.inl hempty
        | mWakelockThread =>
          exact (notifies_of_references (of_decide_eq_true h)).imp_left fun hpos => decide_eq_true hpos
      · rename_i hlocks
        rw [Bool.not_eq_true] at hlocks
        cases t with
        | mPendingWritesThread =>
          simp only [Waiter.Announces, ProxyThread.hasWork, queue_of_quiet howns hlocks]
          exact id
        | mWakelockThread =>
          simp only [Waiter.Announces, ProxyThread.hasWork, refCount_of_quiet howns hlocks]
          exact id

/-- **No thread of the proxy sleeps over events or references**, however its steps interleave with those of sub-HALs,
framework, the other thread and `stopThreads`. -/
theorem along_proxy_awake (t : ProxyThread) (s : System) (ops : List ThreadOp) :
    Along (Waiter.step t.loop) (fun w => w.position.asleep = true → ¬ t.hasWork w.data = true) (start s)
      (ops.map (ThreadOp.op t)) := by
  have hstart : (start s).position.asleep = true → ¬ t.hasWork (start s).data = true :=
    fun h => absurd h Bool.false_ne_true
  refine along_not_lost (P := fun s => t.hasWork s = true) (s := start s) (fun s h => ?_) hstart
    (steps_of_forall _ fun op hop w => ?_)
  · simp [ProxyThread.loop, h]
  · obtain ⟨op, -, rfl⟩ := List.mem_map.1 hop
    exact announces_op t w op

/-! ## The joins of `stopThreads` -/

/-- Nobody keeps the mutex of a thread for good, and `mThreadsRun` stays cleared. -/
theorem stopped_step (t : ProxyThread) (w : Waiter.State System) (op : ThreadOp)
    (h : w.taken = false ∧ w.data.proxy.mThreadsRun = false) :
    (Waiter.step t.loop w (op.op t)).taken = false ∧
      (Waiter.step t.loop w (op.op t)).data.proxy.mThreadsRun = false := by
  cases op with
  | advance => exact h
  | notify => exact h
  | stop => exact ⟨h.1, rfl⟩
  | proxy op =>
    have hstep := (threadsRun_step w.data op).trans h.2
    rw [op_proxy]
    split
    · simp only [Waiter.step]
      split
      · exact ⟨h.1, hstep⟩
      · exact h
    · split
      · simp only [Waiter.step]
        split
        · exact ⟨h.1, hstep⟩
        · exact h
      · exact ⟨h.1, hstep⟩

theorem taken_step (t : ProxyThread) (w : Waiter.State System) (op : ThreadOp) (h : w.taken = false) :
    (Waiter.step t.loop w (op.op t)).taken = false := by
  cases op with
  | advance => exact h
  | notify => exact h
  | stop => exact h
  | proxy op =>
    rw [op_proxy]
    split
    · simp only [Waiter.step]
      split <;> exact h
    · split
      · simp only [Waiter.step]
        split <;> exact h
      · exact h

theorem stopped_run (t : ProxyThread) (s : System) (before between : List ThreadOp) :
    (run t (start s) (before ++ .stop :: between)).taken = false ∧
      (run t (start s) (before ++ .stop :: between)).data.proxy.mThreadsRun = false := by
  have hfold : ∀ (w : Waiter.State System) (ops : List ThreadOp),
      run t w ops = Run.run (fun w op => Waiter.step t.loop w (ThreadOp.op t op)) w ops :=
    fun w ops => List.foldl_map
  rw [hfold, run_append, run_cons]
  have hbefore := run_of_inv (fun w op => Waiter.step t.loop w (ThreadOp.op t op)) (fun w => w.taken = false)
    (taken_step t) before (s := start s) rfl
  exact run_of_inv (fun w op => Waiter.step t.loop w (ThreadOp.op t op)) _ (stopped_step t) between ⟨hbefore, rfl⟩

/-- Where `stopThreads` notifies, after the store and whatever happened since. -/
def atNotify (t : ProxyThread) (s : System) (before between : List ThreadOp) : Waiter.State System :=
  run t (start s) (before ++ .stop :: between)

/-- **When the join of `stopThreads` returns**: the thread, left to itself after the notification, ends exactly if it was
not between its look at `mThreadsRun` and its sleep; and in every session without work some schedule brings it there. -/
theorem join_returns (t : ProxyThread) (s : System) :
    (∀ before between, (∃ n, (advances t.loop (Waiter.step t.loop (atNotify t s before between) .notify) n).position =
      .ended) ↔ (atNotify t s before between).position ≠ .blocking) ∧
    (s.proxy.mThreadsRun = true → t.hasWork s = false → ∃ before, ∀ n,
      (advances t.loop (Waiter.step t.loop (atNotify t s before []) .notify) n).position ≠ .ended) := by
  have hiff : ∀ before between, (∃ n, (advances t.loop (Waiter.step t.loop (atNotify t s before between)
      .notify) n).position = .ended) ↔ (atNotify t s before between).position ≠ .blocking := by
    intro before between
    obtain ⟨htaken, hstopped⟩ := stopped_run t s before between
    exact ended_after_notify_iff htaken hstopped (by simp [ProxyThread.loop, atNotify, hstopped])
  refine ⟨hiff, fun hrun hidle => ⟨[.advance, .advance, .advance], fun n hn => ?_⟩⟩
  refine (hiff [.advance, .advance, .advance] []).1 ⟨n, hn⟩ ?_
  simp [atNotify, run, start, ThreadOp.op, Waiter.step, next, ProxyThread.loop, hrun, hidle]

/-- An empty queue after an initialization: the pending-writes thread can be missed. -/
theorem join_returns_empty : ∃ before, ∀ n, (advances (ProxyThread.loop .mPendingWritesThread)
    (Waiter.step (ProxyThread.loop .mPendingWritesThread) (atNotify .mPendingWritesThread ⟨wakeUpProxy, [], []⟩ before [])
      .notify) n).position ≠ .ended :=
  (join_returns .mPendingWritesThread ⟨wakeUpProxy, [], []⟩).2 rfl rfl

end ProxyThreads
end MultiHal
end MemsHal
