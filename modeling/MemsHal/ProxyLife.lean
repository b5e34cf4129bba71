import MemsHal.ProxyFrame
/-!
# ProxyLife — the system wake lock over stops and restarts

Nothing keeps the sub-HALs and the two threads away while `HalProxy` stops its threads, clears its queue and starts
again, and a call may have read `mThreadsRun` before that.  Here every part of `initializeCommon` is a step of its own,
between any other steps.
-/
namespace MemsHal
namespace MultiHal

open Run (run Along Steps)
open CountedLock (Alternates)

/-- A step of a sub-HAL, of a thread or of the framework.  A post ends before its wakelock does. -/
inductive Call
  | step (op : ProxyOp)
  | postEventsToMessageQueue (events : List Event) (numWakeupEvents : Nat) (i : Nat) (now : Int)
      (availableToWrite : Nat) (writeOk : Bool)
  | resetSharedWakelock (now : Int)
  | background (b : Background)
  | setOperationMode (mode : OperationMode) (results : List Result)
  | moveAssign (target other : Nat)

/-- A step of a proxy over its whole life.  The value of `mThreadsRun` that a delayed call works with is an old one. -/
inductive LifeOp
  | call (c : Call)
  | delayed (threadsRun : Bool) (c : Call)
  | stopThreads
  | clear
  | restart (e : Surroundings)
  | normalMode

namespace System

def call (s : System) : Call → System
  | .step op => s.step op
  | .postEventsToMessageQueue events numWakeupEvents i now availableToWrite writeOk =>
    match s.wakelocks[i]? with
    | some wakelock =>
      s.after (s.proxy.postEventsToMessageQueue events numWakeupEvents wakelock now availableToWrite writeOk)
    | none => s
  | .resetSharedWakelock now => s.after (s.proxy.resetSharedWakelock now)
  | .background b => s.background b
  | .setOperationMode mode results => { s with proxy := (s.proxy.setOperationMode mode results).1 }
  | .moveAssign target other =>
    match s.wakelocks[other]? with
    | some source => { s with wakelocks := (s.wakelocks.set target source).set other ⟨0, false⟩ }
    | none        => s

def setThreadsRun (s : System) (threadsRun : Bool) : System :=
  { s with proxy := { s.proxy with mThreadsRun := threadsRun } }

def life (s : System) : LifeOp → System
  | .call c               => s.call c
  | .delayed threadsRun c => ((s.setThreadsRun threadsRun).call c).setThreadsRun s.proxy.mThreadsRun
  | .stopThreads          => s.setThreadsRun false
  | .clear                => s.clear
  | .restart e            => s.restart e
  | .normalMode           => { s with proxy := { s.proxy with mCurrentOperationMode := .normal } }

/-- `Promised`, for a call. -/
def PromisedCall (s : System) : Call → Prop
  | .step op => s.Promised op
  | .postEventsToMessageQueue _ numWakeupEvents i _ _ _ =>
    ∀ wakelock, s.wakelocks[i]? = some wakelock → wakelock.mLocked = true → 0 < numWakeupEvents
  | _ => True

/-- A locked wakelock is posted with wake-up events only. -/
def PostsWakeUps (s : System) : LifeOp → Prop
  | .call c | .delayed _ c => s.PromisedCall c
  | _                      => True

end System

namespace ProxyLife

theorem construct_refCount (kWakelockTimeoutNs : Int) (subHalList : List SubHal) (startTime resetTime : Int) :
    (HalProxy.construct kWakelockTimeoutNs subHalList startTime resetTime).mWakelockRefCount = 0 := by
  unfold HalProxy.construct
  obtain ⟨m, index, h⟩ := ProxyRoute.initializeSensorList_fields _
  rw [h]

theorem setOperationMode_refCount (p : HalProxy) (mode : OperationMode) (results : List Result) :
    (p.setOperationMode mode results).1.mWakelockRefCount = p.mWakelockRefCount := by
  unfold HalProxy.setOperationMode
  split <;> rfl

/-! ## Steps -/

theorem reaches_call (s : System) (c : Call) (hc : s.PromisedCall c) : s.lock.Reaches (s.call c).lock := by
  cases c with
  | step op => exact reaches_step s op hc
  | postEventsToMessageQueue events n i now availableToWrite writeOk =>
    unfold System.call
    dsimp only
    split
    · rename_i wakelock hwl
      exact counts_post s.proxy events n wakelock now availableToWrite writeOk (hc wakelock hwl) s.calls
    · exact .refl _
  | resetSharedWakelock now => exact counts_of_locking (s.proxy.locking_reset now) s.calls
  | background b => exact ProxyInit.reaches_background s b
  | setOperationMode mode results =>
    have hcount := setOperationMode_refCount s.proxy mode results
    unfold System.lock systemWakeLock
    rw [show (s.call (.setOperationMode mode results)).proxy.mWakelockRefCount = s.proxy.mWakelockRefCount from hcount]
    exact .refl _
  | moveAssign target other =>
    unfold System.call
    dsimp only
    split <;> exact .refl _

/-- **Every step takes references and gives them back**, whatever value of `mThreadsRun` it works with. -/
theorem reaches_life (s : System) (op : LifeOp) (hop : s.PostsWakeUps op) :
    s.lock.Reaches (s.life op).lock := by
  cases op with
  | call c => exact reaches_call s c hop
  | delayed threadsRun c =>
    -- the lock is not about `mThreadsRun`
    have hcall : (s.setThreadsRun threadsRun).PromisedCall c := by
      cases c with
      | step op => cases op <;> exact hop
      | _ => exact hop
    exact reaches_call (s.setThreadsRun threadsRun) c hcall
  | stopThreads | clear | restart e | normalMode => exact .refl _

/-! ## `initializeCommon` as a run -/

def stopSteps (e : Surroundings) : List LifeOp :=
  [.stopThreads, .call (.step (.handlePendingWritesWrite e.writeOk)), .call (.step .handlePendingWritesCommit),
    .call (.step (.handleWakelocksRead e.numWakeLocksProcessed)), .call (.resetSharedWakelock e.nowExit),
    .call (.resetSharedWakelock e.nowReset)]

def backgroundSteps (bs : List Background) : List LifeOp := bs.map fun b => .call (.background b)

/-- The steps of a call of `initializeCommon` that nothing else comes between. -/
def initializeCommonSteps (e : Surroundings) : List LifeOp :=
  stopSteps e ++ backgroundSteps e.whileStopping ++ backgroundSteps e.whileDisabling ++ [.clear] ++
    backgroundSteps e.whileClearing ++ [.restart e] ++ backgroundSteps e.whileStarting ++ [.normalMode]

theorem run_stopSteps (s : System) (e : Surroundings) : run System.life s (stopSteps e) = s.stop e := by
  show System.after (System.mk _ _ (((s.calls ++ _) ++ _) ++ _)) _ = System.after (System.mk _ _ _) _
  rw [List.append_assoc, List.append_assoc, ← List.append_assoc _ _ (Prod.snd _)]
  rfl

theorem run_backgroundSteps (s : System) (bs : List Background) :
    run System.life s (backgroundSteps bs) = run System.background s bs :=
  List.foldl_map

theorem run_initializeCommonSteps (s : System) (e : Surroundings) :
    run System.life s (initializeCommonSteps e) = (s.initializeCommon e).1 := by
  unfold initializeCommonSteps
  simp only [Run.run_append, run_stopSteps, run_backgroundSteps]
  rfl

theorem postsWakeUps_initializeCommonSteps (s : System) (e : Surroundings) :
    Steps System.life System.PostsWakeUps s (initializeCommonSteps e) := by
  have hbackground : ∀ bs, ∀ op ∈ backgroundSteps bs, ∀ s : System, s.PostsWakeUps op := by
    intro bs op hop s
    obtain ⟨b, -, rfl⟩ := List.mem_map.1 hop
    trivial
  have hstop : ∀ op ∈ stopSteps e, ∀ s : System, s.PostsWakeUps op := by
    unfold stopSteps
    simp only [List.forall_mem_cons]
    exact ⟨fun _ => trivial, fun _ => trivial, fun _ => trivial, fun _ => trivial, fun _ => trivial, fun _ => trivial,
      nofun⟩
  apply Run.steps_of_forall
  unfold initializeCommonSteps
  simp only [List.forall_mem_append, List.forall_mem_singleton]
  exact ⟨⟨⟨⟨⟨⟨⟨hstop, hbackground _⟩, hbackground _⟩, fun _ => trivial⟩, hbackground _⟩, fun _ => trivial⟩,
    hbackground _⟩, fun _ => trivial⟩

/-- A state of a run from a new proxy. -/
def IsRun (s : System) : Prop :=
  ∃ kWakelockTimeoutNs subHalList startTime resetTime ops,
    Steps System.life System.PostsWakeUps (System.start kWakelockTimeoutNs subHalList startTime resetTime) ops ∧
      run System.life (System.start kWakelockTimeoutNs subHalList startTime resetTime) ops = s

theorem IsRun.append {s : System} (h : IsRun s) {ops : List LifeOp}
    (hops : Steps System.life System.PostsWakeUps s ops) : IsRun (run System.life s ops) := by
  obtain ⟨kWakelockTimeoutNs, subHalList, startTime, resetTime, before, hbefore, rfl⟩ := h
  exact ⟨kWakelockTimeoutNs, subHalList, startTime, resetTime, before ++ ops,
    (Run.steps_append ops before _).2 ⟨hbefore, hops⟩, Run.run_append _ before ops⟩

theorem IsRun.step {s : System} (h : IsRun s) (op : LifeOp) (hop : s.PostsWakeUps op) : IsRun (s.life op) :=
  h.append (show Steps System.life System.PostsWakeUps s [op] from ⟨hop, trivial⟩)

/-- A step that nothing comes between is a run. -/
theorem isRun_session {s : System} (h : IsRun s) (op : SessionOp) (hop : ∀ step, op = .step step → s.Promised step) :
    IsRun (s.session op) := by
  cases op with
  | step op => exact h.step (.call (.step op)) (hop op rfl)
  | background b => exact h.step (.call (.background b)) trivial
  | setOperationMode mode results => exact h.step (.call (.setOperationMode mode results)) trivial
  | initializeCommon e =>
    show IsRun (s.initializeCommon e).1
    rw [← run_initializeCommonSteps]
    exact h.append (postsWakeUps_initializeCommonSteps s e)

/-- **The reachable states of a proxy are states of such runs.** -/
theorem isRun_of_reachable {s : System} (h : ProxyInit.Reachable s) : IsRun s := by
  induction h with
  | construct kWakelockTimeoutNs subHalList startTime resetTime =>
    exact ⟨kWakelockTimeoutNs, subHalList, startTime, resetTime, [], trivial, rfl⟩
  | step op _ hop ih => exact isRun_session ih (.step op) fun _ heq => SessionOp.step.inj heq ▸ hop
  | background b _ ih => exact isRun_session ih (.background b) nofun
  | setOperationMode mode results _ ih => exact isRun_session ih (.setOperationMode mode results) nofun
  | initializeCommon e _ ih => exact isRun_session ih (.initializeCommon e) nofun

/-! ## Runs -/

theorem right_start (kWakelockTimeoutNs : Int) (subHalList : List SubHal) (startTime resetTime : Int) :
    CountedLock.Right (System.start kWakelockTimeoutNs subHalList startTime resetTime).lock where
  alternates := CountedLock.alternates_nil
  held := by
    have hcount : (System.start kWakelockTimeoutNs subHalList startTime resetTime).lock.count = 0 :=
      construct_refCount kWakelockTimeoutNs subHalList startTime resetTime
    rw [hcount]
    exact iff_of_false (show ¬ none = some true by decide) (Nat.lt_irrefl 0)

theorem right_of_reachable {s : System} (h : ProxyInit.Reachable s) : CountedLock.Right s.lock := by
  obtain ⟨kWakelockTimeoutNs, subHalList, startTime, resetTime, ops, hops, rfl⟩ := isRun_of_reachable h
  exact (CountedLock.along_right reaches_life (right_start kWakelockTimeoutNs subHalList startTime resetTime) hops).last

/-- **Calls on the system wake lock alternate**, and it is held exactly while there are references. -/
theorem along_alternates (kWakelockTimeoutNs : Int) (subHalList : List SubHal) (startTime resetTime : Int)
    (ops : List LifeOp)
    (h : Steps System.life System.PostsWakeUps (System.start kWakelockTimeoutNs subHalList startTime resetTime) ops) :
    Along System.life (fun s => Alternates (s.calls.filterMap lockCall?) ∧ HoldsLock s)
      (System.start kWakelockTimeoutNs subHalList startTime resetTime) ops :=
  (CountedLock.along_right reaches_life (right_start kWakelockTimeoutNs subHalList startTime resetTime) h).imp
    fun _ hs => ⟨hs.alternates, hs.held⟩

/-- A wakelock outlives two resets, and its end has read `mThreadsRun` before the stop; then more is acknowledged than
there is. -/
def lateEnd : List LifeOp :=
  [.restart (ProxyInit.calm 1 []), .call (.step (.createScopedWakelock true 5)),
    .call (.step (.createScopedWakelock true 5)), .call (.postEventsToMessageQueue [wakeUpEvent 1] 1 0 6 8 true)] ++
    stopSteps (ProxyInit.calm 7 []) ++
    [.delayed true (.step (.destroyScopedWakelock 0)), .clear, .restart (ProxyInit.calm 7 []),
      .call (.step (.handleWakelocksCheck 8 8)), .call (.step (.handleWakelocksRead (some 5)))]

theorem along_alternates_lateEnd :
    Along System.life (fun s => Alternates (s.calls.filterMap lockCall?) ∧ HoldsLock s)
      (System.start 1000000000 [⟨[⟨1, SensorFlagBits.wakeUp⟩]⟩] 0 0) lateEnd :=
  along_alternates _ _ _ _ _ ⟨trivial, trivial, trivial, fun _ _ _ => Nat.one_pos, trivial, trivial, trivial, trivial,
    trivial, trivial, trivial, trivial, trivial, trivial, trivial, trivial⟩

end ProxyLife
end MultiHal
end MemsHal
