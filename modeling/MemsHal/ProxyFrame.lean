import MemsHal.ProxyInit
/-!
# ProxyFrame — what a step of `HalProxy` leaves alone

After its constructor the proxy never changes its sub-HALs, and its operation mode in `setOperationMode` and
`initializeCommon` only.  The sensor list, which nothing is meant to write, changes when sensors are looked up in it.  A
step looks up sensors of events that were just posted or wait already, and keeps no other events.
-/
namespace MemsHal
namespace MultiHal

/-- The fields that decide where requests go, how sub-HALs run and how long a wakelock lasts. -/
structure Settings where
  kWakelockTimeoutNs : Int
  mSubHalList : List SubHal
  mCurrentOperationMode : OperationMode
  mDirectChannelSubHal : Option Nat

namespace HalProxy

def settings (p : HalProxy) : Settings :=
  ⟨p.kWakelockTimeoutNs, p.mSubHalList, p.mCurrentOperationMode, p.mDirectChannelSubHal⟩

def pendingEvents (p : HalProxy) : List Event := p.mPendingWriteEventsQueue.flatMap Prod.fst

/-- All sensors of `events` are listed. -/
def Lists (p : HalProxy) (events : List Event) : Prop := ∀ event ∈ events, event.sensorHandle ∈ p.mSensors

end HalProxy

/-- The events that a step brings in. -/
def ProxyOp.posted : ProxyOp → List Event
  | .postEventsToMessageQueue events _ _ _ _ _ => events
  | _                                          => []

/-- Everything that happens to a proxy. -/
inductive SessionOp
  | step (op : ProxyOp)
  | background (b : Background)
  | setOperationMode (mode : OperationMode) (results : List Result)
  | initializeCommon (e : Surroundings)

def SessionOp.posted : SessionOp → List Event
  | .step op => op.posted
  | _        => []

namespace System

/-- The proxy after its constructor. -/
def start (kWakelockTimeoutNs : Int) (subHalList : List SubHal) (startTime resetTime : Int) : System :=
  ⟨HalProxy.construct kWakelockTimeoutNs subHalList startTime resetTime, [], []⟩

def session (s : System) : SessionOp → System
  | .step op                       => s.step op
  | .background b                  => s.background b
  | .setOperationMode mode results => { s with proxy := (s.proxy.setOperationMode mode results).1 }
  | .initializeCommon e            => (s.initializeCommon e).1

end System

namespace ProxyFrame

/-- **The frame of a step** that brings `posted` in. -/
structure Frame (posted : List Event) (p p' : HalProxy) : Prop where
  settings : p'.settings = p.settings
  sensors : ∃ looked, looked ⊆ posted ++ p.pendingEvents ∧ p'.mSensors = (p.lookUpSensors looked).mSensors
  pending : p'.pendingEvents ⊆ posted ++ p.pendingEvents

/-! ## Lookups -/

theorem lookUpSensors_append (p : HalProxy) (events more : List Event) :
    p.lookUpSensors (events ++ more) = (p.lookUpSensors events).lookUpSensors more := by
  unfold HalProxy.lookUpSensors StdMap.subscripts
  rw [List.map_append, List.foldl_append]

theorem lookUpSensors_eq_self_iff (p : HalProxy) (events : List Event) :
    (p.lookUpSensors events).mSensors = p.mSensors ↔ p.Lists events := by
  unfold HalProxy.lookUpSensors HalProxy.Lists
  rw [StdMap.subscripts_eq_self_iff, List.forall_mem_map]

/-! ## Frames -/

section Frames

variable {posted : List Event} {p q r : HalProxy}

/-- A step that neither looks sensors up nor touches the queue. -/
theorem Frame.of_same (hsettings : q.settings = p.settings) (hsensors : q.mSensors = p.mSensors)
    (hqueue : q.mPendingWriteEventsQueue = p.mPendingWriteEventsQueue) : Frame posted p q := by
  refine ⟨hsettings, ⟨[], List.nil_subset _, hsensors⟩, ?_⟩
  unfold HalProxy.pendingEvents
  rw [hqueue]
  exact List.subset_append_right _ _

theorem Frame.refl (p : HalProxy) : Frame posted p p := .of_same rfl rfl rfl

theorem Frame.trans (h : Frame posted p q) (h' : Frame posted q r) : Frame posted p r := by
  have hsub : posted ++ q.pendingEvents ⊆ posted ++ p.pendingEvents :=
    List.append_subset.2 ⟨List.subset_append_left _ _, h.pending⟩
  obtain ⟨looked, hlooked, hq⟩ := h.sensors
  obtain ⟨looked', hlooked', hr⟩ := h'.sensors
  refine ⟨h'.settings.trans h.settings, ⟨looked ++ looked', ?_, ?_⟩, List.Subset.trans h'.pending hsub⟩
  · exact List.append_subset.2 ⟨hlooked, List.Subset.trans hlooked' hsub⟩
  · rw [lookUpSensors_append, hr]
    unfold HalProxy.lookUpSensors at hq ⊢
    rw [hq]

theorem Frame.decrement (h : Frame posted p q) (delta : Nat) (timeoutStart : Int) :
    Frame posted p (q.decrementRefCountAndMaybeReleaseWakelock delta timeoutStart).1 := by
  have hsame : Frame posted q { q with mWakelockRefCount := q.remaining delta timeoutStart } := .of_same rfl rfl rfl
  rw [HalProxy.decrement_eq]
  exact h.trans hsame

end Frames

variable (posted : List Event) (p : HalProxy)

/-- The functions about the wake lock have any frame. -/
theorem frame_of_locking {p : HalProxy} {r : HalProxy × List ProxyCall} (h : HalProxy.Locking (fun _ => True) p r) :
    Frame posted p r.1 := by
  induction h with
  | increment p _ now =>
    unfold HalProxy.incrementRefCountAndMaybeAcquireWakelock
    split
    · exact .of_same rfl rfl rfl
    · exact .refl p
  | decrement p delta timeoutStart => exact (Frame.refl p).decrement delta timeoutStart
  | setResetTime p now => exact .of_same rfl rfl rfl
  | setReading p reading => exact .of_same rfl rfl rfl
  | trans _ _ ih ih' => exact ih.trans ih'

theorem frame_take : Frame posted p p.handlePendingWritesTake := by
  unfold HalProxy.handlePendingWritesTake
  split
  · split
    · exact .of_same rfl rfl rfl
    · exact .refl p
  · exact .refl p

/-- A failed write looks up the sensors of the events it drops, which wait. -/
theorem frame_releaseDropped {events : List Event} (hpending : events ⊆ p.pendingEvents) (numWakeupEvents : Nat) :
    Frame posted p (p.releaseDropped events numWakeupEvents).1 := by
  unfold HalProxy.releaseDropped
  split
  · split
    · have hcount : Frame posted p (p.countNumWakeupEvents events p.eventQueueSize).1 := by
        rw [HalProxy.countNumWakeupEvents_eq]
        refine ⟨rfl, ⟨events.take p.eventQueueSize, fun event hm => ?_, rfl⟩, List.subset_append_right _ _⟩
        exact List.subset_append_right _ _ (hpending (List.mem_of_mem_take hm))
      exact hcount.decrement _ (-1)
    · exact (Frame.refl p).decrement numWakeupEvents (-1)
  · exact .refl p

theorem frame_write (success : Bool) : Frame posted p (p.handlePendingWritesWrite success).1 := by
  rcases HalProxy.write_cases p success with ⟨numWakeupEvents, numToWrite, events, hw⟩ | ⟨-, hnone⟩
  · obtain ⟨_, rfl, h⟩ := HalProxy.write_eq hw success
    have hwritten : Frame posted p { p with mPendingWrites := .written numToWrite } := .of_same rfl rfl rfl
    rw [h]
    cases success with
    | true => exact hwritten
    | false =>
      obtain ⟨-, n, rest, hq⟩ := hw
      refine hwritten.trans (frame_releaseDropped posted _ ?_ numWakeupEvents)
      show events ⊆ p.mPendingWriteEventsQueue.flatMap Prod.fst
      rw [hq]
      exact List.subset_append_left _ _
  · rw [hnone]
    exact .refl p

/-- The queue loses events of its front entry, at most. -/
theorem frame_commit : Frame posted p p.handlePendingWritesCommit := by
  unfold HalProxy.handlePendingWritesCommit
  split
  · rename_i numToWrite events n rest _ hq
    refine ⟨rfl, ⟨[], List.nil_subset _, rfl⟩, ?_⟩
    unfold HalProxy.pendingEvents
    rw [hq, List.flatMap_cons]
    refine List.Subset.trans ?_ (List.subset_append_right _ _)
    dsimp only
    split
    · exact List.append_subset.2 ⟨fun event hm => List.subset_append_left _ _ (List.mem_of_mem_drop hm),
        List.subset_append_right _ _⟩
    · exact List.subset_append_right _ _
  · exact .refl p

theorem frame_push {left : List Event} (hleft : left ⊆ posted) (numWakeupEvents : Nat) :
    Frame posted p (p.pushPending left numWakeupEvents).1 := by
  unfold HalProxy.pushPending
  split
  · exact .refl p
  · split
    · refine ⟨rfl, ⟨[], List.nil_subset _, rfl⟩, ?_⟩
      unfold HalProxy.pendingEvents
      rw [List.flatMap_append, List.flatMap_singleton]
      exact List.append_subset.2 ⟨List.subset_append_right _ _, List.Subset.trans hleft (List.subset_append_left _ _)⟩
    · exact .refl p

theorem frame_post (events : List Event) (numWakeupEvents : Nat) (wakelock : ScopedWakelock) (now : Int)
    (availableToWrite : Nat) (writeOk : Bool) :
    Frame events p (p.postEventsToMessageQueue events numWakeupEvents wakelock now availableToWrite writeOk).1 :=
  (frame_of_locking events (p.locking_acquire numWakeupEvents wakelock (fun _ => trivial) now)).trans
    (frame_push events _ (List.drop_subset _ _) numWakeupEvents)

/-- **Every step of the proxy has its frame.** -/
theorem frame_step (s : System) (op : ProxyOp) : Frame op.posted s.proxy (s.step op).proxy := by
  cases op with
  | createScopedWakelock lock now => exact frame_of_locking [] (HalProxy.locking_create trivial s.proxy lock now)
  | destroyScopedWakelock i =>
    cases hwl : s.wakelocks[i]? with
    | none =>
      rw [System.step_destroy_none hwl]
      exact .refl s.proxy
    | some wakelock =>
      rw [System.step_destroy hwl]
      exact frame_of_locking [] (s.proxy.locking_destroy wakelock)
  | postEventsToMessageQueue events numWakeupEvents i now availableToWrite writeOk =>
    cases hwl : s.wakelocks[i]? with
    | none =>
      rw [System.step_post_none hwl]
      exact .refl s.proxy
    | some wakelock =>
      rw [System.step_post hwl]
      exact (frame_post s.proxy events numWakeupEvents wakelock now availableToWrite writeOk).trans
        (frame_of_locking events (HalProxy.locking_destroy _ wakelock))
  | handlePendingWritesTake => exact frame_take [] s.proxy
  | handlePendingWritesWrite success => exact frame_write [] s.proxy success
  | handlePendingWritesCommit => exact frame_commit [] s.proxy
  | handleWakelocksCheck now nowReset => exact frame_of_locking [] (s.proxy.locking_check now nowReset)
  | handleWakelocksRead numWakeLocksProcessed =>
    exact frame_of_locking [] (s.proxy.locking_read numWakeLocksProcessed)

theorem frame_background (s : System) (b : Background) : Frame [] s.proxy (s.background b).proxy := by
  obtain ⟨count, resetTime, reading, dynamicSensors, h⟩ := ProxyInit.background_eq s b
  rw [h]
  exact .of_same rfl rfl rfl

theorem frame_run (s : System) (bs : List Background) : Frame [] s.proxy (Run.run System.background s bs).proxy :=
  Run.run_of_inv System.background (fun s' => Frame [] s.proxy s'.proxy)
    (fun s' b h => h.trans (frame_background s' b)) bs (.refl s.proxy)

theorem frame_stop (s : System) (e : Surroundings) : Frame [] s.proxy (s.stop e).proxy := by
  have hstopped : Frame [] s.proxy { s.proxy with mThreadsRun := false } := .of_same rfl rfl rfl
  have hwritten := (hstopped.trans (frame_write [] _ e.writeOk)).trans (frame_commit [] _)
  have hread := hwritten.trans (frame_of_locking [] (HalProxy.locking_read _ e.numWakeLocksProcessed))
  have hreset : ∀ (q : HalProxy) (now : Int), Frame [] q (q.resetSharedWakelock now).1 :=
    fun q now => frame_of_locking [] (q.locking_reset now)
  exact (hread.trans (hreset _ e.nowExit)).trans (hreset _ e.nowReset)

/-- A clear queue holds no events. -/
theorem frame_clear (s : System) : Frame [] s.proxy s.clear.proxy :=
  ⟨rfl, ⟨[], List.nil_subset _, rfl⟩, List.nil_subset _⟩

/-- **`initializeCommon` changes the operation mode, and nothing else of a frame.** -/
theorem frame_initializeCommon (s : System) (e : Surroundings) :
    ∃ q, Frame [] s.proxy q ∧ (s.initializeCommon e).1.proxy = { q with mCurrentOperationMode := .normal } := by
  have hrestart : ∀ q : System, Frame [] q.proxy (q.restart e).proxy := fun _ => .of_same rfl rfl rfl
  have hstopped := (frame_stop s e).trans (frame_run _ e.whileStopping)
  have hcleared := (hstopped.trans (frame_run _ e.whileDisabling)).trans (frame_clear _)
  have hrestarted := (hcleared.trans (frame_run _ e.whileClearing)).trans (hrestart _)
  exact ⟨_, hrestarted.trans (frame_run _ e.whileStarting), rfl⟩

theorem setOperationMode_eq (p : HalProxy) (mode : OperationMode) (results : List Result) :
    ∃ m, (p.setOperationMode mode results).1 = { p with mCurrentOperationMode := m } := by
  unfold HalProxy.setOperationMode
  split <;> exact ⟨_, rfl⟩

/-- **Whatever happens to a proxy has its frame**, but for the operation mode. -/
theorem frame_session (s : System) (op : SessionOp) :
    ∃ q mode, Frame op.posted s.proxy q ∧ (s.session op).proxy = { q with mCurrentOperationMode := mode } := by
  cases op with
  | step op => exact ⟨_, _, frame_step s op, rfl⟩
  | background b => exact ⟨_, _, frame_background s b, rfl⟩
  | setOperationMode mode results =>
    obtain ⟨m, h⟩ := setOperationMode_eq s.proxy mode results
    exact ⟨s.proxy, m, .refl s.proxy, h⟩
  | initializeCommon e =>
    obtain ⟨q, hframe, h⟩ := frame_initializeCommon s e
    exact ⟨q, _, hframe, h⟩

theorem session_subHals (s : System) (op : SessionOp) :
    (s.session op).proxy.mSubHalList = s.proxy.mSubHalList ∧
      (s.session op).proxy.mDirectChannelSubHal = s.proxy.mDirectChannelSubHal := by
  obtain ⟨q, mode, hframe, h⟩ := frame_session s op
  rw [h]
  exact ⟨congrArg Settings.mSubHalList hframe.settings, congrArg Settings.mDirectChannelSubHal hframe.settings⟩

/-- **The sub-HALs are those of the constructor**, and so is the one for direct channels. -/
theorem run_subHals (s : System) (ops : List SessionOp) :
    (Run.run System.session s ops).proxy.mSubHalList = s.proxy.mSubHalList ∧
      (Run.run System.session s ops).proxy.mDirectChannelSubHal = s.proxy.mDirectChannelSubHal :=
  Run.run_of_inv System.session
    (fun s' => s'.proxy.mSubHalList = s.proxy.mSubHalList ∧ s'.proxy.mDirectChannelSubHal = s.proxy.mDirectChannelSubHal)
    (fun s' op h => ⟨(session_subHals s' op).1.trans h.1, (session_subHals s' op).2.trans h.2⟩) ops ⟨rfl, rfl⟩

end ProxyFrame
end MultiHal
end MemsHal
