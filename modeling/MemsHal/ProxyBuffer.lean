import MemsHal.ProxyFifo
import MemsHal.ProxyFrame
/-!
# ProxyBuffer — `multihal/aidl/include/EventMessageQueueWrapperAidl.h`

Events go to the Event FMQ and come from it through the slots of `mIntermediateEventBuffer`, and no function of the
wrapper looks at how many there are.  What bounds a call is what the proxy asks for, which is never more than the FMQ
holds; so the slots last exactly as long as the framework hands over no larger FMQ (`along_inRange_iff`).
-/
namespace MemsHal
namespace MultiHal

open Run (Along Steps)

namespace HalProxy

/-- The count of the `write` of `postEventsToMessageQueue`, if it comes to one. -/
def writeCounts (p : HalProxy) (events : List Event) (availableToWrite : Nat) : List Nat :=
  if p.mPendingWriteEventsQueue.isEmpty ∧ 0 < min events.length availableToWrite then
    [min events.length availableToWrite]
  else []

/-- The count of the `writeBlocking` of `handlePendingWrites`, if it is about to be made. -/
def writeBlockingCounts (p : HalProxy) : List Nat :=
  match p.mPendingWrites, p.mPendingWriteEventsQueue with
  | .writing _ numToWrite, _ :: _ => [numToWrite]
  | _, _                          => []

end HalProxy

/-- The proxy behind the AIDL interface, whether it has an Event FMQ, and the counts of the calls it has made on its
`EventMessageQueueWrapperAidl`: a call with the count `n` uses the first `n` slots of the buffer. -/
structure Buffered where
  system : System
  hasEventQueue : Bool
  counts : List Nat

/-- What happens to the proxy, until its destructor; `availableToRead` is what `stopThreads` finds in the FMQ. -/
inductive BufferedOp
  | session (op : SessionOp) (availableToRead : Nat)
  | destruct (availableToRead : Nat)

namespace Buffered

/-- The counts of `stopThreads`, with the blocking write that may be under way. -/
def stopCounts (s : Buffered) (availableToRead : Nat) : List Nat :=
  (if s.hasEventQueue then [availableToRead] else []) ++ s.system.proxy.writeBlockingCounts

def newCounts (s : Buffered) : BufferedOp → List Nat
  | .session (.step (.postEventsToMessageQueue events _ i _ availableToWrite _)) _ =>
    if i < s.system.wakelocks.length then s.system.proxy.writeCounts events availableToWrite else []
  | .session (.step (.handlePendingWritesWrite _)) _ => s.system.proxy.writeBlockingCounts
  | .session (.initializeCommon _) availableToRead   => s.stopCounts availableToRead
  | .session _ _                                     => []
  | .destruct availableToRead                        => s.stopCounts availableToRead

def step (s : Buffered) (op : BufferedOp) : Buffered where
  system := match op with
    | .session op _ => s.system.session op
    | .destruct _   => s.system
  hasEventQueue := match op with
    | .session (.initializeCommon _) _ => true
    | _                                => s.hasEventQueue
  counts := s.counts ++ s.newCounts op

/-- The proxy after its constructor. -/
def start (kWakelockTimeoutNs : Int) (subHalList : List SubHal) (startTime resetTime : Int) : Buffered :=
  ⟨.start kWakelockTimeoutNs subHalList startTime resetTime, false, []⟩

/-- An FMQ has no more events and no more free slots than it holds. -/
def Promised (s : Buffered) : BufferedOp → Prop
  | .session (.step (.postEventsToMessageQueue _ _ _ _ availableToWrite _)) _ =>
    availableToWrite ≤ s.system.proxy.eventQueueSize
  | .session (.initializeCommon _) availableToRead => availableToRead ≤ s.system.proxy.eventQueueSize
  | .session _ _                                   => True
  | .destruct availableToRead                      => availableToRead ≤ s.system.proxy.eventQueueSize

/-- The framework hands over an FMQ of one of the `capacities`. -/
def Hands (capacities : Set Nat) : BufferedOp → Prop
  | .session (.initializeCommon e) _ => e.eventQueueSize ∈ capacities
  | _                                => True

/-- **No call uses a slot that the buffer does not have.** -/
def InRange (maxReceiveBufferEventCount : Nat) (s : Buffered) : Prop :=
  ∀ count ∈ s.counts, count ≤ maxReceiveBufferEventCount

end Buffered

namespace ProxyBuffer

open Buffered (step start Promised Hands InRange)

/-! ## The FMQ and the writer -/

/-- The FMQ holds no more than `m` events, and the writer is about to write no more. -/
structure Fits (m : Nat) (p : HalProxy) : Prop where
  size : p.eventQueueSize ≤ m
  writing : ∀ numWakeupEvents numToWrite, p.mPendingWrites = .writing numWakeupEvents numToWrite → numToWrite ≤ m

section Fits

variable {m : Nat} {p q : HalProxy}

theorem Fits.of_same (h : Fits m p) (hsize : q.eventQueueSize = p.eventQueueSize)
    (hwrites : q.mPendingWrites = p.mPendingWrites) : Fits m q :=
  ⟨by rw [hsize]; exact h.size, fun n k hk => h.writing n k (hwrites.symm.trans hk)⟩

theorem Fits.of_quiet (h : Fits m p) {r : HalProxy × List ProxyCall} (hquiet : ProxyFifo.Quiet p r) : Fits m r.1 :=
  h.of_same hquiet.same.eventQueueSize hquiet.same.writes

theorem Fits.writeBlockingCounts (h : Fits m p) : ∀ count ∈ p.writeBlockingCounts, count ≤ m := by
  intro count hm
  unfold HalProxy.writeBlockingCounts at hm
  split at hm
  · rename_i hphase hq
    rw [List.mem_singleton.1 hm]
    exact h.writing _ _ hphase
  · cases hm

theorem Fits.take (h : Fits m p) : Fits m p.handlePendingWritesTake := by
  unfold HalProxy.handlePendingWritesTake
  split
  · split
    · refine ⟨h.size, fun n k hk => ?_⟩
      cases hk
      exact le_trans (Nat.min_le_right _ _) h.size
    · exact h
  · exact h

theorem Fits.write (h : Fits m p) (success : Bool) : Fits m (p.handlePendingWritesWrite success).1 := by
  rcases p.write_cases success with ⟨n, k, events, hwriting⟩ | ⟨-, hwrite⟩
  · obtain ⟨r, hr, hwrite⟩ := ProxyFifo.write_spec p success hwriting
    have hwritten : Fits m { p with mPendingWrites := .written k } := ⟨h.size, fun _ _ hk => by cases hk⟩
    have hleft : Fits m r.1 := hwritten.of_quiet hr
    rw [hwrite]
    exact hleft
  · rw [hwrite]
    exact h

theorem Fits.commit (h : Fits m p) : Fits m p.handlePendingWritesCommit := by
  unfold HalProxy.handlePendingWritesCommit
  split
  · exact ⟨h.size, fun _ _ hk => by cases hk⟩
  · exact h

theorem Fits.push (h : Fits m p) (left : List Event) (numWakeupEvents : Nat) :
    Fits m (p.pushPending left numWakeupEvents).1 := by
  unfold HalProxy.pushPending
  split
  · exact h
  · split <;> exact h.of_same rfl rfl

theorem Fits.background {s : System} (h : Fits m s.proxy) (b : Background) : Fits m (s.background b).proxy := by
  obtain ⟨count, resetTime, reading, dynamicSensors, hb⟩ := ProxyInit.background_eq s b
  rw [hb]
  exact h.of_same rfl rfl

theorem Fits.run {s : System} (h : Fits m s.proxy) (bs : List Background) :
    Fits m (Run.run System.background s bs).proxy :=
  Run.run_of_inv System.background (fun s => Fits m s.proxy) (fun _ b hs => hs.background b) bs h

end Fits

/-- A step keeps the FMQ, and the writer takes no more than it holds. -/
theorem fits_step {m : Nat} {s : System} (h : Fits m s.proxy) (op : ProxyOp) : Fits m (s.step op).proxy := by
  cases op with
  | createScopedWakelock lock now =>
      exact h.of_quiet (ProxyFifo.quiet_of_locking (HalProxy.locking_create trivial _ lock now))
  | destroyScopedWakelock i =>
    cases hwl : s.wakelocks[i]? with
    | none =>
      rw [System.step_destroy_none hwl]
      exact h
    | some wakelock =>
      rw [System.step_destroy hwl]
      exact h.of_quiet (ProxyFifo.quiet_of_locking (HalProxy.locking_destroy _ wakelock))
  | postEventsToMessageQueue events numWakeupEvents i now availableToWrite writeOk =>
    cases hwl : s.wakelocks[i]? with
    | none =>
      rw [System.step_post_none hwl]
      exact h
    | some wakelock =>
      rw [System.step_post hwl]
      have hacquired := h.of_quiet
        (ProxyFifo.quiet_of_locking (HalProxy.locking_acquire _ numWakeupEvents wakelock (fun _ => trivial) now))
      exact (hacquired.push _ numWakeupEvents).of_quiet
        (ProxyFifo.quiet_of_locking (HalProxy.locking_destroy _ wakelock))
  | handlePendingWritesTake => exact h.take
  | handlePendingWritesWrite success => exact h.write success
  | handlePendingWritesCommit => exact h.commit
  | handleWakelocksCheck now nowReset =>
      exact h.of_quiet (ProxyFifo.quiet_of_locking (HalProxy.locking_check _ now nowReset))
  | handleWakelocksRead numWakeLocksProcessed =>
      exact h.of_quiet (ProxyFifo.quiet_of_locking (HalProxy.locking_read _ numWakeLocksProcessed))

/-- After `initializeCommon` the FMQ is the new one, and the new writer waits. -/
theorem fits_initializeCommon {m : Nat} (s : System) {e : Surroundings} (he : e.eventQueueSize ≤ m) :
    Fits m (s.initializeCommon e).1.proxy := by
  have hrestarted : ∀ q : System, Fits m (q.restart e).proxy := fun q => ⟨he, fun _ _ hk => by cases hk⟩
  exact ((hrestarted _).run e.whileStarting).of_same rfl rfl

theorem fits_session {m : Nat} {s : System} (h : Fits m s.proxy) {op : SessionOp}
    (hop : ∀ e, op = .initializeCommon e → e.eventQueueSize ≤ m) : Fits m (s.session op).proxy := by
  cases op with
  | step op => exact fits_step h op
  | background b => exact h.background b
  | setOperationMode mode results =>
    obtain ⟨mode', hmode⟩ := ProxyFrame.setOperationMode_eq s.proxy mode results
    show Fits m (s.proxy.setOperationMode mode results).1
    rw [hmode]
    exact h.of_same rfl rfl
  | initializeCommon e => exact fits_initializeCommon s (hop e rfl)

/-! ## Runs -/

/-- **No call counts more than the FMQ holds.** -/
theorem newCounts_le {m : Nat} {s : Buffered} (h : Fits m s.system.proxy) {op : BufferedOp} (hop : Promised s op) :
    ∀ count ∈ s.newCounts op, count ≤ m := by
  have hstop : ∀ availableToRead, availableToRead ≤ s.system.proxy.eventQueueSize →
      ∀ count ∈ s.stopCounts availableToRead, count ≤ m := by
    intro availableToRead hread count hm
    rcases List.mem_append.1 hm with hm | hm
    · split at hm
      · rw [List.mem_singleton.1 hm]
        exact le_trans hread h.size
      · cases hm
    · exact h.writeBlockingCounts count hm
  intro count hm
  unfold Buffered.newCounts at hm
  split at hm
  case h_1 events _ i _ availableToWrite _ _ =>
    split at hm
    · unfold HalProxy.writeCounts at hm
      split at hm
      · rw [List.mem_singleton.1 hm]
        exact le_trans (Nat.min_le_right _ _) (le_trans hop h.size)
      · cases hm
    · cases hm
  case h_2 => exact h.writeBlockingCounts count hm
  case h_3 e availableToRead => exact hstop availableToRead hop count hm
  case h_4 => cases hm
  case h_5 availableToRead => exact hstop availableToRead hop count hm

/-- What is promised and what is handed over in a step. -/
def Legal (capacities : Set Nat) (s : Buffered) (op : BufferedOp) : Prop := Promised s op ∧ Hands capacities op

theorem inRange_step {m : Nat} {capacities : Set Nat} (hm : ∀ capacity ∈ capacities, capacity ≤ m) (s : Buffered)
    (op : BufferedOp) (h : Fits m s.system.proxy ∧ InRange m s) (hop : Legal capacities s op) :
    Fits m (step s op).system.proxy ∧ InRange m (step s op) := by
  refine ⟨?_, fun count hcount => ?_⟩
  · cases op with
    | session op availableToRead =>
      refine fits_session h.1 (fun e he => ?_)
      subst he
      exact hm _ hop.2
    | destruct availableToRead => exact h.1
  · rcases List.mem_append.1 hcount with hold | hnew
    · exact h.2 count hold
    · exact newCounts_le h.1 hop.1 count hnew

section Runs

variable (kWakelockTimeoutNs : Int) (subHalList : List SubHal) (startTime resetTime : Int)

theorem fits_start (m : Nat) :
    Fits m (start kWakelockTimeoutNs subHalList startTime resetTime).system.proxy := by
  unfold Buffered.start System.start HalProxy.construct
  obtain ⟨mSensors, index, h⟩ := ProxyRoute.initializeSensorList_fields _
  rw [h]
  exact ⟨Nat.zero_le m, fun _ _ hk => by cases hk⟩

/-- An FMQ of `capacity` events is handed over, and a sub-HAL fills it with one batch. -/
def fill (capacity : Nat) : List BufferedOp :=
  [.session (.initializeCommon { ProxyInit.calm 0 [] with eventQueueSize := capacity }) 0,
    .session (.step (.createScopedWakelock false 0)) 0,
    .session (.step (.postEventsToMessageQueue (List.replicate capacity (wakeUpEvent 0)) 0 0 0 capacity true)) 0]

theorem legal_fill {capacity : Nat} {capacities : Set Nat} (hc : capacity ∈ capacities) :
    Steps step (Legal capacities) (start kWakelockTimeoutNs subHalList startTime resetTime) (fill capacity) :=
  ⟨⟨Nat.zero_le _, hc⟩, ⟨trivial, trivial⟩, ⟨Nat.le_refl _, trivial⟩, trivial⟩

theorem mem_counts_fill {capacity : Nat} (hpos : 0 < capacity) :
    capacity ∈ (Run.run step (start kWakelockTimeoutNs subHalList startTime resetTime) (fill capacity)).counts := by
  refine List.mem_append_right _ ?_
  generalize hs : step (start kWakelockTimeoutNs subHalList startTime resetTime)
    (.session (.initializeCommon { ProxyInit.calm 0 [] with eventQueueSize := capacity }) 0) = s
  have hqueue : s.system.proxy.mPendingWriteEventsQueue = [] := by
    rw [← hs]
    rfl
  have hcounts : (step s (.session (.step (.createScopedWakelock false 0)) 0)).newCounts
      (.session (.step (.postEventsToMessageQueue (List.replicate capacity (wakeUpEvent 0)) 0 0 0 capacity true)) 0) =
      s.system.proxy.writeCounts (List.replicate capacity (wakeUpEvent 0)) capacity := by
    have hlocks : 0 < (step s (.session (.step (.createScopedWakelock false 0)) 0)).system.wakelocks.length := by
      show 0 < (s.system.wakelocks ++ [_]).length
      simp
    exact if_pos hlocks
  have hmin : min (List.replicate capacity (wakeUpEvent 0)).length capacity = capacity := by
    rw [List.length_replicate, Nat.min_self]
  refine hcounts ▸ ?_
  unfold HalProxy.writeCounts
  rw [hmin, hqueue, if_pos ⟨rfl, hpos⟩]
  exact List.mem_singleton_self capacity

/-- **The buffer lasts in every run exactly if the framework never hands over an FMQ of more events**, whatever its
fill level is and whatever the sub-HALs post. -/
theorem along_inRange_iff (maxReceiveBufferEventCount : Nat) (capacities : Set Nat) :
    (∀ ops, Steps step (Legal capacities) (start kWakelockTimeoutNs subHalList startTime resetTime) ops →
      Along step (InRange maxReceiveBufferEventCount) (start kWakelockTimeoutNs subHalList startTime resetTime) ops) ↔
      ∀ capacity ∈ capacities, capacity ≤ maxReceiveBufferEventCount := by
  constructor
  · intro hall capacity hc
    rcases Nat.eq_zero_or_pos capacity with rfl | hpos
    · exact Nat.zero_le _
    · have hlast := (hall _ (legal_fill kWakelockTimeoutNs subHalList startTime resetTime hc)).last
      exact hlast capacity (mem_counts_fill kWakelockTimeoutNs subHalList startTime resetTime hpos)
  · intro hm ops hlegal
    have hstart : InRange maxReceiveBufferEventCount (start kWakelockTimeoutNs subHalList startTime resetTime) :=
      fun _ hcount => absurd hcount List.not_mem_nil
    exact (Run.along_of_step (inRange_step hm) ⟨fits_start _ _ _ _ _, hstart⟩ hlegal).imp (fun _ h => h.2)

end Runs

/-- **Out of the buffer**: a buffer of 256 events and an FMQ of 512, which a sub-HAL fills with one batch. -/
theorem not_along_inRange_fill :
    Steps step (Legal {512}) (start 1000000000 [] 0 0) (fill 512) ∧
      ¬ Along step (InRange 256) (start 1000000000 [] 0 0) (fill 512) := by
  refine ⟨legal_fill _ _ _ _ rfl, fun h => ?_⟩
  exact absurd (h.last 512 (mem_counts_fill _ _ _ _ (by decide))) (by decide)

end ProxyBuffer
end MultiHal
end MemsHal
