import Mathlib.Algebra.Ring.Nat
import MemsHal.HalProxy
import MemsHal.LossyFifo
/-!
# ProxyFifo — event delivery of `HalProxy`

Seen from outside, the proxy is a `LossyFifo` channel: a direct write goes straight through an empty queue, what is left
of a batch is queued or refused, and a pass of `handlePendingWrites` resolves the first events of the front entry.
`channel_step` is the simulation; the ledger of the channel then tells what happened to every event.
-/
namespace MemsHal
namespace MultiHal
namespace ProxyFifo

open Run (Along Steps)
open LossyFifo (Fate Channel Command Ledger Explains chunksOf)
open HalProxy (kMaxSizePendingWriteEventsQueue)

/-! ## The channel of a proxy -/

/-- The system and the batches posted to it. -/
structure History where
  system : System
  posted : List (List Event)

def step (w : History) (op : ProxyOp) : History where
  system := w.system.step op
  posted := match op with
    | .postEventsToMessageQueue events _ i _ _ _ =>
      if i < w.system.wakelocks.length then w.posted ++ [events] else w.posted
    | _ => w.posted

/-- A proxy right after an initialization, in any other state. -/
def start (p : HalProxy) (wakelocks : List ScopedWakelock) : History where
  system :=
    { proxy :=
        { p with mPendingWriteEventsQueue := [], mSizePendingWriteEventsQueue := 0, mPendingWrites := .waiting }
      wakelocks := wakelocks
      calls := [] }
  posted := []

/-- What a call does to events: a write delivers them, a failed blocking write or a full queue loses them. -/
def fate? : ProxyCall → Option (Fate × List Event)
  | .write events true          => some (.delivered, events)
  | .writeBlocking events true  => some (.delivered, events)
  | .writeBlocking events false => some (.failed, events)
  | .dropped events             => some (.refused, events)
  | _                           => none

def fates (calls : List ProxyCall) : Ledger Event := calls.filterMap fate?

/-- The entries still to be written: between its write and its commit the writer is done with the first events of the
front entry. -/
def unwritten (p : HalProxy) : List (List Event) :=
  match p.mPendingWrites, p.mPendingWriteEventsQueue with
  | .written numToWrite, (events, _) :: rest => LossyFifo.leftover numToWrite events ++ rest.map Prod.fst
  | _, queue                                 => queue.map Prod.fst

def channel (w : History) : Channel Event where
  posted := w.posted.flatten
  delivered := (chunksOf .delivered (fates w.system.calls)).flatten
  failed := chunksOf .failed (fates w.system.calls)
  refused := chunksOf .refused (fates w.system.calls)
  queue := unwritten w.system.proxy

/-- The number of events in the pending queue. -/
def numPending (p : HalProxy) : Nat := (p.mPendingWriteEventsQueue.map (fun entry => entry.1.length)).sum

/-- **Delivery is FIFO and accounts for every event.**  A ledger tells the fate of the posted events in post order:
written to the FMQ in that order, lost in a failed blocking write, refused, or waiting; and the size counter is the
pending total. -/
structure Fifo (w : History) : Prop where
  ledger : ∃ l, Explains l (channel w)
  size : w.system.proxy.mSizePendingWriteEventsQueue = numPending w.system.proxy
  size_le : w.system.proxy.mSizePendingWriteEventsQueue ≤ kMaxSizePendingWriteEventsQueue

/-- **A step refuses the rest of a batch only where it would raise the pending total above the maximum**, and nothing
else. -/
def RefusesFull (w : History) (op : ProxyOp) : Prop :=
  (channel (step w op)).refused = (channel w).refused ∨
    ∃ events numWakeupEvents i now availableToWrite writeOk left,
      op = .postEventsToMessageQueue events numWakeupEvents i now availableToWrite writeOk ∧ left <:+ events ∧
      (channel (step w op)).refused = (channel w).refused ++ [left] ∧
      kMaxSizePendingWriteEventsQueue < w.system.proxy.mSizePendingWriteEventsQueue + left.length

/-- Where the writer stands fits the front entry. -/
def WriterFits (p : HalProxy) : Prop :=
  match p.mPendingWrites with
  | .waiting => True
  | .writing numWakeupEvents numToWrite => ∃ events rest,
      p.mPendingWriteEventsQueue = (events, numWakeupEvents) :: rest ∧ numToWrite = min events.length p.eventQueueSize
  | .written numToWrite => ∃ events numWakeupEvents rest,
      p.mPendingWriteEventsQueue = (events, numWakeupEvents) :: rest ∧ numToWrite = min events.length p.eventQueueSize

theorem WriterFits.front {p : HalProxy} (hw : WriterFits p) {numWakeupEvents numToWrite : Nat} {events : List Event}
    (h : p.Writing numWakeupEvents numToWrite events) :
    numToWrite = min events.length p.eventQueueSize ∧
      ∃ rest, p.mPendingWriteEventsQueue = (events, numWakeupEvents) :: rest := by
  obtain ⟨hphase, n, rest, hq⟩ := h
  unfold WriterFits at hw
  rw [hphase, hq] at hw
  obtain ⟨events', rest', heq, hk⟩ := hw
  cases heq
  exact ⟨hk, rest, hq⟩

/-! ## Steps that leave the events alone -/

/-- Two proxies with the same pending events and the same writer. -/
structure SameQueue (p p' : HalProxy) : Prop where
  queue : p'.mPendingWriteEventsQueue = p.mPendingWriteEventsQueue
  size : p'.mSizePendingWriteEventsQueue = p.mSizePendingWriteEventsQueue
  writes : p'.mPendingWrites = p.mPendingWrites
  eventQueueSize : p'.eventQueueSize = p.eventQueueSize

theorem SameQueue.refl (p : HalProxy) : SameQueue p p := ⟨rfl, rfl, rfl, rfl⟩

theorem SameQueue.trans {p p' p'' : HalProxy} (h : SameQueue p p') (h' : SameQueue p' p'') : SameQueue p p'' :=
  ⟨h'.queue.trans h.queue, h'.size.trans h.size, h'.writes.trans h.writes, h'.eventQueueSize.trans h.eventQueueSize⟩

theorem SameQueue.unwritten {p p' : HalProxy} (h : SameQueue p p') : unwritten p' = unwritten p := by
  unfold ProxyFifo.unwritten
  rw [h.queue, h.writes]

theorem SameQueue.writerFits {p p' : HalProxy} (h : SameQueue p p') (hw : WriterFits p) : WriterFits p' := by
  unfold WriterFits at hw ⊢
  rw [h.writes, h.queue, h.eventQueueSize]
  exact hw

theorem fates_append (a b : List ProxyCall) : fates (a ++ b) = fates a ++ fates b := List.filterMap_append ..

/-- A step that neither changes the pending events nor decides the fate of any. -/
structure Quiet (p : HalProxy) (r : HalProxy × List ProxyCall) : Prop where
  same : SameQueue p r.1
  fates : fates r.2 = []

theorem Quiet.refl (p : HalProxy) : Quiet p (p, []) := ⟨.refl p, rfl⟩

theorem quiet_decrement (p : HalProxy) (delta : Nat) (timeoutStart : Int) :
    Quiet p (p.decrementRefCountAndMaybeReleaseWakelock delta timeoutStart) := by
  rw [HalProxy.decrement_eq]
  refine ⟨⟨rfl, rfl, rfl, rfl⟩, ?_⟩
  dsimp only
  split <;> rfl

theorem quiet_increment (p : HalProxy) (delta : Nat) (now : Int) :
    Quiet p (p.incrementRefCountAndMaybeAcquireWakelock delta now).2 := by
  unfold HalProxy.incrementRefCountAndMaybeAcquireWakelock
  split
  · refine ⟨⟨rfl, rfl, rfl, rfl⟩, ?_⟩
    dsimp only
    split <;> rfl
  · exact .refl p

theorem quiet_count (p : HalProxy) (events : List Event) (n : Nat) :
    Quiet p ((p.countNumWakeupEvents events n).1, []) := by
  rw [HalProxy.countNumWakeupEvents_eq]
  exact ⟨⟨rfl, rfl, rfl, rfl⟩, rfl⟩

theorem Quiet.trans {p : HalProxy} {r r' : HalProxy × List ProxyCall} (h : Quiet p r) (h' : Quiet r.1 r') :
    Quiet p (r'.1, r.2 ++ r'.2) where
  same := h.same.trans h'.same
  fates := by rw [fates_append, h.fates, h'.fates]; rfl

/-- The functions about the wake lock are quiet. -/
theorem quiet_of_locking {p : HalProxy} {r : HalProxy × List ProxyCall}
    (h : HalProxy.Locking (fun _ => True) p r) : Quiet p r := by
  induction h with
  | increment p _ now => exact quiet_increment p _ now
  | decrement p delta timeoutStart => exact quiet_decrement p delta timeoutStart
  | setResetTime p now => exact ⟨⟨rfl, rfl, rfl, rfl⟩, rfl⟩
  | setReading p reading => exact ⟨⟨rfl, rfl, rfl, rfl⟩, rfl⟩
  | trans _ _ ih ih' => exact ih.trans ih'

/-! ## The simulation -/

/-- What a step is to the channel. -/
def commands (w : History) : ProxyOp → List (Command Event)
  | .postEventsToMessageQueue events _ i _ availableToWrite writeOk =>
    let p := w.system.proxy
    let n := p.numWritten events availableToWrite writeOk
    if i < w.system.wakelocks.length then
      (if p.mPendingWriteEventsQueue = [] then [.deliver (events.take n)] else []) ++
        (if events.drop n = [] then []
        else if p.mSizePendingWriteEventsQueue + (events.drop n).length ≤ kMaxSizePendingWriteEventsQueue then
          [.enqueue (events.drop n)]
        else [.refuse (events.drop n)])
    else []
  | .handlePendingWritesWrite success =>
    match w.system.proxy.mPendingWrites, w.system.proxy.mPendingWriteEventsQueue with
    | .writing _ numToWrite, _ :: _ => [.resolve numToWrite success]
    | _, _                          => []
  | _ => []

theorem channel_of_quiet (w : History) {r : HalProxy × List ProxyCall} (h : Quiet w.system.proxy r)
    (wakelocks : List ScopedWakelock) :
    channel ⟨⟨r.1, wakelocks, w.system.calls ++ r.2⟩, w.posted⟩ = channel w := by
  unfold channel
  rw [fates_append, h.fates, List.append_nil, h.same.unwritten]

theorem channel_take (w : History) : channel (step w .handlePendingWritesTake) = channel w := by
  have h : unwritten w.system.proxy.handlePendingWritesTake = unwritten w.system.proxy := by
    unfold HalProxy.handlePendingWritesTake
    split
    · rename_i hw hq
      split
      · unfold unwritten
        rw [hw, hq]
      · rfl
    · rfl
  exact congrArg (fun q => { channel w with queue := q }) h

theorem channel_commit (w : History) (hw : WriterFits w.system.proxy) :
    channel (step w .handlePendingWritesCommit) = channel w := by
  have h : unwritten w.system.proxy.handlePendingWritesCommit = unwritten w.system.proxy := by
    unfold HalProxy.handlePendingWritesCommit
    split
    · rename_i numToWrite events n rest hphase hq
      unfold WriterFits at hw
      rw [hphase, hq] at hw
      obtain ⟨events', n', rest', heq, hk⟩ := hw
      cases heq
      unfold unwritten LossyFifo.leftover
      rw [hphase, hq]
      dsimp only
      by_cases hlong : w.system.proxy.eventQueueSize < events.length
      · have hmin : numToWrite = w.system.proxy.eventQueueSize := by omega
        rw [if_pos hlong, hmin, if_pos hlong]
        rfl
      · rw [if_neg hlong, if_neg (by omega)]
        rfl
    · rfl
  exact congrArg (fun q => { channel w with queue := q }) h

theorem quiet_releaseDropped (p : HalProxy) (events : List Event) (n : Nat) : Quiet p (p.releaseDropped events n) := by
  unfold HalProxy.releaseDropped
  split
  · split
    · exact (quiet_count p events p.eventQueueSize).trans (quiet_decrement _ _ _)
    · exact quiet_decrement p n _
  · exact .refl p

/-- A blocking write of the front entry, whatever it does about the wake lock. -/
theorem write_spec (p : HalProxy) (success : Bool) {numWakeupEvents numToWrite : Nat} {events : List Event}
    (h : p.Writing numWakeupEvents numToWrite events) :
    ∃ r, Quiet { p with mPendingWrites := .written numToWrite } r ∧
      p.handlePendingWritesWrite success = (r.1, .writeBlocking (events.take numToWrite) success :: r.2) := by
  obtain ⟨r, hr, hwrite⟩ := HalProxy.write_eq h success
  refine ⟨r, ?_, hwrite⟩
  rw [hr]
  split
  · exact .refl _
  · exact quiet_releaseDropped _ events numWakeupEvents

theorem commands_write {w : History} {numWakeupEvents numToWrite : Nat} {events : List Event}
    (h : w.system.proxy.Writing numWakeupEvents numToWrite events) (success : Bool) :
    commands w (.handlePendingWritesWrite success) = [.resolve numToWrite success] := by
  obtain ⟨hphase, n, rest, hq⟩ := h
  simp only [commands, hphase, hq]

theorem commands_write_idle {w : History}
    (h : ∀ numWakeupEvents numToWrite events, ¬ w.system.proxy.Writing numWakeupEvents numToWrite events)
    (success : Bool) : commands w (.handlePendingWritesWrite success) = [] := by
  simp only [commands]
  split
  · rename_i hphase hq
    exact absurd ⟨hphase, _, _, hq⟩ (h _ _ _)
  · rfl

theorem channel_write (w : History) (success : Bool) :
    channel (step w (.handlePendingWritesWrite success)) =
      Run.run Channel.step (channel w) (commands w (.handlePendingWritesWrite success)) := by
  have hs : step w (.handlePendingWritesWrite success) =
      ⟨w.system.after (w.system.proxy.handlePendingWritesWrite success), w.posted⟩ := rfl
  rcases w.system.proxy.write_cases success with ⟨numWakeupEvents, numToWrite, events, hwriting⟩ | ⟨hidle, hwrite⟩
  · obtain ⟨r, hr, hwrite⟩ := write_spec w.system.proxy success hwriting
    rw [hs, hwrite, commands_write hwriting, Run.run_cons, Run.run_nil]
    obtain ⟨hphase, n, rest, hq⟩ := hwriting
    have hbefore : unwritten w.system.proxy = events :: rest.map Prod.fst := by
      unfold unwritten
      rw [hphase, hq]
      rfl
    have hafter : unwritten r.1 = LossyFifo.leftover numToWrite events ++ rest.map Prod.fst := by
      rw [hr.same.unwritten]
      unfold unwritten
      rw [hq]
    have hfates : fates (.writeBlocking (events.take numToWrite) success :: r.2) =
        [(if success then .delivered else .failed, events.take numToWrite)] := by
      rw [← List.singleton_append, fates_append, hr.fates]
      cases success <;> rfl
    unfold channel Channel.step System.after
    dsimp only
    rw [fates_append, hfates, hbefore, hafter]
    cases success <;> simp [LossyFifo.chunksOf_append, LossyFifo.chunksOf_cons]
  · rw [hs, hwrite, commands_write_idle hidle]
    exact channel_of_quiet w (.refl _) _

/-- The direct write delivers the first events of the batch, and only through an empty queue. -/
theorem directWrite_spec (p : HalProxy) (events : List Event) (availableToWrite : Nat) (writeOk : Bool) :
    fates (p.directWrite events availableToWrite writeOk) =
      (if p.numWritten events availableToWrite writeOk = 0 then []
      else [(.delivered, events.take (p.numWritten events availableToWrite writeOk))]) ∧
    (p.mPendingWriteEventsQueue ≠ [] → p.numWritten events availableToWrite writeOk = 0) := by
  unfold HalProxy.directWrite HalProxy.numWritten
  cases p.mPendingWriteEventsQueue with
  | cons e rest => simp [fates]
  | nil =>
    cases writeOk with
    | false =>
      refine ⟨?_, fun h => absurd rfl h⟩
      split <;> rfl
    | true =>
      refine ⟨?_, fun h => absurd rfl h⟩
      by_cases hmin : min events.length availableToWrite = 0
      · simp [hmin, fates]
      · simp [hmin, Nat.pos_of_ne_zero hmin, fates, fate?]

theorem unwritten_push (p : HalProxy) (hw : WriterFits p) (left : List Event) (n : Nat) :
    unwritten (p.pushPending left n).1 = unwritten p ++
      (if left = [] then []
      else if p.mSizePendingWriteEventsQueue + left.length ≤ kMaxSizePendingWriteEventsQueue then [left] else []) := by
  unfold HalProxy.pushPending
  split
  · exact (List.append_nil _).symm
  · split
    · -- the writer looks at the front entry, which stays where it is
      unfold WriterFits at hw
      unfold unwritten
      dsimp only
      cases hphase : p.mPendingWrites with
      | waiting => simp
      | writing numWakeupEvents numToWrite => simp
      | written numToWrite =>
        rw [hphase] at hw
        obtain ⟨events, m, rest, hq, -⟩ := hw
        rw [hq]
        simp
    · exact (List.append_nil _).symm

theorem fates_push (p : HalProxy) (left : List Event) (n : Nat) :
    fates (p.pushPending left n).2 =
      (if left = [] then []
      else if p.mSizePendingWriteEventsQueue + left.length ≤ kMaxSizePendingWriteEventsQueue then []
      else [(.refused, left)]) := by
  unfold HalProxy.pushPending
  split
  · rfl
  · split <;> rfl

/-- What a post leaves: the fates of its events, the queue, and the same wakelocks but one. -/
theorem post_spec {s : System} (hw : WriterFits s.proxy) {i : Nat} {wakelock : ScopedWakelock}
    (hwl : s.wakelocks[i]? = some wakelock) (events : List Event) (numWakeupEvents : Nat) (now : Int)
    (availableToWrite : Nat) (writeOk : Bool) {k : Nat}
    (hk : s.proxy.numWritten events availableToWrite writeOk = k) :
    fates (s.step (.postEventsToMessageQueue events numWakeupEvents i now availableToWrite writeOk)).calls =
      fates s.calls ++ ((if k = 0 then [] else [(.delivered, events.take k)]) ++
        (if events.drop k = [] then []
        else if s.proxy.mSizePendingWriteEventsQueue + (events.drop k).length ≤ kMaxSizePendingWriteEventsQueue then []
        else [(.refused, events.drop k)])) ∧
    unwritten (s.step (.postEventsToMessageQueue events numWakeupEvents i now availableToWrite writeOk)).proxy =
      unwritten s.proxy ++
        (if events.drop k = [] then []
        else if s.proxy.mSizePendingWriteEventsQueue + (events.drop k).length ≤ kMaxSizePendingWriteEventsQueue then
          [events.drop k]
        else []) := by
  have hacq := quiet_of_locking (HalProxy.locking_acquire s.proxy numWakeupEvents wakelock (fun _ => trivial) now)
  generalize hr : s.proxy.acquireForEvents numWakeupEvents wakelock now = r at hacq
  have hn : r.1.numWritten events availableToWrite writeOk = k := by
    unfold HalProxy.numWritten at hk ⊢
    rw [hacq.same.queue]
    exact hk
  have hdirect : r.1.directWrite events availableToWrite writeOk =
      s.proxy.directWrite events availableToWrite writeOk := by
    unfold HalProxy.directWrite
    rw [hacq.same.queue]
  have hfates := (directWrite_spec s.proxy events availableToWrite writeOk).1
  rw [hk] at hfates
  have hunwritten := unwritten_push r.1 (hacq.same.writerFits hw) (events.drop k) numWakeupEvents
  have hpush := fates_push r.1 (events.drop k) numWakeupEvents
  rw [hacq.same.size] at hunwritten hpush
  rw [hacq.same.unwritten] at hunwritten
  have hpost : s.proxy.postEventsToMessageQueue events numWakeupEvents wakelock now availableToWrite writeOk =
      ((r.1.pushPending (events.drop k) numWakeupEvents).1,
        r.2 ++ s.proxy.directWrite events availableToWrite writeOk ++
          (r.1.pushPending (events.drop k) numWakeupEvents).2) := by
    unfold HalProxy.postEventsToMessageQueue
    simp only [hr, hn, hdirect]
  have hdes := quiet_of_locking (HalProxy.locking_destroy (r.1.pushPending (events.drop k) numWakeupEvents).1 wakelock)
  rw [System.step_post hwl, hpost]
  unfold System.destroy System.after
  simp only [fates_append, hacq.fates, hdes.fates, hfates, hpush, hdes.same.unwritten, hunwritten, List.nil_append,
    List.append_nil, and_self]

theorem channel_post (w : History) (hw : WriterFits w.system.proxy) (events : List Event) (numWakeupEvents i : Nat)
    (now : Int) (availableToWrite : Nat) (writeOk : Bool) :
    channel (step w (.postEventsToMessageQueue events numWakeupEvents i now availableToWrite writeOk)) =
      Run.run Channel.step (channel w)
        (commands w (.postEventsToMessageQueue events numWakeupEvents i now availableToWrite writeOk)) := by
  cases hwl : w.system.wakelocks[i]? with
  | none =>
    have hi : ¬ i < w.system.wakelocks.length := by
      intro hi
      rw [List.getElem?_eq_getElem hi] at hwl
      cases hwl
    unfold step System.step commands
    simp only [hwl, if_neg hi, Run.run_nil]
  | some wakelock =>
    have hi : i < w.system.wakelocks.length := (List.getElem?_eq_some_iff.1 hwl).1
    have hqueue := (directWrite_spec w.system.proxy events availableToWrite writeOk).2
    generalize hk : w.system.proxy.numWritten events availableToWrite writeOk = k at hqueue
    obtain ⟨hfates, hunwritten⟩ := post_spec hw hwl events numWakeupEvents now availableToWrite writeOk hk
    unfold channel commands step
    simp only [if_pos hi, hk, hfates, hunwritten]
    clear hfates hunwritten
    have hsplit := List.take_append_drop k events
    have hzero : k = 0 → events.take k = [] := fun h => by rw [h]; rfl
    generalize events.take k = done at hsplit hzero
    generalize events.drop k = left at hsplit
    have hdone : (chunksOf .delivered (if k = 0 then [] else [(Fate.delivered, done)])).flatten = done ∧
        chunksOf .failed (if k = 0 then [] else [(Fate.delivered, done)]) = [] ∧
        chunksOf .refused (if k = 0 then [] else [(Fate.delivered, done)]) = [] := by
      by_cases hk0 : k = 0
      · simp [hk0, hzero hk0]
      · simp [hk0, LossyFifo.chunksOf_cons]
    simp only [LossyFifo.chunksOf_append, List.flatten_append, hdone.1, hdone.2.1, hdone.2.2,
      List.flatten_singleton, ← hsplit]
    generalize unwritten w.system.proxy = queue
    -- nothing is written directly past a queue, and what is left is queued or refused
    rw [Run.run_append, Channel.run_deliver (fun hq => hzero (hqueue hq))]
    by_cases hleft : left = []
    · simp [hleft]
    · by_cases hroom : w.system.proxy.mSizePendingWriteEventsQueue + left.length ≤ kMaxSizePendingWriteEventsQueue
      · simp [hleft, hroom, Channel.step]
      · simp [hleft, hroom, Channel.step, LossyFifo.chunksOf_cons]

/-- **A step of the proxy is a list of commands of the channel.** -/
theorem channel_step (w : History) (op : ProxyOp) (hw : WriterFits w.system.proxy) :
    channel (step w op) = Run.run Channel.step (channel w) (commands w op) := by
  cases op with
  | createScopedWakelock lock now =>
      exact channel_of_quiet w (quiet_of_locking (HalProxy.locking_create trivial _ lock now)) _
  | destroyScopedWakelock i =>
    cases hwl : w.system.wakelocks[i]? with
    | none =>
      have hs : step w (.destroyScopedWakelock i) = w :=
        congrArg (fun s => (⟨s, w.posted⟩ : History)) (System.step_destroy_none hwl)
      rw [hs]
      rfl
    | some wakelock =>
      have hs : step w (.destroyScopedWakelock i) = ⟨w.system.destroy i wakelock, w.posted⟩ :=
        congrArg (fun s => (⟨s, w.posted⟩ : History)) (System.step_destroy hwl)
      rw [hs]
      exact channel_of_quiet w (quiet_of_locking (HalProxy.locking_destroy _ wakelock)) _
  | postEventsToMessageQueue events n i now availableToWrite writeOk =>
    exact channel_post w hw events n i now availableToWrite writeOk
  | handlePendingWritesTake => exact channel_take w
  | handlePendingWritesWrite success => exact channel_write w success
  | handlePendingWritesCommit => exact channel_commit w hw
  | handleWakelocksCheck now nowReset =>
      exact channel_of_quiet w (quiet_of_locking (HalProxy.locking_check _ now nowReset)) _
  | handleWakelocksRead n => exact channel_of_quiet w (quiet_of_locking (HalProxy.locking_read _ n)) _

/-- The proxy never writes directly past events that wait. -/
theorem commands_legal (w : History) (op : ProxyOp) :
    Steps Channel.step Channel.Legal (channel w) (commands w op) := by
  cases op with
  | postEventsToMessageQueue events n i now availableToWrite writeOk =>
    have hleft : ∀ (c : Channel Event) (left : List Event) (room : Prop) [Decidable room],
        Steps Channel.step Channel.Legal c
          (if left = [] then [] else if room then [Command.enqueue left] else [Command.refuse left]) := by
      intro c left room _
      split
      · trivial
      · split
        · exact ⟨trivial, trivial⟩
        · exact ⟨trivial, trivial⟩
    unfold commands
    dsimp only
    split
    · split
      · rename_i hq
        have hempty : (channel w).queue = [] := by
          unfold channel unwritten
          rw [hq]
          cases w.system.proxy.mPendingWrites <;> rfl
        exact ⟨hempty, hleft _ _ _⟩
      · exact hleft _ _ _
    · trivial
  | handlePendingWritesWrite success =>
    unfold commands
    dsimp only
    split
    · exact ⟨trivial, trivial⟩
    · trivial
  | _ => trivial

/-! ## The counters and the writer -/

theorem SameQueue.numPending {p p' : HalProxy} (h : SameQueue p p') : numPending p' = numPending p := by
  unfold ProxyFifo.numPending
  rw [h.queue]

/-- What holds beside the ledger: the counter, and where the writer stands. -/
structure Counted (p : HalProxy) : Prop where
  size : p.mSizePendingWriteEventsQueue = numPending p
  size_le : p.mSizePendingWriteEventsQueue ≤ kMaxSizePendingWriteEventsQueue
  writer : WriterFits p

theorem SameQueue.counted {p p' : HalProxy} (h : SameQueue p p') (hc : Counted p) : Counted p' where
  size := by rw [h.size, h.numPending]; exact hc.size
  size_le := by rw [h.size]; exact hc.size_le
  writer := h.writerFits hc.writer

theorem counted_take (p : HalProxy) (h : Counted p) : Counted p.handlePendingWritesTake := by
  unfold HalProxy.handlePendingWritesTake
  split
  · rename_i events n rest hphase hq
    split
    · exact ⟨h.size, h.size_le, ⟨events, rest, hq, rfl⟩⟩
    · exact h
  · exact h

theorem counted_write (p : HalProxy) (success : Bool) (h : Counted p) :
    Counted (p.handlePendingWritesWrite success).1 := by
  rcases p.write_cases success with ⟨n, k, events, hwriting⟩ | ⟨-, hwrite⟩
  · obtain ⟨r, hr, hwrite⟩ := write_spec p success hwriting
    obtain ⟨hk, rest, hq⟩ := h.writer.front hwriting
    rw [hwrite]
    exact hr.same.counted ⟨h.size, h.size_le, ⟨events, n, rest, hq, hk⟩⟩
  · rw [hwrite]
    exact h

theorem counted_commit (p : HalProxy) (h : Counted p) : Counted p.handlePendingWritesCommit := by
  unfold HalProxy.handlePendingWritesCommit
  split
  · rename_i numToWrite events n rest hphase hq
    have hw := h.writer
    unfold WriterFits at hw
    rw [hphase, hq] at hw
    obtain ⟨events', n', rest', heq, hk⟩ := hw
    cases heq
    have hsize := h.size
    have hle := h.size_le
    unfold numPending at hsize
    simp only [hq, List.map_cons, List.sum_cons] at hsize
    refine ⟨?_, ?_, trivial⟩
    · unfold numPending
      dsimp only
      split
      · simp only [List.map_cons, List.sum_cons, List.length_drop]
        omega
      · omega
    · dsimp only
      omega
  · exact h

theorem counted_push (p : HalProxy) (left : List Event) (n : Nat) (h : Counted p) :
    Counted (p.pushPending left n).1 := by
  unfold HalProxy.pushPending
  split
  · exact h
  · split
    · rename_i hroom
      refine ⟨?_, hroom, ?_⟩
      · have hsize := h.size
        unfold numPending at hsize ⊢
        simp only [List.map_append, List.map_cons, List.map_nil, List.sum_append, List.sum_cons, List.sum_nil]
        omega
      · have hw := h.writer
        unfold WriterFits at hw ⊢
        dsimp only
        cases hphase : p.mPendingWrites with
        | waiting => trivial
        | writing m k =>
          rw [hphase] at hw
          obtain ⟨events, rest, hq, hk⟩ := hw
          exact ⟨events, rest ++ [(left, n)], by rw [hq]; rfl, hk⟩
        | written k =>
          rw [hphase] at hw
          obtain ⟨events, m, rest, hq, hk⟩ := hw
          exact ⟨events, m, rest ++ [(left, n)], by rw [hq]; rfl, hk⟩
    · exact h

theorem counted_post (p : HalProxy) (events : List Event) (n : Nat) (wakelock : ScopedWakelock) (now : Int)
    (availableToWrite : Nat) (writeOk : Bool) (h : Counted p) :
    Counted (p.postEventsToMessageQueue events n wakelock now availableToWrite writeOk).1 :=
  counted_push _ _ n ((quiet_of_locking (HalProxy.locking_acquire p n wakelock (fun _ => trivial) now)).same.counted h)

theorem counted_step (s : System) (op : ProxyOp) (h : Counted s.proxy) : Counted (s.step op).proxy := by
  cases op with
  | createScopedWakelock lock now =>
      exact (quiet_of_locking (HalProxy.locking_create trivial _ lock now)).same.counted h
  | destroyScopedWakelock i =>
    cases hwl : s.wakelocks[i]? with
    | none => rw [System.step_destroy_none hwl]; exact h
    | some wakelock =>
      rw [System.step_destroy hwl]
      exact (quiet_of_locking (HalProxy.locking_destroy _ wakelock)).same.counted h
  | postEventsToMessageQueue events n i now availableToWrite writeOk =>
    cases hwl : s.wakelocks[i]? with
    | none => rw [System.step_post_none hwl]; exact h
    | some wakelock =>
      rw [System.step_post hwl]
      exact (quiet_of_locking (HalProxy.locking_destroy _ wakelock)).same.counted
        (counted_post _ events n wakelock now availableToWrite writeOk h)
  | handlePendingWritesTake => exact counted_take _ h
  | handlePendingWritesWrite success => exact counted_write _ success h
  | handlePendingWritesCommit => exact counted_commit _ h
  | handleWakelocksCheck now nowReset => exact (quiet_of_locking (HalProxy.locking_check _ now nowReset)).same.counted h
  | handleWakelocksRead n => exact (quiet_of_locking (HalProxy.locking_read _ n)).same.counted h

/-! ## What is left behind -/

theorem refused_resolve (c : Channel Event) (n : Nat) (delivered : Bool) :
    (c.step (.resolve n delivered)).refused = c.refused := by
  unfold Channel.step
  cases c.queue with
  | nil => rfl
  | cons chunk rest => cases delivered <;> rfl

theorem refusesFull_step (w : History) (op : ProxyOp) (hw : WriterFits w.system.proxy) : RefusesFull w op := by
  unfold RefusesFull
  rw [channel_step w op hw]
  cases op with
  | postEventsToMessageQueue events numWakeupEvents i now availableToWrite writeOk =>
    unfold commands
    dsimp only
    by_cases hi : i < w.system.wakelocks.length
    · have hdeliver : ∀ (p : Prop) [Decidable p] (chunk : List Event),
          (Run.run Channel.step (channel w) (if p then [.deliver chunk] else [])).refused = (channel w).refused := by
        intro p _ chunk
        split <;> rfl
      rw [if_pos hi, Run.run_append]
      by_cases hleft : events.drop (w.system.proxy.numWritten events availableToWrite writeOk) = []
      · rw [if_pos hleft]
        exact Or.inl (hdeliver _ _)
      · rw [if_neg hleft]
        by_cases hroom : w.system.proxy.mSizePendingWriteEventsQueue +
            (events.drop (w.system.proxy.numWritten events availableToWrite writeOk)).length ≤
              kMaxSizePendingWriteEventsQueue
        · rw [if_pos hroom]
          exact Or.inl (hdeliver _ _)
        · rw [if_neg hroom]
          exact Or.inr ⟨events, numWakeupEvents, i, now, availableToWrite, writeOk, _, rfl, List.drop_suffix _ _,
            congrArg (· ++ [_]) (hdeliver _ _), Nat.lt_of_not_le hroom⟩
    · rw [if_neg hi]
      exact Or.inl rfl
  | handlePendingWritesWrite success =>
    refine Or.inl ?_
    unfold commands
    dsimp only
    split
    · exact refused_resolve _ _ _
    · rfl
  | _ => exact Or.inl rfl

/-! ## Runs -/

/-- What every step preserves: delivery is FIFO, and the writer stands where it should. -/
def Inv (w : History) : Prop := Fifo w ∧ WriterFits w.system.proxy

theorem inv_start (p : HalProxy) (wakelocks : List ScopedWakelock) : Inv (start p wakelocks) :=
  ⟨⟨⟨[], LossyFifo.explains_nil⟩, rfl, Nat.zero_le _⟩, trivial⟩

theorem inv_step (w : History) (op : ProxyOp) (h : Inv w) : Inv (step w op) := by
  obtain ⟨⟨⟨l, hl⟩, hsize, hle⟩, hw⟩ := h
  have hc := counted_step w.system op ⟨hsize, hle, hw⟩
  refine ⟨⟨?_, hc.size, hc.size_le⟩, hc.writer⟩
  rw [channel_step w op hw]
  exact LossyFifo.explains_run hl (commands_legal w op)

/-- **Delivery is FIFO along every run** from an initialization, and every refusal is one of a full queue. -/
theorem along_fifo (p : HalProxy) (wakelocks : List ScopedWakelock) (ops : List ProxyOp) :
    Along step Fifo (start p wakelocks) ops ∧ Steps step RefusesFull (start p wakelocks) ops :=
  ⟨(Run.along_of_inv inv_step ops (inv_start p wakelocks)).imp (fun _ h => h.1),
    Run.steps_of_step (L := fun _ _ => True) (fun w op h _ => inv_step w op h)
      (fun w op h _ => refusesFull_step w op h.2) (inv_start p wakelocks) (Run.steps_true ops _)⟩

end ProxyFifo
end MultiHal
end MemsHal
