import MemsHal.ProxyFifo
import MemsHal.ProxyWakelock
/-!
# ProxyRefs — conservation of the wake-lock references

Every live locked wakelock and every wake-up event on its way to the framework stands for one reference.  A pending
entry keeps the wake-up count of its whole batch, whatever part of the batch was written, and an event that is refused
keeps its reference; so references are conserved exactly as long as every step is a `KeepsCount` step.
-/
namespace MemsHal
namespace MultiHal
namespace ProxyRefs

open Run (Along Steps)
open LossyFifo (Channel Command)
open HalProxy (isWakeUp kMaxSizePendingWriteEventsQueue SameSession)
open ProxyFifo (History channel unwritten commands)

/-- The proxy, what was posted to it, and how many wake-up events the framework has acknowledged. -/
structure Account where
  history : History
  acknowledged : Nat

namespace Account

def proxy (w : Account) : HalProxy := w.history.system.proxy

def wakelocks (w : Account) : List ScopedWakelock := w.history.system.wakelocks

/-- The wake-up events of a list. -/
def wakeUps (w : Account) (events : List Event) : Nat := events.countP (isWakeUp w.proxy.mSensors)

/-- The wake-up events written to the Event FMQ. -/
def delivered (w : Account) : Nat := w.wakeUps (channel w.history).delivered

/-- The wake-up events in the pending queue, without those the writer is done with. -/
def pending (w : Account) : Nat := w.wakeUps (channel w.history).queue.flatten

/-- A proxy right after an initialization that found no references. -/
def start (p : HalProxy) : Account where
  history := ProxyFifo.start { p with mThreadsRun := true, mWakelockRefCount := 0 } []
  acknowledged := 0

def step (w : Account) (op : ProxyOp) : Account where
  history := ProxyFifo.step w.history op
  acknowledged := match op with
    | .handleWakelocksRead (some n) => if w.proxy.mReadingWakelocks then w.acknowledged + n.toNat else w.acknowledged
    | _                             => w.acknowledged

end Account

open Account

/-- **References are conserved**: the count is the live locked wakelocks, the delivered wake-up events not yet
acknowledged and the pending ones. -/
def Conserved (w : Account) : Prop :=
  w.proxy.mWakelockRefCount = numLocked w.wakelocks + (w.delivered - w.acknowledged) + w.pending

/-- What the proxy is promised: a batch comes with its number of wake-up events and with a wakelock that is locked if
there are any, no timeout expires, and only delivered events are acknowledged. -/
def Legal (w : Account) : ProxyOp → Prop
  | .postEventsToMessageQueue events numWakeupEvents i _ _ _ =>
    numWakeupEvents = w.wakeUps events ∧
      ∀ wakelock, w.wakelocks[i]? = some wakelock → (wakelock.mLocked = true ↔ 0 < numWakeupEvents)
  | .handleWakelocksCheck now _ => ¬ w.proxy.TimesOut now
  | .handleWakelocksRead (some n) => w.proxy.mReadingWakelocks = true → w.acknowledged + n.toNat ≤ w.delivered
  | _ => True

/-- The operation adds and takes as many references as it should.
* A locked wakelock that ends was created no earlier than the last reset.
* A post refuses no wake-up event.
* A failed blocking write of a last chunk finds its entry recording the wake-up events of that chunk, or no more
  references than those. -/
def KeepsCount (w : Account) : ProxyOp → Prop
  | .destroyScopedWakelock i =>
    ∀ wakelock, w.wakelocks[i]? = some wakelock → wakelock.mLocked = true → ¬ w.proxy.Stale wakelock.mCreatedAtTimeNs
  | .postEventsToMessageQueue events _ i _ availableToWrite writeOk =>
    ∀ wakelock, w.wakelocks[i]? = some wakelock →
      (wakelock.mLocked = true → ¬ w.proxy.Stale wakelock.mCreatedAtTimeNs) ∧
      (kMaxSizePendingWriteEventsQueue < w.proxy.mSizePendingWriteEventsQueue +
          (events.drop (w.proxy.numWritten events availableToWrite writeOk)).length →
        w.wakeUps (events.drop (w.proxy.numWritten events availableToWrite writeOk)) = 0)
  | .handlePendingWritesWrite false =>
    ∀ numWakeupEvents numToWrite events n rest, w.proxy.mPendingWrites = .writing numWakeupEvents numToWrite →
      w.proxy.mPendingWriteEventsQueue = (events, n) :: rest → events.length ≤ w.proxy.eventQueueSize →
      min w.proxy.mWakelockRefCount numWakeupEvents = w.wakeUps events
  | _ => True

/-- What legal steps preserve: a pending entry records no fewer wake-up events than it holds, and no more events are
acknowledged than were delivered. -/
structure Inv (w : Account) : Prop where
  run : w.proxy.mThreadsRun = true
  counted : ProxyFifo.Counted w.proxy
  entries : ∀ entry ∈ w.proxy.mPendingWriteEventsQueue, w.wakeUps entry.1 ≤ entry.2
  acknowledged : w.acknowledged ≤ w.delivered
  held : HoldsLock w.history.system

/-! ## What a step does to the account -/

theorem channel_step (w : Account) (op : ProxyOp) (h : Inv w) :
    channel (w.step op).history = Run.run Channel.step (channel w.history) (commands w.history op) :=
  ProxyFifo.channel_step w.history op h.counted.writer

/-- A step that is no command of the channel neither delivers nor loses anything. -/
theorem counts_of_quiet (w : Account) (op : ProxyOp) (h : Inv w) (hcmd : commands w.history op = [])
    (hsame : SameSession w.proxy (w.step op).proxy) :
    (w.step op).delivered = w.delivered ∧ (w.step op).pending = w.pending := by
  have hch := channel_step w op h
  rw [hcmd, Run.run_nil] at hch
  unfold delivered pending wakeUps
  rw [hch, hsame.wakeUp]
  exact ⟨rfl, rfl⟩

theorem conserved_create_iff (w : Account) (lock : Bool) (now : Int) (h : Inv w) (hc : Conserved w) :
    Conserved (w.step (.createScopedWakelock lock now)) ↔ KeepsCount w (.createScopedWakelock lock now) := by
  obtain ⟨hlock, hcount, hsame⟩ := HalProxy.create_spec h.run lock now
  obtain ⟨hd, hp⟩ := counts_of_quiet w (.createScopedWakelock lock now) h rfl hsame
  have hnum : numLocked (w.step (.createScopedWakelock lock now)).wakelocks =
      numLocked w.wakelocks + (if lock then 1 else 0) := by
    show numLocked (w.wakelocks ++ [(w.proxy.createScopedWakelock lock now).1]) = _
    unfold numLocked
    rw [List.countP_append, List.countP_singleton, hlock]
  have hack : (w.step (.createScopedWakelock lock now)).acknowledged = w.acknowledged := rfl
  have hrc : (w.step (.createScopedWakelock lock now)).proxy.mWakelockRefCount =
      w.proxy.mWakelockRefCount + (if lock then 1 else 0) := hcount
  refine iff_of_true ?_ trivial
  unfold Conserved at hc ⊢
  rw [hrc, hnum, hd, hp, hack]
  omega

theorem conserved_destroy_iff (w : Account) (i : Nat) (h : Inv w) (hc : Conserved w) :
    Conserved (w.step (.destroyScopedWakelock i)) ↔ KeepsCount w (.destroyScopedWakelock i) := by
  cases hwl : w.wakelocks[i]? with
  | none =>
    have hs : w.step (.destroyScopedWakelock i) = w :=
      congrArg (fun s => (⟨⟨s, w.history.posted⟩, w.acknowledged⟩ : Account)) (System.step_destroy_none hwl)
    rw [hs]
    exact iff_of_true hc (fun _ he => by rw [hwl] at he; cases he)
  | some wakelock =>
    have hkeep : KeepsCount w (.destroyScopedWakelock i) ↔
        (wakelock.mLocked = true → ¬ w.proxy.Stale wakelock.mCreatedAtTimeNs) :=
      ⟨fun hk => hk wakelock hwl, fun hk _ he => by rw [hwl] at he; cases he; exact hk⟩
    have hsys : (w.step (.destroyScopedWakelock i)).history.system = w.history.system.destroy i wakelock :=
      System.step_destroy hwl
    have hproxy : (w.step (.destroyScopedWakelock i)).proxy = (w.proxy.destroyScopedWakelock wakelock).1 :=
      congrArg System.proxy hsys
    have hlocks : (w.step (.destroyScopedWakelock i)).wakelocks = w.wakelocks.eraseIdx i :=
      congrArg System.wakelocks hsys
    have hack : (w.step (.destroyScopedWakelock i)).acknowledged = w.acknowledged := rfl
    have hsame : SameSession w.proxy (w.step (.destroyScopedWakelock i)).proxy := by
      rw [hproxy]
      exact HalProxy.destroy_sameSession w.proxy wakelock
    obtain ⟨hd, hp⟩ := counts_of_quiet w _ h rfl hsame
    have hnum := countP_eraseIdx ScopedWakelock.mLocked hwl
    have hrc := HalProxy.destroy_refCount h.run wakelock
    unfold Conserved numLocked at hc ⊢
    rw [hkeep, hproxy, hlocks, hrc, hd, hp, hack]
    by_cases hl : wakelock.mLocked = true
    · rw [if_pos hl] at hnum
      by_cases hst : w.proxy.Stale wakelock.mCreatedAtTimeNs
      · rw [if_neg (fun hn => hn.2 hst)]
        exact iff_of_false (by omega) (fun hk => hk hl hst)
      · rw [if_pos ⟨hl, hst⟩]
        exact iff_of_true (by omega) (fun _ => hst)
    · rw [if_neg hl] at hnum
      rw [if_neg (fun hn => hl hn.1)]
      exact iff_of_true (by omega) (fun hn => absurd hn hl)

theorem conserved_read_iff (w : Account) (n : Option UInt32) (h : Inv w) (hl : Legal w (.handleWakelocksRead n))
    (hc : Conserved w) :
    Conserved (w.step (.handleWakelocksRead n)) ↔ KeepsCount w (.handleWakelocksRead n) := by
  obtain ⟨hcount, hsame⟩ := HalProxy.read_spec h.run n
  obtain ⟨hd, hp⟩ := counts_of_quiet w (.handleWakelocksRead n) h rfl hsame
  have hrc : (w.step (.handleWakelocksRead n)).proxy.mWakelockRefCount =
      w.proxy.mWakelockRefCount - (if w.proxy.mReadingWakelocks then (n.getD 0).toNat else 0) := hcount
  have hlocks : (w.step (.handleWakelocksRead n)).wakelocks = w.wakelocks := rfl
  have hack : (w.step (.handleWakelocksRead n)).acknowledged =
      w.acknowledged + (if w.proxy.mReadingWakelocks then (n.getD 0).toNat else 0) := by
    cases n with
    | none => show w.acknowledged = _; split <;> rfl
    | some n =>
      show (if w.proxy.mReadingWakelocks then w.acknowledged + n.toNat else w.acknowledged) = _
      split <;> rfl
  have hle : w.acknowledged + (if w.proxy.mReadingWakelocks then (n.getD 0).toNat else 0) ≤ w.delivered := by
    have := h.acknowledged
    cases n with
    | none => split <;> exact this
    | some n =>
      split
      · rename_i hr
        exact hl hr
      · exact this
  refine iff_of_true ?_ trivial
  unfold Conserved at hc ⊢
  rw [hrc, hlocks, hd, hp, hack]
  omega

/-- A step that is no command of the channel and leaves the count and the wakelocks alone. -/
theorem conserved_of_quiet (w : Account) (op : ProxyOp) (h : Inv w) (hc : Conserved w)
    (hcmd : commands w.history op = []) (hsame : SameSession w.proxy (w.step op).proxy)
    (hcount : (w.step op).proxy.mWakelockRefCount = w.proxy.mWakelockRefCount)
    (hlocks : (w.step op).wakelocks = w.wakelocks) (hack : (w.step op).acknowledged = w.acknowledged) :
    Conserved (w.step op) := by
  obtain ⟨hd, hp⟩ := counts_of_quiet w op h hcmd hsame
  unfold Conserved at hc ⊢
  rw [hcount, hlocks, hack, hd, hp]
  exact hc

theorem conserved_write_idle (w : Account) (success : Bool) (hc : Conserved w)
    (hidle : ∀ numWakeupEvents numToWrite events, ¬ w.proxy.Writing numWakeupEvents numToWrite events)
    (hwrite : w.proxy.handlePendingWritesWrite success = (w.proxy, [])) :
    Conserved (w.step (.handlePendingWritesWrite success)) ↔ KeepsCount w (.handlePendingWritesWrite success) := by
  have hsys : (w.step (.handlePendingWritesWrite success)).history.system = w.history.system := by
    show w.history.system.after (w.proxy.handlePendingWritesWrite success) = w.history.system
    rw [hwrite]
    exact System.after_nil _
  have hs : w.step (.handlePendingWritesWrite success) = w :=
    congrArg (fun s => (⟨⟨s, w.history.posted⟩, w.acknowledged⟩ : Account)) hsys
  rw [hs]
  refine iff_of_true hc ?_
  cases success with
  | true => trivial
  | false => exact fun n k events m rest hphase hq => absurd ⟨hphase, m, rest, hq⟩ (hidle n k events)

/-- A blocking write takes a chunk out of the queue and delivers it if it succeeds. -/
theorem counts_of_write (w : Account) (success : Bool) (h : Inv w) {numWakeupEvents numToWrite : Nat}
    {events : List Event} (hwriting : w.proxy.Writing numWakeupEvents numToWrite events)
    (hsame : SameSession w.proxy (w.step (.handlePendingWritesWrite success)).proxy) :
    (w.step (.handlePendingWritesWrite success)).delivered =
      w.delivered + (if success then w.wakeUps (events.take numToWrite) else 0) ∧
    (w.step (.handlePendingWritesWrite success)).pending + w.wakeUps (events.take numToWrite) = w.pending := by
  have hcmd : commands w.history (.handlePendingWritesWrite success) = [.resolve numToWrite success] :=
    ProxyFifo.commands_write hwriting success
  obtain ⟨hphase, n, rest, hq⟩ := hwriting
  have hqueue : (channel w.history).queue = events :: rest.map Prod.fst := by
    show unwritten w.proxy = _
    unfold unwritten
    rw [hphase, hq]
    rfl
  have hch := channel_step w (.handlePendingWritesWrite success) h
  rw [hcmd, Run.run_cons, Run.run_nil] at hch
  unfold delivered pending wakeUps
  rw [hch, hsame.wakeUp]
  exact Channel.countP_resolve (isWakeUp w.proxy.mSensors) hqueue numToWrite success

theorem keepsCount_write_iff {w : Account} {numWakeupEvents numToWrite : Nat} {events : List Event}
    (hwriting : w.proxy.Writing numWakeupEvents numToWrite events) :
    KeepsCount w (.handlePendingWritesWrite false) ↔
      (events.length ≤ w.proxy.eventQueueSize → min w.proxy.mWakelockRefCount numWakeupEvents = w.wakeUps events) := by
  obtain ⟨hphase, n, rest, hq⟩ := hwriting
  constructor
  · intro hkeep
    exact hkeep numWakeupEvents numToWrite events n rest hphase hq
  · intro hkeep n' k' events' m' rest' hphase' hq'
    rw [hphase] at hphase'
    rw [hq] at hq'
    cases hphase'
    cases hq'
    exact hkeep

/-- **A blocking write of the front entry.** -/
theorem conserved_write_iff (w : Account) (success : Bool) (h : Inv w) (hc : Conserved w)
    {numWakeupEvents numToWrite : Nat} {events : List Event}
    (hwriting : w.proxy.Writing numWakeupEvents numToWrite events) :
    Conserved (w.step (.handlePendingWritesWrite success)) ↔ KeepsCount w (.handlePendingWritesWrite success) := by
  obtain ⟨hrc, hsame⟩ := HalProxy.write_spec h.run hwriting success
  obtain ⟨hd, hp⟩ := counts_of_write w success h hwriting hsame
  obtain ⟨hk, rest, hq⟩ := h.counted.writer.front hwriting
  have hrc : (w.step (.handlePendingWritesWrite success)).proxy.mWakelockRefCount =
      w.proxy.mWakelockRefCount - (if success then 0 else w.proxy.numDropped events numWakeupEvents) := hrc
  have hlocks : (w.step (.handlePendingWritesWrite success)).wakelocks = w.wakelocks := rfl
  have hack : (w.step (.handlePendingWritesWrite success)).acknowledged = w.acknowledged := rfl
  have hle := h.acknowledged
  unfold Conserved at hc ⊢
  rw [hrc, hlocks, hack, hd]
  cases success with
  | true =>
    refine iff_of_true ?_ trivial
    rw [if_pos rfl, if_pos rfl]
    omega
  | false =>
    have hentry : w.wakeUps events ≤ numWakeupEvents := h.entries (events, numWakeupEvents) (by rw [hq]; simp)
    rw [keepsCount_write_iff hwriting, if_neg Bool.false_ne_true, if_neg Bool.false_ne_true]
    by_cases hlong : w.proxy.eventQueueSize < events.length
    · have htake : numToWrite = w.proxy.eventQueueSize := by omega
      have hcount : w.wakeUps (events.take numToWrite) ≤ w.wakeUps events :=
        (List.take_sublist numToWrite events).countP_le
      have hdropped : w.proxy.numDropped events numWakeupEvents = w.wakeUps (events.take numToWrite) := by
        rw [htake]
        exact HalProxy.numDropped_of_lt hlong hentry
      rw [hdropped]
      exact iff_of_true (by omega) (fun hle => absurd hlong (Nat.not_lt.2 hle))
    · have hshort := Nat.not_lt.1 hlong
      rw [List.take_of_length_le (by omega)] at hp
      rw [HalProxy.numDropped_of_le hshort]
      constructor
      · intro hstep _
        omega
      · intro hmin
        have := hmin hshort
        omega

/-- A post delivers the events it writes and queues the others where there is room for them. -/
theorem run_commands_post (c : Channel Event) (q : Event → Bool) {done : List Event} (left : List Event)
    {empty : Prop} (room : Prop) [Decidable empty] [Decidable room] (hdone : ¬ empty → done = []) :
    (Run.run Channel.step c ((if empty then [Command.deliver done] else []) ++
      (if left = [] then [] else if room then [.enqueue left] else [.refuse left]))).delivered.countP q =
        c.delivered.countP q + done.countP q ∧
    (Run.run Channel.step c ((if empty then [Command.deliver done] else []) ++
      (if left = [] then [] else if room then [.enqueue left] else [.refuse left]))).queue.flatten.countP q =
        c.queue.flatten.countP q + (if room then left.countP q else 0) := by
  rw [Run.run_append, Channel.run_deliver hdone]
  by_cases hleft : left = []
  · simp [hleft]
  · by_cases hroom : room
    · rw [if_neg hleft, if_pos hroom, if_pos hroom]
      refine ⟨List.countP_append, ?_⟩
      show List.countP q (c.queue ++ [left]).flatten = _
      rw [List.flatten_append, List.countP_append, List.flatten_singleton]
    · rw [if_neg hleft, if_neg hroom, if_neg hroom]
      exact ⟨List.countP_append, rfl⟩

/-- Of a posted batch the first events are delivered, and the others wait where there is room for them. -/
theorem counts_of_post (w : Account) (events : List Event) (numWakeupEvents i : Nat) (now : Int)
    (availableToWrite : Nat) (writeOk : Bool) (h : Inv w) (hi : i < w.wakelocks.length) {k : Nat}
    (hk : w.proxy.numWritten events availableToWrite writeOk = k) {w' : Account}
    (hw' : w' = w.step (.postEventsToMessageQueue events numWakeupEvents i now availableToWrite writeOk))
    (hsame : SameSession w.proxy w'.proxy) :
    w'.delivered = w.delivered + w.wakeUps (events.take k) ∧
    w'.pending = w.pending +
      (if w.proxy.mSizePendingWriteEventsQueue + (events.drop k).length ≤ kMaxSizePendingWriteEventsQueue then
        w.wakeUps (events.drop k) else 0) := by
  have hcmd : commands w.history (.postEventsToMessageQueue events numWakeupEvents i now availableToWrite writeOk) =
      (if w.proxy.mPendingWriteEventsQueue = [] then [Command.deliver (events.take k)] else []) ++
        (if events.drop k = [] then []
        else if w.proxy.mSizePendingWriteEventsQueue + (events.drop k).length ≤ kMaxSizePendingWriteEventsQueue then
          [.enqueue (events.drop k)]
        else [.refuse (events.drop k)]) := by
    subst hk
    exact if_pos hi
  have hch := channel_step w (.postEventsToMessageQueue events numWakeupEvents i now availableToWrite writeOk) h
  have hdone : ¬ w.proxy.mPendingWriteEventsQueue = [] → events.take k = [] := by
    intro hne
    have hzero := (ProxyFifo.directWrite_spec w.proxy events availableToWrite writeOk).2 hne
    rw [hk] at hzero
    rw [hzero]
    rfl
  obtain ⟨hd, hp⟩ := run_commands_post (channel w.history) (isWakeUp w.proxy.mSensors) (events.drop k)
    (w.proxy.mSizePendingWriteEventsQueue + (events.drop k).length ≤ kMaxSizePendingWriteEventsQueue) hdone
  rw [← hcmd, ← hch, ← hw'] at hd hp
  unfold delivered pending wakeUps
  rw [hsame.wakeUp]
  exact ⟨hd, hp⟩

theorem step_post_none {w : Account} {i : Nat} (hwl : w.wakelocks[i]? = none) (events : List Event)
    (numWakeupEvents : Nat) (now : Int) (availableToWrite : Nat) (writeOk : Bool) :
    w.step (.postEventsToMessageQueue events numWakeupEvents i now availableToWrite writeOk) = w := by
  have hi : ¬ i < w.history.system.wakelocks.length := Nat.not_lt.2 (List.getElem?_eq_none_iff.1 hwl)
  unfold Account.step ProxyFifo.step
  dsimp only
  rw [System.step_post_none hwl, if_neg hi]

theorem keepsCount_post_iff {w : Account} {i : Nat} {wakelock : ScopedWakelock}
    (hwl : w.wakelocks[i]? = some wakelock) (events : List Event) (numWakeupEvents : Nat) (now : Int)
    (availableToWrite : Nat) (writeOk : Bool) {k : Nat}
    (hk : w.proxy.numWritten events availableToWrite writeOk = k) :
    KeepsCount w (.postEventsToMessageQueue events numWakeupEvents i now availableToWrite writeOk) ↔
      (wakelock.mLocked = true → ¬ w.proxy.Stale wakelock.mCreatedAtTimeNs) ∧
      (¬ w.proxy.mSizePendingWriteEventsQueue + (events.drop k).length ≤ kMaxSizePendingWriteEventsQueue →
        w.wakeUps (events.drop k) = 0) := by
  subst hk
  rw [Nat.not_le]
  exact ⟨fun hkeep => hkeep wakelock hwl, fun hkeep _ he => by rw [hwl] at he; cases he; exact hkeep⟩

/-- What a post with the wakelock makes of the account. -/
theorem account_post (w : Account) (events : List Event) (numWakeupEvents : Nat) {i : Nat} {wakelock : ScopedWakelock}
    (hwl : w.wakelocks[i]? = some wakelock) (now : Int) (availableToWrite : Nat) (writeOk : Bool) (h : Inv w) {k : Nat}
    (hk : w.proxy.numWritten events availableToWrite writeOk = k) {w' : Account}
    (hw' : w' = w.step (.postEventsToMessageQueue events numWakeupEvents i now availableToWrite writeOk)) :
    w'.proxy.mWakelockRefCount = w.proxy.mWakelockRefCount + (if wakelock.mLocked then numWakeupEvents else 0) -
      (if wakelock.mLocked = true ∧ ¬ w.proxy.Stale wakelock.mCreatedAtTimeNs then 1 else 0) ∧
    numLocked w.wakelocks = numLocked w'.wakelocks + (if wakelock.mLocked then 1 else 0) ∧
    w'.acknowledged = w.acknowledged ∧
    w'.delivered = w.delivered + w.wakeUps (events.take k) ∧
    w'.pending = w.pending +
      (if w.proxy.mSizePendingWriteEventsQueue + (events.drop k).length ≤ kMaxSizePendingWriteEventsQueue then
        w.wakeUps (events.drop k) else 0) := by
  have hi : i < w.wakelocks.length := (List.getElem?_eq_some_iff.1 hwl).1
  have hsys : w'.history.system = (w.history.system.after (w.proxy.postEventsToMessageQueue events numWakeupEvents
      wakelock now availableToWrite writeOk)).destroy i wakelock := by
    rw [hw']
    exact System.step_post hwl events numWakeupEvents now availableToWrite writeOk
  have hproxy : w'.proxy = _ := congrArg System.proxy hsys
  have hlocks : w'.wakelocks = w.wakelocks.eraseIdx i := congrArg System.wakelocks hsys
  obtain ⟨hrc, hsame⟩ := HalProxy.post_destroy_spec h.run events numWakeupEvents wakelock now availableToWrite writeOk
  obtain ⟨hd, hp⟩ := counts_of_post w events numWakeupEvents i now availableToWrite writeOk h hi hk hw'
    (hproxy ▸ hsame)
  refine ⟨(congrArg HalProxy.mWakelockRefCount hproxy).trans hrc, ?_, ?_, hd, hp⟩
  · rw [hlocks]
    exact countP_eraseIdx ScopedWakelock.mLocked hwl
  · rw [hw']
    rfl

/-- **A post.** -/
theorem conserved_post_iff (w : Account) (events : List Event) (numWakeupEvents i : Nat) (now : Int)
    (availableToWrite : Nat) (writeOk : Bool) (h : Inv w)
    (hl : Legal w (.postEventsToMessageQueue events numWakeupEvents i now availableToWrite writeOk))
    (hc : Conserved w) :
    Conserved (w.step (.postEventsToMessageQueue events numWakeupEvents i now availableToWrite writeOk)) ↔
      KeepsCount w (.postEventsToMessageQueue events numWakeupEvents i now availableToWrite writeOk) := by
  cases hwl : w.wakelocks[i]? with
  | none =>
    rw [step_post_none hwl]
    exact iff_of_true hc (fun _ he => by rw [hwl] at he; cases he)
  | some wakelock =>
    generalize hk : w.proxy.numWritten events availableToWrite writeOk = k
    obtain ⟨hrc, hnum, hack, hd, hp⟩ := account_post w events numWakeupEvents hwl now availableToWrite writeOk h hk rfl
    have hsplit : w.wakeUps (events.take k) + w.wakeUps (events.drop k) = w.wakeUps events := by
      unfold wakeUps
      rw [← List.countP_append, List.take_append_drop]
    obtain ⟨hn, hlock⟩ := hl
    have hlock := hlock wakelock hwl
    have hle := h.acknowledged
    unfold Conserved at hc ⊢
    rw [keepsCount_post_iff hwl events numWakeupEvents now availableToWrite writeOk hk, hrc, hack, hd, hp]
    -- a stale wakelock and refused wake-up events both leave too many references
    by_cases hlk : wakelock.mLocked = true
    · rw [if_pos hlk] at hnum ⊢
      by_cases hst : w.proxy.Stale wakelock.mCreatedAtTimeNs
      · rw [if_neg (fun hn => hn.2 hst)]
        refine iff_of_false ?_ (fun hk => hk.1 hlk hst)
        split <;> omega
      · rw [if_pos ⟨hlk, hst⟩]
        by_cases hroom : w.proxy.mSizePendingWriteEventsQueue + (events.drop k).length ≤
            kMaxSizePendingWriteEventsQueue
        · rw [if_pos hroom]
          exact iff_of_true (by omega) ⟨fun _ => hst, fun hn => absurd hroom hn⟩
        · rw [if_neg hroom]
          refine ⟨fun hstep => ⟨fun _ => hst, fun _ => by omega⟩, fun hkeep => ?_⟩
          have := hkeep.2 hroom
          omega
    · rw [if_neg hlk] at hnum
      have hzero : numWakeupEvents = 0 := by
        by_contra hne
        exact hlk (hlock.2 (Nat.pos_of_ne_zero hne))
      rw [if_neg hlk, if_neg (fun hn => hlk hn.1)]
      refine iff_of_true ?_ ⟨fun hn => absurd hn hlk, fun _ => by omega⟩
      split <;> omega

/-! ## The invariant -/

theorem not_resets {w : Account} {op : ProxyOp} (hl : Legal w op) : ¬ w.history.system.Resets op := by
  cases op with
  | handleWakelocksCheck now nowReset => exact hl
  | _ => exact id

theorem delivered_le (w : Account) (op : ProxyOp) (h : Inv w) (hsame : SameSession w.proxy (w.step op).proxy) :
    w.delivered ≤ (w.step op).delivered := by
  have hle := Channel.countP_delivered_le (isWakeUp w.proxy.mSensors) (commands w.history op) (channel w.history)
  rw [← channel_step w op h] at hle
  unfold delivered wakeUps
  rw [hsame.wakeUp]
  exact hle

theorem entries_of_queue {w w' : Account} (h : Inv w) (hsame : SameSession w.proxy w'.proxy)
    (hq : w'.proxy.mPendingWriteEventsQueue = w.proxy.mPendingWriteEventsQueue) :
    ∀ entry ∈ w'.proxy.mPendingWriteEventsQueue, w'.wakeUps entry.1 ≤ entry.2 := by
  intro entry hm
  rw [hq] at hm
  unfold wakeUps
  rw [hsame.wakeUp]
  exact h.entries entry hm

theorem entries_commit (w : Account) (h : Inv w) :
    ∀ entry ∈ w.proxy.handlePendingWritesCommit.mPendingWriteEventsQueue, w.wakeUps entry.1 ≤ entry.2 := by
  intro entry hm
  unfold HalProxy.handlePendingWritesCommit at hm
  split at hm
  · rename_i numToWrite events n rest hphase hq
    have hold : ∀ e ∈ (events, n) :: rest, w.wakeUps e.1 ≤ e.2 := fun e he => h.entries e (by rw [hq]; exact he)
    dsimp only at hm
    split at hm
    · rcases List.mem_cons.1 hm with rfl | hm
      · exact Nat.le_trans (List.drop_sublist _ events).countP_le (hold (events, n) List.mem_cons_self)
      · exact hold entry (List.mem_cons_of_mem _ hm)
    · exact hold entry (List.mem_cons_of_mem _ hm)
  · exact h.entries entry hm

theorem entries_post (w : Account) (events : List Event) (n : Nat) (wakelock : ScopedWakelock) (now : Int)
    (availableToWrite : Nat) (writeOk : Bool) (h : Inv w) (hn : n = w.wakeUps events) :
    ∀ entry ∈ (w.proxy.postEventsToMessageQueue events n wakelock now availableToWrite
      writeOk).1.mPendingWriteEventsQueue, w.wakeUps entry.1 ≤ entry.2 := by
  have hsame := (ProxyFifo.quiet_of_locking (HalProxy.locking_acquire w.proxy n wakelock (fun _ => trivial) now)).same
  intro entry hm
  have hpost : (w.proxy.postEventsToMessageQueue events n wakelock now availableToWrite writeOk).1 =
      ((w.proxy.acquireForEvents n wakelock now).1.pushPending
        (events.drop ((w.proxy.acquireForEvents n wakelock now).1.numWritten events availableToWrite writeOk)) n).1 :=
    rfl
  rw [hpost] at hm
  unfold HalProxy.pushPending at hm
  split at hm
  · exact h.entries entry (hsame.queue ▸ hm)
  · split at hm
    · rcases List.mem_append.1 hm with hm | hm
      · exact h.entries entry (hsame.queue ▸ hm)
      · rw [List.mem_singleton.1 hm, hn]
        exact (List.drop_sublist _ events).countP_le
    · exact h.entries entry (hsame.queue ▸ hm)

theorem entries_step (w : Account) (op : ProxyOp) (h : Inv w) (hl : Legal w op) :
    ∀ entry ∈ (w.step op).proxy.mPendingWriteEventsQueue, (w.step op).wakeUps entry.1 ≤ entry.2 := by
  have hsame : SameSession w.proxy (w.step op).proxy :=
    sameSession_step w.history.system op h.run (not_resets hl)
  have hwake : (w.step op).wakeUps = w.wakeUps := by
    funext events
    unfold wakeUps
    rw [hsame.wakeUp]
  cases op with
  | createScopedWakelock lock now =>
      exact entries_of_queue h hsame (ProxyFifo.quiet_of_locking (HalProxy.locking_create trivial _ lock now)).same.queue
  | destroyScopedWakelock i =>
    refine entries_of_queue h hsame ?_
    show (w.history.system.step (.destroyScopedWakelock i)).proxy.mPendingWriteEventsQueue = _
    cases hwl : w.history.system.wakelocks[i]? with
    | none => rw [System.step_destroy_none hwl]; rfl
    | some wakelock =>
      rw [System.step_destroy hwl]
      exact (ProxyFifo.quiet_of_locking (HalProxy.locking_destroy _ wakelock)).same.queue
  | postEventsToMessageQueue events n i now availableToWrite writeOk =>
    rw [hwake]
    show ∀ entry ∈ (w.history.system.step (.postEventsToMessageQueue events n i now availableToWrite
      writeOk)).proxy.mPendingWriteEventsQueue, w.wakeUps entry.1 ≤ entry.2
    cases hwl : w.history.system.wakelocks[i]? with
    | none =>
      rw [System.step_post_none hwl]
      exact h.entries
    | some wakelock =>
      rw [System.step_post hwl]
      intro entry hm
      exact entries_post w events n wakelock now availableToWrite writeOk h hl.1 entry
        ((ProxyFifo.quiet_of_locking (HalProxy.locking_destroy _ wakelock)).same.queue ▸ hm)
  | handlePendingWritesTake =>
    refine entries_of_queue h hsame ?_
    show w.proxy.handlePendingWritesTake.mPendingWriteEventsQueue = _
    unfold HalProxy.handlePendingWritesTake
    split
    · split <;> rfl
    · rfl
  | handlePendingWritesWrite success =>
    refine entries_of_queue h hsame ?_
    show (w.proxy.handlePendingWritesWrite success).1.mPendingWriteEventsQueue = _
    rcases w.proxy.write_cases success with ⟨n, k, events, hwriting⟩ | ⟨-, hwrite⟩
    · obtain ⟨r, hr, hwrite⟩ := ProxyFifo.write_spec w.proxy success hwriting
      rw [hwrite]
      exact hr.same.queue
    · rw [hwrite]
  | handlePendingWritesCommit =>
    rw [hwake]
    exact entries_commit w h
  | handleWakelocksCheck now nowReset =>
    exact entries_of_queue h hsame (ProxyFifo.quiet_of_locking (HalProxy.locking_check _ now nowReset)).same.queue
  | handleWakelocksRead n =>
      exact entries_of_queue h hsame (ProxyFifo.quiet_of_locking (HalProxy.locking_read _ n)).same.queue

theorem promised {w : Account} {op : ProxyOp} (hl : Legal w op) : w.history.system.Promised op := by
  cases op with
  | postEventsToMessageQueue events n i now availableToWrite writeOk =>
    exact fun wakelock hwl => (hl.2 wakelock hwl).1
  | _ => trivial

theorem inv_start (p : HalProxy) : Inv (start p) where
  run := rfl
  counted := ⟨rfl, Nat.zero_le _, trivial⟩
  entries := fun _ hm => absurd hm List.not_mem_nil
  acknowledged := Nat.le_refl _
  held := iff_of_false (show ¬ none = some true by decide) (Nat.lt_irrefl 0)

theorem inv_step (w : Account) (op : ProxyOp) (h : Inv w) (hl : Legal w op) : Inv (w.step op) := by
  have hsame : SameSession w.proxy (w.step op).proxy :=
    sameSession_step w.history.system op h.run (not_resets hl)
  have hd := delivered_le w op h hsame
  refine ⟨hsame.run.trans h.run, ProxyFifo.counted_step w.history.system op h.counted, entries_step w op h hl, ?_,
    holdsLock_step _ op h.held (promised hl)⟩
  have hack := h.acknowledged
  cases op with
  | handleWakelocksRead n =>
    cases n with
    | none => exact Nat.le_trans hack hd
    | some n =>
      show (if w.proxy.mReadingWakelocks then w.acknowledged + n.toNat else w.acknowledged) ≤ _
      split
      · rename_i hr
        exact Nat.le_trans (hl hr) hd
      · exact Nat.le_trans hack hd
  | _ => exact Nat.le_trans hack hd

/-! ## Runs -/

theorem conserved_step_iff (w : Account) (op : ProxyOp) (h : Inv w) (hl : Legal w op) (hc : Conserved w) :
    Conserved (w.step op) ↔ KeepsCount w op := by
  cases op with
  | createScopedWakelock lock now => exact conserved_create_iff w lock now h hc
  | destroyScopedWakelock i => exact conserved_destroy_iff w i h hc
  | postEventsToMessageQueue events n i now availableToWrite writeOk =>
    exact conserved_post_iff w events n i now availableToWrite writeOk h hl hc
  | handlePendingWritesTake =>
    obtain ⟨hcount, hsame⟩ := HalProxy.take_spec w.proxy
    exact iff_of_true (conserved_of_quiet w _ h hc rfl hsame hcount rfl rfl) trivial
  | handlePendingWritesWrite success =>
    rcases w.proxy.write_cases success with ⟨n, k, events, hwriting⟩ | ⟨hidle, hwrite⟩
    · exact conserved_write_iff w success h hc hwriting
    · exact conserved_write_idle w success hc hidle hwrite
  | handlePendingWritesCommit =>
    obtain ⟨hcount, hsame⟩ := HalProxy.commit_spec w.proxy
    exact iff_of_true (conserved_of_quiet w _ h hc rfl hsame hcount rfl rfl) trivial
  | handleWakelocksCheck now nowReset =>
    obtain ⟨hcount, hsame⟩ := HalProxy.check_spec_of_not_timesOut hl nowReset
    exact iff_of_true (conserved_of_quiet w _ h hc rfl hsame hcount rfl rfl) trivial
  | handleWakelocksRead n => exact conserved_read_iff w n h hl hc

/-- References are conserved, and the system wake lock is held exactly while there are any. -/
structure Accounted (w : Account) : Prop where
  conserved : Conserved w
  held : HoldsLock w.history.system

/-- **References are conserved along a run exactly as long as every step is a `KeepsCount` step.** -/
theorem along_accounted_iff (p : HalProxy) (ops : List ProxyOp) (hlegal : Steps Account.step Legal (start p) ops) :
    Along Account.step Accounted (start p) ops ↔ Steps Account.step KeepsCount (start p) ops := by
  have hzero : Conserved (start p) := rfl
  refine Run.along_iff_steps inv_step ?_ (inv_start p) ⟨hzero, (inv_start p).held⟩ hlegal
  intro w op h hl hacc
  rw [← conserved_step_iff w op h hl hacc.conserved]
  exact ⟨fun hstep => hstep.conserved, fun hstep => ⟨hstep, (inv_step w op h hl).held⟩⟩

/-- Two wake-up events, both written at once and both acknowledged. -/
def postAndAcknowledge : List ProxyOp :=
  [.createScopedWakelock true 0, .postEventsToMessageQueue [wakeUpEvent 1, wakeUpEvent 2] 2 0 0 8 true,
    .handleWakelocksCheck 5 5, .handleWakelocksRead (some 2)]

theorem along_accounted_postAndAcknowledge : Along Account.step Accounted (start wakeUpProxy) postAndAcknowledge := by
  have hlegal : Steps Account.step Legal (start wakeUpProxy) postAndAcknowledge := by
    refine ⟨trivial, ⟨by decide, fun wakelock he => ?_⟩, ?_, ?_, trivial⟩
    · cases (show some (⟨0, true⟩ : ScopedWakelock) = some wakelock from he)
      exact iff_of_true rfl (by decide)
    · exact fun hout => absurd hout.2.2.2 (by decide)
    · exact fun _ => by decide
  refine (along_accounted_iff wakeUpProxy postAndAcknowledge hlegal).2 ⟨trivial, fun wakelock he => ?_, trivial, trivial,
    trivial⟩
  cases (show some (⟨0, true⟩ : ScopedWakelock) = some wakelock from he)
  exact ⟨fun _ => by decide, fun hfull => absurd hfull (by decide)⟩

/-- Of two wake-up events one is written at once; the blocking write of the other fails. -/
def partlyWritten : List ProxyOp :=
  [.createScopedWakelock true 0, .postEventsToMessageQueue [wakeUpEvent 1, wakeUpEvent 2] 2 0 0 1 true,
    .handlePendingWritesTake, .handlePendingWritesWrite false]

/-- The pending entry records both events, so the reference of the delivered one is given up as well. -/
theorem not_along_accounted_partlyWritten :
    Steps Account.step Legal (start wakeUpProxy) partlyWritten ∧
      ¬ Along Account.step Accounted (start wakeUpProxy) partlyWritten := by
  constructor
  · refine ⟨trivial, ⟨by decide, fun wakelock he => ?_⟩, trivial, trivial, trivial⟩
    cases (show some (⟨0, true⟩ : ScopedWakelock) = some wakelock from he)
    exact iff_of_true rfl (by decide)
  · intro h
    have hlast : (Run.run Account.step (start wakeUpProxy) partlyWritten).proxy.mWakelockRefCount = _ :=
      h.last.conserved
    revert hlast
    decide

end ProxyRefs
end MultiHal
end MemsHal
