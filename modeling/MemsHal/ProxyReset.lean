import Mathlib.Data.List.InsertIdx
import MemsHal.ProxyWakelock
/-!
# ProxyReset — what a wake-lock timeout isolates

A timeout drops every reference and notes the time; whether a later release is for a reference from before that is
read off the clock for a `ScopedWakelock`, and not asked at all for an acknowledgement.  So the count is about the
references since the last reset exactly as long as the clock orders them right and no late acknowledgement takes one.
-/
namespace MemsHal
namespace MultiHal
namespace ProxyReset

open Run (Along Steps)
open HalProxy (isWakeUp kMaxSizePendingWriteEventsQueue SameSession)

/-- The system and what happened before and after the last reset: its first `numOld` wakelocks were created before,
`old` and `recent` wake-up events were posted before and after and are not acknowledged. -/
structure World where
  system : System
  numOld : Nat
  old : Nat
  recent : Nat
  hasReset : Bool

namespace World

def proxy (w : World) : HalProxy := w.system.proxy

def wakelocks (w : World) : List ScopedWakelock := w.system.wakelocks

def wakeUps (w : World) (events : List Event) : Nat := events.countP (isWakeUp w.proxy.mSensors)

/-- The live locked wakelocks created after the last reset. -/
def numFresh (w : World) : Nat := numLocked (w.wakelocks.drop w.numOld)

/-- The proxy after an initialization that found no references. -/
def start (p : HalProxy) : World where
  system :=
    { proxy :=
        { p with
          mPendingWriteEventsQueue := [], mSizePendingWriteEventsQueue := 0, mPendingWrites := .waiting
          mThreadsRun := true, mWakelockRefCount := 0 }
      wakelocks := []
      calls := [] }
  numOld := 0
  old := 0
  recent := 0
  hasReset := false

/-- A reset makes everything old. -/
def forget (w : World) : World where
  system := w.system
  numOld := w.wakelocks.length
  old := w.old + w.recent
  recent := 0
  hasReset := true

/-- What any other operation does; acknowledgements come in delivery order, so they are for the older events first. -/
def count (w : World) : ProxyOp → World
  | .destroyScopedWakelock i => { w with numOld := if i < w.numOld then w.numOld - 1 else w.numOld }
  | .postEventsToMessageQueue events _ i _ _ _ =>
    if i < w.wakelocks.length then
      { w with
        numOld := if i < w.numOld then w.numOld - 1 else w.numOld
        recent := w.recent + w.wakeUps events }
    else w
  | .handleWakelocksRead (some n) =>
    if w.proxy.mReadingWakelocks then { w with old := w.old - n.toNat, recent := w.recent - (n.toNat - w.old) } else w
  | _ => w

def step (w : World) (op : ProxyOp) : World :=
  { (if w.system.Resets op then w.forget else w.count op) with system := w.system.step op }

theorem step_of_resets {w : World} {op : ProxyOp} (hr : w.system.Resets op) :
    w.step op = { w.forget with system := w.system.step op } := by
  unfold step
  rw [if_pos hr]

theorem step_of_not_resets {w : World} {op : ProxyOp} (hr : ¬ w.system.Resets op) :
    w.step op = { w.count op with system := w.system.step op } := by
  unfold step
  rw [if_neg hr]

theorem step_post_none {w : World} {i : Nat} (hwl : w.wakelocks[i]? = none) (events : List Event)
    (numWakeupEvents : Nat) (now : Int) (availableToWrite : Nat) (writeOk : Bool) :
    w.step (.postEventsToMessageQueue events numWakeupEvents i now availableToWrite writeOk) = w := by
  have hi := List.getElem?_eq_none_iff.1 hwl
  have hcount : w.count (.postEventsToMessageQueue events numWakeupEvents i now availableToWrite writeOk) = w :=
    if_neg (Nat.not_lt.2 hi)
  rw [step_of_not_resets id, System.step_post_none hwl, hcount]

theorem step_post {w : World} {i : Nat} {wakelock : ScopedWakelock} (hwl : w.wakelocks[i]? = some wakelock)
    (events : List Event) (numWakeupEvents : Nat) (now : Int) (availableToWrite : Nat) (writeOk : Bool) :
    w.step (.postEventsToMessageQueue events numWakeupEvents i now availableToWrite writeOk) =
      { w with
        system := (w.system.after (w.proxy.postEventsToMessageQueue events numWakeupEvents wakelock now
          availableToWrite writeOk)).destroy i wakelock
        numOld := if i < w.numOld then w.numOld - 1 else w.numOld
        recent := w.recent + w.wakeUps events } := by
  have hcount : w.count (.postEventsToMessageQueue events numWakeupEvents i now availableToWrite writeOk) =
      { w with
        numOld := if i < w.numOld then w.numOld - 1 else w.numOld
        recent := w.recent + w.wakeUps events } :=
    if_pos (List.getElem?_eq_some_iff.1 hwl).1
  rw [step_of_not_resets id, System.step_post hwl, hcount]
  rfl

theorem step_read {w : World} (hread : w.proxy.mReadingWakelocks = true) (n : UInt32) :
    w.step (.handleWakelocksRead (some n)) =
      { w with
        system := w.system.step (.handleWakelocksRead (some n))
        old := w.old - n.toNat
        recent := w.recent - (n.toNat - w.old) } := by
  have hcount : w.count (.handleWakelocksRead (some n)) =
      { w with old := w.old - n.toNat, recent := w.recent - (n.toNat - w.old) } :=
    if_pos hread
  rw [step_of_not_resets id, hcount]

theorem step_read_idle {w : World} (hread : ¬ w.proxy.mReadingWakelocks = true) (n : Option UInt32) :
    w.step (.handleWakelocksRead n) = w := by
  have hidle : w.proxy.handleWakelocksRead n = (w.proxy, []) := if_neg hread
  have hsys : w.system.step (.handleWakelocksRead n) = w.system := by
    show w.system.after (w.proxy.handleWakelocksRead n) = w.system
    rw [hidle]
    exact System.after_nil _
  have hcount : w.count (.handleWakelocksRead n) = w := by
    cases n with
    | none => rfl
    | some n => exact if_neg hread
  rw [step_of_not_resets id, hcount, hsys]

end World

open World

/-- **The count is about the references since the last reset.** -/
def Isolated (w : World) : Prop :=
  w.hasReset = true → w.proxy.mWakelockRefCount = w.numFresh + w.recent

/-- What the proxy is promised: a batch comes with its number of wake-up events and with a wakelock that is locked if
there are any, every write succeeds and nothing is refused, and only posted events are acknowledged. -/
def Legal (w : World) : ProxyOp → Prop
  | .postEventsToMessageQueue events numWakeupEvents i _ availableToWrite writeOk =>
    numWakeupEvents = w.wakeUps events ∧ writeOk = true ∧
      (∀ wakelock, w.wakelocks[i]? = some wakelock → (wakelock.mLocked = true ↔ 0 < numWakeupEvents)) ∧
      w.proxy.mSizePendingWriteEventsQueue +
        (events.drop (w.proxy.numWritten events availableToWrite writeOk)).length ≤ kMaxSizePendingWriteEventsQueue
  | .handlePendingWritesWrite success => success = true
  | .handleWakelocksRead (some n) => w.proxy.mReadingWakelocks = true → n.toNat ≤ w.old + w.recent
  | _ => True

/-- The clock tells whether the `i`-th wakelock is from before the last reset, or the count is zero anyway. -/
def ClockAgrees (w : World) (i : Nat) (count : Nat) : Prop :=
  ∀ wakelock, w.wakelocks[i]? = some wakelock → wakelock.mLocked = true →
    (i < w.numOld ∧ (w.proxy.Stale wakelock.mCreatedAtTimeNs ∨ count = 0)) ∨
    (w.numOld ≤ i ∧ ¬ w.proxy.Stale wakelock.mCreatedAtTimeNs)

/-- Once there was a reset:
* the clock tells old wakelocks from new ones when they end;
* an acknowledgement is for no event from before the reset, or the newer events it is for are all there is to count. -/
def KeepsIsolation (w : World) : ProxyOp → Prop
  | .destroyScopedWakelock i => w.hasReset = true → ClockAgrees w i w.proxy.mWakelockRefCount
  | .postEventsToMessageQueue _ numWakeupEvents i _ _ _ =>
    w.hasReset = true → ClockAgrees w i (w.proxy.mWakelockRefCount + numWakeupEvents)
  | .handleWakelocksRead (some n) =>
    w.hasReset = true → w.proxy.mReadingWakelocks = true →
      min n.toNat w.old = 0 ∨ w.proxy.mWakelockRefCount = n.toNat - w.old
  | _ => True

structure Inv (w : World) : Prop where
  run : w.proxy.mThreadsRun = true
  numOld : w.numOld ≤ w.wakelocks.length

/-! ## The wakelocks since the reset -/

section Drop

variable {α : Type} (q : α → Bool) {l : List α} {i k : Nat} {a : α}

theorem drop_eraseIdx_of_lt (h : i < k) : (l.eraseIdx i).drop (k - 1) = l.drop k := by
  refine List.ext_getElem? fun j => ?_
  rw [List.getElem?_drop, List.getElem?_drop, List.getElem?_eraseIdx_of_ge (by omega)]
  congr 1
  omega

theorem countP_drop_eraseIdx_of_le (h : l[i]? = some a) (hk : k ≤ i) :
    (l.drop k).countP q = ((l.eraseIdx i).drop k).countP q + if q a then 1 else 0 := by
  have hall := countP_eraseIdx q h
  have htake := congrArg (List.countP q) (List.take_eraseIdx_eq_take_of_le l k i hk)
  have hsplit := congrArg (List.countP q) (List.take_append_drop k l)
  have hsplit' := congrArg (List.countP q) (List.take_append_drop k (l.eraseIdx i))
  rw [List.countP_append] at hsplit hsplit'
  omega

end Drop

/-- What the end of the `i`-th wakelock leaves of the new ones. -/
theorem numLocked_erase {wakelocks : List ScopedWakelock} (numOld : Nat) {i : Nat} {wakelock : ScopedWakelock}
    (h : wakelocks[i]? = some wakelock) :
    numLocked (wakelocks.drop numOld) =
      numLocked ((wakelocks.eraseIdx i).drop (if i < numOld then numOld - 1 else numOld)) +
        if numOld ≤ i ∧ wakelock.mLocked = true then 1 else 0 := by
  unfold numLocked
  by_cases hi : i < numOld
  · rw [if_pos hi, drop_eraseIdx_of_lt hi, if_neg (fun hn => Nat.not_le.2 hi hn.1), Nat.add_zero]
  · rw [if_neg hi, countP_drop_eraseIdx_of_le ScopedWakelock.mLocked h (Nat.not_lt.1 hi)]
    simp only [Nat.not_lt.1 hi, true_and]

/-- A wakelock that ends gives a reference back exactly if it is a new one, as long as the clock agrees. -/
theorem clockAgrees_iff {w : World} {i count : Nat} {wakelock : ScopedWakelock} (h : w.wakelocks[i]? = some wakelock)
    (hpos : w.numOld ≤ i → wakelock.mLocked = true → 0 < count) :
    (count - (if wakelock.mLocked = true ∧ ¬ w.proxy.Stale wakelock.mCreatedAtTimeNs then 1 else 0) =
      count - if w.numOld ≤ i ∧ wakelock.mLocked = true then 1 else 0) ↔ ClockAgrees w i count := by
  have hagree : ClockAgrees w i count ↔ (wakelock.mLocked = true →
      (i < w.numOld ∧ (w.proxy.Stale wakelock.mCreatedAtTimeNs ∨ count = 0)) ∨
      (w.numOld ≤ i ∧ ¬ w.proxy.Stale wakelock.mCreatedAtTimeNs)) :=
    ⟨fun ha => ha wakelock h, fun ha _ he => by rw [h] at he; cases he; exact ha⟩
  rw [hagree]
  by_cases hl : wakelock.mLocked = true
  · by_cases hi : w.numOld ≤ i
    · have := hpos hi hl
      by_cases hst : w.proxy.Stale wakelock.mCreatedAtTimeNs
      · rw [if_neg (fun hn => hn.2 hst), if_pos ⟨hi, hl⟩]
        exact iff_of_false (by omega) (fun ha => (ha hl).elim (fun ho => by omega) (fun hn => hn.2 hst))
      · rw [if_pos ⟨hl, hst⟩, if_pos ⟨hi, hl⟩]
        exact iff_of_true rfl (fun _ => Or.inr ⟨hi, hst⟩)
    · rw [if_neg (c := w.numOld ≤ i ∧ _) (fun hn => hi hn.1)]
      by_cases hst : w.proxy.Stale wakelock.mCreatedAtTimeNs
      · rw [if_neg (fun hn => hn.2 hst)]
        exact iff_of_true rfl (fun _ => Or.inl ⟨Nat.lt_of_not_le hi, Or.inl hst⟩)
      · rw [if_pos ⟨hl, hst⟩]
        constructor
        · exact fun heq _ => Or.inl ⟨Nat.lt_of_not_le hi, Or.inr (by omega)⟩
        · intro ha
          rcases ha hl with ⟨-, hold⟩ | ⟨hn, -⟩
          · have := hold.resolve_left hst
            omega
          · exact absurd hn hi
  · rw [if_neg (fun hn => hl hn.1), if_neg (fun hn => hl hn.2)]
    exact iff_of_true rfl (fun hn => absurd hn hl)

/-! ## What a step does to the count -/

theorem isolated_reset {w : World} {op : ProxyOp} (hr : w.system.Resets op) : Isolated (w.step op) := by
  cases op with
  | handleWakelocksCheck now nowReset =>
    intro _
    rw [step_of_resets hr]
    show (w.system.proxy.handleWakelocksCheck now nowReset).1.mWakelockRefCount =
      numLocked (List.drop w.wakelocks.length w.wakelocks) + 0
    rw [HalProxy.check_spec_of_timesOut hr nowReset, List.drop_length]
    rfl
  | _ => exact hr.elim

/-- Any other step keeps the reset. -/
theorem hasReset_step {w : World} {op : ProxyOp} (hr : ¬ w.system.Resets op) :
    (w.step op).hasReset = w.hasReset := by
  rw [step_of_not_resets hr]
  show (w.count op).hasReset = w.hasReset
  unfold count
  split
  · rfl
  · split <;> rfl
  · split <;> rfl
  · rfl

/-- A step that leaves the count, the wakelocks and the posted events alone. -/
theorem isolated_of_same {w w' : World} (hc : Isolated w)
    (hcount : w'.proxy.mWakelockRefCount = w.proxy.mWakelockRefCount) (hlocks : w'.wakelocks = w.wakelocks)
    (hold : w'.numOld = w.numOld) (hrecent : w'.recent = w.recent) (hreset : w'.hasReset = w.hasReset) :
    Isolated w' := by
  unfold Isolated numFresh
  rw [hcount, hlocks, hold, hrecent, hreset]
  exact hc

theorem isolated_create (w : World) (lock : Bool) (now : Int) (h : Inv w) (hc : Isolated w) :
    Isolated (w.step (.createScopedWakelock lock now)) := by
  obtain ⟨hlock, hcount, -⟩ := HalProxy.create_spec h.run lock now
  intro hreset
  have hc := hc hreset
  have hfresh : (w.step (.createScopedWakelock lock now)).numFresh = w.numFresh + (if lock then 1 else 0) := by
    show numLocked ((w.wakelocks ++ [(w.proxy.createScopedWakelock lock now).1]).drop w.numOld) = _
    unfold numFresh numLocked
    rw [List.drop_append_of_le_length h.numOld, List.countP_append, List.countP_singleton, hlock]
  have hcount : (w.step (.createScopedWakelock lock now)).proxy.mWakelockRefCount =
      w.proxy.mWakelockRefCount + (if lock then 1 else 0) := hcount
  have hrecent : (w.step (.createScopedWakelock lock now)).recent = w.recent := rfl
  omega

theorem isolated_destroy_iff (w : World) (i : Nat) (h : Inv w) (hreset : w.hasReset = true) (hc : Isolated w) :
    Isolated (w.step (.destroyScopedWakelock i)) ↔ KeepsIsolation w (.destroyScopedWakelock i) := by
  have hkeep : KeepsIsolation w (.destroyScopedWakelock i) ↔ ClockAgrees w i w.proxy.mWakelockRefCount :=
    forall_prop_of_true hreset
  have hiso : Isolated (w.step (.destroyScopedWakelock i)) ↔
      (w.system.step (.destroyScopedWakelock i)).proxy.mWakelockRefCount =
        numLocked ((w.system.step (.destroyScopedWakelock i)).wakelocks.drop
          (if i < w.numOld then w.numOld - 1 else w.numOld)) + w.recent :=
    forall_prop_of_true hreset
  have hc := hc hreset
  rw [hkeep, hiso]
  cases hwl : w.wakelocks[i]? with
  | none =>
    have hi := List.getElem?_eq_none_iff.1 hwl
    have hold := h.numOld
    rw [System.step_destroy_none hwl, if_neg (by omega)]
    exact iff_of_true hc (fun _ he => by rw [hwl] at he; cases he)
  | some wakelock =>
    have hfresh : w.numFresh = _ := numLocked_erase w.numOld hwl
    rw [System.step_destroy hwl]
    show (w.proxy.destroyScopedWakelock wakelock).1.mWakelockRefCount =
      numLocked ((w.wakelocks.eraseIdx i).drop (if i < w.numOld then w.numOld - 1 else w.numOld)) + w.recent ↔ _
    have hpos : w.numOld ≤ i → wakelock.mLocked = true → 0 < w.proxy.mWakelockRefCount := by
      intro hi hl
      rw [if_pos (c := w.numOld ≤ i ∧ _) ⟨hi, hl⟩] at hfresh
      omega
    have hrc : (w.proxy.destroyScopedWakelock wakelock).1.mWakelockRefCount = w.proxy.mWakelockRefCount -
        (if wakelock.mLocked = true ∧ ¬ w.proxy.Stale wakelock.mCreatedAtTimeNs then 1 else 0) := by
      rw [HalProxy.destroy_refCount h.run]
      split <;> rfl
    rw [← clockAgrees_iff hwl hpos, hrc]
    constructor <;> intro he <;> omega

theorem isolated_post_iff (w : World) (events : List Event) (numWakeupEvents i : Nat) (now : Int)
    (availableToWrite : Nat) (writeOk : Bool) (h : Inv w) (hreset : w.hasReset = true)
    (hl : Legal w (.postEventsToMessageQueue events numWakeupEvents i now availableToWrite writeOk))
    (hc : Isolated w) :
    Isolated (w.step (.postEventsToMessageQueue events numWakeupEvents i now availableToWrite writeOk)) ↔
      KeepsIsolation w (.postEventsToMessageQueue events numWakeupEvents i now availableToWrite writeOk) := by
  have hkeep : KeepsIsolation w (.postEventsToMessageQueue events numWakeupEvents i now availableToWrite writeOk) ↔
      ClockAgrees w i (w.proxy.mWakelockRefCount + numWakeupEvents) :=
    forall_prop_of_true hreset
  rw [hkeep]
  cases hwl : w.wakelocks[i]? with
  | none =>
    rw [step_post_none hwl]
    exact iff_of_true hc (fun _ he => by rw [hwl] at he; cases he)
  | some wakelock =>
    obtain ⟨hn, -, hlock, -⟩ := hl
    have hlock := hlock wakelock hwl
    have hc := hc hreset
    have hfresh : w.numFresh = _ := numLocked_erase w.numOld hwl
    have hpos : w.numOld ≤ i → wakelock.mLocked = true → 0 < w.proxy.mWakelockRefCount + numWakeupEvents :=
      fun _ hlk => Nat.add_pos_right _ (hlock.1 hlk)
    have hrc := (HalProxy.post_destroy_spec h.run events numWakeupEvents wakelock now availableToWrite writeOk).1
    have hcount : (if wakelock.mLocked = true then numWakeupEvents else 0) = numWakeupEvents := by
      split
      · rfl
      · rename_i hlk
        exact (Nat.eq_zero_of_not_pos (fun hp => hlk (hlock.2 hp))).symm
    have hiso : Isolated (w.step (.postEventsToMessageQueue events numWakeupEvents i now availableToWrite writeOk)) ↔
        ((w.proxy.postEventsToMessageQueue events numWakeupEvents wakelock now availableToWrite
          writeOk).1.destroyScopedWakelock wakelock).1.mWakelockRefCount =
          numLocked ((w.wakelocks.eraseIdx i).drop (if i < w.numOld then w.numOld - 1 else w.numOld)) +
            (w.recent + w.wakeUps events) := by
      rw [step_post hwl]
      exact forall_prop_of_true hreset
    rw [hiso, ← clockAgrees_iff hwl hpos, hrc, hcount]
    constructor <;> intro he <;> omega

theorem isolated_read_iff (w : World) (n : Option UInt32) (h : Inv w) (hreset : w.hasReset = true)
    (hl : Legal w (.handleWakelocksRead n)) (hc : Isolated w) :
    Isolated (w.step (.handleWakelocksRead n)) ↔ KeepsIsolation w (.handleWakelocksRead n) := by
  have hrc := (HalProxy.read_spec h.run n).1
  by_cases hread : w.proxy.mReadingWakelocks = true
  · cases n with
    | none =>
      rw [if_pos hread] at hrc
      exact iff_of_true (isolated_of_same hc hrc rfl rfl rfl rfl) trivial
    | some n =>
      have hl : n.toNat ≤ w.old + w.recent := hl hread
      have hkeep : KeepsIsolation w (.handleWakelocksRead (some n)) ↔
          min n.toNat w.old = 0 ∨ w.proxy.mWakelockRefCount = n.toNat - w.old :=
        (forall_prop_of_true hreset).trans (forall_prop_of_true hread)
      have hiso : Isolated (w.step (.handleWakelocksRead (some n))) ↔
          (w.proxy.handleWakelocksRead (some n)).1.mWakelockRefCount =
            w.numFresh + (w.recent - (n.toNat - w.old)) := by
        rw [step_read hread]
        exact forall_prop_of_true hreset
      have hc := hc hreset
      rw [if_pos hread] at hrc
      have hrc : (w.proxy.handleWakelocksRead (some n)).1.mWakelockRefCount =
        w.proxy.mWakelockRefCount - n.toNat := hrc
      rw [hkeep, hiso, hrc]
      omega
  · rw [step_read_idle hread]
    refine iff_of_true hc ?_
    cases n with
    | none => trivial
    | some n => exact fun _ hr => absurd hr hread

theorem isolated_write (w : World) (h : Inv w) (hc : Isolated w) :
    Isolated (w.step (.handlePendingWritesWrite true)) := by
  refine isolated_of_same hc ?_ rfl rfl rfl rfl
  show (w.proxy.handlePendingWritesWrite true).1.mWakelockRefCount = _
  rcases w.proxy.write_cases true with ⟨n, k, events, hwriting⟩ | ⟨-, hwrite⟩
  · exact (HalProxy.write_spec h.run hwriting true).1
  · rw [hwrite]

/-- **After a step the count is about the references since the last reset exactly if the step is a `KeepsIsolation`
step.** -/
theorem isolated_step_iff (w : World) (op : ProxyOp) (h : Inv w) (hl : Legal w op) (hc : Isolated w) :
    Isolated (w.step op) ↔ KeepsIsolation w op := by
  by_cases hr : w.system.Resets op
  · refine iff_of_true (isolated_reset hr) ?_
    cases op with
    | handleWakelocksCheck now nowReset => trivial
    | _ => exact hr.elim
  by_cases hreset : w.hasReset = true
  · cases op with
    | createScopedWakelock lock now => exact iff_of_true (isolated_create w lock now h hc) trivial
    | destroyScopedWakelock i => exact isolated_destroy_iff w i h hreset hc
    | postEventsToMessageQueue events n i now availableToWrite writeOk =>
      exact isolated_post_iff w events n i now availableToWrite writeOk h hreset hl hc
    | handlePendingWritesTake =>
      exact iff_of_true (isolated_of_same hc (HalProxy.take_spec w.proxy).1 rfl rfl rfl rfl) trivial
    | handlePendingWritesWrite success =>
      obtain rfl : success = true := hl
      exact iff_of_true (isolated_write w h hc) trivial
    | handlePendingWritesCommit =>
      exact iff_of_true (isolated_of_same hc (HalProxy.commit_spec w.proxy).1 rfl rfl rfl rfl) trivial
    | handleWakelocksCheck now nowReset =>
      rw [step_of_not_resets hr]
      exact iff_of_true (isolated_of_same hc (HalProxy.check_spec_of_not_timesOut hr nowReset).1 rfl rfl rfl rfl)
        trivial
    | handleWakelocksRead n => exact isolated_read_iff w n h hreset hl hc
  · -- without a reset nothing is asked
    refine iff_of_true (fun hstep => absurd (hasReset_step hr ▸ hstep) hreset) ?_
    cases op with
    | destroyScopedWakelock i => exact fun hn => absurd hn hreset
    | postEventsToMessageQueue events n i now availableToWrite writeOk => exact fun hn => absurd hn hreset
    | handleWakelocksRead n =>
      cases n with
      | none => trivial
      | some n => exact fun hn => absurd hn hreset
    | _ => trivial

/-! ## Runs -/

theorem inv_start (p : HalProxy) : Inv (start p) := ⟨rfl, Nat.le_refl 0⟩

theorem numOld_step (w : World) (op : ProxyOp) (h : w.numOld ≤ w.wakelocks.length) (hr : ¬ w.system.Resets op) :
    (w.step op).numOld ≤ (w.step op).wakelocks.length := by
  rw [step_of_not_resets hr]
  have herase : ∀ {i : Nat} {wakelock : ScopedWakelock}, w.wakelocks[i]? = some wakelock →
      (if i < w.numOld then w.numOld - 1 else w.numOld) ≤ (w.wakelocks.eraseIdx i).length := by
    intro i wakelock hwl
    have hi := (List.getElem?_eq_some_iff.1 hwl).1
    rw [List.length_eraseIdx_of_lt hi]
    split <;> omega
  cases op with
  | createScopedWakelock lock now =>
    show w.numOld ≤ (w.wakelocks ++ [(w.proxy.createScopedWakelock lock now).1]).length
    rw [List.length_append]
    exact Nat.le_add_right_of_le h
  | destroyScopedWakelock i =>
    show (if i < w.numOld then w.numOld - 1 else w.numOld) ≤ (w.system.step (.destroyScopedWakelock i)).wakelocks.length
    cases hwl : w.wakelocks[i]? with
    | none =>
      have hi := List.getElem?_eq_none_iff.1 hwl
      rw [System.step_destroy_none hwl, if_neg (by omega)]
      exact h
    | some wakelock =>
      rw [System.step_destroy hwl]
      exact herase hwl
  | postEventsToMessageQueue events n i now availableToWrite writeOk =>
    show (w.count (.postEventsToMessageQueue events n i now availableToWrite writeOk)).numOld ≤
      (w.system.step (.postEventsToMessageQueue events n i now availableToWrite writeOk)).wakelocks.length
    unfold count
    dsimp only
    cases hwl : w.wakelocks[i]? with
    | none =>
      have hi := List.getElem?_eq_none_iff.1 hwl
      rw [System.step_post_none hwl, if_neg (Nat.not_lt.2 hi)]
      exact h
    | some wakelock =>
      have hi : i < w.wakelocks.length := (List.getElem?_eq_some_iff.1 hwl).1
      rw [System.step_post hwl, if_pos hi]
      exact herase hwl
  | handleWakelocksRead n =>
    cases n with
    | none => exact h
    | some n =>
      show (w.count (.handleWakelocksRead (some n))).numOld ≤ w.wakelocks.length
      unfold count
      dsimp only
      split <;> exact h
  | _ => exact h

theorem inv_step (w : World) (op : ProxyOp) (h : Inv w) : Inv (w.step op) := by
  by_cases hr : w.system.Resets op
  · cases op with
    | handleWakelocksCheck now nowReset =>
      refine ⟨?_, ?_⟩
      · show (w.system.proxy.handleWakelocksCheck now nowReset).1.mThreadsRun = true
        rw [HalProxy.check_spec_of_timesOut hr nowReset]
        exact h.run
      · rw [step_of_resets hr]
        exact Nat.le_refl _
    | _ => exact hr.elim
  · exact ⟨(sameSession_step w.system op h.run hr).run.trans h.run, numOld_step w op h.numOld hr⟩

/-- **A reset isolates along a run exactly as long as every step is a `KeepsIsolation` step.** -/
theorem along_isolated_iff (p : HalProxy) (ops : List ProxyOp) (hlegal : Steps World.step Legal (start p) ops) :
    Along World.step Isolated (start p) ops ↔ Steps World.step KeepsIsolation (start p) ops :=
  Run.along_iff_steps (fun w op h _ => inv_step w op h) isolated_step_iff (inv_start p)
    (fun hn => absurd hn Bool.false_ne_true) hlegal

/-- A wakelock outlives a timeout; a new one comes and goes. -/
def wakelockOutlivesReset : List ProxyOp :=
  [.createScopedWakelock true 0, .handleWakelocksCheck 2000000000 2000000000, .destroyScopedWakelock 0,
    .createScopedWakelock true 3000000000, .destroyScopedWakelock 0]

theorem along_isolated_wakelockOutlivesReset : Along World.step Isolated (start wakeUpProxy) wakelockOutlivesReset := by
  refine (along_isolated_iff wakeUpProxy wakelockOutlivesReset ⟨trivial, trivial, trivial, trivial, trivial, trivial⟩).2
    ⟨trivial, trivial, fun _ wakelock he _ => Or.inl ⟨by decide, Or.inl ?_⟩, trivial,
      fun _ wakelock he _ => Or.inr ⟨by decide, ?_⟩, trivial⟩
  · cases (show some (⟨0, true⟩ : ScopedWakelock) = some wakelock from he)
    decide
  · cases (show some (⟨3000000000, true⟩ : ScopedWakelock) = some wakelock from he)
    decide

/-- A wake-up event is posted before a timeout and another one after it; then the first one is acknowledged. -/
def acknowledgedAfterReset : List ProxyOp :=
  [.createScopedWakelock true 0, .postEventsToMessageQueue [wakeUpEvent 1] 1 0 0 8 true,
    .handleWakelocksCheck 2000000000 2000000000, .createScopedWakelock true 2000000000,
    .postEventsToMessageQueue [wakeUpEvent 2] 1 0 2000000000 8 true, .handleWakelocksCheck 2000000000 2000000000,
    .handleWakelocksRead (some 1)]

/-- The late acknowledgement takes the reference of the second event. -/
theorem not_along_isolated_acknowledgedAfterReset :
    Steps World.step Legal (start wakeUpProxy) acknowledgedAfterReset ∧
      ¬ Along World.step Isolated (start wakeUpProxy) acknowledgedAfterReset := by
  constructor
  · refine ⟨trivial, ⟨by decide, rfl, fun wakelock he => ?_, by decide⟩, trivial, trivial,
      ⟨by decide, rfl, fun wakelock he => ?_, by decide⟩, trivial, fun _ => by decide, trivial⟩
    · cases (show some (⟨0, true⟩ : ScopedWakelock) = some wakelock from he)
      exact iff_of_true rfl Nat.one_pos
    · cases (show some (⟨2000000000, true⟩ : ScopedWakelock) = some wakelock from he)
      exact iff_of_true rfl Nat.one_pos
  · intro h
    exact absurd (h.last (by decide)) (by decide)

end ProxyReset
end MultiHal
end MemsHal
