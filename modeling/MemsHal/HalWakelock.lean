import Mathlib.Algebra.Ring.Nat
import MemsHal.SensorsHalAidl
/-!
# HalWakelock — the wake-up events that the framework has not handled

`updateWakeLock` counts them in an unsigned word, from a written count and a handled count of 32 bits, the latter from
another process.  The count is the unbounded one exactly as long as no acknowledgement is negative beyond what was
written and no sum reaches 2^31 (`steps_accounted_iff`); the lock follows the count always.
-/
namespace MemsHal
namespace Aidl

namespace WakeLock

variable (w : WakeLock)

/-- The unbounded number of outstanding events after `written` more and `handled` fewer. -/
def balance (written handled : Int) : Int := w.mOutstandingWakeUpEvents.toNat + written - handled

theorem newVal_toInt (eventsWritten eventsHandled : Int32) :
    (w.newVal eventsWritten eventsHandled).toInt =
      (w.balance eventsWritten.toInt eventsHandled.toInt).bmod (2 ^ 32) := by
  have hcount : w.mOutstandingWakeUpEvents.toInt32.toInt = (w.mOutstandingWakeUpEvents.toNat : Int).bmod (2 ^ 32) := by
    rw [← Int32.toInt_toBitVec, UInt32.toBitVec_toInt32, BitVec.toInt_eq_toNat_bmod]
    rfl
  unfold newVal balance
  rw [UInt32.toInt32_sub, UInt32.toInt32_add, Int32.toInt32_toUInt32, Int32.toInt32_toUInt32, Int32.toInt_sub,
    Int32.toInt_add, hcount]
  simp only [Int.bmod_add_bmod, Int.bmod_sub_bmod]

/-- **The count is the wrapped balance, cut at 0.** -/
theorem counted_toNat (eventsWritten eventsHandled : Int32) :
    ((w.counted eventsWritten eventsHandled).toNat : Int) =
      max 0 ((w.balance eventsWritten.toInt eventsHandled.toInt).bmod (2 ^ 32)) := by
  rw [← newVal_toInt]
  unfold counted
  split
  · rename_i hneg
    rw [Int32.lt_iff_toInt_lt] at hneg
    exact (max_eq_left (Int.le_of_lt hneg)).symm
  · rename_i hpos
    rw [Int32.not_lt] at hpos
    have hpos' := Int32.le_iff_toInt_le.1 hpos
    rw [Int32.toNat_toUInt32_of_le hpos]
    unfold Int32.toNatClampNeg
    rw [Int.toNat_of_nonneg hpos']
    exact (max_eq_right hpos').symm

theorem counted_lt (eventsWritten eventsHandled : Int32) :
    (w.counted eventsWritten eventsHandled).toNat < 2 ^ 31 := by
  have hcount := counted_toNat w eventsWritten eventsHandled
  have hlt := Int.bmod_lt (x := w.balance eventsWritten.toInt eventsHandled.toInt) (m := 2 ^ 32) (by decide)
  omega

/-- The count is exact below 2^31: a balance of more is wrapped to a negative value and cut. -/
theorem counted_eq (eventsWritten eventsHandled : Int32) (hcount : w.mOutstandingWakeUpEvents.toNat < 2 ^ 31)
    (written : Nat) (hwritten : eventsWritten = Int32.ofNat written) :
    ((w.counted eventsWritten eventsHandled).toNat : Int) = max 0 (w.balance written eventsHandled.toInt) ↔
      w.balance written eventsHandled.toInt < 2 ^ 31 := by
  have hlt := counted_lt w eventsWritten eventsHandled
  have heq := counted_toNat w eventsWritten eventsHandled
  have hwrap : (w.balance eventsWritten.toInt eventsHandled.toInt).bmod (2 ^ 32) =
      (w.balance written eventsHandled.toInt).bmod (2 ^ 32) := by
    unfold balance
    rw [hwritten, Int32.toInt_ofNat', show Int32.size = 2 ^ 32 from rfl, add_sub_right_comm, Int.add_bmod_bmod,
      ← add_sub_right_comm]
  rw [hwrap] at heq
  have hh := Int32.le_toInt eventsHandled
  have hh' := Int32.toInt_lt eventsHandled
  constructor
  · intro h
    omega
  · intro h
    rw [heq, Int.bmod_eq_of_le (by unfold balance; omega) (by omega)]

/-- The lock is found past its deadline by an update: it is held, and the second clock reading is beyond it. -/
def TimedOut (eventsWritten : Int32) (u : Uptime) : Prop :=
  w.mHasWakeLock = true ∧ w.deadline eventsWritten u < u.nowCheck

instance (eventsWritten : Int32) (u : Uptime) : Decidable (w.TimedOut eventsWritten u) :=
  inferInstanceAs (Decidable (_ ∧ _))

theorem updateWakeLock_count (eventsWritten eventsHandled : Int32) (u : Uptime) :
    (w.updateWakeLock eventsWritten eventsHandled u).1.mOutstandingWakeUpEvents =
      if w.TimedOut eventsWritten u then 0 else w.counted eventsWritten eventsHandled := by
  by_cases hheld : w.mHasWakeLock = false
  · have hnot : ¬ w.TimedOut eventsWritten u := fun h => Bool.false_ne_true (hheld ▸ h.1)
    unfold updateWakeLock
    dsimp only
    rw [if_pos hheld, if_neg hnot]
  · have htimed : w.TimedOut eventsWritten u ↔ w.deadline eventsWritten u < u.nowCheck :=
      and_iff_right (Bool.not_eq_false _ |>.mp hheld)
    unfold updateWakeLock
    dsimp only
    rw [if_neg hheld]
    simp only [htimed]

/-- **The lock an update leaves**: it is held while the count is not 0, as far as the system grants the calls. -/
theorem updateWakeLock_held (eventsWritten eventsHandled : Int32) (u : Uptime) :
    (w.updateWakeLock eventsWritten eventsHandled u).1.mHasWakeLock =
      if w.mHasWakeLock = false then
        0 < (w.updateWakeLock eventsWritten eventsHandled u).1.mOutstandingWakeUpEvents && u.acquireOk
      else !((w.updateWakeLock eventsWritten eventsHandled u).1.mOutstandingWakeUpEvents = 0 && u.releaseOk) := by
  unfold updateWakeLock
  dsimp only
  split <;> rfl

/-- The lock is held exactly while events are outstanding, and the count is below 2^31. -/
def Held : Prop :=
  (w.mHasWakeLock = true ↔ 0 < w.mOutstandingWakeUpEvents) ∧ w.mOutstandingWakeUpEvents.toNat < 2 ^ 31

variable {w}

theorem held_update {u : Uptime} (hacquire : u.acquireOk = true) (hrelease : u.releaseOk = true)
    (eventsWritten eventsHandled : Int32) : (w.updateWakeLock eventsWritten eventsHandled u).1.Held := by
  refine ⟨?_, ?_⟩
  · rw [updateWakeLock_held, hacquire, hrelease, Bool.and_true, Bool.and_true]
    split
    · exact decide_eq_true_iff
    · rw [Bool.not_eq_true', decide_eq_false_iff_not]
      exact UInt32.pos_iff_ne_zero.symm
  · rw [updateWakeLock_count]
    split
    · decide
    · exact counted_lt w eventsWritten eventsHandled

end WakeLock

/-! ## Runs -/

namespace HalWakelock

/-- A post of wake-up events, a pass of the wake-lock thread, or the framework taking events from the Event FMQ; the
system grants every wake-lock call. -/
inductive WakeOp
  | postEvents (events : List Event) (now nowCheck : Int)
  | readWakeLockFMQ (eventsHandled : Int32) (now nowCheck : Int)
  | frameworkReads (count : Nat)

/-- The HAL, and the number of wake-up events written so far. -/
structure Accounts where
  hal : SensorsHalAidl
  numWritten : Nat

/-- The HAL after its first `initialize`. -/
def start (timeoutSeconds : UInt32) (descriptions : List SensorDescription) (i : InitializeInput) : Accounts :=
  ⟨((SensorsHalAidl.construct timeoutSeconds descriptions).initializeHal i).1, 0⟩

/-- The update that a step makes: how many events were written, how many handled, at what times. -/
def update? (s : Accounts) : WakeOp → Option (Nat × Int32 × Uptime)
  | .postEvents events now nowCheck =>
    (s.hal.mEventQueue.bind (·.write events)).map fun _ => (events.length, 0, { now := now, nowCheck := nowCheck })
  | .readWakeLockFMQ eventsHandled now nowCheck =>
    if s.hal.mReadWakeLockQueueRun then some (0, eventsHandled, { now := now, nowCheck := nowCheck }) else none
  | .frameworkReads _ => none

def step (s : Accounts) (op : WakeOp) : Accounts where
  hal := match op with
    | .postEvents events now nowCheck => (s.hal.postEvents events true { now := now, nowCheck := nowCheck }).1
    | .readWakeLockFMQ eventsHandled now nowCheck =>
      (s.hal.readWakeLockFMQ eventsHandled { now := now, nowCheck := nowCheck }).1
    | .frameworkReads count => s.hal.frameworkReads count
  numWritten := s.numWritten + (update? s op).elim 0 (·.1)

/-- **What an update of the count should do**: the lock is held while events are outstanding; the count is the
unbounded balance, or 0 once the lock is found past its deadline; it is never more than was written; and the lock is
not released before the deadline while the balance is positive. -/
def Accounted (s : Accounts) (op : WakeOp) : Prop :=
  ∀ written handled u, update? s op = some (written, handled, u) →
    let w := s.hal.wakeLock
    let w' := (step s op).hal.wakeLock
    (w'.mHasWakeLock = true ↔ 0 < w'.mOutstandingWakeUpEvents) ∧
    (w'.mOutstandingWakeUpEvents.toNat : Int) =
      (if w.TimedOut (Int32.ofNat written) u then 0 else max 0 (w.balance written handled.toInt)) ∧
    w'.mOutstandingWakeUpEvents.toNat ≤ (step s op).numWritten ∧
    (w.mHasWakeLock = true → w'.mHasWakeLock = false →
      w.TimedOut (Int32.ofNat written) u ∨ w.balance written handled.toInt ≤ 0)

/-- The lock is past its deadline, or the balance stays below 2^31 and a negative acknowledgement takes back no more
events than were written and are not outstanding. -/
def InRange (s : Accounts) (op : WakeOp) : Prop :=
  ∀ written handled u, update? s op = some (written, handled, u) →
    s.hal.wakeLock.TimedOut (Int32.ofNat written) u ∨
      (s.hal.wakeLock.balance written handled.toInt < 2 ^ 31 ∧
        -handled.toInt ≤ s.numWritten - s.hal.wakeLock.mOutstandingWakeUpEvents.toNat)

theorem step_wakeLock (s : Accounts) (op : WakeOp) :
    (step s op).hal.wakeLock =
      (update? s op).elim s.hal.wakeLock fun x => (s.hal.wakeLock.updateWakeLock (Int32.ofNat x.1) x.2.1 x.2.2).1 := by
  cases op with
  | postEvents events now nowCheck =>
    show (s.hal.postEvents events true _).1.wakeLock = _
    unfold SensorsHalAidl.postEvents update?
    cases s.hal.mEventQueue with
    | none => rfl
    | some queue =>
      dsimp only [Option.bind_some]
      cases queue.write events <;> rfl
  | readWakeLockFMQ eventsHandled now nowCheck =>
    show (s.hal.readWakeLockFMQ eventsHandled _).1.wakeLock = _
    unfold SensorsHalAidl.readWakeLockFMQ update?
    dsimp only
    split <;> rfl
  | frameworkReads count => rfl

/-- What every run with `Accounted` steps keeps. -/
structure Inv (s : Accounts) : Prop where
  held : s.hal.wakeLock.Held
  written : s.hal.wakeLock.mOutstandingWakeUpEvents.toNat ≤ s.numWritten

theorem granted (s : Accounts) (op : WakeOp) {written : Nat} {handled : Int32} {u : Uptime}
    (h : update? s op = some (written, handled, u)) : u.acquireOk = true ∧ u.releaseOk = true := by
  cases op with
  | postEvents events now nowCheck =>
    obtain ⟨_, -, heq⟩ := Option.map_eq_some_iff.1 h
    cases heq
    exact ⟨rfl, rfl⟩
  | readWakeLockFMQ eventsHandled now nowCheck =>
    unfold update? at h
    dsimp only at h
    split at h
    · cases h
      exact ⟨rfl, rfl⟩
    · cases h
  | frameworkReads count => cases h

theorem inv_step (s : Accounts) (op : WakeOp) (h : Inv s) (hacc : Accounted s op) : Inv (step s op) := by
  cases hup : update? s op with
  | none =>
    have hw := step_wakeLock s op
    rw [hup, Option.elim_none] at hw
    have hn : (step s op).numWritten = s.numWritten := by
      show s.numWritten + (update? s op).elim 0 (·.1) = _
      rw [hup]; rfl
    exact ⟨hw ▸ h.held, by rw [hw, hn]; exact h.written⟩
  | some x =>
    obtain ⟨written, handled, u⟩ := x
    have hw := step_wakeLock s op
    rw [hup, Option.elim_some] at hw
    obtain ⟨hacquire, hrelease⟩ := granted s op hup
    exact ⟨hw ▸ WakeLock.held_update hacquire hrelease _ _, (hacc written handled u hup).2.2.1⟩

theorem accounted_iff_inRange (s : Accounts) (op : WakeOp) (h : Inv s) : Accounted s op ↔ InRange s op := by
  refine forall_congr' fun written => forall_congr' fun handled => forall_congr' fun u => forall_congr' fun hup => ?_
  have hw := step_wakeLock s op
  have hn : (step s op).numWritten = s.numWritten + written := by
    show s.numWritten + (update? s op).elim 0 (·.1) = _
    rw [hup]; rfl
  rw [hup, Option.elim_some] at hw
  obtain ⟨hacquire, hrelease⟩ := granted s op hup
  have hheld := (WakeLock.held_update (w := s.hal.wakeLock) hacquire hrelease (Int32.ofNat written) handled).1
  have hcount := WakeLock.updateWakeLock_count s.hal.wakeLock (Int32.ofNat written) handled u
  have hexact := WakeLock.counted_eq s.hal.wakeLock (Int32.ofNat written) handled h.held.2 written rfl
  have hwritten := h.written
  dsimp only
  rw [hw, hn]
  rw [hcount] at hheld ⊢
  by_cases htime : s.hal.wakeLock.TimedOut (Int32.ofNat written) u
  · simp only [if_pos htime] at hheld ⊢
    exact iff_of_true ⟨hheld, rfl, Nat.zero_le _, fun _ _ => Or.inl htime⟩ (Or.inl htime)
  · simp only [htime, if_false, false_or] at hheld ⊢
    unfold WakeLock.balance at hexact ⊢
    constructor
    · rintro ⟨-, heq, hle, -⟩
      exact ⟨hexact.1 heq, by omega⟩
    · rintro ⟨hlt, hneg⟩
      have heq := hexact.2 hlt
      refine ⟨hheld, heq, by omega, fun _ hreleased => ?_⟩
      have hzero : ¬ 0 < s.hal.wakeLock.counted (Int32.ofNat written) handled :=
        fun hpos => Bool.false_ne_true (hreleased.symm.trans (hheld.2 hpos))
      rw [UInt32.lt_iff_toNat_lt] at hzero
      have : (0 : UInt32).toNat = 0 := rfl
      omega

theorem inv_start (timeoutSeconds : UInt32) (descriptions : List SensorDescription) (i : InitializeInput) :
    Inv (start timeoutSeconds descriptions i) := by
  have hw : (start timeoutSeconds descriptions i).hal.wakeLock = .fresh timeoutSeconds := by
    unfold start SensorsHalAidl.initializeHal SensorsHalAidl.joinWakeLockThread
    cases i.lastPass <;> rfl
  refine ⟨?_, ?_⟩
  · rw [hw]
    exact ⟨iff_of_false Bool.false_ne_true (UInt32.lt_irrefl 0), show (0 : UInt32).toNat < 2 ^ 31 by decide⟩
  · rw [hw]
    exact Nat.zero_le _

/-- **The count is exact, and the lock held for as long as it should be, along a run exactly when every update is in
range.** -/
theorem steps_accounted_iff (timeoutSeconds : UInt32) (descriptions : List SensorDescription) (i : InitializeInput)
    (ops : List WakeOp) :
    Run.Steps step Accounted (start timeoutSeconds descriptions i) ops ↔
      Run.Steps step InRange (start timeoutSeconds descriptions i) ops :=
  Run.steps_iff_steps inv_step accounted_iff_inRange ops (inv_start timeoutSeconds descriptions i)

/-- One negative acknowledgement on a HAL without any event: the count becomes 1, and the lock is taken. -/
theorem not_steps_accounted_negativeAcknowledgement :
    ¬ Run.Steps step Accounted (start 200 [] { quantumCount := 16 }) [.readWakeLockFMQ (-1) 1000 1000] := by
  intro h
  obtain ⟨-, -, hle, -⟩ := h.1 0 (-1) { now := 1000, nowCheck := 1000 } rfl
  exact absurd hle (by decide)

end HalWakelock
end Aidl
end MemsHal
