import MemsHal.Run
/-!
# Waiter — a thread that sleeps on a condition variable

The thread runs `while (running) { if (waits) wait(mutex, ready); … }`; the wait evaluates `ready` with the mutex held
and then releases it and sleeps in one step, but between the two a thread that does not take the mutex may act.  The
other threads change the data in critical sections, by atomic stores without the mutex, or in a section whose mutex
they never give back.

`along_not_lost`: if whatever brings work notifies inside the same critical section, the thread never sleeps, nor is
about to, while there is work.  `ended_iff_not_asleep`: once the loop is to stop and nobody notifies any more, the
thread ends exactly if it is not asleep or about to be.
-/
namespace Waiter

open Run

universe u

variable {σ : Type u}

inductive Position
  | starting
  | loop
  | predicate
  | blocking
  | blocked
  | woken
  | resumed
  | working
  | away
  | ended
  deriving DecidableEq, Repr

namespace Position

/-- The thread holds the mutex. -/
def holds : Position → Bool
  | loop | predicate | blocking | resumed | working => true
  | _ => false

/-- The thread sleeps, or has found nothing to do and is about to. -/
def asleep : Position → Bool
  | blocking | blocked => true
  | _ => false

/-- What a notification makes of the thread: it reaches only one that sleeps. -/
def notified : Position → Position
  | blocked => woken
  | p => p

end Position

/-- What the thread reads: the condition of its loop, whether an iteration begins with a wait, the predicate of that wait,
and whether the iteration goes on to its work after it. -/
structure Loop (σ : Type u) where
  running : σ → Bool
  waits : σ → Bool
  ready : σ → Bool
  resumes : σ → Bool

/-- The data, where the thread is, and whether another thread keeps the mutex for good. -/
structure State (σ : Type u) where
  data : σ
  position : Position
  taken : Bool

/-- What the threads do: the waiting thread's next step, its own changes of the data at work, a critical section of
another thread that may notify, an atomic store, a notification, and a section whose mutex is never given back. -/
inductive Op (σ : Type u)
  | advance
  | work (f : σ → σ)
  | locked (f : σ → σ) (notifies : σ → Bool)
  | store (f : σ → σ)
  | notify
  | seize (f : σ → σ)

variable (l : Loop σ)

/-- Where the next step of the thread leads, if it can take it. -/
def next (data : σ) (taken : Bool) : Position → Position
  | .starting => if taken then .starting else .loop
  | .loop => if l.running data then (if l.waits data then .predicate else .working) else .ended
  | .predicate => if l.ready data then .resumed else .blocking
  | .blocking => .blocked
  | .blocked => .blocked
  | .woken => if taken then .woken else .predicate
  | .resumed => if l.resumes data then .working else .loop
  | .working => .away
  | .away => if taken then .away else .loop
  | .ended => .ended

/-- Another thread can take the mutex. -/
def State.free (s : State σ) : Bool := !s.taken && !s.position.holds

/-- A step; a thread that needs the mutex and cannot take it waits, and changes nothing. -/
def step (s : State σ) : Op σ → State σ
  | .advance => { s with position := next l s.data s.taken s.position }
  | .work f => if s.position = .working ∨ s.position = .away then { s with data := f s.data } else s
  | .locked f notifies =>
    if s.free then
      { s with data := f s.data, position := if notifies s.data then s.position.notified else s.position }
    else s
  | .store f => { s with data := f s.data }
  | .notify => { s with position := s.position.notified }
  | .seize f => if s.free then ⟨f s.data, s.position.notified, true⟩ else s

/-- The thread's own next `n` steps. -/
def advances (s : State σ) (n : Nat) : State σ := run (step l) s (List.replicate n .advance)

/-! ## No wake-up is lost -/

section NotLost

variable {l} {P : σ → Prop}

/-- What brings work notifies in the same section; a store brings none. -/
def Announces (P : σ → Prop) (s : State σ) : Op σ → Prop
  | .locked f notifies => P (f s.data) → P s.data ∨ notifies s.data = true
  | .store f => P (f s.data) → P s.data
  | _ => True

theorem asleep_notified (p : Position) (h : p.notified.asleep = true) : p = .blocking := by
  cases p <;> simp_all [Position.notified, Position.asleep]

theorem blocking_holds {s : State σ} (h : s.position = .blocking) : s.free = false := by
  simp [State.free, h, Position.holds]

/-- The thread goes to sleep only after its predicate failed. -/
theorem asleep_next {data : σ} {taken : Bool} {p : Position} (h : (next l data taken p).asleep = true) :
    p.asleep = true ∨ l.ready data = false := by
  cases p with
  | predicate =>
    cases hready : l.ready data with
    | false => exact Or.inr rfl
    | true => simp [next, hready, Position.asleep] at h
  | blocking => exact Or.inl rfl
  | blocked => exact Or.inl rfl
  | loop =>
    simp only [next] at h
    split at h
    · split at h <;> cases h
    · cases h
  | starting => cases taken <;> cases h
  | woken => cases taken <;> cases h
  | away => cases taken <;> cases h
  | resumed =>
    simp only [next] at h
    split at h <;> cases h
  | working => cases h
  | ended => cases h

theorem not_lost_step (hP : ∀ d, P d → l.ready d = true) (s : State σ) (op : Op σ)
    (hs : s.position.asleep = true → ¬ P s.data) (hop : Announces P s op) :
    (step l s op).position.asleep = true → ¬ P (step l s op).data := by
  cases op with
  | advance =>
    intro h hp
    rcases asleep_next h with hasleep | hready
    · exact hs hasleep hp
    · exact absurd (hP s.data hp) (Bool.eq_false_iff.1 hready)
  | work f =>
    by_cases hw : s.position = .working ∨ s.position = .away
    · simp only [step, if_pos hw]
      rcases hw with hw | hw <;> simp [hw, Position.asleep]
    · simpa only [step, if_neg hw] using hs
  | locked f notifies =>
    by_cases hfree : s.free = true
    · simp only [step, if_pos hfree]
      intro h hp
      cases hn : notifies s.data with
      | true =>
        rw [hn, if_pos rfl] at h
        exact absurd (blocking_holds (asleep_notified _ h)) (by simp [hfree])
      | false =>
        rw [hn, if_neg Bool.false_ne_true] at h
        rcases hop hp with hp | hn'
        · exact hs h hp
        · exact absurd hn' (by simp [hn])
    · simpa only [step, if_neg hfree] using hs
  | store f => exact fun h hp => hs h (hop hp)
  | notify =>
    intro h hp
    refine hs ?_ hp
    rw [asleep_notified _ h]
    rfl
  | seize f =>
    by_cases hfree : s.free = true
    · simp only [step, if_pos hfree]
      intro h
      exact absurd (blocking_holds (asleep_notified _ h)) (by simp [hfree])
    · simpa only [step, if_neg hfree] using hs

/-- **No lost wake-up**: the thread does not sleep while there is work. -/
theorem along_not_lost (hP : ∀ d, P d → l.ready d = true) {s : State σ} {ops : List (Op σ)}
    (hs : s.position.asleep = true → ¬ P s.data) (hops : Steps (step l) (Announces P) s ops) :
    Along (step l) (fun s => s.position.asleep = true → ¬ P s.data) s ops :=
  along_of_step (not_lost_step hP) hs hops

end NotLost

/-! ## The end of the thread -/

section Ended

variable {l} {s : State σ}

@[simp] theorem advances_zero : advances l s 0 = s := rfl

theorem advances_succ (n : Nat) : advances l s (n + 1) = advances l (step l s .advance) n := rfl

@[simp] theorem advances_data (n : Nat) : (advances l s n).data = s.data := by
  induction n generalizing s with
  | zero => rfl
  | succ n ih => rw [advances_succ, ih]; rfl

theorem advances_asleep (h : s.position.asleep = true) (n : Nat) : (advances l s n).position.asleep = true := by
  induction n generalizing s with
  | zero => exact h
  | succ n ih =>
    refine ih ?_
    rcases s with ⟨data, position, taken⟩
    cases position <;> simp_all [step, next, Position.asleep]

/-- Six steps end a thread that is awake. -/
theorem advances_ended (htaken : s.taken = false) (hrunning : l.running s.data = false) (hready : l.ready s.data = true)
    (h : s.position.asleep = false) : (advances l s 6).position = .ended := by
  rcases s with ⟨data, position, taken⟩
  simp only at htaken hrunning hready h
  subst htaken
  cases hresumes : l.resumes data <;> cases position <;>
    simp_all [advances, step, next, Position.asleep, List.replicate]

/-- **Once its loop is to stop, a thread left to itself ends exactly if it is not asleep or about to be.** -/
theorem ended_iff_not_asleep (htaken : s.taken = false) (hrunning : l.running s.data = false)
    (hready : l.ready s.data = true) :
    (∃ n, (advances l s n).position = .ended) ↔ s.position.asleep = false := by
  constructor
  · rintro ⟨n, hn⟩
    cases h : s.position.asleep with
    | false => rfl
    | true =>
      have := advances_asleep (l := l) h n
      rw [hn] at this
      cases this
  · exact fun h => ⟨6, advances_ended htaken hrunning hready h⟩

/-- A notification lets the thread end unless it has found nothing to do and does not sleep yet. -/
theorem ended_after_notify_iff (htaken : s.taken = false) (hrunning : l.running s.data = false)
    (hready : l.ready s.data = true) :
    (∃ n, (advances l (step l s .notify) n).position = .ended) ↔ s.position ≠ .blocking := by
  refine (ended_iff_not_asleep (s := step l s .notify) htaken hrunning hready).trans ?_
  rcases s with ⟨data, position, taken⟩
  cases position <;> simp [step, Position.notified, Position.asleep]

/-- **A mutex that is never given back**: a thread outside it never ends, whatever anyone does. -/
theorem along_not_ended (h : s.taken = true) (hholds : s.position.holds = false) (hended : s.position ≠ .ended)
    (ops : List (Op σ)) : (run (step l) s ops).position ≠ .ended := by
  have hinv : (run (step l) s ops).taken = true ∧ (run (step l) s ops).position.holds = false ∧
      (run (step l) s ops).position ≠ .ended := by
    refine run_of_inv (step l) (fun s => s.taken = true ∧ s.position.holds = false ∧ s.position ≠ .ended) ?_ ops
      ⟨h, hholds, hended⟩
    rintro ⟨data, position, taken⟩ op ⟨htaken, hholds, hended⟩
    simp only at htaken hholds hended
    subst htaken
    cases op <;> cases position <;>
      simp_all [step, next, State.free, Position.holds, Position.notified]
  exact hinv.2.2

end Ended

end Waiter
