import Mathlib.Logic.Relation
import Mathlib.Logic.Function.Basic
import Mathlib.Data.Set.Basic
import Mathlib.Data.Fintype.Basic
import Mathlib.Algebra.BigOperators.Group.Finset.Basic
import Mathlib.Algebra.Order.BigOperators.Group.Finset
import Mathlib.Order.WellFounded
/-!
# LockOrder — threads that take mutexes in a fixed order

Every thread runs programs of lock operations, one after the other, chosen from its repertoire; between two lock
operations it does what it likes.  A program that branches on data is a family of programs.  The threads share some
data, which programs store to and which decide whether the loop of a thread goes on; a pass of a loop is a program too.
A loop may sleep on a condition variable at its head, and then nothing says that it ever leaves.

`Fits level recursive held p` says that `p`, started with the locks `held`, takes only locks below the level of every
lock held (a recursive mutex may be taken again) and gives back what it took.  If all programs and passes fit, every
reachable state is `Live`: whoever waits, waits, directly or along a chain of holders, for a thread that can move or is
at the head of its loop, and once nothing new is begun all threads end what they do or wait for one that rests there.

`join` is a lock too: a thread holds its life while it runs, and who joins it takes that lock and gives it back.  That
the joined thread leaves its loop rests on the shared data: `returns_of_okay` says when nobody waits for one that rests.
-/
namespace LockOrder

universe u v w x

/-- What a thread does to the locks and to the shared data until it is done; the loop of the thread with the life `life`
stands at its head. -/
inductive Program (L : Type u) (σ : Type v)
  | done
  | lock (l : L) (next : Program L σ)
  | tryLock (l : L) (taken missed : Program L σ)
  | unlock (l : L) (next : Program L σ)
  | store (f : σ → σ) (next : Program L σ)
  | loop (life : L) (next : Program L σ)

namespace Program

variable {L : Type u} {σ : Type v}

def andThen : Program L σ → Program L σ → Program L σ
  | done, q => q
  | lock l next, q => lock l (next.andThen q)
  | tryLock l taken missed, q => tryLock l (taken.andThen q) (missed.andThen q)
  | unlock l next, q => unlock l (next.andThen q)
  | store f next, q => store f (next.andThen q)
  | loop life next, q => loop life (next.andThen q)

/-- A scope that holds `l`. -/
def within (l : L) (body : Program L σ) : Program L σ := lock l (body.andThen (unlock l done))

/-- A scope entered only if `l` is free. -/
def attempt (l : L) (body : Program L σ) : Program L σ := tryLock l (body.andThen (unlock l done)) done

/-- Waiting for a thread to end. -/
def join (life : L) : Program L σ := within life done

/-- The life of a thread that runs a loop and then does `after`. -/
def looping (life : L) (after : Program L σ) : Program L σ := within life (loop life after)

def each {α : Type w} (xs : List α) (body : α → Program L σ) : Program L σ :=
  xs.foldr (fun x rest => (body x).andThen rest) done

def length : Program L σ → Nat
  | done => 0
  | lock _ next => next.length + 1
  | tryLock _ taken missed => taken.length + missed.length + 1
  | unlock _ next => next.length + 1
  | store _ next => next.length + 1
  | loop _ next => next.length + 1

theorem andThen_assoc : ∀ p q r : Program L σ, (p.andThen q).andThen r = p.andThen (q.andThen r)
  | done, _, _ => rfl
  | lock l next, q, r => congrArg (lock l) (andThen_assoc next q r)
  | tryLock l taken missed, q, r =>
    congrArg₂ (tryLock l) (andThen_assoc taken q r) (andThen_assoc missed q r)
  | unlock l next, q, r => congrArg (unlock l) (andThen_assoc next q r)
  | store f next, q, r => congrArg (store f) (andThen_assoc next q r)
  | loop life next, q, r => congrArg (loop life) (andThen_assoc next q r)

theorem andThen_done : ∀ p : Program L σ, p.andThen done = p
  | done => rfl
  | lock l next => congrArg (lock l) (andThen_done next)
  | tryLock l taken missed => congrArg₂ (tryLock l) (andThen_done taken) (andThen_done missed)
  | unlock l next => congrArg (unlock l) (andThen_done next)
  | store f next => congrArg (store f) (andThen_done next)
  | loop life next => congrArg (loop life) (andThen_done next)

end Program

open Program

/-! ## Threads and their steps -/

structure Thread (L : Type u) (σ : Type v) where
  held : List L
  todo : Program L σ

structure State (L : Type u) (σ : Type v) (T : Type w) where
  threads : T → Thread L σ
  data : σ

/-- What the threads do: the locks that may be taken again, what a thread may begin, what a pass of a loop does, when
the loop goes on, and whether it sleeps at its head. -/
structure System (L : Type u) (σ : Type v) (T : Type w) where
  recursive : L → Prop
  programs : T → σ → Set (Program L σ)
  passes : L → Set (Program L σ)
  running : L → σ → Prop
  sleeps : L → Prop

section Steps

variable {L : Type u} {σ : Type v} {T : Type w} [DecidableEq L] (S : System L σ T)

/-- No other thread holds `l`. -/
def Free (s : State L σ T) (t : T) (l : L) : Prop := ∀ u, u ≠ t → l ∉ (s.threads u).held

/-- What one operation of `t` makes of it and of the data. -/
inductive Moves (s : State L σ T) (t : T) : Thread L σ → σ → Prop
  | lock {l next} (h : (s.threads t).todo = .lock l next) (free : Free s t l)
    (again : l ∈ (s.threads t).held → S.recursive l) : Moves s t ⟨l :: (s.threads t).held, next⟩ s.data
  | taken {l taken missed} (h : (s.threads t).todo = .tryLock l taken missed) (free : Free s t l)
    (new : l ∉ (s.threads t).held) : Moves s t ⟨l :: (s.threads t).held, taken⟩ s.data
  | missed {l taken missed} (h : (s.threads t).todo = .tryLock l taken missed) :
    Moves s t ⟨(s.threads t).held, missed⟩ s.data
  | unlock {l next} (h : (s.threads t).todo = .unlock l next) : Moves s t ⟨(s.threads t).held.erase l, next⟩ s.data
  | store {f next} (h : (s.threads t).todo = .store f next) : Moves s t ⟨(s.threads t).held, next⟩ (f s.data)
  | leave {life next} (h : (s.threads t).todo = .loop life next) (stopped : ¬ S.running life s.data)
    (awake : ¬ S.sleeps life) : Moves s t ⟨(s.threads t).held, next⟩ s.data

/-- `t` waits for a lock that `u` holds. -/
def Waits (s : State L σ T) (t u : T) : Prop :=
  u ≠ t ∧ ∃ l next, (s.threads t).todo = .lock l next ∧ l ∈ (s.threads u).held

/-- `t` is at the head of its loop, holds nothing but its life, and may stay there. -/
def Rests (s : State L σ T) (t : T) : Prop :=
  ∃ life next, s.threads t = ⟨[life], .loop life next⟩ ∧ (S.running life s.data ∨ S.sleeps life)

variable [DecidableEq T]

def State.set (s : State L σ T) (t : T) (θ : Thread L σ) (data : σ) : State L σ T :=
  ⟨Function.update s.threads t θ, data⟩

omit [DecidableEq L] in
@[simp] theorem State.set_data (s : State L σ T) (t : T) (θ : Thread L σ) (data : σ) : (s.set t θ data).data = data :=
  rfl

omit [DecidableEq L] in
@[simp] theorem State.set_self (s : State L σ T) (t : T) (θ : Thread L σ) (data : σ) :
    (s.set t θ data).threads t = θ := Function.update_self ..

omit [DecidableEq L] in
theorem State.set_of_ne (s : State L σ T) {t u : T} (h : u ≠ t) (θ : Thread L σ) (data : σ) :
    (s.set t θ data).threads u = s.threads u := Function.update_of_ne h ..

/-- A step of what is already begun. -/
def Work (s s' : State L σ T) : Prop := ∃ t θ d, Moves S s t θ d ∧ s' = s.set t θ d

/-- A step: work, another pass of a loop, the end of a loop, or the beginning of a program. -/
inductive Step (s : State L σ T) : State L σ T → Prop
  | work {s'} (h : Work S s s') : Step s s'
  | goOn {t life next p} (h : (s.threads t).todo = .loop life next) (running : S.running life s.data)
    (hp : p ∈ S.passes life) : Step s (s.set t ⟨(s.threads t).held, p.andThen (.loop life next)⟩ s.data)
  | leave {t life next} (h : (s.threads t).todo = .loop life next) (stopped : ¬ S.running life s.data) :
    Step s (s.set t ⟨(s.threads t).held, next⟩ s.data)
  | begins {t p} (h : (s.threads t).todo = .done) (hp : p ∈ S.programs t s.data) :
    Step s (s.set t ⟨(s.threads t).held, p⟩ s.data)

def idle (data : σ) : State L σ T := ⟨fun _ => ⟨[], .done⟩, data⟩

omit [DecidableEq L] in
theorem free_set_idle (data data' : σ) (t : T) (θ : Thread L σ) (l : L) : Free ((idle data).set t θ data') t l := by
  intro u hu
  rw [State.set_of_ne _ hu]
  exact List.not_mem_nil

def Reachable (data : σ) (s : State L σ T) : Prop := Relation.ReflTransGen (Step S) (idle data) s

/-- **No deadlock, and an end to all work**: who has a program under way waits, if it cannot move itself, along a chain
of holders for a thread that can or that rests at the head of its loop; work alone never goes on for ever; and where no
work is left, every thread has ended its program and holds nothing, or waits along a chain for a thread that rests. -/
structure Live (s : State L σ T) : Prop where
  progress : ∀ t, (s.threads t).todo ≠ .done → ∃ u, Relation.ReflTransGen (Waits s) t u ∧
    ((∃ θ d, Moves S s u θ d) ∨ Rests S s u)
  finite : Acc (fun b a => Work S a b) s
  settled : ∀ s', Relation.ReflTransGen (Work S) s s' → (∀ s'', ¬ Work S s' s'') →
    ∀ t, s'.threads t = ⟨[], .done⟩ ∨ ∃ u, Relation.ReflTransGen (Waits s') t u ∧ Rests S s' u

/-- **Every program returns**: where no work is left, every thread has ended its program and holds nothing, or rests at
the head of its own loop. -/
def Returns (s : State L σ T) : Prop :=
  ∀ s', Relation.ReflTransGen (Work S) s s' → (∀ s'', ¬ Work S s' s'') →
    ∀ t, s'.threads t = ⟨[], .done⟩ ∨ Rests S s' t

end Steps

/-! ## Programs that keep the order -/

section Order

variable {L : Type u} {σ : Type v} [DecidableEq L] {R : Type x} [Preorder R] (level : L → R) (recursive : L → Prop)

/-- **A program with its order**: what it locks lies below all it holds, a loop holds the life of its thread, and the
program ends with nothing held. -/
def Ordered : List L → Program L σ → Prop
  | held, .done => held = []
  | held, .lock l next =>
    (recursive l ∧ l ∈ held ∨ ∀ k ∈ held, level l < level k) ∧ Ordered (l :: held) next
  | held, .tryLock l taken missed => l ∉ held ∧ Ordered (l :: held) taken ∧ Ordered held missed
  | held, .unlock l next => l ∈ held ∧ Ordered (held.erase l) next
  | held, .store _ next => Ordered held next
  | held, .loop life next => held = [life] ∧ Ordered held next

/-- `p` keeps the order from `held` on and gives back what it takes. -/
def Fits (held : List L) (p : Program L σ) : Prop :=
  ∀ q, Ordered level recursive held q → Ordered level recursive held (p.andThen q)

variable {level recursive} {held : List L}

theorem Fits.ordered {p : Program L σ} (h : Fits level recursive [] p) : Ordered level recursive [] p := by
  have := h .done rfl
  rwa [andThen_done] at this

theorem fits_done : Fits level recursive held (.done : Program L σ) := fun _ h => h

theorem Fits.andThen {p q : Program L σ} (hp : Fits level recursive held p) (hq : Fits level recursive held q) :
    Fits level recursive held (p.andThen q) := by
  intro r hr
  rw [andThen_assoc]
  exact hp _ (hq r hr)

theorem fits_store {f : σ → σ} {p : Program L σ} (hp : Fits level recursive held p) :
    Fits level recursive held (.store f p) := hp

/-- What the end of a scope needs. -/
theorem Fits.closing {l : L} {p q : Program L σ} (hp : Fits level recursive (l :: held) p)
    (hq : Ordered level recursive held q) :
    Ordered level recursive (l :: held) ((p.andThen (.unlock l .done)).andThen q) := by
  rw [andThen_assoc]
  refine hp _ ⟨List.mem_cons_self, ?_⟩
  rw [List.erase_cons_head]
  exact hq

theorem fits_within {l : L} {p : Program L σ} (hl : ∀ k ∈ held, level l < level k)
    (hp : Fits level recursive (l :: held) p) : Fits level recursive held (within l p) :=
  fun _ hq => ⟨Or.inr hl, hp.closing hq⟩

theorem fits_again {l : L} {p : Program L σ} (hr : recursive l) (hl : l ∈ held)
    (hp : Fits level recursive (l :: held) p) : Fits level recursive held (within l p) :=
  fun _ hq => ⟨Or.inl ⟨hr, hl⟩, hp.closing hq⟩

theorem fits_attempt {l : L} {p : Program L σ} (hl : l ∉ held) (hp : Fits level recursive (l :: held) p) :
    Fits level recursive held (attempt l p) :=
  fun _ hq => ⟨hl, hp.closing hq, hq⟩

theorem fits_looping {life : L} {after : Program L σ} (h : Fits level recursive [life] after) :
    Fits level recursive [] (looping life after) :=
  fits_within (by simp) fun q hq => ⟨rfl, h q hq⟩

theorem fits_each {α : Type w} {xs : List α} {body : α → Program L σ}
    (h : ∀ x ∈ xs, Fits level recursive held (body x)) : Fits level recursive held (each xs body) := by
  induction xs with
  | nil => exact fits_done
  | cons x xs ih =>
    exact (h x List.mem_cons_self).andThen (ih fun y hy => h y (List.mem_cons_of_mem x hy))

end Order

/-! ### Levels that are numbers -/

section Levels

variable {L : Type u} {σ : Type v} [DecidableEq L] (level : L → Nat) (recursive : L → Prop)

/-- `p` keeps the order wherever only locks of level `n` or more are held. -/
def FitsBelow (p : Program L σ) (n : Nat) : Prop :=
  ∀ held, (∀ k ∈ held, n ≤ level k) → Fits level recursive held p

variable {level recursive} {m n : Nat} {p q : Program L σ}

theorem FitsBelow.mono (h : FitsBelow level recursive p m) (hmn : m ≤ n) : FitsBelow level recursive p n :=
  fun held hheld => h held fun k hk => hmn.trans (hheld k hk)

theorem fitsBelow_done : FitsBelow level recursive (.done : Program L σ) n := fun _ _ => fits_done

theorem FitsBelow.andThen (hp : FitsBelow level recursive p n) (hq : FitsBelow level recursive q n) :
    FitsBelow level recursive (p.andThen q) n :=
  fun held hheld => (hp held hheld).andThen (hq held hheld)

theorem fitsBelow_store {f : σ → σ} (hp : FitsBelow level recursive p n) : FitsBelow level recursive (.store f p) n :=
  fun held hheld => fits_store (hp held hheld)

theorem fitsBelow_each {α : Type w} {xs : List α} {body : α → Program L σ}
    (h : ∀ x, FitsBelow level recursive (body x) n) : FitsBelow level recursive (each xs body) n :=
  fun held hheld => fits_each fun x _ => h x held hheld

theorem fitsBelow_ite {c : Bool} (hp : FitsBelow level recursive p n) (hq : FitsBelow level recursive q n) :
    FitsBelow level recursive (if c then p else q) n := by
  cases c
  · exact hq
  · exact hp

/-- A scope keeps the order above its lock if its body does from its lock on. -/
theorem fitsBelow_within {l : L} (hp : FitsBelow level recursive p (level l)) :
    FitsBelow level recursive (within l p) (level l + 1) := by
  intro held hheld
  refine fits_within hheld (hp _ fun k hk => ?_)
  rcases List.mem_cons.1 hk with rfl | hk
  · exact le_rfl
  · exact (Nat.le_succ _).trans (hheld k hk)

end Levels

/-! ## The invariant -/

section Invariant

variable {L : Type u} {σ : Type v} {T : Type w} [DecidableEq L] {R : Type x} [Preorder R] (level : L → R)

/-- Every program and every pass keeps the order. -/
structure System.Fitting (S : System L σ T) : Prop where
  programs : ∀ t data, ∀ p ∈ S.programs t data, Fits level S.recursive [] p
  passes : ∀ life, ∀ p ∈ S.passes life, Fits level S.recursive [life] p

variable (S : System L σ T)

/-- Every thread keeps the order and no lock has two holders. -/
structure Safe (s : State L σ T) : Prop where
  ordered : ∀ t, Ordered level S.recursive (s.threads t).held (s.threads t).todo
  exclusive : ∀ t u l, t ≠ u → l ∈ (s.threads t).held → l ∉ (s.threads u).held

variable {level S} {s : State L σ T}

theorem safe_idle (data : σ) : Safe level S (idle data) :=
  ⟨fun _ => rfl, fun _ _ _ _ h => absurd h List.not_mem_nil⟩

theorem Safe.free (hs : Safe level S s) (t : T) {l : L} (hl : l ∈ (s.threads t).held) : Free s t l :=
  fun u hu => hs.exclusive t u l hu.symm hl

variable [DecidableEq T]

/-- A thread that changes keeps a safe state safe if it keeps its order and holds nothing of another's. -/
theorem Safe.set (hs : Safe level S s) (t : T) {θ : Thread L σ} (d : σ)
    (hθ : Ordered level S.recursive θ.held θ.todo) (hl : ∀ l ∈ θ.held, Free s t l) :
    Safe level S (s.set t θ d) := by
  constructor
  · intro u
    by_cases hu : u = t
    · rw [hu, State.set_self]
      exact hθ
    · rw [State.set_of_ne s hu]
      exact hs.ordered u
  · intro u u' l hne hl₁ hl₂
    by_cases hu : u = t
    · rw [hu, State.set_self] at hl₁
      have hu' : u' ≠ t := fun h => hne (hu.trans h.symm)
      rw [State.set_of_ne s hu'] at hl₂
      exact hl l hl₁ u' hu' hl₂
    · rw [State.set_of_ne s hu] at hl₁
      by_cases hu' : u' = t
      · rw [hu', State.set_self] at hl₂
        exact hl l hl₂ u hu hl₁
      · rw [State.set_of_ne s hu'] at hl₂
        exact hs.exclusive u u' l hne hl₁ hl₂

/-- A thread that goes on with what it holds. -/
theorem Safe.goesOn (hs : Safe level S s) (t : T) {p : Program L σ} (d : σ)
    (hp : Ordered level S.recursive (s.threads t).held p) : Safe level S (s.set t ⟨(s.threads t).held, p⟩ d) :=
  hs.set t d hp fun _ hk => hs.free t hk

theorem Safe.moves (hs : Safe level S s) {t : T} {θ : Thread L σ} {d : σ} (h : Moves S s t θ d) :
    Safe level S (s.set t θ d) := by
  have ht := hs.ordered t
  have htakes : ∀ {l : L}, Free s t l → ∀ k ∈ l :: (s.threads t).held, Free s t k := by
    intro l free k hk
    rcases List.mem_cons.1 hk with rfl | hk
    · exact free
    · exact hs.free t hk
  cases h with
  | lock hp free again =>
    rw [hp] at ht
    exact hs.set t _ ht.2 (htakes free)
  | taken hp free new =>
    rw [hp] at ht
    exact hs.set t _ ht.2.1 (htakes free)
  | missed hp =>
    rw [hp] at ht
    exact hs.goesOn t _ ht.2.2
  | unlock hp =>
    rw [hp] at ht
    exact hs.set t _ ht.2 fun k hk => hs.free t (List.mem_of_mem_erase hk)
  | store hp =>
    rw [hp] at ht
    exact hs.goesOn t _ ht
  | leave hp stopped awake =>
    rw [hp] at ht
    exact hs.goesOn t _ ht.2

theorem Safe.work {s' : State L σ T} (hs : Safe level S s) (h : Work S s s') : Safe level S s' := by
  obtain ⟨t, θ, d, hm, rfl⟩ := h
  exact hs.moves hm

theorem Safe.step (hS : S.Fitting level) {s' : State L σ T} (hs : Safe level S s) (h : Step S s s') :
    Safe level S s' := by
  cases h with
  | work h => exact hs.work h
  | @goOn t life next p htodo running hp =>
    have ht := hs.ordered t
    rw [htodo] at ht
    refine hs.goesOn t _ ?_
    rw [ht.1]
    exact hS.passes life p hp _ (ht.1 ▸ ht)
  | @leave t life next htodo stopped =>
    have ht := hs.ordered t
    rw [htodo] at ht
    exact hs.goesOn t _ ht.2
  | @begins t p htodo hp =>
    have ht : (s.threads t).held = [] := by
      have := hs.ordered t
      rwa [htodo] at this
    refine hs.goesOn t _ ?_
    rw [ht]
    exact (hS.programs t s.data p hp).ordered

theorem safe_of_reachable (hS : S.Fitting level) {data : σ} (h : Reachable S data s) : Safe level S s := by
  induction h with
  | refl => exact safe_idle data
  | tail _ hstep ih => exact ih.step hS hstep

theorem Safe.works {s' : State L σ T} (hs : Safe level S s) (h : Relation.ReflTransGen (Work S) s s') :
    Safe level S s' := by
  induction h with
  | refl => exact hs
  | tail _ hwork ih => exact ih.work hwork

end Invariant

/-! ## No deadlock -/

section Live

variable {L : Type u} {σ : Type v} {T : Type w} [DecidableEq L] {R : Type x} [Preorder R] {level : L → R}
  {S : System L σ T} {s : State L σ T}

/-- A thread under way that does not wait for a lock can move, or it rests. -/
theorem Safe.moves_or_waits (hs : Safe level S s) {t : T} (ht : (s.threads t).todo ≠ .done) :
    ((∃ θ d, Moves S s t θ d) ∨ Rests S s t) ∨
      ∃ l next u, (s.threads t).todo = .lock l next ∧ u ≠ t ∧ l ∈ (s.threads u).held := by
  have ho := hs.ordered t
  cases hp : (s.threads t).todo with
  | done => exact absurd hp ht
  | tryLock l taken missed => exact Or.inl (Or.inl ⟨_, _, .missed hp⟩)
  | unlock l next => exact Or.inl (Or.inl ⟨_, _, .unlock hp⟩)
  | store f next => exact Or.inl (Or.inl ⟨_, _, .store hp⟩)
  | loop life next =>
    rw [hp] at ho
    refine Or.inl ?_
    by_cases hstay : S.running life s.data ∨ S.sleeps life
    · refine Or.inr ⟨life, next, ?_, hstay⟩
      cases hst : s.threads t with
      | mk held todo =>
        rw [hst] at ho hp
        exact congrArg₂ Thread.mk ho.1 hp
    · obtain ⟨hstopped, hawake⟩ := not_or.1 hstay
      exact Or.inl ⟨_, _, .leave hp hstopped hawake⟩
  | lock l next =>
    rw [hp] at ho
    by_cases hfree : Free s t l
    · refine Or.inl (Or.inl ⟨_, _, .lock hp hfree fun hl => ?_⟩)
      rcases ho.1 with ⟨hr, -⟩ | hlt
      · exact hr
      · exact absurd (hlt l hl) (lt_irrefl _)
    · simp only [Free, not_forall, not_not] at hfree
      obtain ⟨u, hu, hl⟩ := hfree
      exact Or.inr ⟨l, next, u, rfl, hu, hl⟩

/-- The lock a holder waits for lies below the lock it holds. -/
theorem Safe.level_lt (hs : Safe level S s) {t u : T} {k l : L} {next : Program L σ} (hk : k ∈ (s.threads t).held)
    (ht : (s.threads t).todo = .lock l next) (hu : u ≠ t) (hl : l ∈ (s.threads u).held) : level l < level k := by
  have ho := hs.ordered t
  rw [ht] at ho
  rcases ho.1 with ⟨-, hmem⟩ | hlt
  · exact absurd hl (hs.free t hmem u hu)
  · exact hlt k hk

theorem Safe.todo_ne_done (hs : Safe level S s) {t : T} {l : L} (hl : l ∈ (s.threads t).held) :
    (s.threads t).todo ≠ .done := by
  intro hdone
  have ho := hs.ordered t
  rw [hdone] at ho
  rw [ho] at hl
  exact List.not_mem_nil hl

variable [WellFoundedLT R]

/-- From the holder of `l`, a chain of holders leads to a thread that can move or rests: along it the levels go down. -/
theorem Safe.holder_leads (hs : Safe level S s) (l : L) : ∀ t, l ∈ (s.threads t).held →
    ∃ u, Relation.ReflTransGen (Waits s) t u ∧ ((∃ θ d, Moves S s u θ d) ∨ Rests S s u) := by
  have hwf : WellFounded fun a b : L => level a < level b := InvImage.wf level wellFounded_lt
  induction l using hwf.induction with
  | _ l ih =>
    intro t hl
    rcases hs.moves_or_waits (hs.todo_ne_done hl) with hm | ⟨k, next, u, hp, hu, hk⟩
    · exact ⟨t, .refl, hm⟩
    · obtain ⟨v, huv, hm⟩ := ih k (hs.level_lt hl hp hu hk) u hk
      exact ⟨v, .head ⟨hu, k, next, hp, hk⟩ huv, hm⟩

theorem Safe.progress (hs : Safe level S s) {t : T} (ht : (s.threads t).todo ≠ .done) :
    ∃ u, Relation.ReflTransGen (Waits s) t u ∧ ((∃ θ d, Moves S s u θ d) ∨ Rests S s u) := by
  rcases hs.moves_or_waits ht with hm | ⟨k, next, u, hp, hu, hk⟩
  · exact ⟨t, .refl, hm⟩
  · obtain ⟨v, huv, hm⟩ := hs.holder_leads k u hk
    exact ⟨v, .head ⟨hu, k, next, hp, hk⟩ huv, hm⟩

variable [DecidableEq T]

theorem Safe.settled (hs : Safe level S s) (hend : ∀ s', ¬ Work S s s') (t : T) :
    s.threads t = ⟨[], .done⟩ ∨ ∃ u, Relation.ReflTransGen (Waits s) t u ∧ Rests S s u := by
  by_cases hdone : (s.threads t).todo = .done
  · refine Or.inl ?_
    have ho := hs.ordered t
    rw [hdone] at ho
    cases hst : s.threads t with
    | mk held todo =>
      rw [hst] at ho hdone
      exact congrArg₂ Thread.mk ho hdone
  · obtain ⟨u, hchain, ⟨θ, d, hm⟩ | hrests⟩ := hs.progress hdone
    · exact absurd ⟨u, θ, d, hm, rfl⟩ (hend _)
    · exact Or.inr ⟨u, hchain, hrests⟩

end Live

/-! ## An end to all work -/

section Settles

variable {L : Type u} {σ : Type v} {T : Type w} [DecidableEq L] {S : System L σ T} {s : State L σ T}

theorem Moves.length_lt {t : T} {θ : Thread L σ} {d : σ} (h : Moves S s t θ d) :
    θ.todo.length < (s.threads t).todo.length := by
  cases h with
  | lock hp _ _ => rw [hp]; exact Nat.lt_succ_self _
  | taken hp _ _ => rw [hp, Program.length]; exact Nat.lt_succ_of_le (Nat.le_add_right _ _)
  | missed hp => rw [hp, Program.length]; exact Nat.lt_succ_of_le (Nat.le_add_left _ _)
  | unlock hp => rw [hp]; exact Nat.lt_succ_self _
  | store hp => rw [hp]; exact Nat.lt_succ_self _
  | leave hp _ _ => rw [hp]; exact Nat.lt_succ_self _

variable [DecidableEq T] [Fintype T]

/-- What is left of all programs. -/
def left (s : State L σ T) : Nat := ∑ t, (s.threads t).todo.length

theorem left_lt_of_work {s' : State L σ T} (h : Work S s s') : left s' < left s := by
  obtain ⟨t, θ, d, hm, rfl⟩ := h
  refine Finset.sum_lt_sum (fun u _ => ?_) ⟨t, Finset.mem_univ t, ?_⟩
  · by_cases hu : u = t
    · rw [hu, State.set_self]
      exact hm.length_lt.le
    · rw [State.set_of_ne s hu]
  · rw [State.set_self]
    exact hm.length_lt

theorem work_wellFounded : WellFounded fun b a : State L σ T => Work S a b :=
  Subrelation.wf left_lt_of_work (InvImage.wf left Nat.lt_wfRel.wf)

variable {R : Type x} [Preorder R] [WellFoundedLT R] {level : L → R}

/-- **Ordered locks keep a system live**, in every state it reaches. -/
theorem live_of_fits (hS : S.Fitting level) {data : σ} (h : Reachable S data s) : Live S s := by
  have hs := safe_of_reachable hS h
  exact ⟨fun _ ht => hs.progress ht, work_wellFounded.apply s, fun _ hw hend => (hs.works hw).settled hend⟩

end Settles

/-! ## What the data say where a thread waits -/

section Okay

variable {L : Type u} {σ : Type v} {T : Type w} (okay : T → L → σ → Prop) (own : T → L → Prop) (t : T)

/-- Nothing is stored any more, every lock may be waited for whatever the data are, and the loops are the thread's. -/
def Silent : Program L σ → Prop
  | .done => True
  | .lock l next => (∀ d, okay t l d) ∧ Silent next
  | .tryLock _ taken missed => Silent taken ∧ Silent missed
  | .unlock _ next => Silent next
  | .store _ _ => False
  | .loop life next => own t life ∧ Silent next

/-- From data with `A` on, every lock is waited for with data for which it may be, if no other thread stores. -/
def Proper : Program L σ → (σ → Prop) → Prop
  | .done, _ => True
  | .lock l next, A => (∀ d, A d → okay t l d) ∧ Proper next A
  | .tryLock _ taken missed, A => Proper taken A ∧ Proper missed A
  | .unlock _ next, A => Proper next A
  | .store f next, A => Proper next fun d => ∃ d₀, A d₀ ∧ f d₀ = d
  | .loop life next, A => own t life ∧ Proper next A

variable {okay own t} {p q : Program L σ}

theorem Silent.proper : ∀ {p : Program L σ}, Silent okay own t p → ∀ A, Proper okay own t p A
  | .done, _, _ => trivial
  | .lock _ _, h, A => ⟨fun d _ => h.1 d, h.2.proper A⟩
  | .tryLock _ _ _, h, A => ⟨h.1.proper A, h.2.proper A⟩
  | .unlock _ next, h, A => Silent.proper (p := next) h A
  | .loop _ _, h, A => ⟨h.1, h.2.proper A⟩

theorem Silent.andThen : ∀ {p : Program L σ}, Silent okay own t p → Silent okay own t q →
    Silent okay own t (p.andThen q)
  | .done, _, hq => hq
  | .lock _ _, h, hq => ⟨h.1, h.2.andThen hq⟩
  | .tryLock _ _ _, h, hq => ⟨h.1.andThen hq, h.2.andThen hq⟩
  | .unlock _ next, h, hq => Silent.andThen (p := next) h hq
  | .loop _ _, h, hq => ⟨h.1, h.2.andThen hq⟩

/-- A program without stores leaves the data to the next. -/
theorem Silent.andThen_proper {A : σ → Prop} : ∀ {p : Program L σ}, Silent okay own t p → Proper okay own t q A →
    Proper okay own t (p.andThen q) A
  | .done, _, hq => hq
  | .lock _ _, h, hq => ⟨fun d _ => h.1 d, h.2.andThen_proper hq⟩
  | .tryLock _ _ _, h, hq => ⟨h.1.andThen_proper hq, h.2.andThen_proper hq⟩
  | .unlock _ next, h, hq => Silent.andThen_proper (p := next) h hq
  | .loop _ _, h, hq => ⟨h.1, h.2.andThen_proper hq⟩

theorem silent_done : Silent okay own t (.done : Program L σ) := trivial

theorem silent_within {l : L} (hl : ∀ d, okay t l d) (hp : Silent okay own t p) : Silent okay own t (within l p) :=
  ⟨hl, hp.andThen trivial⟩

theorem silent_attempt {l : L} (hp : Silent okay own t p) : Silent okay own t (attempt l p) :=
  ⟨hp.andThen trivial, trivial⟩

theorem silent_looping {life : L} (hl : ∀ d, okay t life d) (hown : own t life) (hp : Silent okay own t p) :
    Silent okay own t (looping life p) :=
  silent_within hl ⟨hown, hp⟩

theorem silent_each {α : Type x} {xs : List α} {body : α → Program L σ} (h : ∀ x, Silent okay own t (body x)) :
    Silent okay own t (each xs body) := by
  induction xs with
  | nil => exact silent_done
  | cons x xs ih => exact (h x).andThen ih

theorem silent_ite {c : Bool} (hp : Silent okay own t p) (hq : Silent okay own t q) :
    Silent okay own t (if c then p else q) := by
  cases c
  · exact hq
  · exact hp

end Okay

section Returns

variable {L : Type u} {σ : Type v} {T : Type w} [DecidableEq L] [DecidableEq T] (S : System L σ T)
  (okay : T → L → σ → Prop) (own : T → L → Prop)

/-- Programs wait properly, whatever the data are when they begin, and passes store nothing. -/
structure System.Waiting : Prop where
  programs : ∀ t data, ∀ p ∈ S.programs t data, Proper okay own t p fun _ => True
  passes : ∀ t life, own t life → ∀ p ∈ S.passes life, Silent okay own t p

/-- Of two threads one has nothing to store, and nothing to wait for that depends on the data. -/
def Alone (s : State L σ T) : Prop :=
  ∀ t u, t ≠ u → Silent okay own t (s.threads t).todo ∨ Silent okay own u (s.threads u).todo

/-- A run in which one thread at a time stores. -/
def ReachableAlone (data : σ) (s : State L σ T) : Prop :=
  Relation.ReflTransGen (fun s s' => Step S s s' ∧ Alone okay own s') (idle data) s

/-- Every thread will wait properly from the data as they are. -/
def Kept (s : State L σ T) : Prop := ∀ t, ∃ A, A s.data ∧ Proper okay own t (s.threads t).todo A

variable {S okay own} {s s' : State L σ T} {data : σ}

theorem reachable_of_alone (h : ReachableAlone S okay own data s) : Reachable S data s :=
  Relation.ReflTransGen.mono (fun _ _ hstep => hstep.1) _ _ h

theorem alone_of_reachableAlone (h : ReachableAlone S okay own data s) : Alone okay own s := by
  rcases Relation.ReflTransGen.cases_tail h with rfl | ⟨_, -, -, halone⟩
  · exact fun _ _ _ => Or.inl trivial
  · exact halone

omit [DecidableEq L] in
/-- A thread that goes on without a store. -/
theorem Kept.set (h : Kept okay own s) {t : T} {θ : Thread L σ}
    (hθ : ∀ A, Proper okay own t (s.threads t).todo A → Proper okay own t θ.todo A) :
    Kept okay own (s.set t θ s.data) := by
  intro u
  obtain ⟨A, hA, hu⟩ := h u
  by_cases hut : u = t
  · subst hut
    exact ⟨A, hA, by rw [State.set_self]; exact hθ A hu⟩
  · exact ⟨A, hA, by rw [State.set_of_ne s hut]; exact hu⟩

theorem Kept.moves (halone : Alone okay own s) (h : Kept okay own s) {t : T} {θ : Thread L σ} {d : σ}
    (hm : Moves S s t θ d) : Kept okay own (s.set t θ d) := by
  cases hm with
  | lock htodo _ _ | leave htodo _ _ =>
    refine h.set fun A hA => ?_
    rw [htodo] at hA
    exact hA.2
  | taken htodo _ _ =>
    refine h.set fun A hA => ?_
    rw [htodo] at hA
    exact hA.1
  | missed htodo =>
    refine h.set fun A hA => ?_
    rw [htodo] at hA
    exact hA.2
  | unlock htodo =>
    refine h.set fun A hA => ?_
    rw [htodo] at hA
    exact hA
  | @store f next htodo =>
    intro u
    by_cases hut : u = t
    · subst hut
      obtain ⟨A, hA, hu⟩ := h u
      rw [htodo] at hu
      rw [State.set_self]
      exact ⟨_, ⟨_, hA, rfl⟩, hu⟩
    · -- the others wait for nothing that depends on the data
      rcases halone u t hut with hsilent | hstores
      · rw [State.set_of_ne s hut]
        exact ⟨fun _ => True, trivial, hsilent.proper _⟩
      · rw [htodo] at hstores
        exact hstores.elim

theorem Kept.step (hS : S.Waiting okay own) (halone : Alone okay own s) (h : Kept okay own s) (hstep : Step S s s') :
    Kept okay own s' := by
  cases hstep with
  | work hwork =>
    obtain ⟨t, θ, d, hm, rfl⟩ := hwork
    exact h.moves halone hm
  | @goOn t life next p htodo _ hp =>
    refine h.set fun A hA => ?_
    rw [htodo] at hA
    exact (hS.passes t life hA.1 p hp).andThen_proper hA
  | leave htodo _ =>
    refine h.set fun A hA => ?_
    rw [htodo] at hA
    exact hA.2
  | @begins t p htodo hp =>
    intro u
    by_cases hut : u = t
    · subst hut
      rw [State.set_self]
      exact ⟨fun _ => True, trivial, hS.programs u s.data p hp⟩
    · rw [State.set_of_ne s hut]
      exact h u

theorem kept_of_reachableAlone (hS : S.Waiting okay own) (h : ReachableAlone S okay own data s) : Kept okay own s := by
  induction h with
  | refl => exact fun _ => ⟨fun _ => True, trivial, trivial⟩
  | tail hrun hstep ih => exact ih.step hS (alone_of_reachableAlone hrun) hstep.1

omit [DecidableEq T] in
theorem Silent.moves {t : T} {θ : Thread L σ} {d : σ} (hm : Moves S s t θ d)
    (h : Silent okay own t (s.threads t).todo) : Silent okay own t θ.todo := by
  cases hm with
  | lock htodo _ _ | leave htodo _ _ | missed htodo =>
    rw [htodo] at h
    exact h.2
  | taken htodo _ _ =>
    rw [htodo] at h
    exact h.1
  | unlock htodo =>
    rw [htodo] at h
    exact h
  | store htodo =>
    rw [htodo] at h
    exact h.elim

theorem Alone.work (h : Alone okay own s) (hwork : Work S s s') : Alone okay own s' := by
  obtain ⟨t, θ, d, hm, rfl⟩ := hwork
  have hkept : ∀ u, Silent okay own u (s.threads u).todo → Silent okay own u ((s.set t θ d).threads u).todo := by
    intro u hu
    by_cases hut : u = t
    · subst hut
      rw [State.set_self]
      exact hu.moves hm
    · rw [State.set_of_ne s hut]
      exact hu
  exact fun u u' hne => (h u u' hne).imp (hkept u) (hkept u')

theorem works_of_alone (hS : S.Waiting okay own) (halone : Alone okay own s) (h : Kept okay own s)
    (hworks : Relation.ReflTransGen (Work S) s s') : Kept okay own s' := by
  have hboth : Alone okay own s' ∧ Kept okay own s' := by
    induction hworks with
    | refl => exact ⟨halone, h⟩
    | tail _ hwork ih => exact ⟨ih.1.work hwork, ih.2.step hS ih.1 (.work hwork)⟩
  exact hboth.2

/-- **Nobody waits for a thread that rests, and so every program returns**, if who waits for the life of another knows
from the data that its loop is to stop, and it does not sleep at its head. -/
theorem returns_of_okay (hS : S.Waiting okay own)
    (hstops : ∀ t u life d, t ≠ u → own u life → okay t life d → ¬ S.running life d ∧ ¬ S.sleeps life)
    (h : ReachableAlone S okay own data s) (hlive : Live S s) : Returns S s := by
  intro s' hworks hend t
  have hkept := works_of_alone hS (alone_of_reachableAlone h) (kept_of_reachableAlone hS h) hworks
  refine (hlive.settled s' hworks hend t).imp_right fun ⟨u, hchain, hrests⟩ => ?_
  rcases Relation.ReflTransGen.cases_tail hchain with rfl | ⟨v, -, hne, l, next, hlock, hheld⟩
  · exact hrests
  · obtain ⟨life, after, hu, hstays⟩ := hrests
    obtain ⟨A, hA, hproper⟩ := hkept v
    obtain ⟨B, -, hloop⟩ := hkept u
    rw [hlock] at hproper
    rw [hu] at hheld hloop
    obtain rfl := List.mem_singleton.1 hheld
    obtain ⟨hstopped, hawake⟩ := hstops v u l s'.data hne.symm hloop.1 (hproper.1 _ hA)
    exact absurd hstays (not_or.2 ⟨hstopped, hawake⟩)

end Returns

end LockOrder
