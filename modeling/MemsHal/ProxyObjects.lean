import Mathlib.Algebra.BigOperators.Group.Multiset.Basic
import MemsHal.ProxyWakelock
/-!
# ProxyObjects — `multihal/2.X/ScopedWakelock.cpp`: who owns a reference

A reference is the time of the increment that made it, and the objects that are locked own theirs.  The move assignment
copies three fields and clears the source, without a look at the target: what the target owned is owned by no one
afterwards and never given back (`owned_moveAssign`).  The move constructor is the same assignment to fresh storage.
-/
namespace MemsHal
namespace MultiHal

open Run (Along Steps)

/-! ## Objects -/

/-- A `ScopedWakelock` with all its fields; `mRefCounter` tells whether the pointer is not null. -/
structure WakelockObject extends ScopedWakelock where
  mRefCounter : Bool
  deriving DecidableEq, Repr

/-- A proxy and the storage of the objects, `none` where the lifetime of one is over; `increments` and `decrements` have
the times that constructors got from successful increments and those that destructors passed. -/
structure Objects where
  proxy : HalProxy
  objects : List (Option WakelockObject)
  increments : Multiset Int
  decrements : Multiset Int

/-- The statements of a program; objects are named by the order of their construction.  `storage` is what the place of
a new object held before. -/
inductive ObjectOp
  | createScopedWakelock (lock : Bool) (now : Int)
  | moveConstruct (other : Nat) (storage : WakelockObject)
  | moveAssign (target other : Nat)
  | destroy (i : Nat)

namespace Objects

/-- `operator=` on the object at `target`, of which the object at `other` may be the same. -/
def assign (objects : List (Option WakelockObject)) (target other : Nat) : List (Option WakelockObject) :=
  match objects[other]? with
  | some (some source) => (objects.set target (some source)).set other (some ⟨⟨0, false⟩, false⟩)
  | _                  => objects

def step (s : Objects) : ObjectOp → Objects
  | .createScopedWakelock lock now =>
    let (wakelock, proxy, _) := s.proxy.createScopedWakelock lock now
    { s with
      proxy := proxy
      objects := s.objects ++ [some ⟨wakelock, true⟩]
      increments := s.increments + if wakelock.mLocked then {wakelock.mCreatedAtTimeNs} else 0 }
  | .moveConstruct other storage =>
    match s.objects[other]? with
    | some (some _) => { s with objects := assign (s.objects ++ [some storage]) s.objects.length other }
    | _             => s
  | .moveAssign target other =>
    match s.objects[target]?, s.objects[other]? with
    | some (some _), some (some _) => { s with objects := assign s.objects target other }
    | _, _                         => s
  | .destroy i =>
    match s.objects[i]? with
    | some (some object) =>
      { s with
        proxy := (s.proxy.destroyScopedWakelock object.toScopedWakelock).1
        objects := s.objects.set i none
        decrements := s.decrements + if object.mLocked then {object.mCreatedAtTimeNs} else 0 }
    | _ => s

/-- A running proxy before its program. -/
def start (p : HalProxy) : Objects := ⟨{ p with mThreadsRun := true }, [], 0, 0⟩

/-! ## References -/

/-- The reference of the object in a place. -/
def reference : Option WakelockObject → Multiset Int
  | some object => if object.mLocked then {object.mCreatedAtTimeNs} else 0
  | none        => 0

/-- The references of the objects in a list of places. -/
def references (objects : List (Option WakelockObject)) : Multiset Int := (objects.map reference).sum

/-- The references that an object owns. -/
def owned (s : Objects) : Multiset Int := references s.objects

/-- **References are linear.**
* Every successful increment is matched by a decrement or owned by one object.
* The count is that of the references owned, on top of what it was.
* When all objects are destroyed it is what it was. -/
structure Linear (initial : Nat) (s : Objects) : Prop where
  matched : s.increments = s.decrements + s.owned
  count : s.proxy.mWakelockRefCount = initial + Multiset.card s.owned
  restored : (∀ place ∈ s.objects, place = none) → s.proxy.mWakelockRefCount = initial

/-- The step takes no reference from its owner, and the one that it gives back is not from before the last reset.
* The target of a move assignment is not locked, be it the source itself.
* A locked object that is destroyed was created at a time no earlier than that of the last reset. -/
def KeepsReferences (s : Objects) : ObjectOp → Prop
  | .moveAssign target other =>
    ∀ object source, s.objects[target]? = some (some object) → s.objects[other]? = some (some source) →
      object.mLocked = false
  | .destroy i =>
    ∀ object, s.objects[i]? = some (some object) → object.mLocked = true → ¬ s.proxy.Stale object.mCreatedAtTimeNs
  | _ => True

theorem references_append (objects more : List (Option WakelockObject)) :
    references (objects ++ more) = references objects + references more := by
  unfold references
  rw [List.map_append, List.sum_append]

theorem references_singleton (place : Option WakelockObject) : references [place] = reference place := by
  unfold references
  rw [List.map_singleton, List.sum_singleton]

theorem references_set (b : Option WakelockObject) : ∀ (objects : List (Option WakelockObject)) {i : Nat}
    {a : Option WakelockObject}, objects[i]? = some a →
    references (objects.set i b) + reference a = references objects + reference b
  | [], i, a, h => by cases h
  | place :: objects, 0, a, h => by
    cases h
    unfold references
    rw [List.set_cons_zero, List.map_cons, List.map_cons, List.sum_cons, List.sum_cons]
    rw [add_comm (reference b), add_right_comm, add_comm _ (reference place)]
  | place :: objects, i + 1, a, h => by
    have ih := references_set b objects (i := i) h
    unfold references at ih ⊢
    rw [List.set_cons_succ, List.map_cons, List.map_cons, List.sum_cons, List.sum_cons, add_assoc, ih, add_assoc]

/-- **A move assignment loses what its target owned**, and nothing else. -/
theorem references_assign {objects : List (Option WakelockObject)} {target other : Nat} {place : Option WakelockObject}
    {source : WakelockObject} (htarget : objects[target]? = some place) (hother : objects[other]? = some (some source)) :
    references (assign objects target other) + reference place = references objects := by
  have hset := references_set (some source) objects htarget
  have hcopied : (objects.set target (some source))[other]? = some (some source) := by
    rw [List.getElem?_set]
    split
    · rename_i heq
      subst heq
      have hlt := (List.getElem?_eq_some_iff.1 htarget).1
      rw [if_pos hlt]
    · exact hother
  have hclear := references_set (some ⟨⟨0, false⟩, false⟩) _ hcopied
  unfold assign
  rw [hother]
  dsimp only
  have hzero : reference (some ⟨⟨0, false⟩, false⟩) = 0 := rfl
  rw [hzero, add_zero] at hclear
  rw [← hclear, add_right_comm] at hset
  exact add_right_cancel hset

/-! ## Steps -/

theorem step_moveAssign {s : Objects} {target other : Nat} {object source : WakelockObject}
    (htarget : s.objects[target]? = some (some object)) (hother : s.objects[other]? = some (some source)) :
    s.step (.moveAssign target other) = { s with objects := assign s.objects target other } := by
  simp only [step, htarget, hother]

theorem owned_moveAssign {s : Objects} {target other : Nat} {object source : WakelockObject}
    (htarget : s.objects[target]? = some (some object)) (hother : s.objects[other]? = some (some source)) :
    (s.step (.moveAssign target other)).owned + reference (some object) = s.owned := by
  rw [step_moveAssign htarget hother]
  exact references_assign htarget hother

/-- A step on an object whose lifetime is over, or that was never constructed, is not one of a program. -/
theorem step_moveAssign_cases (s : Objects) (target other : Nat) :
    (∃ object source, s.objects[target]? = some (some object) ∧ s.objects[other]? = some (some source)) ∨
      (s.step (.moveAssign target other) = s ∧
        ∀ object source, s.objects[target]? = some (some object) → s.objects[other]? ≠ some (some source)) := by
  by_cases h : ∃ object source, s.objects[target]? = some (some object) ∧ s.objects[other]? = some (some source)
  · exact Or.inl h
  · refine Or.inr ⟨?_, fun object source htarget hother => h ⟨object, source, htarget, hother⟩⟩
    simp only [step]
    split
    · rename_i object source htarget hother
      exact absurd ⟨object, source, htarget, hother⟩ h
    · rfl

theorem owned_moveConstruct (s : Objects) (other : Nat) (storage : WakelockObject) :
    (s.step (.moveConstruct other storage)).owned = s.owned := by
  simp only [step]
  split
  · rename_i source hother
    have htarget : (s.objects ++ [some storage])[s.objects.length]? = some (some storage) := by simp
    have hother' : (s.objects ++ [some storage])[other]? = some (some source) := by
      rw [List.getElem?_append_left (List.getElem?_eq_some_iff.1 hother).1, hother]
    have hassign := references_assign htarget hother'
    rw [references_append, references_singleton] at hassign
    exact add_right_cancel hassign
  · rfl

theorem proxy_moveConstruct (s : Objects) (other : Nat) (storage : WakelockObject) :
    (s.step (.moveConstruct other storage)).proxy = s.proxy ∧
      (s.step (.moveConstruct other storage)).increments = s.increments ∧
      (s.step (.moveConstruct other storage)).decrements = s.decrements := by
  simp only [step]
  split <;> exact ⟨rfl, rfl, rfl⟩

theorem step_destroy {s : Objects} {i : Nat} {object : WakelockObject} (h : s.objects[i]? = some (some object)) :
    s.step (.destroy i) =
      { s with
        proxy := (s.proxy.destroyScopedWakelock object.toScopedWakelock).1
        objects := s.objects.set i none
        decrements := s.decrements + reference (some object) } := by
  simp only [step, h]
  rfl

theorem owned_destroy {s : Objects} {i : Nat} {object : WakelockObject} (h : s.objects[i]? = some (some object)) :
    (s.step (.destroy i)).owned + reference (some object) = s.owned := by
  rw [step_destroy h]
  have hset := references_set none s.objects h
  rw [show reference none = 0 from rfl, add_zero] at hset
  exact hset

theorem step_destroy_cases (s : Objects) (i : Nat) :
    (∃ object, s.objects[i]? = some (some object)) ∨
      (s.step (.destroy i) = s ∧ ∀ object, s.objects[i]? ≠ some (some object)) := by
  by_cases h : ∃ object, s.objects[i]? = some (some object)
  · exact Or.inl h
  · refine Or.inr ⟨?_, fun object hobject => h ⟨object, hobject⟩⟩
    simp only [step]
    split
    · rename_i object hobject
      exact absurd ⟨object, hobject⟩ h
    · rfl

theorem running_step (s : Objects) (op : ObjectOp) (h : s.proxy.mThreadsRun = true) :
    (s.step op).proxy.mThreadsRun = true := by
  cases op with
  | createScopedWakelock lock now =>
    show (s.proxy.createScopedWakelock lock now).2.1.mThreadsRun = true
    unfold HalProxy.createScopedWakelock HalProxy.incrementRefCountAndMaybeAcquireWakelock
    cases lock with
    | true => rw [if_pos rfl, if_pos h]; exact h
    | false => exact h
  | moveConstruct other storage => rw [(proxy_moveConstruct s other storage).1]; exact h
  | moveAssign target other =>
    rcases s.step_moveAssign_cases target other with ⟨object, source, htarget, hother⟩ | ⟨hsame, -⟩
    · rw [step_moveAssign htarget hother]; exact h
    · rw [hsame]; exact h
  | destroy i =>
    rcases s.step_destroy_cases i with ⟨object, hobject⟩ | ⟨hsame, -⟩
    · rw [step_destroy hobject]
      show (s.proxy.destroyScopedWakelock object.toScopedWakelock).1.mThreadsRun = true
      unfold HalProxy.destroyScopedWakelock
      split
      · rw [HalProxy.decrement_eq]; exact h
      · exact h
    · rw [hsame]; exact h

/-! ## Linearity -/

theorem owned_of_destroyed {s : Objects} (h : ∀ place ∈ s.objects, place = none) : s.owned = 0 := by
  unfold owned references
  have hmap : s.objects.map reference = s.objects.map (fun _ => 0) :=
    List.map_congr_left (fun place hm => by rw [h place hm]; rfl)
  rw [hmap, List.map_const', List.sum_replicate, nsmul_zero]

theorem linear_iff (initial : Nat) (s : Objects) : Linear initial s ↔
    s.increments = s.decrements + s.owned ∧ s.proxy.mWakelockRefCount = initial + Multiset.card s.owned := by
  constructor
  · exact fun h => ⟨h.matched, h.count⟩
  · rintro ⟨hmatched, hcount⟩
    refine ⟨hmatched, hcount, fun hall => ?_⟩
    rw [hcount, owned_of_destroyed hall, Multiset.card_zero, Nat.add_zero]

theorem reference_of_locked {object : WakelockObject} (h : object.mLocked = true) :
    reference (some object) = {object.mCreatedAtTimeNs} := if_pos h

theorem reference_of_unlocked {object : WakelockObject} (h : object.mLocked = false) :
    reference (some object) = 0 := if_neg (by rw [h]; exact Bool.false_ne_true)

theorem linear_createScopedWakelock {initial : Nat} {s : Objects} (hrun : s.proxy.mThreadsRun = true)
    (h : Linear initial s) (lock : Bool) (now : Int) : Linear initial (s.step (.createScopedWakelock lock now)) := by
  have howned : (s.step (.createScopedWakelock lock now)).owned =
      s.owned + reference (some ⟨(s.proxy.createScopedWakelock lock now).1, true⟩) := by
    show references (s.objects ++ [_]) = _
    rw [references_append, references_singleton]
    rfl
  have hincrements : (s.step (.createScopedWakelock lock now)).increments =
      s.increments + reference (some ⟨(s.proxy.createScopedWakelock lock now).1, true⟩) := rfl
  have hdecrements : (s.step (.createScopedWakelock lock now)).decrements = s.decrements := rfl
  have hcount : (s.step (.createScopedWakelock lock now)).proxy.mWakelockRefCount = s.proxy.mWakelockRefCount +
      Multiset.card (reference (some ⟨(s.proxy.createScopedWakelock lock now).1, true⟩)) := by
    show (s.proxy.createScopedWakelock lock now).2.1.mWakelockRefCount = _
    unfold HalProxy.createScopedWakelock HalProxy.incrementRefCountAndMaybeAcquireWakelock
    cases lock with
    | true => rw [if_pos rfl, if_pos hrun]; rfl
    | false => rfl
  apply (linear_iff initial _).2
  rw [hincrements, hdecrements, howned, hcount, h.matched, h.count, Multiset.card_add]
  exact ⟨add_assoc _ _ _, add_assoc _ _ _⟩

theorem linear_moveConstruct {initial : Nat} {s : Objects} (h : Linear initial s) (other : Nat)
    (storage : WakelockObject) : Linear initial (s.step (.moveConstruct other storage)) := by
  obtain ⟨hproxy, hincrements, hdecrements⟩ := proxy_moveConstruct s other storage
  apply (linear_iff initial _).2
  rw [hproxy, hincrements, hdecrements, owned_moveConstruct]
  exact ⟨h.matched, h.count⟩

theorem linear_moveAssign_iff {initial : Nat} {s : Objects} (h : Linear initial s) {target other : Nat}
    {object source : WakelockObject} (htarget : s.objects[target]? = some (some object))
    (hother : s.objects[other]? = some (some source)) :
    Linear initial (s.step (.moveAssign target other)) ↔ object.mLocked = false := by
  have howned := owned_moveAssign htarget hother
  have hstep := step_moveAssign htarget hother
  have hcount : (s.step (.moveAssign target other)).proxy.mWakelockRefCount = s.proxy.mWakelockRefCount := by
    rw [hstep]
  cases hlocked : object.mLocked with
  | false =>
    rw [reference_of_unlocked hlocked, add_zero] at howned
    refine iff_of_true ((linear_iff initial _).2 ⟨?_, ?_⟩) rfl
    · rw [howned, hstep]
      exact h.matched
    · rw [howned, hcount]
      exact h.count
  | true =>
    rw [reference_of_locked hlocked] at howned
    refine iff_of_false (fun hlinear => ?_) Bool.noConfusion
    have hbefore := h.count
    have hafter := hlinear.count
    rw [← howned, Multiset.card_add, Multiset.card_singleton] at hbefore
    omega

theorem matched_destroy {initial : Nat} {s : Objects} (h : Linear initial s) {i : Nat} {object : WakelockObject}
    (hobject : s.objects[i]? = some (some object)) :
    (s.step (.destroy i)).increments = (s.step (.destroy i)).decrements + (s.step (.destroy i)).owned := by
  have hstep := step_destroy hobject
  have hincrements : (s.step (.destroy i)).increments = s.increments := by rw [hstep]
  have hdecrements : (s.step (.destroy i)).decrements = s.decrements + reference (some object) := by rw [hstep]
  rw [hincrements, hdecrements, h.matched, ← owned_destroy hobject, add_assoc, add_comm (reference (some object))]

/-- The destructor of a locked object gives its reference back unless the time of it is from before the last reset. -/
theorem linear_destroy_iff {initial : Nat} {s : Objects} (hrun : s.proxy.mThreadsRun = true) (h : Linear initial s)
    {i : Nat} {object : WakelockObject} (hobject : s.objects[i]? = some (some object)) :
    Linear initial (s.step (.destroy i)) ↔ (object.mLocked = true → ¬ s.proxy.Stale object.mCreatedAtTimeNs) := by
  have howned := owned_destroy hobject
  have hstep := step_destroy hobject
  rw [linear_iff, and_iff_right (matched_destroy h hobject)]
  cases hlocked : object.mLocked with
  | false =>
    rw [reference_of_unlocked hlocked, add_zero] at howned
    have hproxy : (s.step (.destroy i)).proxy = s.proxy := by
      rw [hstep]
      unfold HalProxy.destroyScopedWakelock
      dsimp only
      rw [if_neg (by rw [hlocked]; exact Bool.false_ne_true)]
    rw [howned, hproxy]
    exact iff_of_true h.count (fun hf => Bool.noConfusion hf)
  | true =>
    have hbefore := h.count
    rw [← howned, reference_of_locked hlocked, Multiset.card_add, Multiset.card_singleton] at hbefore
    have hcount : (s.step (.destroy i)).proxy.mWakelockRefCount = s.proxy.remaining 1 object.mCreatedAtTimeNs := by
      rw [hstep]
      unfold HalProxy.destroyScopedWakelock
      dsimp only
      rw [if_pos hlocked, HalProxy.decrement_eq]
    rw [hcount]
    unfold HalProxy.remaining
    by_cases hstale : s.proxy.Stale object.mCreatedAtTimeNs
    · rw [if_neg (fun hr => hr.2 hstale)]
      exact iff_of_false (by omega) (fun hfresh => hfresh rfl hstale)
    · rw [if_pos ⟨hrun, hstale⟩]
      exact iff_of_true (by omega) (fun _ => hstale)

/-- **A step keeps references linear exactly if it takes none from its owner** and gives back none that is stale. -/
theorem linear_step_iff {initial : Nat} (s : Objects) (op : ObjectOp) (hrun : s.proxy.mThreadsRun = true)
    (h : Linear initial s) : Linear initial (s.step op) ↔ KeepsReferences s op := by
  cases op with
  | createScopedWakelock lock now => exact iff_of_true (linear_createScopedWakelock hrun h lock now) trivial
  | moveConstruct other storage => exact iff_of_true (linear_moveConstruct h other storage) trivial
  | moveAssign target other =>
    rcases s.step_moveAssign_cases target other with ⟨object, source, htarget, hother⟩ | ⟨hsame, hnone⟩
    · rw [linear_moveAssign_iff h htarget hother]
      refine ⟨fun hunlocked object' source' htarget' _ => ?_, fun hk => hk object source htarget hother⟩
      cases htarget.symm.trans htarget'
      exact hunlocked
    · rw [hsame]
      exact iff_of_true h (fun object source htarget hother => absurd hother (hnone object source htarget))
  | destroy i =>
    rcases s.step_destroy_cases i with ⟨object, hobject⟩ | ⟨hsame, hnone⟩
    · rw [linear_destroy_iff hrun h hobject]
      refine ⟨fun hfresh object' hobject' => ?_, fun hk => hk object hobject⟩
      cases hobject.symm.trans hobject'
      exact hfresh
    · rw [hsame]
      exact iff_of_true h (fun object hobject => absurd hobject (hnone object))

/-! ## The counter -/

/-- An object that owns a reference has a counter to give it back to. -/
def Reaches (objects : List (Option WakelockObject)) : Prop :=
  ∀ (i : Nat) (object : WakelockObject), objects[i]? = some (some object) → object.mLocked = true →
    object.mRefCounter = true

theorem reaches_set {objects : List (Option WakelockObject)} {target : Nat} {place : Option WakelockObject}
    (h : ∀ i object, i ≠ target → objects[i]? = some (some object) → object.mLocked = true → object.mRefCounter = true)
    (hplace : ∀ object, place = some object → object.mLocked = true → object.mRefCounter = true) :
    Reaches (objects.set target place) := by
  intro i object hi hlocked
  by_cases heq : target = i
  · subst heq
    rw [List.getElem?_set_self'] at hi
    obtain ⟨_, -, rfl⟩ := Option.map_eq_some_iff.1 hi
    exact hplace object rfl hlocked
  · rw [List.getElem?_set_ne heq] at hi
    exact h i object (fun he => heq he.symm) hi hlocked

/-- What the target held before, if it held anything, does not matter. -/
theorem reaches_assign {objects : List (Option WakelockObject)} {target other : Nat} {source : WakelockObject}
    (h : ∀ i object, i ≠ target → objects[i]? = some (some object) → object.mLocked = true → object.mRefCounter = true)
    (hother : objects[other]? = some (some source)) (hsource : source.mLocked = true → source.mRefCounter = true) :
    Reaches (assign objects target other) := by
  have hcopied : Reaches (objects.set target (some source)) :=
    reaches_set h (fun object heq => by cases heq; exact hsource)
  unfold assign
  rw [hother]
  exact reaches_set (fun i object _ hi => hcopied i object hi) (fun object heq hlocked => by cases heq; cases hlocked)

/-- **No destructor reaches for a counter that is not there.** -/
theorem reaches_step (s : Objects) (op : ObjectOp) (h : Reaches s.objects) : Reaches (s.step op).objects := by
  cases op with
  | createScopedWakelock lock now =>
    intro i object hi hlocked
    have hi' : (s.objects ++ [some ⟨(s.proxy.createScopedWakelock lock now).1, true⟩])[i]? = some (some object) := hi
    rw [List.getElem?_append] at hi'
    split at hi'
    · exact h i object hi' hlocked
    · have hm := List.mem_of_getElem? hi'
      cases List.mem_singleton.1 hm
      rfl
  | moveConstruct other storage =>
    simp only [step]
    split
    · rename_i source hother
      refine reaches_assign (fun i object hne hi hlocked => ?_) ?_ (h other source hother)
      · rw [List.getElem?_append] at hi
        split at hi
        · exact h i object hi hlocked
        · have hlt := (List.getElem?_eq_some_iff.1 hi).1
          rw [List.length_singleton] at hlt
          omega
      · rw [List.getElem?_append_left (List.getElem?_eq_some_iff.1 hother).1, hother]
    · exact h
  | moveAssign target other =>
    rcases s.step_moveAssign_cases target other with ⟨object, source, htarget, hother⟩ | ⟨hsame, -⟩
    · rw [step_moveAssign htarget hother]
      exact reaches_assign (fun i object _ hi => h i object hi) hother (h other source hother)
    · rw [hsame]
      exact h
  | destroy i =>
    rcases s.step_destroy_cases i with ⟨object, hobject⟩ | ⟨hsame, -⟩
    · rw [step_destroy hobject]
      exact reaches_set (fun i object _ hi => h i object hi) (fun object heq => by cases heq)
    · rw [hsame]
      exact h

theorem reaches_run (p : HalProxy) (ops : List ObjectOp) : Reaches (Run.run step (start p) ops).objects :=
  Run.run_of_inv step (fun s => Reaches s.objects) reaches_step ops (fun _ _ hi => by cases hi)

/-! ## Programs -/

theorem linear_start (p : HalProxy) : Linear p.mWakelockRefCount (start p) := ⟨rfl, rfl, fun _ => rfl⟩

/-- **References are linear all along a program exactly if every step keeps them.** -/
theorem along_linear_iff (p : HalProxy) (ops : List ObjectOp) :
    Along step (Linear p.mWakelockRefCount) (start p) ops ↔ Steps step KeepsReferences (start p) ops :=
  Run.along_iff_steps' (I := fun s => s.proxy.mThreadsRun = true) running_step
    (fun s op hrun h => linear_step_iff s op hrun h) ops rfl (linear_start p)

/-- Two locked objects; the first is assigned to the second, and both are destroyed. -/
def assignToLocked : List ObjectOp :=
  [.createScopedWakelock true 10, .createScopedWakelock true 20, .moveAssign 1 0, .destroy 0, .destroy 1]

/-- **A lost reference**: the count is one when no object is left. -/
theorem not_along_linear_assignToLocked :
    (Run.run step (start wakeUpProxy) assignToLocked).proxy.mWakelockRefCount = 1 ∧
      (Run.run step (start wakeUpProxy) assignToLocked).objects = [none, none] ∧
      ¬ Along step (Linear 0) (start wakeUpProxy) assignToLocked := by
  have hcount : (Run.run step (start wakeUpProxy) assignToLocked).proxy.mWakelockRefCount = 1 := rfl
  have hobjects : (Run.run step (start wakeUpProxy) assignToLocked).objects = [none, none] := rfl
  refine ⟨hcount, hobjects, fun h => ?_⟩
  have hrestored := h.last.restored (by rw [hobjects]; decide)
  rw [hcount] at hrestored
  exact absurd hrestored (by decide)

end Objects
end MultiHal
end MemsHal
