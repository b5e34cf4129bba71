import Mathlib.Data.List.Chain
import MemsHal.Run
/-!
# CountedLock — a lock that is held while a count is positive

References are taken and given back in any amounts.  The lock is acquired when the first one is taken, and released when
the last one is given back: the log of these calls alternates, and what it says last is whether the count is positive
(`right_step`).  A component whose steps are made of such takings and givings behaves the same (`along_right`).
-/

universe u v

/-- In the log `true` is an acquisition, `false` a release. -/
structure CountedLock where
  count : Nat
  log : List Bool

namespace CountedLock

inductive Op
  | take (n : Nat)
  | give (n : Nat)

/-- Giving back more than there is gives back all. -/
def step (l : CountedLock) : Op → CountedLock
  | .take n => ⟨l.count + n, l.log ++ if l.count = 0 then [true] else []⟩
  | .give n => if l.count = 0 then l else ⟨l.count - n, l.log ++ if l.count - n = 0 then [false] else []⟩

theorem step_give {l : CountedLock} (h : 0 < l.count) (n : Nat) :
    l.step (.give n) = ⟨l.count - n, l.log ++ if l.count - n = 0 then [false] else []⟩ :=
  if_neg (Nat.ne_of_gt h)

def Positive : Op → Prop
  | .take n => 0 < n
  | .give _ => True

/-- **Acquisitions and releases alternate**, starting with an acquisition. -/
structure Alternates (log : List Bool) : Prop where
  chain : log.IsChain (· ≠ ·)
  first : log.head? ≠ some false

def Held (log : List Bool) : Prop := log.getLast? = some true

structure Right (l : CountedLock) : Prop where
  alternates : Alternates l.log
  held : Held l.log ↔ 0 < l.count

theorem alternates_nil : Alternates [] := ⟨.nil, nofun⟩

theorem alternates_concat {log : List Bool} (h : Alternates log) {b : Bool} (hb : Held log ↔ b = false) :
    Alternates (log ++ [b]) where
  chain := by
    apply List.isChain_append.2 ⟨h.chain, .singleton b, ?_⟩
    rintro x hx y hy rfl
    obtain rfl := Option.some.inj hy
    cases b with
    | true => exact absurd (hb.1 hx) Bool.noConfusion
    | false => exact absurd ((hb.2 rfl).symm.trans hx) (by decide)
  first := by
    cases log with
    | cons a log => exact h.first
    | nil =>
      intro hfirst
      obtain rfl := Option.some.inj hfirst
      exact absurd (hb.2 rfl) nofun

theorem held_concat (log : List Bool) (b : Bool) : Held (log ++ [b]) ↔ b = true := by
  unfold Held
  rw [List.getLast?_concat, Option.some.injEq]

theorem held_step {l : CountedLock} (op : Op) (hop : Positive op) (h : Held l.log ↔ 0 < l.count) :
    Held (l.step op).log ↔ 0 < (l.step op).count := by
  cases op with
  | take n =>
    have hn : 0 < n := hop
    unfold step
    dsimp only
    split
    · exact iff_of_true ((held_concat _ _).2 rfl) (by omega)
    · rw [List.append_nil]
      exact iff_of_true (h.2 (by omega)) (by omega)
  | give n =>
    unfold step
    dsimp only
    split
    · exact h
    · dsimp only
      split
      · rw [held_concat]
        exact iff_of_false Bool.noConfusion (by omega)
      · rw [List.append_nil]
        exact iff_of_true (h.2 (by omega)) (by omega)

/-- **An acquisition comes at the first reference, a release at the last.** -/
theorem right_step {l : CountedLock} (op : Op) (hop : Positive op) (h : Right l) : Right (l.step op) where
  alternates := by
    cases op with
    | take n =>
      unfold step
      dsimp only
      split
      · rename_i hzero
        refine alternates_concat h.alternates (iff_of_false (fun hheld => ?_) Bool.noConfusion)
        exact Nat.ne_of_gt (h.held.1 hheld) hzero
      · rw [List.append_nil]
        exact h.alternates
    | give n =>
      unfold step
      dsimp only
      split
      · exact h.alternates
      · dsimp only
        split
        · exact alternates_concat h.alternates (iff_of_true (h.held.2 (by omega)) rfl)
        · rw [List.append_nil]
          exact h.alternates
  held := held_step op hop h.held

/-! ## Components that count -/

section Component

variable {σ : Type u} {ε : Type v} {next : σ → ε → σ} {view : σ → CountedLock} {L : σ → ε → Prop}

/-- One state looks like another after some takings and givings. -/
def Reaches (l l' : CountedLock) : Prop := ∃ ops : List Op, (∀ op ∈ ops, Positive op) ∧ l' = Run.run step l ops

theorem Reaches.refl (l : CountedLock) : Reaches l l := ⟨[], nofun, rfl⟩

theorem Reaches.trans {l l' l'' : CountedLock} (h : Reaches l l') (h' : Reaches l' l'') : Reaches l l'' := by
  obtain ⟨ops, hops, rfl⟩ := h
  obtain ⟨ops', hops', rfl⟩ := h'
  exact ⟨ops ++ ops', List.forall_mem_append.2 ⟨hops, hops'⟩, (Run.run_append l ops ops').symm⟩

theorem Reaches.step (l : CountedLock) {op : Op} (hop : Positive op) : Reaches l (l.step op) :=
  ⟨[op], List.forall_mem_singleton.2 hop, rfl⟩

theorem Reaches.held {l l' : CountedLock} (h : Reaches l l') (hheld : Held l.log ↔ 0 < l.count) :
    Held l'.log ↔ 0 < l'.count := by
  obtain ⟨ops, hops, rfl⟩ := h
  exact Run.run_of_forall (P := fun l : CountedLock => Held l.log ↔ 0 < l.count) (fun _ op => held_step op) ops hops hheld

theorem Reaches.right {l l' : CountedLock} (h : Reaches l l') (hright : Right l) : Right l' := by
  obtain ⟨ops, hops, rfl⟩ := h
  exact Run.run_of_forall (fun _ op => right_step op) ops hops hright

/-- **A component whose steps take and give back references** acquires and releases in turn. -/
theorem along_right (hstep : ∀ s e, L s e → Reaches (view s) (view (next s e))) {s : σ} {es : List ε}
    (h : Right (view s)) (hL : Run.Steps next L s es) : Run.Along next (fun s => Right (view s)) s es :=
  Run.along_of_step (fun s e hs he => (hstep s e he).right hs) h hL

end Component

end CountedLock
