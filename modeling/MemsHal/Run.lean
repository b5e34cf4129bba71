/-!
# Run — runs of a deterministic step function

A component is a state `σ`, operations `ε` and a total `step : σ → ε → σ`; concurrency is an arbitrary list of
operations, each atomic.  `Along step P s es` says that `P` holds in the first state and after every operation, and
`Steps step C s es` that every operation meets `C` in the state it is issued in.  `along_of_step` carries an invariant
from one step to a run; `along_iff_steps` and `steps_iff_steps` turn a condition exact for one step into one exact for
runs.
-/
namespace Run

universe u v w

variable {σ : Type u} {ε : Type v} {step : σ → ε → σ}

/-- The state a list of operations leads to. -/
def run (step : σ → ε → σ) (s : σ) (es : List ε) : σ := es.foldl step s

/-- **`P` along a run**: in its first state and after every operation. -/
def Along (step : σ → ε → σ) (P : σ → Prop) : σ → List ε → Prop
  | s, []      => P s
  | s, e :: es => P s ∧ Along step P (step s e) es

/-- **Every operation of a run meets `C`** in the state it is issued in. -/
def Steps (step : σ → ε → σ) (C : σ → ε → Prop) : σ → List ε → Prop
  | _, []      => True
  | s, e :: es => C s e ∧ Steps step C (step s e) es

@[simp] theorem run_nil (s : σ) : run step s [] = s := rfl

@[simp] theorem run_cons (s : σ) (e : ε) (es : List ε) : run step s (e :: es) = run step (step s e) es := rfl

theorem run_append (s : σ) (es fs : List ε) : run step s (es ++ fs) = run step (run step s es) fs :=
  List.foldl_append

theorem Along.head {P : σ → Prop} {s : σ} {es : List ε} (h : Along step P s es) : P s := by
  cases es with
  | nil => exact h
  | cons e es => exact h.1

/-- `P` along a run is `P` after each of its prefixes. -/
theorem along_iff_prefixes (P : σ → Prop) : ∀ (es : List ε) (s : σ),
    Along step P s es ↔ ∀ pre post, es = pre ++ post → P (run step s pre)
  | [], s => by
    constructor
    · intro h pre post hs
      obtain ⟨rfl, -⟩ := List.append_eq_nil_iff.1 hs.symm
      exact h
    · intro h
      exact h [] [] rfl
  | e :: es, s => by
    rw [Along, along_iff_prefixes P es (step s e)]
    constructor
    · rintro ⟨h0, h⟩ pre post hs
      cases pre with
      | nil => exact h0
      | cons x pre =>
        simp only [List.cons_append, List.cons.injEq] at hs
        obtain ⟨rfl, hs⟩ := hs
        exact h pre post hs
    · intro h
      exact ⟨h [] (e :: es) rfl, fun pre post hs => h (e :: pre) post (by rw [hs]; rfl)⟩

/-- `P` along a run holds in the state it ends in. -/
theorem Along.last {P : σ → Prop} {s : σ} {es : List ε} (h : Along step P s es) : P (run step s es) :=
  (along_iff_prefixes P es s).1 h es [] (List.append_nil es).symm

theorem Along.imp {P Q : σ → Prop} (hPQ : ∀ s, P s → Q s) : ∀ {es : List ε} {s : σ},
    Along step P s es → Along step Q s es
  | [], s, h => hPQ s h
  | _ :: _, s, h => ⟨hPQ s h.1, Along.imp hPQ h.2⟩

/-- **The invariant rule**: what every legal step preserves holds along every legal run. -/
theorem along_of_step {I : σ → Prop} {L : σ → ε → Prop} (hstep : ∀ s e, I s → L s e → I (step s e)) :
    ∀ {es : List ε} {s : σ}, I s → Steps step L s es → Along step I s es
  | [], _, hI, _ => hI
  | e :: _, s, hI, hL => ⟨hI, along_of_step hstep (hstep s e hI hL.1) hL.2⟩

/-- The invariant rule where every operation is legal. -/
theorem along_of_inv {I : σ → Prop} (hstep : ∀ s e, I s → I (step s e)) :
    ∀ (es : List ε) {s : σ}, I s → Along step I s es
  | [], _, hI => hI
  | e :: es, s, hI => ⟨hI, along_of_inv hstep es (hstep s e hI)⟩

/-- What every legal step from a state with the invariant satisfies, every step of a legal run does. -/
theorem steps_of_step {I : σ → Prop} {L Q : σ → ε → Prop} (hstep : ∀ s e, I s → L s e → I (step s e))
    (hQ : ∀ s e, I s → L s e → Q s e) : ∀ {es : List ε} {s : σ}, I s → Steps step L s es → Steps step Q s es
  | [], _, _, _ => trivial
  | e :: _, s, hI, hL => ⟨hQ s e hI hL.1, steps_of_step hstep hQ (hstep s e hI hL.1) hL.2⟩

/-- What every operation keeps holds in the end. -/
theorem run_of_inv (step : σ → ε → σ) (P : σ → Prop) (hkeep : ∀ s e, P s → P (step s e)) (es : List ε) {s : σ}
    (h : P s) : P (run step s es) :=
  (along_of_inv hkeep es h).last

/-- What the operations of one kind keep holds after a run of them. -/
theorem run_of_forall {P : σ → Prop} {Q : ε → Prop} (hkeep : ∀ s e, Q e → P s → P (step s e)) :
    ∀ (es : List ε) {s : σ}, (∀ e ∈ es, Q e) → P s → P (run step s es)
  | [], _, _, h => h
  | e :: es, s, hQ, h => by
    obtain ⟨he, hrest⟩ := List.forall_mem_cons.1 hQ
    exact run_of_forall hkeep es hrest (hkeep s e he h)

/-- What one operation establishes and every operation keeps holds after any run with that operation. -/
theorem run_of_mem (step : σ → ε → σ) (P : σ → Prop) (hkeep : ∀ s e, P s → P (step s e)) {e : ε}
    (hadd : ∀ s, P (step s e)) : ∀ {es : List ε} (s : σ), e ∈ es → P (run step s es)
  | x :: es, s, hm => by
    rcases List.mem_cons.1 hm with rfl | hm
    · exact run_of_inv step P hkeep es (hadd s)
    · exact run_of_mem step P hkeep hadd (step s x) hm

/-- **A condition exact for one step is exact for runs**: if, under an invariant `I` of the legal steps, `P` survives
a legal step exactly when `C` holds before it, then `P` holds along a legal run exactly when every step meets `C`. -/
theorem along_iff_steps {I P : σ → Prop} {L C : σ → ε → Prop} (hstep : ∀ s e, I s → L s e → I (step s e))
    (hiff : ∀ s e, I s → L s e → P s → (P (step s e) ↔ C s e)) :
    ∀ {es : List ε} {s : σ}, I s → P s → Steps step L s es → (Along step P s es ↔ Steps step C s es)
  | [], _, _, hP, _ => iff_of_true hP trivial
  | e :: es, s, hI, hP, hL => by
    have hI' := hstep s e hI hL.1
    have hone := hiff s e hI hL.1 hP
    constructor
    · rintro ⟨-, h⟩
      have hP' := h.head
      exact ⟨hone.1 hP', (along_iff_steps hstep hiff hI' hP' hL.2).1 h⟩
    · rintro ⟨hC, h⟩
      have hP' := hone.2 hC
      exact ⟨hP, (along_iff_steps hstep hiff hI' hP' hL.2).2 h⟩

/-- A run is legal whose operations are so in every state. -/
theorem steps_of_forall {C : σ → ε → Prop} : ∀ (es : List ε) {s : σ}, (∀ e ∈ es, ∀ s, C s e) → Steps step C s es
  | [], _, _ => trivial
  | e :: es, s, hC => by
    obtain ⟨he, hrest⟩ := List.forall_mem_cons.1 hC
    exact ⟨he s, steps_of_forall es hrest⟩

theorem steps_true (es : List ε) (s : σ) : Steps step (fun _ _ => True) s es :=
  steps_of_forall es fun _ _ _ => trivial

theorem steps_append {C : σ → ε → Prop} (fs : List ε) : ∀ (es : List ε) (s : σ),
    Steps step C s (es ++ fs) ↔ Steps step C s es ∧ Steps step C (run step s es) fs
  | [], _ => (and_iff_right trivial).symm
  | e :: es, s => (and_congr_right fun _ => steps_append fs es (step s e)).trans and_assoc.symm

theorem steps_and {C D : σ → ε → Prop} : ∀ (es : List ε) (s : σ),
    Steps step (fun s e => C s e ∧ D s e) s es ↔ Steps step C s es ∧ Steps step D s es
  | [], _ => iff_of_true trivial ⟨trivial, trivial⟩
  | e :: es, s => (and_congr_right fun _ => steps_and es (step s e)).trans and_and_and_comm

/-- `along_iff_steps` where every operation is legal. -/
theorem along_iff_steps' {I P : σ → Prop} {C : σ → ε → Prop} (hstep : ∀ s e, I s → I (step s e))
    (hiff : ∀ s e, I s → P s → (P (step s e) ↔ C s e)) (es : List ε) {s : σ} (hI : I s) (hP : P s) :
    Along step P s es ↔ Steps step C s es :=
  along_iff_steps (L := fun _ _ => True) (fun s e h _ => hstep s e h) (fun s e h _ => hiff s e h) hI hP
    (steps_true es s)

/-- **The same with a ghost**: the condition may read a state `τ` that carries more than `P` is about, as long as what
links the two is kept while `P` holds. -/
theorem along_iff_steps_ghost {τ : Type w} {ghostStep : τ → ε → τ} {forget : τ → σ} {J : τ → Prop} {P : σ → Prop}
    {C : τ → ε → Prop} (hforget : ∀ t e, forget (ghostStep t e) = step (forget t) e)
    (hstep : ∀ t e, J t → P (forget t) → P (step (forget t) e) → J (ghostStep t e))
    (hiff : ∀ t e, J t → P (forget t) → (P (step (forget t) e) ↔ C t e)) :
    ∀ (es : List ε) {t : τ}, J t → P (forget t) → (Along step P (forget t) es ↔ Steps ghostStep C t es)
  | [], _, _, hP => iff_of_true hP trivial
  | e :: es, t, hJ, hP => by
    have hone := hiff t e hJ hP
    have hrest : P (step (forget t) e) → (Along step P (step (forget t) e) es ↔ Steps ghostStep C (ghostStep t e) es) := by
      intro hP'
      rw [← hforget] at hP' ⊢
      exact along_iff_steps_ghost hforget hstep hiff es (hstep t e hJ hP (hforget t e ▸ hP')) hP'
    constructor
    · rintro ⟨-, h⟩
      exact ⟨hone.1 h.head, (hrest h.head).1 h⟩
    · rintro ⟨hC, h⟩
      exact ⟨hP, (hrest (hone.2 hC)).2 h⟩

/-- **The same for what no step brings back**, seen only in the state a run ends in: if a step leaves `P` exactly where
`P` held and `C` was met, then `P` holds in the end exactly when it did at first and every step meets `C`. -/
theorem run_iff_steps {P : σ → Prop} {C : σ → ε → Prop} (hiff : ∀ s e, P (step s e) ↔ P s ∧ C s e) :
    ∀ (es : List ε) (s : σ), P (run step s es) ↔ P s ∧ Steps step C s es
  | [], s => (and_iff_left (show Steps step C s [] from trivial)).symm
  | e :: es, s => by
    rw [run_cons, run_iff_steps hiff es (step s e), hiff s e, and_assoc]
    rfl

/-- `along_iff_steps` for a property `Q` of the steps themselves: an invariant that every step with `Q` keeps makes `Q`
and a condition exact for one step hold of the same runs. -/
theorem steps_iff_steps {I : σ → Prop} {Q C : σ → ε → Prop} (hstep : ∀ s e, I s → Q s e → I (step s e))
    (hiff : ∀ s e, I s → (Q s e ↔ C s e)) :
    ∀ (es : List ε) {s : σ}, I s → (Steps step Q s es ↔ Steps step C s es)
  | [], _, _ => Iff.rfl
  | e :: es, s, hI => by
    have hone := hiff s e hI
    constructor
    · rintro ⟨hQ, h⟩
      exact ⟨hone.1 hQ, (steps_iff_steps hstep hiff es (hstep s e hI hQ)).1 h⟩
    · rintro ⟨hC, h⟩
      have hQ := hone.2 hC
      exact ⟨hQ, (steps_iff_steps hstep hiff es (hstep s e hI hQ)).2 h⟩

/-- Conditions that agree on the legal steps from a state with the invariant agree on legal runs. -/
theorem steps_congr {I : σ → Prop} {L Q C : σ → ε → Prop} (hstep : ∀ s e, I s → L s e → I (step s e))
    (hiff : ∀ s e, I s → L s e → (Q s e ↔ C s e)) :
    ∀ {es : List ε} {s : σ}, I s → Steps step L s es → (Steps step Q s es ↔ Steps step C s es)
  | [], _, _, _ => Iff.rfl
  | e :: _, s, hI, hL => and_congr (hiff s e hI hL.1) (steps_congr hstep hiff (hstep s e hI hL.1) hL.2)

/-! ## Logs -/

variable {α : Type u} {β : Type v}

/-- What the last entry of a log that says anything about `f` says. -/
def lastOf (f : α → Option β) (log : List α) : Option β := (log.filterMap f).getLast?

theorem lastOf_append (f : α → Option β) (a b : List α) : lastOf f (a ++ b) = (lastOf f b).or (lastOf f a) := by
  unfold lastOf
  rw [List.filterMap_append, List.getLast?_append]

theorem lastOf_cons (f : α → Option β) (a : α) (log : List α) : lastOf f (a :: log) = (lastOf f log).or (f a) := by
  have hone : lastOf f [a] = f a := by
    unfold lastOf
    rw [List.filterMap_cons]
    cases f a <;> rfl
  rw [← List.singleton_append, lastOf_append, hone]

end Run
