import Mathlib.Order.Bounds.Basic
import Mathlib.Order.Lattice
import Mathlib.Logic.Function.Basic
/-!
# Clients — one rate shared by many clients

Every client of a shared resource is active or not and may have asked for a period; the resource must run at the
smallest period asked for by an active client or wanted by others, the set `base` (a slowest period, or the demands of
clients kept elsewhere).  `IsRate` says so with `IsLeast`, `scanLeast` is the loop that computes it, and
`isRate_activate_iff` tells exactly when switching one client leaves the rate in force right.
-/

universe u v

namespace Least

variable {β : Type u} {α : Type v} [LinearOrder α]

/-- The loop `for (x : l) if (sel x && f x < best) best = f x`. -/
def scanLeast (sel : β → Bool) (f : β → α) (best : α) (l : List β) : α :=
  l.foldl (fun best x => if sel x = true ∧ f x < best then f x else best) best

/-- Adding an element no smaller than one already there changes no least element. -/
theorem isLeast_insert_of_le {S : Set α} {p q r : α} (hq : q ∈ S) (hqp : q ≤ p) :
    IsLeast (insert p S) r ↔ IsLeast S r := by
  constructor
  · rintro ⟨hr, hlb⟩
    refine ⟨?_, fun x hx => hlb (Set.mem_insert_of_mem p hx)⟩
    rcases Set.mem_insert_iff.1 hr with rfl | hr
    · have : q = r := le_antisymm hqp (hlb (Set.mem_insert_of_mem _ hq))
      rwa [← this]
    · exact hr
  · rintro ⟨hr, hlb⟩
    refine ⟨Set.mem_insert_of_mem p hr, fun x hx => ?_⟩
    rcases Set.mem_insert_iff.1 hx with rfl | hx
    · exact le_trans (hlb hq) hqp
    · exact hlb hx

/-- The least element of a set stays least in a union exactly when the set reaches below everything added. -/
theorem isLeast_union_iff {S T : Set α} {r : α} (h : IsLeast S r) :
    IsLeast (S ∪ T) r ↔ ∀ x ∈ T, ∃ q ∈ S, q ≤ x := by
  constructor
  · intro hl x hx
    exact ⟨r, h.1, hl.2 (Or.inr hx)⟩
  · intro hT
    refine ⟨Or.inl h.1, fun x hx => ?_⟩
    rcases hx with hx | hx
    · exact h.2 hx
    · obtain ⟨q, hq, hqx⟩ := hT x hx
      exact le_trans (h.2 hq) hqx

/-- **The scan finds the least** of its start and the selected values. -/
theorem isLeast_scanLeast (sel : β → Bool) (f : β → α) : ∀ (l : List β) (best : α),
    IsLeast {q | q = best ∨ ∃ x ∈ l, sel x = true ∧ f x = q} (scanLeast sel f best l)
  | [], best => by
    refine ⟨Or.inl rfl, fun q hq => ?_⟩
    rcases hq with rfl | ⟨x, hx, -⟩
    · exact le_rfl
    · cases hx
  | x :: l, best => by
    unfold scanLeast
    rw [List.foldl_cons]
    obtain ⟨hm, hlb⟩ := isLeast_scanLeast sel f l (if sel x = true ∧ f x < best then f x else best)
    refine ⟨?_, fun q hq => ?_⟩
    · rcases hm with hm | ⟨y, hy, hsel, hfy⟩
      · unfold scanLeast at hm
        rw [hm]
        split
        · rename_i hx
          exact Or.inr ⟨x, List.mem_cons_self, hx.1, rfl⟩
        · exact Or.inl rfl
      · exact Or.inr ⟨y, List.mem_cons_of_mem x hy, hsel, hfy⟩
    · have hstart : scanLeast sel f (if sel x = true ∧ f x < best then f x else best) l ≤
          if sel x = true ∧ f x < best then f x else best := hlb (Or.inl rfl)
      rcases hq with rfl | ⟨y, hy, hsel, rfl⟩
      · refine le_trans hstart ?_
        split
        · rename_i hx
          exact le_of_lt hx.2
        · exact le_rfl
      · rcases List.mem_cons.1 hy with rfl | hy
        · refine le_trans hstart ?_
          split
          · exact le_rfl
          · rename_i hx
            exact not_lt.1 (fun hlt => hx ⟨hsel, hlt⟩)
        · exact hlb (Or.inr ⟨y, hy, hsel, rfl⟩)

end Least

/-- The clients of one resource: who is active, and what each last asked for. -/
structure Clients (κ : Type u) (α : Type v) where
  active : κ → Bool
  period : κ → Option α

namespace Clients

variable {κ : Type u} {α : Type v}

/-- Nobody is active, nobody asked for anything. -/
def none : Clients κ α := ⟨fun _ => false, fun _ => Option.none⟩

/-- Some client is active. -/
def Running (c : Clients κ α) : Prop := ∃ k, c.active k = true

/-- The periods the resource has to serve. -/
def demands (c : Clients κ α) (base : Set α) : Set α :=
  {p | p ∈ base ∨ ∃ k, c.active k = true ∧ c.period k = some p}

/-- **`r` is the rate the clients need.** -/
def IsRate [LinearOrder α] (c : Clients κ α) (base : Set α) (r : α) : Prop := IsLeast (c.demands base) r

theorem not_running_none : ¬ (none : Clients κ α).Running := by
  rintro ⟨k, hk⟩
  cases hk

/-- With nobody active only the base is served. -/
theorem demands_of_not_running {c : Clients κ α} (base : Set α) (h : ¬ c.Running) : c.demands base = base := by
  ext q
  constructor
  · rintro (hq | ⟨k, hk, -⟩)
    · exact hq
    · exact absurd ⟨k, hk⟩ h
  · exact Or.inl

theorem demands_union (c : Clients κ α) (base others : Set α) :
    c.demands (base ∪ others) = c.demands base ∪ others := by
  ext q
  exact or_right_comm

variable [DecidableEq κ]

def activate (c : Clients κ α) (k : κ) (enable : Bool) : Clients κ α :=
  { c with active := Function.update c.active k enable }

def batch (c : Clients κ α) (k : κ) (p : α) : Clients κ α :=
  { c with period := Function.update c.period k (some p) }

@[simp] theorem activate_active_self (c : Clients κ α) (k : κ) (b : Bool) : (c.activate k b).active k = b := by
  simp [activate]

theorem activate_active_of_ne (c : Clients κ α) {k j : κ} (b : Bool) (h : j ≠ k) :
    (c.activate k b).active j = c.active j := by
  simp [activate, h]

@[simp] theorem activate_period (c : Clients κ α) (k : κ) (b : Bool) : (c.activate k b).period = c.period := rfl

@[simp] theorem batch_active (c : Clients κ α) (k : κ) (p : α) : (c.batch k p).active = c.active := rfl

theorem activate_eq_self (c : Clients κ α) (k : κ) : c.activate k (c.active k) = c := by
  simp [activate]

/-- Switching a client that never asked for a period changes no demand. -/
theorem demands_activate_of_none (c : Clients κ α) (base : Set α) {k : κ} (hk : c.period k = Option.none) (b : Bool) :
    (c.activate k b).demands base = c.demands base := by
  have hiff : ∀ j p, (c.activate k b).active j = true ∧ c.period j = some p ↔
      c.active j = true ∧ c.period j = some p := by
    intro j p
    by_cases hj : j = k
    · subst hj; simp [hk]
    · rw [activate_active_of_ne c b hj]
  simp only [demands, activate_period, hiff]

/-- Activating a client adds its period to the demands of the others. -/
theorem demands_activate_true (c : Clients κ α) (base : Set α) {k : κ} {p : α} (hk : c.period k = some p) :
    (c.activate k true).demands base = insert p ((c.activate k false).demands base) := by
  ext q
  simp only [demands, Set.mem_insert_iff, Set.mem_ofPred_eq, activate_period]
  constructor
  · rintro (hq | ⟨j, hj, hq⟩)
    · exact Or.inr (Or.inl hq)
    · by_cases hjk : j = k
      · subst hjk
        rw [hk, Option.some.injEq] at hq
        exact Or.inl hq.symm
      · rw [activate_active_of_ne c _ hjk] at hj
        exact Or.inr (Or.inr ⟨j, by rw [activate_active_of_ne c _ hjk]; exact hj, hq⟩)
  · rintro (rfl | hq | ⟨j, hj, hq⟩)
    · exact Or.inr ⟨k, by simp, hk⟩
    · exact Or.inl hq
    · have hjk : j ≠ k := by rintro rfl; simp at hj
      rw [activate_active_of_ne c _ hjk] at hj
      exact Or.inr ⟨j, by rw [activate_active_of_ne c _ hjk]; exact hj, hq⟩

variable [LinearOrder α]

/-- Client `k` asks for nothing faster than what the base or some other active client asks for. -/
def Covered (c : Clients κ α) (base : Set α) (k : κ) : Prop :=
  ∀ p, c.period k = some p → ∃ q ∈ (c.activate k false).demands base, q ≤ p

/-- A covered client changes no rate, switched on or off. -/
theorem isRate_activate_of_covered {c : Clients κ α} {base : Set α} {k : κ} (h : c.Covered base k) (b b' : Bool) (r : α) :
    (c.activate k b).IsRate base r ↔ (c.activate k b').IsRate base r := by
  have hfalse : ∀ b, (c.activate k b).IsRate base r ↔ (c.activate k false).IsRate base r := by
    intro b
    cases b with
    | false => exact Iff.rfl
    | true =>
      cases hk : c.period k with
      | none => unfold IsRate; rw [demands_activate_of_none c base hk, demands_activate_of_none c base hk]
      | some p =>
        obtain ⟨q, hq, hqp⟩ := h p hk
        unfold IsRate
        rw [demands_activate_true c base hk]
        exact Least.isLeast_insert_of_le hq hqp
  rw [hfalse b, hfalse b']

/-- A client that is not covered changes the rate, switched on or off. -/
theorem not_isRate_of_not_covered {c : Clients κ α} {base : Set α} {k : κ} (h : ¬ c.Covered base k) {r : α}
    (ht : (c.activate k true).IsRate base r) (hf : (c.activate k false).IsRate base r) : False := by
  simp only [Covered, not_forall, not_exists, not_and, not_le] at h
  obtain ⟨p, hk, hlt⟩ := h
  have hpr : r ≤ p := ht.2 (by rw [demands_activate_true c base hk]; exact Set.mem_insert p _)
  exact absurd hpr (not_le.2 (hlt r hf.1))

/-- **Switching one client keeps the rate in force right exactly when the client is switched already or is covered by
the others.** -/
theorem isRate_activate_iff {c : Clients κ α} {base : Set α} {r : α} (h : c.IsRate base r) (k : κ) (b : Bool) :
    (c.activate k b).IsRate base r ↔ (c.active k = b ∨ c.Covered base k) := by
  constructor
  · intro h'
    by_cases hk : c.active k = b
    · exact Or.inl hk
    · refine Or.inr (Classical.byContradiction (fun hcov => ?_))
      rw [← activate_eq_self c k] at h
      cases b with
      | true => exact not_isRate_of_not_covered hcov h' (by simpa [hk] using h)
      | false => exact not_isRate_of_not_covered hcov (by simpa [hk] using h) h'
  · rintro (rfl | hcov)
    · rwa [activate_eq_self]
    · rw [isRate_activate_of_covered hcov b (c.active k), activate_eq_self]
      exact h

end Clients
