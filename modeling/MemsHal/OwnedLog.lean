import Mathlib.Algebra.BigOperators.Group.Finset.Piecewise
import Mathlib.Algebra.GroupWithZero.Nat
/-!
# OwnedLog — a log shared by many calls

Each entry of a log belongs to one call, named by a number, or to none.  `own c` is what the call `c` contributed, in
order.  A quantity summed over the log is the sum over the calls of what they contributed (`sum_eq_sum_own`), as long
as entries of no call add nothing.
-/
namespace OwnedLog

universe u

variable {ε : Type u} (owner : ε → Option Nat)

/-- The entries of one call. -/
def own (c : Nat) (log : List ε) : List ε := log.filter (owner · = some c)

@[simp] theorem own_nil (c : Nat) : own owner c [] = [] := rfl

theorem own_append (c : Nat) (log later : List ε) : own owner c (log ++ later) = own owner c log ++ own owner c later :=
  List.filter_append log later

theorem own_cons (c : Nat) (e : ε) (log : List ε) :
    own owner c (e :: log) = if owner e = some c then e :: own owner c log else own owner c log := by
  unfold own
  rw [List.filter_cons]
  simp only [decide_eq_true_eq]

/-- An entry that is appended goes to its owner. -/
theorem own_concat_self {c : Nat} {e : ε} (h : owner e = some c) (log : List ε) :
    own owner c (log ++ [e]) = own owner c log ++ [e] := by
  rw [own_append, own_cons, own_nil, if_pos h]

theorem own_concat_other {c : Nat} {e : ε} (h : owner e ≠ some c) (log : List ε) :
    own owner c (log ++ [e]) = own owner c log := by
  rw [own_append, own_cons, own_nil, if_neg h, List.append_nil]

theorem mem_own {c : Nat} {e : ε} {log : List ε} : e ∈ own owner c log ↔ e ∈ log ∧ owner e = some c := by
  unfold own
  rw [List.mem_filter, decide_eq_true_eq]

/-- **A sum over the log is the sum over its calls.** -/
theorem sum_eq_sum_own (f : ε → Nat) (n : Nat) : ∀ (log : List ε),
    (∀ e ∈ log, f e = 0 ∨ ∃ c < n, owner e = some c) →
    (log.map f).sum = ∑ c ∈ Finset.range n, ((own owner c log).map f).sum
  | [], _ => by simp
  | e :: log, h => by
    have ih := sum_eq_sum_own f n log (fun e hm => h e (List.mem_cons_of_mem _ hm))
    have hcons : ∀ c, ((own owner c (e :: log)).map f).sum =
        (if owner e = some c then f e else 0) + ((own owner c log).map f).sum := by
      intro c
      rw [own_cons]
      split
      · rw [List.map_cons, List.sum_cons]
      · rw [Nat.zero_add]
    simp only [List.map_cons, List.sum_cons, hcons, Finset.sum_add_distrib, ih, Nat.add_right_cancel_iff]
    rcases h e List.mem_cons_self with hzero | ⟨c, hc, howner⟩
    · simp [hzero]
    · simp only [howner, Option.some.injEq, Finset.sum_ite_eq, Finset.mem_range, if_pos hc]

end OwnedLog
