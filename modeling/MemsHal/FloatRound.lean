import Mathlib.Algebra.Ring.Int.Defs
import Mathlib.Algebra.Order.Ring.Int
import Mathlib.Tactic.Ring
/-!
# FloatRound — integers as floats

The nearest integer with a significand of `p` bits, ties to even, and how far it is off.  A sum of two such integers is
rounded the same way; the exponent has no bound here.
-/
namespace FloatRound

/-- The weight of the last bit of the significand. -/
def unit (p n : Nat) : Nat := 2 ^ (n.log2 + 1 - p)

/-- The nearest multiple of `u`, the even one of two. -/
def nearestMultiple (u n : Nat) : Nat :=
  if 2 * (n % u) < u ∨ (2 * (n % u) = u ∧ n / u % 2 = 0) then n / u * u else (n / u + 1) * u

def nearest (p n : Nat) : Nat := nearestMultiple (unit p n) n

/-- The float of an integer. -/
def ofInt (p : Nat) (n : Int) : Int := n.sign * (nearest p n.natAbs : Nat)

/-- The sum of two integers, made in floats. -/
def add (p : Nat) (a b : Int) : Int := ofInt p (ofInt p a + ofInt p b)

/-- What rounding an integer adds to it. -/
def error (p : Nat) (n : Int) : Int := ofInt p n - n

/-- What a sum in floats is off by: the errors of the operands and that of their sum. -/
def addError (p : Nat) (a b : Int) : Int := error p a + error p b + error p (ofInt p a + ofInt p b)

theorem add_eq (p : Nat) (a b : Int) : add p a b = a + b + addError p a b := by
  unfold add addError error
  ring

/-! ## How far it is off -/

theorem unit_pos (p n : Nat) : 0 < unit p n := Nat.two_pow_pos _

/-- Rounding to a multiple moves by half the unit at most. -/
theorem nearestMultiple_error {u : Nat} (hu : 0 < u) (n : Nat) :
    2 * nearestMultiple u n ≤ 2 * n + u ∧ 2 * n ≤ 2 * nearestMultiple u n + u := by
  have hdiv : n / u * u + n % u = n := Nat.div_add_mod' n u
  have hmod : n % u < u := Nat.mod_lt n hu
  unfold nearestMultiple
  split
  · omega
  · rw [Nat.add_mul, Nat.one_mul]
    omega

/-- **The rounding error is half a unit at most.** -/
theorem error_bounds (p : Nat) (n : Int) : -(unit p n.natAbs : Int) ≤ 2 * error p n ∧ 2 * error p n ≤ unit p n.natAbs := by
  obtain ⟨hle, hge⟩ := nearestMultiple_error (unit_pos p n.natAbs) n.natAbs
  unfold error ofInt nearest
  rcases lt_trichotomy n 0 with hneg | rfl | hpos
  · rw [Int.sign_eq_neg_one_of_neg hneg]
    omega
  · rw [Int.sign_zero, Int.zero_mul]
    omega
  · rw [Int.sign_eq_one_of_pos hpos]
    omega

theorem unit_le {p n k : Nat} (hp : 0 < p) (h : n < 2 ^ (p + k)) : unit p n ≤ 2 ^ k := by
  refine Nat.pow_le_pow_right (by decide) ?_
  by_cases hn : n = 0
  · rw [hn, Nat.log2_zero]
    omega
  · have := (Nat.log2_lt hn).2 h
    omega

theorem error_bounds_of_lt {p k : Nat} (hp : 0 < p) {n : Int} (hn : 0 ≤ n) (h : n < 2 ^ (p + k)) :
    -2 ^ k ≤ 2 * error p n ∧ 2 * error p n ≤ 2 ^ k := by
  obtain ⟨m, rfl⟩ := Int.eq_ofNat_of_zero_le hn
  obtain ⟨hlo, hhi⟩ := error_bounds p (m : Int)
  have hunit : (unit p m : Int) ≤ 2 ^ k := by exact_mod_cast unit_le hp (by exact_mod_cast h)
  rw [Int.natAbs_natCast] at hlo hhi
  exact ⟨by omega, hhi.trans hunit⟩

/-! ## What is not rounded -/

/-- The integer has a significand of `p` bits. -/
def Exact (p : Nat) (n : Int) : Prop := unit p n.natAbs ∣ n.natAbs

instance (p : Nat) (n : Int) : Decidable (Exact p n) := inferInstanceAs (Decidable (_ ∣ _))

theorem nearestMultiple_eq_iff {u n : Nat} : nearestMultiple u n = n ↔ u ∣ n := by
  constructor
  · intro h
    rw [← h]
    unfold nearestMultiple
    split <;> exact Nat.dvd_mul_left _ _
  · intro h
    have hmod := Nat.mod_eq_zero_of_dvd h
    unfold nearestMultiple
    rw [hmod]
    split
    · exact Nat.div_mul_cancel h
    · rename_i hnot
      have hu : u = 0 := by omega
      rw [hu] at h ⊢
      exact (Nat.mul_zero _).trans (Nat.eq_zero_of_zero_dvd h).symm

/-- **An integer is kept exactly if it has so short a significand.** -/
theorem ofInt_eq_iff {p : Nat} {n : Int} : ofInt p n = n ↔ Exact p n := by
  unfold Exact ofInt
  rw [← nearestMultiple_eq_iff]
  unfold nearest
  rcases lt_trichotomy n 0 with hneg | rfl | hpos
  · rw [Int.sign_eq_neg_one_of_neg hneg]
    omega
  · refine iff_of_true (Int.zero_mul _) (nearestMultiple_eq_iff.2 (Nat.dvd_zero _))
  · rw [Int.sign_eq_one_of_pos hpos]
    omega

theorem exact_of_lt {p : Nat} (hp : 0 < p) {n : Int} (h : n.natAbs < 2 ^ p) : Exact p n := by
  have hunit : unit p n.natAbs = 1 := Nat.le_antisymm (unit_le (k := 0) hp h) (unit_pos p _)
  unfold Exact
  rw [hunit]
  exact Nat.one_dvd _

theorem error_of_exact {p : Nat} {n : Int} (h : Exact p n) : error p n = 0 := by
  unfold error
  rw [ofInt_eq_iff.2 h]
  exact Int.sub_self n

end FloatRound
