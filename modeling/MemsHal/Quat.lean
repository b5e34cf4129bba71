import Mathlib.Analysis.SpecialFunctions.Exp
import Mathlib.Analysis.SpecialFunctions.Trigonometric.Basic
import Mathlib.LinearAlgebra.Matrix.DotProduct
import MemsHal.Rotations
/-!
# Quat — `core/utils/vec.h`, `core/utils/mat.h`, `core/utils/quat.h`: vectors, matrices, quaternions

The templates over the numbers `K` the code computes with, without rounding.  The source stores a matrix by columns:
its `m[c][r]` is `m.col c r` here.
-/
namespace MemsHal

open Matrix Rotations

/-- The functions of the C library that the code calls. -/
structure Libm (K : Type*) where
  sqrt : K → K
  sin : K → K
  cos : K → K
  exp : K → K
  copysign : K → K → K

/-- The calls do not round. -/
structure Libm.Exact {K : Type*} [Field K] [LinearOrder K] (m : Libm K) : Prop where
  sqrt_nonneg : ∀ x, 0 ≤ x → 0 ≤ m.sqrt x
  sqrt_mul_self : ∀ x, 0 ≤ x → m.sqrt x * m.sqrt x = x
  cos_sin : ∀ x, m.cos x * m.cos x + m.sin x * m.sin x = 1
  copysign_mul_self : ∀ x y, m.copysign x y * m.copysign x y = x * x

/-- The real functions. -/
noncomputable def Libm.real : Libm ℝ where
  sqrt := Real.sqrt
  sin := Real.sin
  cos := Real.cos
  exp := Real.exp
  copysign x y := if y < 0 then -|x| else |x|

theorem Libm.real_exact : Libm.real.Exact where
  sqrt_nonneg _ _ := Real.sqrt_nonneg _
  sqrt_mul_self _ hx := Real.mul_self_sqrt hx
  cos_sin x := by
    rw [← Real.cos_sq_add_sin_sq x, pow_two, pow_two]
    rfl
  copysign_mul_self x y := by
    show (if y < 0 then -|x| else |x|) * (if y < 0 then -|x| else |x|) = x * x
    split
    · rw [neg_mul_neg, abs_mul_abs_self]
    · exact abs_mul_abs_self x

section Definitions

variable {K : Type*} [Field K] [LinearOrder K]

/-! ### `vec.h` -/

def Libm.length (m : Libm K) {n : Nat} (v : Fin n → K) : K := m.sqrt (v ⬝ᵥ v)

def Libm.normalize (m : Libm K) {n : Nat} (v : Fin n → K) : Fin n → K := fun i => v i * (1 / m.length v)

/-! ### `mat.h` -/

/-- The matrix with the given columns. -/
def columns {C R : Nat} (v : Fin C → Fin R → K) : Matrix (Fin R) (Fin C) K := of fun r c => v c r

abbrev Mat33 (K : Type*) := Matrix (Fin 3) (Fin 3) K

/-- `mat(pTYPE rhs)`: the diagonal to the value, the rest to zero. -/
def Mat33.ofScalar (x : K) : Mat33 K := diagonal fun _ => x

/-- A matrix of matrices. -/
abbrev Mat22 (K : Type*) := Matrix (Fin 2) (Fin 2) (Mat33 K)

/-- `transpose` of a matrix of matrices. -/
def Mat22.transpose (m : Mat22 K) : Mat22 K := of fun i j => (m j i)ᵀ

def isPositiveSemidefinite {C : Nat} (m : Matrix (Fin C) (Fin C) K) (tolerance : K) : Bool :=
  decide (∀ i, ¬ m.col i i < 0) && decide (∀ i j, i < j → ¬ tolerance < |m.col i j - m.col j i|)

/-! ### `quat.h` -/

def quatToMatrix (q : Fin 4 → K) : Mat33 K :=
  let q0 := q 3
  let q1 := q 0
  let q2 := q 1
  let q3 := q 2
  let sq_q1 := 2 * q1 * q1
  let sq_q2 := 2 * q2 * q2
  let sq_q3 := 2 * q3 * q3
  let q1_q2 := 2 * q1 * q2
  let q3_q0 := 2 * q3 * q0
  let q1_q3 := 2 * q1 * q3
  let q2_q0 := 2 * q2 * q0
  let q2_q3 := 2 * q2 * q3
  let q1_q0 := 2 * q1 * q0
  columns
    ![![1 - sq_q2 - sq_q3, q1_q2 - q3_q0, q1_q3 + q2_q0],
      ![q1_q2 + q3_q0, 1 - sq_q1 - sq_q3, q2_q3 - q1_q0],
      ![q1_q3 - q2_q0, q2_q3 + q1_q0, 1 - sq_q1 - sq_q2]]

def clamp (v : K) : K := if v < 0 then 0 else v

def Libm.matrixToQuat (m : Libm K) (R : Mat33 K) : Fin 4 → K :=
  let Hx := R.col 0 0
  let My := R.col 1 1
  let Az := R.col 2 2
  let x := m.sqrt (clamp (Hx - My - Az + 1) * 0.25)
  let y := m.sqrt (clamp (-Hx + My - Az + 1) * 0.25)
  let z := m.sqrt (clamp (-Hx - My + Az + 1) * 0.25)
  let w := m.sqrt (clamp (Hx + My + Az + 1) * 0.25)
  ![m.copysign x (R.col 2 1 - R.col 1 2),
    m.copysign y (R.col 0 2 - R.col 2 0),
    m.copysign z (R.col 1 0 - R.col 0 1),
    w]

def Libm.normalize_quat (m : Libm K) (q : Fin 4 → K) : Fin 4 → K :=
  m.normalize (if q 3 < 0 then -q else q)

end Definitions

/-! ### What they compute -/

section Facts

variable {K : Type*} [Field K] [LinearOrder K] [IsStrictOrderedRing K] {m : Libm K}

theorem dotProduct_self_nonneg {n : Nat} (v : Fin n → K) : 0 ≤ v ⬝ᵥ v :=
  Finset.sum_nonneg fun i _ => mul_self_nonneg (v i)

theorem dotProduct_self_pos {n : Nat} {v : Fin n → K} (h : v ≠ 0) : 0 < v ⬝ᵥ v :=
  lt_of_le_of_ne (dotProduct_self_nonneg v) fun h0 => h (dotProduct_self_eq_zero.1 h0.symm)

omit [LinearOrder K] [IsStrictOrderedRing K] in
theorem Libm.normalize_eq_smul (m : Libm K) {n : Nat} (v : Fin n → K) : m.normalize v = (1 / m.length v) • v :=
  funext fun _ => mul_comm _ _

namespace Libm.Exact

theorem length_mul_self (h : m.Exact) {n : Nat} (v : Fin n → K) : m.length v * m.length v = v ⬝ᵥ v :=
  h.sqrt_mul_self _ (dotProduct_self_nonneg v)

theorem length_eq (h : m.Exact) {n : Nat} {v : Fin n → K} {c : K} (hc : 0 ≤ c) (hv : v ⬝ᵥ v = c * c) :
    m.length v = c := by
  have hl : 0 ≤ m.length v := h.sqrt_nonneg _ (dotProduct_self_nonneg v)
  rw [← mul_self_inj hl hc, h.length_mul_self, hv]

theorem length_ne_zero (h : m.Exact) {n : Nat} {v : Fin n → K} (hv : v ≠ 0) : m.length v ≠ 0 := by
  intro h0
  have hl := h.length_mul_self v
  rw [h0, mul_zero] at hl
  exact absurd hl (dotProduct_self_pos hv).ne

/-- **`normalize` makes a unit vector of every vector but zero.** -/
theorem normalize_unit (h : m.Exact) {n : Nat} {v : Fin n → K} (hv : v ≠ 0) :
    m.normalize v ⬝ᵥ m.normalize v = 1 := by
  have hl := h.length_ne_zero hv
  rw [m.normalize_eq_smul, smul_dotProduct, dotProduct_smul, ← h.length_mul_self, smul_eq_mul, smul_eq_mul]
  field_simp

theorem normalize_quat_unit (h : m.Exact) {q : Fin 4 → K} (hq : q ≠ 0) :
    m.normalize_quat q ⬝ᵥ m.normalize_quat q = 1 := by
  unfold normalize_quat
  split
  · exact h.normalize_unit (neg_ne_zero.2 hq)
  · exact h.normalize_unit hq

end Libm.Exact

omit [IsStrictOrderedRing K] in
theorem clamp_of_nonneg {v : K} (h : 0 ≤ v) : clamp v = v := if_neg (not_lt.2 h)

omit [LinearOrder K] [IsStrictOrderedRing K] in
theorem mulVec_three {r : Nat} (A : Matrix (Fin r) (Fin 3) K) (v : Fin 3 → K) (i : Fin r) :
    (A *ᵥ v) i = A i 0 * v 0 + A i 1 * v 1 + A i 2 * v 2 := vec3_dotProduct _ v

omit [LinearOrder K] [IsStrictOrderedRing K] in
theorem mulVec_four {r : Nat} (A : Matrix (Fin r) (Fin 4) K) (v : Fin 4 → K) (i : Fin r) :
    (A *ᵥ v) i = A i 0 * v 0 + A i 1 * v 1 + A i 2 * v 2 + A i 3 * v 3 := dotProduct_four _ v

/-- `quatToMatrix` turns a vector from the world's frame into the body's. -/
theorem quatToMatrix_mulVec {q : Fin 4 → K} (hq : q ⬝ᵥ q = 1) (v : Fin 3 → K) :
    ofParts 0 (quatToMatrix q *ᵥ v) = star (ofCoords q) * ofParts 0 v * ofCoords q := by
  rw [dotProduct_four] at hq
  ext <;>
    simp only [re_ofParts, imI_ofParts, imJ_ofParts, imK_ofParts, re_ofCoords, imI_ofCoords, imJ_ofCoords,
      imK_ofCoords, Quaternion.re_mul, Quaternion.imI_mul, Quaternion.imJ_mul, Quaternion.imK_mul, Quaternion.re_star,
      Quaternion.imI_star, Quaternion.imJ_star, Quaternion.imK_star, mulVec_three, quatToMatrix, columns, of_apply,
      cons_val]
  · ring
  · linear_combination (-v 0) * hq
  · linear_combination (-v 1) * hq
  · linear_combination (-v 2) * hq

/-- **`quatToMatrix` of a unit quaternion keeps norms.** -/
theorem quatToMatrix_dotProduct {q : Fin 4 → K} (hq : q ⬝ᵥ q = 1) (v : Fin 3 → K) :
    (quatToMatrix q *ᵥ v) ⬝ᵥ (quatToMatrix q *ᵥ v) = v ⬝ᵥ v :=
  dotProduct_of_conj hq (quatToMatrix_mulVec hq v)

/-- **The quaternion of a frame is a unit quaternion.** -/
theorem Libm.Exact.matrixToQuat_unit (h : m.Exact) {e n u : Fin 3 → K} (hf : Frame e n u) :
    m.matrixToQuat (columns ![e, n, u]) ⬝ᵥ m.matrixToQuat (columns ![e, n, u]) = 1 := by
  have hs : ∀ i, m.sqrt (clamp (Frame.quadrances e n u i) * 0.25) * m.sqrt (clamp (Frame.quadrances e n u i) * 0.25) =
      Frame.quadrances e n u i * 0.25 := fun i => by
    have hi := hf.quadrances_nonneg i
    rw [clamp_of_nonneg hi]
    exact h.sqrt_mul_self _ (mul_nonneg hi (by norm_num))
  have hsum := Frame.sum_quadrances e n u
  rw [Fin.sum_univ_four] at hsum
  have hcoord : ∀ i, m.matrixToQuat (columns ![e, n, u]) i * m.matrixToQuat (columns ![e, n, u]) i =
      Frame.quadrances e n u i * 0.25 := by
    intro i
    fin_cases i
    · exact (h.copysign_mul_self _ _).trans (hs 0)
    · exact (h.copysign_mul_self _ _).trans (hs 1)
    · exact (h.copysign_mul_self _ _).trans (hs 2)
    · exact hs 3
  rw [dotProduct_four, hcoord, hcoord, hcoord, hcoord, ← add_mul, ← add_mul, ← add_mul, hsum]
  norm_num

end Facts

end MemsHal
