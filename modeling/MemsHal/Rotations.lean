import Mathlib.Algebra.Quaternion
import Mathlib.LinearAlgebra.CrossProduct
import Mathlib.LinearAlgebra.Matrix.NonsingularInverse
import Mathlib.Tactic.LinearCombination
/-!
# Rotations — quaternions kept as coordinates, right-handed frames

A quaternion kept as the vector `(x, y, z, w)` is a quaternion, so a matrix that acts on it as a product scales its
norm by the norm of the factor.  A right-handed frame is a rotation matrix by its columns: the four sums that are the
squared coordinates of its quaternion, up to a factor of four, are never negative and add up to four.
-/
namespace Rotations

open Matrix Quaternion

/-! The numerals of `Fin 2`, `Fin 3` and `Fin 4`, and `2` in a ring, find their instances by name. -/

scoped instance neZero_two : NeZero 2 := ⟨by decide⟩

scoped instance neZero_three : NeZero 3 := ⟨by decide⟩

scoped instance neZero_four : NeZero 4 := ⟨by decide⟩

scoped instance atLeastTwo_two : Nat.AtLeastTwo 2 := ⟨Nat.le_refl 2⟩

variable {R : Type*} [CommRing R]

/-! ### Coordinates -/

/-- The quaternion with a real and an imaginary part. -/
def ofParts (c : R) (v : Fin 3 → R) : ℍ[R] := ⟨c, v 0, v 1, v 2⟩

/-- The quaternion with the coordinates `(x, y, z, w)`. -/
def ofCoords (q : Fin 4 → R) : ℍ[R] := ⟨q 3, q 0, q 1, q 2⟩

@[simp] theorem re_ofParts (c : R) (v : Fin 3 → R) : (ofParts c v).re = c := rfl
@[simp] theorem imI_ofParts (c : R) (v : Fin 3 → R) : (ofParts c v).imI = v 0 := rfl
@[simp] theorem imJ_ofParts (c : R) (v : Fin 3 → R) : (ofParts c v).imJ = v 1 := rfl
@[simp] theorem imK_ofParts (c : R) (v : Fin 3 → R) : (ofParts c v).imK = v 2 := rfl
@[simp] theorem re_ofCoords (q : Fin 4 → R) : (ofCoords q).re = q 3 := rfl
@[simp] theorem imI_ofCoords (q : Fin 4 → R) : (ofCoords q).imI = q 0 := rfl
@[simp] theorem imJ_ofCoords (q : Fin 4 → R) : (ofCoords q).imJ = q 1 := rfl
@[simp] theorem imK_ofCoords (q : Fin 4 → R) : (ofCoords q).imK = q 2 := rfl

theorem dotProduct_four (p q : Fin 4 → R) : p ⬝ᵥ q = p 0 * q 0 + p 1 * q 1 + p 2 * q 2 + p 3 * q 3 := by
  rw [dotProduct, Fin.sum_univ_four]

theorem normSq_ofCoords (q : Fin 4 → R) : normSq (ofCoords q) = q ⬝ᵥ q := by
  rw [normSq_def', dotProduct_four, re_ofCoords, imI_ofCoords, imJ_ofCoords, imK_ofCoords]
  ring

theorem normSq_ofParts (c : R) (v : Fin 3 → R) : normSq (ofParts c v) = c * c + v ⬝ᵥ v := by
  rw [normSq_def', vec3_dotProduct, re_ofParts, imI_ofParts, imJ_ofParts, imK_ofParts]
  ring

/-- A quaternion is a product if its coordinates are those of the product. -/
theorem ofCoords_eq_mul {p q : Fin 4 → R} {c : R} {v : Fin 3 → R}
    (hx : p 0 = q 3 * v 0 + q 0 * c + q 1 * v 2 - q 2 * v 1) (hy : p 1 = q 3 * v 1 - q 0 * v 2 + q 1 * c + q 2 * v 0)
    (hz : p 2 = q 3 * v 2 + q 0 * v 1 - q 1 * v 0 + q 2 * c)
    (hw : p 3 = q 3 * c - q 0 * v 0 - q 1 * v 1 - q 2 * v 2) : ofCoords p = ofCoords q * ofParts c v := by
  ext
  · rw [re_mul]; exact hw
  · rw [imI_mul]; exact hx
  · rw [imJ_mul]; exact hy
  · rw [imK_mul]; exact hz

/-- **A factor scales the norm of the coordinates.** -/
theorem dotProduct_of_mul {p q : Fin 4 → R} {a : ℍ[R]} (h : ofCoords p = ofCoords q * a) :
    p ⬝ᵥ p = q ⬝ᵥ q * normSq a := by
  rw [← normSq_ofCoords, h, map_mul, normSq_ofCoords]

/-- **A vector turned by a unit quaternion keeps its norm.** -/
theorem dotProduct_of_conj {q : Fin 4 → R} {u v : Fin 3 → R} (hq : q ⬝ᵥ q = 1)
    (h : ofParts 0 u = star (ofCoords q) * ofParts 0 v * ofCoords q) : u ⬝ᵥ u = v ⬝ᵥ v := by
  have hn := congrArg normSq h
  rwa [map_mul, map_mul, normSq_star, normSq_ofCoords, normSq_ofParts, normSq_ofParts, hq, one_mul, mul_one,
    mul_zero, zero_add, zero_add] at hn

/-! ### Frames -/

/-- The vectors are orthonormal, and `n` completes them to a right-handed frame. -/
structure Frame (e n u : Fin 3 → R) : Prop where
  unit_e : e ⬝ᵥ e = 1
  unit_u : u ⬝ᵥ u = 1
  orthogonal : e ⬝ᵥ u = 0
  cross_n : u ⨯₃ e = n

namespace Frame

variable {e n u : Fin 3 → R}

theorem unit_n (h : Frame e n u) : n ⬝ᵥ n = 1 := by
  rw [← h.cross_n, cross_dot_cross, h.unit_u, h.unit_e, dotProduct_comm u e, h.orthogonal, mul_one, mul_zero, sub_zero]

theorem orthogonal_en (h : Frame e n u) : e ⬝ᵥ n = 0 := by rw [← h.cross_n, dot_cross_self]

theorem orthogonal_un (h : Frame e n u) : u ⬝ᵥ n = 0 := by rw [← h.cross_n, dot_self_cross]

theorem cross_e (h : Frame e n u) : n ⨯₃ u = e := by
  rw [← h.cross_n, cross_cross_eq_smul_sub_smul, h.unit_u, h.orthogonal, one_smul, zero_smul, sub_zero]

theorem cross_u (h : Frame e n u) : e ⨯₃ n = u := by
  rw [← h.cross_n, cross_cross_eq_smul_sub_smul', h.unit_e, dotProduct_comm u e, h.orthogonal, one_smul, zero_smul,
    sub_zero]

/-- The rows of a frame's matrix are orthonormal, as its columns are. -/
theorem rows (h : Frame e n u) (i j : Fin 3) : e i * e j + n i * n j + u i * u j = if i = j then 1 else 0 := by
  let A : Matrix (Fin 3) (Fin 3) R := of ![e, n, u]
  have hcols : A * Aᵀ = 1 := by
    ext i j
    show A i ⬝ᵥ A j = _
    fin_cases i <;> fin_cases j
    · exact h.unit_e
    · exact h.orthogonal_en
    · exact h.orthogonal
    · exact (dotProduct_comm n e).trans h.orthogonal_en
    · exact h.unit_n
    · exact (dotProduct_comm n u).trans h.orthogonal_un
    · exact (dotProduct_comm u e).trans h.orthogonal
    · exact h.orthogonal_un
    · exact h.unit_u
  have hrows : (Aᵀ * A) i j = (1 : Matrix (Fin 3) (Fin 3) R) i j := by rw [mul_eq_one_comm.1 hcols]
  rwa [mul_apply, Fin.sum_univ_three, one_apply] at hrows

theorem row (h : Frame e n u) (i : Fin 3) : e i * e i + n i * n i + u i * u i = 1 := by rw [h.rows, if_pos rfl]

/-- Four times the squared coordinates of the quaternion that turns as the frame's matrix does. -/
def quadrances (e n u : Fin 3 → R) : Fin 4 → R :=
  ![e 0 - n 1 - u 2 + 1, -e 0 + n 1 - u 2 + 1, -e 0 - n 1 + u 2 + 1, e 0 + n 1 + u 2 + 1]

theorem sum_quadrances (e n u : Fin 3 → R) : ∑ i, quadrances e n u i = 4 := by
  rw [Fin.sum_univ_four]
  show e 0 - n 1 - u 2 + 1 + (-e 0 + n 1 - u 2 + 1) + (-e 0 - n 1 + u 2 + 1) + (e 0 + n 1 + u 2 + 1) = 4
  ring

/-- The product of two different sums is the square of a sum or a difference across the diagonal. -/
theorem mul_quadrances (h : Frame e n u) :
    quadrances e n u 3 * quadrances e n u 0 = (u 1 - n 2) * (u 1 - n 2) ∧
    quadrances e n u 3 * quadrances e n u 1 = (e 2 - u 0) * (e 2 - u 0) ∧
    quadrances e n u 3 * quadrances e n u 2 = (n 0 - e 1) * (n 0 - e 1) ∧
    quadrances e n u 0 * quadrances e n u 1 = (e 1 + n 0) * (e 1 + n 0) ∧
    quadrances e n u 0 * quadrances e n u 2 = (u 0 + e 2) * (u 0 + e 2) ∧
    quadrances e n u 1 * quadrances e n u 2 = (n 2 + u 1) * (n 2 + u 1) := by
  have he := h.unit_e
  have hn := h.unit_n
  have hu := h.unit_u
  rw [vec3_dotProduct] at he hn hu
  have ce : n 1 * u 2 - n 2 * u 1 = e 0 := congrFun h.cross_e 0
  have cn : u 2 * e 0 - u 0 * e 2 = n 1 := congrFun h.cross_n 1
  have cu : e 0 * n 1 - e 1 * n 0 = u 2 := congrFun h.cross_u 2
  simp only [quadrances, cons_val]
  refine ⟨?_, ?_, ?_, ?_, ?_, ?_⟩
  · linear_combination h.row 0 - hn - hu - 2 * ce
  · linear_combination h.row 1 - hu - he - 2 * cn
  · linear_combination h.row 2 - he - hn - 2 * cu
  · linear_combination h.row 2 - he - hn + 2 * cu
  · linear_combination h.row 1 - hu - he + 2 * cn
  · linear_combination h.row 0 - hn - hu + 2 * ce

/-- The products of two differences across the diagonal. -/
theorem mul_differences (h : Frame e n u) :
    (u 1 - n 2) * (n 0 - e 1) = quadrances e n u 3 * (u 0 + e 2) ∧
    (e 2 - u 0) * (n 0 - e 1) = quadrances e n u 3 * (n 2 + u 1) := by
  have heu := h.orthogonal
  have hun := h.orthogonal_un
  rw [vec3_dotProduct] at heu hun
  have hxz : e 0 * e 2 + n 0 * n 2 + u 0 * u 2 = 0 := h.rows 0 2
  have hyz : e 1 * e 2 + n 1 * n 2 + u 1 * u 2 = 0 := h.rows 1 2
  have ce : n 0 * u 1 - n 1 * u 0 = e 2 := congrFun h.cross_e 2
  have cn : u 0 * e 1 - u 1 * e 0 = n 2 := congrFun h.cross_n 2
  have cx : e 1 * n 2 - e 2 * n 1 = u 0 := congrFun h.cross_u 0
  have cy : e 2 * n 0 - e 0 * n 2 = u 1 := congrFun h.cross_u 1
  simp only [quadrances, cons_val]
  refine ⟨?_, ?_⟩
  · linear_combination ce + cx - heu - hxz
  · linear_combination cy + cn - hun - hyz

theorem isSquare_mul_quadrances (h : Frame e n u) (i j : Fin 4) :
    IsSquare (quadrances e n u i * quadrances e n u j) := by
  obtain ⟨wx, wy, wz, xy, xz, yz⟩ := h.mul_quadrances
  have hlt : ∀ i j : Fin 4, i < j → IsSquare (quadrances e n u i * quadrances e n u j) := by
    intro i j hij
    fin_cases i <;> fin_cases j <;> first | exact absurd hij (by decide) | skip
    · exact ⟨_, xy⟩
    · exact ⟨_, xz⟩
    · exact ⟨_, (mul_comm _ _).trans wx⟩
    · exact ⟨_, yz⟩
    · exact ⟨_, (mul_comm _ _).trans wy⟩
    · exact ⟨_, (mul_comm _ _).trans wz⟩
  rcases lt_trichotomy i j with hij | rfl | hji
  · exact hlt i j hij
  · exact ⟨_, rfl⟩
  · rw [mul_comm]
    exact hlt j i hji

end Frame

section Ordered

variable {K : Type*} [Field K] [LinearOrder K] [IsStrictOrderedRing K]

/-- Numbers whose products are not negative have one sign, the sign of their sum. -/
theorem nonneg_of_mul_nonneg_of_sum_pos {ι : Type*} [Fintype ι] {f : ι → K} (hmul : ∀ i j, 0 ≤ f i * f j)
    (hsum : 0 < ∑ i, f i) (i : ι) : 0 ≤ f i := by
  by_contra hi
  have hneg : ∀ j, f j ≤ 0 := fun j => nonpos_of_mul_nonneg_right (hmul i j) (not_le.1 hi)
  exact absurd hsum (not_lt.2 (Finset.sum_nonpos fun j _ => hneg j))

/-- **The squared coordinates of a frame's quaternion are not negative.** -/
theorem Frame.quadrances_nonneg {e n u : Fin 3 → K} (h : Frame e n u) (i : Fin 4) : 0 ≤ quadrances e n u i := by
  refine nonneg_of_mul_nonneg_of_sum_pos (fun i j => (h.isSquare_mul_quadrances i j).nonneg) ?_ i
  rw [sum_quadrances]
  exact four_pos

/-- **The third column of a frame from the coordinates of its quaternion**: the squares fix the coordinates up to their
signs, and the differences across the diagonal fix the signs unless the real part `w` is zero. -/
theorem Frame.col_of_coords {e n u : Fin 3 → K} (h : Frame e n u) {x y z w : K} (hx : 4 * w * x = u 1 - n 2)
    (hy : 4 * w * y = e 2 - u 0) (hz : 4 * w * z = n 0 - e 1) (hxx : x * x = quadrances e n u 0 * 0.25)
    (hyy : y * y = quadrances e n u 1 * 0.25) (hzz : z * z = quadrances e n u 2 * 0.25)
    (hww : w * w = quadrances e n u 3 * 0.25) (hdown : w = 0 → u 0 = 0 ∧ u 1 = 0) :
    2 * x * z - 2 * y * w = u 0 ∧ 2 * y * z + 2 * x * w = u 1 ∧ 1 - 2 * x * x - 2 * y * y = u 2 := by
  obtain ⟨hdxz, hdyz⟩ := h.mul_differences
  obtain ⟨-, -, -, -, hqxz, hqyz⟩ := h.mul_quadrances
  have hprod : 4 * (x * z) = u 0 + e 2 ∧ 4 * (y * z) = n 2 + u 1 := by
    by_cases hw : w = 0
    · obtain ⟨hu0, hu1⟩ := hdown hw
      have he2 : e 2 = 0 := by linear_combination hu0 - hy + 4 * y * hw
      have hn2 : n 2 = 0 := by linear_combination hu1 + hx - 4 * x * hw
      rw [hu0, he2] at hqxz ⊢
      rw [hn2, hu1] at hqyz ⊢
      have hxz : x * z * (x * z) = 0 := by
        linear_combination z * z * hxx + quadrances e n u 0 * 0.25 * hzz + 0.25 * 0.25 * hqxz
      have hyz : y * z * (y * z) = 0 := by
        linear_combination z * z * hyy + quadrances e n u 1 * 0.25 * hzz + 0.25 * 0.25 * hqyz
      rw [mul_self_eq_zero.1 hxz, mul_self_eq_zero.1 hyz, mul_zero, add_zero]
      exact ⟨rfl, rfl⟩
    · have hne : 4 * (w * w) ≠ 0 := mul_ne_zero four_ne_zero (mul_ne_zero hw hw)
      constructor
      · refine mul_left_cancel₀ hne ?_
        linear_combination 4 * w * z * hx + (u 1 - n 2) * hz + hdxz - 4 * (u 0 + e 2) * hww
      · refine mul_left_cancel₀ hne ?_
        linear_combination 4 * w * z * hy + (e 2 - u 0) * hz + hdyz - 4 * (n 2 + u 1) * hww
  obtain ⟨hxz, hyz⟩ := hprod
  refine ⟨?_, ?_, ?_⟩
  · linear_combination 0.5 * hxz - 0.5 * hy
  · linear_combination 0.5 * hyz + 0.5 * hx
  · simp only [quadrances, cons_val] at hxx hyy
    linear_combination -2 * hxx - 2 * hyy

end Ordered

end Rotations
