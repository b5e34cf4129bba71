import Mathlib.Analysis.Matrix.Order
import Mathlib.Data.Matrix.ColumnRowPartitioned
/-!
# Kalman — the covariance of an estimate after a measurement

`H` is the sensitivity of a measurement, `P` the covariance of the estimate and `S` the covariance that the filter takes
the innovation to have.  What `S` adds to `H P Hᵀ` stands for the noise of the measurement.  The posterior is a covariance
whenever the noise is, and otherwise exactly if the noise has no eigenvalue between -1 and 0 relative to `H P Hᵀ`
(`posSemidef_posterior_iff`).
-/
namespace Kalman

open Matrix

section Gain

variable {k n R : Type*} [Fintype k] [Fintype n] [DecidableEq k] [DecidableEq n] [CommRing R]

noncomputable def gain (H : Matrix k n R) (P : Matrix n n R) (S : Matrix k k R) : Matrix n k R := P * Hᵀ * S⁻¹

/-- The covariance after the measurement. -/
noncomputable def posterior (H : Matrix k n R) (P : Matrix n n R) (S : Matrix k k R) : Matrix n n R :=
  (1 - gain H P S * H) * P

theorem posterior_eq (H : Matrix k n R) (P : Matrix n n R) (S : Matrix k k R) :
    posterior H P S = P - P * Hᵀ * S⁻¹ * (H * P) := by
  unfold posterior gain
  rw [Matrix.sub_mul, Matrix.one_mul, Matrix.mul_assoc _ H P]

theorem isSymm_inv {S : Matrix k k R} (hS : S.IsSymm) : S⁻¹.IsSymm := by
  unfold IsSymm
  rw [transpose_nonsing_inv, hS.eq]

/-- What is subtracted from the covariance of the measured quantity. -/
theorem measured_posterior (H : Matrix k n R) (P : Matrix n n R) (S : Matrix k k R) :
    H * posterior H P S * Hᵀ = H * P * Hᵀ - H * P * Hᵀ * S⁻¹ * (H * P * Hᵀ) := by
  rw [posterior_eq, Matrix.mul_sub, Matrix.sub_mul]
  simp only [Matrix.mul_assoc]

/-- **The posterior is symmetric**, whatever symmetric matrix the innovation is taken to have. -/
theorem isSymm_posterior (H : Matrix k n R) {P : Matrix n n R} {S : Matrix k k R} (hP : P.IsSymm) (hS : S.IsSymm) :
    (posterior H P S).IsSymm := by
  unfold IsSymm
  rw [posterior_eq, transpose_sub, transpose_mul, transpose_mul, transpose_mul, transpose_mul, transpose_transpose,
    hP.eq, (isSymm_inv hS).eq, Matrix.mul_assoc (P * Hᵀ) S⁻¹]

end Gain

section Blocks

variable {k m n R : Type*} [Fintype k] [Fintype m] [Fintype n] [DecidableEq k] [DecidableEq m] [DecidableEq n]
  [CommRing R]

/-- **A measurement of the first part of the state, block by block.** -/
theorem posterior_fromBlocks (L : Matrix k m R) {A : Matrix m m R} (B : Matrix m n R) (D : Matrix n n R)
    {S : Matrix k k R} (hA : A.IsSymm) (hS : S.IsSymm) :
    posterior (fromCols L 0) (fromBlocks A B Bᵀ D) S =
      fromBlocks (A - A * (Lᵀ * S⁻¹) * L * A) (B - A * (Lᵀ * S⁻¹) * L * B)
        (B - A * (Lᵀ * S⁻¹) * L * B)ᵀ (D - Bᵀ * (Lᵀ * S⁻¹) * L * B) := by
  have hHP : fromCols L (0 : Matrix k n R) * fromBlocks A B Bᵀ D = fromCols (L * A) (L * B) := by
    rw [fromCols_mul_fromBlocks, Matrix.zero_mul, Matrix.zero_mul, add_zero, add_zero]
  have hPH : fromBlocks A B Bᵀ D * (fromCols L (0 : Matrix k n R))ᵀ = fromRows (A * Lᵀ) (Bᵀ * Lᵀ) := by
    rw [transpose_fromCols, fromBlocks_mul_fromRows, transpose_zero, Matrix.mul_zero, Matrix.mul_zero, add_zero,
      add_zero]
  have hlower : (A * (Lᵀ * S⁻¹) * L * B)ᵀ = Bᵀ * Lᵀ * S⁻¹ * (L * A) := by
    simp only [transpose_mul, transpose_transpose, hA.eq, (isSymm_inv hS).eq, Matrix.mul_assoc]
  rw [posterior_eq, hHP, hPH, fromRows_mul, fromRows_mul_fromCols, sub_eq_add_neg, fromBlocks_neg, fromBlocks_add,
    transpose_sub, hlower]
  simp only [sub_eq_add_neg, Matrix.mul_assoc]

end Blocks

section Ordered

variable {k n : Type*} [Fintype k] [Fintype n] [DecidableEq k] [DecidableEq n]
  {H : Matrix k n ℝ} {P : Matrix n n ℝ} {S : Matrix k k ℝ}

/-- `N` may be added to the measured covariance `M`: it has no eigenvector that `M` sees with an eigenvalue between -1
and 0 relative to `M`. -/
def Admissible (M N : Matrix k k ℝ) : Prop :=
  ∀ (v : k → ℝ) (l : ℝ), N *ᵥ v = l • M *ᵥ v → -1 < l → l < 0 → M *ᵥ v = 0

omit [DecidableEq k] [DecidableEq n] in
theorem posSemidef_measured (hP : P.PosSemidef) (H : Matrix k n ℝ) : (H * P * Hᵀ).PosSemidef := by
  rw [← conjTranspose_eq_transpose_of_trivial]
  exact hP.mul_mul_conjTranspose_same H

omit [DecidableEq k] in
/-- Every noise that is a covariance is admissible. -/
theorem admissible_of_posSemidef {M N : Matrix k k ℝ} (hM : M.PosSemidef) (hN : N.PosSemidef) : Admissible M N := by
  intro v l hv _ hneg
  have hq : 0 ≤ v ⬝ᵥ M *ᵥ v := hM.dotProduct_mulVec_nonneg v
  have hr : 0 ≤ v ⬝ᵥ N *ᵥ v := hN.dotProduct_mulVec_nonneg v
  rw [hv, dotProduct_smul, smul_eq_mul] at hr
  refine (hM.dotProduct_mulVec_zero_iff v).1 (le_antisymm ?_ hq)
  show v ⬝ᵥ M *ᵥ v ≤ 0
  nlinarith

theorem admissible_of_posSemidef_posterior (hP : P.PosSemidef) (hdet : IsUnit S.det)
    (h : (posterior H P S).PosSemidef) : Admissible (H * P * Hᵀ) (S - H * P * Hᵀ) := by
  intro v l hv hl hneg
  have hM := posSemidef_measured hP H
  have hpost := posSemidef_measured h H
  rw [measured_posterior] at hpost
  generalize H * P * Hᵀ = M at hv hM hpost ⊢
  -- `S` acts on `v` as `(1 + l) M`, so `S⁻¹ M v` is a multiple of `v`
  have hSv : S *ᵥ v = (1 + l) • M *ᵥ v := by
    rw [add_smul, one_smul, ← hv, sub_mulVec, add_sub_cancel]
  have hback : v = (1 + l) • S⁻¹ *ᵥ (M *ᵥ v) := by
    rw [← mulVec_smul, ← hSv, mulVec_mulVec, nonsing_inv_mul S hdet, one_mulVec]
  have hq : 0 ≤ v ⬝ᵥ M *ᵥ v := hM.dotProduct_mulVec_nonneg v
  have hr : 0 ≤ v ⬝ᵥ (M - M * S⁻¹ * M) *ᵥ v := hpost.dotProduct_mulVec_nonneg v
  have hscale : v ⬝ᵥ M *ᵥ v = (1 + l) * v ⬝ᵥ (M * S⁻¹ * M) *ᵥ v := by
    nth_rewrite 2 [hback]
    rw [mulVec_smul, dotProduct_smul, smul_eq_mul, ← mulVec_mulVec, ← mulVec_mulVec]
  rw [sub_mulVec, dotProduct_sub] at hr
  refine (hM.dotProduct_mulVec_zero_iff v).1 (le_antisymm ?_ hq)
  show v ⬝ᵥ M *ᵥ v ≤ 0
  nlinarith

/-- The eigenvectors of `1 - C S⁻¹ Cᵀ` come from those of `S` relative to `Cᵀ C`. -/
theorem posSemidef_one_sub {C : Matrix n k ℝ} (hS : S.IsSymm) (hdet : IsUnit S.det) (h : Admissible (Cᵀ * C) (S - Cᵀ * C)) :
    (1 - C * S⁻¹ * Cᵀ).PosSemidef := by
  have hherm : (1 - C * S⁻¹ * Cᵀ).IsHermitian := by
    unfold IsHermitian
    rw [conjTranspose_eq_transpose_of_trivial, transpose_sub, transpose_one, transpose_mul, transpose_mul,
      transpose_transpose, (isSymm_inv hS).eq, Matrix.mul_assoc]
  rw [hherm.posSemidef_iff_eigenvalues_nonneg]
  intro i
  by_contra hneg
  replace hneg : hherm.eigenvalues i < 0 := not_le.1 hneg
  have heigen := hherm.mulVec_eigenvectorBasis i
  have hne : (⇑(hherm.eigenvectorBasis i) : n → ℝ) ≠ 0 := fun h0 =>
    (hherm.eigenvectorBasis.orthonormal.ne_zero i) (by ext j; exact congrFun h0 j)
  generalize hherm.eigenvalues i = e at heigen hneg
  generalize (⇑(hherm.eigenvectorBasis i) : n → ℝ) = x at heigen hne
  have hpos : 0 < 1 - e := by linarith
  -- `v` is the eigenvector of `S` that belongs to `x`
  obtain ⟨v, hv⟩ : ∃ v, v = S⁻¹ *ᵥ (Cᵀ *ᵥ x) := ⟨_, rfl⟩
  have hSv : S *ᵥ v = Cᵀ *ᵥ x := by rw [hv, mulVec_mulVec, mul_nonsing_inv S hdet, one_mulVec]
  have hCv : C *ᵥ v = (1 - e) • x := by
    rw [sub_mulVec, one_mulVec, ← mulVec_mulVec, ← mulVec_mulVec, ← hv] at heigen
    rw [sub_smul, one_smul, ← heigen, sub_sub_cancel]
  have hMv : (Cᵀ * C) *ᵥ v = (1 - e) • Cᵀ *ᵥ x := by rw [← mulVec_mulVec, hCv, mulVec_smul]
  have hrel : (S - Cᵀ * C) *ᵥ v = (e / (1 - e)) • (Cᵀ * C) *ᵥ v := by
    rw [sub_mulVec, hSv, hMv, smul_smul, div_mul_cancel₀ e hpos.ne', sub_smul, one_smul, sub_sub_cancel]
  have hzero := h v (e / (1 - e)) hrel (by rw [lt_div_iff₀ hpos]; linarith) (div_neg_of_neg_of_pos hneg hpos)
  rw [hMv, smul_eq_zero_iff_right hpos.ne'] at hzero
  refine hne ((smul_eq_zero_iff_right hpos.ne').1 ?_)
  rw [← hCv, hv, hzero, mulVec_zero, mulVec_zero]

open scoped MatrixOrder in
theorem posSemidef_posterior_of_admissible (hP : P.PosSemidef) (hS : S.IsSymm) (hdet : IsUnit S.det)
    (h : Admissible (H * P * Hᵀ) (S - H * P * Hᵀ)) : (posterior H P S).PosSemidef := by
  obtain ⟨B, hB⟩ := CStarAlgebra.nonneg_iff_eq_star_mul_self.1 hP.nonneg
  replace hB : P = Bᵀ * B := hB
  have hM : H * P * Hᵀ = (B * Hᵀ)ᵀ * (B * Hᵀ) := by
    rw [hB, transpose_mul, transpose_transpose]
    simp only [Matrix.mul_assoc]
  rw [hM] at h
  have hpost : posterior H P S = Bᵀ * (1 - B * Hᵀ * S⁻¹ * (B * Hᵀ)ᵀ) * B := by
    rw [posterior_eq, hB, transpose_mul, transpose_transpose, Matrix.mul_sub, Matrix.sub_mul, Matrix.mul_one]
    simp only [Matrix.mul_assoc]
  rw [hpost]
  exact (posSemidef_one_sub hS hdet h).conjTranspose_mul_mul_same B

/-- **The posterior is a covariance exactly if the noise is admissible.** -/
theorem posSemidef_posterior_iff (hP : P.PosSemidef) (hS : S.IsSymm) (hdet : IsUnit S.det) :
    (posterior H P S).PosSemidef ↔ Admissible (H * P * Hᵀ) (S - H * P * Hᵀ) :=
  ⟨admissible_of_posSemidef_posterior hP hdet, posSemidef_posterior_of_admissible hP hS hdet⟩

end Ordered

end Kalman
