import MemsHal.GravityFusion
import MemsHal.Kalman
/-!
# GravityUpdate — the covariance in `CompositeSensorCore::update`

Between reading its arguments and `checkState`, `update` is a measurement step of a Kalman filter
(`covariance_update`), for the matrix `S` that it has.  That matrix comes from `scaleCovariance`, which counts the
entries of `P` off its diagonal twice on one side and never on the other, and so computes `A * P * transpose(A)` for few
matrices besides the diagonal ones (`scaleCovariance_eq_iff`).  The update then keeps the covariance positive
semidefinite only where the noise that it adds by mistake is admissible (`posSemidef_update_iff`).
-/
namespace MemsHal

open Matrix Rotations

section ScaleCovariance

variable {K : Type*} [Field K] [LinearOrder K]

/-- The entries of a symmetric matrix off its diagonal, as the vector of the rotation they would be. -/
def offDiagonal (P : Mat33 K) : Fin 3 → K := ![P 1 2, -P 0 2, P 0 1]

/-- What `scaleCovariance` adds to `L * P * transpose(L)` for the cross matrix `L` of `b`, if `b` does not meet
`offDiagonal P` at a right angle. -/
def spread (b : Fin 3 → K) : Mat33 K := of ![![0, b 2, -b 1], ![b 2, 0, b 0], ![-b 1, b 0, 0]]

variable [IsStrictOrderedRing K]

/-- **One entry of `scaleCovariance`.** -/
theorem apat_eq (A : Mat33 K) {P : Mat33 K} (hP : P.IsSymm) (r j : Fin 3) :
    apat A P r j = (A * P * Aᵀ) r j - (A r ⨯₃ A j) ⬝ᵥ offDiagonal P := by
  have h01 : P 1 0 = P 0 1 := hP.apply 0 1
  have h02 : P 2 0 = P 0 2 := hP.apply 0 2
  have h12 : P 2 1 = P 1 2 := hP.apply 1 2
  have hf0 : Finset.univ.filter ((0 : Fin 3) < ·) = {1, 2} := by decide
  have hf1 : Finset.univ.filter ((1 : Fin 3) < ·) = {2} := by decide
  have hf2 : Finset.univ.filter ((2 : Fin 3) < ·) = ∅ := by decide
  rw [vec3_dotProduct]
  simp only [apat, mul_apply, transpose_apply, Fin.sum_univ_three, col_apply, hf0, hf1, hf2, Finset.sum_empty,
    Finset.sum_singleton, Finset.sum_pair (show (1 : Fin 3) ≠ 2 by decide), h01, h02, h12, cross_apply, offDiagonal,
    cons_val]
  ring

omit [LinearOrder K] [IsStrictOrderedRing K] in
theorem isSymm_scaleCovariance (A P : Mat33 K) : (scaleCovariance A P).IsSymm := by
  ext i j
  show apat A P (min j i) (max j i) = apat A P (min i j) (max i j)
  rw [min_comm, max_comm]

omit [LinearOrder K] [IsStrictOrderedRing K] in
theorem isSymm_congruence (A : Mat33 K) {P : Mat33 K} (hP : P.IsSymm) : (A * P * Aᵀ).IsSymm := by
  rw [IsSymm, transpose_mul, transpose_mul, transpose_transpose, hP.eq, Matrix.mul_assoc]

omit [LinearOrder K] [IsStrictOrderedRing K] in
/-- A symmetric matrix is the result if it has the sums above the diagonal. -/
theorem scaleCovariance_eq_of_le {A P M : Mat33 K} (hM : M.IsSymm) (h : ∀ r j, r ≤ j → apat A P r j = M r j) :
    scaleCovariance A P = M := by
  ext i j
  show apat A P (min i j) (max i j) = M i j
  rcases le_total i j with hij | hji
  · rw [min_eq_left hij, max_eq_right hij, h i j hij]
  · rw [min_eq_right hji, max_eq_left hji, h j i hji, hM.apply]

/-- **`scaleCovariance` computes what its comment says** exactly if the cross product of any two rows of `A` is at a
right angle with the entries of `P` off its diagonal. -/
theorem scaleCovariance_eq_iff (A : Mat33 K) {P : Mat33 K} (hP : P.IsSymm) :
    scaleCovariance A P = A * P * Aᵀ ↔ ∀ r j, r < j → (A r ⨯₃ A j) ⬝ᵥ offDiagonal P = 0 := by
  constructor
  · intro h r j hrj
    have hentry : apat A P (min r j) (max r j) = (A * P * Aᵀ) r j := congrFun (congrFun h r) j
    rw [min_eq_left hrj.le, max_eq_right hrj.le, apat_eq A hP] at hentry
    exact sub_eq_self.1 hentry
  · intro h
    refine scaleCovariance_eq_of_le (isSymm_congruence A hP) (fun r j hrj => ?_)
    rw [apat_eq A hP]
    rcases hrj.lt_or_eq with hlt | rfl
    · rw [h r j hlt, sub_zero]
    · rw [cross_self, zero_dotProduct, sub_zero]

omit [LinearOrder K] [IsStrictOrderedRing K] in
/-- The cross products of the rows of a cross matrix. -/
theorem crossMatrix_cross (b : Fin 3 → K) {r j : Fin 3} (hrj : r < j) :
    crossMatrix b 0 r ⨯₃ crossMatrix b 0 j = spread b r j • b := by
  fin_cases r <;> fin_cases j <;> first | exact absurd hrj (by decide) | skip
  all_goals
    ext i
    fin_cases i <;> (simp [cross_apply, crossMatrix, columns, spread]; try ring)

/-- **`scaleCovariance` of a cross matrix**, as `update` calls it. -/
theorem scaleCovariance_crossMatrix (b : Fin 3 → K) {P : Mat33 K} (hP : P.IsSymm) :
    scaleCovariance (crossMatrix b 0) P =
      crossMatrix b 0 * P * (crossMatrix b 0)ᵀ - (b ⬝ᵥ offDiagonal P) • spread b := by
  have hspread : (spread b).IsSymm := by
    ext i j
    fin_cases i <;> fin_cases j <;> rfl
  refine scaleCovariance_eq_of_le ((isSymm_congruence _ hP).sub (hspread.smul _)) (fun r j hrj => ?_)
  rw [apat_eq _ hP, Matrix.sub_apply, Matrix.smul_apply, smul_eq_mul]
  rcases hrj.lt_or_eq with hlt | rfl
  · rw [crossMatrix_cross b hlt, smul_dotProduct, smul_eq_mul, mul_comm]
  · have hdiag : spread b r r = 0 := by fin_cases r <;> rfl
    rw [cross_self, zero_dotProduct, hdiag, mul_zero]

end ScaleCovariance

/-- A covariance with an entry off the diagonal, that no rotation about the third axis mixes in. -/
def coupled : Mat33 ℚ := of ![![2, 0, 1], ![0, 3, 1], ![1, 1, 4]]

theorem scaleCovariance_coupled :
    scaleCovariance (crossMatrix ![0, 0, 1] 0) coupled =
      crossMatrix ![0, 0, 1] 0 * coupled * (crossMatrix ![0, 0, 1] 0)ᵀ :=
  (scaleCovariance_eq_iff _ (by decide)).2 fun r j hrj => by
    rw [crossMatrix_cross _ hrj, smul_dotProduct, vec3_dotProduct]
    simp [offDiagonal, coupled]

/-- **Scaling by the unit matrix loses the entries off the diagonal.** -/
theorem scaleCovariance_one_coupled_ne : coupled.IsSymm ∧ scaleCovariance 1 coupled ≠ 1 * coupled * (1 : Mat33 ℚ)ᵀ := by
  have hsymm : coupled.IsSymm := by decide
  refine ⟨hsymm, fun h => ?_⟩
  have hentry : apat 1 coupled 0 2 = (1 * coupled * (1 : Mat33 ℚ)ᵀ) 0 2 := congrFun (congrFun h 0) 2
  rw [apat_eq 1 hsymm, sub_eq_self, vec3_dotProduct] at hentry
  simp [cross_apply, offDiagonal, coupled] at hentry

namespace GravityFusion

section Definitions

variable {K : Type*} [Field K] [LinearOrder K] (p : Platform K) (f : GravityFusion K)

/-! ## `update` up to `checkState` -/

/-- `Bb`, the reference vector in body space. -/
def bodyVector (Bi : Fin 3 → K) : Fin 3 → K := quatToMatrix f.mX0 *ᵥ Bi

/-- `L` -/
def sensitivity (Bi : Fin 3 → K) : Mat33 K := crossMatrix (f.bodyVector Bi) 0

/-- `S` -/
def innovation (Bi : Fin 3 → K) (sigma : K) : Mat33 K :=
  scaleCovariance (f.sensitivity Bi) (f.mP.col 0 0) + .ofScalar (sigma * sigma)

/-- `LtSi` -/
def weight (Bi : Fin 3 → K) (sigma : K) : Mat33 K := (f.sensitivity Bi)ᵀ * p.invert (f.innovation Bi sigma)

/-- `K[0]` -/
def gain0 (Bi : Fin 3 → K) (sigma : K) : Mat33 K := f.mP.col 0 0 * f.weight p Bi sigma

/-- `K[1]` -/
def gain1 (Bi : Fin 3 → K) (sigma : K) : Mat33 K := (f.mP.col 1 0)ᵀ * f.weight p Bi sigma

/-- The quaternion that `update` normalizes. -/
def corrected (z Bi : Fin 3 → K) (sigma : K) : Fin 4 → K :=
  f.mX0 + getF f.mX0 *ᵥ ((0.5 : K) • (f.gain0 p Bi sigma *ᵥ (z - f.bodyVector Bi)))

/-- What `update` passes to `checkState`. -/
def measured (z Bi : Fin 3 → K) (sigma : K) : GravityFusion K :=
  let K0L := f.gain0 p Bi sigma * f.sensitivity Bi
  let K1L := f.gain1 p Bi sigma * f.sensitivity Bi
  let P10 := f.mP.col 1 0 - K0L * f.mP.col 1 0
  { f with
    mP := columns ![![f.mP.col 0 0 - K0L * f.mP.col 0 0, P10ᵀ], ![P10, f.mP.col 1 1 - K1L * f.mP.col 1 0]]
    mX0 := p.normalize_quat (f.corrected p z Bi sigma)
    mX1 := f.mX1 + f.gain1 p Bi sigma *ᵥ (z - f.bodyVector Bi) }

theorem update_eq (z Bi : Fin 3 → K) (sigma : K) :
    f.update p z Bi sigma = (f.measured p z Bi sigma).checkState := rfl

end Definitions

/-- The whole covariance. -/
def covariance {K : Type*} (f : GravityFusion K) : Matrix (Fin 3 ⊕ Fin 3) (Fin 3 ⊕ Fin 3) K :=
  fromBlocks (f.mP.col 0 0) (f.mP.col 1 0) (f.mP.col 0 1) (f.mP.col 1 1)

/-- The blocks of a symmetric covariance. -/
theorem covariance_eq {K : Type*} {f : GravityFusion K} (hP : f.covariance.IsSymm) :
    f.covariance = fromBlocks (f.mP.col 0 0) (f.mP.col 1 0) (f.mP.col 1 0)ᵀ (f.mP.col 1 1) ∧
      (f.mP.col 0 0).IsSymm := by
  obtain ⟨h00, h10, -, -⟩ := isSymm_fromBlocks_iff.1 hP
  exact ⟨by rw [covariance, h10], h00⟩

theorem isSymm_innovation {K : Type*} [Field K] (f : GravityFusion K) (Bi : Fin 3 → K) (sigma : K) :
    (f.innovation Bi sigma).IsSymm :=
  (isSymm_scaleCovariance _ _).add (diagonal_transpose _)

section Update

variable {K : Type*} [Field K] [LinearOrder K] {p : Platform K} {f : GravityFusion K}

/-- What `update` leaves is the posterior for the `S` that it has. -/
theorem covariance_measured (hinv : ∀ M : Mat33 K, IsUnit M.det → p.invert M = M⁻¹) (hP : f.covariance.IsSymm)
    (z Bi : Fin 3 → K) (sigma : K) (hS : IsUnit (f.innovation Bi sigma).det) :
    (f.measured p z Bi sigma).covariance =
      Kalman.posterior (fromCols (f.sensitivity Bi) 0) f.covariance (f.innovation Bi sigma) := by
  obtain ⟨hblocks, h00⟩ := covariance_eq hP
  rw [hblocks, Kalman.posterior_fromBlocks _ _ _ h00 (isSymm_innovation f Bi sigma), ← hinv _ hS]
  rfl

/-- **`update` is a Kalman update**: what it passes to `checkState` is `(I - K * H) * P` with `H = [L 0]` and the gain
`K = P * transpose(H) * invert(S)`, and symmetric. -/
theorem covariance_update (hinv : ∀ M : Mat33 K, IsUnit M.det → p.invert M = M⁻¹) (hP : f.covariance.IsSymm)
    (z Bi : Fin 3 → K) (sigma : K) (hS : IsUnit (f.innovation Bi sigma).det) :
    let H := fromCols (f.sensitivity Bi) (0 : Mat33 K)
    let K := f.covariance * Hᵀ * (f.innovation Bi sigma)⁻¹
    f.update p z Bi sigma = (f.measured p z Bi sigma).checkState ∧
      (f.measured p z Bi sigma).covariance = (1 - K * H) * f.covariance ∧
      (f.measured p z Bi sigma).covariance.IsSymm := by
  have hpost := covariance_measured hinv hP z Bi sigma hS
  refine ⟨update_eq p f z Bi sigma, hpost, ?_⟩
  rw [hpost]
  exact Kalman.isSymm_posterior _ hP (isSymm_innovation f Bi sigma)

end Update

/-! ## Positive semidefiniteness -/

section Semidefinite

variable {p : Platform ℝ} {f : GravityFusion ℝ}

/-- The covariance of the measured vector. -/
noncomputable def bodyCovariance (f : GravityFusion ℝ) (Bi : Fin 3 → ℝ) : Mat33 ℝ :=
  f.sensitivity Bi * f.mP.col 0 0 * (f.sensitivity Bi)ᵀ

/-- What `update` adds to it. -/
noncomputable def noise (f : GravityFusion ℝ) (Bi : Fin 3 → ℝ) (sigma : ℝ) : Mat33 ℝ :=
  .ofScalar (sigma * sigma) - (f.bodyVector Bi ⬝ᵥ offDiagonal (f.mP.col 0 0)) • spread (f.bodyVector Bi)

theorem innovation_eq (hP : f.covariance.IsSymm) (Bi : Fin 3 → ℝ) (sigma : ℝ) :
    f.innovation Bi sigma - f.bodyCovariance Bi = f.noise Bi sigma := by
  unfold innovation bodyCovariance noise sensitivity
  rw [scaleCovariance_crossMatrix _ (covariance_eq hP).2]
  abel

theorem measured_covariance (hP : f.covariance.IsSymm) (Bi : Fin 3 → ℝ) :
    fromCols (f.sensitivity Bi) (0 : Mat33 ℝ) * f.covariance * (fromCols (f.sensitivity Bi) (0 : Mat33 ℝ))ᵀ =
      f.bodyCovariance Bi := by
  rw [(covariance_eq hP).1, fromCols_mul_fromBlocks, transpose_fromCols, fromCols_mul_fromRows]
  simp only [Matrix.zero_mul, Matrix.mul_zero, transpose_zero, add_zero]
  rfl

/-- **`update` keeps the covariance positive semidefinite** exactly if the noise that it adds is admissible. -/
theorem posSemidef_update_iff (hinv : ∀ M : Mat33 ℝ, IsUnit M.det → p.invert M = M⁻¹) (hP : f.covariance.PosSemidef)
    (z Bi : Fin 3 → ℝ) (sigma : ℝ) (hS : IsUnit (f.innovation Bi sigma).det) :
    f.update p z Bi sigma = (f.measured p z Bi sigma).checkState ∧
      ((f.measured p z Bi sigma).covariance.PosSemidef ↔
        Kalman.Admissible (f.bodyCovariance Bi) (f.noise Bi sigma)) := by
  have hsymm : f.covariance.IsSymm := hP.isHermitian
  refine ⟨update_eq p f z Bi sigma, ?_⟩
  rw [covariance_measured hinv hsymm z Bi sigma hS,
    Kalman.posSemidef_posterior_iff hP (isSymm_innovation f Bi sigma) hS, measured_covariance hsymm,
    innovation_eq hsymm]

/-- An update whose noise is positive definite can be carried out. -/
theorem isUnit_innovation (hP : f.covariance.PosSemidef) {Bi : Fin 3 → ℝ} {sigma : ℝ}
    (hnoise : (f.noise Bi sigma).PosDef) : IsUnit (f.innovation Bi sigma).det := by
  have hsymm : f.covariance.IsSymm := hP.isHermitian
  have hbody : (f.bodyCovariance Bi).PosSemidef := by
    rw [← measured_covariance hsymm]
    exact Kalman.posSemidef_measured hP _
  have hsum : f.innovation Bi sigma = f.bodyCovariance Bi + f.noise Bi sigma := by
    rw [← innovation_eq hsymm, add_sub_cancel]
  rw [hsum]
  exact (hnoise.posSemidef_add hbody).isUnit.map detMonoidHom

/-- Where the covariance of the orientation is diagonal, the noise is that of the measurement. -/
theorem noise_eq (Bi : Fin 3 → ℝ) (sigma : ℝ) (h : offDiagonal (f.mP.col 0 0) = 0) :
    f.noise Bi sigma = .ofScalar (sigma * sigma) := by
  unfold noise
  rw [h, dotProduct_zero, zero_smul, sub_zero]

end Semidefinite

/-! ## Two updates -/

theorem quatToMatrix_one : quatToMatrix (![0, 0, 0, 1] : Fin 4 → ℝ) = 1 := by
  ext i j
  fin_cases i <;> fin_cases j <;> simp [quatToMatrix, columns]

/-- A level sensor that is as unsure of its bias as of its orientation. -/
noncomputable def level : GravityFusion ℝ :=
  { smi330Gravity with mX0 := ![0, 0, 0, 1], mP := columns ![![2, 1], ![1, 2]] }

theorem posSemidef_level : level.covariance.PosSemidef := by
  let twice : Matrix (Fin 3) (Fin 3 ⊕ Fin 3) ℝ := fromCols 1 1
  have hsum : level.covariance = twiceᴴ * twice + 1 := by
    rw [conjTranspose_fromCols_eq_fromRows_conjTranspose, fromRows_mul_fromCols, ← fromBlocks_one, fromBlocks_add]
    simp only [conjTranspose_one, Matrix.mul_one, add_zero, one_add_one_eq_two]
    rfl
  rw [hsum]
  exact (posSemidef_conjTranspose_mul_self _).add .one

theorem noise_level : level.noise ![0, 0, 1] 1 = 1 := by
  have hdiag : offDiagonal (level.mP.col 0 0) = 0 := by
    ext i
    fin_cases i <;> simp [offDiagonal, level, columns, ofNat_apply]
  rw [noise_eq _ _ hdiag]
  exact (congrArg diagonal (funext fun _ => mul_one 1)).trans diagonal_one

theorem isUnit_level : IsUnit (level.innovation ![0, 0, 1] 1).det :=
  isUnit_innovation posSemidef_level (by rw [noise_level]; exact .one)

theorem covariance_update_level :
    let p := Platform.real (fun M => M⁻¹) 0
    let H := fromCols (level.sensitivity ![0, 0, 1]) (0 : Mat33 ℝ)
    let K := level.covariance * Hᵀ * (level.innovation ![0, 0, 1] 1)⁻¹
    level.update p ![0, 0, 1] ![0, 0, 1] 1 = (level.measured p ![0, 0, 1] ![0, 0, 1] 1).checkState ∧
      (level.measured p ![0, 0, 1] ![0, 0, 1] 1).covariance = (1 - K * H) * level.covariance ∧
      (level.measured p ![0, 0, 1] ![0, 0, 1] 1).covariance.IsSymm :=
  covariance_update (fun _ _ => rfl) posSemidef_level.isHermitian ![0, 0, 1] ![0, 0, 1] 1 isUnit_level

theorem posSemidef_update_level :
    (level.measured (.real (fun M => M⁻¹) 0) ![0, 0, 1] ![0, 0, 1] 1).covariance.PosSemidef := by
  have hiff := posSemidef_update_iff (p := .real (fun M => M⁻¹) 0) (fun _ _ => rfl) posSemidef_level ![0, 0, 1]
    ![0, 0, 1] 1 isUnit_level
  refine hiff.2.2 (Kalman.admissible_of_posSemidef ?_ ?_)
  · rw [← measured_covariance posSemidef_level.isHermitian]
    exact Kalman.posSemidef_measured posSemidef_level _
  · rw [noise_level]
    exact .one

/-- The second and the third axis are known together. -/
noncomputable def axesTogether : Mat33 ℝ := of ![![1, 0, 0], ![0, 1, 1 / 4], ![0, 1 / 4, 1]]

noncomputable def together : GravityFusion ℝ :=
  { smi330Gravity with mX0 := ![0, 0, 0, 1], mP := columns ![![axesTogether, 0], ![0, 0]] }

theorem posSemidef_together : together.covariance.PosSemidef := by
  have hblock : axesTogether.PosSemidef := by
    refine .of_dotProduct_mulVec_nonneg ?_ (fun x => ?_)
    · ext i j
      fin_cases i <;> fin_cases j <;> rfl
    · rw [vec3_dotProduct]
      simp only [mulVec_three, axesTogether, of_apply, cons_val, Pi.star_apply, star_trivial]
      nlinarith [mul_self_nonneg (x 0), mul_self_nonneg (x 1 + x 2), mul_self_nonneg (x 1 - x 2)]
  have hsum : together.covariance =
      (fromCols (1 : Mat33 ℝ) (0 : Mat33 ℝ))ᴴ * axesTogether * fromCols (1 : Mat33 ℝ) (0 : Mat33 ℝ) := by
    rw [conjTranspose_fromCols_eq_fromRows_conjTranspose, fromRows_mul, fromRows_mul_fromCols]
    simp only [conjTranspose_one, conjTranspose_zero, Matrix.one_mul, Matrix.mul_one, Matrix.zero_mul, Matrix.mul_zero]
    rfl
  rw [hsum]
  exact hblock.conjTranspose_mul_mul_same _

theorem bodyVector_together : together.bodyVector ![1, 0, 0] = ![1, 0, 0] := by
  unfold bodyVector
  rw [show together.mX0 = ![0, 0, 0, 1] from rfl, quatToMatrix_one, one_mulVec]

theorem bodyCovariance_together :
    together.bodyCovariance ![1, 0, 0] = of ![![0, 0, 0], ![0, 1, -1 / 4], ![0, -1 / 4, 1]] := by
  unfold bodyCovariance sensitivity
  rw [bodyVector_together, show together.mP.col 0 0 = axesTogether from rfl]
  ext i j
  fin_cases i <;> fin_cases j <;>
    simp [mul_apply, Fin.sum_univ_three, crossMatrix, columns, axesTogether] <;> norm_num

theorem noise_together :
    together.noise ![1, 0, 0] (1 / 10) = of ![![1 / 100, 0, 0], ![0, 1 / 100, -1 / 4], ![0, -1 / 4, 1 / 100]] := by
  unfold noise
  rw [bodyVector_together, show together.mP.col 0 0 = axesTogether from rfl]
  ext i j
  fin_cases i <;> fin_cases j <;>
    simp [Mat33.ofScalar, offDiagonal, spread, axesTogether] <;> norm_num

/-- **A covariance that `update` makes negative**, though it may invert `S`. -/
theorem not_posSemidef_update_together :
    together.mX0 ⬝ᵥ together.mX0 = 1 ∧ together.covariance.PosSemidef ∧
      IsUnit (together.innovation ![1, 0, 0] (1 / 10)).det ∧
      ¬ (together.measured (.real (fun M => M⁻¹) 0) ![1, 0, 0] ![1, 0, 0] (1 / 10)).covariance.PosSemidef := by
  have hsymm : together.covariance.IsSymm := posSemidef_together.isHermitian
  have hS : IsUnit (together.innovation ![1, 0, 0] (1 / 10)).det := by
    have hsum : together.innovation ![1, 0, 0] (1 / 10) =
        together.bodyCovariance ![1, 0, 0] + together.noise ![1, 0, 0] (1 / 10) := by
      rw [← innovation_eq hsymm, add_sub_cancel]
    rw [hsum, bodyCovariance_together, noise_together, isUnit_iff_ne_zero, det_fin_three]
    simp only [Matrix.add_apply, of_apply, cons_val]
    norm_num
  refine ⟨?_, posSemidef_together, hS, fun h => ?_⟩
  · rw [dotProduct_four]
    simp [together]
  · rw [covariance_measured (p := .real (fun M => M⁻¹) 0) (fun _ _ => rfl) hsymm _ _ _ hS] at h
    have hadm := Kalman.admissible_of_posSemidef_posterior posSemidef_together hS h
    rw [measured_covariance hsymm, innovation_eq hsymm, bodyCovariance_together, noise_together] at hadm
    have hzero := hadm ![0, 1, 1] (-8 / 25) (by
      ext i
      fin_cases i <;> simp [mulVec_three] <;> norm_num) (by norm_num) (by norm_num)
    have hsecond := congrFun hzero 1
    simp [mulVec_three] at hsecond
    norm_num at hsecond

end GravityFusion

end MemsHal
