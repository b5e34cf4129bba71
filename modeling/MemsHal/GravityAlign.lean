import MemsHal.GravityFusion
/-!
# GravityAlign — `CompositeSensorCore::initRodrParams`: the first orientation

`matrixToQuat` takes the signs of the imaginary parts from differences across the diagonal.  They are lost if the real
part is zero, and a frame that `initRodrParams` makes has a real part of zero only upside down, where the signs do not
matter for the direction of gravity.
-/
namespace MemsHal

open Matrix Rotations

section Signs

variable {K : Type*} [Field K] [LinearOrder K] [IsStrictOrderedRing K] {m : Libm K}

/-- `copysign` takes the sign of a number that is not negative for positive. -/
def Libm.Signed (m : Libm K) : Prop := ∀ x y, m.copysign x y = if y < 0 then -|x| else |x|

/-- A factor gets its sign from the product. -/
theorem Libm.Signed.mul_copysign (hs : m.Signed) {w x d : K} (hw : 0 ≤ w) (hx : 0 ≤ x)
    (h : w * w * (x * x) = d * d) : w * m.copysign x d = d := by
  have habs : w * x = |d| := by
    rw [← mul_self_inj (mul_nonneg hw hx) (abs_nonneg d), abs_mul_abs_self, ← h]
    ring
  rw [hs, abs_of_nonneg hx]
  split
  · rename_i hd
    rw [mul_neg, habs, abs_of_neg hd, neg_neg]
  · rename_i hd
    rw [habs, abs_of_nonneg (not_lt.1 hd)]

/-- **The third column of a frame comes back**, unless the real part of the quaternion is zero and the column is not
along the third axis. -/
theorem Libm.Exact.col_matrixToQuat (h : m.Exact) (hs : m.Signed) {e n u : Fin 3 → K} (hf : Frame e n u)
    (hdown : Frame.quadrances e n u 3 = 0 → u 0 = 0 ∧ u 1 = 0) :
    (quatToMatrix (m.matrixToQuat (columns ![e, n, u]))).col 2 = u := by
  let s (i : Fin 4) : K := m.sqrt (clamp (Frame.quadrances e n u i) * 0.25)
  have hquarter : ∀ i, 0 ≤ clamp (Frame.quadrances e n u i) * 0.25 := fun i => by
    rw [clamp_of_nonneg (hf.quadrances_nonneg i)]
    exact mul_nonneg (hf.quadrances_nonneg i) (by norm_num)
  have hs0 : ∀ i, 0 ≤ s i := fun i => h.sqrt_nonneg _ (hquarter i)
  have hss : ∀ i, s i * s i = Frame.quadrances e n u i * 0.25 := fun i => by
    rw [h.sqrt_mul_self _ (hquarter i), clamp_of_nonneg (hf.quadrances_nonneg i)]
  obtain ⟨hwx, hwy, hwz, -⟩ := hf.mul_quadrances
  have hsigned : ∀ (i : Fin 4) {d : K}, Frame.quadrances e n u 3 * Frame.quadrances e n u i = d * d →
      4 * s 3 * m.copysign (s i) d = d := fun i d hd =>
    hs.mul_copysign (mul_nonneg (by norm_num) (hs0 3)) (hs0 i) (by
      linear_combination 16 * (s i * s i) * hss 3 + 4 * Frame.quadrances e n u 3 * hss i + hd)
  have hsquare : ∀ i d, m.copysign (s i) d * m.copysign (s i) d = Frame.quadrances e n u i * 0.25 :=
    fun i d => (h.copysign_mul_self _ _).trans (hss i)
  have hzero : s 3 = 0 → u 0 = 0 ∧ u 1 = 0 := fun h0 => hdown (by
    linear_combination 4 * s 3 * h0 - 4 * hss 3)
  obtain ⟨h0, h1, h2⟩ := hf.col_of_coords (hsigned 0 hwx) (hsigned 1 hwy) (hsigned 2 hwz) (hsquare 0 _) (hsquare 1 _)
    (hsquare 2 _) (hss 3) hzero
  ext i
  fin_cases i
  · exact h0
  · exact h1
  · exact h2

/-- A coordinate that is another one scaled down by the length of a part of a unit vector, and no larger, is zero. -/
theorem eq_zero_of_scaled {a b c l : K} (hu : a * a + b * b + c * c = 1) (hlen : l * l = c * c + b * b)
    (hle : |a| ≤ |b|) (he : -b * (1 / l) = a) : a = 0 ∧ b = 0 := by
  by_cases hl : l = 0
  · rw [hl, div_zero, mul_zero] at he
    have hb : b * b ≤ 0 := by
      rw [hl, mul_zero] at hlen
      nlinarith [mul_self_nonneg c]
    exact ⟨he.symm, mul_self_eq_zero.1 (le_antisymm hb (mul_self_nonneg b))⟩
  · have hscale : b = -(a * l) := by
      rw [← he]
      field_simp
    have hsq : b * b = a * a * (1 - a * a) := by
      rw [hscale]
      linear_combination a * a * hlen + a * a * hu
    have hfour : a * a * (a * a) ≤ 0 := by
      have hmul : a * a ≤ b * b := by
        rw [← abs_mul_abs_self a, ← abs_mul_abs_self b]
        exact mul_self_le_mul_self (abs_nonneg a) hle
      rw [hsq] at hmul
      linarith
    have h0 : a = 0 := mul_self_eq_zero.1 (mul_self_eq_zero.1 (le_antisymm hfour (mul_self_nonneg (a * a))))
    rw [h0, zero_mul, neg_zero] at hscale
    exact ⟨h0, hscale⟩

/-- A frame of `getOrthogonal` with no second difference across the diagonal is along the third axis. -/
theorem getOrthogonal_along (h : m.Exact) {u : Fin 3 → K} (hu : u ⬝ᵥ u = 1) (he : getOrthogonal m u 2 = u 0) :
    u 0 = 0 ∧ u 1 = 0 := by
  have hfirst : u 0 = 0 → |u 0| ≤ |u 1| ∧ |u 0| ≤ |u 2| := fun h0 => by
    rw [h0, abs_zero]
    exact ⟨abs_nonneg _, abs_nonneg _⟩
  unfold getOrthogonal at he
  split at he
  · rename_i hmin
    replace he : -u 1 * (1 / m.length ![0, u 2, -u 1]) = u 0 := he
    have hlen := h.length_mul_self ![0, u 2, -u 1]
    rw [vec3_dotProduct] at hlen hu
    simp only [cons_val] at hlen
    exact eq_zero_of_scaled hu (by linear_combination hlen) hmin.1 he
  · rename_i hmin
    split at he
    · -- a vector that is turned by a positive factor against itself is zero
      replace he : -u 0 * (1 / m.length ![u 2, 0, -u 0]) = u 0 := he
      have hc : 0 ≤ 1 / m.length ![u 2, 0, -u 0] := div_nonneg zero_le_one (h.sqrt_nonneg _ (dotProduct_self_nonneg _))
      have h0 : u 0 * (1 + 1 / m.length ![u 2, 0, -u 0]) = 0 := by linear_combination -he
      rcases mul_eq_zero.1 h0 with h0 | h0
      · exact absurd (hfirst h0) hmin
      · linarith
    · replace he : 0 * (1 / m.length ![u 1, -u 0, 0]) = u 0 := he
      rw [zero_mul] at he
      exact absurd (hfirst he.symm) hmin

end Signs

namespace GravityFusion

/-- **The first orientation** (`initRodrParams`) turns the third axis to the direction of the acceleration that it is
given, whatever that is, if it is not zero. -/
theorem col_initRodrParams (invert : Mat33 ℝ → Mat33 ℝ) (mSamplingPeriodNs : Int) (f : GravityFusion ℝ)
    {acc : Fin 3 → ℝ} (hacc : acc ≠ 0) :
    (quatToMatrix (f.initRodrParams (.real invert mSamplingPeriodNs) acc).mX0).col 2 =
      (Libm.real.length acc)⁻¹ • acc := by
  have hexact : Libm.real.Exact := Libm.real_exact
  have hframe := frame_rodrParams (p := .real invert mSamplingPeriodNs) hexact hacc
  refine (Libm.Exact.col_matrixToQuat hexact (fun _ _ => rfl) hframe (fun h0 => ?_)).trans ?_
  · have hdiff := hframe.mul_quadrances.2.1
    rw [h0, zero_mul] at hdiff
    exact getOrthogonal_along hexact hframe.unit_u (sub_eq_zero.1 (mul_self_eq_zero.1 hdiff.symm))
  · exact (Libm.real.normalize_eq_smul acc).trans (by rw [one_div])

/-- Upside down, where the real part is zero. -/
theorem col_initRodrParams_upsideDown :
    (quatToMatrix (smi330Gravity.initRodrParams (.real id 0) ![0, 0, -9.80665]).mX0).col 2 =
      (Libm.real.length ![0, 0, -9.80665])⁻¹ • ![0, 0, -9.80665] :=
  col_initRodrParams id 0 smi330Gravity fun h0 => by
    have h2 : (-9.80665 : ℝ) = 0 := congrFun h0 2
    norm_num at h2

end GravityFusion

end MemsHal
