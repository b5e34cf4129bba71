import MemsHal.GaussJordan
import MemsHal.GravityUpdate
/-!
# MatInvert — `core/utils/mat.h`: `invert`

The elimination takes `m[c][r]` for row `c`: it inverts the transpose, and what it returns is transposed again.  The
search for a pivot compares every candidate with the entry on the diagonal, so it ends at the last candidate above it,
which need not be the largest.  For numbers without rounding any candidate that is not 0 will do.
-/
namespace MemsHal

open Matrix GaussJordan

section Definitions

variable {K : Type*} [Field K] [LinearOrder K] {N : Nat}

/-- The loop that sets `swap`. -/
def pivotRow (tmp : Matrix (Fin N) (Fin N) K) (i : Fin N) : Fin N :=
  ((List.finRange N).filter (i < ·)).foldl (fun swap j => if |tmp i i| < |tmp j i| then j else swap) i

/-- The rows are swapped. -/
def swapPivot (i : Fin N) (p : Pair K N) : Pair K N :=
  let swap := pivotRow p.tmp i
  if swap ≠ i then p.map (swapRows i swap) else p

/-- The body of the loop over `i`. -/
def invertColumn (i : Fin N) (p : Pair K N) : Pair K N :=
  let p := swapPivot i p
  let t := 1 / p.tmp i i
  (p.map (scaleRow i t)).clearColumn i

/-- `tmp` and `inverse` after `k` passes of the loop. -/
def invertLoop (src : Matrix (Fin N) (Fin N) K) : Nat → Pair K N
  | 0     => .start (of fun c => src.col c)
  | k + 1 => if h : k < N then invertColumn ⟨k, h⟩ (invertLoop src k) else invertLoop src k

def invert (src : Matrix (Fin N) (Fin N) K) : Matrix (Fin N) (Fin N) K := columns (invertLoop src N).inverse

/-- What `invert` divides by, in the order of the passes. -/
def invertDivisors (src : Matrix (Fin N) (Fin N) K) : List K :=
  (List.finRange N).map fun i => (swapPivot i (invertLoop src i)).tmp i i

end Definitions

section Facts

variable {K : Type*} [Field K] [LinearOrder K] {N : Nat}

/-! ### The search for a pivot -/

/-- The search ends at the diagonal, with no candidate above it, or at a candidate. -/
theorem pivotRow_cases (tmp : Matrix (Fin N) (Fin N) K) (i : Fin N) :
    (pivotRow tmp i = i ∧ ∀ j, i < j → |tmp j i| ≤ |tmp i i|) ∨
      (i < pivotRow tmp i ∧ |tmp i i| < |tmp (pivotRow tmp i) i|) := by
  have hfold : ∀ (l : List (Fin N)) (swap : Fin N), (∀ j ∈ l, i < j) →
      (l.foldl (fun swap j => if |tmp i i| < |tmp j i| then j else swap) swap = swap ∧ ∀ j ∈ l, |tmp j i| ≤ |tmp i i|) ∨
        (i < l.foldl (fun swap j => if |tmp i i| < |tmp j i| then j else swap) swap ∧
          |tmp i i| < |tmp (l.foldl (fun swap j => if |tmp i i| < |tmp j i| then j else swap) swap) i|) := by
    intro l
    induction l with
    | nil => exact fun swap _ => Or.inl ⟨rfl, nofun⟩
    | cons j l ih =>
      intro swap hl
      obtain ⟨hj, hl⟩ := List.forall_mem_cons.1 hl
      rw [List.foldl_cons]
      by_cases hgt : |tmp i i| < |tmp j i|
      · rw [if_pos hgt]
        rcases ih j hl with ⟨heq, -⟩ | hright
        · rw [heq]
          exact Or.inr ⟨hj, hgt⟩
        · exact Or.inr hright
      · rw [if_neg hgt]
        rcases ih swap hl with ⟨heq, hle⟩ | hright
        · exact Or.inl ⟨heq, List.forall_mem_cons.2 ⟨not_lt.1 hgt, hle⟩⟩
        · exact Or.inr hright
  rcases hfold ((List.finRange N).filter (i < ·)) i fun j hj => of_decide_eq_true (List.mem_filter.1 hj).2 with
    ⟨heq, hle⟩ | hright
  · exact Or.inl ⟨heq, fun j hj => hle j (List.mem_filter.2 ⟨List.mem_finRange j, decide_eq_true hj⟩)⟩
  · exact Or.inr hright

theorem picks_pivotRow [IsStrictOrderedRing K] : Picks (pivotRow : Matrix (Fin N) (Fin N) K → Fin N → Fin N) where
  le tmp i := by
    rcases pivotRow_cases tmp i with ⟨heq, -⟩ | ⟨hlt, -⟩
    · exact heq.ge
    · exact hlt.le
  ne_zero tmp i j hij hne := by
    rcases pivotRow_cases tmp i with ⟨heq, hle⟩ | ⟨-, hgt⟩
    · rw [heq]
      rcases hij.eq_or_lt with rfl | hlt
      · exact hne
      · exact abs_pos.1 (lt_of_lt_of_le (abs_pos.2 hne) (hle j hlt))
    · exact abs_pos.1 (lt_of_le_of_lt (abs_nonneg _) hgt)

/-! ### The loop is the elimination -/

theorem swapPivot_eq (i : Fin N) (p : Pair K N) : swapPivot i p = p.map (swapRows i (pivotRow p.tmp i)) := by
  unfold swapPivot
  dsimp only
  split
  · rfl
  · rename_i heq
    have hself : ∀ M : Matrix (Fin N) (Fin N) K, swapRows i i M = M := fun M => by
      unfold swapRows
      rw [Equiv.swap_self]
      rfl
    rw [Decidable.not_not.1 heq, Pair.map, hself, hself]

theorem swapPivot_diagonal (i : Fin N) (p : Pair K N) : (swapPivot i p).tmp i i = pivot pivotRow i p := by
  rw [swapPivot_eq]
  show p.tmp (Equiv.swap i (pivotRow p.tmp i) i) i = p.tmp (pivotRow p.tmp i) i
  rw [Equiv.swap_apply_left]

theorem invertColumn_eq (i : Fin N) (p : Pair K N) : invertColumn i p = eliminate pivotRow i p := by
  unfold invertColumn eliminate
  dsimp only
  rw [swapPivot_diagonal, swapPivot_eq]

theorem invertLoop_eq (src : Matrix (Fin N) (Fin N) K) : ∀ k, invertLoop src k = passes pivotRow srcᵀ k
  | 0 => rfl
  | k + 1 => by
    unfold invertLoop passes
    rw [invertLoop_eq src k]
    split
    · exact invertColumn_eq _ _
    · rfl

theorem invertDivisors_eq (src : Matrix (Fin N) (Fin N) K) : invertDivisors src = pivots pivotRow srcᵀ := by
  unfold invertDivisors pivots
  refine List.map_congr_left fun i _ => ?_
  rw [swapPivot_diagonal, invertLoop_eq]

/-! ### What `invert` computes -/

variable [IsStrictOrderedRing K]

/-- Its divisions are by numbers other than 0 exactly for a regular matrix. -/
theorem divisors_invert (src : Matrix (Fin N) (Fin N) K) : (∀ d ∈ invertDivisors src, d ≠ 0) ↔ IsUnit src.det := by
  rw [invertDivisors_eq, pivots_ne_zero_iff picks_pivotRow, det_transpose]

theorem mul_invert_self {src : Matrix (Fin N) (Fin N) K} (hdet : IsUnit src.det) : src * invert src = 1 := by
  have hdet' : IsUnit srcᵀ.det := by rwa [det_transpose]
  have hmul := inverse_mul picks_pivotRow hdet'
  rw [← invertLoop_eq] at hmul
  calc src * invert src = ((invertLoop src N).inverse * srcᵀ)ᵀ := by rw [transpose_mul, transpose_transpose]; rfl
    _ = 1 := by rw [hmul, transpose_one]

theorem invert_of_isUnit {src : Matrix (Fin N) (Fin N) K} (hdet : IsUnit src.det) : invert src = src⁻¹ :=
  (inv_eq_right_inv (mul_invert_self hdet)).symm

/-- **`invert` divides by 0 exactly for singular matrices**, and every other matrix it inverts, on both sides. -/
theorem invert_right (src : Matrix (Fin N) (Fin N) K) :
    ((∀ d ∈ invertDivisors src, d ≠ 0) ↔ src.det ≠ 0) ∧
      (src.det ≠ 0 → src * invert src = 1 ∧ invert src * src = 1) := by
  refine ⟨(divisors_invert src).trans isUnit_iff_ne_zero, fun hdet => ?_⟩
  have hmul := mul_invert_self (isUnit_iff_ne_zero.2 hdet)
  exact ⟨hmul, mul_eq_one_comm.1 hmul⟩

/-- Two rows have to be swapped first. -/
theorem invert_right_swapped :
    (∀ d ∈ invertDivisors (!![0, 2; 1, 3] : Matrix (Fin 2) (Fin 2) ℚ), d ≠ 0) ∧
      !![0, 2; 1, 3] * invert (!![0, 2; 1, 3] : Matrix (Fin 2) (Fin 2) ℚ) = 1 := by
  have hdet : (!![0, 2; 1, 3] : Matrix (Fin 2) (Fin 2) ℚ).det ≠ 0 := by
    rw [det_fin_two_of]
    norm_num
  have h := invert_right (!![0, 2; 1, 3] : Matrix (Fin 2) (Fin 2) ℚ)
  exact ⟨h.1.2 hdet, (h.2 hdet).1⟩

/-! ### The filter with it -/

/-- The filter with the `invert` that it is compiled with. -/
def Platform.compiled (p : Platform K) : Platform K := { p with invert := MemsHal.invert }

/-- **The measurement update as it is compiled**: its inversion divides by 0 exactly if the `S` that it builds is
singular; otherwise what it passes to `checkState` is the Kalman update of the covariance. -/
theorem GravityFusion.covariance_compiled (p : Platform K) (f : GravityFusion K) (hP : f.covariance.IsSymm)
    (z Bi : Fin 3 → K) (sigma : K) :
    let S := f.innovation Bi sigma
    let H := fromCols (f.sensitivity Bi) (0 : Mat33 K)
    ((∀ d ∈ invertDivisors S, d ≠ 0) ↔ S.det ≠ 0) ∧
      (S.det ≠ 0 → f.update p.compiled z Bi sigma = (f.measured p.compiled z Bi sigma).checkState ∧
        (f.measured p.compiled z Bi sigma).covariance = (1 - f.covariance * Hᵀ * S⁻¹ * H) * f.covariance ∧
        (f.measured p.compiled z Bi sigma).covariance.IsSymm) := by
  refine ⟨(invert_right _).1, fun hdet => ?_⟩
  have hS : IsUnit (f.innovation Bi sigma).det := isUnit_iff_ne_zero.2 hdet
  have hinv : ∀ M : Mat33 K, IsUnit M.det → p.compiled.invert M = M⁻¹ := fun _ => invert_of_isUnit
  have hpost := covariance_measured hinv hP z Bi sigma hS
  refine ⟨update_eq p.compiled f z Bi sigma, hpost, ?_⟩
  rw [hpost]
  exact Kalman.isSymm_posterior _ hP (isSymm_innovation f Bi sigma)

end Facts

theorem GravityFusion.covariance_compiled_level :
    (∀ d ∈ invertDivisors (level.innovation ![0, 0, 1] 1), d ≠ 0) ∧
      (level.measured (Platform.real id 0).compiled ![0, 0, 1] ![0, 0, 1] 1).covariance.IsSymm := by
  have hdet := isUnit_iff_ne_zero.1 isUnit_level
  have h := covariance_compiled (Platform.real id 0) level posSemidef_level.isHermitian ![0, 0, 1] ![0, 0, 1] 1
  exact ⟨h.1.2 hdet, (h.2 hdet).2.2⟩

end MemsHal
