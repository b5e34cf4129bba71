import Mathlib.LinearAlgebra.Matrix.NonsingularInverse
import Mathlib.LinearAlgebra.Matrix.ToLinearEquiv
/-!
# GaussJordan — inversion of a matrix by row operations

Column by column a pivot is brought to the diagonal, made 1, and the rest of its column is cleared; what is done to
the matrix is done to the identity as well.  The rule that picks the pivot is a parameter.  If it finds a pivot that
is not 0 wherever there is one, the divisions are by 0 exactly for singular matrices (`pivots_ne_zero_iff`), and
otherwise the identity has become the inverse (`inverse_mul`).
-/
namespace GaussJordan

open Matrix

variable {K : Type*} [Field K] {n : Nat}

/-! ## Row operations -/

def swapRows (i s : Fin n) (M : Matrix (Fin n) (Fin n) K) : Matrix (Fin n) (Fin n) K :=
  M.submatrix (Equiv.swap i s) id

def scaleRow (i : Fin n) (c : K) (M : Matrix (Fin n) (Fin n) K) : Matrix (Fin n) (Fin n) K :=
  M.updateRow i (c • M i)

/-- Row `i` is taken off row `j`, `c` times. -/
def subtractRow (j i : Fin n) (c : K) (M : Matrix (Fin n) (Fin n) K) : Matrix (Fin n) (Fin n) K :=
  M.updateRow j (M j - c • M i)

/-- **A row operation** acts on a product from the left, and keeps singular and regular matrices apart. -/
structure RowOp (op : Matrix (Fin n) (Fin n) K → Matrix (Fin n) (Fin n) K) : Prop where
  mul : ∀ M N, op (M * N) = op M * N
  det : ∀ M, (op M).det ≠ 0 ↔ M.det ≠ 0

theorem rowOp_swapRows (i s : Fin n) : RowOp (swapRows i s : Matrix (Fin n) (Fin n) K → _) where
  mul _ _ := rfl
  det M := by
    unfold swapRows
    rw [det_permute]
    rcases Int.units_eq_one_or (Equiv.Perm.sign (Equiv.swap i s)) with h | h
    · rw [h, Units.val_one, Int.cast_one, one_mul]
    · rw [h, Units.val_neg, Units.val_one, Int.cast_neg, Int.cast_one, neg_one_mul, neg_ne_zero]

theorem rowOp_scaleRow (i : Fin n) {c : K} (hc : c ≠ 0) : RowOp (scaleRow i c) where
  mul M N := by
    unfold scaleRow
    rw [updateRow_mul, smul_vecMul]
    rfl
  det M := by
    unfold scaleRow
    rw [det_updateRow_smul, updateRow_eq_self]
    exact mul_ne_zero_iff.trans (and_iff_right hc)

theorem rowOp_subtractRow {j i : Fin n} (hij : i ≠ j) (c : K) : RowOp (subtractRow j i c) where
  mul M N := by
    unfold subtractRow
    rw [updateRow_mul, sub_vecMul, smul_vecMul]
    rfl
  det M := by
    have hsub : subtractRow j i c M = M.updateRow j (M j + (-c) • M i) := by
      unfold subtractRow
      rw [neg_smul, sub_eq_add_neg]
    rw [hsub, det_updateRow_add_smul_self M hij.symm]

/-! ## Columns that are done -/

/-- The columns before the `k`th are those of the identity. -/
def Cleared (k : Nat) (M : Matrix (Fin n) (Fin n) K) : Prop :=
  ∀ c : Fin n, c.val < k → ∀ r, M r c = if r = c then 1 else 0

theorem Cleared.zero (M : Matrix (Fin n) (Fin n) K) : Cleared 0 M := fun _ hc => absurd hc (Nat.not_lt_zero _)

theorem Cleared.eq_one {M : Matrix (Fin n) (Fin n) K} (h : Cleared n M) : M = 1 := by
  ext r c
  rw [h c c.isLt r, one_apply]

/-- **A regular matrix has a pivot left**: otherwise the next column is a combination of the columns before it. -/
theorem Cleared.exists_pivot {M : Matrix (Fin n) (Fin n) K} {i : Fin n} (h : Cleared i M) (hdet : M.det ≠ 0) :
    ∃ j, i ≤ j ∧ M j i ≠ 0 := by
  by_contra hno
  have hzero : ∀ j, i ≤ j → M j i = 0 := fun j hj => by_contra fun hne => hno ⟨j, hj, hne⟩
  let v : Fin n → K := fun c => if c = i then 1 else if c < i then -M c i else 0
  have hv : v ≠ 0 := fun h0 => one_ne_zero ((if_pos rfl).symm.trans (congrFun h0 i))
  refine hdet (exists_mulVec_eq_zero_iff.1 ⟨v, hv, funext fun r => ?_⟩)
  -- in row `r` only the columns `i` and `r` count
  have hterm : ∀ c, M r c * v c = (if c = i then M r i else 0) + if c = r then (if r < i then -M r i else 0) else 0 := by
    intro c
    rcases lt_trichotomy c i with hlt | rfl | hgt
    · have hc := h c hlt r
      have hv : v c = -M c i := (if_neg hlt.ne).trans (if_pos hlt)
      rw [hc, hv, if_neg hlt.ne, zero_add]
      by_cases hrc : r = c
      · rw [if_pos hrc, if_pos hrc.symm, one_mul, hrc, if_pos hlt]
      · rw [if_neg hrc, if_neg (Ne.symm hrc), zero_mul]
    · have hv : v c = 1 := if_pos rfl
      rw [hv, mul_one, if_pos rfl]
      by_cases hrc : c = r
      · rw [if_pos hrc, if_neg (hrc ▸ lt_irrefl c), add_zero]
      · rw [if_neg hrc, add_zero]
    · have hv : v c = 0 := (if_neg hgt.ne').trans (if_neg (not_lt_of_gt hgt))
      rw [hv, mul_zero, if_neg hgt.ne', zero_add]
      by_cases hrc : c = r
      · rw [if_pos hrc, if_neg (not_lt_of_gt (hrc ▸ hgt))]
      · rw [if_neg hrc]
  calc (M *ᵥ v) r = ∑ c, M r c * v c := rfl
    _ = M r i + if r < i then -M r i else 0 := by
      rw [Finset.sum_congr rfl fun c _ => hterm c, Finset.sum_add_distrib, Finset.sum_ite_eq', Finset.sum_ite_eq',
        if_pos (Finset.mem_univ i), if_pos (Finset.mem_univ r)]
    _ = 0 := by
      by_cases hr : r < i
      · rw [if_pos hr, add_neg_cancel]
      · rw [if_neg hr, add_zero, hzero r (not_lt.1 hr)]

/-! ## The elimination -/

/-- The matrix, and what the identity has become. -/
structure Pair (K : Type*) (n : Nat) where
  tmp : Matrix (Fin n) (Fin n) K
  inverse : Matrix (Fin n) (Fin n) K

namespace Pair

def start (src : Matrix (Fin n) (Fin n) K) : Pair K n := ⟨src, 1⟩

def map (op : Matrix (Fin n) (Fin n) K → Matrix (Fin n) (Fin n) K) (p : Pair K n) : Pair K n :=
  ⟨op p.tmp, op p.inverse⟩

/-- The body of the loop that clears a column. -/
def clearRow (i : Fin n) (p : Pair K n) (j : Fin n) : Pair K n :=
  if j = i then p else p.map (subtractRow j i (p.tmp j i))

def clearColumn (i : Fin n) (p : Pair K n) : Pair K n := (List.finRange n).foldl (clearRow i) p

/-- The pair came about by row operations. -/
structure Derived (src : Matrix (Fin n) (Fin n) K) (p : Pair K n) : Prop where
  mul : p.inverse * src = p.tmp
  det : p.tmp.det ≠ 0 ↔ src.det ≠ 0

section Derived

variable {src : Matrix (Fin n) (Fin n) K} {p : Pair K n}

theorem derived_start (src : Matrix (Fin n) (Fin n) K) : Derived src (start src) := ⟨one_mul src, Iff.rfl⟩

theorem Derived.map (h : Derived src p) {op : Matrix (Fin n) (Fin n) K → Matrix (Fin n) (Fin n) K} (hop : RowOp op) :
    Derived src (p.map op) where
  mul := by
    show op p.inverse * src = op p.tmp
    rw [← hop.mul, h.mul]
  det := (hop.det p.tmp).trans h.det

theorem Derived.clearRow (h : Derived src p) (i j : Fin n) : Derived src (p.clearRow i j) := by
  unfold Pair.clearRow
  split
  · exact h
  · rename_i hji
    exact h.map (rowOp_subtractRow (Ne.symm hji) _)

theorem Derived.clearColumn (h : Derived src p) (i : Fin n) : Derived src (p.clearColumn i) := by
  have hfold : ∀ (l : List (Fin n)) (p : Pair K n), Derived src p → Derived src (l.foldl (Pair.clearRow i) p) := by
    intro l
    induction l with
    | nil => exact fun p h => h
    | cons j l ih => exact fun p h => ih _ (h.clearRow i j)
  exact hfold _ p h

end Derived

/-! ### A column is cleared -/

/-- The pivot is in place. -/
structure Ready (i : Fin n) (M : Matrix (Fin n) (Fin n) K) : Prop where
  cleared : Cleared i M
  pivot : M i i = 1

theorem clearRow_of_ne {i j : Fin n} (p : Pair K n) (hji : j ≠ i) (r c : Fin n) :
    (p.clearRow i j).tmp r c = if r = j then p.tmp j c - p.tmp j i * p.tmp i c else p.tmp r c := by
  have hstep : (p.clearRow i j).tmp = p.tmp.updateRow j (p.tmp j - p.tmp j i • p.tmp i) := by
    unfold clearRow
    rw [if_neg hji]
    rfl
  rw [hstep, updateRow_apply]
  rfl

theorem Ready.clearRow {i : Fin n} {p : Pair K n} (h : Ready i p.tmp) (j : Fin n) : Ready i (p.clearRow i j).tmp := by
  by_cases hji : j = i
  · unfold Pair.clearRow
    rw [if_pos hji]
    exact h
  · constructor
    · intro c hc r
      have hpivot : p.tmp i c = 0 := (h.cleared c hc i).trans (if_neg (Fin.ne_of_gt hc))
      rw [clearRow_of_ne p hji, hpivot, mul_zero, sub_zero]
      split
      · rename_i hrj
        rw [← hrj]
        exact h.cleared c hc r
      · exact h.cleared c hc r
    · rw [clearRow_of_ne p hji, if_neg (Ne.symm hji)]
      exact h.pivot

/-- An entry that is cleared stays so, and the body of the loop clears its own. -/
theorem Ready.clearRow_eq_zero {i j r : Fin n} {p : Pair K n} (h : Ready i p.tmp) (hri : r ≠ i)
    (hr : r = j ∨ p.tmp r i = 0) : (p.clearRow i j).tmp r i = 0 := by
  by_cases hji : j = i
  · unfold Pair.clearRow
    rw [if_pos hji]
    exact hr.resolve_left fun hrj => hri (hrj.trans hji)
  · rw [clearRow_of_ne p hji]
    split
    · rw [h.pivot, mul_one, sub_self]
    · rename_i hrj
      exact hr.resolve_left hrj

theorem Ready.foldl_clearRow {i : Fin n} : ∀ (l : List (Fin n)) {p : Pair K n}, Ready i p.tmp →
    Ready i (l.foldl (Pair.clearRow i) p).tmp ∧
      ∀ r, r ≠ i → r ∈ l ∨ p.tmp r i = 0 → (l.foldl (Pair.clearRow i) p).tmp r i = 0
  | [], _, h => ⟨h, fun _ _ hr => hr.resolve_left List.not_mem_nil⟩
  | j :: l, p, h => by
    obtain ⟨hready, hzero⟩ := Ready.foldl_clearRow l (h.clearRow j)
    refine ⟨hready, fun r hri hr => hzero r hri ?_⟩
    rcases hr with hr | hr
    · rcases List.mem_cons.1 hr with hrj | hr
      · exact Or.inr (h.clearRow_eq_zero hri (Or.inl hrj))
      · exact Or.inl hr
    · exact Or.inr (h.clearRow_eq_zero hri (Or.inr hr))

/-- **One more column is done.** -/
theorem Ready.clearColumn {i : Fin n} {p : Pair K n} (h : Ready i p.tmp) : Cleared (i + 1) (p.clearColumn i).tmp := by
  obtain ⟨hready, hzero⟩ := Ready.foldl_clearRow (List.finRange n) h
  intro c hc r
  rcases Nat.lt_succ_iff_lt_or_eq.1 hc with hlt | heq
  · exact hready.cleared c hlt r
  · obtain rfl : c = i := Fin.ext heq
    split
    · rename_i hrc
      rw [hrc]
      exact hready.pivot
    · rename_i hrc
      exact hzero r hrc (Or.inl (List.mem_finRange r))

end Pair

/-! ### The passes -/

section Passes

-- the rule that picks the row of the next pivot
variable (choose : Matrix (Fin n) (Fin n) K → Fin n → Fin n)

/-- The number a pass divides by. -/
def pivot (i : Fin n) (p : Pair K n) : K := p.tmp (choose p.tmp i) i

def eliminate (i : Fin n) (p : Pair K n) : Pair K n :=
  ((p.map (swapRows i (choose p.tmp i))).map (scaleRow i (1 / pivot choose i p))).clearColumn i

/-- The pair before the `k`th pass. -/
def passes (src : Matrix (Fin n) (Fin n) K) : Nat → Pair K n
  | 0     => .start src
  | k + 1 => if h : k < n then eliminate choose ⟨k, h⟩ (passes src k) else passes src k

/-- The numbers the elimination divides by. -/
def pivots (src : Matrix (Fin n) (Fin n) K) : List K :=
  (List.finRange n).map fun i => pivot choose i (passes choose src i)

theorem passes_succ (src : Matrix (Fin n) (Fin n) K) (i : Fin n) :
    passes choose src (i + 1) = eliminate choose i (passes choose src i) := dif_pos i.isLt

/-- The rule looks below the rows that are done, and finds a pivot where there is one. -/
structure Picks : Prop where
  le : ∀ M i, i ≤ choose M i
  ne_zero : ∀ (M : Matrix (Fin n) (Fin n) K) i j, i ≤ j → M j i ≠ 0 → M (choose M i) i ≠ 0

variable {choose}

theorem ready_eliminate {i : Fin n} {p : Pair K n} (hle : i ≤ choose p.tmp i) (hp : Cleared i p.tmp)
    (hpivot : pivot choose i p ≠ 0) :
    Pair.Ready i ((p.map (swapRows i (choose p.tmp i))).map (scaleRow i (1 / pivot choose i p))).tmp := by
  have hat : ∀ r c, ((p.map (swapRows i (choose p.tmp i))).map (scaleRow i (1 / pivot choose i p))).tmp r c =
      if r = i then 1 / pivot choose i p * p.tmp (choose p.tmp i) c
      else p.tmp (Equiv.swap i (choose p.tmp i) r) c := by
    intro r c
    show (updateRow _ _ _) r c = _
    rw [updateRow_apply]
    split
    · show _ * p.tmp (Equiv.swap i (choose p.tmp i) i) c = _
      rw [Equiv.swap_apply_left]
    · rfl
  constructor
  · intro c hc r
    have hbelow : ∀ s, i ≤ s → p.tmp s c = 0 := fun s hs =>
      (hp c hc s).trans (if_neg (Fin.ne_of_gt (lt_of_lt_of_le hc hs)))
    rw [hat]
    split
    · rename_i hri
      rw [hbelow _ hle, mul_zero, hri, if_neg (Fin.ne_of_gt hc)]
    · rename_i hri
      by_cases hrs : r = choose p.tmp i
      · have hrc : r ≠ c := Fin.ne_of_gt (lt_of_lt_of_le hc (hrs ▸ hle))
        rw [hrs, Equiv.swap_apply_right, hbelow i le_rfl, if_neg (hrs ▸ hrc)]
      · rw [Equiv.swap_apply_of_ne_of_ne hri hrs]
        exact hp c hc r
  · rw [hat, if_pos rfl]
    exact one_div_mul_cancel hpivot

theorem derived_eliminate {src : Matrix (Fin n) (Fin n) K} {i : Fin n} {p : Pair K n} (h : Pair.Derived src p)
    (hpivot : pivot choose i p ≠ 0) : Pair.Derived src (eliminate choose i p) :=
  ((h.map (rowOp_swapRows i _)).map (rowOp_scaleRow i (one_div_ne_zero hpivot))).clearColumn i

/-- **As long as the pivots are not 0**, every pass does a column, and the pair comes about by row operations. -/
theorem passes_of_pivots (h : Picks choose) (src : Matrix (Fin n) (Fin n) K) : ∀ k ≤ n,
    (∀ i : Fin n, i.val < k → pivot choose i (passes choose src i) ≠ 0) →
      Pair.Derived src (passes choose src k) ∧ Cleared k (passes choose src k).tmp
  | 0, _, _ => ⟨Pair.derived_start src, Cleared.zero src⟩
  | k + 1, hk, hpivots => by
    obtain ⟨hderived, hcleared⟩ := passes_of_pivots h src k (Nat.le_of_succ_le hk)
      fun i hi => hpivots i (Nat.lt_succ_of_lt hi)
    have hpivot := hpivots ⟨k, hk⟩ (Nat.lt_succ_self k)
    rw [passes_succ choose src ⟨k, hk⟩]
    exact ⟨derived_eliminate hderived hpivot, (ready_eliminate (h.le _ _) hcleared hpivot).clearColumn⟩

/-- A regular matrix has no pivot that is 0. -/
theorem pivot_ne_zero (h : Picks choose) {src : Matrix (Fin n) (Fin n) K} (hdet : src.det ≠ 0) :
    ∀ (k : Nat) (hk : k < n), pivot choose ⟨k, hk⟩ (passes choose src k) ≠ 0 := by
  intro k
  induction k using Nat.strong_induction_on with
  | h k ih =>
    intro hk
    obtain ⟨hderived, hcleared⟩ := passes_of_pivots h src k hk.le fun i hi => ih i hi i.isLt
    obtain ⟨j, hj, hne⟩ := Cleared.exists_pivot (i := ⟨k, hk⟩) hcleared (hderived.det.2 hdet)
    exact h.ne_zero _ _ j hj hne

/-- **Nothing is divided by 0 exactly for regular matrices.** -/
theorem pivots_ne_zero_iff (h : Picks choose) (src : Matrix (Fin n) (Fin n) K) :
    (∀ d ∈ pivots choose src, d ≠ 0) ↔ IsUnit src.det := by
  have hall : (∀ d ∈ pivots choose src, d ≠ 0) ↔ ∀ i : Fin n, pivot choose i (passes choose src i) ≠ 0 := by
    unfold pivots
    rw [List.forall_mem_map]
    exact ⟨fun hd i => hd i (List.mem_finRange i), fun hd i _ => hd i⟩
  rw [hall, isUnit_iff_ne_zero]
  constructor
  · intro hpivots
    obtain ⟨hderived, hcleared⟩ := passes_of_pivots h src n le_rfl fun i _ => hpivots i
    refine hderived.det.1 ?_
    rw [hcleared.eq_one, det_one]
    exact one_ne_zero
  · exact fun hdet i => pivot_ne_zero h hdet i i.isLt

/-- **What the identity has become is the inverse.** -/
theorem inverse_mul (h : Picks choose) {src : Matrix (Fin n) (Fin n) K} (hdet : IsUnit src.det) :
    (passes choose src n).inverse * src = 1 := by
  obtain ⟨hderived, hcleared⟩ := passes_of_pivots h src n le_rfl
    fun i _ => pivot_ne_zero h (isUnit_iff_ne_zero.1 hdet) i i.isLt
  rw [hderived.mul, hcleared.eq_one]

end Passes

end GaussJordan
