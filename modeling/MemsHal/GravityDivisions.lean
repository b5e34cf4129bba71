import MemsHal.GravityUpdate
/-!
# GravityDivisions — what the filter divides by

For each function the divisors that a call of it evaluates, in their order, those of the calls it makes included;
`invert` is left out.  Only the first sample after `activate(true)` can make one of them zero
(`divisors_ne_zero_iff`): an acceleration of zero, which `calculateGravity` keeps from the error correction, is still
normalized by `initRodrParams`.
-/
namespace MemsHal

open Matrix Rotations

namespace GravityFusion

namespace Divisors

variable {K : Type*} [Field K] [LinearOrder K] (p : Platform K) (f : GravityFusion K)

def normalize {n : Nat} (v : Fin n → K) : List K := [p.length v]

def normalize_quat (q : Fin 4 → K) : List K := normalize p (if q 3 < 0 then -q else q)

/-- The vector that `getOrthogonal` normalizes. -/
def across (v : Fin 3 → K) : Fin 3 → K :=
  if |v 0| ≤ |v 1| ∧ |v 0| ≤ |v 2| then ![0, v 2, -v 1]
  else if |v 1| ≤ |v 2| then ![v 2, 0, -v 0]
  else ![v 1, -v 0, 0]

theorem getOrthogonal_eq (v : Fin 3 → K) : MemsHal.getOrthogonal p.toLibm v = p.normalize (across v) := rfl

def getOrthogonal (v : Fin 3 → K) : List K := normalize p (across v)

def initFusion : List K := [1e9]

def initRodrParams (acc : Fin 3 → K) : List K := normalize p acc ++ getOrthogonal p (p.normalize acc) ++ initFusion

def predict (w : Fin 3 → K) : List K := [p.length (f.rate p w)]

def update (z Bi : Fin 3 → K) (sigma : K) : List K := normalize_quat p (f.corrected p z Bi sigma)

def start (accel : Fin 3 → K) : List K := if f.mJustStarted = some true then initRodrParams p accel else []

def correct (accel : Fin 3 → K) : List K :=
  let l := p.length accel
  if FREE_FALL_THRESHOLD ≤ l then
    let m := quatToMatrix f.mX0 *ᵥ f.mBm
    let f₁ := f.update p m f.mBm DEFAULT_MAG_STDEV
    let sigma := 1 / l * DEFAULT_ACC_STDEV * p.exp (p.sqrt |l - NOMINAL_GRAVITY|)
    l :: (update p f m f.mBm DEFAULT_MAG_STDEV ++ update p f₁ ((1 / l) • accel) f₁.mBa sigma)
  else []

def propagate (gyroValues : Samples K) : List K := 1e9 :: predict p f gyroValues.axis

def calculateGravity (accValues gyroValues : Samples K) : List K :=
  let accel := accValues.axis
  let started := (f.start p accel).1
  start p f accel ++ correct p started accel ++ propagate p (started.correct p accel).1 gyroValues

def feed : GravityFusion K → List (Samples K × Samples K) → List K
  | _, [] => []
  | f, (accValues, gyroValues) :: samples =>
    calculateGravity p f accValues gyroValues ++ feed (f.calculateGravity p accValues gyroValues).fusion samples

end Divisors

section Facts

variable {K : Type*} [Field K] [LinearOrder K] [IsStrictOrderedRing K] {p : Platform K}

open Divisors (across)

/-- No division is one by zero. -/
def NonZero (divisors : List K) : Prop := ∀ d ∈ divisors, d ≠ 0

omit [LinearOrder K] [IsStrictOrderedRing K] in
theorem nonZero_append {a b : List K} : NonZero (a ++ b) ↔ NonZero a ∧ NonZero b := List.forall_mem_append

omit [LinearOrder K] [IsStrictOrderedRing K] in
theorem nonZero_nil : NonZero ([] : List K) := List.forall_mem_nil _

omit [LinearOrder K] [IsStrictOrderedRing K] in
theorem nonZero_cons {d : K} {ds : List K} : NonZero (d :: ds) ↔ d ≠ 0 ∧ NonZero ds := List.forall_mem_cons

omit [LinearOrder K] [IsStrictOrderedRing K] in
theorem nonZero_singleton {d : K} : NonZero [d] ↔ d ≠ 0 := List.forall_mem_singleton

/-- **A normalization divides by zero** exactly if its vector is zero. -/
theorem nonZero_normalize (h : p.Exact) {n : Nat} {v : Fin n → K} : NonZero (Divisors.normalize p v) ↔ v ≠ 0 := by
  unfold Divisors.normalize
  rw [nonZero_singleton]
  constructor
  · rintro hlen rfl
    exact hlen (h.length_eq le_rfl (by rw [dotProduct_zero, mul_zero]))
  · exact h.length_ne_zero

theorem nano_ne_zero : (1e9 : K) ≠ 0 := by norm_num

theorem nonZero_getOrthogonal (h : p.Exact) {v : Fin 3 → K} (hv : v ≠ 0) : NonZero (Divisors.getOrthogonal p v) := by
  refine (nonZero_normalize h).2 fun h0 => ?_
  -- a normalized zero vector would not be a unit vector
  have hunit := (getOrthogonal_spec h hv).1
  rw [Divisors.getOrthogonal_eq, h0, Libm.normalize_eq_smul, smul_zero, dotProduct_zero] at hunit
  exact zero_ne_one hunit

/-- **`initRodrParams` divides by zero** exactly if the acceleration is zero. -/
theorem nonZero_initRodrParams (h : p.Exact) {acc : Fin 3 → K} :
    NonZero (Divisors.initRodrParams p acc) ↔ acc ≠ 0 := by
  unfold Divisors.initRodrParams
  rw [nonZero_append, nonZero_append, nonZero_normalize h]
  constructor
  · rintro ⟨⟨hacc, -⟩, -⟩
    exact hacc
  · intro hacc
    have hunit := h.normalize_unit hacc
    have hup : p.normalize acc ≠ 0 := fun h0 => by
      rw [h0, dotProduct_zero] at hunit
      exact zero_ne_one hunit
    exact ⟨⟨hacc, nonZero_getOrthogonal h hup⟩, nonZero_singleton.2 nano_ne_zero⟩

theorem nonZero_predict (h : p.Exact) (f : GravityFusion K) (w : Fin 3 → K) : NonZero (Divisors.predict p f w) :=
  nonZero_singleton.2 (h.length_ne_zero (rate_ne_zero h f w))

theorem nonZero_update (h : p.Exact) {f : GravityFusion K} (hf : f.Upright) (z Bi : Fin 3 → K) (sigma : K) :
    NonZero (Divisors.update p f z Bi sigma) := by
  have hne : f.corrected p z Bi sigma ≠ 0 := add_getF_ne_zero hf _
  refine (nonZero_normalize h).2 ?_
  split
  · exact neg_ne_zero.2 hne
  · exact hne

theorem nonZero_start (h : p.Exact) (f : GravityFusion K) (accel : Fin 3 → K) :
    NonZero (Divisors.start p f accel) ↔ (f.mJustStarted = some true → accel ≠ 0) := by
  unfold Divisors.start
  split
  · rename_i hjust
    rw [nonZero_initRodrParams h]
    exact ⟨fun hacc _ => hacc, fun hacc => hacc hjust⟩
  · rename_i hjust
    exact iff_of_true nonZero_nil fun hjust' => absurd hjust' hjust

theorem nonZero_correct (h : p.Exact) {f : GravityFusion K} (hf : f.Upright) (accel : Fin 3 → K) :
    NonZero (Divisors.correct p f accel) := by
  have hthreshold : 0 < (FREE_FALL_THRESHOLD : K) := by
    unfold FREE_FALL_THRESHOLD
    exact mul_pos (by norm_num) NOMINAL_GRAVITY_pos
  unfold Divisors.correct
  dsimp only
  split
  · rename_i hl
    have hnorth := upright_update h hf (quatToMatrix f.mX0 *ᵥ f.mBm) f.mBm DEFAULT_MAG_STDEV
    rw [nonZero_cons, nonZero_append]
    exact ⟨(lt_of_lt_of_le hthreshold hl).ne', nonZero_update h hf _ _ _, nonZero_update h hnorth _ _ _⟩
  · exact nonZero_nil

/-- **One call divides by zero** exactly if it starts the filter with an acceleration of zero. -/
theorem nonZero_calculateGravity (h : p.Exact) {f : GravityFusion K} (hf : f.Ready) (accValues gyroValues : Samples K) :
    NonZero (Divisors.calculateGravity p f accValues gyroValues) ↔
      (f.mJustStarted = some true → accValues.axis ≠ 0) := by
  unfold Divisors.calculateGravity
  dsimp only
  rw [nonZero_append, nonZero_append, nonZero_start h]
  constructor
  · rintro ⟨⟨hacc, -⟩, -⟩
    exact hacc
  · intro hacc
    have hstart := (start_spec h hf hacc).1
    exact ⟨⟨hacc, nonZero_correct h hstart _⟩, nonZero_cons.2 ⟨nano_ne_zero, nonZero_predict h _ _⟩⟩

/-- **A sequence**: once the filter has started, nothing divides by zero. -/
theorem nonZero_feed (h : p.Exact) : ∀ {samples : List (Samples K × Samples K)} {f : GravityFusion K}, f.Ready →
    (NonZero (Divisors.feed p f samples) ↔ (f.mJustStarted = some true → ∀ s ∈ samples.head?, s.1.axis ≠ 0))
  | [], f, _ => iff_of_true nonZero_nil fun _ s hs => by cases hs
  | (accValues, gyroValues) :: samples, f, hf => by
    have hhead : (∀ s ∈ ((accValues, gyroValues) :: samples).head?, s.1.axis ≠ 0) ↔ accValues.axis ≠ 0 :=
      ⟨fun hs => hs _ rfl, fun hacc s hs => by cases hs; exact hacc⟩
    rw [Divisors.feed, nonZero_append, nonZero_calculateGravity h hf, hhead]
    constructor
    · rintro ⟨hacc, -⟩
      exact hacc
    · intro hacc
      obtain ⟨-, hupright, hjust⟩ := calculateGravity_spec h hf accValues gyroValues hacc
      exact ⟨hacc, (nonZero_feed h fun _ => hupright).2 fun hjust' => absurd hjust' hjust⟩

end Facts

/-- **The divisions of the filter, from `activate(true)` on,** are by other numbers than zero exactly if the first
acceleration is not the zero vector. -/
theorem divisors_ne_zero_iff (invert : Mat33 ℝ → Mat33 ℝ) (mSamplingPeriodNs : Int) (f : GravityFusion ℝ)
    (samples : List (Samples ℝ × Samples ℝ)) :
    (∀ d ∈ Divisors.feed (.real invert mSamplingPeriodNs) (f.activate true).1 samples, d ≠ 0) ↔
      ∀ s ∈ samples.head?, s.1.axis ≠ 0 := by
  have hready : (f.activate true).1.Ready := fun hjust => absurd rfl hjust
  have hexact : (Platform.real invert mSamplingPeriodNs).Exact := Libm.real_exact
  exact (nonZero_feed hexact hready).trans (forall_prop_of_true rfl)

/-- Dropped while it is switched on. -/
def falling : List (Samples ℝ × Samples ℝ) := [(.one 0 0 0 0, .one 5000000 0 0 0)]

theorem divisors_falling :
    ¬ ∀ d ∈ Divisors.feed (.real id 0) (smi330Gravity.activate true).1 falling, d ≠ 0 := by
  have hready : (smi330Gravity.activate true).1.Ready := fun hjust => absurd rfl hjust
  have hexact : (Platform.real id 0).Exact := Libm.real_exact
  intro hnz
  refine (nonZero_feed hexact hready).1 hnz rfl _ rfl ?_
  funext i
  fin_cases i <;> rfl

end GravityFusion

end MemsHal
