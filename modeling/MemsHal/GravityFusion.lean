import MemsHal.FloatRound
import MemsHal.Quat
import MemsHal.SensorList
/-!
# GravityFusion — `core/CompositeSensors.cpp`: the filter behind the gravity and linear acceleration sensors

`calculateGravity` keeps a quaternion `mX0` and a gyroscope bias `mX1` with their covariance `mP`; every sample corrects
them against the measured acceleration and then turns the quaternion by the measured rate.  Float constants stand for
the decimals they are written as; an integer that becomes a float is rounded.
-/
namespace MemsHal

open Matrix Rotations

/-- What the filter takes from outside its own text: the C library, `invert`, and the value that a member without an
initializer holds before it is assigned. -/
structure Platform (K : Type*) extends Libm K where
  invert : Mat33 K → Mat33 K
  mSamplingPeriodNs : Int

/-- One entry of what `readSensorValues` returns. -/
structure SensorValues (K : Type*) where
  timestamp : Int64
  data : List K

/-- What `readSensorValues` has to return for `calculateGravity` to stay inside it: it reads `[0].data[0..2]`. -/
structure Samples (K : Type*) where
  first : SensorValues K
  rest : List (SensorValues K)
  three : 3 ≤ first.data.length

/-- `[0].data[i]` -/
def Samples.axis {K : Type*} (values : Samples K) (i : Fin 3) : K :=
  values.first.data.get ⟨i, Nat.lt_of_lt_of_le i.isLt values.three⟩

/-- One entry with three values. -/
def Samples.one {K : Type*} (timestamp : Int64) (x y z : K) : Samples K := ⟨⟨timestamp, [x, y, z]⟩, [], Nat.le_refl 3⟩

/-- A composite sensor with the state of its filter. -/
structure GravityFusion (K : Type*) extends CompositeSensorCore where
  mGyroVar : K
  mX0 : Fin 4 → K
  mX1 : Fin 3 → K
  mBa : Fin 3 → K
  mBm : Fin 3 → K
  mPhi : Mat22 K
  mP : Mat22 K
  mGQGt : Mat22 K
  mLastTimestamp : Int64

section Definitions

variable {K : Type*} [Field K] [LinearOrder K]

/-- An `int64_t` as a `float`. -/
def floatOf (n : Int) : K := (FloatRound.ofInt 24 n : K)

def NOMINAL_GRAVITY : K := 9.80665
def SQRT_3 : K := 1.732
def WVEC_EPS : K := 1e-4 / SQRT_3
def SYMMETRY_TOLERANCE : K := 1e-10
def FREE_FALL_THRESHOLD : K := 0.1 * NOMINAL_GRAVITY
def DEFAULT_ACC_STDEV : K := 0.015
def DEFAULT_MAG_STDEV : K := 0.1
def DEFAULT_GYRO_VAR : K := 1e-6
def DEFAULT_GYRO_BIAS_VAR : K := 1e-12

def crossMatrix (p : Fin 3 → K) (diag : K) : Mat33 K :=
  columns
    ![![diag, p 2, -p 1],
      ![-p 2, diag, p 0],
      ![p 1, -p 0, diag]]

/-- The sum that `scaleCovariance` stores as `APAt[j][r]` and as `APAt[r][j]`. -/
def apat (A P : Mat33 K) (r j : Fin 3) : K :=
  ∑ c, 2 * (A.col c r * P.col c c * 0.5 + ∑ k with c < k, A.col k r * P.col c k) * A.col c j

def scaleCovariance (A P : Mat33 K) : Mat33 K := of fun i j => apat A P (min i j) (max i j)

def getF (q : Fin 4 → K) : Matrix (Fin 4) (Fin 3) K :=
  columns
    ![![q 3, q 2, -q 1, -q 0],
      ![-q 2, q 3, q 0, -q 1],
      ![q 1, -q 0, q 3, -q 2]]

def getOrthogonal (p : Libm K) (v : Fin 3 → K) : Fin 3 → K :=
  p.normalize
    (if |v 0| ≤ |v 1| ∧ |v 0| ≤ |v 2| then ![0, v 2, -v 1]
    else if |v 1| ≤ |v 2| then ![v 2, 0, -v 0]
    else ![v 1, -v 0, 0])

namespace GravityFusion

variable (p : Platform K) (f : GravityFusion K)

def activate (enable : Bool) : GravityFusion K × List (SensorId × CoreOp) :=
  let (core, calls) := f.toCompositeSensorCore.activate enable
  ({ f with toCompositeSensorCore := core }, calls)

def batch (samplingPeriodNs maxReportLatencyNs : Int64) : GravityFusion K × List (SensorId × CoreOp) :=
  let (core, calls) := f.toCompositeSensorCore.batch samplingPeriodNs maxReportLatencyNs
  ({ f with toCompositeSensorCore := core }, calls)

def checkState : GravityFusion K :=
  if isPositiveSemidefinite (f.mP.col 0 0) SYMMETRY_TOLERANCE = false ∨
      isPositiveSemidefinite (f.mP.col 1 1) SYMMETRY_TOLERANCE = false then { f with mP := 0 }
  else f

/-- `O`, the matrix that `predict` multiplies `mX0` by. -/
def propagator (psi : Fin 3 → K) (k2 : K) : Matrix (Fin 4) (Fin 4) K :=
  let O33 := crossMatrix (-psi) k2
  columns
    ![![O33.col 0 0, O33.col 0 1, O33.col 0 2, -psi 0],
      ![O33.col 1 0, O33.col 1 1, O33.col 1 2, -psi 1],
      ![O33.col 2 0, O33.col 2 1, O33.col 2 2, -psi 2],
      ![psi 0, psi 1, psi 2, k2]]

/-- The rate without the bias, kept away from zero. -/
def rate (w : Fin 3 → K) : Fin 3 → K :=
  let we := w - f.mX1
  if p.length we < WVEC_EPS then fun _ => if 0 < we 0 then WVEC_EPS else -WVEC_EPS else we

def predict (w : Fin 3 → K) (dT : K) : GravityFusion K :=
  let q := f.mX0
  let we := f.rate p w
  let I33 : Mat33 K := .ofScalar 1
  let I33dT : Mat33 K := .ofScalar dT
  let wx := crossMatrix we 0
  let wx2 := wx * wx
  let lwedT := p.length we * dT
  let hlwedT := 0.5 * lwedT
  let ilwe := 1 / p.length we
  let k0 := (1 - p.cos lwedT) * (ilwe * ilwe)
  let k1 := p.sin lwedT
  let k2 := p.cos hlwedT
  let psi := (p.sin hlwedT * ilwe) • we
  let O := propagator psi k2
  let Phi00 := I33 - (k1 * ilwe) • wx + k0 • wx2
  let Phi10 := k0 • wx - I33dT - (lwedT - k1) • (ilwe * ilwe * ilwe) • wx2
  let mPhi : Mat22 K := columns ![![Phi00, f.mPhi.col 0 1], ![Phi10, f.mPhi.col 1 1]]
  let mX0 := O *ᵥ q
  checkState { f with
    mPhi := mPhi
    mX0 := if mX0 3 < 0 then -mX0 else mX0
    mP := mPhi * f.mP * Mat22.transpose mPhi + f.mGQGt }

def update (z Bi : Fin 3 → K) (sigma : K) : GravityFusion K :=
  let q := f.mX0
  let A := quatToMatrix q
  let Bb := A *ᵥ Bi
  let L := crossMatrix Bb 0
  let R : Mat33 K := .ofScalar (sigma * sigma)
  let P00 := f.mP.col 0 0
  let P10 := f.mP.col 1 0
  let P11 := f.mP.col 1 1
  let S := scaleCovariance L P00 + R
  let Si := p.invert S
  let LtSi := Lᵀ * Si
  let K0 := P00 * LtSi
  let K1 := P10ᵀ * LtSi
  let K0L := K0 * L
  let K1L := K1 * L
  let P10' := P10 - K0L * P10
  let e := z - Bb
  let dq := K0 *ᵥ e
  let db := K1 *ᵥ e
  checkState { f with
    mP := columns ![![P00 - K0L * P00, P10'ᵀ], ![P10', P11 - K1L * P10]]
    mX0 := p.normalize_quat (q + getF q *ᵥ ((0.5 : K) • dq))
    mX1 := f.mX1 + db }

def initFusion (q : Fin 4 → K) : GravityFusion K :=
  let mGyroVar := if f.mGyroVar = 0 then DEFAULT_GYRO_VAR else f.mGyroVar
  let dT : K := floatOf (f.mSamplingPeriodNs.getD p.mSamplingPeriodNs) / 1e9
  let dT2 := dT * dT
  let dT3 := dT2 * dT
  let q00 := mGyroVar * dT + 0.33333 * DEFAULT_GYRO_BIAS_VAR * dT3
  let q11 := DEFAULT_GYRO_BIAS_VAR * dT
  let q10 := 0.5 * DEFAULT_GYRO_BIAS_VAR * dT2
  let q01 := q10
  { f with
    mGyroVar := mGyroVar
    mBa := ![0, 0, 1]
    mBm := ![0, 1, 0]
    mX0 := q
    mX1 := 0
    mGQGt := columns ![![.ofScalar q00, .ofScalar (-q01)], ![.ofScalar (-q10), .ofScalar q11]]
    mP := 0 }

def initRodrParams (acc : Fin 3 → K) : GravityFusion K :=
  let up := p.normalize acc
  let east := getOrthogonal p.toLibm up
  let north := up ⨯₃ east
  f.initFusion p (p.matrixToQuat (columns ![east, north, up]))

/-! A call of `calculateGravity`, with `mX0` as each call it makes of `initRodrParams`, `update` and `predict` leaves
it. -/

/-- The part under `mJustStarted`. -/
def start (accel : Fin 3 → K) : GravityFusion K × List (Fin 4 → K) :=
  if f.mJustStarted = some true then
    let f := f.initRodrParams p accel
    ({ f with mJustStarted := some false }, [f.mX0])
  else (f, [])

/-- The error correction. -/
def correct (accel : Fin 3 → K) : GravityFusion K × List (Fin 4 → K) :=
  let l := p.length accel
  if FREE_FALL_THRESHOLD ≤ l then
    -- unless in free fall
    let l_inv := 1 / l
    let m := quatToMatrix f.mX0 *ᵥ f.mBm
    let f₁ := f.update p m f.mBm DEFAULT_MAG_STDEV
    let unityA := l_inv • accel
    let d := p.sqrt |l - NOMINAL_GRAVITY|
    let sigma := l_inv * DEFAULT_ACC_STDEV * p.exp d
    let f₂ := f₁.update p unityA f₁.mBa sigma
    (f₂, [f₁.mX0, f₂.mX0])
  else (f, [])

/-- The turn by the measured rate. -/
def propagate (gyroValues : Samples K) : GravityFusion K :=
  let pulse := gyroValues.axis
  let deltaTime : K := floatOf (gyroValues.first.timestamp - f.mLastTimestamp).toInt
  let f := { f with mLastTimestamp := gyroValues.first.timestamp }
  f.predict p pulse (deltaTime / 1e9)

structure Outcome (K : Type*) where
  fusion : GravityFusion K
  orientations : List (Fin 4 → K)
  result : SensorValues K

def calculateGravity (accValues gyroValues : Samples K) : Outcome K :=
  let accel := accValues.axis
  let started := f.start p accel
  let corrected := started.1.correct p accel
  let f := corrected.1.propagate p gyroValues
  let R := quatToMatrix f.mX0
  let g := (NOMINAL_GRAVITY : K) • R.col 2
  { fusion := f
    orientations := started.2 ++ corrected.2 ++ [f.mX0]
    result := { data := [g 0, g 1, g 2], timestamp := f.mLastTimestamp } }

/-- The calls of `calculateGravity` on a sequence of samples. -/
def feed : GravityFusion K → List (Samples K × Samples K) → List (Outcome K)
  | _, [] => []
  | f, (accValues, gyroValues) :: samples =>
    let o := f.calculateGravity p accValues gyroValues
    o :: feed o.fusion samples

end GravityFusion

end Definitions

/-! ## The orientation stays a unit quaternion -/

section Facts

variable {K : Type*} [Field K]

/-- The correction of `update` multiplies the orientation by a quaternion with real part one. -/
theorem ofCoords_add_getF (q : Fin 4 → K) (v : Fin 3 → K) :
    ofCoords (q + getF q *ᵥ v) = ofCoords q * ofParts 1 v := by
  refine ofCoords_eq_mul ?_ ?_ ?_ ?_ <;>
    simp only [Pi.add_apply, mulVec_three, getF, columns, of_apply, cons_val] <;>
    ring

/-- The step of `predict` multiplies the orientation by the turn it has made. -/
theorem ofCoords_propagator (psi : Fin 3 → K) (k2 : K) (q : Fin 4 → K) :
    ofCoords (GravityFusion.propagator psi k2 *ᵥ q) = ofCoords q * ofParts k2 psi := by
  refine ofCoords_eq_mul ?_ ?_ ?_ ?_ <;>
    simp only [mulVec_four, GravityFusion.propagator, crossMatrix, columns, of_apply, col_apply, cons_val,
      Pi.neg_apply] <;>
    ring

variable [LinearOrder K] [IsStrictOrderedRing K] {p : Platform K}

theorem NOMINAL_GRAVITY_pos : 0 < (NOMINAL_GRAVITY : K) := by
  unfold NOMINAL_GRAVITY
  norm_num

theorem WVEC_EPS_pos : 0 < (WVEC_EPS : K) := by
  unfold WVEC_EPS SQRT_3
  norm_num

/-- **`getOrthogonal` finds a unit vector across every vector but zero.** -/
theorem getOrthogonal_spec (h : p.Exact) {v : Fin 3 → K} (hv : v ≠ 0) :
    getOrthogonal p.toLibm v ⬝ᵥ getOrthogonal p.toLibm v = 1 ∧ getOrthogonal p.toLibm v ⬝ᵥ v = 0 := by
  have hof : ∀ w : Fin 3 → K, w ≠ 0 → w ⬝ᵥ v = 0 →
      p.normalize w ⬝ᵥ p.normalize w = 1 ∧ p.normalize w ⬝ᵥ v = 0 := by
    intro w hw horth
    refine ⟨h.normalize_unit hw, ?_⟩
    rw [Libm.normalize_eq_smul, smul_dotProduct, horth, smul_zero]
  have hzero : v 0 = 0 → v 1 = 0 → v 2 ≠ 0 := fun h0 h1 h2 => hv (by
    funext i
    fin_cases i
    · exact h0
    · exact h1
    · exact h2)
  unfold getOrthogonal
  split
  · rename_i hmin
    refine hof _ (fun hw => ?_) (by rw [vec3_dotProduct]; simp only [cons_val]; ring)
    have h2 : v 2 = 0 := congrFun hw 1
    have h1 : v 1 = 0 := neg_eq_zero.1 (congrFun hw 2)
    rw [h1, abs_zero] at hmin
    exact hzero (abs_nonpos_iff.1 hmin.1) h1 h2
  · split
    · rename_i hle
      refine hof _ (fun hw => ?_) (by rw [vec3_dotProduct]; simp only [cons_val]; ring)
      have h2 : v 2 = 0 := congrFun hw 0
      have h0 : v 0 = 0 := neg_eq_zero.1 (congrFun hw 2)
      rw [h2, abs_zero] at hle
      exact hzero h0 (abs_nonpos_iff.1 hle) h2
    · rename_i hlt
      refine hof _ (fun hw => hlt ?_) (by rw [vec3_dotProduct]; simp only [cons_val]; ring)
      have h1 : v 1 = 0 := congrFun hw 0
      rw [h1, abs_zero]
      exact abs_nonneg _

/-- The columns that `initRodrParams` makes a quaternion of. -/
theorem frame_rodrParams (h : p.Exact) {acc : Fin 3 → K} (hacc : acc ≠ 0) :
    let up := p.normalize acc
    let east := getOrthogonal p.toLibm up
    Frame east (up ⨯₃ east) up := by
  have hunit := h.normalize_unit hacc
  have hup : p.normalize acc ≠ 0 := fun h0 => by
    rw [h0, dotProduct_zero] at hunit
    exact zero_ne_one hunit
  obtain ⟨heast, horth⟩ := getOrthogonal_spec h hup
  exact ⟨heast, hunit, horth, rfl⟩

/-- A turn about a vector other than zero is a unit quaternion. -/
theorem normSq_turn (h : p.Exact) {we : Fin 3 → K} (hwe : we ≠ 0) (x : K) :
    Quaternion.normSq (ofParts (p.cos x) ((p.sin x * (1 / p.length we)) • we)) = 1 := by
  have hlen := h.length_ne_zero hwe
  have hsin : p.sin x * (1 / p.length we) * (p.sin x * (1 / p.length we) * (p.length we * p.length we)) =
      p.sin x * p.sin x := by
    field_simp
  rw [normSq_ofParts, smul_dotProduct, dotProduct_smul, ← h.length_mul_self, smul_eq_mul, smul_eq_mul, hsin]
  exact h.cos_sin x

namespace GravityFusion

/-- The orientation is a unit quaternion. -/
def Upright (f : GravityFusion K) : Prop := f.mX0 ⬝ᵥ f.mX0 = 1

omit [IsStrictOrderedRing K] in
@[simp] theorem checkState_mX0 (f : GravityFusion K) : f.checkState.mX0 = f.mX0 := by
  unfold checkState
  split <;> rfl

omit [IsStrictOrderedRing K] in
@[simp] theorem checkState_mJustStarted (f : GravityFusion K) : f.checkState.mJustStarted = f.mJustStarted := by
  unfold checkState
  split <;> rfl

theorem rate_ne_zero (h : p.Exact) (f : GravityFusion K) (w : Fin 3 → K) : f.rate p w ≠ 0 := by
  have heps : 0 < (WVEC_EPS : K) := WVEC_EPS_pos
  intro h0
  unfold rate at h0
  dsimp only at h0
  split at h0
  · have hx := congrFun h0 0
    split at hx
    · exact heps.ne' hx
    · exact heps.ne' (neg_eq_zero.1 hx)
  · rename_i hlen
    rw [h0, h.length_eq le_rfl (by rw [dotProduct_zero, mul_zero])] at hlen
    exact hlen heps

theorem upright_initRodrParams (h : p.Exact) (f : GravityFusion K) {acc : Fin 3 → K} (hacc : acc ≠ 0) :
    (f.initRodrParams p acc).Upright :=
  h.matrixToQuat_unit (frame_rodrParams h hacc)

/-- **The correction cannot hit zero**: it makes the quaternion longer. -/
theorem add_getF_ne_zero {f : GravityFusion K} (hf : f.Upright) (v : Fin 3 → K) : f.mX0 + getF f.mX0 *ᵥ v ≠ 0 := by
  intro h0
  have hlen := dotProduct_of_mul (ofCoords_add_getF f.mX0 v)
  rw [h0, dotProduct_zero, hf, one_mul, normSq_ofParts, mul_one] at hlen
  have := dotProduct_self_nonneg v
  linarith

theorem upright_update (h : p.Exact) {f : GravityFusion K} (hf : f.Upright) (z Bi : Fin 3 → K) (sigma : K) :
    (f.update p z Bi sigma).Upright := by
  unfold update Upright
  rw [checkState_mX0]
  exact h.normalize_quat_unit (add_getF_ne_zero hf _)

theorem upright_predict (h : p.Exact) {f : GravityFusion K} (hf : f.Upright) (w : Fin 3 → K) (dT : K) :
    (f.predict p w dT).Upright := by
  have hturn : ∀ x, let q := propagator ((p.sin x * (1 / p.length (f.rate p w))) • f.rate p w) (p.cos x) *ᵥ f.mX0
      q ⬝ᵥ q = 1 := by
    intro x
    dsimp only
    rw [dotProduct_of_mul (ofCoords_propagator _ _ _), normSq_turn h (rate_ne_zero h f w), hf, mul_one]
  unfold predict Upright
  rw [checkState_mX0]
  dsimp only
  split
  · rw [neg_dotProduct_neg]
    exact hturn _
  · exact hturn _

omit [IsStrictOrderedRing K] in
@[simp] theorem update_mJustStarted (f : GravityFusion K) (z Bi : Fin 3 → K) (sigma : K) :
    (f.update p z Bi sigma).mJustStarted = f.mJustStarted := checkState_mJustStarted _

omit [IsStrictOrderedRing K] in
@[simp] theorem predict_mJustStarted (f : GravityFusion K) (w : Fin 3 → K) (dT : K) :
    (f.predict p w dT).mJustStarted = f.mJustStarted := checkState_mJustStarted _

/-- What the next sample may rely on: the orientation is a unit quaternion, unless it is about to be set. -/
def Ready (f : GravityFusion K) : Prop := f.mJustStarted ≠ some true → f.Upright

/-- The part under `mJustStarted` sets the orientation if it is not set yet. -/
theorem start_spec (h : p.Exact) {f : GravityFusion K} (hf : f.Ready) {accel : Fin 3 → K}
    (hacc : f.mJustStarted = some true → accel ≠ 0) :
    (f.start p accel).1.Upright ∧ (f.start p accel).1.mJustStarted ≠ some true ∧
      ∀ q ∈ (f.start p accel).2, q ⬝ᵥ q = 1 := by
  unfold start
  split
  · rename_i hstarted
    have hup := upright_initRodrParams h f (hacc hstarted)
    refine ⟨hup, by simp, fun q hq => ?_⟩
    rw [List.mem_singleton.1 hq]
    exact hup
  · rename_i hstarted
    exact ⟨hf hstarted, hstarted, fun q hq => absurd hq List.not_mem_nil⟩

theorem correct_spec (h : p.Exact) {f : GravityFusion K} (hf : f.Upright) (accel : Fin 3 → K) :
    (f.correct p accel).1.Upright ∧ (f.correct p accel).1.mJustStarted = f.mJustStarted ∧
      ∀ q ∈ (f.correct p accel).2, q ⬝ᵥ q = 1 := by
  unfold correct
  dsimp only
  split
  · have hnorth := upright_update h hf (quatToMatrix f.mX0 *ᵥ f.mBm) f.mBm DEFAULT_MAG_STDEV
    refine ⟨upright_update h hnorth _ _ _, by rw [update_mJustStarted, update_mJustStarted], fun q hq => ?_⟩
    rcases List.mem_pair.1 hq with rfl | rfl
    · exact hnorth
    · exact upright_update h hnorth _ _ _
  · exact ⟨hf, rfl, fun q hq => absurd hq List.not_mem_nil⟩

theorem propagate_spec (h : p.Exact) {f : GravityFusion K} (hf : f.Upright) (gyroValues : Samples K) :
    (f.propagate p gyroValues).Upright ∧ (f.propagate p gyroValues).mJustStarted = f.mJustStarted := by
  have hf' : Upright { f with mLastTimestamp := gyroValues.first.timestamp } := hf
  exact ⟨upright_predict h hf' _ _, predict_mJustStarted _ _ _⟩

/-- The third column of the orientation's matrix is a unit vector. -/
theorem length_gravity (h : p.Exact) {q : Fin 4 → K} (hq : q ⬝ᵥ q = 1) :
    p.length ((NOMINAL_GRAVITY : K) • (quatToMatrix q).col 2) = NOMINAL_GRAVITY := by
  refine h.length_eq NOMINAL_GRAVITY_pos.le ?_
  rw [← mulVec_single_one, smul_dotProduct, dotProduct_smul, quatToMatrix_dotProduct hq, single_dotProduct,
    Pi.single_eq_same, one_mul, smul_eq_mul, smul_eq_mul, mul_one]

/-- The orientations are unit quaternions, and the result is as long as gravity is. -/
structure Outcome.Normed (p : Platform K) (o : Outcome K) : Prop where
  orientations : ∀ q ∈ o.orientations, p.length q = 1
  gravity : ∃ g : Fin 3 → K, o.result.data = [g 0, g 1, g 2] ∧ p.length g = NOMINAL_GRAVITY

/-- **One call**: every orientation it leaves is a unit quaternion, and gravity has its length. -/
theorem calculateGravity_spec (h : p.Exact) {f : GravityFusion K} (hf : f.Ready) (accValues gyroValues : Samples K)
    (hacc : f.mJustStarted = some true → accValues.axis ≠ 0) :
    (f.calculateGravity p accValues gyroValues).Normed p ∧
      (f.calculateGravity p accValues gyroValues).fusion.Upright ∧
      (f.calculateGravity p accValues gyroValues).fusion.mJustStarted ≠ some true := by
  obtain ⟨hstart, hjust, hstarted⟩ := start_spec h hf hacc
  obtain ⟨hcorrect, hkept, hcorrected⟩ := correct_spec h hstart accValues.axis
  obtain ⟨hpropagate, hstill⟩ := propagate_spec h hcorrect gyroValues
  refine ⟨⟨fun q hq => h.length_eq zero_le_one ?_, _, rfl, length_gravity h hpropagate⟩, hpropagate, ?_⟩
  · rw [mul_one]
    rcases List.mem_append.1 hq with hq | hq
    · rcases List.mem_append.1 hq with hq | hq
      · exact hstarted q hq
      · exact hcorrected q hq
    · rw [List.mem_singleton.1 hq]
      exact hpropagate
  · exact fun hjust' => hjust (hkept.symm.trans (hstill.symm.trans hjust'))

/-- Along a sequence only the first sample may meet a filter that has just started. -/
theorem feed_normed (h : p.Exact) : ∀ {samples : List (Samples K × Samples K)} {f : GravityFusion K}, f.Ready →
    (f.mJustStarted = some true → ∀ s ∈ samples.head?, s.1.axis ≠ 0) → ∀ o ∈ feed p f samples, o.Normed p
  | [], _, _, _, _, ho => absurd ho List.not_mem_nil
  | (accValues, gyroValues) :: samples, f, hf, hfirst, o, ho => by
    obtain ⟨hnormed, hupright, hjust⟩ :=
      calculateGravity_spec h hf accValues gyroValues (fun hjust => hfirst hjust _ rfl)
    rcases List.mem_cons.1 ho with rfl | ho
    · exact hnormed
    · exact feed_normed h (fun _ => hupright) (fun hjust' => absurd hjust' hjust) o ho

end GravityFusion

end Facts

/-! ### Over the real numbers -/

/-- The real functions, with any `invert` and any value in place of an unassigned period. -/
noncomputable def Platform.real (invert : Mat33 ℝ → Mat33 ℝ) (mSamplingPeriodNs : Int) : Platform ℝ :=
  { Libm.real with invert := invert, mSamplingPeriodNs := mSamplingPeriodNs }

/-- The gravity sensor of the SMI330, constructed in zeroed memory. -/
noncomputable def smi330Gravity : GravityFusion ℝ where
  mSensorData :=
    { driverName := "", sensorName := "SMI330 BOSCH Gravity Sensor", type := .gravity, minDelayUs := 5000,
      maxDelayUs := 20000 }
  mDependencyList := [.smi330Acc, .smi330Gyro]
  mGyroVar := 4.9e-5
  mX0 := 0
  mX1 := 0
  mBa := 0
  mBm := 0
  mPhi := 0
  mP := 0
  mGQGt := 0
  mLastTimestamp := 0

namespace GravityFusion

/-- **The magnitude of gravity** (`calculateGravity` after `activate(true)`): whatever the filter held before, and
whatever `invert` returns, every orientation the samples lead to is a unit quaternion and every vector returned has the
length of gravity, if the first acceleration is not zero. -/
theorem feed_activate (invert : Mat33 ℝ → Mat33 ℝ) (mSamplingPeriodNs : Int) (f : GravityFusion ℝ)
    (samples : List (Samples ℝ × Samples ℝ)) (hfirst : ∀ s ∈ samples.head?, s.1.axis ≠ 0) :
    ∀ o ∈ feed (.real invert mSamplingPeriodNs) (f.activate true).1 samples,
      (∀ q ∈ o.orientations, Libm.real.length q = 1) ∧
      ∃ g : Fin 3 → ℝ, o.result.data = [g 0, g 1, g 2] ∧ Libm.real.length g = NOMINAL_GRAVITY := by
  intro o ho
  have hready : (f.activate true).1.Ready := fun hjust => absurd rfl hjust
  have hexact : (Platform.real invert mSamplingPeriodNs).Exact := Libm.real_exact
  have hnormed := feed_normed hexact hready (fun _ => hfirst) o ho
  exact ⟨hnormed.orientations, hnormed.gravity⟩

/-- At rest and level for a sample, then in free fall and turning. -/
def levelThenFalling : List (Samples ℝ × Samples ℝ) :=
  [(.one 0 0 0 9.80665, .one 5000000 0 0 0), (.one 5000000 0 0 0, .one 10000000 1 2 3)]

theorem feed_activate_levelThenFalling :
    (feed (.real id 0) (smi330Gravity.activate true).1 levelThenFalling).Forall fun o =>
      (∀ q ∈ o.orientations, Libm.real.length q = 1) ∧
      ∃ g : Fin 3 → ℝ, o.result.data = [g 0, g 1, g 2] ∧ Libm.real.length g = NOMINAL_GRAVITY := by
  refine List.forall_iff_forall_mem.2 (feed_activate id 0 smi330Gravity levelThenFalling ?_)
  rintro s ⟨⟩ h0
  have hz : (9.80665 : ℝ) = 0 := congrFun h0 2
  norm_num at hz

end GravityFusion

end MemsHal
