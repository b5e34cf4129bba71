import MemsHal.Run
import MemsHal.SensorList
/-!
# Smi330Odr — the one output data rate of the SMI330

Types share a core, two cores share a slot of `Smi330Imu`, the two slots share one rate on a ladder of ten.  The
attribute always holds the rate of the slots (`odrCurrent_step`); a slot stores what its last core passed, so it holds
what its cores need exactly as long as every step is a `KeepsSlots` step (`slotsRight_step_iff`), and then the rate is
the one all the instances together need (`odrFollowsDemand_of_slots`).  A period below the ladder gets the slowest rate
(`odrOf_of_lt`).
-/
namespace MemsHal

/-! ## The ladder -/

namespace Smi330Imu

/-- The periods the loop of `updateSamplingRate` tries, fastest last. -/
def ladder : List Int := (List.range 10).map (fun k => mMaxSamplingRateNs / 2 ^ k)

theorem ladder_pairwise : ladder.Pairwise (· > ·) := by
  decide

/-- **The loop takes the first rung not above the period**, and keeps the rate it started with when there is none:
`n` rungs are left from `r` on. -/
theorem odrLoop_eq_find? (d odr : Int) : ∀ (n fuel : Nat) (r : Int), n < fuel →
    (∀ j < n, r / 2 ^ j ≥ mMinSamplingRateNs) → ¬ r / 2 ^ n ≥ mMinSamplingRateNs →
    odrLoop d odr fuel r = match ((List.range n).map (fun k => r / 2 ^ k)).find? (fun l => decide (l ≤ d)) with
      | some l => 1000000000 / l
      | none   => odr
  | _, 0, _, hf, _, _ => absurd hf (Nat.not_lt_zero _)
  | 0, fuel + 1, r, _, _, hend => by
    rw [Int.pow_zero, Int.ediv_one] at hend
    rw [odrLoop, if_neg hend]
    rfl
  | n + 1, fuel + 1, r, hf, hge, hend => by
    have h0 : r ≥ mMinSamplingRateNs := by simpa using hge 0 (Nat.succ_pos n)
    have hhalf : ∀ k : Nat, r / 2 ^ (k + 1) = r / 2 / 2 ^ k := by
      intro k
      rw [Int.ediv_ediv_of_nonneg (by decide), Int.pow_succ, Int.mul_comm]
    rw [odrLoop, if_pos h0, List.range_succ_eq_map, List.map_cons, List.find?_cons, Int.pow_zero, Int.ediv_one]
    by_cases hd : r ≤ d
    · simp [hd]
    · have ih := odrLoop_eq_find? d odr n fuel (r / 2) (Nat.lt_of_succ_lt_succ hf)
        (fun j hj => by rw [← hhalf]; exact hge (j + 1) (Nat.succ_lt_succ hj)) (by rw [← hhalf]; exact hend)
      have hmap : (List.map Nat.succ (List.range n)).map (fun k => r / 2 ^ k) =
          (List.range n).map (fun k => r / 2 / 2 ^ k) := by
        rw [List.map_map]
        exact List.map_congr_left (fun k _ => hhalf k)
      rw [if_neg hd, ih, hmap, decide_eq_false hd]

theorem odrOf_eq_find? (d : Int) :
    odrOf d = match ladder.find? (fun l => decide (l ≤ d)) with
      | some l => 1000000000 / l
      | none   => 1000000000 / mMaxSamplingRateNs :=
  odrLoop_eq_find? d _ 10 63 mMaxSamplingRateNs (by decide) (by decide) (by decide)

/-- In a descending list the first element not above `d` is the greatest one. -/
theorem isGreatest_of_find? {d l : Int} : ∀ {rungs : List Int}, rungs.Pairwise (· > ·) →
    rungs.find? (fun l => decide (l ≤ d)) = some l → IsGreatest {x | x ∈ rungs ∧ x ≤ d} l
  | [], _, h => by cases h
  | r :: rungs, hp, h => by
    rw [List.find?_cons] at h
    by_cases hr : r ≤ d
    · rw [decide_eq_true hr] at h
      obtain rfl : r = l := Option.some.inj h
      refine ⟨⟨List.mem_cons_self, hr⟩, fun x hx => ?_⟩
      rcases List.mem_cons.1 hx.1 with rfl | hx
      · exact le_rfl
      · exact le_of_lt (List.rel_of_pairwise_cons hp hx)
    · rw [decide_eq_false hr] at h
      obtain ⟨hm, hub⟩ := isGreatest_of_find? hp.of_cons h
      refine ⟨⟨List.mem_cons_of_mem r hm.1, hm.2⟩, fun x hx => ?_⟩
      rcases List.mem_cons.1 hx.1 with rfl | hx'
      · exact absurd hx.2 hr
      · exact hub ⟨hx', hx.2⟩

/-- **From the fastest rung up, the rate is that of the greatest rung not above the period.** -/
theorem odrOf_eq {d : Int} (hd : mMinSamplingRateNs ≤ d) :
    ∃ l, IsGreatest {x | x ∈ ladder ∧ x ≤ d} l ∧ odrOf d = 1000000000 / l := by
  rw [odrOf_eq_find?]
  cases hf : ladder.find? (fun l => decide (l ≤ d)) with
  | some l => exact ⟨l, isGreatest_of_find? ladder_pairwise hf, rfl⟩
  | none =>
    have := List.find?_eq_none.1 hf mMinSamplingRateNs (by decide)
    exact absurd (decide_eq_true hd) this

/-- Below the fastest rung the loop ends with the rate it started with, that of the slowest. -/
theorem odrOf_of_lt {d : Int} (hd : d < mMinSamplingRateNs) : odrOf d = 1000000000 / mMaxSamplingRateNs := by
  have hnone : ladder.find? (fun l => decide (l ≤ d)) = none := by
    refine List.find?_eq_none.2 (fun l hl => ?_)
    have hmin : ∀ l ∈ ladder, mMinSamplingRateNs ≤ l := by decide
    have := hmin l hl
    simp only [decide_eq_true_eq]
    omega
  rw [odrOf_eq_find?, hnone]

/-! ## The law of the ladder -/

/-- The periods that are stored for the enabled slots. -/
def enabledPeriods (imu : Smi330Imu) : Set Int := {p | ∃ k, imu.mIsEnabled k = true ∧ imu.mSamplingPeriodNs k = p}

/-- `l` is the rung for the period `d`. -/
def IsRung (d l : Int) : Prop :=
  (mMinSamplingRateNs ≤ d → IsGreatest {x | x ∈ ladder ∧ x ≤ d} l) ∧ (d < mMinSamplingRateNs → l = mMinSamplingRateNs)

/-- The same slots are enabled, and none of them has a shorter period than in `imu`. -/
structure Slower (imu slower : Smi330Imu) : Prop where
  enabled : slower.mIsEnabled = imu.mIsEnabled
  period : ∀ k, imu.mIsEnabled k = true → imu.mSamplingPeriodNs k ≤ slower.mSamplingPeriodNs k

/-- **The rate ladder is monotone and fast enough.**
* The rate that is written is that of the rung for the smallest enabled period.
* It is no lower than with longer periods. -/
structure LadderRight (imu : Smi330Imu) (device : String) : Prop where
  rung : ∃ d l, IsLeast imu.enabledPeriods d ∧ IsRung d l ∧
    imu.updateSamplingRate device = [⟨device, mSysfsOdr, toString (1000000000 / l)⟩]
  monotone : ∀ slower, imu.Slower slower → ∃ odr odr' : Int,
    slower.updateSamplingRate device = [⟨device, mSysfsOdr, toString odr⟩] ∧
      imu.updateSamplingRate device = [⟨device, mSysfsOdr, toString odr'⟩] ∧ odr ≤ odr'

theorem servedPeriod_spec (imu : Smi330Imu) (hon : ∃ k, imu.mIsEnabled k = true) :
    ∃ d, imu.servedPeriod = some d ∧ IsLeast imu.enabledPeriods d := by
  unfold servedPeriod
  cases ha : imu.mIsEnabled .accel with
  | true =>
    cases hg : imu.mIsEnabled .gyro with
    | true =>
      refine ⟨_, rfl, ?_, ?_⟩
      · rcases le_total (imu.mSamplingPeriodNs .accel) (imu.mSamplingPeriodNs .gyro) with h | h
        · exact ⟨.accel, ha, (min_eq_left h).symm⟩
        · exact ⟨.gyro, hg, (min_eq_right h).symm⟩
      · rintro p ⟨k, -, rfl⟩
        cases k with
        | accel => exact min_le_left _ _
        | gyro => exact min_le_right _ _
    | false =>
      refine ⟨_, rfl, ⟨.accel, ha, rfl⟩, ?_⟩
      rintro p ⟨k, hk, rfl⟩
      cases k with
      | accel => exact le_rfl
      | gyro => rw [hg] at hk; cases hk
  | false =>
    cases hg : imu.mIsEnabled .gyro with
    | true =>
      refine ⟨_, rfl, ⟨.gyro, hg, rfl⟩, ?_⟩
      rintro p ⟨k, hk, rfl⟩
      cases k with
      | accel => rw [ha] at hk; cases hk
      | gyro => exact le_rfl
    | false =>
      obtain ⟨k, hk⟩ := hon
      cases k with
      | accel => rw [ha] at hk; cases hk
      | gyro => rw [hg] at hk; cases hk

theorem updateSamplingRate_eq {imu : Smi330Imu} {d : Int} (hserved : imu.servedPeriod = some d) (device : String) :
    imu.updateSamplingRate device = [⟨device, mSysfsOdr, toString (odrOf d)⟩] := by
  unfold updateSamplingRate
  rw [hserved]

/-- From the fastest rung up, a longer period has no higher rate. -/
theorem odrOf_antitone {d d' : Int} (hd : mMinSamplingRateNs ≤ d) (h : d ≤ d') : odrOf d' ≤ odrOf d := by
  obtain ⟨l, ⟨⟨hl, hle⟩, -⟩, heq⟩ := odrOf_eq hd
  obtain ⟨l', ⟨⟨hl', -⟩, hub⟩, heq'⟩ := odrOf_eq (le_trans hd h)
  have hrates : ∀ l ∈ ladder, ∀ l' ∈ ladder, l ≤ l' → (1000000000 : Int) / l' ≤ 1000000000 / l := by decide
  rw [heq, heq']
  exact hrates l hl l' hl' (hub ⟨hl, le_trans hle h⟩)

/-- **From the fastest rung up, the ladder is right.** -/
theorem ladderRight_of_le {imu : Smi330Imu} {device : String} {d : Int} (hserved : imu.servedPeriod = some d)
    (hleast : IsLeast imu.enabledPeriods d) (hd : mMinSamplingRateNs ≤ d) : imu.LadderRight device := by
  obtain ⟨l, hl, hodr⟩ := odrOf_eq hd
  refine ⟨⟨d, l, hleast, ⟨fun _ => hl, fun hlt => absurd hd (not_le.2 hlt)⟩, ?_⟩, fun slower hslower => ?_⟩
  · rw [updateSamplingRate_eq hserved, hodr]
  · obtain ⟨k, hk, -⟩ := hleast.1
    obtain ⟨d', hserved', ⟨⟨k', hk', rfl⟩, -⟩⟩ := slower.servedPeriod_spec ⟨k, by rw [hslower.enabled]; exact hk⟩
    rw [hslower.enabled] at hk'
    exact ⟨_, _, updateSamplingRate_eq hserved' device, updateSamplingRate_eq hserved device,
      odrOf_antitone hd (le_trans (hleast.2 ⟨k', hk', rfl⟩) (hslower.period k' hk'))⟩

/-- **Below the fastest rung, the slowest rate is written.** -/
theorem not_ladderRight_of_lt {imu : Smi330Imu} {device : String} {d : Int} (hserved : imu.servedPeriod = some d)
    (hleast : IsLeast imu.enabledPeriods d) (hd : d < mMinSamplingRateNs) : ¬ imu.LadderRight device := by
  rintro ⟨⟨d', l, hleast', hrung, hwrite⟩, -⟩
  obtain rfl := hleast.unique hleast'
  obtain rfl := hrung.2 hd
  rw [updateSamplingRate_eq hserved, odrOf_of_lt hd] at hwrite
  simp only [List.cons.injEq, SysfsWrite.mk.injEq] at hwrite
  exact absurd hwrite.1.2.2 (by decide)

/-- **The ladder is right exactly if no enabled period is below the fastest rung.** -/
theorem ladderRight_iff (imu : Smi330Imu) (device : String) (hon : ∃ k, imu.mIsEnabled k = true) :
    imu.LadderRight device ↔ ∀ k, imu.mIsEnabled k = true → mMinSamplingRateNs ≤ imu.mSamplingPeriodNs k := by
  obtain ⟨d, hserved, hleast⟩ := imu.servedPeriod_spec hon
  constructor
  · intro hright k hk
    by_contra hlt
    exact not_ladderRight_of_lt hserved hleast (lt_of_le_of_lt (hleast.2 ⟨k, hk, rfl⟩) (not_le.1 hlt)) hright
  · intro hfit
    obtain ⟨k, hk, rfl⟩ := hleast.1
    exact ladderRight_of_le hserved hleast (hfit k hk)

/-- Both slots are enabled, the accelerometer at 20 ms and the gyroscope at 5 ms. -/
def bothEnabled : Smi330Imu where
  mIsEnabled _ := true
  mSamplingPeriodNs
    | .accel => 20000000
    | .gyro  => 5000000

theorem ladderRight_iff_bothEnabled : bothEnabled.LadderRight "iio:device0" ↔
    ∀ k, bothEnabled.mIsEnabled k = true → mMinSamplingRateNs ≤ bothEnabled.mSamplingPeriodNs k :=
  ladderRight_iff bothEnabled "iio:device0" ⟨.accel, rfl⟩

/-- The accelerometer alone is enabled, at 2 ms. -/
def belowLadder : Smi330Imu where
  mIsEnabled
    | .accel => true
    | .gyro  => false
  mSamplingPeriodNs _ := 2000000

/-- **The rate for 2 ms** is zero. -/
theorem not_ladderRight_belowLadder :
    belowLadder.updateSamplingRate "iio:device0" = [⟨"iio:device0", mSysfsOdr, "0"⟩] ∧
      ¬ belowLadder.LadderRight "iio:device0" := by
  refine ⟨by decide, not_ladderRight_of_lt rfl ⟨⟨.accel, rfl, rfl⟩, ?_⟩ (by decide)⟩
  rintro p ⟨k, hk, rfl⟩
  exact le_rfl

end Smi330Imu

/-- The slowest period of an instance, in nanoseconds. -/
def SensorId.maxDelayNs (id : SensorId) : Int := id.data.maxDelayUs * 1000

namespace Smi330Odr

open Run (Along Steps)
open Smi330Imu (Index)

/-! ## The slots -/

/-- What an instance demands of its slot: nothing while no type is enabled. -/
def demands (f : Fleet) (id : SensorId) : Set Int :=
  {q | (f.asked id).Running ∧ q ∈ (f.asked id).demands {id.maxDelayNs}}

/-- What all instances of a slot demand. -/
def slotDemands (f : Fleet) (k : Index) : Set Int := {q | ∃ id : SensorId, id.imuIndex = some k ∧ q ∈ demands f id}

/-- What the other instances of its slot demand beside `id`. -/
def mateDemands (f : Fleet) (id : SensorId) (k : Index) : Set Int :=
  {q | ∃ other : SensorId, other ≠ id ∧ other.imuIndex = some k ∧ q ∈ demands f other}

/-- **A slot holds what its instances need**: it is enabled while one of them runs, and then stores the smallest
period demanded. -/
structure SlotRight (f : Fleet) (k : Index) : Prop where
  enabled : f.imu.mIsEnabled k = true ↔ (slotDemands f k).Nonempty
  period : (slotDemands f k).Nonempty → IsLeast (slotDemands f k) (f.imu.mSamplingPeriodNs k)

def SlotsRight (f : Fleet) : Prop := ∀ k, SlotRight f k

/-- The operation leaves slot `k`, the one of its instance, to the demands of all its instances.
* A batch, or an activation that starts the instance, leaves it demanding a period as small as the others' ones.
* An activation that stops the instance finds the others stopped.
* An activation that does neither concerns a type that is not alone in demanding its period or a smaller one. -/
def KeepsSlot (f : Fleet) (op : SensorId × CoreOp) (k : Index) : Prop :=
  let before := f.asked op.1
  let after := op.2.ask before
  let leads := ∀ r ∈ mateDemands f op.1 k, ∃ q ∈ after.demands {op.1.maxDelayNs}, q ≤ r
  match op.2 with
  | .batchByType _ _ _ => leads
  | .activateByType type enable =>
    (¬ before.Running → after.Running → leads) ∧
    (before.Running → ¬ after.Running → ¬ (mateDemands f op.1 k).Nonempty) ∧
    (before.Running → after.Running →
      before.active type = enable ∨ before.Covered ({op.1.maxDelayNs} ∪ mateDemands f op.1 k) type)

def KeepsSlots (f : Fleet) (op : SensorId × CoreOp) : Prop := ∀ k, op.1.imuIndex = some k → KeepsSlot f op k

/-- The demands on a slot are those of one instance and those of the others. -/
theorem slotDemands_eq (f : Fleet) {id : SensorId} {k : Index} (hk : id.imuIndex = some k) :
    slotDemands f k = demands f id ∪ mateDemands f id k := by
  ext q
  constructor
  · rintro ⟨other, hok, hq⟩
    by_cases he : other = id
    · subst he; exact Or.inl hq
    · exact Or.inr ⟨other, he, hok, hq⟩
  · rintro (hq | ⟨other, -, hok, hq⟩)
    · exact ⟨id, hk, hq⟩
    · exact ⟨other, hok, hq⟩

theorem demands_step_of_ne (f : Fleet) (op : SensorId × CoreOp) {id : SensorId} (h : id ≠ op.1) :
    demands (f.step op) id = demands f id := by
  unfold demands
  rw [Fleet.step_asked_of_ne f op h]

theorem mateDemands_step (f : Fleet) (op : SensorId × CoreOp) (k : Index) :
    mateDemands (f.step op) op.1 k = mateDemands f op.1 k := by
  ext q
  refine exists_congr (fun other => and_congr_right (fun hne => ?_))
  rw [demands_step_of_ne f op hne]

theorem slotDemands_step_of_ne (f : Fleet) (op : SensorId × CoreOp) {k : Index} (h : op.1.imuIndex ≠ some k) :
    slotDemands (f.step op) k = slotDemands f k := by
  ext q
  refine exists_congr (fun id => and_congr_right (fun hid => ?_))
  rw [demands_step_of_ne f op (fun he => h (he ▸ hid))]

/-! ## What a step does to `Smi330Imu` -/

theorem setPowerMode_imu (id : SensorId) (device : String) (imu : Smi330Imu) (enable : Bool) :
    (setPowerMode id device imu enable).1 = match id.imuIndex with
      | some k => { imu with mIsEnabled := Function.update imu.mIsEnabled k enable }
      | none   => imu := by
  cases id <;> rfl

theorem setSamplingRate_imu (id : SensorId) (device : String) (imu : Smi330Imu) (p : Int) :
    (setSamplingRate id device imu p).1 = match id.imuIndex with
      | some k => { imu with mSamplingPeriodNs := Function.update imu.mSamplingPeriodNs k p }
      | none   => imu := by
  cases id <;> rfl

theorem step_imu_of_none (f : Fleet) (op : SensorId × CoreOp) (h : op.1.imuIndex = none) :
    (f.step op).imu = f.imu := by
  have hcalls : ∀ (device : String) (calls : List DriverCall) (imu : Smi330Imu),
      (runCalls op.1 device imu calls).1 = imu := by
    intro device calls
    induction calls with
    | nil => intro imu; rfl
    | cons call calls ih =>
      intro imu
      have hone : (call.run op.1 device imu).1 = imu := by
        cases call with
        | setPowerMode b => rw [DriverCall.run, setPowerMode_imu, h]
        | setSamplingRate p => rw [DriverCall.run, setSamplingRate_imu, h]
      simp only [runCalls, ih, hone]
  exact hcalls _ _ _

/-- A step as its slot sees it: no call of the driver, a new period, or a start or stop with a new period. -/
inductive SlotStep (f : Fleet) (op : SensorId × CoreOp) (k : Index) : Prop
  | quiet (type : BoschSensorType) (enable : Bool) (hop : op.2 = .activateByType type enable)
      (hrun : (op.2.ask (f.asked op.1)).Running ↔ (f.asked op.1).Running) (himu : (f.step op).imu = f.imu)
  | batch (type : BoschSensorType) (p l : Int64) (hop : op.2 = .batchByType type p l) (d : Int)
      (hd : (op.2.ask (f.asked op.1)).IsRate {op.1.maxDelayNs} d)
      (himu : (f.step op).imu =
        { f.imu with mSamplingPeriodNs := Function.update f.imu.mSamplingPeriodNs k d })
  | switch (type : BoschSensorType) (enable : Bool) (hop : op.2 = .activateByType type enable) (b : Bool)
      (hb : b = true ↔ (op.2.ask (f.asked op.1)).Running) (hdiff : ¬ b = true ↔ (f.asked op.1).Running) (d : Int)
      (hd : (op.2.ask (f.asked op.1)).IsRate {op.1.maxDelayNs} d)
      (himu : (f.step op).imu =
        { mIsEnabled := Function.update f.imu.mIsEnabled k b
          mSamplingPeriodNs := Function.update f.imu.mSamplingPeriodNs k d })

theorem slotStep (devices : Devices) (f : Fleet) (op : SensorId × CoreOp) (h : Fleet.Inv devices f) {k : Index}
    (hk : op.1.imuIndex = some k) : SlotStep f op k := by
  obtain ⟨id, op⟩ := op
  have hmax : (f.cores id).maxDelayNs = id.maxDelayNs := by
    unfold SensorCore.maxDelayNs
    rw [h.data]; rfl
  have himu : (f.step (id, op)).imu = (runCalls id ((f.cores id).exec op).1.mDevice f.imu ((f.cores id).exec op).2).1 :=
    rfl
  have hon := h.isEnabled_iff id
  cases op with
  | batchByType t q l =>
    obtain ⟨-, p, hrate, hcalls⟩ := SensorCore.exec_batchByType (f.cores id) t q l
    rw [h.clients, hmax] at hrate
    refine .batch t q l rfl p hrate ?_
    rw [himu, hcalls]
    simp only [runCalls, DriverCall.run, setSamplingRate_imu, hk]
  | activateByType t e =>
    obtain ⟨hen, hcases⟩ := SensorCore.exec_activateByType (f.cores id) t e
    rw [h.clients] at hen
    rcases hcases with ⟨hsame, hcalls⟩ | ⟨hdiff, p, hrate, hcalls⟩
    · refine .quiet t e rfl (by rw [← hon, ← hsame]; exact hen.symm) ?_
      rw [himu, hcalls]
      rfl
    · rw [h.clients, hmax] at hrate
      refine .switch t e rfl ((f.cores id).exec (.activateByType t e)).1.mIsEnabled hen ?_ p hrate ?_
      · rw [← hon]
        revert hdiff
        cases ((f.cores id).exec (.activateByType t e)).1.mIsEnabled <;> cases (f.cores id).mIsEnabled <;> simp
      · rw [himu, hcalls]
        simp only [runCalls, DriverCall.run, setPowerMode_imu, setSamplingRate_imu, hk]

/-! ## The slots along a run -/

theorem demands_of_running {f : Fleet} {id : SensorId} (h : (f.asked id).Running) :
    demands f id = (f.asked id).demands {id.maxDelayNs} := by
  ext q
  exact and_iff_right h

theorem demands_of_not_running {f : Fleet} {id : SensorId} (h : ¬ (f.asked id).Running) : demands f id = ∅ := by
  ext q
  exact iff_of_false (fun hq => h hq.1) (Set.notMem_empty q)

theorem maxDelayNs_of_imuIndex {id : SensorId} {k : Index} (h : id.imuIndex = some k) :
    id.maxDelayNs = Smi330Imu.mMaxSamplingRateNs := by
  revert h
  cases id <;> first | exact fun _ => rfl | exact fun h => by cases h

/-- The slowest period is among what the others demand, if they demand anything. -/
theorem maxDelayNs_mem_mateDemands {f : Fleet} {id : SensorId} {k : Index} (hk : id.imuIndex = some k)
    (h : (mateDemands f id k).Nonempty) : id.maxDelayNs ∈ mateDemands f id k := by
  obtain ⟨q, other, hne, hok, hr, -⟩ := h
  exact ⟨other, hne, hok, hr, Or.inl (by rw [maxDelayNs_of_imuIndex hk, maxDelayNs_of_imuIndex hok]; rfl)⟩

/-- A slot with a running instance is right when it is enabled and stores the least demand. -/
theorem slotRight_iff_of_running {f : Fleet} {id : SensorId} {k : Index} (hk : id.imuIndex = some k)
    (hr : (f.asked id).Running) : SlotRight f k ↔ f.imu.mIsEnabled k = true ∧
      IsLeast ((f.asked id).demands {id.maxDelayNs} ∪ mateDemands f id k) (f.imu.mSamplingPeriodNs k) := by
  have heq := slotDemands_eq f hk
  rw [demands_of_running hr] at heq
  have hne : (slotDemands f k).Nonempty := by
    rw [heq]
    exact ⟨id.maxDelayNs, Or.inl (Or.inl rfl)⟩
  constructor
  · intro h
    exact ⟨h.enabled.2 hne, heq ▸ h.period hne⟩
  · rintro ⟨hen, hl⟩
    exact ⟨iff_of_true hen hne, fun _ => heq.symm ▸ hl⟩

/-- A slot whose instance does not run is right when it follows the others. -/
theorem slotRight_iff_of_not_running {f : Fleet} {id : SensorId} {k : Index} (hk : id.imuIndex = some k)
    (hr : ¬ (f.asked id).Running) : SlotRight f k ↔
      (f.imu.mIsEnabled k = true ↔ (mateDemands f id k).Nonempty) ∧
      ((mateDemands f id k).Nonempty → IsLeast (mateDemands f id k) (f.imu.mSamplingPeriodNs k)) := by
  have heq : slotDemands f k = mateDemands f id k := by
    rw [slotDemands_eq f hk, demands_of_not_running hr, Set.empty_union]
  rw [← heq]
  exact ⟨fun h => ⟨h.enabled, h.period⟩, fun h => ⟨h.1, h.2⟩⟩

section oneStep

variable {f : Fleet} {id : SensorId} {k : Index}

/-- A type is switched on an instance that runs before and after, or neither before nor after. -/
theorem slotRight_quiet_iff (hk : id.imuIndex = some k) (hs : SlotRight f k) {t : BoschSensorType} {e : Bool}
    (hrun : (CoreOp.ask (.activateByType t e) (f.asked id)).Running ↔ (f.asked id).Running)
    (himu : (f.step (id, .activateByType t e)).imu = f.imu) :
    SlotRight (f.step (id, .activateByType t e)) k ↔ KeepsSlot f (id, .activateByType t e) k := by
  have hasked := Fleet.step_asked_self f (id, .activateByType t e)
  have hmate := mateDemands_step f (id, .activateByType t e) k
  dsimp only at hasked hmate
  unfold KeepsSlot
  dsimp only
  by_cases hb : (f.asked id).Running
  · have ha : ((f.step (id, .activateByType t e)).asked id).Running := by rw [hasked]; exact hrun.2 hb
    rw [slotRight_iff_of_running hk hb, ← Clients.demands_union] at hs
    rw [slotRight_iff_of_running hk ha, ← Clients.demands_union, himu, hmate, hasked]
    have hiff := Clients.isRate_activate_iff hs.2 t e
    constructor
    · intro hs'
      exact ⟨fun hn => absurd hb hn, fun _ hn => absurd (hrun.2 hb) hn, fun _ _ => hiff.1 hs'.2⟩
    · rintro ⟨-, -, hkeep⟩
      exact ⟨hs.1, hiff.2 (hkeep hb (hrun.2 hb))⟩
  · have ha : ¬ ((f.step (id, .activateByType t e)).asked id).Running := by rw [hasked, hrun]; exact hb
    rw [slotRight_iff_of_not_running hk hb] at hs
    rw [slotRight_iff_of_not_running hk ha, himu, hmate]
    exact iff_of_true hs ⟨fun _ hr => absurd (hrun.1 hr) hb, fun hr => absurd hr hb, fun hr => absurd hr hb⟩

theorem slotRight_batch_iff (hk : id.imuIndex = some k) (hs : SlotRight f k) {t : BoschSensorType} {p l : Int64}
    {d : Int}
    (hd : (CoreOp.ask (.batchByType t p l) (f.asked id)).IsRate {id.maxDelayNs} d)
    (himu : (f.step (id, .batchByType t p l)).imu =
      { f.imu with mSamplingPeriodNs := Function.update f.imu.mSamplingPeriodNs k d }) :
    SlotRight (f.step (id, .batchByType t p l)) k ↔ KeepsSlot f (id, .batchByType t p l) k := by
  have hasked := Fleet.step_asked_self f (id, .batchByType t p l)
  have hmate := mateDemands_step f (id, .batchByType t p l) k
  dsimp only at hasked hmate
  have hrun : ((f.step (id, .batchByType t p l)).asked id).Running ↔ (f.asked id).Running := by rw [hasked]; rfl
  have hper : (f.step (id, .batchByType t p l)).imu.mSamplingPeriodNs k = d := by rw [himu]; simp
  have hen : (f.step (id, .batchByType t p l)).imu.mIsEnabled = f.imu.mIsEnabled := by rw [himu]
  unfold KeepsSlot
  dsimp only
  by_cases hb : (f.asked id).Running
  · rw [slotRight_iff_of_running hk hb] at hs
    rw [slotRight_iff_of_running hk (hrun.2 hb), hper, hen, hmate, hasked, Least.isLeast_union_iff hd]
    exact and_iff_right hs.1
  · rw [slotRight_iff_of_not_running hk hb] at hs
    rw [slotRight_iff_of_not_running hk (fun hr => hb (hrun.1 hr)), hper, hen, hmate]
    -- an instance that does not run passes its slowest period on
    have hempty : (CoreOp.ask (.batchByType t p l) (f.asked id)).demands {id.maxDelayNs} = {id.maxDelayNs} :=
      Clients.demands_of_not_running _ hb
    unfold Clients.IsRate at hd
    rw [hempty] at hd ⊢
    obtain rfl : d = id.maxDelayNs := hd.1
    constructor
    · rintro ⟨-, hl⟩ r hr
      exact ⟨id.maxDelayNs, rfl, (hl ⟨r, hr⟩).2 hr⟩
    · intro hlead
      refine ⟨hs.1, fun hne => ⟨maxDelayNs_mem_mateDemands hk hne, fun r hr => ?_⟩⟩
      obtain ⟨q, rfl, hq⟩ := hlead r hr
      exact hq

/-- An instance starts or stops. -/
theorem slotRight_switch_iff (hk : id.imuIndex = some k) {t : BoschSensorType} {e b : Bool}
    (hb : b = true ↔ (CoreOp.ask (.activateByType t e) (f.asked id)).Running)
    (hdiff : ¬ b = true ↔ (f.asked id).Running) {d : Int}
    (hd : (CoreOp.ask (.activateByType t e) (f.asked id)).IsRate {id.maxDelayNs} d)
    (himu : (f.step (id, .activateByType t e)).imu =
      { mIsEnabled := Function.update f.imu.mIsEnabled k b
        mSamplingPeriodNs := Function.update f.imu.mSamplingPeriodNs k d }) :
    SlotRight (f.step (id, .activateByType t e)) k ↔ KeepsSlot f (id, .activateByType t e) k := by
  have hasked := Fleet.step_asked_self f (id, .activateByType t e)
  have hmate := mateDemands_step f (id, .activateByType t e) k
  dsimp only at hasked hmate
  have hper : (f.step (id, .activateByType t e)).imu.mSamplingPeriodNs k = d := by rw [himu]; simp
  have hen : (f.step (id, .activateByType t e)).imu.mIsEnabled k = b := by rw [himu]; simp
  unfold KeepsSlot
  dsimp only
  cases b with
  | true =>
    have ha := hb.1 rfl
    have hnb : ¬ (f.asked id).Running := fun hr => hdiff.2 hr rfl
    rw [slotRight_iff_of_running hk (by rw [hasked]; exact ha), hper, hen, hmate, hasked, Least.isLeast_union_iff hd]
    exact ⟨fun hl => ⟨fun _ _ => hl.2, fun hr => absurd hr hnb, fun hr => absurd hr hnb⟩,
      fun hkeep => ⟨rfl, hkeep.1 hnb ha⟩⟩
  | false =>
    have hna : ¬ (CoreOp.ask (.activateByType t e) (f.asked id)).Running := fun hr => by cases hb.2 hr
    have hbr := hdiff.1 Bool.false_ne_true
    rw [slotRight_iff_of_not_running hk (by rw [hasked]; exact hna), hper, hen, hmate]
    constructor
    · rintro ⟨hiff, -⟩
      exact ⟨fun hn => absurd hbr hn, fun _ _ hne => (by cases hiff.2 hne), fun _ ha => absurd ha hna⟩
    · rintro ⟨-, hnone, -⟩
      exact ⟨iff_of_false Bool.false_ne_true (hnone hbr hna), fun hne => absurd hne (hnone hbr hna)⟩

end oneStep

/-- **One step keeps its slot right exactly when it is a `KeepsSlot` step.** -/
theorem slotRight_step_iff (devices : Devices) (f : Fleet) (op : SensorId × CoreOp) (h : Fleet.Inv devices f)
    {k : Index} (hk : op.1.imuIndex = some k) (hs : SlotRight f k) : SlotRight (f.step op) k ↔ KeepsSlot f op k := by
  have hcases := slotStep devices f op h hk
  obtain ⟨id, op⟩ := op
  cases hcases with
  | quiet t e hop hrun himu =>
    obtain rfl := hop
    exact slotRight_quiet_iff hk hs hrun himu
  | batch t p l hop d hd himu =>
    obtain rfl := hop
    exact slotRight_batch_iff hk hs hd himu
  | switch t e hop b hb hdiff d hd himu =>
    obtain rfl := hop
    exact slotRight_switch_iff hk hb hdiff hd himu

theorem slotsRight_step_iff (devices : Devices) (f : Fleet) (op : SensorId × CoreOp) (h : Fleet.Inv devices f)
    (hs : SlotsRight f) : SlotsRight (f.step op) ↔ KeepsSlots f op := by
  constructor
  · intro hs' k hk
    exact (slotRight_step_iff devices f op h hk (hs k)).1 (hs' k)
  · intro hkeep k
    by_cases hk : op.1.imuIndex = some k
    · exact (slotRight_step_iff devices f op h hk (hs k)).2 (hkeep k hk)
    · have himu : (f.step op).imu.mIsEnabled k = f.imu.mIsEnabled k ∧
          (f.step op).imu.mSamplingPeriodNs k = f.imu.mSamplingPeriodNs k := by
        cases hj : op.1.imuIndex with
        | none => rw [step_imu_of_none f op hj]; exact ⟨rfl, rfl⟩
        | some j =>
          have hjk : k ≠ j := fun he => hk (by rw [hj, he])
          cases slotStep devices f op h hj with
          | quiet t e hop hrun himu => rw [himu]; exact ⟨rfl, rfl⟩
          | batch t p l hop d hd himu => rw [himu]; simp [hjk]
          | switch t e hop b hb hdiff d hd himu => rw [himu]; simp [hjk]
      have hdem := slotDemands_step_of_ne f op hk
      exact ⟨by rw [himu.1, hdem]; exact (hs k).enabled, by rw [himu.2, hdem]; exact (hs k).period⟩

/-! ## The attribute -/

/-- The rate attribute holds the rate of the period `Smi330Imu` serves. -/
def OdrCurrent (devices : Devices) (imu : Smi330Imu) (log : List SysfsWrite) : Prop :=
  ∀ p, imu.servedPeriod = some p →
    lastWritten log (devices.path "smi330") Smi330Imu.mSysfsOdr = some (toString (Smi330Imu.odrOf p))

theorem lastWritten_odr (imu : Smi330Imu) (device : String) :
    lastWritten (imu.updateSamplingRate device) device Smi330Imu.mSysfsOdr =
      imu.servedPeriod.map (fun p => toString (Smi330Imu.odrOf p)) := by
  unfold Smi330Imu.updateSamplingRate
  cases imu.servedPeriod with
  | none => rfl
  | some p => simp [lastWritten_cons]

theorem odrCurrent_of_write (devices : Devices) (imu : Smi330Imu) (log writes : List SysfsWrite)
    (h : lastWritten writes (devices.path "smi330") Smi330Imu.mSysfsOdr =
      imu.servedPeriod.map (fun p => toString (Smi330Imu.odrOf p))) : OdrCurrent devices imu (log ++ writes) := by
  intro p hp
  rw [lastWritten_append, h, hp]
  rfl

theorem odrCurrent_of_no_write (devices : Devices) (imu : Smi330Imu) (log writes : List SysfsWrite)
    (h : lastWritten writes (devices.path "smi330") Smi330Imu.mSysfsOdr = none) (hc : OdrCurrent devices imu log) :
    OdrCurrent devices imu (log ++ writes) := by
  intro p hp
  rw [lastWritten_append, h]
  exact hc p hp

theorem lastWritten_of_ne {device file : String} : ∀ {writes : List SysfsWrite}, (∀ w ∈ writes, w.file ≠ file) →
    lastWritten writes device file = none
  | [], _ => rfl
  | w :: writes, h => by
    have hw : ¬ (w.device = device ∧ w.file = file) := fun hw => h w List.mem_cons_self hw.2
    rw [lastWritten_cons, lastWritten_of_ne (fun v hv => h v (List.mem_cons_of_mem w hv)), if_neg hw]
    rfl

theorem lastWritten_setPowerMode (imu : Smi330Imu) (idx : Smi330Imu.Index) (enable : Bool) (device : String) :
    lastWritten (imu.setPowerMode idx enable device).2 device Smi330Imu.mSysfsOdr =
      (imu.setPowerMode idx enable device).1.servedPeriod.map (fun p => toString (Smi330Imu.odrOf p)) := by
  have hpower : Smi330Imu.mSysfsPowerMode idx ≠ Smi330Imu.mSysfsOdr := by
    cases idx <;> decide
  unfold Smi330Imu.setPowerMode
  rw [lastWritten_append, lastWritten_odr, lastWritten_of_ne (fun w hw => by
    rw [List.mem_singleton.1 hw]; exact hpower)]
  rfl

theorem setScale_file (device : String) (b : Bool) :
    ∀ w ∈ (if b then Smi330Gyro.setScale device else []), w.file ≠ Smi330Imu.mSysfsOdr := by
  cases b
  · exact fun _ hw => absurd hw List.not_mem_nil
  · intro w hw
    obtain rfl := List.mem_singleton.1 hw
    have hne : "in_anglvel_scale" ≠ Smi330Imu.mSysfsOdr := by decide
    exact hne

/-- The drivers that do not use `Smi330Imu` never write the attribute. -/
theorem setPowerMode_file {id : SensorId} (hid : id.imuIndex = none) (device : String) (imu : Smi330Imu) (b : Bool) :
    ∀ w ∈ (setPowerMode id device imu b).2, w.file ≠ Smi330Imu.mSysfsOdr := by
  have hacc : ∀ w ∈ Smi230Acc.setPowerMode device b, w.file ≠ Smi330Imu.mSysfsOdr := by
    have hne : "odr" ≠ Smi330Imu.mSysfsOdr ∧ "pwr" ≠ Smi330Imu.mSysfsOdr := by decide
    simpa [Smi230Acc.setPowerMode] using hne
  have hgyro : ∀ w ∈ Smi230Gyro.setPowerMode device b, w.file ≠ Smi330Imu.mSysfsOdr := by
    have hne : "bw_odr" ≠ Smi330Imu.mSysfsOdr ∧ "pwr" ≠ Smi330Imu.mSysfsOdr := by decide
    simpa [Smi230Gyro.setPowerMode] using hne
  cases id
  case smi330Acc | smi330AccUncalibrated | smi330Gyro | smi330GyroUncalibrated => cases hid
  case smi230Acc | smi230AccUncalibrated => exact hacc
  case smi230Gyro | smi230GyroUncalibrated => exact hgyro
  all_goals exact fun _ hw => absurd hw List.not_mem_nil

/-- Every call of a driver that changes what `Smi330Imu` serves also writes the attribute. -/
theorem odrCurrent_call (devices : Devices) (id : SensorId) (imu : Smi330Imu) (log : List SysfsWrite)
    (call : DriverCall) (h : OdrCurrent devices imu log) :
    OdrCurrent devices (call.run id (devices.path id.data.driverName) imu).1
      (log ++ (call.run id (devices.path id.data.driverName) imu).2) := by
  cases call with
  | setSamplingRate p =>
    cases id
    case smi330Acc | smi330AccUncalibrated | smi330Gyro | smi330GyroUncalibrated =>
      exact odrCurrent_of_write devices _ log _ (lastWritten_odr _ _)
    all_goals exact odrCurrent_of_no_write devices imu log _ rfl h
  | setPowerMode b =>
    cases hid : id.imuIndex with
    | none =>
      have himu : ((DriverCall.setPowerMode b).run id (devices.path id.data.driverName) imu).1 = imu := by
        rw [DriverCall.run, setPowerMode_imu, hid]
      rw [himu]
      exact odrCurrent_of_no_write devices imu log _ (lastWritten_of_ne (setPowerMode_file hid _ imu b)) h
    | some k =>
      refine odrCurrent_of_write devices _ log _ ?_
      cases id
      case smi330Acc | smi330AccUncalibrated => exact lastWritten_setPowerMode imu .accel b _
      case smi330Gyro | smi330GyroUncalibrated =>
        refine (lastWritten_append _ _ _ _).trans ?_
        rw [lastWritten_of_ne (setScale_file _ b), Option.or_none]
        exact lastWritten_setPowerMode imu .gyro b _
      all_goals cases hid

theorem odrCurrent_runCalls (devices : Devices) (id : SensorId) : ∀ (calls : List DriverCall) (imu : Smi330Imu)
    (log : List SysfsWrite), OdrCurrent devices imu log →
    OdrCurrent devices (runCalls id (devices.path id.data.driverName) imu calls).1
      (log ++ (runCalls id (devices.path id.data.driverName) imu calls).2)
  | [], _, log, h => by simpa [runCalls] using h
  | call :: calls, imu, log, h => by
    have hone := odrCurrent_call devices id imu log call h
    have hrest := odrCurrent_runCalls devices id calls _ _ hone
    rw [List.append_assoc] at hrest
    exact hrest

/-- **The attribute always holds the rate of the slots.** -/
theorem odrCurrent_step (devices : Devices) (f : Fleet) (op : SensorId × CoreOp) (h : Fleet.Inv devices f)
    (hc : OdrCurrent devices f.imu f.sysfs) : OdrCurrent devices (f.step op).imu (f.step op).sysfs := by
  have hdev : ((f.cores op.1).exec op.2).1.mDevice = devices.path op.1.data.driverName := by
    rw [SensorCore.exec_device, h.device]
  have hrun := odrCurrent_runCalls devices op.1 ((f.cores op.1).exec op.2).2 f.imu f.sysfs hc
  rw [← hdev] at hrun
  exact hrun

/-! ## The rate all instances need -/

/-- A batch on an SMI330 instance asks for no period below the fastest rung. -/
def Legal (_ : Fleet) (op : SensorId × CoreOp) : Prop :=
  ∀ type p l, op.2 = .batchByType type p l → op.1.imuIndex ≠ none → Smi330Imu.mMinSamplingRateNs ≤ p.toInt

def PeriodsFit (f : Fleet) : Prop :=
  ∀ id : SensorId, id.imuIndex ≠ none → ∀ type p, (f.asked id).period type = some p → Smi330Imu.mMinSamplingRateNs ≤ p

theorem periodsFit_step (f : Fleet) (op : SensorId × CoreOp) (hl : Legal f op) (h : PeriodsFit f) :
    PeriodsFit (f.step op) := by
  intro id hid type p hp
  by_cases he : id = op.1
  · subst he
    rw [Fleet.step_asked_self] at hp
    unfold Legal at hl
    cases hop : op.2 with
    | activateByType t e =>
      rw [hop] at hp
      exact h op.1 hid type p hp
    | batchByType t q l =>
      rw [hop] at hp
      by_cases ht : type = t
      · subst ht
        simp only [CoreOp.ask, Clients.batch, Function.update_self, Option.some.injEq] at hp
        rw [← hp]
        exact hl type q l hop hid
      · simp only [CoreOp.ask, Clients.batch, Function.update_of_ne ht] at hp
        exact h op.1 hid type p hp
  · rw [Fleet.step_asked_of_ne f op he] at hp
    exact h id hid type p hp

/-- The demand of each SMI330 instance that has an enabled type. -/
def instanceDemands (f : Fleet) : Set Int :=
  {q | ∃ id : SensorId, id.imuIndex ≠ none ∧ (f.asked id).Running ∧ (f.asked id).IsRate {id.maxDelayNs} q}

/-- **The output data rate follows the smallest demand**: while some SMI330 instance has an enabled type, the rate last
written is that of the greatest rung not above the smallest demand. -/
def OdrFollowsDemand (devices : Devices) (f : Fleet) : Prop :=
  (∃ id : SensorId, id.imuIndex ≠ none ∧ (f.asked id).Running) →
    ∃ d l, IsLeast (instanceDemands f) d ∧ IsGreatest {x | x ∈ Smi330Imu.ladder ∧ x ≤ d} l ∧
      lastWritten f.sysfs (devices.path "smi330") Smi330Imu.mSysfsOdr = some (toString (1000000000 / l))

/-- The least of all demands is the least of the instances' own rates. -/
theorem isLeast_instanceDemands {f : Fleet} {d : Int}
    (h : IsLeast (slotDemands f .accel ∪ slotDemands f .gyro) d) : IsLeast (instanceDemands f) d := by
  have hsub : ∀ id : SensorId, id.imuIndex ≠ none → (f.asked id).Running →
      (f.asked id).demands {id.maxDelayNs} ⊆ slotDemands f .accel ∪ slotDemands f .gyro := by
    intro id hid hr q hq
    cases hk : id.imuIndex with
    | none => exact absurd hk hid
    | some k =>
      cases k with
      | accel => exact Or.inl ⟨id, hk, hr, hq⟩
      | gyro => exact Or.inr ⟨id, hk, hr, hq⟩
  refine ⟨?_, fun q hq => ?_⟩
  · have hmem : ∃ id : SensorId, id.imuIndex ≠ none ∧ d ∈ demands f id := by
      rcases h.1 with ⟨id, hk, hd⟩ | ⟨id, hk, hd⟩
      · exact ⟨id, by rw [hk]; exact Option.some_ne_none _, hd⟩
      · exact ⟨id, by rw [hk]; exact Option.some_ne_none _, hd⟩
    obtain ⟨id, hid, hr, hd⟩ := hmem
    exact ⟨id, hid, hr, hd, fun q hq => h.2 (hsub id hid hr hq)⟩
  · obtain ⟨id, hid, hr, hq⟩ := hq
    exact h.2 (hsub id hid hr hq.1)

/-- With the slots right, `Smi330Imu` serves the least of all demands. -/
theorem servedPeriod_isLeast {f : Fleet} (hs : SlotsRight f)
    (hr : ∃ id : SensorId, id.imuIndex ≠ none ∧ (f.asked id).Running) :
    ∃ d, f.imu.servedPeriod = some d ∧ IsLeast (slotDemands f .accel ∪ slotDemands f .gyro) d := by
  have hslot : (slotDemands f .accel).Nonempty ∨ (slotDemands f .gyro).Nonempty := by
    obtain ⟨id, hid, hr⟩ := hr
    cases hk : id.imuIndex with
    | none => exact absurd hk hid
    | some k =>
      cases k with
      | accel => exact Or.inl ⟨_, id, hk, hr, Or.inl rfl⟩
      | gyro => exact Or.inr ⟨_, id, hk, hr, Or.inl rfl⟩
  have hoff : ∀ k, f.imu.mIsEnabled k = false → slotDemands f k = ∅ := by
    intro k hk
    refine Set.not_nonempty_iff_eq_empty.1 (fun hne => ?_)
    rw [(hs k).enabled.2 hne] at hk
    cases hk
  unfold Smi330Imu.servedPeriod
  cases ha : f.imu.mIsEnabled .accel with
  | true =>
    have hla := (hs .accel).period ((hs .accel).enabled.1 ha)
    cases hg : f.imu.mIsEnabled .gyro with
    | true =>
      have hlg := (hs .gyro).period ((hs .gyro).enabled.1 hg)
      exact ⟨_, rfl, hla.union hlg⟩
    | false => exact ⟨_, rfl, by rw [hoff .gyro hg, Set.union_empty]; exact hla⟩
  | false =>
    cases hg : f.imu.mIsEnabled .gyro with
    | true =>
      have hlg := (hs .gyro).period ((hs .gyro).enabled.1 hg)
      exact ⟨_, rfl, by rw [hoff .accel ha, Set.empty_union]; exact hlg⟩
    | false =>
      rw [hoff .accel ha, hoff .gyro hg] at hslot
      rcases hslot with ⟨q, hq⟩ | ⟨q, hq⟩
      · exact absurd hq (Set.notMem_empty q)
      · exact absurd hq (Set.notMem_empty q)

theorem min_le_of_mem_slotDemands {f : Fleet} (h : PeriodsFit f) {k : Index} {q : Int} (hq : q ∈ slotDemands f k) :
    Smi330Imu.mMinSamplingRateNs ≤ q := by
  obtain ⟨id, hk, -, hq⟩ := hq
  rcases hq with rfl | ⟨t, -, hq⟩
  · rw [maxDelayNs_of_imuIndex hk]; decide
  · exact h id (by rw [hk]; exact Option.some_ne_none _) t q hq

/-- **Right slots give the right rate.** -/
theorem odrFollowsDemand_of_slots (devices : Devices) (f : Fleet) (hs : SlotsRight f) (hfit : PeriodsFit f)
    (hc : OdrCurrent devices f.imu f.sysfs) : OdrFollowsDemand devices f := by
  intro hr
  obtain ⟨d, hserved, hleast⟩ := servedPeriod_isLeast hs hr
  have hmin : Smi330Imu.mMinSamplingRateNs ≤ d := by
    rcases hleast.1 with hd | hd
    · exact min_le_of_mem_slotDemands hfit hd
    · exact min_le_of_mem_slotDemands hfit hd
  obtain ⟨l, hl, hodr⟩ := Smi330Imu.odrOf_eq hmin
  exact ⟨d, l, isLeast_instanceDemands hleast, hl, by rw [hc d hserved, hodr]⟩

/-! ## Runs -/

theorem slotsRight_fresh (devices : Devices) : SlotsRight (Fleet.fresh devices) := by
  have hempty : ∀ k, ¬ (slotDemands (Fleet.fresh devices) k).Nonempty :=
    fun k ⟨_, _, _, hr, _⟩ => Clients.not_running_none hr
  exact fun k => ⟨iff_of_false Bool.false_ne_true (hempty k), fun hne => absurd hne (hempty k)⟩

/-- **The slots are right along a run exactly when every step keeps its slot.** -/
theorem along_slotsRight_iff (devices : Devices) (ops : List (SensorId × CoreOp)) :
    Along Fleet.step SlotsRight (Fleet.fresh devices) ops ↔ Steps Fleet.step KeepsSlots (Fleet.fresh devices) ops :=
  Run.along_iff_steps' (Fleet.inv_step devices) (slotsRight_step_iff devices) ops (Fleet.inv_fresh devices)
    (slotsRight_fresh devices)

/-- **The rate follows the smallest demand along every run of legal steps that keep their slots.** -/
theorem along_odrFollowsDemand (devices : Devices) (ops : List (SensorId × CoreOp))
    (hlegal : Steps Fleet.step Legal (Fleet.fresh devices) ops)
    (hkeep : Steps Fleet.step KeepsSlots (Fleet.fresh devices) ops) :
    Along Fleet.step (OdrFollowsDemand devices) (Fleet.fresh devices) ops := by
  have hslots := (along_slotsRight_iff devices ops).2 hkeep
  have hfit : Along Fleet.step (fun f => PeriodsFit f) (Fleet.fresh devices) ops :=
    Run.along_of_step (fun f op hI hl => periodsFit_step f op hl hI) (fun _ _ _ _ hp => by cases hp) hlegal
  have hcur : Along Fleet.step (fun f => Fleet.Inv devices f ∧ OdrCurrent devices f.imu f.sysfs)
      (Fleet.fresh devices) ops :=
    Run.along_of_inv (fun f op hI => ⟨Fleet.inv_step devices f op hI.1, odrCurrent_step devices f op hI.1 hI.2⟩) ops
      ⟨Fleet.inv_fresh devices, fun _ hp => by cases hp⟩
  rw [Run.along_iff_prefixes] at hslots hfit hcur ⊢
  intro pre post hs
  exact odrFollowsDemand_of_slots devices _ (hslots pre post hs) (hfit pre post hs) (hcur pre post hs).2

/-- An idle instance alone on its slot keeps it, whatever it is asked. -/
theorem keepsSlots_of_alone {f : Fleet} {op : SensorId × CoreOp} (hidle : ¬ (f.asked op.1).Running)
    (halone : ∀ other, other ≠ op.1 → other.imuIndex = op.1.imuIndex → ¬ (f.asked other).Running) :
    KeepsSlots f op := by
  intro k hk
  have hnone : ∀ r, r ∉ mateDemands f op.1 k :=
    fun r ⟨other, hne, hok, hr⟩ => halone other hne (hok.trans hk.symm) hr.1
  unfold KeepsSlot
  cases op.2 with
  | batchByType t p l => exact fun r hr => absurd hr (hnone r)
  | activateByType t e =>
    exact ⟨fun _ _ r hr => absurd hr (hnone r), fun hr => absurd hr hidle, fun hr => absurd hr hidle⟩

/-- The accelerometer is batched at 20 ms and activated, then the gyroscope at 5 ms. -/
def accelThenGyro : List (SensorId × CoreOp) :=
  [(.smi330Acc, .batchByType .accel 20000000 0), (.smi330Acc, .activateByType .accel true),
    (.smi330Gyro, .batchByType .gyro 5000000 0), (.smi330Gyro, .activateByType .gyro true)]

theorem along_odrFollowsDemand_accelThenGyro :
    Along Fleet.step (OdrFollowsDemand Devices.byName) (Fleet.fresh Devices.byName) accelThenGyro := by
  refine along_odrFollowsDemand Devices.byName accelThenGyro ⟨?_, ?_, ?_, ?_, trivial⟩ ⟨?_, ?_, ?_, ?_, trivial⟩
  case refine_1 | refine_3 =>
    intro t p l hop _
    cases hop
    decide
  case refine_2 | refine_4 =>
    intro t p l hop
    cases hop
  all_goals
    refine keepsSlots_of_alone ?_ ?_
    · rintro ⟨type, htype⟩
      cases type <;> cases htype
    · rintro other hne hoi ⟨type, htype⟩
      cases other <;> first | exact hne rfl | (cases type <;> (cases htype; done)) | cases hoi

/-- The accelerometer runs at 5 ms, then the uncalibrated one is batched at 80 ms and not activated. -/
def idleMateBatched : List (SensorId × CoreOp) :=
  [(.smi330Acc, .batchByType .accel 5000000 0), (.smi330Acc, .activateByType .accel true),
    (.smi330AccUncalibrated, .batchByType .accelUncalibrated 80000000 0)]

/-- **A batch on an idle instance slows down the running one.** -/
theorem not_along_odrFollowsDemand_idleMateBatched :
    ¬ Along Fleet.step (OdrFollowsDemand Devices.byName) (Fleet.fresh Devices.byName) idleMateBatched := by
  intro h
  have hrun : ((Run.run Fleet.step (Fleet.fresh Devices.byName) idleMateBatched).asked .smi330Acc).Running :=
    ⟨.accel, by decide⟩
  obtain ⟨d, l, hd, hl, hodr⟩ := h.last ⟨.smi330Acc, by decide, hrun⟩
  have hslow : lastWritten (Run.run Fleet.step (Fleet.fresh Devices.byName) idleMateBatched).sysfs
      (Devices.byName.path "smi330") Smi330Imu.mSysfsOdr = some "0" := by
    decide
  have hrate : toString (1000000000 / l) = "0" := Option.some.inj (hodr.symm.trans hslow)
  have hle : d ≤ 5000000 := by
    obtain ⟨id, hid, ⟨type, htype⟩, hmin⟩ := hd.1
    cases id
    case smi330Acc => exact hmin.2 (Or.inr ⟨.accel, by decide, by decide⟩)
    case smi330AccUncalibrated | smi330Gyro | smi330GyroUncalibrated => cases type <;> cases htype
    all_goals exact absurd rfl hid
  have hfast : ∀ l ∈ Smi330Imu.ladder, l ≤ 5000000 → toString (1000000000 / l) ≠ "0" := by
    decide
  exact hfast l hl.1.1 (le_trans hl.1.2 hle) hrate

end Smi330Odr
end MemsHal
