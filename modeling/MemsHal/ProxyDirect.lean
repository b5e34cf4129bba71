import MemsHal.ProxyFrame
/-!
# ProxyDirect — `HalProxy::configDirectReport`

One sub-HAL serves the direct channels, the first that offers them.  `configDirectReport` takes the sub-HAL index off
the handle it is given and never looks at it, so the request of a sensor of any sub-HAL configures the sensor of the
same local handle.
-/
namespace MemsHal
namespace MultiHal

inductive RateLevel
  | stop
  | normal
  | fast
  | veryFast
  | other (value : Int32)
  deriving DecidableEq, Repr

/-- The arguments of a call of `configDirectReport` on a sub-HAL. -/
structure DirectReport where
  sensorHandle : Int32
  channelHandle : Int32
  rate : RateLevel
  deriving DecidableEq, Repr

/-- `configDirectReport` goes to a sub-HAL, whose answer is the answer, or fails with a result and a report token. -/
def HalProxy.configDirectReport (p : HalProxy) (sensorHandle channelHandle : Int32) (rate : RateLevel) :
    Except (Result × Int32) (Nat × DirectReport) :=
  match p.mDirectChannelSubHal with
  | none => .error (.invalidOperation, -1)
  | some subHalIndex =>
    if sensorHandle = -1 ∧ rate ≠ .stop then .error (.badValue, -1)
    else
      let sensorHandle := if sensorHandle ≠ -1 then clearSubHalIndex sensorHandle else sensorHandle
      .ok (subHalIndex, ⟨sensorHandle, channelHandle, rate⟩)

/-- A sensor that makes its sub-HAL the one for direct channels. -/
def SensorInfo.offersDirectChannel (sensor : SensorInfo) : Bool :=
  subHalIndexIsClear sensor.sensorHandle ∧
    sensor.flags &&& (SensorFlagBits.maskDirectReport ||| SensorFlagBits.maskDirectChannel) ≠ 0

def SubHal.offersDirectChannel (subHal : SubHal) : Bool := subHal.sensors.any SensorInfo.offersDirectChannel

namespace ProxyDirect

/-- `sensorHandle` is the framework handle of the sensor that sub-HAL `i` reports under the handle `h`. -/
def Own (subHalList : List SubHal) (i : Nat) (h sensorHandle : Int32) : Prop :=
  subHalIndexIsClear h = true ∧ (∃ subHal ∈ subHalList[i]?, h ∈ subHal.sensors.map SensorInfo.sensorHandle) ∧
    setSubHalIndex h i = sensorHandle

/-- The upper byte of `sensorHandle` is that of the index `i`. -/
def Carries (sensorHandle : Int32) (i : Nat) : Prop := setSubHalIndex (clearSubHalIndex sensorHandle) i = sensorHandle

/-- **Direct reports are configured only for sensors of the sub-HAL for direct channels.**
* A request that is forwarded is for a sensor of that sub-HAL, which knows it under the handle it gets.
* A request under the index of another sub-HAL, or of none, is answered with an error. -/
structure Guarded (p : HalProxy) (sensorHandle channelHandle : Int32) (rate : RateLevel) : Prop where
  forwarded : ∀ i report, p.configDirectReport sensorHandle channelHandle rate = .ok (i, report) →
    p.mDirectChannelSubHal = some i ∧ Own p.mSubHalList i report.sensorHandle sensorHandle
  refused : (∀ i, p.mDirectChannelSubHal = some i → ¬ Carries sensorHandle i) →
    ∃ e, p.configDirectReport sensorHandle channelHandle rate = .error e

/-! ## The sub-HAL for direct channels -/

theorem direct_setFlags (p : HalProxy) (sensorInfo : SensorInfo) (subHalIndex : Nat) :
    (p.setDirectChannelFlags sensorInfo subHalIndex).1.mDirectChannelSubHal = p.mDirectChannelSubHal.or
      (if sensorInfo.flags &&& (SensorFlagBits.maskDirectReport ||| SensorFlagBits.maskDirectChannel) ≠ 0 then
        some subHalIndex else none) := by
  unfold HalProxy.setDirectChannelFlags
  cases hdirect : p.mDirectChannelSubHal with
  | none =>
    dsimp only
    split <;> simp_all
  | some i =>
    dsimp only
    rw [if_neg (by simp), Option.some_or]
    split <;> exact hdirect

theorem direct_loadSensor (p : HalProxy) (subHalIndex : Nat) (sensor : SensorInfo) :
    (p.loadSensor subHalIndex sensor).mDirectChannelSubHal =
      p.mDirectChannelSubHal.or (if sensor.offersDirectChannel then some subHalIndex else none) := by
  unfold HalProxy.loadSensor SensorInfo.offersDirectChannel
  by_cases hc : subHalIndexIsClear sensor.sensorHandle = true
  · rw [if_pos hc]
    simp only [hc, true_and, decide_eq_true_eq]
    exact direct_setFlags p _ subHalIndex
  · rw [if_neg hc]
    simp only [hc, false_and, decide_false, Bool.false_eq_true, if_false, Option.or_none]

/-- The sensors of one sub-HAL make it the one, if there is none yet and one of them offers direct channels. -/
theorem direct_loadSensors (subHalIndex : Nat) : ∀ (sensors : List SensorInfo) (p : HalProxy),
    (sensors.foldl (fun p sensor => p.loadSensor subHalIndex sensor) p).mDirectChannelSubHal =
      p.mDirectChannelSubHal.or (if sensors.any SensorInfo.offersDirectChannel then some subHalIndex else none)
  | [], p => (Option.or_none).symm
  | sensor :: sensors, p => by
    rw [List.foldl_cons, direct_loadSensors subHalIndex sensors, direct_loadSensor, List.any_cons, Option.or_assoc]
    congr 1
    cases sensor.offersDirectChannel <;> rfl

theorem direct_loadSubHals : ∀ (subHals : List SubHal) (n : Nat) (p : HalProxy),
    ((subHals.zipIdx n).foldl (fun p (subHal, subHalIndex) =>
        subHal.sensors.foldl (fun p sensor => p.loadSensor subHalIndex sensor) p) p).mDirectChannelSubHal =
      p.mDirectChannelSubHal.or ((subHals.findIdx? SubHal.offersDirectChannel).map (· + n))
  | [], n, p => (Option.or_none).symm
  | subHal :: subHals, n, p => by
    rw [List.zipIdx_cons, List.foldl_cons, direct_loadSubHals subHals (n + 1), direct_loadSensors, Option.or_assoc,
      List.findIdx?_cons]
    congr 1
    show (if subHal.offersDirectChannel then some n else none).or _ = _
    cases subHal.offersDirectChannel with
    | true => simp
    | false => simp [Nat.add_comm, Nat.add_left_comm, Function.comp_def]

/-- **The sub-HAL for direct channels is the first that offers them**, whatever has happened since. -/
theorem direct_run (kWakelockTimeoutNs : Int) (subHalList : List SubHal) (startTime resetTime : Int)
    (ops : List SessionOp) :
    (Run.run System.session (System.start kWakelockTimeoutNs subHalList startTime resetTime)
      ops).proxy.mDirectChannelSubHal = subHalList.findIdx? SubHal.offersDirectChannel := by
  rw [(ProxyFrame.run_subHals _ ops).2]
  refine (direct_loadSubHals subHalList 0 _).trans ?_
  rw [Option.none_or]
  exact Option.map_id'

/-! ## Requests -/

section Own

variable {subHalList : List SubHal} {i : Nat} {h sensorHandle : Int32}

theorem Own.clear (hown : Own subHalList i h sensorHandle) : clearSubHalIndex sensorHandle = h := by
  obtain ⟨hc, -, rfl⟩ := hown
  exact clear_set hc i

theorem Own.carries (hown : Own subHalList i h sensorHandle) : Carries sensorHandle i := by
  unfold Carries
  rw [hown.clear]
  exact hown.2.2

theorem Own.lt_length (hown : Own subHalList i h sensorHandle) : i < subHalList.length := by
  obtain ⟨-, ⟨subHal, hsub, -⟩, -⟩ := hown
  exact (List.getElem?_eq_some_iff.1 hsub).1

/-- A sensor is no one's but the sub-HAL's whose index its handle carries. -/
theorem Own.eq_of_carries (hown : Own subHalList i h sensorHandle) (hsize : subHalList.length ≤ 256) {j : Nat}
    {h' : Int32} (hc : subHalIndexIsClear h' = true) (hj : j < 256) (hset : setSubHalIndex h' j = sensorHandle) :
    i = j :=
  (set_inj hown.1 hc (Nat.lt_of_lt_of_le hown.lt_length hsize) hj (hown.2.2.trans hset.symm)).1

end Own

section Requests

variable {p : HalProxy} {sensorHandle : Int32} (channelHandle : Int32) (rate : RateLevel)

theorem configDirectReport_of_none (hnone : p.mDirectChannelSubHal = none) :
    p.configDirectReport sensorHandle channelHandle rate = .error (.invalidOperation, -1) := by
  unfold HalProxy.configDirectReport
  rw [hnone]

/-- No handle but -1 is refused for what it is. -/
theorem configDirectReport_of_some {i : Nat} (hi : p.mDirectChannelSubHal = some i) (hne : sensorHandle ≠ -1) :
    p.configDirectReport sensorHandle channelHandle rate =
      .ok (i, ⟨clearSubHalIndex sensorHandle, channelHandle, rate⟩) := by
  unfold HalProxy.configDirectReport
  rw [hi]
  dsimp only
  rw [if_neg (fun h => hne h.1), if_pos hne]

/-- A request is guarded exactly if the sub-HAL for direct channels, if there is one, has the sensor. -/
theorem guarded_iff_own (hne : sensorHandle ≠ -1) :
    Guarded p sensorHandle channelHandle rate ↔
      ∀ i, p.mDirectChannelSubHal = some i → ∃ h, Own p.mSubHalList i h sensorHandle := by
  constructor
  · intro hg i hi
    exact ⟨_, (hg.forwarded i _ (configDirectReport_of_some channelHandle rate hi hne)).2⟩
  · intro hown
    cases hdirect : p.mDirectChannelSubHal with
    | none =>
      have herror : p.configDirectReport sensorHandle channelHandle rate = .error (.invalidOperation, -1) :=
        configDirectReport_of_none channelHandle rate hdirect
      refine ⟨fun i report hok => ?_, fun _ => ⟨_, herror⟩⟩
      rw [herror] at hok
      cases hok
    | some i =>
      have hforward := configDirectReport_of_some channelHandle rate hdirect hne
      obtain ⟨h, hi⟩ := hown i hdirect
      refine ⟨fun j report hok => ?_, fun hforeign => absurd hi.carries (hforeign i hdirect)⟩
      rw [hforward] at hok
      cases hok
      refine ⟨hdirect, ?_⟩
      rw [hi.clear]
      exact hi

/-- **No request under another index is guarded**, be it that of another sub-HAL or beyond the list. -/
theorem not_guarded_of_ne (hsize : p.mSubHalList.length ≤ 256) {i j : Nat} (hi : p.mDirectChannelSubHal = some i)
    (hne : sensorHandle ≠ -1) {h : Int32} (hc : subHalIndexIsClear h = true) (hj : j < 256)
    (hset : setSubHalIndex h j = sensorHandle) (hij : i ≠ j) : ¬ Guarded p sensorHandle channelHandle rate := by
  intro hg
  obtain ⟨h', hown⟩ := (guarded_iff_own channelHandle rate hne).1 hg i hi
  exact hij (hown.eq_of_carries hsize hc hj hset)

end Requests

theorem start_subHalList (kWakelockTimeoutNs : Int) (subHalList : List SubHal) (startTime resetTime : Int) :
    (System.start kWakelockTimeoutNs subHalList startTime resetTime).proxy.mSubHalList = subHalList := by
  unfold System.start HalProxy.construct
  obtain ⟨m, index, h⟩ := ProxyRoute.initializeSensorList_fields _
  rw [h]

/-- **A request is guarded exactly if no sub-HAL offers direct channels or the sensor is one of the first that does**,
whatever has happened to the proxy. -/
theorem guarded_iff (kWakelockTimeoutNs : Int) (subHalList : List SubHal) (startTime resetTime : Int)
    (ops : List SessionOp) (sensorHandle channelHandle : Int32) (rate : RateLevel) (hne : sensorHandle ≠ -1) :
    Guarded (Run.run System.session (System.start kWakelockTimeoutNs subHalList startTime resetTime) ops).proxy
        sensorHandle channelHandle rate ↔
      ∀ i, subHalList.findIdx? SubHal.offersDirectChannel = some i → ∃ h, Own subHalList i h sensorHandle := by
  have hdirect := direct_run kWakelockTimeoutNs subHalList startTime resetTime ops
  have hlist := (ProxyFrame.run_subHals (System.start kWakelockTimeoutNs subHalList startTime resetTime) ops).1
  rw [start_subHalList] at hlist
  rw [guarded_iff_own channelHandle rate hne, hdirect, hlist]

/-- The second of two sub-HALs serves the direct channels, for its second sensor. -/
theorem guarded_iff_secondSensor :
    Guarded (Run.run System.session (System.start 1000000000 ProxyRoute.twoSubHals.mSubHalList 0 0)
      [.initializeCommon (ProxyInit.calm 5 [])]).proxy (setSubHalIndex 2 1) 1 .normal := by
  refine (guarded_iff _ _ _ _ _ _ _ _ (by decide)).2 (fun i hi => ?_)
  have hone : ProxyRoute.twoSubHals.mSubHalList.findIdx? SubHal.offersDirectChannel = some 1 := by decide
  cases hone.symm.trans hi
  exact ⟨2, by decide, ⟨_, rfl, by decide⟩, rfl⟩

/-- **The wrong sensor**: a request for the second sensor of the first sub-HAL reaches the second sensor of the second
sub-HAL. -/
theorem not_guarded_firstSubHal :
    let p := (System.start 1000000000 ProxyRoute.twoSubHals.mSubHalList 0 0).proxy
    Own p.mSubHalList 0 2 2 ∧ p.configDirectReport 2 1 .normal = .ok (1, ⟨2, 1, .normal⟩) ∧
      ¬ Guarded p 2 1 .normal := by
  intro p
  have hlist : p.mSubHalList = ProxyRoute.twoSubHals.mSubHalList := start_subHalList _ _ _ _
  have hdirect : p.mDirectChannelSubHal = some 1 := direct_run _ _ _ _ []
  refine ⟨?_, configDirectReport_of_some 1 .normal hdirect (by decide), ?_⟩
  · rw [hlist]
    exact ⟨by decide, ⟨_, rfl, by decide⟩, by decide⟩
  · refine not_guarded_of_ne (j := 0) (h := 2) 1 .normal ?_ hdirect (by decide) (by decide) (by decide) (by decide)
      (by decide)
    rw [hlist]
    decide

end ProxyDirect
end MultiHal
end MemsHal
