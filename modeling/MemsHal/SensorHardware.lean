import MemsHal.ChannelPower
import MemsHal.Shipped
import MemsHal.Smi330Odr
/-!
# SensorHardware — from the calls of the framework to the sensors' hardware

The HAL calls `activate` and `batch` of the available sensors, and a composite sensor hands them on to the cores that it
is computed from.  A core then has what the sensors on it last called for (`along_asCalled`), no channel is left on
(`along_neverLeftOn`), and the SMI330 is not asked for a period below its ladder (`along_onLadder`).
-/
namespace MemsHal

open Run (run Along)
open Sensor (activate? batch? lastActivate lastBatch)

/-! ## The calls on the available sensors -/

/-- The cores that a sensor is computed from. -/
def AvailableSensor.cores : AvailableSensor → List SensorId
  | core id      => [id]
  | composite id => id.core.mDependencyList

def AvailableSensor.type (sensor : AvailableSensor) : BoschSensorType := sensor.getSensorData.type

/-- `ISensorHal::activate` and `batch`, as operations on the cores. -/
def AvailableSensor.operations : AvailableSensor → SensorCall → List (SensorId × CoreOp)
  | core id, .activate enable      => [(id, .activateByType id.data.type enable)]
  | core id, .batch p l            => [(id, .batchByType id.data.type (Int64.ofInt p) (Int64.ofInt l))]
  | composite id, .activate enable => (id.core.activate enable).2
  | composite id, .batch p l       => (id.core.batch (Int64.ofInt p) (Int64.ofInt l)).2
  | _, .sendAdditionalInfoReport   => []

theorem AvailableSensor.operations_activate (sensor : AvailableSensor) (enable : Bool) :
    sensor.operations (.activate enable) = sensor.cores.map (·, .activateByType sensor.type enable) := by
  cases sensor <;> rfl

theorem AvailableSensor.operations_batch (sensor : AvailableSensor) (p l : Int) :
    sensor.operations (.batch p l) =
      sensor.cores.map (·, .batchByType sensor.type (Int64.ofInt p) (Int64.ofInt l)) := by
  cases sensor <;> rfl

@[simp] theorem AvailableSensor.operations_sendAdditionalInfoReport (sensor : AvailableSensor) :
    sensor.operations .sendAdditionalInfoReport = [] := by
  cases sensor <;> rfl

/-- What a call becomes on the cores of its sensor. -/
theorem AvailableSensor.mem_operations {sensor : AvailableSensor} {call : SensorCall} {op : SensorId × CoreOp}
    (h : op ∈ sensor.operations call) : op.1 ∈ sensor.cores ∧
      ((∃ enable, call = .activate enable ∧ op.2 = .activateByType sensor.type enable) ∨
        ∃ p l, call = .batch p l ∧ op.2 = .batchByType sensor.type (Int64.ofInt p) (Int64.ofInt l)) := by
  cases call with
  | activate enable =>
    rw [operations_activate] at h
    obtain ⟨id, hid, rfl⟩ := List.mem_map.1 h
    exact ⟨hid, Or.inl ⟨enable, rfl, rfl⟩⟩
  | batch p l =>
    rw [operations_batch] at h
    obtain ⟨id, hid, rfl⟩ := List.mem_map.1 h
    exact ⟨hid, Or.inr ⟨p, l, rfl, rfl⟩⟩
  | sendAdditionalInfoReport =>
    rw [operations_sendAdditionalInfoReport] at h
    cases h

/-- A core serves at most one sensor of a type. -/
theorem AvailableSensor.eq_of_serves {a b : AvailableSensor} {id : SensorId} (ha : id ∈ a.cores) (hb : id ∈ b.cores)
    (htype : a.type = b.type) : a = b := by
  have hcore : ∀ (i : SensorId) (c : CompositeId), i.data.type ≠ c.core.mSensorData.type := by
    intro i c
    cases i <;> cases c <;> decide
  have hcomposite : ∀ c d : CompositeId, c = d ∨ c.core.mSensorData.type ≠ d.core.mSensorData.type ∨
      ∀ i ∈ c.core.mDependencyList, i ∉ d.core.mDependencyList := by
    intro c d
    cases c <;> cases d <;> decide
  rcases a with i | c <;> rcases b with j | d
  · exact congrArg core ((List.mem_singleton.1 ha).symm.trans (List.mem_singleton.1 hb))
  · exact absurd htype (hcore i d)
  · exact absurd htype.symm (hcore j c)
  · rcases hcomposite c d with rfl | hne | hdisjoint
    · rfl
    · exact absurd htype hne
    · exact absurd hb (hdisjoint id ha)

/-- The calls of a log on one sensor. -/
def callsOn (sensor : AvailableSensor) (log : List (AvailableSensor × SensorCall)) : List SensorCall :=
  log.filterMap fun c => if c.1 = sensor then some c.2 else none

theorem callsOn_append (sensor : AvailableSensor) (log later : List (AvailableSensor × SensorCall)) :
    callsOn sensor (log ++ later) = callsOn sensor log ++ callsOn sensor later :=
  List.filterMap_append

theorem lastOf_callsOn {β : Type} (g : SensorCall → Option β) (sensor : AvailableSensor)
    (log : List (AvailableSensor × SensorCall)) (c : AvailableSensor × SensorCall) :
    Run.lastOf g (callsOn sensor (log ++ [c])) =
      if c.1 = sensor then (g c.2).or (Run.lastOf g (callsOn sensor log)) else Run.lastOf g (callsOn sensor log) := by
  have hone : callsOn sensor [c] = if c.1 = sensor then [c.2] else [] := by
    unfold callsOn
    split <;> simp_all
  rw [callsOn_append, hone, Run.lastOf_append]
  split
  · rw [Run.lastOf_cons]
    rfl
  · rfl

theorem mem_callsOn {sensor : AvailableSensor} {log : List (AvailableSensor × SensorCall)} {call : SensorCall} :
    call ∈ callsOn sensor log ↔ (sensor, call) ∈ log := by
  unfold callsOn
  rw [List.mem_filterMap]
  constructor
  · rintro ⟨⟨a, c⟩, hm, h⟩
    split at h
    · rename_i ha
      obtain rfl := Option.some.inj h
      rwa [← show a = sensor from ha]
    · cases h
  · intro hm
    exact ⟨(sensor, call), hm, if_pos rfl⟩

namespace Fleet

/-- The fleet after calls on the available sensors. -/
def calls (f : Fleet) (log : List (AvailableSensor × SensorCall)) : Fleet :=
  run Fleet.step f (log.flatMap fun c => c.1.operations c.2)

theorem calls_append (f : Fleet) (log later : List (AvailableSensor × SensorCall)) :
    f.calls (log ++ later) = (f.calls log).calls later := by
  unfold calls
  rw [List.flatMap_append, Run.run_append]

theorem asked_activate (type : BoschSensorType) (enable : Bool) (id : SensorId) (t : BoschSensorType) :
    ∀ (cores : List SensorId) (f : Fleet),
      let f' := run Fleet.step f (cores.map (·, .activateByType type enable))
      (f'.asked id).active t = (if id ∈ cores ∧ t = type then enable else (f.asked id).active t) ∧
        (f'.asked id).period t = (f.asked id).period t
  | [], f => ⟨(if_neg fun h => List.not_mem_nil h.1).symm, rfl⟩
  | core :: cores, f => by
    have ih := asked_activate type enable id t cores (f.step (core, .activateByType type enable))
    dsimp only at ih ⊢
    rw [List.map_cons, Run.run_cons]
    by_cases hid : id = core
    · subst hid
      rw [Fleet.step_asked_self f (id, .activateByType type enable)] at ih
      refine ⟨ih.1.trans ?_, ih.2⟩
      by_cases ht : t = type
      · subst ht
        simp [CoreOp.ask]
      · simp [CoreOp.ask, ht, Clients.activate_active_of_ne]
    · rw [Fleet.step_asked_of_ne f (core, .activateByType type enable) hid] at ih
      simpa [hid] using ih

theorem asked_batch (type : BoschSensorType) (p l : Int64) (id : SensorId) (t : BoschSensorType) :
    ∀ (cores : List SensorId) (f : Fleet),
      let f' := run Fleet.step f (cores.map (·, .batchByType type p l))
      (f'.asked id).active t = (f.asked id).active t ∧
        (f'.asked id).period t = if id ∈ cores ∧ t = type then some p.toInt else (f.asked id).period t
  | [], f => ⟨rfl, (if_neg fun h => List.not_mem_nil h.1).symm⟩
  | core :: cores, f => by
    have ih := asked_batch type p l id t cores (f.step (core, .batchByType type p l))
    dsimp only at ih ⊢
    rw [List.map_cons, Run.run_cons]
    by_cases hid : id = core
    · subst hid
      rw [Fleet.step_asked_self f (id, .batchByType type p l)] at ih
      refine ⟨ih.1, ih.2.trans ?_⟩
      by_cases ht : t = type
      · subst ht
        simp [CoreOp.ask, Clients.batch]
      · simp [CoreOp.ask, Clients.batch, ht]
    · rw [Fleet.step_asked_of_ne f (core, .batchByType type p l) hid] at ih
      simpa [hid] using ih

/-- What a call asks the cores of its sensor for. -/
theorem asked_call (f : Fleet) (a : AvailableSensor) (call : SensorCall) (id : SensorId) (t : BoschSensorType) :
    ((f.calls [(a, call)]).asked id).active t =
        (if id ∈ a.cores ∧ t = a.type then activate? call else none).getD ((f.asked id).active t) ∧
      ((f.calls [(a, call)]).asked id).period t =
        (if id ∈ a.cores ∧ t = a.type then (batch? call).map fun p => (Int64.ofInt p).toInt else none).or
          ((f.asked id).period t) := by
  have hsingle : f.calls [(a, call)] = run Fleet.step f (a.operations call) := by
    unfold calls
    rw [List.flatMap_singleton]
  rw [hsingle]
  cases call with
  | activate enable =>
    rw [AvailableSensor.operations_activate]
    obtain ⟨hactive, hperiod⟩ := asked_activate a.type enable id t a.cores f
    rw [hactive, hperiod]
    split <;> exact ⟨rfl, rfl⟩
  | batch p l =>
    rw [AvailableSensor.operations_batch]
    obtain ⟨hactive, hperiod⟩ := asked_batch a.type (Int64.ofInt p) (Int64.ofInt l) id t a.cores f
    rw [hactive, hperiod]
    split <;> exact ⟨rfl, rfl⟩
  | sendAdditionalInfoReport =>
    rw [AvailableSensor.operations_sendAdditionalInfoReport]
    split <;> exact ⟨rfl, rfl⟩

/-- What the calls of a log leave of the demands on the cores. -/
structure Called (f : Fleet) (log : List (AvailableSensor × SensorCall)) : Prop where
  active : ∀ (a : AvailableSensor) (id : SensorId), id ∈ a.cores →
    (f.asked id).active a.type = (lastActivate (callsOn a log)).getD false
  period : ∀ (a : AvailableSensor) (id : SensorId), id ∈ a.cores →
    (f.asked id).period a.type = (lastBatch (callsOn a log)).map fun p => (Int64.ofInt p).toInt
  others : ∀ (id : SensorId) (type : BoschSensorType), (∀ c ∈ log, id ∈ c.1.cores → c.1.type ≠ type) →
    (f.asked id).active type = false ∧ (f.asked id).period type = none

theorem called_fresh (devices : Devices) : Called (.fresh devices) [] :=
  ⟨fun _ _ _ => rfl, fun _ _ _ => rfl, fun _ _ _ => ⟨rfl, rfl⟩⟩

/-- **A call reaches the cores of its sensor, under its type**, and no other client of a core. -/
theorem called_call {f : Fleet} {log : List (AvailableSensor × SensorCall)} (h : Called f log) (a : AvailableSensor)
    (call : SensorCall) : Called (f.calls [(a, call)]) (log ++ [(a, call)]) := by
  have hserves : ∀ (b : AvailableSensor) (id : SensorId), id ∈ b.cores → (id ∈ a.cores ∧ b.type = a.type ↔ a = b) :=
    fun b id hb => ⟨fun hboth => AvailableSensor.eq_of_serves hboth.1 hb hboth.2.symm, fun heq => by
      subst heq
      exact ⟨hb, rfl⟩⟩
  refine ⟨fun b id hb => ?_, fun b id hb => ?_, fun id type hnone => ?_⟩
  · rw [(asked_call f a call id b.type).1, h.active b id hb]
    refine Eq.trans ?_ (congrArg (Option.getD · false) (lastOf_callsOn activate? b log (a, call)).symm)
    by_cases hab : a = b
    · rw [if_pos ((hserves b id hb).2 hab), if_pos hab]
      cases activate? call <;> rfl
    · rw [if_neg (mt (hserves b id hb).1 hab), if_neg hab]
      rfl
  · rw [(asked_call f a call id b.type).2, h.period b id hb]
    refine Eq.trans ?_ (congrArg (Option.map _) (lastOf_callsOn batch? b log (a, call)).symm)
    by_cases hab : a = b
    · rw [if_pos ((hserves b id hb).2 hab), if_pos hab]
      cases batch? call <;> rfl
    · rw [if_neg (mt (hserves b id hb).1 hab), if_neg hab]
      rfl
  · have hapart : ¬ (id ∈ a.cores ∧ type = a.type) := fun hboth =>
      hnone _ (List.mem_append_right _ List.mem_cons_self) hboth.1 hboth.2.symm
    rw [(asked_call f a call id type).1, (asked_call f a call id type).2, if_neg hapart, if_neg hapart]
    exact h.others id type fun c hm => hnone c (List.mem_append_left _ hm)

/-- **The demands on the cores are the last calls on the sensors.** -/
theorem called_calls : ∀ (later : List (AvailableSensor × SensorCall)) {f : Fleet}
    {log : List (AvailableSensor × SensorCall)}, Called f log → Called (f.calls later) (log ++ later)
  | [], f, log, h => by
    rw [List.append_nil]
    exact h
  | c :: later, f, log, h => by
    have hsplit : log ++ c :: later = log ++ [c] ++ later := by
      rw [List.append_assoc, List.singleton_append]
    have hcalls : f.calls (c :: later) = (f.calls [c]).calls later := calls_append f [c] later
    rw [hsplit, hcalls]
    exact called_calls later (called_call h c.1 c.2)

/-! ## The hardware -/

/-- No channel is on that is not used. -/
def OnlyUsed (devices : Devices) (f : Fleet) : Prop :=
  ∀ ch, ChannelPower.PoweredOn devices f ch → ChannelPower.Used f ch

/-- **A channel that is on was switched on by an instance that still runs.** -/
theorem onlyUsed_step (devices : Devices) (f : Fleet) (op : SensorId × CoreOp) (h : Inv devices f)
    (hused : OnlyUsed devices f) : OnlyUsed devices (f.step op) := by
  have hafter := (inv_step devices f op h).isEnabled_iff op.1
  have hbefore := h.isEnabled_iff op.1
  intro ch hon
  unfold ChannelPower.PoweredOn at hon
  rw [ChannelPower.step_power devices f op h ch] at hon
  split at hon
  · rename_i hwritten
    refine ⟨op.1, hwritten.1, hafter.1 ?_⟩
    cases hen : ((f.step op).cores op.1).mIsEnabled with
    | true => rfl
    | false =>
      rw [hen] at hon
      exact absurd (Option.some.inj hon) (ChannelPower.power_true_ne_false ch)
  · rename_i hwritten
    obtain ⟨id, hid, hrun⟩ := hused ch hon
    by_cases hne : id = op.1
    · subst hne
      have hsame := Decidable.not_not.1 fun hdiff => hwritten ⟨hid, hdiff⟩
      exact ⟨op.1, hid, hafter.1 (hsame.trans (hbefore.2 hrun))⟩
    · exact ⟨id, hid, by rw [step_asked_of_ne f op hne]; exact hrun⟩

/-- What holds of the SMI330 as long as no period below its ladder is asked for. -/
structure SlotsFit (devices : Devices) (f : Fleet) : Prop where
  inv : Inv devices f
  periods : Smi330Odr.PeriodsFit f
  slots : ∀ k, Smi330Imu.mMinSamplingRateNs ≤ f.imu.mSamplingPeriodNs k
  current : Smi330Odr.OdrCurrent devices f.imu f.sysfs

theorem min_le_of_isRate {f : Fleet} {op : SensorId × CoreOp} (h : Smi330Odr.PeriodsFit (f.step op))
    {k : Smi330Imu.Index} (hk : op.1.imuIndex = some k) {d : Int}
    (hd : (op.2.ask (f.asked op.1)).IsRate {op.1.maxDelayNs} d) : Smi330Imu.mMinSamplingRateNs ≤ d := by
  rcases hd.1 with hmax | ⟨type, -, hp⟩
  · rw [Set.mem_singleton_iff.1 hmax, Smi330Odr.maxDelayNs_of_imuIndex hk]
    decide
  · rw [← step_asked_self] at hp
    exact h op.1 (hk ▸ Option.some_ne_none k) type d hp

theorem slotsFit_step (devices : Devices) (f : Fleet) (op : SensorId × CoreOp) (hl : Smi330Odr.Legal f op)
    (h : SlotsFit devices f) : SlotsFit devices (f.step op) := by
  have hperiods := Smi330Odr.periodsFit_step f op hl h.periods
  refine ⟨inv_step devices f op h.inv, hperiods, fun k => ?_, Smi330Odr.odrCurrent_step devices f op h.inv h.current⟩
  cases hj : op.1.imuIndex with
  | none =>
    rw [Smi330Odr.step_imu_of_none f op hj]
    exact h.slots k
  | some j =>
    have hupdate : ∀ d, (op.2.ask (f.asked op.1)).IsRate {op.1.maxDelayNs} d →
        Smi330Imu.mMinSamplingRateNs ≤ Function.update f.imu.mSamplingPeriodNs j d k := by
      intro d hd
      rw [Function.update_apply]
      split
      · exact min_le_of_isRate hperiods hj hd
      · exact h.slots k
    cases Smi330Odr.slotStep devices f op h.inv hj with
    | quiet _ _ _ _ himu =>
      rw [himu]
      exact h.slots k
    | batch _ _ _ _ d hd himu =>
      rw [himu]
      exact hupdate d hd
    | switch _ _ _ _ _ _ d hd himu =>
      rw [himu]
      exact hupdate d hd

theorem slotsFit_fresh (devices : Devices) : SlotsFit devices (fresh devices) where
  inv := inv_fresh devices
  periods _ _ _ _ hp := by cases hp
  slots k := show Smi330Imu.mMinSamplingRateNs ≤ Smi330Imu.mMaxSamplingRateNs by decide
  current _ hp := by cases hp

end Fleet

/-! ## The HAL over its hardware -/

namespace Aidl
namespace SensorHardware

open Shipped (Fits sensorCalls)

/-- The `mSensor` of the sensor of a handle. -/
def mSensorOf (bus : IioBus) (sensorHandle : Int32) : Option AvailableSensor :=
  (((getAvailableSensors bus).zipIdx 1).find? fun sensor => Int32.ofNat sensor.2 = sensorHandle).map Prod.fst

/-- The calls on the available sensors. -/
def made (bus : IioBus) (calls : List (Int32 × SensorCall)) : List (AvailableSensor × SensorCall) :=
  calls.filterMap fun c => (mSensorOf bus c.1).map (·, c.2)

/-- The HAL, the cores and what it has called on the available sensors. -/
structure Board where
  hal : SensorsHalAidl
  fleet : Fleet
  log : List (AvailableSensor × SensorCall)

def Board.start (shipping : Shipping) (timeoutSeconds : UInt32) (bus : IioBus) : Board :=
  ⟨shipping.hal timeoutSeconds bus, .fresh bus.devices, []⟩

def Board.step (bus : IioBus) (w : Board) (op : HalOp) : Board :=
  let (hal, _, calls) := w.hal.exec op
  ⟨hal, w.fleet.calls (made bus (sensorCalls calls)), w.log ++ made bus (sensorCalls calls)⟩

variable {shipping : Shipping} {bus : IioBus}

/-! ### The handles -/

theorem mSensorOf_eq_some {k : Int32} {a : AvailableSensor} :
    mSensorOf bus k = some a ↔ ∃ n, (a, n) ∈ (getAvailableSensors bus).zipIdx 1 ∧ Int32.ofNat n = k := by
  have hlength := AddSensors.length_getAvailableSensors bus
  unfold mSensorOf
  constructor
  · intro h
    obtain ⟨⟨a', n⟩, hfind, rfl⟩ := Option.map_eq_some_iff.1 h
    exact ⟨n, List.mem_of_find?_eq_some hfind, by simpa using List.find?_some hfind⟩
  · rintro ⟨n, hm, rfl⟩
    have hsome : (((getAvailableSensors bus).zipIdx 1).find?
        fun sensor => Int32.ofNat sensor.2 = Int32.ofNat n).isSome = true :=
      List.find?_isSome.2 ⟨(a, n), hm, by simp⟩
    obtain ⟨⟨a', n'⟩, hfind⟩ := Option.isSome_iff_exists.1 hsome
    obtain ⟨hpos, hlt, ha⟩ := List.mem_zipIdx hm
    obtain ⟨hpos', hlt', ha'⟩ := List.mem_zipIdx (List.mem_of_find?_eq_some hfind)
    have hn : n' = n := by
      have hsame : (Int32.ofNat n').toInt = (Int32.ofNat n).toInt := by
        rw [show Int32.ofNat n' = Int32.ofNat n by simpa using List.find?_some hfind]
      rw [Int32.toInt_ofNat_of_lt (by omega), Int32.toInt_ofNat_of_lt (by omega)] at hsame
      omega
    subst hn
    rw [hfind, Option.map_some, ha, ha']

/-- Two handles are of two sensors. -/
theorem mSensorOf_inj {k k' : Int32} {a : AvailableSensor} (h : mSensorOf bus k = some a)
    (h' : mSensorOf bus k' = some a) : k = k' := by
  obtain ⟨n, hm, rfl⟩ := mSensorOf_eq_some.1 h
  obtain ⟨n', hm', rfl⟩ := mSensorOf_eq_some.1 h'
  obtain ⟨hpos, hlt, ha⟩ := List.mem_zipIdx hm
  obtain ⟨hpos', hlt', ha'⟩ := List.mem_zipIdx hm'
  have hindex := ((nodup_getAvailableSensors bus).getElem_inj_iff).1 (ha.symm.trans ha')
  rw [show n = n' by omega]

/-- The sensor of a handle has the delays of its hardware. -/
theorem mSensorOf_of_fits {s : SensorsHalAidl} (h : Fits shipping bus s) {k : Int32} {sensor : HalSensor}
    (hk : s.mSensors[k]? = some sensor) :
    ∃ a, mSensorOf bus k = some a ∧ sensor.description.delays = delaysOf a.getSensorData := by
  obtain ⟨hlisted, hhandle, -⟩ := h k sensor hk
  obtain ⟨⟨a, n⟩, hm, hd⟩ := List.mem_map.1 hlisted
  refine ⟨a, mSensorOf_eq_some.2 ⟨n, hm, ?_⟩, ?_⟩
  · rw [← hhandle, ← hd]
    rfl
  · rw [← hd]
    rfl

/-! ### The log -/

theorem made_append (calls later : List (Int32 × SensorCall)) :
    made bus (calls ++ later) = made bus calls ++ made bus later :=
  List.filterMap_append

/-- The sensors have made the calls of the log. -/
structure Logged (bus : IioBus) (mSensors : StdMap Int32 HalSensor) (log : List (AvailableSensor × SensorCall)) :
    Prop where
  calls : ∀ (k : Int32) (sensor : HalSensor), mSensors[k]? = some sensor →
    ∃ a, mSensorOf bus k = some a ∧ sensor.history.calls = callsOn a log
  made : ∀ c ∈ log, ∃ (k : Int32) (sensor : HalSensor), mSensors[k]? = some sensor ∧ mSensorOf bus k = some c.1

theorem callsOn_made {a b : AvailableSensor} {k : Int32} (h : mSensorOf bus k = some a) (calls : List SensorCall) :
    callsOn b (made bus (calls.map (k, ·))) = if a = b then calls else [] := by
  have hmade : made bus (calls.map (k, ·)) = calls.map (a, ·) := by
    unfold made
    rw [List.filterMap_map]
    simp [h]
  rw [hmade]
  unfold callsOn
  rw [List.filterMap_map]
  split <;> simp_all

theorem sensorCalls_map (k : Int32) (calls : List SensorCall) :
    sensorCalls (calls.map (.sensor k)) = calls.map (k, ·) := by
  unfold sensorCalls
  rw [List.filterMap_map]
  exact congrFun (List.filterMap_eq_map (f := fun c => (k, c))) calls

theorem logged_execAt {mSensors : StdMap Int32 HalSensor} {log : List (AvailableSensor × SensorCall)}
    (h : Logged bus mSensors log) (k : Int32) (op : SensorOp) :
    Logged bus (Sensors.execAt mSensors k op).1 (log ++ made bus (sensorCalls (Sensors.execAt mSensors k op).2)) := by
  cases hk : mSensors[k]? with
  | none =>
    have hexec : Sensors.execAt mSensors k op = (mSensors, []) := by
      unfold Sensors.execAt
      rw [hk]
    rw [hexec, show made bus (sensorCalls []) = [] from rfl, List.append_nil]
    exact h
  | some sensor =>
    have hcalls : (Sensors.execAt mSensors k op).2 = (sensor.history.sensor.exec op).2.map (.sensor k) := by
      unfold Sensors.execAt
      rw [hk]
    obtain ⟨a, ha, hlog⟩ := h.calls k sensor hk
    rw [hcalls, sensorCalls_map]
    constructor
    · intro j other hj
      rw [Sensors.execAt_getElem?] at hj
      by_cases hjk : k = j
      · subst hjk
        rw [if_pos rfl, hk] at hj
        obtain rfl := Option.some.inj hj
        refine ⟨a, ha, ?_⟩
        rw [callsOn_append, callsOn_made ha, if_pos rfl, ← hlog]
        rfl
      · rw [if_neg hjk] at hj
        obtain ⟨b, hb, hlogb⟩ := h.calls j other hj
        refine ⟨b, hb, ?_⟩
        rw [callsOn_append, callsOn_made ha, if_neg fun hab : a = b => hjk (mSensorOf_inj (hab ▸ ha) hb),
          List.append_nil]
        exact hlogb
    · intro c hc
      rcases List.mem_append.1 hc with hold | hnew
      · obtain ⟨j, other, hj, hmade⟩ := h.made c hold
        refine ⟨j, if k = j then other.exec op else other, ?_, hmade⟩
        rw [Sensors.execAt_getElem?, hj]
        split <;> rfl
      · obtain ⟨⟨j, call⟩, hm, hsome⟩ := List.mem_filterMap.1 hnew
        obtain ⟨_, -, heq⟩ := List.mem_map.1 hm
        obtain ⟨rfl, rfl⟩ := Prod.mk.inj heq
        obtain ⟨b, hb, rfl⟩ := Option.map_eq_some_iff.1 hsome
        refine ⟨k, sensor.exec op, ?_, hb⟩
        rw [Sensors.execAt_getElem?, if_pos rfl, hk]
        rfl

theorem logged_execEach : ∀ (ops : List (Int32 × SensorOp)) {mSensors : StdMap Int32 HalSensor}
    {log : List (AvailableSensor × SensorCall)}, Logged bus mSensors log →
    Logged bus (Sensors.execEach mSensors ops).1 (log ++ made bus (sensorCalls (Sensors.execEach mSensors ops).2))
  | [], mSensors, log, h => by
    rw [show made bus (sensorCalls (Sensors.execEach mSensors []).2) = [] from rfl, List.append_nil]
    exact h
  | (k, op) :: ops, mSensors, log, h => by
    have ih := logged_execEach ops (logged_execAt h k op)
    have hcalls : (Sensors.execEach mSensors ((k, op) :: ops)).2 =
        (Sensors.execAt mSensors k op).2 ++ (Sensors.execEach (Sensors.execAt mSensors k op).1 ops).2 := rfl
    rw [hcalls, Shipped.sensorCalls_append, made_append, ← List.append_assoc]
    exact ih

/-- What holds of every reachable board. -/
structure Inv (shipping : Shipping) (bus : IioBus) (w : Board) : Prop where
  fits : Fits shipping bus w.hal
  settled : ∀ (k : Int32) (sensor : HalSensor), w.hal.mSensors[k]? = some sensor → Sensor.Settled sensor.history
  logged : Logged bus w.hal.mSensors w.log
  fleet : w.fleet = (Fleet.fresh bus.devices).calls w.log

/-- **A step of the HAL adds its calls to the log**, on the sensors and on the cores. -/
theorem inv_step (w : Board) (op : HalOp) (h : Inv shipping bus w) : Inv shipping bus (w.step bus op) := by
  obtain ⟨ops, ⟨hsensors, hcalls, -⟩, -⟩ := Shipped.sensors_step w.hal op
  refine ⟨Shipped.fits_step w.hal op h.fits, fun k sensor hk => ?_, ?_, ?_⟩
  · obtain ⟨old, sensorOps, hold, rfl⟩ := (effect_step w.hal op).sensor hk
    exact Run.run_of_inv HalSensor.exec (fun sensor => Sensor.Settled sensor.history)
      (fun sensor op h => Sensor.settled_step sensor.history op h) sensorOps (h.settled k old hold)
  · have hlogged := logged_execEach ops h.logged
    rw [← hsensors, ← hcalls] at hlogged
    exact hlogged
  · show w.fleet.calls _ = (Fleet.fresh bus.devices).calls (w.log ++ _)
    rw [Fleet.calls_append, ← h.fleet]

theorem inv_start (shipping : Shipping) (timeoutSeconds : UInt32) (bus : IioBus) :
    Inv shipping bus (.start shipping timeoutSeconds bus) := by
  refine ⟨Shipped.fits_hal shipping timeoutSeconds bus, fun k sensor hk => ?_, ⟨fun k sensor hk => ?_, nofun⟩, rfl⟩
  · rw [(construct_sensors timeoutSeconds _ hk).2]
    exact nofun
  · obtain ⟨a, ha, -⟩ := mSensorOf_of_fits (Shipped.fits_hal shipping timeoutSeconds bus) hk
    refine ⟨a, ha, ?_⟩
    rw [(construct_sensors timeoutSeconds _ hk).2]
    rfl

/-! ### What the hardware has been told -/

section Reached

variable {w : Board} (h : Inv shipping bus w)
include h

theorem called : w.fleet.Called w.log := by
  have hcalled := Fleet.called_calls w.log (Fleet.called_fresh bus.devices)
  rw [h.fleet]
  exact hcalled

/-- The periods of the log lie between the delays of their sensors. -/
theorem bounds_of_batch {a : AvailableSensor} {p l : Int} (hm : (a, .batch p l) ∈ w.log) :
    (delaysOf a.getSensorData).minDelayNs ≤ p ∧ p ≤ (delaysOf a.getSensorData).maxDelayNs := by
  obtain ⟨k, sensor, hk, ha⟩ := h.logged.made _ hm
  obtain ⟨b, hb, hdelays⟩ := mSensorOf_of_fits h.fits hk
  obtain ⟨c, hc, hcalls⟩ := h.logged.calls k sensor hk
  obtain rfl := Option.some.inj (ha.symm.trans hb)
  obtain rfl := Option.some.inj (ha.symm.trans hc)
  have hasked := (h.fits k sensor hk).2.2.asked p l (by rw [hcalls]; exact mem_callsOn.2 hm)
  rwa [hdelays] at hasked

end Reached

/-- **A core has what the sensors on it last called for**, and nothing else. -/
structure AsCalled (bus : IioBus) (w : Board) : Prop where
  sensor : ∀ (k : Int32) (sensor : HalSensor) (a : AvailableSensor) (id : SensorId),
    w.hal.mSensors[k]? = some sensor → mSensorOf bus k = some a → id ∈ a.cores →
      (w.fleet.cores id).clients.active a.type = (lastActivate sensor.history.calls).getD false ∧
        (w.fleet.cores id).clients.period a.type = lastBatch sensor.history.calls
  others : ∀ (id : SensorId) (type : BoschSensorType),
    (∀ (k : Int32) (sensor : HalSensor) (a : AvailableSensor), w.hal.mSensors[k]? = some sensor →
      mSensorOf bus k = some a → id ∈ a.cores → a.type ≠ type) →
    (w.fleet.cores id).clients.active type = false ∧ (w.fleet.cores id).clients.period type = none

/-- A period between the delays of a sensor is one of an `int64_t`. -/
theorem toInt_ofInt_of_bounds {info : SensorInfo} {p : Int} (h : info.minDelayNs ≤ p ∧ p ≤ info.maxDelayNs) :
    (Int64.ofInt p).toInt = p := by
  have hmin : -2 ^ 31 ≤ info.minDelayUs.toInt := Int32.le_toInt info.minDelayUs
  have hmax : info.maxDelayUs.toInt ≤ 2 ^ 31 - 1 := Int32.toInt_le info.maxDelayUs
  unfold SensorInfo.minDelayNs SensorInfo.maxDelayNs at h
  exact Int64.toInt_ofInt_of_le (by omega) (by omega)

theorem mem_of_lastBatch {calls : List SensorCall} {p : Int} (h : lastBatch calls = some p) :
    ∃ l, .batch p l ∈ calls := by
  obtain ⟨call, hm, hcall⟩ := List.mem_filterMap.1 (List.mem_of_getLast? h)
  cases call with
  | batch q l =>
    obtain rfl := Option.some.inj hcall
    exact ⟨l, hm⟩
  | activate _ => cases hcall
  | sendAdditionalInfoReport => cases hcall

theorem inv_fleet {w : Board} (h : Inv shipping bus w) : Fleet.Inv bus.devices w.fleet := by
  rw [h.fleet]
  exact Run.run_of_inv Fleet.step _ (Fleet.inv_step bus.devices) _ (Fleet.inv_fresh bus.devices)

theorem asCalled_of_inv {w : Board} (h : Inv shipping bus w) : AsCalled bus w := by
  have hcalled := called h
  have hclients := (inv_fleet h).clients
  constructor
  · intro k sensor a id hk ha hid
    obtain ⟨b, hb, hcalls⟩ := h.logged.calls k sensor hk
    obtain rfl := Option.some.inj (ha.symm.trans hb)
    rw [hclients, hcalled.active a id hid, hcalled.period a id hid, hcalls]
    refine ⟨rfl, ?_⟩
    cases hlast : lastBatch (callsOn a w.log) with
    | none => rfl
    | some p =>
      obtain ⟨l, hm⟩ := mem_of_lastBatch hlast
      exact congrArg some (toInt_ofInt_of_bounds (bounds_of_batch h (mem_callsOn.1 hm)))
  · intro id type hnone
    rw [hclients]
    refine hcalled.others id type fun c hc hid => ?_
    obtain ⟨k, sensor, hk, ha⟩ := h.logged.made c hc
    exact hnone k sensor c.1 hk ha hid

/-- A sensor of the HAL that is computed from the channel is in use. -/
def InUseOn (bus : IioBus) (w : Board) (ch : Channel) : Prop :=
  ∃ (k : Int32) (sensor : HalSensor) (a : AvailableSensor) (id : SensorId), w.hal.mSensors[k]? = some sensor ∧
    mSensorOf bus k = some a ∧ id ∈ a.cores ∧ id.channel = some ch ∧ sensor.history.sensor.InUse

/-- **No channel is left on**: one that is on is of a sensor that the HAL has in use. -/
def NeverLeftOn (bus : IioBus) (w : Board) : Prop :=
  ∀ ch, ChannelPower.PoweredOn bus.devices w.fleet ch → InUseOn bus w ch

/-- What the cores are asked for by a sensor is its last `activate`. -/
theorem active_of_logged {w : Board} (hlogged : Logged bus w.hal.mSensors w.log) (hcalled : w.fleet.Called w.log)
    {k : Int32} {sensor : HalSensor} {a : AvailableSensor} {id : SensorId} (hk : w.hal.mSensors[k]? = some sensor)
    (ha : mSensorOf bus k = some a) (hid : id ∈ a.cores) :
    (w.fleet.asked id).active a.type = (lastActivate sensor.history.calls).getD false := by
  obtain ⟨b, hb, hcalls⟩ := hlogged.calls k sensor hk
  obtain rfl := Option.some.inj (ha.symm.trans hb)
  rw [hcalled.active a id hid, hcalls]

/-- A type that is enabled on a core is that of a sensor that has called for it. -/
theorem exists_of_active {w : Board} (hlogged : Logged bus w.hal.mSensors w.log) (hcalled : w.fleet.Called w.log)
    {id : SensorId} {type : BoschSensorType} (hactive : (w.fleet.asked id).active type = true) :
    ∃ (k : Int32) (sensor : HalSensor) (a : AvailableSensor), w.hal.mSensors[k]? = some sensor ∧
      mSensorOf bus k = some a ∧ id ∈ a.cores ∧ lastActivate sensor.history.calls = some true := by
  by_contra hnone
  refine Bool.false_ne_true ((hcalled.others id type fun c hc hid htype => hnone ?_).1.symm.trans hactive)
  subst htype
  obtain ⟨k, sensor, hk, ha⟩ := hlogged.made c hc
  rw [active_of_logged hlogged hcalled hk ha hid] at hactive
  refine ⟨k, sensor, c.1, hk, ha, hid, ?_⟩
  cases hlast : lastActivate sensor.history.calls with
  | none =>
    rw [hlast] at hactive
    cases hactive
  | some enable =>
    rw [hlast] at hactive
    exact congrArg some hactive

theorem neverLeftOn_of_inv {w : Board} (h : Inv shipping bus w) : NeverLeftOn bus w := by
  intro ch hon
  have hused : Fleet.Inv bus.devices w.fleet ∧ Fleet.OnlyUsed bus.devices w.fleet := by
    rw [h.fleet]
    exact Run.run_of_inv Fleet.step (fun f => Fleet.Inv bus.devices f ∧ Fleet.OnlyUsed bus.devices f)
      (fun f op hf => ⟨Fleet.inv_step bus.devices f op hf.1, Fleet.onlyUsed_step bus.devices f op hf.1 hf.2⟩) _
      ⟨Fleet.inv_fresh bus.devices, fun _ hnever => by cases hnever⟩
  obtain ⟨id, hid, type, hactive⟩ := hused.2 ch hon
  obtain ⟨k, sensor, a, hk, ha, hcore, hlast⟩ := exists_of_active h.logged (called h) hactive
  exact ⟨k, sensor, a, id, hk, ha, hcore, hid, h.settled k sensor hk hlast⟩

/-- **The rate of the SMI330 is the right rung of its ladder**: that of the greatest period on it that is not above the
smallest one of the enabled slots. -/
def OnLadder (devices : Devices) (f : Fleet) : Prop :=
  (∃ k, f.imu.mIsEnabled k = true) → ∃ d l, IsLeast f.imu.enabledPeriods d ∧
    IsGreatest {x | x ∈ Smi330Imu.ladder ∧ x ≤ d} l ∧
    lastWritten f.sysfs (devices.path "smi330") Smi330Imu.mSysfsOdr = some (toString (1000000000 / l))

/-- The minimum delays of the sensors on the SMI330 are on its ladder. -/
theorem minDelay_of_imu (a : AvailableSensor) {id : SensorId} (hid : id ∈ a.cores) (himu : id.imuIndex ≠ none) :
    Smi330Imu.mMinSamplingRateNs ≤ (delaysOf a.getSensorData).minDelayNs := by
  rcases a with i | c
  · obtain rfl := List.mem_singleton.1 hid
    cases id <;> first | exact absurd rfl himu | decide
  · cases c <;> decide

theorem legal_of_inv {w : Board} (h : Inv shipping bus w) :
    ∀ op ∈ w.log.flatMap (fun c => c.1.operations c.2), ∀ f, Smi330Odr.Legal f op := by
  intro op hop f type q m hbatch himu
  obtain ⟨⟨a, call⟩, hc, hm⟩ := List.mem_flatMap.1 hop
  obtain ⟨hid, ⟨enable, -, hactivate⟩ | ⟨p, l, rfl, hasked⟩⟩ := AvailableSensor.mem_operations hm
  · cases hactivate.symm.trans hbatch
  · cases hasked.symm.trans hbatch
    have hbounds := bounds_of_batch h hc
    rw [toInt_ofInt_of_bounds hbounds]
    exact (minDelay_of_imu a hid himu).trans hbounds.1

theorem onLadder_of_inv {w : Board} (h : Inv shipping bus w) : OnLadder bus.devices w.fleet := by
  have hfit : Fleet.SlotsFit bus.devices w.fleet := by
    rw [h.fleet]
    exact Run.run_of_forall (P := Fleet.SlotsFit bus.devices) (Q := fun op => ∀ f, Smi330Odr.Legal f op)
      (fun f op hl hf => Fleet.slotsFit_step bus.devices f op (hl f) hf) _ (legal_of_inv h)
      (Fleet.slotsFit_fresh bus.devices)
  intro hon
  obtain ⟨d, hserved, hleast⟩ := w.fleet.imu.servedPeriod_spec hon
  obtain ⟨k, -, hk⟩ := hleast.1
  obtain ⟨l, hl, hodr⟩ := Smi330Imu.odrOf_eq (hk ▸ hfit.slots k)
  exact ⟨d, l, hleast, hl, by rw [hfit.current d hserved, hodr]⟩

variable (shipping bus) (timeoutSeconds : UInt32) (ops : List HalOp)

theorem along_inv : Along (Board.step bus) (Inv shipping bus) (.start shipping timeoutSeconds bus) ops :=
  Run.along_of_inv inv_step ops (inv_start shipping timeoutSeconds bus)

/-- **The cores have what the HAL's sensors last called for**, in every state of every run. -/
theorem along_asCalled : Along (Board.step bus) (AsCalled bus) (.start shipping timeoutSeconds bus) ops :=
  (along_inv shipping bus timeoutSeconds ops).imp fun _ => asCalled_of_inv

/-- **The HAL leaves no channel on** that none of its sensors has in use. -/
theorem along_neverLeftOn : Along (Board.step bus) (NeverLeftOn bus) (.start shipping timeoutSeconds bus) ops :=
  (along_inv shipping bus timeoutSeconds ops).imp fun _ => neverLeftOn_of_inv

/-- **Through the HAL the ladder of the SMI330 is always right**: the periods below it, for which it is not, are clamped
on the way. -/
theorem along_onLadder : Along (Board.step bus) (fun w => OnLadder bus.devices w.fleet)
    (.start shipping timeoutSeconds bus) ops :=
  (along_inv shipping bus timeoutSeconds ops).imp fun _ => onLadder_of_inv

end SensorHardware
end Aidl
end MemsHal
