import MemsHal.SensorsHalAidl
/-!
# HalChannels — the direct-channel table of the HAL and the entries of its sensors

`DirectChannelBase` keeps a rate for each sensor, `Sensor` an entry for each channel.  A loop of the HAL runs
operations on many sensors; each sensor sees its own (`execEach_getElem?`), and its entries follow `channelsAfter`.
The two tables agree after every step (`along_agreement`).
-/
namespace MemsHal
namespace Aidl

open Sensor (channelsAfter channelDemands)

namespace HalSensor

/-- The channel entries of a sensor. -/
def channels (sensor : HalSensor) : StdMap Int32 DirectChannel := sensor.history.sensor.mDirectChannels

@[simp] theorem channels_exec (sensor : HalSensor) (op : SensorOp) :
    (sensor.exec op).channels = channelsAfter sensor.channels op :=
  Sensor.exec_directChannels sensor.history.sensor op

theorem inv_exec {sensor : HalSensor} (op : SensorOp) (h : sensor.history.sensor.Inv) :
    (sensor.exec op).history.sensor.Inv :=
  Sensor.inv_exec sensor.history.sensor op h

theorem channels_run (ops : List SensorOp) (sensor : HalSensor) :
    (Run.run exec sensor ops).channels = ops.foldl channelsAfter sensor.channels := by
  induction ops generalizing sensor with
  | nil => rfl
  | cons op ops ih => rw [Run.run_cons, ih, channels_exec, List.foldl_cons]

theorem inv_run (ops : List SensorOp) {sensor : HalSensor} (h : sensor.history.sensor.Inv) :
    (Run.run exec sensor ops).history.sensor.Inv :=
  Run.run_of_inv exec (fun sensor => sensor.history.sensor.Inv) (fun _ op => inv_exec op) ops h

theorem description_run (ops : List SensorOp) (sensor : HalSensor) :
    (Run.run exec sensor ops).description = sensor.description :=
  Run.run_of_inv exec (fun s => s.description = sensor.description) (fun _ _ h => h) ops rfl

end HalSensor

/-! ## Loops over the sensors -/

namespace Sensors

/-- The operations of a loop that are on one sensor. -/
def opsOf (handle : Int32) (ops : List (Int32 × SensorOp)) : List SensorOp :=
  ops.filterMap fun op => if op.1 = handle then some op.2 else none

theorem opsOf_cons (k handle : Int32) (op : SensorOp) (ops : List (Int32 × SensorOp)) :
    opsOf k ((handle, op) :: ops) = if handle = k then op :: opsOf k ops else opsOf k ops := by
  unfold opsOf
  rw [List.filterMap_cons]
  split <;> simp_all

theorem mem_opsOf {handle : Int32} {ops : List (Int32 × SensorOp)} {op : SensorOp} :
    op ∈ opsOf handle ops ↔ (handle, op) ∈ ops := by
  unfold opsOf
  rw [List.mem_filterMap]
  constructor
  · rintro ⟨⟨k, o⟩, hm, h⟩
    split at h
    · rename_i hk
      obtain rfl := Option.some.inj h
      rwa [← show k = handle from hk]
    · cases h
  · intro hm
    exact ⟨(handle, op), hm, if_pos rfl⟩

theorem execAt_getElem? (m : StdMap Int32 HalSensor) (handle : Int32) (op : SensorOp) (k : Int32) :
    (execAt m handle op).1[k]? = if handle = k then m[k]?.map (·.exec op) else m[k]? := by
  unfold execAt
  cases hm : m[handle]? with
  | none =>
    by_cases hk : handle = k
    · subst hk
      rw [if_pos rfl, hm]; rfl
    · rw [if_neg hk]
  | some sensor =>
    dsimp only
    rw [StdMap.getElem?_insert_eq]
    by_cases hk : handle = k
    · subst hk
      rw [if_pos rfl, if_pos rfl, hm]; rfl
    · rw [if_neg hk, if_neg hk]

/-- **A loop runs on each sensor its own operations**, in their order. -/
theorem execEach_getElem? (m : StdMap Int32 HalSensor) (ops : List (Int32 × SensorOp)) (k : Int32) :
    (execEach m ops).1[k]? = m[k]?.map (fun sensor => Run.run HalSensor.exec sensor (opsOf k ops)) := by
  induction ops generalizing m with
  | nil =>
    show m[k]? = _
    cases m[k]? <;> rfl
  | cons head ops ih =>
    obtain ⟨handle, op⟩ := head
    show (execEach (execAt m handle op).1 ops).1[k]? = _
    rw [ih, execAt_getElem?, opsOf_cons]
    by_cases hk : handle = k
    · rw [if_pos hk, if_pos hk, Option.map_map]
      rfl
    · rw [if_neg hk, if_neg hk]

theorem execEach_inv {m : StdMap Int32 HalSensor} {ops : List (Int32 × SensorOp)} {k : Int32} {sensor' : HalSensor}
    (h : (execEach m ops).1[k]? = some sensor') :
    ∃ sensor, m[k]? = some sensor ∧ sensor' = Run.run HalSensor.exec sensor (opsOf k ops) := by
  rw [execEach_getElem?] at h
  obtain ⟨sensor, hm, rfl⟩ := Option.map_eq_some_iff.1 h
  exact ⟨sensor, hm, rfl⟩

theorem execAt_eq_execEach (m : StdMap Int32 HalSensor) (handle : Int32) (op : SensorOp) :
    execAt m handle op = execEach m [(handle, op)] := by
  show _ = ((execAt m handle op).1, (execAt m handle op).2 ++ [])
  rw [List.append_nil]

end Sensors

/-! ## Tables after loops of removals and stops -/

theorem getElem?_foldl_removals : ∀ (ops : List SensorOp) (m : StdMap Int32 DirectChannel),
    (∀ op ∈ ops, ∃ c, op = .removeDirectChannel c) → ∀ (c : Int32) (entry : DirectChannel),
    (ops.foldl channelsAfter m)[c]? = some entry ↔ .removeDirectChannel c ∉ ops ∧ m[c]? = some entry
  | [], m, _, c, entry => by simp
  | op :: ops, m, h, c, entry => by
    obtain ⟨c', rfl⟩ := h op List.mem_cons_self
    rw [List.foldl_cons, getElem?_foldl_removals ops _ (fun op hm => h op (List.mem_cons_of_mem _ hm)) c]
    simp only [channelsAfter, StdMap.getElem?_erase_eq, List.mem_cons, SensorOp.removeDirectChannel.injEq, not_or]
    by_cases hc : c' = c
    · simp [hc]
    · simp [hc, Ne.symm hc]

theorem getElem?_foldl_stops (c : Int32) : ∀ (ops : List SensorOp) (m : StdMap Int32 DirectChannel),
    (∀ op ∈ ops, op = .stopDirectChannel c) → ∀ (c' : Int32),
    (ops.foldl channelsAfter m)[c']? = if c' = c ∧ ops ≠ [] then m[c']?.map (fun _ => ⟨false, 0⟩) else m[c']?
  | [], m, _, c' => by simp
  | op :: ops, m, h, c' => by
    obtain rfl := h op List.mem_cons_self
    rw [List.foldl_cons, getElem?_foldl_stops c ops _ (fun op hm => h op (List.mem_cons_of_mem _ hm)) c']
    have hstop : (channelsAfter m (.stopDirectChannel c))[c']? =
        if c' = c then m[c']?.map (fun _ => ⟨false, 0⟩) else m[c']? := by
      unfold channelsAfter
      dsimp only
      cases hm : m[c]? with
      | none =>
        dsimp only
        by_cases hc : c' = c
        · rw [if_pos hc, hc, hm]; rfl
        · rw [if_neg hc]
      | some channel =>
        dsimp only
        rw [StdMap.getElem?_insert_eq]
        by_cases hc : c' = c
        · rw [if_pos hc, if_pos hc.symm, hc, hm]; rfl
        · rw [if_neg hc, if_neg (fun h => hc h.symm)]
    rw [hstop]
    by_cases hc : c' = c
    · by_cases hops : ops = []
      · simp [hc, hops]
      · simp [hc, hops, Option.map_map, Function.comp_def]
    · simp [hc]

theorem getD_foldl_stops (m : StdMap Int32 HalSensor) (k : Int32) : ∀ (handles : List Int32)
    (rateNs : StdMap Int32 Int64),
    (handles.foldl (fun rateNs sensor => if sensor ∈ m then rateNs.insert sensor 0 else rateNs) rateNs).getD k 0 =
      if k ∈ handles ∧ k ∈ m then 0 else rateNs.getD k 0
  | [], rateNs => by simp
  | handle :: handles, rateNs => by
    rw [List.foldl_cons, getD_foldl_stops m k handles]
    by_cases hm : handle ∈ m
    · rw [if_pos hm, StdMap.getD_insert_eq]
      by_cases hk : handle = k
      · subst hk
        simp [hm]
      · simp [hk, List.mem_cons, Ne.symm hk]
    · rw [if_neg hm]
      by_cases hk : handle = k
      · subst hk
        simp [hm]
      · simp [List.mem_cons, Ne.symm hk]

/-! ## Agreement -/

/-- The rate of a channel for a sensor and the sensor's entry for the channel say the same. -/
def EntryAgrees (rateNs : Int64) (entry : Option DirectChannel) : Prop :=
  (rateNs ≠ 0 ↔ ∃ e, entry = some e ∧ e.enabled = true) ∧
    ∀ e, entry = some e → e.enabled = true → e.samplingPeriodNs = rateNs.toInt

/-- The fields a sensor derives from its entries: whether one is enabled, and the smallest enabled period. -/
def Derived (s : Sensor) : Prop :=
  (s.mDirectChannelEnabled = true ↔ (channelDemands s.mDirectChannels).Nonempty) ∧
    ((channelDemands s.mDirectChannels).Nonempty → IsLeast (channelDemands s.mDirectChannels) s.mDirectChannelRateNs) ∧
    (¬ (channelDemands s.mDirectChannels).Nonempty → s.mDirectChannelRateNs = int64Max)

/-- **The channel table of the HAL and the entries of its sensors agree.** -/
structure Agreement (s : SensorsHalAidl) : Prop where
  rates : ∀ (c k : Int32) (channel : DirectChannelBase) (sensor : HalSensor),
    s.mDirectChannels[c]? = some channel → s.mSensors[k]? = some sensor →
    EntryAgrees (channel.rateNs.getD k 0) sensor.channels[c]?
  listed : ∀ (c k : Int32) (channel : DirectChannelBase) (sensor : HalSensor),
    s.mDirectChannels[c]? = some channel → s.mSensors[k]? = some sensor →
    sensor.channels[c]? ≠ none → k ∈ channel.sensorHandles
  registered : ∀ (c k : Int32) (sensor : HalSensor), s.mDirectChannels[c]? = none → s.mSensors[k]? = some sensor →
    sensor.channels[c]? = none
  derived : ∀ (k : Int32) (sensor : HalSensor), s.mSensors[k]? = some sensor → Derived sensor.history.sensor

theorem derived_of_inv {s : Sensor} (h : s.Inv) : Derived s := by
  refine ⟨h.enabled, fun hne => ⟨?_, fun q hq => h.rate.2 (Or.inr hq)⟩, fun hempty => ?_⟩
  · rcases h.rate.1 with hmax | hmem
    · -- a demand of `INT64_MAX` is the least one only if it is the only one
      obtain ⟨q, hq⟩ := hne
      have hle : s.mDirectChannelRateNs ≤ q := h.rate.2 (Or.inr hq)
      have hq' := h.channels q hq
      rwa [show s.mDirectChannelRateNs = q by omega]
    · exact hmem
  · exact h.rate.1.resolve_right (fun hmem => hempty ⟨_, hmem⟩)

/-- What is proved of every step: agreement, with the invariant of each sensor for its derived fields. -/
structure Agree (s : SensorsHalAidl) : Prop where
  rates : ∀ (c k : Int32) (channel : DirectChannelBase) (sensor : HalSensor), s.mDirectChannels[c]? = some channel →
    s.mSensors[k]? = some sensor → EntryAgrees (channel.rateNs.getD k 0) sensor.channels[c]?
  listed : ∀ (c k : Int32) (sensor : HalSensor) (entry : DirectChannel), s.mSensors[k]? = some sensor →
    sensor.channels[c]? = some entry → ∃ channel, s.mDirectChannels[c]? = some channel ∧ k ∈ channel.sensorHandles
  inv : ∀ (k : Int32) (sensor : HalSensor), s.mSensors[k]? = some sensor → sensor.history.sensor.Inv

theorem Agree.agreement {s : SensorsHalAidl} (h : Agree s) : Agreement s where
  rates := h.rates
  listed c k channel sensor hc hk hne := by
    obtain ⟨entry, hentry⟩ := Option.ne_none_iff_exists'.1 hne
    obtain ⟨channel', hc', hmem⟩ := h.listed c k sensor entry hk hentry
    rw [hc] at hc'
    obtain rfl := Option.some.inj hc'
    exact hmem
  registered c k sensor hc hk := by
    rw [← Option.not_isSome_iff_eq_none, Option.isSome_iff_exists]
    rintro ⟨entry, hentry⟩
    obtain ⟨channel, hc', -⟩ := h.listed c k sensor entry hk hentry
    rw [hc] at hc'
    cases hc'
  derived k sensor hk := derived_of_inv (h.inv k sensor hk)

/-! ## The calls, one by one -/

section calls

variable {s : SensorsHalAidl}

/-- Steps that leave both tables alone. -/
theorem Agree.of_same {s' : SensorsHalAidl} (h : Agree s) (hc : s'.mDirectChannels = s.mDirectChannels)
    (hm : ∀ (k : Int32) (sensor' : HalSensor), s'.mSensors[k]? = some sensor' →
      ∃ sensor, s.mSensors[k]? = some sensor ∧ sensor'.channels = sensor.channels ∧
        sensor'.history.sensor.Inv) : Agree s' where
  rates c k channel sensor' hch hk := by
    obtain ⟨sensor, hk, heq, -⟩ := hm k sensor' hk
    rw [heq]
    exact h.rates c k channel sensor (hc ▸ hch) hk
  listed c k sensor' entry hk hentry := by
    obtain ⟨sensor, hk, heq, -⟩ := hm k sensor' hk
    rw [hc]
    exact h.listed c k sensor entry hk (heq ▸ hentry)
  inv k sensor' hk := by
    obtain ⟨sensor, -, -, hinv⟩ := hm k sensor' hk
    exact hinv

theorem Agree.of_eq {s' : SensorsHalAidl} (h : Agree s) (hc : s'.mDirectChannels = s.mDirectChannels)
    (hm : s'.mSensors = s.mSensors) : Agree s' :=
  h.of_same hc (fun k sensor hk => ⟨sensor, hm ▸ hk, rfl, h.inv k sensor (hm ▸ hk)⟩)

theorem foldl_channelsAfter_of_not_onChannel {ops : List SensorOp} (hops : ∀ op ∈ ops, ¬ op.OnChannel)
    (m : StdMap Int32 DirectChannel) : ops.foldl channelsAfter m = m := by
  induction ops with
  | nil => rfl
  | cons op ops ih =>
    have hop : channelsAfter m op = m := by
      cases op with
      | batch p l => rfl
      | activate e => rfl
      | _ => exact absurd trivial (hops _ List.mem_cons_self)
    rw [List.foldl_cons, hop]
    exact ih (fun op hm => hops op (List.mem_cons_of_mem _ hm))

/-- A loop of activations and batches. -/
theorem Agree.execEach (h : Agree s) {ops : List (Int32 × SensorOp)} (hops : ∀ op ∈ ops, ¬ op.2.OnChannel) :
    Agree { s with mSensors := (Sensors.execEach s.mSensors ops).1 } := by
  refine h.of_same rfl (fun k sensor' hk => ?_)
  obtain ⟨sensor, hsensor, rfl⟩ := Sensors.execEach_inv hk
  refine ⟨sensor, hsensor, ?_, HalSensor.inv_run _ (h.inv k sensor hsensor)⟩
  rw [HalSensor.channels_run]
  exact foldl_channelsAfter_of_not_onChannel (fun op hm => hops (k, op) (Sensors.mem_opsOf.1 hm)) _

theorem Agree.execAt (h : Agree s) (handle : Int32) (op : SensorOp) (hop : ¬ op.OnChannel) :
    Agree { s with mSensors := (Sensors.execAt s.mSensors handle op).1 } := by
  rw [Sensors.execAt_eq_execEach]
  exact h.execEach (fun o hm => by rw [List.mem_singleton.1 hm]; exact hop)

/-- **A post changes the Event FMQ and the wake lock only.** -/
theorem postEvents_eq (s : SensorsHalAidl) (events : List Event) (wakeup : Bool) (u : Uptime) :
    ∃ queue wakeLock, (s.postEvents events wakeup u).1 = { s with mEventQueue := queue, wakeLock := wakeLock } := by
  unfold SensorsHalAidl.postEvents
  split
  · exact ⟨s.mEventQueue, s.wakeLock, rfl⟩
  · split
    · exact ⟨s.mEventQueue, s.wakeLock, rfl⟩
    · cases wakeup
      · exact ⟨_, s.wakeLock, rfl⟩
      · exact ⟨_, _, rfl⟩

theorem Agree.postEvents (h : Agree s) (events : List Event) (wakeup : Bool) (u : Uptime) :
    Agree (s.postEvents events wakeup u).1 := by
  obtain ⟨queue, wakeLock, heq⟩ := postEvents_eq s events wakeup u
  rw [heq]
  exact h.of_eq rfl rfl

theorem readWakeLockFMQ_eq (s : SensorsHalAidl) (eventsHandled : Int32) (u : Uptime) :
    ∃ wakeLock, (s.readWakeLockFMQ eventsHandled u).1 = { s with wakeLock := wakeLock } := by
  unfold SensorsHalAidl.readWakeLockFMQ
  split
  · exact ⟨_, rfl⟩
  · exact ⟨s.wakeLock, rfl⟩

theorem Agree.activate (h : Agree s) (sensorHandle : Int32) (enabled : Bool) (r : ReportInput) :
    Agree (s.activate sensorHandle enabled r).1 := by
  have hexec := h.execAt sensorHandle (.activate enabled) id
  unfold SensorsHalAidl.activate
  split
  · dsimp only
    split
    · exact hexec.postEvents _ _ _
    · exact hexec
  · exact h

theorem Agree.batch (h : Agree s) (sensorHandle : Int32) (samplingPeriodNs maxReportLatencyNs : Int64) :
    Agree (s.batch sensorHandle samplingPeriodNs maxReportLatencyNs).1 := by
  unfold SensorsHalAidl.batch
  dsimp only
  split
  · exact (h.execAt sensorHandle (.batch samplingPeriodNs _) id).of_eq rfl rfl
  · exact h.of_eq rfl rfl

theorem entryAgrees_none : EntryAgrees 0 none :=
  ⟨iff_of_false (fun h => h rfl) (fun ⟨_, h, _⟩ => by cases h), fun _ h => by cases h⟩

theorem entryAgrees_stopped (entry : Option DirectChannel) : EntryAgrees 0 (entry.map fun _ => ⟨false, 0⟩) := by
  cases entry with
  | none => exact entryAgrees_none
  | some e =>
    refine ⟨iff_of_false (fun h => h rfl) ?_, ?_⟩
    · rintro ⟨_, h, hen⟩
      obtain rfl := Option.some.inj h
      cases hen
    · rintro _ h hen
      obtain rfl := Option.some.inj h
      cases hen

theorem entryAgrees_added (rateNs : Int64) :
    EntryAgrees rateNs (some (if rateNs = 0 then ⟨false, 0⟩ else ⟨true, rateNs.toInt⟩)) := by
  by_cases h : rateNs = 0
  · rw [if_pos h, h]
    exact entryAgrees_stopped (some ⟨false, 0⟩)
  · rw [if_neg h]
    refine ⟨iff_of_true h ⟨_, rfl, rfl⟩, ?_⟩
    rintro _ he -
    obtain rfl := Option.some.inj he
    rfl

/-- A channel that lists no fewer sensors than the one it replaces. -/
theorem listed_insert {m : StdMap Int32 DirectChannelBase} {c : Int32} {channel new : DirectChannelBase}
    (hc : m[c]? = some channel) (hsub : channel.sensorHandles ⊆ new.sensorHandles) {c' k : Int32}
    (h : ∃ channel', m[c']? = some channel' ∧ k ∈ channel'.sensorHandles) :
    ∃ channel', (m.insert c new)[c']? = some channel' ∧ k ∈ channel'.sensorHandles := by
  obtain ⟨channel', hc', hmem⟩ := h
  simp only [StdMap.getElem?_insert_eq]
  by_cases hcc : c = c'
  · subst hcc
    rw [hc] at hc'
    obtain rfl := Option.some.inj hc'
    exact ⟨_, if_pos rfl, hsub hmem⟩
  · exact ⟨channel', by rw [if_neg hcc]; exact hc', hmem⟩

theorem opsOf_stops (c : Int32) (handles : List Int32) (k : Int32) :
    ∀ op ∈ Sensors.opsOf k (handles.map (·, .stopDirectChannel c)), op = .stopDirectChannel c := by
  intro op hm
  obtain ⟨_, _, heq⟩ := List.mem_map.1 (Sensors.mem_opsOf.1 hm)
  cases heq
  rfl

theorem opsOf_stops_ne_nil (c k : Int32) {handles : List Int32} :
    Sensors.opsOf k (handles.map (·, .stopDirectChannel c)) ≠ [] ↔ k ∈ handles := by
  constructor
  · intro hne
    obtain ⟨op, hm⟩ := List.exists_mem_of_ne_nil _ hne
    obtain ⟨k', hk', heq⟩ := List.mem_map.1 (Sensors.mem_opsOf.1 hm)
    cases heq
    exact hk'
  · intro hk
    exact List.ne_nil_of_mem (Sensors.mem_opsOf.2 (List.mem_map.2 ⟨k, hk, rfl⟩))

/-- `configDirectReport` with handle -1 and rate `STOP`. -/
theorem Agree.stopAll (h : Agree s) {c : Int32} {channel : DirectChannelBase}
    (hc : s.mDirectChannels[c]? = some channel) :
    Agree { s with
      mDirectChannels := s.mDirectChannels.insert c { channel with
        rateNs := channel.sensorHandles.foldl
          (fun rateNs sensor => if sensor ∈ s.mSensors then rateNs.insert sensor 0 else rateNs) channel.rateNs }
      mSensors := (Sensors.execEach s.mSensors (channel.sensorHandles.map (·, .stopDirectChannel c))).1 } := by
  refine ⟨?_, ?_, ?_⟩
  · intro c' k channel' sensor' hc' hk
    obtain ⟨sensor, hsensor, rfl⟩ := Sensors.execEach_inv hk
    rw [HalSensor.channels_run, getElem?_foldl_stops c _ _ (opsOf_stops c _ k)]
    simp only [StdMap.getElem?_insert_eq] at hc'
    by_cases hcc : c = c'
    · subst hcc
      rw [if_pos rfl] at hc'
      obtain rfl := Option.some.inj hc'
      rw [getD_foldl_stops]
      have hmem : k ∈ s.mSensors := Std.ExtTreeMap.mem_iff_isSome_getElem?.2 (by rw [hsensor]; rfl)
      by_cases hk' : k ∈ channel.sensorHandles
      · rw [if_pos ⟨hk', hmem⟩, if_pos ⟨rfl, (opsOf_stops_ne_nil c k).2 hk'⟩]
        exact entryAgrees_stopped _
      · rw [if_neg (fun h => hk' h.1), if_neg (fun h => hk' ((opsOf_stops_ne_nil c k).1 h.2))]
        exact h.rates c k channel sensor hc hsensor
    · rw [if_neg hcc] at hc'
      rw [if_neg (fun h => hcc h.1.symm)]
      exact h.rates c' k channel' sensor hc' hsensor
  · intro c' k sensor' entry hk hentry
    obtain ⟨sensor, hsensor, rfl⟩ := Sensors.execEach_inv hk
    rw [HalSensor.channels_run, getElem?_foldl_stops c _ _ (opsOf_stops c _ k)] at hentry
    have hold : ∃ e, sensor.channels[c']? = some e := by
      split at hentry
      · obtain ⟨e, he, -⟩ := Option.map_eq_some_iff.1 hentry
        exact ⟨e, he⟩
      · exact ⟨entry, hentry⟩
    obtain ⟨e, he⟩ := hold
    refine listed_insert hc ?_ (h.listed c' k sensor e hsensor he)
    exact List.Subset.refl channel.sensorHandles
  · intro k sensor' hk
    obtain ⟨sensor, hsensor, rfl⟩ := Sensors.execEach_inv hk
    exact HalSensor.inv_run _ (h.inv k sensor hsensor)

theorem execAt_inv {m : StdMap Int32 HalSensor} {k₀ k : Int32} {op : SensorOp} {sensor' : HalSensor}
    (hk : (Sensors.execAt m k₀ op).1[k]? = some sensor') :
    ∃ sensor, m[k]? = some sensor ∧ sensor' = if k₀ = k then sensor.exec op else sensor := by
  rw [Sensors.execAt_getElem?] at hk
  split at hk
  · obtain ⟨sensor, hsensor, rfl⟩ := Option.map_eq_some_iff.1 hk
    exact ⟨sensor, hsensor, by rw [if_pos ‹_›]⟩
  · exact ⟨sensor', hk, by rw [if_neg ‹_›]⟩

/-- The entry of the channel in the sensor that it is added to, and no other, is new. -/
theorem channels_added (k₀ k c c' : Int32) (rateNs : Int64) (sensor : HalSensor) :
    (if k₀ = k then sensor.exec (.addDirectChannel c rateNs) else sensor).channels[c']? =
      if k₀ = k ∧ c = c' then some (if rateNs = 0 then ⟨false, 0⟩ else ⟨true, rateNs.toInt⟩)
      else sensor.channels[c']? := by
  by_cases hk : k₀ = k
  · rw [if_pos hk, HalSensor.channels_exec, channelsAfter, StdMap.getElem?_insert_eq]
    simp only [hk, true_and]
  · rw [if_neg hk, if_neg (fun h => hk h.1)]

/-- `configDirectReport` that sets a rate. -/
theorem Agree.add (h : Agree s) {c : Int32} {channel : DirectChannelBase} (hc : s.mDirectChannels[c]? = some channel)
    (k₀ : Int32) (rateNs : Int64) :
    Agree { s with
      mDirectChannels := s.mDirectChannels.insert c { channel with
        rateNs := channel.rateNs.insert k₀ rateNs
        sensorHandles := channel.sensorHandles ++ [k₀] }
      mSensors := (Sensors.execAt s.mSensors k₀ (.addDirectChannel c rateNs)).1 } := by
  refine ⟨?_, ?_, ?_⟩
  · intro c' k channel' sensor' hc' hk
    obtain ⟨sensor, hsensor, rfl⟩ := execAt_inv hk
    rw [channels_added]
    simp only [StdMap.getElem?_insert_eq] at hc'
    by_cases hcc : c = c'
    · subst hcc
      rw [if_pos rfl] at hc'
      obtain rfl := Option.some.inj hc'
      rw [StdMap.getD_insert_eq]
      by_cases hk' : k₀ = k
      · rw [if_pos hk', if_pos ⟨hk', rfl⟩]
        exact entryAgrees_added rateNs
      · rw [if_neg hk', if_neg (fun h => hk' h.1)]
        exact h.rates c k channel sensor hc hsensor
    · rw [if_neg hcc] at hc'
      rw [if_neg (fun h => hcc h.2)]
      exact h.rates c' k channel' sensor hc' hsensor
  · intro c' k sensor' entry hk hentry
    obtain ⟨sensor, hsensor, rfl⟩ := execAt_inv hk
    rw [channels_added] at hentry
    by_cases hnew : k₀ = k ∧ c = c'
    · obtain ⟨rfl, rfl⟩ := hnew
      exact ⟨_, by rw [StdMap.getElem?_insert_eq, if_pos rfl], List.mem_append_right _ List.mem_cons_self⟩
    · rw [if_neg hnew] at hentry
      exact listed_insert hc (List.subset_append_left _ _) (h.listed c' k sensor entry hsensor hentry)
  · intro k sensor' hk
    obtain ⟨sensor, hsensor, rfl⟩ := execAt_inv hk
    split
    · exact HalSensor.inv_exec _ (h.inv k sensor hsensor)
    · exact h.inv k sensor hsensor

theorem Agree.configDirectReport (h : Agree s) (sensorHandle channelHandle : Int32) (rate : RateLevel) :
    Agree (s.configDirectReport sensorHandle channelHandle rate).1 := by
  unfold SensorsHalAidl.configDirectReport
  split
  · exact h
  · rename_i channel hc
    split
    · exact h.stopAll hc
    · split
      · exact h
      · split
        · exact h
        · dsimp only
          split
          · exact h
          · exact h.add hc sensorHandle _

/-- **What a loop of removals leaves of the entries.** -/
theorem entry_of_removals {ops : List (Int32 × SensorOp)} (hops : ∀ op ∈ ops, ∃ c, op.2 = .removeDirectChannel c)
    {k c : Int32} {sensor' : HalSensor} (hk : (Sensors.execEach s.mSensors ops).1[k]? = some sensor') :
    ∃ sensor, s.mSensors[k]? = some sensor ∧ (sensor.history.sensor.Inv → sensor'.history.sensor.Inv) ∧
      ∀ entry, sensor'.channels[c]? = some entry ↔
        (k, .removeDirectChannel c) ∉ ops ∧ sensor.channels[c]? = some entry := by
  obtain ⟨sensor, hsensor, rfl⟩ := Sensors.execEach_inv hk
  refine ⟨sensor, hsensor, HalSensor.inv_run _, fun entry => ?_⟩
  rw [HalSensor.channels_run,
    getElem?_foldl_removals _ _ (fun op hm => hops (k, op) (Sensors.mem_opsOf.1 hm)) c entry, Sensors.mem_opsOf]

theorem isRemoval_map (c : Int32) (handles : List Int32) :
    ∀ op ∈ handles.map (fun k => (k, SensorOp.removeDirectChannel c)), ∃ c, op.2 = .removeDirectChannel c := by
  rintro op hm
  obtain ⟨k, -, rfl⟩ := List.mem_map.1 hm
  exact ⟨c, rfl⟩

theorem mem_map_removal {c k c' : Int32} {handles : List Int32} :
    (k, SensorOp.removeDirectChannel c') ∈ handles.map (fun k => (k, SensorOp.removeDirectChannel c)) ↔
      c' = c ∧ k ∈ handles := by
  simp only [List.mem_map, Prod.mk.injEq, SensorOp.removeDirectChannel.injEq]
  constructor
  · rintro ⟨_, hk, rfl, rfl⟩
    exact ⟨rfl, hk⟩
  · rintro ⟨rfl, hk⟩
    exact ⟨k, hk, rfl, rfl⟩

/-- The sensors' table after `unregisterDirectChannel`, which removes nothing where the channel is not registered. -/
theorem unregister_eq (s : SensorsHalAidl) (c : Int32) :
    (s.unregisterDirectChannel c).1 = { s with
      mSensors := (Sensors.execEach s.mSensors
        (((s.mDirectChannels[c]?).elim [] (·.sensorHandles)).map (·, .removeDirectChannel c))).1
      mDirectChannels := s.mDirectChannels.erase c } := by
  unfold SensorsHalAidl.unregisterDirectChannel
  cases s.mDirectChannels[c]? <;> rfl

theorem Agree.unregisterDirectChannel (h : Agree s) (c : Int32) : Agree (s.unregisterDirectChannel c).1 := by
  rw [unregister_eq]
  -- the entries for `c` are exactly those that the loop removes
  have hentry : ∀ (c' : Int32) {k : Int32} {sensor' : HalSensor}, (Sensors.execEach s.mSensors
      (((s.mDirectChannels[c]?).elim [] (·.sensorHandles)).map (·, .removeDirectChannel c))).1[k]? = some sensor' →
      ∃ sensor, s.mSensors[k]? = some sensor ∧ sensor'.history.sensor.Inv ∧
        ∀ entry, sensor'.channels[c']? = some entry ↔ c ≠ c' ∧ sensor.channels[c']? = some entry := by
    intro c' k sensor' hk
    obtain ⟨sensor, hsensor, hinv, hiff⟩ := entry_of_removals (c := c') (isRemoval_map c _) hk
    refine ⟨sensor, hsensor, hinv (h.inv k sensor hsensor), fun entry => (hiff entry).trans ?_⟩
    rw [mem_map_removal]
    refine and_congr_left (fun he => not_congr ⟨fun hc => hc.1.symm, ?_⟩)
    rintro rfl
    obtain ⟨channel, hc, hmem⟩ := h.listed c k sensor entry hsensor he
    rw [hc]
    exact ⟨rfl, hmem⟩
  refine ⟨?_, ?_, ?_⟩
  · intro c' k channel sensor' hc' hk
    obtain ⟨sensor, hsensor, -, hiff⟩ := hentry c' hk
    simp only [StdMap.getElem?_erase_eq] at hc'
    split at hc'
    · cases hc'
    · rename_i hcc
      rw [show sensor'.channels[c']? = sensor.channels[c']? from Option.ext (fun entry => by
        rw [hiff]
        exact and_iff_right hcc)]
      exact h.rates c' k channel sensor hc' hsensor
  · intro c' k sensor' entry hk he
    obtain ⟨sensor, hsensor, -, hiff⟩ := hentry c' hk
    obtain ⟨hcc, he⟩ := (hiff entry).1 he
    obtain ⟨channel, hc', hmem⟩ := h.listed c' k sensor entry hsensor he
    exact ⟨channel, by rw [StdMap.getElem?_erase_eq, if_neg hcc]; exact hc', hmem⟩
  · intro k sensor' hk
    obtain ⟨sensor, hsensor, hinv, -⟩ := hentry c hk
    exact hinv

/-- A channel that could be made has no sensors. -/
theorem construct_eq_fresh {mem : SharedMemInfo} {ashmem : Ashmem} {channel : DirectChannelBase}
    (h : AshmemDirectChannel.construct mem ashmem = .ok channel) : channel = .fresh := by
  unfold AshmemDirectChannel.construct at h
  split at h
  · cases h
  · split at h
    · cases h
    · split at h
      · cases h
      · exact (Except.ok.inj h).symm

theorem Agree.registerDirectChannel (h : Agree s) (mem : SharedMemInfo) (ashmem : Ashmem) :
    Agree (s.registerDirectChannel mem ashmem).1 := by
  unfold SensorsHalAidl.registerDirectChannel
  split
  · exact h
  · split
    · rename_i channel hnew
      obtain rfl := construct_eq_fresh hnew
      have hget : ∀ c, (s.mDirectChannels.insertIfNew s.mNextChannelHandle .fresh)[c]? =
          if s.mNextChannelHandle = c ∧ s.mDirectChannels[s.mNextChannelHandle]? = none then some .fresh
          else s.mDirectChannels[c]? :=
        StdMap.getElem?_subscript s.mDirectChannels s.mNextChannelHandle .fresh
      refine ⟨?_, ?_, h.inv⟩
      · intro c k channel sensor hc hk
        rw [hget] at hc
        split at hc
        · rename_i hnone
          obtain ⟨rfl, hnone⟩ := hnone
          obtain rfl := Option.some.inj hc
          rw [h.agreement.registered s.mNextChannelHandle k sensor hnone hk]
          exact entryAgrees_none
        · exact h.rates c k channel sensor hc hk
      · intro c k sensor entry hk he
        obtain ⟨channel, hc, hmem⟩ := h.listed c k sensor entry hk he
        refine ⟨channel, ?_, hmem⟩
        rw [hget, if_neg (fun hnone => ?_)]
        · exact hc
        · rw [← hnone.1, hnone.2] at hc
          cases hc
    · exact h

/-! ### A new session -/

theorem isRemoval_removals (mDirectChannels : StdMap Int32 DirectChannelBase) :
    ∀ op ∈ SensorsHalAidl.removals mDirectChannels, ∃ c, op.2 = .removeDirectChannel c := by
  rintro op hm
  obtain ⟨channel, -, hm⟩ := List.mem_flatMap.1 hm
  exact isRemoval_map channel.1 _ op hm

theorem mem_removals {mDirectChannels : StdMap Int32 DirectChannelBase} {k c : Int32} :
    (k, SensorOp.removeDirectChannel c) ∈ SensorsHalAidl.removals mDirectChannels ↔
      ∃ channel, mDirectChannels[c]? = some channel ∧ k ∈ channel.sensorHandles := by
  unfold SensorsHalAidl.removals
  simp only [List.mem_flatMap, Prod.exists, StdMap.mem_toList, mem_map_removal]
  constructor
  · rintro ⟨_, channel, hc, rfl, hk⟩
    exact ⟨channel, hc, hk⟩
  · rintro ⟨channel, hc, hk⟩
    exact ⟨c, channel, hc, rfl, hk⟩

/-- The sensors after the first loop of `initialize`. -/
def allInactive (s : SensorsHalAidl) : SensorsHalAidl :=
  { s with mSensors := (Sensors.execEach s.mSensors (s.mSensors.keys.map (·, .activate false))).1 }

theorem Agree.allInactive (h : Agree s) : Agree (allInactive s) :=
  h.execEach (fun op hm => by
    obtain ⟨k, -, rfl⟩ := List.mem_map.1 hm
    exact id)

theorem initialize_tables (s : SensorsHalAidl) (i : InitializeInput) :
    (s.initializeHal i).1.mDirectChannels = ∅ ∧
      (s.initializeHal i).1.mSensors =
        (Sensors.execEach (Aidl.allInactive s).mSensors (SensorsHalAidl.removals s.mDirectChannels)).1 := by
  unfold SensorsHalAidl.initializeHal SensorsHalAidl.joinWakeLockThread
  dsimp only
  cases i.lastPass with
  | none => exact ⟨rfl, rfl⟩
  | some pass =>
    obtain ⟨wakeLock, heq⟩ := readWakeLockFMQ_eq (Aidl.allInactive s) pass.1 pass.2
    unfold Aidl.allInactive at heq ⊢
    dsimp only at heq ⊢
    rw [heq]
    exact ⟨rfl, rfl⟩

/-- **After `initialize` no sensor has an entry.** -/
theorem initialize_entries (h : Agree s) (i : InitializeInput) {k : Int32} {sensor' : HalSensor}
    (hk : (s.initializeHal i).1.mSensors[k]? = some sensor') :
    sensor'.history.sensor.Inv ∧ ∀ c : Int32, sensor'.channels[c]? = none := by
  have hin := h.allInactive
  rw [(initialize_tables s i).2] at hk
  refine ⟨?_, fun c => ?_⟩
  · obtain ⟨sensor, hsensor, hinv, -⟩ :=
      entry_of_removals (c := k) (isRemoval_removals s.mDirectChannels) hk
    exact hinv (hin.inv k sensor hsensor)
  · obtain ⟨sensor, hsensor, -, hiff⟩ := entry_of_removals (c := c) (isRemoval_removals s.mDirectChannels) hk
    refine Option.eq_none_iff_forall_ne_some.2 (fun entry he => ?_)
    obtain ⟨hnot, he⟩ := (hiff entry).1 he
    exact hnot (mem_removals.2 (hin.listed c k sensor entry hsensor he))

theorem Agree.initializeHal (h : Agree s) (i : InitializeInput) : Agree (s.initializeHal i).1 where
  rates c k channel sensor hc _ := by
    rw [(initialize_tables s i).1, Std.ExtTreeMap.getElem?_empty] at hc
    cases hc
  listed c k sensor entry hk he := by
    rw [(initialize_entries h i hk).2 c] at he
    cases he
  inv k sensor hk := (initialize_entries h i hk).1

end calls

/-! ## Runs -/

/-- What a step may do to the sensors and to the wake lock. -/
inductive Effect : SensorsHalAidl → SensorsHalAidl → Prop
  | same {s s' : SensorsHalAidl} (hsensors : s'.mSensors = s.mSensors) (hwakeLock : s'.wakeLock = s.wakeLock) :
    Effect s s'
  | execEach {s s' : SensorsHalAidl} (ops : List (Int32 × SensorOp))
    (hsensors : s'.mSensors = (Sensors.execEach s.mSensors ops).1) (hwakeLock : s'.wakeLock = s.wakeLock) : Effect s s'
  | updateWakeLock {s s' : SensorsHalAidl} (eventsWritten eventsHandled : Int32) (u : Uptime)
    (hsensors : s'.mSensors = s.mSensors)
    (hwakeLock : s'.wakeLock = (s.wakeLock.updateWakeLock eventsWritten eventsHandled u).1) : Effect s s'
  | trans {s s' s'' : SensorsHalAidl} (h : Effect s s') (h' : Effect s' s'') : Effect s s''

namespace Effect

/-- The operations that a sensor has seen. -/
theorem sensor {s s' : SensorsHalAidl} (h : Effect s s') {k : Int32} : ∀ {sensor' : HalSensor},
    s'.mSensors[k]? = some sensor' →
    ∃ sensor ops, s.mSensors[k]? = some sensor ∧ sensor' = Run.run HalSensor.exec sensor ops := by
  induction h with
  | same hsensors => exact fun hk => ⟨_, [], hsensors ▸ hk, rfl⟩
  | execEach ops hsensors =>
    intro sensor' hk
    rw [hsensors] at hk
    obtain ⟨sensor, hsensor, heq⟩ := Sensors.execEach_inv hk
    exact ⟨sensor, _, hsensor, heq⟩
  | updateWakeLock eventsWritten eventsHandled u hsensors => exact fun hk => ⟨_, [], hsensors ▸ hk, rfl⟩
  | trans _ _ ih ih' =>
    intro sensor' hk
    obtain ⟨middle, ops', hmiddle, rfl⟩ := ih' hk
    obtain ⟨sensor, ops, hsensor, rfl⟩ := ih hmiddle
    exact ⟨sensor, ops ++ ops', hsensor, (Run.run_append sensor ops ops').symm⟩

/-- No sensor comes and none goes. -/
theorem mem_iff {s s' : SensorsHalAidl} (h : Effect s s') (k : Int32) : k ∈ s'.mSensors ↔ k ∈ s.mSensors := by
  induction h with
  | same hsensors => rw [hsensors]
  | execEach ops hsensors =>
    rw [hsensors, Std.ExtTreeMap.mem_iff_isSome_getElem?, Std.ExtTreeMap.mem_iff_isSome_getElem?,
      Sensors.execEach_getElem?, Option.isSome_map]
  | updateWakeLock eventsWritten eventsHandled u hsensors => rw [hsensors]
  | trans _ _ ih ih' => exact ih'.trans ih

/-- What updates keep of the wake lock. -/
theorem wakeLock {P : WakeLock → Prop}
    (hP : ∀ w eventsWritten eventsHandled u, P w → P (w.updateWakeLock eventsWritten eventsHandled u).1)
    {s s' : SensorsHalAidl} (h : Effect s s') : P s.wakeLock → P s'.wakeLock := by
  induction h with
  | same _ hwakeLock => exact fun h => hwakeLock ▸ h
  | execEach _ _ hwakeLock => exact fun h => hwakeLock ▸ h
  | updateWakeLock eventsWritten eventsHandled u _ hwakeLock => exact fun h => hwakeLock ▸ hP _ _ _ _ h
  | trans _ _ ih ih' => exact fun h => ih' (ih h)

theorem execAt (s : SensorsHalAidl) (handle : Int32) (op : SensorOp) :
    Effect s { s with mSensors := (Sensors.execAt s.mSensors handle op).1 } :=
  .execEach [(handle, op)] (Sensors.execAt_eq_execEach s.mSensors handle op ▸ rfl) rfl

theorem postEvents (s : SensorsHalAidl) (events : List Event) (wakeup : Bool) (u : Uptime) :
    Effect s (s.postEvents events wakeup u).1 := by
  unfold SensorsHalAidl.postEvents
  split
  · exact .same rfl rfl
  · split
    · exact .same rfl rfl
    · cases wakeup
      · exact .same rfl rfl
      · exact .updateWakeLock _ _ u rfl rfl

theorem readWakeLockFMQ (s : SensorsHalAidl) (eventsHandled : Int32) (u : Uptime) :
    Effect s (s.readWakeLockFMQ eventsHandled u).1 := by
  unfold SensorsHalAidl.readWakeLockFMQ
  split
  · exact .updateWakeLock _ _ u rfl rfl
  · exact .same rfl rfl

theorem joinWakeLockThread (s : SensorsHalAidl) (lastPass : Option (Int32 × Uptime)) :
    Effect s (s.joinWakeLockThread lastPass).1 := by
  unfold SensorsHalAidl.joinWakeLockThread
  split
  · exact readWakeLockFMQ s _ _
  · exact .same rfl rfl

theorem activate (s : SensorsHalAidl) (sensorHandle : Int32) (enabled : Bool) (r : ReportInput) :
    Effect s (s.activate sensorHandle enabled r).1 := by
  unfold SensorsHalAidl.activate
  split
  · dsimp only
    split
    · exact (execAt s sensorHandle _).trans (postEvents _ _ _ _)
    · exact execAt s sensorHandle _
  · exact .same rfl rfl

theorem batch (s : SensorsHalAidl) (sensorHandle : Int32) (samplingPeriodNs maxReportLatencyNs : Int64) :
    Effect s (s.batch sensorHandle samplingPeriodNs maxReportLatencyNs).1 := by
  unfold SensorsHalAidl.batch
  dsimp only
  split
  · exact (execAt s sensorHandle _).trans (.same rfl rfl)
  · exact .same rfl rfl

theorem configDirectReport (s : SensorsHalAidl) (sensorHandle channelHandle : Int32) (rate : RateLevel) :
    Effect s (s.configDirectReport sensorHandle channelHandle rate).1 := by
  unfold SensorsHalAidl.configDirectReport
  split
  · exact .same rfl rfl
  · split
    · exact .execEach _ rfl rfl
    · split
      · exact .same rfl rfl
      · split
        · exact .same rfl rfl
        · dsimp only
          split
          · exact .same rfl rfl
          · exact (execAt s sensorHandle _).trans (.same rfl rfl)

theorem flush (s : SensorsHalAidl) (sensorHandle : Int32) (u : Uptime) (r : ReportInput) :
    Effect s (s.flush sensorHandle u r).1 := by
  unfold SensorsHalAidl.flush
  split
  · split
    · exact (postEvents s _ _ _).trans (postEvents _ _ _ _)
    · exact .same rfl rfl
  · exact .same rfl rfl

theorem initializeHal (s : SensorsHalAidl) (i : InitializeInput) : Effect s (s.initializeHal i).1 := by
  have hdeactivated : Effect s (allInactive s) := .execEach _ rfl rfl
  exact hdeactivated.trans ((joinWakeLockThread (allInactive s) i.lastPass).trans (.execEach _ rfl rfl))

theorem injectSensorData (s : SensorsHalAidl) (event : Event) : Effect s (s.injectSensorData event).1 := by
  unfold SensorsHalAidl.injectSensorData
  split <;> exact .same rfl rfl

theorem registerDirectChannel (s : SensorsHalAidl) (mem : SharedMemInfo) (ashmem : Ashmem) :
    Effect s (s.registerDirectChannel mem ashmem).1 := by
  unfold SensorsHalAidl.registerDirectChannel
  split
  · exact .same rfl rfl
  · split <;> exact .same rfl rfl

theorem unregisterDirectChannel (s : SensorsHalAidl) (channelHandle : Int32) :
    Effect s (s.unregisterDirectChannel channelHandle).1 := by
  rw [unregister_eq]
  exact .execEach _ rfl rfl

theorem sensorThread (s : SensorsHalAidl) (sensorHandle : Int32) (values : List SensorValues) (u : Uptime) :
    Effect s (s.sensorThread sensorHandle values u).1 := by
  unfold SensorsHalAidl.sensorThread
  split
  · dsimp only
    split
    · refine trans ?_ (postEvents _ _ _ u)
      exact .same rfl rfl
    · exact .same rfl rfl
  · exact .same rfl rfl

end Effect

/-- **Every step of the HAL runs operations on the sensors and updates the wake lock**, and does nothing else to
them. -/
theorem effect_step (s : SensorsHalAidl) (op : HalOp) : Effect s (s.step op) := by
  cases op with
  | activate sensorHandle enabled r => exact .activate s sensorHandle enabled r
  | batch sensorHandle p l => exact .batch s sensorHandle p l
  | configDirectReport sensorHandle channelHandle rate => exact .configDirectReport s sensorHandle channelHandle rate
  | flush sensorHandle u r => exact .flush s sensorHandle u r
  | initializeHal i => exact .initializeHal s i
  | injectSensorData event => exact .injectSensorData s event
  | registerDirectChannel mem ashmem => exact .registerDirectChannel s mem ashmem
  | setOperationMode mode => exact .same rfl rfl
  | unregisterDirectChannel channelHandle => exact .unregisterDirectChannel s channelHandle
  | sensorThread sensorHandle values u => exact .sensorThread s sensorHandle values u
  | readWakeLockFMQ eventsHandled u => exact .readWakeLockFMQ s eventsHandled u
  | frameworkReads count => exact .same rfl rfl

/-- What holds of a constructed sensor and is kept by its operations holds of every sensor in every run. -/
theorem sensors_run {P : HalSensor → Prop} (hexec : ∀ sensor op, P sensor → P (sensor.exec op)) (s : SensorsHalAidl)
    (ops : List HalOp) (h : ∀ (k : Int32) (sensor : HalSensor), s.mSensors[k]? = some sensor → P sensor) :
    ∀ (k : Int32) (sensor : HalSensor),
      (Run.run SensorsHalAidl.step s ops).mSensors[k]? = some sensor → P sensor := by
  refine Run.run_of_inv SensorsHalAidl.step
    (fun s => ∀ (k : Int32) (sensor : HalSensor), s.mSensors[k]? = some sensor → P sensor) ?_ ops h
  intro s op h k sensor' hk
  obtain ⟨sensor, sensorOps, hsensor, rfl⟩ := (effect_step s op).sensor hk
  exact Run.run_of_inv HalSensor.exec P hexec sensorOps (h k sensor hsensor)

theorem agree_step (s : SensorsHalAidl) (op : HalOp) (h : Agree s) : Agree (s.step op) := by
  cases op with
  | activate sensorHandle enabled r => exact h.activate sensorHandle enabled r
  | batch sensorHandle p l => exact h.batch sensorHandle p l
  | configDirectReport sensorHandle channelHandle rate => exact h.configDirectReport sensorHandle channelHandle rate
  | flush sensorHandle u r =>
    show Agree (s.flush sensorHandle u r).1
    unfold SensorsHalAidl.flush
    split
    · split
      · exact (h.postEvents _ _ u).postEvents _ _ _
      · exact h
    · exact h
  | initializeHal i => exact h.initializeHal i
  | injectSensorData event =>
    show Agree (s.injectSensorData event).1
    unfold SensorsHalAidl.injectSensorData
    split <;> exact h
  | registerDirectChannel mem ashmem => exact h.registerDirectChannel mem ashmem
  | setOperationMode mode => exact h
  | unregisterDirectChannel channelHandle => exact h.unregisterDirectChannel channelHandle
  | sensorThread sensorHandle values u =>
    show Agree (s.sensorThread sensorHandle values u).1
    unfold SensorsHalAidl.sensorThread
    split
    · dsimp only
      split
      · refine Agree.postEvents ?_ _ _ u
        exact h.of_eq rfl rfl
      · exact h.of_eq rfl rfl
    · exact h
  | readWakeLockFMQ eventsHandled u =>
    obtain ⟨wakeLock, heq⟩ := readWakeLockFMQ_eq s eventsHandled u
    show Agree (s.readWakeLockFMQ eventsHandled u).1
    rw [heq]
    exact h.of_eq rfl rfl
  | frameworkReads count => exact h.of_eq rfl rfl

theorem construct_sensors (timeoutSeconds : UInt32) (descriptions : List SensorDescription) {k : Int32}
    {sensor : HalSensor} (hk : (SensorsHalAidl.construct timeoutSeconds descriptions).mSensors[k]? = some sensor) :
    sensor.description.sensorHandle = k ∧ sensor = .fresh sensor.description := by
  have hfold : ∀ (ds : List SensorDescription) (m : StdMap Int32 HalSensor),
      (∀ (k : Int32) (sensor : HalSensor), m[k]? = some sensor →
        sensor.description.sensorHandle = k ∧ sensor = .fresh sensor.description) →
      ∀ (k : Int32) (sensor : HalSensor),
        (ds.foldl (fun m d => m.insert d.sensorHandle (.fresh d)) m)[k]? = some sensor →
        sensor.description.sensorHandle = k ∧ sensor = .fresh sensor.description := by
    intro ds
    induction ds with
    | nil => exact fun m h => h
    | cons d ds ih =>
      refine fun m h => ih _ (fun k sensor hk => ?_)
      rw [StdMap.getElem?_insert_eq] at hk
      split at hk
      · obtain rfl := Option.some.inj hk
        exact ⟨‹_›, rfl⟩
      · exact h k sensor hk
  refine hfold descriptions ∅ (fun k sensor hk => ?_) k sensor hk
  rw [Std.ExtTreeMap.getElem?_empty] at hk
  cases hk

theorem agree_construct (timeoutSeconds : UInt32) (descriptions : List SensorDescription) :
    Agree (SensorsHalAidl.construct timeoutSeconds descriptions) where
  rates c k channel sensor hc _ := by
    rw [show (SensorsHalAidl.construct timeoutSeconds descriptions).mDirectChannels = ∅ from rfl,
      Std.ExtTreeMap.getElem?_empty] at hc
    cases hc
  listed c k sensor entry hk he := by
    rw [(construct_sensors timeoutSeconds descriptions hk).2] at he
    rw [show (HalSensor.fresh sensor.description).channels = ∅ from rfl, Std.ExtTreeMap.getElem?_empty] at he
    cases he
  inv k sensor hk := by
    rw [(construct_sensors timeoutSeconds descriptions hk).2]
    exact Sensor.inv_fresh _

/-- The entries that the HAL and its sensors hold for a channel. -/
def entriesOf (s : SensorsHalAidl) (c : Int32) : Option DirectChannelBase × (Int32 → Option DirectChannel) :=
  (s.mDirectChannels[c]?, fun k => (s.mSensors[k]?).bind (·.channels[c]?))

theorem entriesOf_unregister (s : SensorsHalAidl) {c c' : Int32} (hc : c' ≠ c) :
    entriesOf (s.unregisterDirectChannel c).1 c' = entriesOf s c' := by
  rw [unregister_eq]
  unfold entriesOf
  dsimp only
  rw [StdMap.getElem?_erase_eq, if_neg (Ne.symm hc)]
  refine congrArg _ (funext fun k => ?_)
  rw [Sensors.execEach_getElem?]
  cases hk : s.mSensors[k]? with
  | none => rfl
  | some sensor =>
    refine Option.ext (fun entry => ?_)
    rw [Option.map_some, Option.bind_some, Option.bind_some, HalSensor.channels_run,
      getElem?_foldl_removals _ _ (fun op hm => isRemoval_map c _ _ (Sensors.mem_opsOf.1 hm)), Sensors.mem_opsOf,
      mem_map_removal]
    exact and_iff_right (fun h => hc h.1)

/-- **The direct-channel table of the HAL and its sensors agree after every step**, and unregistering a channel
touches no other. -/
theorem along_agreement (timeoutSeconds : UInt32) (descriptions : List SensorDescription) (ops : List HalOp) :
    Run.Along SensorsHalAidl.step Agreement (SensorsHalAidl.construct timeoutSeconds descriptions) ops ∧
      ∀ (s : SensorsHalAidl) (c c' : Int32), c' ≠ c →
        entriesOf (s.step (.unregisterDirectChannel c)) c' = entriesOf s c' :=
  ⟨(Run.along_of_inv agree_step ops (agree_construct timeoutSeconds descriptions)).imp (fun _ h => h.agreement),
    fun s _ _ hc => entriesOf_unregister s hc⟩

end Aidl
end MemsHal
