import MemsHal.SensorHardware
/-!
# HardwarePower — the channels under the HAL

The calls of one step all switch sensors on, or all switch them off.  A channel is then on exactly while one of its
sensors is in use, as long as no step stops an instance of a channel that stays in use (`along_poweredInUse_iff`).
-/
namespace MemsHal

open Run (run Along Steps)

/-! ## The switches of a sensor -/

namespace Sensor

open Aidl.Shipped (Wakes)

theorem mem_updateDirectChannel {s : Sensor} {enable : Bool} : .activate enable ∈ s.updateDirectChannel.2 ↔
    (s.mDirectChannelEnabled ≠ anyChannelEnabled s.mDirectChannels ∧ s.mIsEnabled = false) ∧
      enable = anyChannelEnabled s.mDirectChannels := by
  rw [updateDirectChannel_calls]
  split <;> split <;> simp_all

theorem not_mem_batch (s : Sensor) (p l : Int64) (enable : Bool) : .activate enable ∉ (s.exec (.batch p l)).2 := by
  unfold exec batch
  dsimp only
  split <;> simp

theorem mem_activate {s : Sensor} {e enable : Bool} :
    .activate enable ∈ (s.exec (.activate e)).2 ↔ s.mIsEnabled ≠ e ∧ enable = e := by
  unfold exec activate
  dsimp only
  split <;> cases e <;> simp_all

/-- **An operation switches the sensor one way at most.** -/
theorem oneWay_exec (s : Sensor) (op : SensorOp) : ∃ enable : Bool, .activate (!enable) ∉ (s.exec op).2 := by
  by_cases hop : op.OnChannel
  · refine ⟨anyChannelEnabled (channelsAfter s.mDirectChannels op), fun hm => ?_⟩
    rw [exec_channel s op hop] at hm
    exact Bool.not_ne_self _ (mem_updateDirectChannel.1 hm).2
  · cases op with
    | batch p l => exact ⟨true, not_mem_batch s p l _⟩
    | activate e => exact ⟨e, fun hm => Bool.not_ne_self _ (mem_activate.1 hm).2⟩
    | _ => exact absurd trivial hop

theorem channelDemands_subset (m : StdMap Int32 DirectChannel) {op : SensorOp} (hop : ¬ Wakes op) :
    channelDemands (channelsAfter m op) ⊆ channelDemands m := by
  rintro q ⟨handle, channel, hm, hen, hq⟩
  refine ⟨handle, channel, ?_, hen, hq⟩
  cases op with
  | batch p l => exact hm
  | activate e => exact hm
  | addDirectChannel k p => exact absurd trivial hop
  | stopDirectChannel k =>
    rw [channelsAfter] at hm
    split at hm
    · rw [StdMap.getElem?_insert_eq] at hm
      split at hm
      · obtain rfl := Option.some.inj hm
        cases hen
      · exact hm
    · exact hm
  | removeDirectChannel k =>
    rw [channelsAfter, StdMap.getElem?_erase_eq] at hm
    split at hm
    · cases hm
    · exact hm

theorem not_mem_of_not_wakes {s : Sensor} (h : Inv s) {op : SensorOp} (hop : ¬ Wakes op) :
    .activate true ∉ (s.exec op).2 := by
  intro hm
  by_cases hchannel : op.OnChannel
  · rw [exec_channel s op hchannel] at hm
    obtain ⟨⟨hne, -⟩, hany⟩ := mem_updateDirectChannel.1 hm
    have hafter := (anyChannelEnabled_iff _).1 hany.symm
    exact hne ((h.enabled.2 (hafter.mono (channelDemands_subset s.mDirectChannels hop))).trans hany)
  · cases op with
    | batch p l => exact not_mem_batch s p l true hm
    | activate e => exact hop (mem_activate.1 hm).2.symm
    | _ => exact absurd trivial hchannel

/-- A sensor that comes into use is switched on. -/
theorem inUse_or_on_exec {s : Sensor} {op : SensorOp} (h : (s.exec op).1.InUse) :
    s.InUse ∨ .activate true ∈ (s.exec op).2 := by
  by_cases hchannel : op.OnChannel
  · rw [exec_channel s op hchannel] at h ⊢
    rcases h with hen | hany
    · rw [updateDirectChannel_isEnabled] at hen
      exact Or.inl (Or.inl hen)
    · rw [updateDirectChannel_enabled] at hany
      rw [mem_updateDirectChannel]
      dsimp only at hany ⊢
      rw [hany]
      unfold InUse
      cases s.mIsEnabled <;> cases s.mDirectChannelEnabled <;> simp
  · cases op with
    | batch p l => exact Or.inl h
    | activate e =>
      rw [mem_activate]
      unfold exec activate InUse at h
      unfold InUse
      dsimp only at h
      split at h
      · cases e <;> simp_all
      · exact Or.inl h
    | _ => exact absurd trivial hchannel

end Sensor

/-! ## The switches of the cores -/

namespace Fleet

open ChannelPower (step_power)

/-- An operation switches the instance the way it says, or not at all. -/
theorem enabled_step (devices : Devices) (f : Fleet) (op : SensorId × CoreOp) (h : Inv devices f) (enable : Bool)
    (hop : ∀ type, op.2 ≠ .activateByType type (!enable)) (id : SensorId) :
    ((f.step op).cores id).mIsEnabled = (f.cores id).mIsEnabled ∨ ((f.step op).cores id).mIsEnabled = enable := by
  have hbefore := h.isEnabled_iff id
  have hafter := (inv_step devices f op h).isEnabled_iff id
  by_cases hid : id = op.1
  · subst hid
    rw [step_asked_self] at hafter
    obtain ⟨id, op⟩ := op
    cases op with
    | batchByType type p l => exact Or.inl (Bool.eq_iff_iff.2 (hafter.trans hbefore.symm))
    | activateByType type e =>
      obtain rfl : e = enable := by
        cases e <;> cases enable <;> first | rfl | exact absurd rfl (hop type)
      cases e with
      | true => exact Or.inr (hafter.2 ⟨type, by simp [CoreOp.ask]⟩)
      | false =>
        cases hen : ((f.step (id, .activateByType type false)).cores id).mIsEnabled with
        | false => exact Or.inr rfl
        | true =>
          obtain ⟨other, hother⟩ := hafter.1 hen
          refine Or.inl (hbefore.2 ⟨other, ?_⟩).symm
          by_cases hsame : other = type
          · subst hsame
            simp [CoreOp.ask] at hother
          · rwa [CoreOp.ask, Clients.activate_active_of_ne _ _ hsame] at hother
  · rw [step_asked_of_ne f op hid] at hafter
    exact Or.inl (Bool.eq_iff_iff.2 (hafter.trans hbefore.symm))

/-- **Operations that switch one way** write that value to the channels of the instances that they switch, and leave the
other channels as they are. -/
theorem power_run (devices : Devices) (enable : Bool) : ∀ (ops : List (SensorId × CoreOp)) (f : Fleet),
    Inv devices f → (∀ op ∈ ops, ∀ type, op.2 ≠ .activateByType type (!enable)) →
    let f' := run Fleet.step f ops
    (∀ id, (f'.cores id).mIsEnabled = (f.cores id).mIsEnabled ∨ (f'.cores id).mIsEnabled = enable) ∧
      ∀ ch : Channel,
        ((∀ id, id.channel = some ch → (f'.cores id).mIsEnabled = (f.cores id).mIsEnabled) →
          lastWritten f'.sysfs (devices.path ch.driverName) ch.powerFile =
            lastWritten f.sysfs (devices.path ch.driverName) ch.powerFile) ∧
        ∀ id, id.channel = some ch → (f'.cores id).mIsEnabled ≠ (f.cores id).mIsEnabled →
          lastWritten f'.sysfs (devices.path ch.driverName) ch.powerFile = some (ch.power enable)
  | [], f, _, _ => ⟨fun _ => Or.inl rfl, fun _ => ⟨fun _ => rfl, fun _ _ hne => absurd rfl hne⟩⟩
  | op :: ops, f, h, hops => by
    obtain ⟨hop, hrest⟩ := List.forall_mem_cons.1 hops
    have hone := enabled_step devices f op h enable hop
    obtain ⟨hway, hpower⟩ := power_run devices enable ops (f.step op) (inv_step devices f op h) hrest
    have hwritten := step_power devices f op h
    dsimp only at hway hpower ⊢
    rw [Run.run_cons]
    refine ⟨fun id => ?_, fun ch => ⟨fun hsame => ?_, fun id hch hne => ?_⟩⟩
    · rcases hway id with hlater | hlater
      · rw [hlater]
        exact hone id
      · exact Or.inr hlater
    · -- an instance that the operation had switched would still be so
      have hstep : ∀ id, id.channel = some ch → ((f.step op).cores id).mIsEnabled = (f.cores id).mIsEnabled := by
        intro id hch
        rcases hone id with heq | heq
        · exact heq
        · rcases hway id with hlater | hlater
          · exact hlater.symm.trans (hsame id hch)
          · exact heq.trans (hlater.symm.trans (hsame id hch))
      rw [(hpower ch).1 fun id hch => (hsame id hch).trans (hstep id hch).symm, hwritten ch,
        if_neg fun hboth => hboth.2 (hstep op.1 hboth.1)]
    · by_cases hlater : ∃ other, other.channel = some ch ∧
          ((run Fleet.step (f.step op) ops).cores other).mIsEnabled ≠ ((f.step op).cores other).mIsEnabled
      · obtain ⟨other, hother, hdiff⟩ := hlater
        exact (hpower ch).2 other hother hdiff
      · have hquiet : ∀ other, other.channel = some ch →
            ((run Fleet.step (f.step op) ops).cores other).mIsEnabled = ((f.step op).cores other).mIsEnabled :=
          fun other hother => Decidable.not_not.1 fun hdiff => hlater ⟨other, hother, hdiff⟩
        have hstep : ((f.step op).cores id).mIsEnabled ≠ (f.cores id).mIsEnabled := fun heq =>
          hne ((hquiet id hch).trans heq)
        have hid : id = op.1 := by
          by_contra hother
          refine hstep (Bool.eq_iff_iff.2 ?_)
          rw [(inv_step devices f op h).isEnabled_iff, h.isEnabled_iff, step_asked_of_ne f op hother]
        subst hid
        rw [(hpower ch).1 hquiet, hwritten ch, if_pos ⟨hch, hstep⟩, (hone op.1).resolve_left hstep]

end Fleet

/-! ## The channels of the HAL -/

namespace Aidl

open Sensor (lastActivate)

/-- What operations add to the calls of a sensor. -/
theorem HalSensor.calls_run : ∀ (ops : List SensorOp) (sensor : HalSensor),
    ∃ new, (run HalSensor.exec sensor ops).history.calls = sensor.history.calls ++ new ∧
      ((run HalSensor.exec sensor ops).history.sensor.InUse →
        sensor.history.sensor.InUse ∨ .activate true ∈ new)
  | [], sensor => ⟨[], (List.append_nil _).symm, Or.inl⟩
  | op :: ops, sensor => by
    obtain ⟨new, hcalls, huse⟩ := HalSensor.calls_run ops (sensor.exec op)
    refine ⟨(sensor.history.sensor.exec op).2 ++ new, hcalls.trans (List.append_assoc _ _ _), fun hafter => ?_⟩
    rcases huse hafter with honce | hlater
    · exact (Sensor.inUse_or_on_exec honce).imp_right (List.mem_append_left _)
    · exact Or.inr (List.mem_append_right _ hlater)

namespace SensorHardware

open Shipped (sensorCalls Wakes)

theorem mem_sensorCalls_execAt {mSensors : StdMap Int32 HalSensor} {k : Int32} {op : SensorOp} {c : Int32 × SensorCall}
    (hc : c ∈ sensorCalls (Sensors.execAt mSensors k op).2) :
    ∃ sensor, mSensors[k]? = some sensor ∧ c.2 ∈ (sensor.history.sensor.exec op).2 := by
  unfold Sensors.execAt at hc
  split at hc
  · rename_i sensor hsensor
    rw [sensorCalls_map] at hc
    obtain ⟨call, hcall, rfl⟩ := List.mem_map.1 hc
    exact ⟨sensor, hsensor, hcall⟩
  · cases hc

/-- Every sensor has its invariant. -/
def Sound (mSensors : StdMap Int32 HalSensor) : Prop :=
  ∀ (k : Int32) (sensor : HalSensor), mSensors[k]? = some sensor → Sensor.Inv sensor.history.sensor

theorem sound_execAt {mSensors : StdMap Int32 HalSensor} (h : Sound mSensors) (k : Int32) (op : SensorOp) :
    Sound (Sensors.execAt mSensors k op).1 := by
  intro j sensor hj
  rw [Sensors.execAt_getElem?] at hj
  split at hj
  · obtain ⟨old, hold, rfl⟩ := Option.map_eq_some_iff.1 hj
    exact HalSensor.inv_exec op (h j old hold)
  · exact h j sensor hj

theorem not_on_execEach : ∀ (ops : List (Int32 × SensorOp)) {mSensors : StdMap Int32 HalSensor}, Sound mSensors →
    (∀ op ∈ ops, ¬ Wakes op.2) → ∀ c ∈ sensorCalls (Sensors.execEach mSensors ops).2, c.2 ≠ .activate true
  | [], _, _, _, _, hc => by cases hc
  | (k, op) :: ops, mSensors, h, hops, c, hc => by
    obtain ⟨hop, hrest⟩ := List.forall_mem_cons.1 hops
    have hsplit : (Sensors.execEach mSensors ((k, op) :: ops)).2 =
        (Sensors.execAt mSensors k op).2 ++ (Sensors.execEach (Sensors.execAt mSensors k op).1 ops).2 := rfl
    rw [hsplit, Shipped.sensorCalls_append] at hc
    rcases List.mem_append.1 hc with hfirst | hlater
    · obtain ⟨sensor, hsensor, hm⟩ := mem_sensorCalls_execAt hfirst
      rintro heq
      rw [heq] at hm
      exact Sensor.not_mem_of_not_wakes (h k sensor hsensor) hop hm
    · exact not_on_execEach ops (sound_execAt h k op) hrest c hlater

/-- **The calls of a step switch one way**: all on, or all off. -/
theorem oneWay_step (s : SensorsHalAidl) (op : HalOp) (h : Sound s.mSensors) :
    ∃ enable : Bool, ∀ c ∈ sensorCalls (s.exec op).2.2, c.2 ≠ .activate (!enable) := by
  obtain ⟨ops, ⟨-, hcalls, hsingle⟩, -⟩ := Shipped.sensors_step s op
  rw [hcalls]
  rcases hsingle with hone | hnone
  · match ops, hone with
    | [], _ => exact ⟨true, fun c hc => by cases hc⟩
    | [(k, sensorOp)], _ =>
      rw [← Sensors.execAt_eq_execEach]
      cases hk : s.mSensors[k]? with
      | none =>
        refine ⟨true, fun c hc => ?_⟩
        obtain ⟨sensor, hsensor, -⟩ := mem_sensorCalls_execAt hc
        rw [hk] at hsensor
        cases hsensor
      | some sensor =>
        obtain ⟨enable, hway⟩ := Sensor.oneWay_exec sensor.history.sensor sensorOp
        refine ⟨enable, fun c hc heq => hway ?_⟩
        obtain ⟨other, hother, hm⟩ := mem_sensorCalls_execAt hc
        obtain rfl := Option.some.inj (hk.symm.trans hother)
        rwa [heq] at hm
  · exact ⟨false, not_on_execEach ops h hnone⟩

/-- The calls of a step on the available sensors. -/
def Board.calls (bus : IioBus) (w : Board) (op : HalOp) : List (AvailableSensor × SensorCall) :=
  made bus (sensorCalls (w.hal.exec op).2.2)

theorem Board.step_log (bus : IioBus) (w : Board) (op : HalOp) : (w.step bus op).log = w.log ++ w.calls bus op := rfl

/-- **A channel is on exactly while a sensor is in use** that is computed from it. -/
def PoweredInUse (bus : IioBus) (w : Board) : Prop :=
  ∀ ch, ChannelPower.PoweredOn bus.devices w.fleet ch ↔ InUseOn bus w ch

/-- The step stops no instance of a channel that stays in use. -/
def KeepsPower (bus : IioBus) (w : Board) (op : HalOp) : Prop :=
  ∀ (ch : Channel) (id : SensorId), id.channel = some ch → (w.fleet.cores id).mIsEnabled = true →
    ((w.step bus op).fleet.cores id).mIsEnabled = false → ¬ InUseOn bus (w.step bus op) ch

theorem lastActivate_of_mem {calls : List SensorCall} (hon : .activate true ∈ calls)
    (hoff : .activate false ∉ calls) : lastActivate calls = some true := by
  have hall : ∀ e ∈ calls.filterMap Sensor.activate?, e = true := by
    intro e he
    obtain ⟨call, hm, hcall⟩ := List.mem_filterMap.1 he
    cases call with
    | activate enable =>
      obtain rfl := Option.some.inj hcall
      cases enable with
      | true => rfl
      | false => exact absurd hm hoff
    | batch _ _ => cases hcall
    | sendAdditionalInfoReport => cases hcall
  have hmem : true ∈ calls.filterMap Sensor.activate? := List.mem_filterMap.2 ⟨_, hon, rfl⟩
  cases hlast : lastActivate calls with
  | none =>
    rw [List.getLast?_eq_none_iff.1 hlast] at hmem
    cases hmem
  | some e => rw [hall e (List.mem_of_getLast? hlast)]

theorem operations_oneWay (bus : IioBus) (w : Board) (op : HalOp) {enable : Bool}
    (hway : ∀ c ∈ sensorCalls (w.hal.exec op).2.2, c.2 ≠ .activate (!enable)) :
    (∀ c ∈ w.calls bus op, c.2 ≠ .activate (!enable)) ∧
      ∀ coreOp ∈ (w.calls bus op).flatMap fun c => c.1.operations c.2,
        ∀ type, coreOp.2 ≠ .activateByType type (!enable) := by
  have hcalls : ∀ c ∈ w.calls bus op, c.2 ≠ .activate (!enable) := by
    intro c hc
    obtain ⟨call, hm, hsome⟩ := List.mem_filterMap.1 hc
    obtain ⟨a, -, rfl⟩ := Option.map_eq_some_iff.1 hsome
    exact hway call hm
  refine ⟨hcalls, fun coreOp hm type heq => ?_⟩
  obtain ⟨⟨a, call⟩, hc, hop⟩ := List.mem_flatMap.1 hm
  rcases (AvailableSensor.mem_operations hop).2 with ⟨e, rfl, hactivate⟩ | ⟨p, l, rfl, hbatch⟩
  · cases hactivate.symm.trans heq
    exact hcalls _ hc rfl
  · cases hbatch.symm.trans heq

section Step

variable {shipping : Shipping} {bus : IioBus} {w : Board} (h : Inv shipping bus w) (op : HalOp)
include h

/-- A sensor that comes into use is switched on. -/
theorem inUse_or_on {k : Int32} {sensor : HalSensor} {a : AvailableSensor}
    (hk : (w.step bus op).hal.mSensors[k]? = some sensor) (ha : mSensorOf bus k = some a)
    (huse : sensor.history.sensor.InUse) :
    (∃ old, w.hal.mSensors[k]? = some old ∧ old.history.sensor.InUse) ∨ (a, .activate true) ∈ w.calls bus op := by
  obtain ⟨b, hb, hafter⟩ := (inv_step w op h).logged.calls k sensor hk
  obtain rfl := Option.some.inj (ha.symm.trans hb)
  obtain ⟨old, sensorOps, hold, rfl⟩ := (effect_step w.hal op).sensor hk
  obtain ⟨c, hc, hbefore⟩ := h.logged.calls k old hold
  obtain rfl := Option.some.inj (ha.symm.trans hc)
  obtain ⟨new, hcalls, hon⟩ := HalSensor.calls_run sensorOps old
  have hnew : new = callsOn a (w.calls bus op) := by
    rw [Board.step_log, callsOn_append, ← hbefore] at hafter
    exact List.append_cancel_left (hcalls.symm.trans hafter)
  rcases hon huse with hused | hm
  · exact Or.inl ⟨old, hold, hused⟩
  · rw [hnew] at hm
    exact Or.inr (mem_callsOn.1 hm)

/-- A sensor that is switched on, and not off, has its instances running. -/
theorem enabled_of_on {a : AvailableSensor} {id : SensorId} (hid : id ∈ a.cores)
    (hon : (a, .activate true) ∈ w.calls bus op) (hoff : ∀ c ∈ w.calls bus op, c.2 ≠ .activate false) :
    ((w.step bus op).fleet.cores id).mIsEnabled = true := by
  have hafter := inv_step w op h
  refine ((inv_fleet hafter).isEnabled_iff id).2 ⟨a.type, ?_⟩
  have hlast := lastActivate_of_mem (mem_callsOn.2 hon) fun hm => hoff _ (mem_callsOn.1 hm) rfl
  have hactive : lastActivate (callsOn a (w.step bus op).log) = some true := by
    unfold lastActivate at hlast ⊢
    rw [Board.step_log, callsOn_append, Run.lastOf_append, hlast]
    rfl
  rw [(called hafter).active a id hid, hactive]
  rfl

/-- A channel with a running instance is in use. -/
theorem inUseOn_of_enabled {ch : Channel} {id : SensorId} (hch : id.channel = some ch)
    (hen : (w.fleet.cores id).mIsEnabled = true) : InUseOn bus w ch := by
  obtain ⟨type, hactive⟩ := ((inv_fleet h).isEnabled_iff id).1 hen
  obtain ⟨k, sensor, a, hk, ha, hid, hlast⟩ := exists_of_active h.logged (called h) hactive
  exact ⟨k, sensor, a, id, hk, ha, hid, hch, h.settled k sensor hk hlast⟩

/-- **One step keeps the channels right exactly when it is a `KeepsPower` step.** -/
theorem poweredInUse_step_iff (hsound : Sound w.hal.mSensors) (hp : PoweredInUse bus w) :
    PoweredInUse bus (w.step bus op) ↔ KeepsPower bus w op := by
  obtain ⟨enable, hhal⟩ := oneWay_step w.hal op hsound
  obtain ⟨hway, hops⟩ := operations_oneWay bus w op hhal
  obtain ⟨hswitch, hpower⟩ := Fleet.power_run bus.devices enable _ w.fleet (inv_fleet h) hops
  have hleft := neverLeftOn_of_inv (inv_step w op h)
  cases enable with
  | false =>
    constructor
    · intro hafter ch id hch hran hstopped huse
      have hoff := (hpower ch).2 id hch fun heq => Bool.false_ne_true (hstopped.symm.trans (heq.trans hran))
      exact ChannelPower.power_true_ne_false ch (Option.some.inj (hoff.symm.trans ((hafter ch).2 huse)))
    · intro hkeep ch
      refine ⟨hleft ch, fun huse => ?_⟩
      have hquiet : ∀ id : SensorId, id.channel = some ch →
          ((w.step bus op).fleet.cores id).mIsEnabled = (w.fleet.cores id).mIsEnabled := by
        intro id hch
        rcases hswitch id with heq | hoff
        · exact heq
        · cases hran : (w.fleet.cores id).mIsEnabled with
          | false => exact hoff
          | true => exact absurd huse (hkeep ch id hch hran hoff)
      obtain ⟨k, sensor, a, id, hk, ha, hid, hch, hused⟩ := huse
      rcases inUse_or_on h op hk ha hused with ⟨old, hold, hbefore⟩ | hon
      · exact ((hpower ch).1 hquiet).trans ((hp ch).2 ⟨k, old, a, id, hold, ha, hid, hch, hbefore⟩)
      · exact absurd rfl (hway _ hon)
  | true =>
    refine iff_of_true (fun ch => ⟨hleft ch, fun huse => ?_⟩) fun ch id hch hran hstopped _ => ?_
    · by_cases hstarted : ∃ id : SensorId, id.channel = some ch ∧
          ((w.step bus op).fleet.cores id).mIsEnabled ≠ (w.fleet.cores id).mIsEnabled
      · obtain ⟨id, hch, hdiff⟩ := hstarted
        exact (hpower ch).2 id hch hdiff
      · have hquiet : ∀ id : SensorId, id.channel = some ch →
            ((w.step bus op).fleet.cores id).mIsEnabled = (w.fleet.cores id).mIsEnabled :=
          fun id hch => Decidable.not_not.1 fun hdiff => hstarted ⟨id, hch, hdiff⟩
        refine ((hpower ch).1 hquiet).trans ((hp ch).2 ?_)
        obtain ⟨k, sensor, a, id, hk, ha, hid, hch, hused⟩ := huse
        rcases inUse_or_on h op hk ha hused with ⟨old, hold, hbefore⟩ | hon
        · exact ⟨k, old, a, id, hold, ha, hid, hch, hbefore⟩
        · exact inUseOn_of_enabled h hch ((hquiet id hch).symm.trans (enabled_of_on h op hid hon hway))
    · rcases hswitch id with heq | hon
      · exact Bool.false_ne_true (hstopped.symm.trans (heq.trans hran))
      · exact Bool.false_ne_true (hstopped.symm.trans hon)

end Step

/-- **The power of the channels along a run of the HAL.** -/
theorem along_poweredInUse_iff (shipping : Shipping) (bus : IioBus) (timeoutSeconds : UInt32) (ops : List HalOp) :
    Along (Board.step bus) (PoweredInUse bus) (.start shipping timeoutSeconds bus) ops ↔
      Steps (Board.step bus) (KeepsPower bus) (.start shipping timeoutSeconds bus) ops := by
  refine Run.along_iff_steps' (I := fun w => Inv shipping bus w ∧ Agree w.hal)
    (fun w op hw => ⟨inv_step w op hw.1, agree_step w.hal op hw.2⟩)
    (fun w op hw hp => poweredInUse_step_iff hw.1 op hw.2.inv hp) ops
    ⟨inv_start shipping timeoutSeconds bus, agree_construct timeoutSeconds (shipping.addSensors bus)⟩
    fun ch => iff_of_false (fun hnever => by cases hnever) ?_
  rintro ⟨k, sensor, a, id, hk, -, -, -, hused⟩
  obtain ⟨-, hfresh⟩ := construct_sensors timeoutSeconds (shipping.addSensors bus) hk
  rw [hfresh] at hused
  rcases hused with hon | hon <;> cases hon

def oneSmi330 : IioBus where
  entries := some ["iio:device0"]
  file path := if path = iioPath ++ "iio:device0/name" then some "smi330".toList else none

/-- The framework activates the two accelerometers of the SMI330, then deactivates the calibrated one. -/
def accelerometersOnOneOff : List HalOp :=
  let r : ReportInput := ⟨none, fun _ => 0, ⟨0, 0, true, true⟩⟩
  [.activate 1 true r, .activate 3 true r, .activate 1 false r]

/-- The uncalibrated accelerometer is still activated, and its channel is off. -/
example : ¬ Along (Board.step oneSmi330) (PoweredInUse oneSmi330) (.start ⟨fun _ _ => none, fun _ => 0⟩ 1 oneSmi330)
    accelerometersOnOneOff := by
  intro h
  let w := run (Board.step oneSmi330) (.start ⟨fun _ _ => none, fun _ => 0⟩ 1 oneSmi330) accelerometersOnOneOff
  have hsensor : (w.hal.mSensors[(3 : Int32)]?).map (·.history.sensor.mIsEnabled) = some true := by decide +kernel
  have hserved : mSensorOf oneSmi330 3 = some (.core .smi330AccUncalibrated) := by decide +kernel
  have hoff : lastWritten w.fleet.sysfs (oneSmi330.devices.path "smi330") "in_accel_en" = some "0" := by decide +kernel
  obtain ⟨sensor, hk, hen⟩ := Option.map_eq_some_iff.1 hsensor
  have hon := (h.last .smi330Accel).2
    ⟨3, sensor, _, .smi330AccUncalibrated, hk, hserved, List.mem_singleton_self _, rfl, Or.inl hen⟩
  exact absurd (hoff.symm.trans hon) (by decide)

end SensorHardware
end Aidl
end MemsHal
