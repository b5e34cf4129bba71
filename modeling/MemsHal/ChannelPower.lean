import MemsHal.Run
import MemsHal.SensorList
/-!
# ChannelPower — the power switch of a physical channel

Every instance counts its own enabled types and writes the power attribute of its channel when it starts or stops,
while the attribute is shared with the other instance of the channel.  The attribute follows the use of the channel
as long as no instance stops while the other one runs (`along_powerFollowsUse_iff`).
-/
namespace MemsHal

/-- The physical channels that have a power attribute. -/
inductive Channel
  | smi330Accel
  | smi330Gyro
  | smi230Accel
  | smi230Gyro
  deriving DecidableEq, Repr

def SensorId.channel : SensorId → Option Channel
  | .smi330Acc | .smi330AccUncalibrated   => some .smi330Accel
  | .smi330Gyro | .smi330GyroUncalibrated => some .smi330Gyro
  | .smi230Acc | .smi230AccUncalibrated   => some .smi230Accel
  | .smi230Gyro | .smi230GyroUncalibrated => some .smi230Gyro
  | _                                     => none

def Channel.driverName : Channel → String
  | .smi330Accel | .smi330Gyro => "smi330"
  | .smi230Accel               => "smi230acc"
  | .smi230Gyro                => "smi230gyro"

def Channel.powerFile : Channel → String
  | .smi330Accel              => "in_accel_en"
  | .smi330Gyro               => "in_anglvel_en"
  | .smi230Accel | .smi230Gyro => "pwr"

/-- What is written to switch the channel on or off. -/
def Channel.power : Channel → Bool → String
  | .smi330Accel, enable | .smi330Gyro, enable => if enable then "3" else "0"
  | .smi230Accel, enable | .smi230Gyro, enable => if enable then "normal" else "suspend"

namespace ChannelPower

open Run (Along Steps)

/-- What was written last to the power attribute of the channel is its 'on' value; all writes succeed, and an attribute
that nobody has written counts as off. -/
def PoweredOn (devices : Devices) (f : Fleet) (ch : Channel) : Prop :=
  lastWritten f.sysfs (devices.path ch.driverName) ch.powerFile = some (ch.power true)

/-- Some type is enabled on some instance of the channel. -/
def Used (f : Fleet) (ch : Channel) : Prop := ∃ id : SensorId, id.channel = some ch ∧ (f.asked id).Running

/-- **A channel is powered exactly while it is used.** -/
def PowerFollowsUse (devices : Devices) (f : Fleet) : Prop := ∀ ch, PoweredOn devices f ch ↔ Used f ch

/-- The operation does not disable the last type of an instance while another instance of its channel has an enabled
type. -/
def KeepsPower (f : Fleet) (op : SensorId × CoreOp) : Prop :=
  (f.asked op.1).Running → ¬ (op.2.ask (f.asked op.1)).Running →
    ∀ ch, op.1.channel = some ch → ∀ other, other ≠ op.1 → other.channel = some ch → ¬ (f.asked other).Running

theorem power_true_ne_false (ch : Channel) : ch.power false ≠ ch.power true := by
  cases ch <;> decide

theorem powerFile_ne_odr (ch : Channel) : Smi330Imu.mSysfsOdr ≠ ch.powerFile := by
  cases ch <;> decide

theorem lastWritten_updateSamplingRate (imu : Smi330Imu) (device device' : String) {file : String}
    (hfile : Smi330Imu.mSysfsOdr ≠ file) : lastWritten (imu.updateSamplingRate device) device' file = none := by
  unfold Smi330Imu.updateSamplingRate
  split
  · rfl
  · rw [lastWritten_cons, if_neg (fun h => hfile h.2)]; rfl

theorem lastWritten_setSamplingRate (id : SensorId) (imu : Smi330Imu) (p : Int) (device device' : String)
    (ch : Channel) : lastWritten (setSamplingRate id device imu p).2 device' ch.powerFile = none := by
  unfold setSamplingRate
  split
  · exact lastWritten_updateSamplingRate _ device device' (powerFile_ne_odr ch)
  · rfl

/-- **`setPowerMode` writes the power attribute of its own channel, and of no other.** -/
theorem lastWritten_setPowerMode (devices : Devices) (id : SensorId) (imu : Smi330Imu) (enable : Bool) (ch : Channel) :
    lastWritten (setPowerMode id (devices.path id.data.driverName) imu enable).2 (devices.path ch.driverName)
      ch.powerFile = if id.channel = some ch then some (ch.power enable) else none := by
  have hodr : ∀ (imu : Smi330Imu) (d d' : String), lastWritten (imu.updateSamplingRate d) d' ch.powerFile = none :=
    fun imu d d' => lastWritten_updateSamplingRate imu d d' (powerFile_ne_odr ch)
  have hne := devices.distinct
  have hne' := devices.distinct.symm
  have hscale : lastWritten (if enable then Smi330Gyro.setScale (devices.path "smi330") else [])
      (devices.path ch.driverName) ch.powerFile = none := by
    cases enable
    · rfl
    · cases ch <;> simp [Smi330Gyro.setScale, lastWritten_cons, Channel.powerFile]
  cases id <;>
    simp only [setPowerMode, Smi330Imu.setPowerMode, Smi230Acc.setPowerMode, Smi230Gyro.setPowerMode,
      lastWritten_append, lastWritten_cons, lastWritten_nil, hodr, SensorId.data, smi330Gyro, smi330GyroUncalibrated,
      hscale] <;>
    cases ch <;>
    simp [Smi330Imu.mSysfsPowerMode, SensorId.channel, Channel.powerFile, Channel.driverName,
      Channel.power, smi330Acc, smi330AccUncalibrated, smi230Acc, smi230AccUncalibrated, smi230Gyro,
      smi230GyroUncalibrated, hne, hne']

/-- What a step does to the power attribute of a channel: nothing, unless the instance starts or stops. -/
theorem step_power (devices : Devices) (f : Fleet) (op : SensorId × CoreOp) (h : Fleet.Inv devices f) (ch : Channel) :
    lastWritten (f.step op).sysfs (devices.path ch.driverName) ch.powerFile =
      if op.1.channel = some ch ∧ ((f.step op).cores op.1).mIsEnabled ≠ (f.cores op.1).mIsEnabled then
        some (ch.power ((f.step op).cores op.1).mIsEnabled)
      else lastWritten f.sysfs (devices.path ch.driverName) ch.powerFile := by
  obtain ⟨id, op⟩ := op
  have hcore : ((f.step (id, op)).cores id) = ((f.cores id).exec op).1 := by
    simp [Fleet.step]
  have hdev : ((f.cores id).exec op).1.mDevice = devices.path id.data.driverName := by
    rw [SensorCore.exec_device, h.device]
  have hsys : (f.step (id, op)).sysfs =
      f.sysfs ++ (runCalls id (devices.path id.data.driverName) f.imu ((f.cores id).exec op).2).2 := by
    rw [← hdev]; rfl
  rw [hcore, hsys, lastWritten_append]
  cases op with
  | batchByType t q l =>
    obtain ⟨hsame, p, -, hcalls⟩ := SensorCore.exec_batchByType (f.cores id) t q l
    rw [hcalls, if_neg (fun hc => hc.2 hsame)]
    simp only [runCalls, DriverCall.run, List.append_nil, lastWritten_setSamplingRate, Option.none_or]
  | activateByType t e =>
    rcases (SensorCore.exec_activateByType (f.cores id) t e).2 with ⟨hsame, hcalls⟩ | ⟨hdiff, p, -, hcalls⟩
    · rw [hcalls, if_neg (fun hc => hc.2 hsame)]
      simp only [runCalls, lastWritten_nil, Option.none_or]
    · rw [hcalls]
      simp only [runCalls, DriverCall.run, List.append_nil, lastWritten_append, lastWritten_setSamplingRate,
        Option.none_or, lastWritten_setPowerMode]
      by_cases hch : id.channel = some ch
      · rw [if_pos hch, if_pos ⟨hch, hdiff⟩]; rfl
      · rw [if_neg hch, if_neg (fun hc => hch hc.1)]; rfl

/-- Other channels are used after a step as before it. -/
theorem used_step_of_channel_ne (f : Fleet) (op : SensorId × CoreOp) {ch : Channel} (hch : op.1.channel ≠ some ch) :
    Used (f.step op) ch ↔ Used f ch := by
  refine exists_congr (fun id => and_congr_right (fun hid => ?_))
  rw [Fleet.step_asked_of_ne f op (fun he => hch (he ▸ hid))]

/-- A step that neither starts nor stops its instance changes no channel's use. -/
theorem used_step_of_same (f : Fleet) (op : SensorId × CoreOp) (ch : Channel)
    (hsame : (op.2.ask (f.asked op.1)).Running ↔ (f.asked op.1).Running) : Used (f.step op) ch ↔ Used f ch := by
  refine exists_congr (fun id => and_congr_right (fun _ => ?_))
  by_cases hid : id = op.1
  · subst hid; rw [Fleet.step_asked_self, hsame]
  · rw [Fleet.step_asked_of_ne f op hid]

/-- A channel whose instance has just stopped is used by the other instances or not at all. -/
theorem used_step_of_stop (f : Fleet) (op : SensorId × CoreOp) (ch : Channel)
    (hstop : ¬ (op.2.ask (f.asked op.1)).Running) :
    Used (f.step op) ch ↔ ∃ other, other ≠ op.1 ∧ other.channel = some ch ∧ (f.asked other).Running := by
  constructor
  · rintro ⟨id, hid, hr⟩
    by_cases he : id = op.1
    · subst he; rw [Fleet.step_asked_self] at hr; exact absurd hr hstop
    · rw [Fleet.step_asked_of_ne f op he] at hr
      exact ⟨id, he, hid, hr⟩
  · rintro ⟨other, hne, hoch, hr⟩
    exact ⟨other, hoch, by rw [Fleet.step_asked_of_ne f op hne]; exact hr⟩

/-- On a channel the step does not write, power follows use as before. -/
theorem poweredOn_step_of_not_written (devices : Devices) (f : Fleet) (op : SensorId × CoreOp)
    (h : Fleet.Inv devices f) (ch : Channel)
    (hno : ¬ (op.1.channel = some ch ∧ ((f.step op).cores op.1).mIsEnabled ≠ (f.cores op.1).mIsEnabled)) :
    PoweredOn devices (f.step op) ch ↔ PoweredOn devices f ch := by
  unfold PoweredOn
  rw [step_power devices f op h ch, if_neg hno]

/-- **One step keeps the power right exactly when it is a `KeepsPower` step.** -/
theorem powerFollowsUse_step_iff (devices : Devices) (f : Fleet) (op : SensorId × CoreOp) (h : Fleet.Inv devices f)
    (hp : PowerFollowsUse devices f) : PowerFollowsUse devices (f.step op) ↔ KeepsPower f op := by
  have hbefore := h.isEnabled_iff op.1
  have hafter := (Fleet.inv_step devices f op h).isEnabled_iff op.1
  rw [Fleet.step_asked_self] at hafter
  have hothers : ∀ ch, op.1.channel ≠ some ch → (PoweredOn devices (f.step op) ch ↔ Used (f.step op) ch) := by
    intro ch hch
    rw [poweredOn_step_of_not_written devices f op h ch (fun hc => hch hc.1), used_step_of_channel_ne f op hch]
    exact hp ch
  by_cases hsame : ((f.step op).cores op.1).mIsEnabled = (f.cores op.1).mIsEnabled
  · have hrun : (op.2.ask (f.asked op.1)).Running ↔ (f.asked op.1).Running := by rw [← hafter, hsame, hbefore]
    refine iff_of_true (fun ch => ?_) (fun hb ha => absurd (hrun.2 hb) ha)
    rw [poweredOn_step_of_not_written devices f op h ch (fun hc => hc.2 hsame), used_step_of_same f op ch hrun]
    exact hp ch
  · cases hen : ((f.step op).cores op.1).mIsEnabled with
    | true =>
      -- the instance starts: the 'on' value is written, and the instance runs
      have hrun := hafter.1 hen
      refine iff_of_true (fun ch => ?_) (fun _ ha => absurd hrun ha)
      by_cases hch : op.1.channel = some ch
      · refine iff_of_true ?_ ⟨op.1, hch, by rw [Fleet.step_asked_self]; exact hrun⟩
        unfold PoweredOn
        rw [step_power devices f op h ch, if_pos ⟨hch, hsame⟩, hen]
      · exact hothers ch hch
    | false =>
      -- the instance stops: the 'off' value is written, whoever else uses the channel
      have hstop : ¬ (op.2.ask (f.asked op.1)).Running := by rw [← hafter, hen]; exact Bool.false_ne_true
      have hran : (f.asked op.1).Running := by
        rw [← hbefore]
        exact Bool.eq_true_of_not_eq_false (fun hb => hsame (hen.trans hb.symm))
      have hoff : ∀ ch, op.1.channel = some ch → ¬ PoweredOn devices (f.step op) ch := by
        intro ch hch
        unfold PoweredOn
        rw [step_power devices f op h ch, if_pos ⟨hch, hsame⟩, hen, Option.some.injEq]
        exact power_true_ne_false ch
      constructor
      · intro hP _ _ ch hch other hne hoch hr
        exact hoff ch hch ((hP ch).2 ((used_step_of_stop f op ch hstop).2 ⟨other, hne, hoch, hr⟩))
      · intro hkeep ch
        by_cases hch : op.1.channel = some ch
        · refine iff_of_false (hoff ch hch) ?_
          rw [used_step_of_stop f op ch hstop]
          rintro ⟨other, hne, hoch, hr⟩
          exact hkeep hran hstop ch hch other hne hoch hr
        · exact hothers ch hch

/-- **The power of the shared channels along a run.** -/
theorem along_powerFollowsUse_iff (devices : Devices) (ops : List (SensorId × CoreOp)) :
    Along Fleet.step (PowerFollowsUse devices) (Fleet.fresh devices) ops ↔
      Steps Fleet.step KeepsPower (Fleet.fresh devices) ops := by
  refine Run.along_iff_steps' (Fleet.inv_step devices) (powerFollowsUse_step_iff devices) ops
    (Fleet.inv_fresh devices) (fun ch => iff_of_false (fun h => by cases h) ?_)
  rintro ⟨id, -, hr⟩
  exact Clients.not_running_none hr

/-- The calibrated and the uncalibrated SMI330 accelerometer are switched on, then the calibrated one is switched
off. -/
def bothOnOneOff : List (SensorId × CoreOp) :=
  [(.smi330Acc, .activateByType .accel true), (.smi330AccUncalibrated, .activateByType .accelUncalibrated true),
    (.smi330Acc, .activateByType .accel false)]

/-- **Switching one instance off powers down the channel the other one still uses.** -/
theorem not_along_powerFollowsUse_bothOnOneOff :
    ¬ Along Fleet.step (PowerFollowsUse Devices.byName) (Fleet.fresh Devices.byName) bothOnOneOff := by
  intro h
  have hon := (h.last .smi330Accel).2 ⟨.smi330AccUncalibrated, rfl, .accelUncalibrated, by decide⟩
  have hoff : lastWritten (Run.run Fleet.step (Fleet.fresh Devices.byName) bothOnOneOff).sysfs
      (Devices.byName.path "smi330") "in_accel_en" = some "0" := by
    decide
  exact absurd (hoff.symm.trans hon) (by decide)

end ChannelPower
end MemsHal
