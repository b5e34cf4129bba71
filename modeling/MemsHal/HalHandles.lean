import Mathlib.Data.List.Nodup
import MemsHal.HalTables
/-!
# HalHandles — the sensors that a direct channel lists

`configDirectReport` appends the sensor to the list of the channel whenever it sets a rate: also the rate 0 of `STOP`,
and also where the list has the sensor already.  So the lists stay bounded by the number of sensors exactly as long as
no sensor is configured twice (`along_bounded_iff`), and starting and stopping one sensor makes a list as long as one
likes (`sensorHandles_run`).
-/
namespace MemsHal
namespace Aidl
namespace HalHandles

open Run (run Along Steps)

/-- The channels list sensors of the HAL. -/
def Listed (s : SensorsHalAidl) : Prop :=
  s.mDirectChannels.All fun channel => ∀ k ∈ channel.sensorHandles, k ∈ s.mSensors

/-- No channel lists a sensor twice. -/
def NoneTwice (mDirectChannels : StdMap Int32 DirectChannelBase) : Prop :=
  mDirectChannels.All fun channel => channel.sensorHandles.Nodup

/-- **No channel lists a sensor twice**, nor more sensors than there are. -/
def Bounded (s : SensorsHalAidl) : Prop :=
  ∀ (c : Int32) (channel : DirectChannelBase), s.mDirectChannels[c]? = some channel →
    channel.sensorHandles.Nodup ∧ channel.sensorHandles.length ≤ s.mSensors.size

/-- The step sets no rate of a sensor on a channel that lists it. -/
def Fresh (s : SensorsHalAidl) : HalOp → Prop
  | .configDirectReport sensorHandle channelHandle rate => ∀ channel rateNs,
    Configures s sensorHandle channelHandle rate channel rateNs → sensorHandle ∉ channel.sensorHandles
  | _ => True

theorem bounded_iff {s : SensorsHalAidl} (h : Listed s) : Bounded s ↔ NoneTwice s.mDirectChannels := by
  constructor
  · exact fun hb c channel hc => (hb c channel hc).1
  · exact fun hn c channel hc => ⟨hn c channel hc, StdMap.length_le_size (hn c channel hc) (h c channel hc)⟩

/-! ## Steps -/

theorem Configures.unique {s : SensorsHalAidl} {sensorHandle channelHandle : Int32} {rate : RateLevel}
    {channel channel' : DirectChannelBase} {rateNs rateNs' : Int64}
    (h : Configures s sensorHandle channelHandle rate channel rateNs)
    (h' : Configures s sensorHandle channelHandle rate channel' rateNs') : channel' = channel :=
  Option.some.inj (h'.registered.symm.trans h.registered)

theorem mem_sensors_of_configures {s : SensorsHalAidl} {sensorHandle channelHandle : Int32} {rate : RateLevel}
    {channel : DirectChannelBase} {rateNs : Int64} (h : Configures s sensorHandle channelHandle rate channel rateNs) :
    sensorHandle ∈ s.mSensors := by
  obtain ⟨sensor, hsensor, -⟩ := h.supported
  rw [Std.ExtTreeMap.mem_iff_isSome_getElem?, hsensor]
  rfl

theorem listed_step (s : SensorsHalAidl) (op : HalOp) (h : Listed s) : Listed (s.step op) := by
  have hsensors : ∀ k, k ∈ (s.step op).mSensors ↔ k ∈ s.mSensors := (effect_step s op).mem_iff
  have hm := channels_step s op
  unfold Listed
  simp only [hsensors]
  generalize (s.step op).mDirectChannels = m at hm ⊢
  cases hm with
  | same => exact h
  | @configured sensorHandle channelHandle rate channel rateNs hconf =>
    refine (StdMap.all_insert_iff h _ _).2 fun k hk => ?_
    rcases List.mem_append.1 hk with hold | hnew
    · exact h channelHandle channel hconf.registered k hold
    · rw [List.mem_singleton.1 hnew]
      exact mem_sensors_of_configures hconf
  | @stopped channelHandle channel hc => exact (StdMap.all_insert_iff h _ _).2 (h channelHandle channel hc)
  | registered => exact StdMap.All.subscript h _ nofun
  | unregistered => exact StdMap.All.erase h _
  | cleared => exact StdMap.all_empty

theorem noneTwice_channelsAfter_iff {s : SensorsHalAidl} {op : HalOp} {m : StdMap Int32 DirectChannelBase}
    (h : NoneTwice s.mDirectChannels) (hm : ChannelsAfter s op m) : NoneTwice m ↔ Fresh s op := by
  cases hm with
  | same hnone =>
    refine iff_of_true h ?_
    cases op with
    | configDirectReport sensorHandle channelHandle rate =>
      exact fun channel rateNs hconf => absurd hconf (hnone _ _ _ _ _ rfl)
    | _ => trivial
  | @configured sensorHandle channelHandle rate channel rateNs hconf =>
    refine (StdMap.all_insert_iff h _ _).trans ?_
    dsimp only
    rw [← List.concat_eq_append, List.nodup_concat]
    constructor
    · rintro ⟨hnot, -⟩ channel' rateNs' hconf'
      rw [Configures.unique hconf hconf']
      exact hnot
    · exact fun hfresh => ⟨hfresh channel rateNs hconf, h channelHandle channel hconf.registered⟩
  | @stopped channelHandle channel hc =>
    exact iff_of_true ((StdMap.all_insert_iff h _ _).2 (h channelHandle channel hc)) fun _ _ hconf =>
      absurd ⟨rfl, rfl⟩ hconf.notAll
  | registered => exact iff_of_true (StdMap.All.subscript h _ List.nodup_nil) trivial
  | unregistered => exact iff_of_true (StdMap.All.erase h _) trivial
  | cleared => exact iff_of_true StdMap.all_empty trivial

theorem bounded_step_iff (s : SensorsHalAidl) (op : HalOp) (h : Listed s) (hb : Bounded s) :
    Bounded (s.step op) ↔ Fresh s op :=
  (bounded_iff (listed_step s op h)).trans
    (noneTwice_channelsAfter_iff ((bounded_iff h).1 hb) (channels_step s op))

/-! ## Runs -/

/-- **The lists of the channels stay bounded exactly as long as** no sensor is configured for a channel that lists
it. -/
theorem along_bounded_iff (timeoutSeconds : UInt32) (descriptions : List SensorDescription) (ops : List HalOp) :
    Along SensorsHalAidl.step Bounded (.construct timeoutSeconds descriptions) ops ↔
      Steps SensorsHalAidl.step Fresh (.construct timeoutSeconds descriptions) ops := by
  have hlisted : Listed (.construct timeoutSeconds descriptions) := StdMap.all_empty
  exact Run.along_iff_steps' listed_step bounded_step_iff ops hlisted ((bounded_iff hlisted).2 StdMap.all_empty)

/-- An accelerometer is started on a channel and stopped. -/
def startStop : List HalOp :=
  [.registerDirectChannel ⟨.ashmem, 1040⟩ ⟨true, 1040, false⟩, .configDirectReport 1 1 .normal,
    .configDirectReport 1 1 .stop]

/-- The channel lists it twice. -/
theorem not_along_bounded_startStop :
    ¬ Along SensorsHalAidl.step Bounded
      (.construct 1 [{ sensorHandle := 1, type := .accelerometer, flags := 0x480, delays := ⟨5000, 20000⟩ }])
      startStop := by
  intro h
  obtain ⟨hnodup, -⟩ := h.last 1 _ rfl
  exact absurd hnodup (by decide)

/-! ## Growth -/

/-- Once a sensor is on a channel, the next rates are set alike. -/
theorem configures_step {s : SensorsHalAidl} {sensorHandle channelHandle : Int32} {rate : RateLevel}
    {channel : DirectChannelBase} {rateNs : Int64} (h : Configures s sensorHandle channelHandle rate channel rateNs) :
    ∃ channel', channel'.sensorHandles = channel.sensorHandles ++ [sensorHandle] ∧
      ∀ rate' rateNs', Configures s sensorHandle channelHandle rate' channel rateNs' →
        Configures (s.step (.configDirectReport sensorHandle channelHandle rate)) sensorHandle channelHandle rate'
          channel' rateNs' := by
  have heffect := effect_step s (.configDirectReport sensorHandle channelHandle rate)
  obtain ⟨channel', hc', hhandles⟩ : ∃ channel', (s.step (.configDirectReport sensorHandle channelHandle
      rate)).mDirectChannels[channelHandle]? = some channel' ∧
      channel'.sensorHandles = channel.sensorHandles ++ [sensorHandle] := by
    have hm := channels_step s (.configDirectReport sensorHandle channelHandle rate)
    generalize (s.step (.configDirectReport sensorHandle channelHandle rate)).mDirectChannels = m at hm ⊢
    cases hm with
    | same hnone => exact absurd h (hnone _ _ _ _ _ rfl)
    | configured hconf =>
      obtain rfl := Configures.unique h hconf
      exact ⟨_, by rw [StdMap.getElem?_insert_eq, if_pos rfl], rfl⟩
    | stopped => exact absurd ⟨rfl, rfl⟩ h.notAll
  refine ⟨channel', hhandles, fun rate' rateNs' h' => ⟨hc', h'.notAll, ?_⟩⟩
  obtain ⟨sensor, hsensor, hflag, hrate⟩ := h'.supported
  have hmem := (heffect.mem_iff sensorHandle).2 (mem_sensors_of_configures h')
  obtain ⟨sensor', hsensor'⟩ := Option.isSome_iff_exists.1 (Std.ExtTreeMap.mem_iff_isSome_getElem?.1 hmem)
  obtain ⟨old, ops, hold, rfl⟩ := heffect.sensor hsensor'
  obtain rfl := Option.some.inj (hsensor.symm.trans hold)
  have hdescription := HalSensor.description_run ops sensor
  refine ⟨_, hsensor', ?_, ?_⟩
  · unfold HalSensor.hasFlag
    rw [hdescription]
    exact hflag
  · rw [hdescription]
    exact hrate

/-- **Every rate set lists the sensor once more.** -/
theorem sensorHandles_run {sensorHandle channelHandle : Int32} : ∀ (rates : List RateLevel) {s : SensorsHalAidl}
    {channel : DirectChannelBase}, s.mDirectChannels[channelHandle]? = some channel →
    (∀ rate ∈ rates, ∃ rateNs, Configures s sensorHandle channelHandle rate channel rateNs) →
    ∃ channel', (run SensorsHalAidl.step s
        (rates.map (.configDirectReport sensorHandle channelHandle ·))).mDirectChannels[channelHandle]? = some channel' ∧
      channel'.sensorHandles = channel.sensorHandles ++ List.replicate rates.length sensorHandle
  | [], _, channel, hc, _ => ⟨channel, hc, (List.append_nil _).symm⟩
  | rate :: rates, s, channel, hc, hconf => by
    obtain ⟨⟨rateNs, hfirst⟩, hrest⟩ := List.forall_mem_cons.1 hconf
    obtain ⟨channel', hhandles, hstep⟩ := configures_step hfirst
    obtain ⟨last, hlast, hall⟩ := sensorHandles_run rates (hstep rate rateNs hfirst).registered fun rate' hm => by
      obtain ⟨rateNs', h'⟩ := hrest rate' hm
      exact ⟨rateNs', hstep rate' rateNs' h'⟩
    refine ⟨last, hlast, ?_⟩
    rw [hall, hhandles, List.append_assoc]
    rfl

end HalHandles
end Aidl
end MemsHal
