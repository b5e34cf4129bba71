import MemsHal.HalChannels
/-!
# HalTables — who writes the tables of the HAL

Only the calls about them write the direct channels and the report latencies.  What holds of the channels along a run is
shown case by case of what a step makes of them (`channels_step`).
-/
namespace MemsHal
namespace Aidl

/-- Neither the channels nor the latencies are written. -/
structure SameTables (s s' : SensorsHalAidl) : Prop where
  channels : s'.mDirectChannels = s.mDirectChannels
  latencies : s'.mReportLatencyNs = s.mReportLatencyNs

namespace SameTables

theorem refl (s : SensorsHalAidl) : SameTables s s := ⟨rfl, rfl⟩

theorem trans {s s' s'' : SensorsHalAidl} (h : SameTables s s') (h' : SameTables s' s'') : SameTables s s'' :=
  ⟨h'.channels.trans h.channels, h'.latencies.trans h.latencies⟩

theorem postEvents (s : SensorsHalAidl) (events : List Event) (wakeup : Bool) (u : Uptime) :
    SameTables s (s.postEvents events wakeup u).1 := by
  obtain ⟨queue, wakeLock, heq⟩ := postEvents_eq s events wakeup u
  rw [heq]
  exact ⟨rfl, rfl⟩

theorem readWakeLockFMQ (s : SensorsHalAidl) (eventsHandled : Int32) (u : Uptime) :
    SameTables s (s.readWakeLockFMQ eventsHandled u).1 := by
  obtain ⟨wakeLock, heq⟩ := readWakeLockFMQ_eq s eventsHandled u
  rw [heq]
  exact ⟨rfl, rfl⟩

theorem joinWakeLockThread (s : SensorsHalAidl) (lastPass : Option (Int32 × Uptime)) :
    SameTables s (s.joinWakeLockThread lastPass).1 := by
  unfold SensorsHalAidl.joinWakeLockThread
  split
  · exact readWakeLockFMQ s _ _
  · exact refl s

theorem activate (s : SensorsHalAidl) (sensorHandle : Int32) (enabled : Bool) (r : ReportInput) :
    SameTables s (s.activate sensorHandle enabled r).1 := by
  unfold SensorsHalAidl.activate SensorsHalAidl.sendAdditionalInfoReport
  split
  · dsimp only
    split
    · refine trans ?_ (postEvents _ _ _ _)
      exact ⟨rfl, rfl⟩
    · exact ⟨rfl, rfl⟩
  · exact refl s

theorem flush (s : SensorsHalAidl) (sensorHandle : Int32) (u : Uptime) (r : ReportInput) :
    SameTables s (s.flush sensorHandle u r).1 := by
  unfold SensorsHalAidl.flush SensorsHalAidl.sendAdditionalInfoReport
  split
  · split
    · exact (postEvents s _ _ _).trans (postEvents _ _ _ _)
    · exact refl s
  · exact refl s

theorem injectSensorData (s : SensorsHalAidl) (event : Event) : SameTables s (s.injectSensorData event).1 := by
  unfold SensorsHalAidl.injectSensorData
  split <;> exact refl s

theorem sensorThread (s : SensorsHalAidl) (sensorHandle : Int32) (values : List SensorValues) (u : Uptime) :
    SameTables s (s.sensorThread sensorHandle values u).1 := by
  unfold SensorsHalAidl.sensorThread
  split
  · dsimp only
    split
    · refine trans ?_ (postEvents _ _ _ u)
      exact ⟨rfl, rfl⟩
    · exact ⟨rfl, rfl⟩
  · exact refl s

end SameTables

/-! ## The report latencies -/

/-- What a step makes of the report latencies. -/
def latenciesAfter (mReportLatencyNs : StdMap Int32 Int64) : HalOp → StdMap Int32 Int64
  | .batch sensorHandle _ maxReportLatencyNs =>
    if 0 < maxReportLatencyNs then mReportLatencyNs.insert sensorHandle maxReportLatencyNs else mReportLatencyNs
  | _ => mReportLatencyNs

theorem latencies_configDirectReport (s : SensorsHalAidl) (sensorHandle channelHandle : Int32) (rate : RateLevel) :
    (s.configDirectReport sensorHandle channelHandle rate).1.mReportLatencyNs = s.mReportLatencyNs := by
  unfold SensorsHalAidl.configDirectReport
  split
  · rfl
  · split
    · rfl
    · split
      · rfl
      · split
        · rfl
        · dsimp only
          split <;> rfl

theorem latencies_step (s : SensorsHalAidl) (op : HalOp) :
    (s.step op).mReportLatencyNs = latenciesAfter s.mReportLatencyNs op := by
  cases op with
  | activate sensorHandle enabled r => exact (SameTables.activate s sensorHandle enabled r).latencies
  | batch sensorHandle p l =>
    show (s.batch sensorHandle p l).1.mReportLatencyNs = _
    unfold SensorsHalAidl.batch
    dsimp only
    split <;> rfl
  | configDirectReport sensorHandle channelHandle rate =>
    exact latencies_configDirectReport s sensorHandle channelHandle rate
  | flush sensorHandle u r => exact (SameTables.flush s sensorHandle u r).latencies
  | initializeHal i => exact (SameTables.joinWakeLockThread (allInactive s) i.lastPass).latencies
  | injectSensorData event => exact (SameTables.injectSensorData s event).latencies
  | registerDirectChannel mem ashmem =>
    show (s.registerDirectChannel mem ashmem).1.mReportLatencyNs = _
    unfold SensorsHalAidl.registerDirectChannel
    split
    · rfl
    · split <;> rfl
  | setOperationMode mode => rfl
  | unregisterDirectChannel channelHandle => rfl
  | sensorThread sensorHandle values u => exact (SameTables.sensorThread s sensorHandle values u).latencies
  | readWakeLockFMQ eventsHandled u => exact (SameTables.readWakeLockFMQ s eventsHandled u).latencies
  | frameworkReads count => rfl

/-! ## The direct channels -/

/-- `configDirectReport` sets the rate of the sensor on the channel. -/
structure Configures (s : SensorsHalAidl) (sensorHandle channelHandle : Int32) (rate : RateLevel)
    (channel : DirectChannelBase) (rateNs : Int64) : Prop where
  registered : s.mDirectChannels[channelHandle]? = some channel
  notAll : ¬ (sensorHandle = -1 ∧ rate = .stop)
  supported : ∃ sensor, s.mSensors[sensorHandle]? = some sensor ∧
    sensor.hasFlag SensorFlagBits.directChannelAshmem = true ∧
    SensorsHalAidl.rateOf rate ((sensor.description.flags &&& SensorFlagBits.maskDirectReport) >>>
      SensorFlagBits.shiftDirectReport) = some rateNs

/-- What a step makes of the direct channels. -/
inductive ChannelsAfter (s : SensorsHalAidl) : HalOp → StdMap Int32 DirectChannelBase → Prop
  | same {op : HalOp}
    (h : ∀ sensorHandle channelHandle rate channel rateNs, op = .configDirectReport sensorHandle channelHandle rate →
      ¬ Configures s sensorHandle channelHandle rate channel rateNs) :
    ChannelsAfter s op s.mDirectChannels
  | configured {sensorHandle channelHandle : Int32} {rate : RateLevel} {channel : DirectChannelBase} {rateNs : Int64}
    (h : Configures s sensorHandle channelHandle rate channel rateNs) :
    ChannelsAfter s (.configDirectReport sensorHandle channelHandle rate)
      (s.mDirectChannels.insert channelHandle { channel with
        rateNs := channel.rateNs.insert sensorHandle rateNs
        sensorHandles := channel.sensorHandles ++ [sensorHandle] })
  | stopped {channelHandle : Int32} {channel : DirectChannelBase}
    (h : s.mDirectChannels[channelHandle]? = some channel) :
    ChannelsAfter s (.configDirectReport (-1) channelHandle .stop)
      (s.mDirectChannels.insert channelHandle { channel with
        rateNs := channel.sensorHandles.foldl
          (fun rateNs sensor => if sensor ∈ s.mSensors then rateNs.insert sensor 0 else rateNs) channel.rateNs })
  | registered {mem : SharedMemInfo} {ashmem : Ashmem} :
    ChannelsAfter s (.registerDirectChannel mem ashmem) (s.mDirectChannels.subscript s.mNextChannelHandle .fresh)
  | unregistered {channelHandle : Int32} :
    ChannelsAfter s (.unregisterDirectChannel channelHandle) (s.mDirectChannels.erase channelHandle)
  | cleared {i : InitializeInput} : ChannelsAfter s (.initializeHal i) ∅

theorem channels_configDirectReport (s : SensorsHalAidl) (sensorHandle channelHandle : Int32) (rate : RateLevel) :
    ChannelsAfter s (.configDirectReport sensorHandle channelHandle rate)
      (s.configDirectReport sensorHandle channelHandle rate).1.mDirectChannels := by
  have hsame : (∀ channel rateNs, ¬ Configures s sensorHandle channelHandle rate channel rateNs) →
      ChannelsAfter s (.configDirectReport sensorHandle channelHandle rate) s.mDirectChannels := by
    refine fun h => .same fun _ _ _ channel rateNs heq => ?_
    cases heq
    exact h channel rateNs
  unfold SensorsHalAidl.configDirectReport
  split
  · rename_i hnone
    exact hsame fun _ _ h => nomatch hnone.symm.trans h.registered
  · rename_i channel hc
    split
    · rename_i hall
      obtain ⟨rfl, rfl⟩ := hall
      exact .stopped hc
    · rename_i hall
      split
      · rename_i hnone
        refine hsame fun _ _ h => ?_
        obtain ⟨sensor, hsensor, -⟩ := h.supported
        exact nomatch hnone.symm.trans hsensor
      · rename_i sensor hsensor
        split
        · rename_i hflag
          refine hsame fun _ _ h => ?_
          obtain ⟨sensor', hsensor', hflag', -⟩ := h.supported
          obtain rfl := Option.some.inj (hsensor.symm.trans hsensor')
          exact Bool.noConfusion (hflag.symm.trans hflag')
        · rename_i hflag
          dsimp only
          split
          · rename_i hrate
            refine hsame fun _ _ h => ?_
            obtain ⟨sensor', hsensor', -, hrate'⟩ := h.supported
            obtain rfl := Option.some.inj (hsensor.symm.trans hsensor')
            exact nomatch hrate.symm.trans hrate'
          · rename_i rateNs hrate
            exact .configured ⟨hc, hall, sensor, hsensor, Bool.eq_true_of_not_eq_false hflag, hrate⟩

theorem channels_registerDirectChannel (s : SensorsHalAidl) (mem : SharedMemInfo) (ashmem : Ashmem) :
    ChannelsAfter s (.registerDirectChannel mem ashmem) (s.registerDirectChannel mem ashmem).1.mDirectChannels := by
  unfold SensorsHalAidl.registerDirectChannel
  split
  · exact .same nofun
  · split
    · rename_i channel hnew
      obtain rfl := construct_eq_fresh hnew
      exact .registered
    · exact .same nofun

/-- **What every step makes of the direct channels.** -/
theorem channels_step (s : SensorsHalAidl) (op : HalOp) : ChannelsAfter s op (s.step op).mDirectChannels := by
  have hsame : SameTables s (s.step op) →
      (∀ sensorHandle channelHandle rate, op ≠ .configDirectReport sensorHandle channelHandle rate) →
      ChannelsAfter s op (s.step op).mDirectChannels := by
    intro h hop
    rw [h.channels]
    exact .same fun _ _ _ _ _ heq => absurd heq (hop _ _ _)
  cases op with
  | activate sensorHandle enabled r => exact hsame (.activate s sensorHandle enabled r) nofun
  | batch sensorHandle p l =>
    have hbatch : (s.batch sensorHandle p l).1.mDirectChannels = s.mDirectChannels := by
      unfold SensorsHalAidl.batch
      dsimp only
      split <;> rfl
    show ChannelsAfter s _ (s.batch sensorHandle p l).1.mDirectChannels
    rw [hbatch]
    exact .same nofun
  | configDirectReport sensorHandle channelHandle rate =>
    exact channels_configDirectReport s sensorHandle channelHandle rate
  | flush sensorHandle u r => exact hsame (.flush s sensorHandle u r) nofun
  | initializeHal i =>
    show ChannelsAfter s _ (s.initializeHal i).1.mDirectChannels
    rw [(initialize_tables s i).1]
    exact .cleared
  | injectSensorData event => exact hsame (.injectSensorData s event) nofun
  | registerDirectChannel mem ashmem => exact channels_registerDirectChannel s mem ashmem
  | setOperationMode mode => exact .same nofun
  | unregisterDirectChannel channelHandle => exact .unregistered
  | sensorThread sensorHandle values u => exact hsame (.sensorThread s sensorHandle values u) nofun
  | readWakeLockFMQ eventsHandled u => exact hsame (.readWakeLockFMQ s eventsHandled u) nofun
  | frameworkReads count => exact .same nofun

end Aidl
end MemsHal
