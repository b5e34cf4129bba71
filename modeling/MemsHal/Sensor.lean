import Mathlib.Algebra.Ring.Int.Defs
import MemsHal.Run
import MemsHal.Clients
import MemsHal.StdMap
/-!
# Sensor — `aidl/Sensor.cpp`: one sensor, its event subscription and its direct channels

Each public call is one step under `mRunMutex`; it returns the calls it makes on `mSensor`, in order.  A channel added
with period 0 takes the mutex twice, and writes the same entry under both.  Waking the run thread (`mWaitCV`) changes
nothing here and is left out.
-/
namespace MemsHal

def int64Max : Int := 2 ^ 63 - 1

/-- The fields of `SensorInfo` that `Sensor` arbitrates with. -/
structure SensorInfo where
  minDelayUs : Int32
  maxDelayUs : Int32

structure DirectChannel where
  enabled : Bool
  samplingPeriodNs : Int
  deriving DecidableEq, Repr

structure Sensor where
  mSensorInfo : SensorInfo
  mIsEnabled : Bool
  mDirectChannelEnabled : Bool
  mSamplingPeriodNs : Int
  mNextSampleTimeNs : Int
  mDirectChannelRateNs : Int
  mNextDirectChannelNs : Int
  mDirectChannels : StdMap Int32 DirectChannel

/-- A call on the underlying `mSensor`, or the report sent on its behalf. -/
inductive SensorCall
  | activate (enable : Bool)
  | batch (samplingPeriodNs maxReportLatencyNs : Int)
  | sendAdditionalInfoReport
  deriving DecidableEq, Repr

namespace SensorInfo

def minDelayNs (info : SensorInfo) : Int := info.minDelayUs.toInt * 1000

def maxDelayNs (info : SensorInfo) : Int := info.maxDelayUs.toInt * 1000

/-- The period `Sensor::batch` makes of the one it is given. -/
def clamp (info : SensorInfo) (samplingPeriodNs : Int) : Int :=
  if samplingPeriodNs < info.minDelayNs then info.minDelayNs
  else if samplingPeriodNs > info.maxDelayNs then info.maxDelayNs
  else samplingPeriodNs

end SensorInfo

namespace Sensor

def fresh (sensorInfo : SensorInfo) : Sensor where
  mSensorInfo := sensorInfo
  mIsEnabled := false
  mDirectChannelEnabled := false
  mSamplingPeriodNs := sensorInfo.minDelayNs
  mNextSampleTimeNs := int64Max
  mDirectChannelRateNs := int64Max
  mNextDirectChannelNs := int64Max
  mDirectChannels := ∅

def batch (s : Sensor) (samplingPeriodNs maxReportLatencyNs : Int64) : Sensor × List SensorCall :=
  let samplingPeriodNs := s.mSensorInfo.clamp samplingPeriodNs.toInt
  ({ s with mSamplingPeriodNs := samplingPeriodNs },
    if samplingPeriodNs < s.mDirectChannelRateNs then [.batch samplingPeriodNs maxReportLatencyNs.toInt] else [])

def activate (s : Sensor) (enable : Bool) : Sensor × List SensorCall :=
  if s.mIsEnabled ≠ enable then
    ({ s with mIsEnabled := enable, mNextSampleTimeNs := if enable then 0 else int64Max },
      .activate enable :: if enable then [.sendAdditionalInfoReport] else [])
  else (s, [])

/-- The first loop of `updateDirectChannel`. -/
def fastestChannel (mDirectChannels : StdMap Int32 DirectChannel) : Int :=
  Least.scanLeast (fun channel => channel.2.enabled) (fun channel => channel.2.samplingPeriodNs) int64Max
    mDirectChannels.toList

/-- The second loop of `updateDirectChannel`. -/
def anyChannelEnabled (mDirectChannels : StdMap Int32 DirectChannel) : Bool :=
  mDirectChannels.toList.any (fun channel => channel.2.enabled)

def updateDirectChannel (s : Sensor) : Sensor × List SensorCall :=
  let directChannelRateNs := fastestChannel s.mDirectChannels
  let batchCalls : List SensorCall :=
    if s.mDirectChannelRateNs ≠ directChannelRateNs ∧ directChannelRateNs < s.mSamplingPeriodNs then
      [.batch directChannelRateNs 0]
    else []
  let s := { s with mDirectChannelRateNs := directChannelRateNs }
  let anyChannelEnabled := anyChannelEnabled s.mDirectChannels
  if s.mDirectChannelEnabled ≠ anyChannelEnabled then
    ({ s with
        mDirectChannelEnabled := anyChannelEnabled
        mNextDirectChannelNs := if anyChannelEnabled then 0 else int64Max },
      batchCalls ++ if s.mIsEnabled then [] else [.activate anyChannelEnabled])
  else (s, batchCalls)

def stopDirectChannel (s : Sensor) (channelHandle : Int32) : Sensor × List SensorCall :=
  match s.mDirectChannels[channelHandle]? with
  | some _ => updateDirectChannel { s with mDirectChannels := s.mDirectChannels.insert channelHandle ⟨false, 0⟩ }
  | none   => updateDirectChannel s

def removeDirectChannel (s : Sensor) (channelHandle : Int32) : Sensor × List SensorCall :=
  updateDirectChannel { s with mDirectChannels := s.mDirectChannels.erase channelHandle }

def addDirectChannel (s : Sensor) (channelHandle : Int32) (samplingPeriodNs : Int64) : Sensor × List SensorCall :=
  if samplingPeriodNs = 0 then
    stopDirectChannel { s with mDirectChannels := s.mDirectChannels.insert channelHandle ⟨false, 0⟩ } channelHandle
  else
    updateDirectChannel
      { s with mDirectChannels := s.mDirectChannels.insert channelHandle ⟨true, samplingPeriodNs.toInt⟩ }

end Sensor

/-- The calls that activate a sensor or set its rate. -/
inductive SensorOp
  | batch (samplingPeriodNs maxReportLatencyNs : Int64)
  | activate (enable : Bool)
  | addDirectChannel (channelHandle : Int32) (samplingPeriodNs : Int64)
  | stopDirectChannel (channelHandle : Int32)
  | removeDirectChannel (channelHandle : Int32)

/-- The operations that change a channel. -/
def SensorOp.OnChannel : SensorOp → Prop
  | .batch _ _ | .activate _ => False
  | _                        => True

namespace Sensor

def exec (s : Sensor) : SensorOp → Sensor × List SensorCall
  | .batch samplingPeriodNs maxReportLatencyNs        => s.batch samplingPeriodNs maxReportLatencyNs
  | .activate enable                                  => s.activate enable
  | .addDirectChannel channelHandle samplingPeriodNs  => s.addDirectChannel channelHandle samplingPeriodNs
  | .stopDirectChannel channelHandle                  => s.stopDirectChannel channelHandle
  | .removeDirectChannel channelHandle                => s.removeDirectChannel channelHandle

/-- The loop of `run` reads, and does not wait. -/
def InUse (s : Sensor) : Prop := s.mIsEnabled = true ∨ s.mDirectChannelEnabled = true

instance (s : Sensor) : Decidable s.InUse := inferInstanceAs (Decidable (_ ∨ _))

/-! ## What the channels ask for -/

/-- The periods of the enabled entries of a channel table. -/
def channelDemands (mDirectChannels : StdMap Int32 DirectChannel) : Set Int :=
  {q | ∃ (handle : Int32) (channel : DirectChannel), mDirectChannels[handle]? = some channel ∧
    channel.enabled = true ∧ channel.samplingPeriodNs = q}

theorem anyChannelEnabled_iff (m : StdMap Int32 DirectChannel) :
    anyChannelEnabled m = true ↔ (channelDemands m).Nonempty := by
  simp only [anyChannelEnabled, List.any_eq_true, Prod.exists, StdMap.mem_toList]
  constructor
  · rintro ⟨handle, channel, hm, hen⟩
    exact ⟨channel.samplingPeriodNs, handle, channel, hm, hen, rfl⟩
  · rintro ⟨-, handle, channel, hm, hen, -⟩
    exact ⟨handle, channel, hm, hen⟩

theorem fastestChannel_isLeast (m : StdMap Int32 DirectChannel) :
    IsLeast (insert int64Max (channelDemands m)) (fastestChannel m) := by
  have hset : insert int64Max (channelDemands m) =
      {q | q = int64Max ∨ ∃ x ∈ m.toList, x.2.enabled = true ∧ x.2.samplingPeriodNs = q} := by
    ext q
    simp only [Set.mem_insert_iff, channelDemands, Set.mem_ofPred_eq, Prod.exists, StdMap.mem_toList]
  rw [hset]
  exact Least.isLeast_scanLeast _ _ m.toList int64Max

theorem le_fastestChannel_iff (m : StdMap Int32 DirectChannel) {p : Int} :
    p ≤ fastestChannel m ↔ p ≤ int64Max ∧ ∀ q ∈ channelDemands m, p ≤ q := by
  rw [le_isGLB_iff (fastestChannel_isLeast m).isGLB, lowerBounds_insert]
  rfl

/-- The table a channel operation leaves; the other operations leave the table alone. -/
def channelsAfter (m : StdMap Int32 DirectChannel) : SensorOp → StdMap Int32 DirectChannel
  | .addDirectChannel handle samplingPeriodNs =>
    m.insert handle (if samplingPeriodNs = 0 then ⟨false, 0⟩ else ⟨true, samplingPeriodNs.toInt⟩)
  | .stopDirectChannel handle   => match m[handle]? with
    | some _ => m.insert handle ⟨false, 0⟩
    | none   => m
  | .removeDirectChannel handle => m.erase handle
  | .batch _ _ | .activate _    => m

theorem channelsAfter_getElem? (m : StdMap Int32 DirectChannel) (op : SensorOp) {handle : Int32}
    {channel : DirectChannel} (h : (channelsAfter m op)[handle]? = some channel) :
    m[handle]? = some channel ∨ channel.enabled = false ∨ ∃ p : Int64, channel.samplingPeriodNs = p.toInt := by
  cases op with
  | batch p l => exact Or.inl h
  | activate e => exact Or.inl h
  | addDirectChannel k p =>
    rw [channelsAfter, StdMap.getElem?_insert_eq] at h
    split at h
    · split at h
      · obtain rfl := Option.some.inj h
        exact Or.inr (Or.inl rfl)
      · obtain rfl := Option.some.inj h
        exact Or.inr (Or.inr ⟨p, rfl⟩)
    · exact Or.inl h
  | stopDirectChannel k =>
    rw [channelsAfter] at h
    split at h
    · rw [StdMap.getElem?_insert_eq] at h
      split at h
      · obtain rfl := Option.some.inj h
        exact Or.inr (Or.inl rfl)
      · exact Or.inl h
    · exact Or.inl h
  | removeDirectChannel k =>
    rw [channelsAfter, StdMap.getElem?_erase_eq] at h
    split at h
    · cases h
    · exact Or.inl h

/-- **Every channel operation is an update of the table followed by `updateDirectChannel`.** -/
theorem exec_channel (s : Sensor) (op : SensorOp) (hop : op.OnChannel) :
    s.exec op = updateDirectChannel { s with mDirectChannels := channelsAfter s.mDirectChannels op } := by
  have hstop : ∀ (s : Sensor) (handle : Int32), s.stopDirectChannel handle =
      updateDirectChannel
        { s with mDirectChannels := channelsAfter s.mDirectChannels (.stopDirectChannel handle) } := by
    intro s handle
    unfold stopDirectChannel channelsAfter
    dsimp only
    cases s.mDirectChannels[handle]? <;> rfl
  cases op with
  | batch p l => exact absurd hop id
  | activate e => exact absurd hop id
  | removeDirectChannel handle => rfl
  | stopDirectChannel handle => exact hstop s handle
  | addDirectChannel handle p =>
    show s.addDirectChannel handle p = _
    unfold addDirectChannel
    by_cases hp : p = 0
    · have htwice : channelsAfter (s.mDirectChannels.insert handle ⟨false, 0⟩) (.stopDirectChannel handle) =
          channelsAfter s.mDirectChannels (.addDirectChannel handle p) := by
        refine Std.ExtTreeMap.ext_getElem? (fun k => ?_)
        simp only [channelsAfter, StdMap.getElem?_insert_eq, if_true, if_pos hp]
        split <;> rfl
      rw [if_pos hp, hstop, htwice]
    · rw [if_neg hp, channelsAfter, if_neg hp]

section updateDirectChannel

variable (s : Sensor)

@[simp] theorem updateDirectChannel_info : s.updateDirectChannel.1.mSensorInfo = s.mSensorInfo := by
  unfold updateDirectChannel; dsimp only; split <;> rfl

@[simp] theorem updateDirectChannel_isEnabled : s.updateDirectChannel.1.mIsEnabled = s.mIsEnabled := by
  unfold updateDirectChannel; dsimp only; split <;> rfl

@[simp] theorem updateDirectChannel_samplingPeriodNs :
    s.updateDirectChannel.1.mSamplingPeriodNs = s.mSamplingPeriodNs := by
  unfold updateDirectChannel; dsimp only; split <;> rfl

@[simp] theorem updateDirectChannel_directChannels :
    s.updateDirectChannel.1.mDirectChannels = s.mDirectChannels := by
  unfold updateDirectChannel; dsimp only; split <;> rfl

@[simp] theorem updateDirectChannel_rateNs :
    s.updateDirectChannel.1.mDirectChannelRateNs = fastestChannel s.mDirectChannels := by
  unfold updateDirectChannel; dsimp only; split <;> rfl

@[simp] theorem updateDirectChannel_nextSampleTimeNs :
    s.updateDirectChannel.1.mNextSampleTimeNs = s.mNextSampleTimeNs := by
  unfold updateDirectChannel; dsimp only; split <;> rfl

theorem updateDirectChannel_nextDirectChannelNs :
    s.updateDirectChannel.1.mNextDirectChannelNs =
      if s.mDirectChannelEnabled ≠ anyChannelEnabled s.mDirectChannels then
        if anyChannelEnabled s.mDirectChannels then 0 else int64Max
      else s.mNextDirectChannelNs := by
  unfold updateDirectChannel; dsimp only; split <;> rfl

@[simp] theorem updateDirectChannel_enabled :
    s.updateDirectChannel.1.mDirectChannelEnabled = anyChannelEnabled s.mDirectChannels := by
  unfold updateDirectChannel
  dsimp only
  split
  · rfl
  · rename_i h
    exact Decidable.not_not.1 h

end updateDirectChannel

/-- A channel operation leaves the subscription alone. -/
theorem exec_channel_sample (s : Sensor) {op : SensorOp} (hop : op.OnChannel) :
    (s.exec op).1.mIsEnabled = s.mIsEnabled ∧ (s.exec op).1.mSamplingPeriodNs = s.mSamplingPeriodNs ∧
      (s.exec op).1.mNextSampleTimeNs = s.mNextSampleTimeNs := by
  rw [exec_channel s op hop]
  simp

/-- **The channel table an operation leaves.** -/
theorem exec_directChannels (s : Sensor) (op : SensorOp) :
    (s.exec op).1.mDirectChannels = channelsAfter s.mDirectChannels op := by
  by_cases hop : op.OnChannel
  · rw [exec_channel s op hop, updateDirectChannel_directChannels]
  · cases op with
    | batch p l => rfl
    | activate e =>
      unfold exec activate channelsAfter
      dsimp only
      split <;> rfl
    | _ => exact absurd trivial hop

/-! ## Histories -/

def activate? : SensorCall → Option Bool
  | .activate enable => some enable
  | _                => none

def batch? : SensorCall → Option Int
  | .batch samplingPeriodNs _ => some samplingPeriodNs
  | _                         => none

/-- The argument of the most recent `mSensor->activate`. -/
def lastActivate (calls : List SensorCall) : Option Bool := Run.lastOf activate? calls

/-- The period `mSensor->batch` was last given. -/
def lastBatch (calls : List SensorCall) : Option Int := Run.lastOf batch? calls

theorem updateDirectChannel_calls (s : Sensor) :
    s.updateDirectChannel.2 =
      (if s.mDirectChannelRateNs ≠ fastestChannel s.mDirectChannels ∧
          fastestChannel s.mDirectChannels < s.mSamplingPeriodNs then
        [.batch (fastestChannel s.mDirectChannels) 0]
      else []) ++
      (if s.mDirectChannelEnabled ≠ anyChannelEnabled s.mDirectChannels ∧ s.mIsEnabled = false then
        [.activate (anyChannelEnabled s.mDirectChannels)]
      else []) := by
  unfold updateDirectChannel
  dsimp only
  by_cases hany : s.mDirectChannelEnabled ≠ anyChannelEnabled s.mDirectChannels
  · cases hen : s.mIsEnabled <;> simp [hany]
  · simp [hany]

theorem lastActivate_updateDirectChannel (s : Sensor) :
    lastActivate s.updateDirectChannel.2 =
      if s.mDirectChannelEnabled ≠ anyChannelEnabled s.mDirectChannels ∧ s.mIsEnabled = false then
        some (anyChannelEnabled s.mDirectChannels)
      else none := by
  have hbatch : ∀ (c : Prop) [Decidable c] (p : Int), lastActivate (if c then [.batch p 0] else []) = none := by
    intro c _ p
    split <;> rfl
  unfold lastActivate at hbatch ⊢
  rw [updateDirectChannel_calls, Run.lastOf_append, hbatch, Option.or_none]
  split <;> rfl

theorem lastBatch_updateDirectChannel (s : Sensor) :
    lastBatch s.updateDirectChannel.2 =
      if s.mDirectChannelRateNs ≠ fastestChannel s.mDirectChannels ∧
          fastestChannel s.mDirectChannels < s.mSamplingPeriodNs then
        some (fastestChannel s.mDirectChannels)
      else none := by
  have hactivate : ∀ (c : Prop) [Decidable c] (e : Bool), lastBatch (if c then [.activate e] else []) = none := by
    intro c _ e
    split <;> rfl
  unfold lastBatch at hactivate ⊢
  rw [updateDirectChannel_calls, Run.lastOf_append, hactivate, Option.none_or]
  split <;> rfl

/-- A sensor and the calls it has made since its construction. -/
structure History where
  sensor : Sensor
  calls : List SensorCall

namespace History

def fresh (sensorInfo : SensorInfo) : History := ⟨Sensor.fresh sensorInfo, []⟩

def step (w : History) (op : SensorOp) : History := ⟨(w.sensor.exec op).1, w.calls ++ (w.sensor.exec op).2⟩

theorem lastActivate_step (w : History) (op : SensorOp) :
    lastActivate (w.step op).calls = (lastActivate (w.sensor.exec op).2).or (lastActivate w.calls) :=
  Run.lastOf_append activate? w.calls _

theorem lastBatch_step (w : History) (op : SensorOp) :
    lastBatch (w.step op).calls = (lastBatch (w.sensor.exec op).2).or (lastBatch w.calls) :=
  Run.lastOf_append batch? w.calls _

end History

/-- **What holds of a sensor after any calls**: the two channel fields say what the channel table holds, and every
period is one of an `int64_t`. -/
structure Inv (s : Sensor) : Prop where
  enabled : s.mDirectChannelEnabled = true ↔ (channelDemands s.mDirectChannels).Nonempty
  rate : IsLeast (insert int64Max (channelDemands s.mDirectChannels)) s.mDirectChannelRateNs
  channels : ∀ q ∈ channelDemands s.mDirectChannels, q ≤ int64Max
  period : s.mSamplingPeriodNs ≤ int64Max

theorem toInt_le_int64Max (p : Int64) : p.toInt ≤ int64Max := Int64.toInt_le p

theorem minDelayNs_le (info : SensorInfo) : info.minDelayNs ≤ int64Max := by
  have h : info.minDelayUs.toInt ≤ 2 ^ 31 - 1 := Int32.toInt_le info.minDelayUs
  unfold SensorInfo.minDelayNs int64Max
  omega

theorem clamp_le (info : SensorInfo) {p : Int} (hp : p ≤ int64Max) : info.clamp p ≤ int64Max := by
  have hmin := minDelayNs_le info
  unfold SensorInfo.clamp
  split
  · exact hmin
  · split
    · omega
    · exact hp

theorem inv_fresh (sensorInfo : SensorInfo) : Inv (fresh sensorInfo) := by
  have hempty : ∀ q, q ∉ channelDemands (∅ : StdMap Int32 DirectChannel) := by
    rintro q ⟨handle, channel, hm, -⟩
    rw [Std.ExtTreeMap.getElem?_empty] at hm
    cases hm
  exact {
    enabled := iff_of_false Bool.false_ne_true (fun ⟨q, hq⟩ => hempty q hq)
    rate := ⟨Or.inl rfl, fun q hq => hq.elim (fun h => h ▸ le_rfl) (fun h => absurd h (hempty q))⟩
    channels := fun q hq => absurd hq (hempty q)
    period := minDelayNs_le sensorInfo }

theorem channelsAfter_le (m : StdMap Int32 DirectChannel) (op : SensorOp)
    (h : ∀ q ∈ channelDemands m, q ≤ int64Max) : ∀ q ∈ channelDemands (channelsAfter m op), q ≤ int64Max := by
  rintro q ⟨handle, channel, hm, hen, rfl⟩
  rcases channelsAfter_getElem? m op hm with hm | hoff | ⟨p, hp⟩
  · exact h _ ⟨handle, channel, hm, hen, rfl⟩
  · rw [hoff] at hen
    cases hen
  · rw [hp]
    exact toInt_le_int64Max p

theorem inv_exec (s : Sensor) (op : SensorOp) (h : Inv s) : Inv (s.exec op).1 := by
  by_cases hop : op.OnChannel
  · rw [exec_channel s op hop]
    exact {
      enabled := by simp [anyChannelEnabled_iff]
      rate := by simpa using fastestChannel_isLeast _
      channels := by simpa using channelsAfter_le s.mDirectChannels op h.channels
      period := by simpa using h.period }
  · cases op with
    | batch p l => exact ⟨h.enabled, h.rate, h.channels, clamp_le s.mSensorInfo (toInt_le_int64Max p)⟩
    | activate e =>
      unfold exec activate
      dsimp only
      split
      · exact ⟨h.enabled, h.rate, h.channels, h.period⟩
      · exact h
    | _ => exact absurd trivial hop

end Sensor
end MemsHal
