import Mathlib.Algebra.Order.Floor.Ring
import MemsHal.ConvertUtils
import MemsHal.HalReads
import MemsHal.HalTables
import MemsHal.LockfreeBuffer
/-!
# HalDirect — what the direct channels receive

`writeToDirectBuffer` goes over events and channels in two loops, with a counter per channel and sensor.  A channel sees
its own samples only (`writtenTo_writeAll`), and a sensor's counter on it those of the sensor (`filter_take`), so a
channel gets every `⌈R / P⌉`-th event of a sensor with rate `R` and sampling period `P` (`decimation_run`).
-/
namespace MemsHal
namespace Aidl

open ConvertUtils (getVec3? getUncal? tag requiredTag PayloadTag)

/-- The members of the union of a `sensors_event_t` that are set. -/
inductive EventData
  | uncalibratedGyro (v : Uncal)
  | acceleration (v : Vec3)
  deriving DecidableEq, Repr

structure SensorsEventT where
  version : Int32
  sensor : Int32
  type : Int32
  reserved0 : Int32
  timestamp : Int64
  data : EventData
  deriving DecidableEq, Repr

namespace HalDirect

/-- The values of an event; `get` of a payload with another tag aborts. -/
def eventData? (event : Event) : Option EventData :=
  if event.sensorType = .gyroscopeUncalibrated ∨ event.sensorType = .accelerometerUncalibrated then
    (getUncal? event.payload).map .uncalibratedGyro
  else (getVec3? event.payload).map .acceleration

/-- The `ev` that is written to a channel. -/
def sensorsEvent? (event : Event) : Option SensorsEventT :=
  (eventData? event).map fun data =>
    { version := Int32.ofNat EventLayout.platform.sizeof, sensor := event.sensorHandle, type := event.sensorType.value,
      reserved0 := 0, timestamp := event.timestamp, data := data }

/-- The tag that is read of an event of a type. -/
def directTag (sensorType : SensorType) : PayloadTag :=
  if sensorType = .gyroscopeUncalibrated ∨ sensorType = .accelerometerUncalibrated then .uncal else .vec3

/-- The payload is the one that is read. -/
def Fits (event : Event) : Prop := tag event.payload = directTag event.sensorType

instance (event : Event) : Decidable (Fits event) := inferInstanceAs (Decidable (_ = _))

/-- A call, made while `mChannelMutex` is free. -/
structure Call where
  events : List Event
  samplingPeriodNs : Int64

def write (mDirectChannels : StdMap Int32 DirectChannelBase) (call : Call) : DirectWrites :=
  writeToDirectBuffer mDirectChannels call.events call.samplingPeriodNs.toInt true

/-- Calls one after the other, and all that they write. -/
def writeAll (mDirectChannels : StdMap Int32 DirectChannelBase) : List Call → DirectWrites
  | []            => ⟨mDirectChannels, []⟩
  | call :: calls =>
    let rest := writeAll (write mDirectChannels call).mDirectChannels calls
    { rest with written := (write mDirectChannels call).written ++ rest.written }

/-- The events among writes that are to one channel. -/
def writtenTo (channelHandle : Int32) (written : List (Int32 × Event)) : List Event :=
  written.filterMap fun write => if write.1 = channelHandle then some write.2 else none

/-- What a channel receives, `none` if a `get` aborts. -/
def received? (mDirectChannels : StdMap Int32 DirectChannelBase) (calls : List Call) (channelHandle : Int32) :
    Option (List SensorsEventT) :=
  (writtenTo channelHandle (writeAll mDirectChannels calls).written).mapM sensorsEvent?

/-- The events of calls, each with its sampling period. -/
def samples (calls : List Call) : List (Event × Int) :=
  calls.flatMap fun call => call.events.map (·, call.samplingPeriodNs.toInt)

/-- Those of one sensor. -/
def samplesOf (sensorHandle : Int32) (calls : List Call) : List (Event × Int) :=
  (samples calls).filter fun sample => sample.1.sensorHandle = sensorHandle

/-! ## One channel -/

/-- A channel after samples, and the events written to it. -/
def take (channel : DirectChannelBase) : List (Event × Int) → DirectChannelBase × List Event
  | []                        => (channel, [])
  | (event, period) :: events =>
    let (sampled, written) := channel.sample event period
    let (channel, rest) := take sampled events
    (channel, (if written then [event] else []) ++ rest)

theorem take_cons (channel : DirectChannelBase) (event : Event) (period : Int) (events : List (Event × Int)) :
    take channel ((event, period) :: events) = ((take (channel.sample event period).1 events).1,
      (if (channel.sample event period).2 then [event] else []) ++ (take (channel.sample event period).1 events).2) :=
  rfl

theorem take_append (first second : List (Event × Int)) (channel : DirectChannelBase) :
    take channel (first ++ second) =
      ((take (take channel first).1 second).1, (take channel first).2 ++ (take (take channel first).1 second).2) := by
  induction first generalizing channel with
  | nil => rfl
  | cons sample first ih =>
    obtain ⟨event, period⟩ := sample
    simp only [List.cons_append, take_cons, ih, List.append_assoc]

@[simp] theorem writtenTo_nil (channelHandle : Int32) : writtenTo channelHandle [] = [] := rfl

@[simp] theorem writtenTo_append (channelHandle : Int32) (first second : List (Int32 × Event)) :
    writtenTo channelHandle (first ++ second) = writtenTo channelHandle first ++ writtenTo channelHandle second :=
  List.filterMap_append

theorem writtenTo_turn (channelHandle c : Int32) (event : Event) (written : Bool) :
    writtenTo c (if written then [(channelHandle, event)] else []) =
      if channelHandle = c ∧ written then [event] else [] := by
  cases written
  · simp
  · by_cases h : channelHandle = c <;> simp [writtenTo, h]

/-- The body of the inner loop. -/
def turn (samplingPeriodNs : Int) (event : Event) (w : DirectWrites) (channel : Int32 × DirectChannelBase) :
    DirectWrites :=
  let (sampled, written) := channel.2.sample event samplingPeriodNs
  { mDirectChannels := w.mDirectChannels.insert channel.1 sampled
    written := w.written ++ if written then [(channel.1, event)] else [] }

theorem writeEvent_eq (samplingPeriodNs : Int) (w : DirectWrites) (event : Event) :
    w.writeEvent samplingPeriodNs event = w.mDirectChannels.toList.foldl (turn samplingPeriodNs event) w := rfl

section Turns

variable (samplingPeriodNs : Int) (event : Event) (c : Int32)

theorem foldl_turn_of_notMem : ∀ (channels : List (Int32 × DirectChannelBase)) (w : DirectWrites),
    (∀ channel ∈ channels, channel.1 ≠ c) →
    (channels.foldl (turn samplingPeriodNs event) w).mDirectChannels[c]? = w.mDirectChannels[c]? ∧
      writtenTo c (channels.foldl (turn samplingPeriodNs event) w).written = writtenTo c w.written
  | [], _, _ => ⟨rfl, rfl⟩
  | channel :: channels, w, h => by
    obtain ⟨hne, hrest⟩ := List.forall_mem_cons.1 h
    obtain ⟨htable, hwritten⟩ := foldl_turn_of_notMem channels (turn samplingPeriodNs event w channel) hrest
    rw [List.foldl_cons, htable, hwritten]
    unfold turn
    dsimp only
    rw [StdMap.getElem?_insert_eq, if_neg hne, writtenTo_append, writtenTo_turn, if_neg (fun hc => hne hc.1),
      List.append_nil]
    exact ⟨rfl, rfl⟩

theorem foldl_turn_of_mem {channel : DirectChannelBase} : ∀ (channels : List (Int32 × DirectChannelBase))
    (w : DirectWrites), channels.Pairwise (fun a b => a.1 ≠ b.1) → (c, channel) ∈ channels →
    (channels.foldl (turn samplingPeriodNs event) w).mDirectChannels[c]? =
        some (channel.sample event samplingPeriodNs).1 ∧
      writtenTo c (channels.foldl (turn samplingPeriodNs event) w).written =
        writtenTo c w.written ++ if (channel.sample event samplingPeriodNs).2 then [event] else []
  | head :: channels, w, hdistinct, hmem => by
    obtain ⟨hhead, hdistinct⟩ := List.pairwise_cons.1 hdistinct
    rw [List.foldl_cons]
    rcases List.mem_cons.1 hmem with rfl | hmem
    · obtain ⟨htable, hwritten⟩ := foldl_turn_of_notMem samplingPeriodNs event c channels
        (turn samplingPeriodNs event w (c, channel)) (fun other hm => (hhead other hm).symm)
      rw [htable, hwritten]
      unfold turn
      dsimp only
      rw [StdMap.getElem?_insert_eq, if_pos rfl, writtenTo_append, writtenTo_turn]
      exact ⟨rfl, by simp⟩
    · have hne : head.1 ≠ c := hhead (c, channel) hmem
      obtain ⟨htable, hwritten⟩ := foldl_turn_of_mem channels (turn samplingPeriodNs event w head) hdistinct hmem
      rw [htable, hwritten]
      unfold turn
      dsimp only
      rw [writtenTo_append, writtenTo_turn, if_neg (fun hc => hne hc.1), List.append_nil]
      exact ⟨rfl, rfl⟩

end Turns

/-- **The inner loop gives a channel its own turn.** -/
theorem writeEvent_channel (samplingPeriodNs : Int) (w : DirectWrites) (event : Event) (c : Int32) :
    (w.writeEvent samplingPeriodNs event).mDirectChannels[c]? =
        w.mDirectChannels[c]?.map (fun channel => (channel.sample event samplingPeriodNs).1) ∧
      writtenTo c (w.writeEvent samplingPeriodNs event).written = writtenTo c w.written ++
        (w.mDirectChannels[c]?.map (fun channel => if (channel.sample event samplingPeriodNs).2 then [event] else
          [])).getD [] := by
  rw [writeEvent_eq]
  cases hc : w.mDirectChannels[c]? with
  | none =>
    have hnone : ∀ channel ∈ w.mDirectChannels.toList, channel.1 ≠ c := by
      rintro ⟨k, channel⟩ hm rfl
      rw [StdMap.mem_toList] at hm
      rw [hc] at hm
      cases hm
    obtain ⟨htable, hwritten⟩ := foldl_turn_of_notMem samplingPeriodNs event c _ w hnone
    exact ⟨htable.trans hc, hwritten.trans (List.append_nil _).symm⟩
  | some channel =>
    have hdistinct : w.mDirectChannels.toList.Pairwise (fun a b => a.1 ≠ b.1) :=
      Std.ExtTreeMap.distinct_keys_toList.imp fun hcmp heq => hcmp (Std.LawfulEqCmp.compare_eq_iff_eq.2 heq)
    exact foldl_turn_of_mem samplingPeriodNs event c _ w hdistinct ((StdMap.mem_toList _ _ _).2 hc)

theorem foldl_writeEvent_channel (samplingPeriodNs : Int) (c : Int32) : ∀ (events : List Event) (w : DirectWrites),
    (events.foldl (DirectWrites.writeEvent samplingPeriodNs) w).mDirectChannels[c]? =
        w.mDirectChannels[c]?.map (fun channel => (take channel (events.map (·, samplingPeriodNs))).1) ∧
      writtenTo c (events.foldl (DirectWrites.writeEvent samplingPeriodNs) w).written = writtenTo c w.written ++
        (w.mDirectChannels[c]?.map (fun channel => (take channel (events.map (·, samplingPeriodNs))).2)).getD []
  | [], w => by
    cases hc : w.mDirectChannels[c]? <;> simp [hc, take]
  | event :: events, w => by
    obtain ⟨htable, hwritten⟩ := foldl_writeEvent_channel samplingPeriodNs c events
      (w.writeEvent samplingPeriodNs event)
    obtain ⟨hfirst, hwrittenFirst⟩ := writeEvent_channel samplingPeriodNs w event c
    rw [List.foldl_cons, htable, hwritten, hfirst, hwrittenFirst]
    cases w.mDirectChannels[c]? <;> simp [take]

theorem write_channel (mDirectChannels : StdMap Int32 DirectChannelBase) (call : Call) (c : Int32) :
    (write mDirectChannels call).mDirectChannels[c]? =
        mDirectChannels[c]?.map (fun channel => (take channel (samples [call])).1) ∧
      writtenTo c (write mDirectChannels call).written =
        (mDirectChannels[c]?.map (fun channel => (take channel (samples [call])).2)).getD [] := by
  have hsamples : samples [call] = call.events.map (·, call.samplingPeriodNs.toInt) := List.append_nil _
  rw [hsamples]
  exact foldl_writeEvent_channel call.samplingPeriodNs.toInt c call.events ⟨mDirectChannels, []⟩

/-- **A channel is written what it takes of all samples**: no other channel matters. -/
theorem writtenTo_writeAll (c : Int32) : ∀ (calls : List Call) (mDirectChannels : StdMap Int32 DirectChannelBase),
    writtenTo c (writeAll mDirectChannels calls).written =
      (mDirectChannels[c]?.map (fun channel => (take channel (samples calls)).2)).getD []
  | [], mDirectChannels => by
    show writtenTo c [] = _
    cases mDirectChannels[c]? <;> rfl
  | call :: calls, mDirectChannels => by
    obtain ⟨htable, hwritten⟩ := write_channel mDirectChannels call c
    have hsamples : samples (call :: calls) = samples [call] ++ samples calls := by simp [samples]
    show writtenTo c ((write mDirectChannels call).written ++ _) = _
    rw [writtenTo_append, hwritten, writtenTo_writeAll c calls, htable, hsamples]
    cases mDirectChannels[c]? with
    | none => rfl
    | some channel => simp [take_append]

/-! ## One sensor on a channel -/

/-- The events that a counter lets through. -/
def pick (rateNs : Int64) (sampleCount : Int32) : List (Event × Int) → List Event
  | []                        => []
  | (event, period) :: events =>
    if period * (sampleCount + 1).toInt < rateNs.toInt then pick rateNs (sampleCount + 1) events
    else event :: pick rateNs 0 events

/-- What a channel has for a sensor. -/
structure Entry where
  listed : Bool
  rateNs : Int64
  sampleCount : Int32
  deriving DecidableEq

def entry (channel : DirectChannelBase) (s : Int32) : Entry where
  listed := s ∈ channel.sensorHandles
  rateNs := channel.rateNs.getD s 0
  sampleCount := channel.sampleCount.getD s 0

/-- The events of a sensor that a channel with an entry for it gets. -/
def Entry.receives (e : Entry) (events : List (Event × Int)) : List Event :=
  if e.listed ∧ e.rateNs ≠ 0 then pick e.rateNs e.sampleCount events else []

theorem entry_sample_of_ne (channel : DirectChannelBase) {event : Event} (samplingPeriodNs : Int) {s : Int32}
    (hne : event.sensorHandle ≠ s) : entry (channel.sample event samplingPeriodNs).1 s = entry channel s := by
  unfold DirectChannelBase.sample
  split
  · rfl
  · dsimp only
    split
    · simp [entry]
    · split <;> simp [entry, hne]

theorem sample_of_off (channel : DirectChannelBase) (event : Event) (samplingPeriodNs : Int)
    (hoff : ¬ ((entry channel event.sensorHandle).listed ∧ (entry channel event.sensorHandle).rateNs ≠ 0)) :
    (channel.sample event samplingPeriodNs).2 = false ∧
      entry (channel.sample event samplingPeriodNs).1 event.sensorHandle = entry channel event.sensorHandle := by
  unfold DirectChannelBase.sample
  split
  · exact ⟨rfl, rfl⟩
  · rename_i hlisted
    have hzero : channel.rateNs.getD event.sensorHandle 0 = 0 := by
      by_contra hrate
      exact hoff ⟨decide_eq_true (Decidable.not_not.1 hlisted), hrate⟩
    dsimp only
    rw [StdMap.getD_subscript, if_pos hzero]
    exact ⟨rfl, by simp [entry]⟩

theorem sample_of_on (channel : DirectChannelBase) (event : Event) (samplingPeriodNs : Int) {e : Entry}
    (he : entry channel event.sensorHandle = e) (hon : e.listed ∧ e.rateNs ≠ 0) :
    (channel.sample event samplingPeriodNs).2 =
        !decide (samplingPeriodNs * (e.sampleCount + 1).toInt < e.rateNs.toInt) ∧
      entry (channel.sample event samplingPeriodNs).1 event.sensorHandle = { e with
        sampleCount :=
          if samplingPeriodNs * (e.sampleCount + 1).toInt < e.rateNs.toInt then e.sampleCount + 1 else 0 } := by
  subst he
  obtain ⟨hlisted, hrate⟩ := hon
  have hmem : ¬ event.sensorHandle ∉ channel.sensorHandles := Decidable.not_not.2 (of_decide_eq_true hlisted)
  have hrate : channel.rateNs.getD event.sensorHandle 0 ≠ 0 := hrate
  unfold DirectChannelBase.sample
  rw [if_neg hmem]
  dsimp only
  rw [StdMap.getD_subscript, if_neg hrate]
  dsimp only [entry]
  split
  · rename_i hcount
    simp only [hcount, decide_true, Bool.not_true, if_true, StdMap.getD_insert_eq, StdMap.getD_subscript,
      and_self]
  · rename_i hcount
    simp only [hcount, decide_false, Bool.not_false, if_true, if_false, StdMap.getD_insert_eq, StdMap.getD_subscript,
      and_self]

theorem receives_cons (channel : DirectChannelBase) (event : Event) (period : Int) (events : List (Event × Int)) :
    (entry channel event.sensorHandle).receives ((event, period) :: events) =
      (if (channel.sample event period).2 then [event] else []) ++
        (entry (channel.sample event period).1 event.sensorHandle).receives events := by
  by_cases hon : (entry channel event.sensorHandle).listed ∧ (entry channel event.sensorHandle).rateNs ≠ 0
  · obtain ⟨hwritten, hentry⟩ := sample_of_on channel event period rfl hon
    rw [hentry, hwritten]
    unfold Entry.receives
    rw [if_pos hon, if_pos hon, pick]
    by_cases hcount : period * ((entry channel event.sensorHandle).sampleCount + 1).toInt <
        (entry channel event.sensorHandle).rateNs.toInt
    · rw [decide_eq_true hcount, if_pos hcount, if_pos hcount]
      rfl
    · rw [decide_eq_false hcount, if_neg hcount, if_neg hcount]
      rfl
  · obtain ⟨hwritten, hentry⟩ := sample_of_off channel event period hon
    rw [hentry, hwritten]
    unfold Entry.receives
    rw [if_neg hon, if_neg hon]
    rfl

/-- **Of a sensor's events a channel gets those that the sensor's counter lets through**: no other sensor matters. -/
theorem filter_take (s : Int32) : ∀ (events : List (Event × Int)) (channel : DirectChannelBase),
    (take channel events).2.filter (fun event => event.sensorHandle = s) =
      (entry channel s).receives (events.filter fun sample => sample.1.sensorHandle = s)
  | [], channel => by
    unfold Entry.receives
    split <;> rfl
  | (event, period) :: events, channel => by
    rw [take_cons, List.filter_append, filter_take s events (channel.sample event period).1, List.filter_cons]
    by_cases hs : event.sensorHandle = s
    · subst hs
      have hown : (if (channel.sample event period).2 then [event] else []).filter
          (fun e => e.sensorHandle = event.sensorHandle) = if (channel.sample event period).2 then [event] else [] := by
        split <;> simp
      rw [hown, if_pos (decide_eq_true rfl), receives_cons]
    · have hother : (if (channel.sample event period).2 then [event] else []).filter
          (fun e => e.sensorHandle = s) = [] := by
        split <;> simp [hs]
      rw [hother, if_neg (by simpa using hs), entry_sample_of_ne channel period hs, List.nil_append]

/-! ## Decimation -/

/-- Every `n`-th of events, the first being number 1. -/
def everyNth (n : Nat) (events : List Event) : List Event :=
  (events.zipIdx 1).filterMap fun event => if n ∣ event.2 then some event.1 else none

/-- **A counter lets every `⌈R / P⌉`-th event through.** -/
theorem pick_eq {rateNs : Int64} {period : Int} (hperiod : 0 < period)
    (hbound : rateNs.toInt ≤ period * (2 ^ 31 - 1)) {n : Nat} (hn : n = ⌈(rateNs.toInt : ℚ) / period⌉₊) :
    ∀ (events : List (Event × Int)) (k m : Nat), (∀ sample ∈ events, sample.2 = period) → k < n → m % n = k →
      pick rateNs (Int32.ofNat k) events = ((events.map Prod.fst).zipIdx (m + 1)).filterMap
        (fun event => if n ∣ event.2 then some event.1 else none)
  | [], _, _, _, _, _ => rfl
  | (event, p) :: events, k, m, hconst, hk, hm => by
    obtain ⟨rfl, hconst⟩ := List.forall_mem_cons.1 hconst
    have hq : (0 : ℚ) < p := by exact_mod_cast hperiod
    have hn31 : n ≤ 2 ^ 31 - 1 := by
      rw [hn, Nat.ceil_le, div_le_iff₀ hq, mul_comm]
      exact_mod_cast hbound
    -- the counter stays far below its type's bound
    have hsucc : Int32.ofNat k + 1 = Int32.ofNat (k + 1) := (Int32.ofNat_add k 1).symm
    have htoInt : (Int32.ofNat (k + 1)).toInt = k + 1 := by
      rw [Int32.toInt_ofNat_of_lt (by omega)]
      rfl
    have hlt : p * (Int32.ofNat k + 1).toInt < rateNs.toInt ↔ k + 1 < n := by
      rw [hsucc, htoInt, hn, Nat.lt_ceil, lt_div_iff₀ hq, mul_comm]
      exact_mod_cast Iff.rfl
    rw [pick, List.map_cons, List.zipIdx_cons, List.filterMap_cons]
    by_cases hnext : k + 1 < n
    · have hmod : (m + 1) % n = k + 1 := by rw [Nat.add_mod, hm, Nat.mod_eq_of_lt (show 1 < n by omega),
        Nat.mod_eq_of_lt hnext]
      rw [if_pos (hlt.2 hnext), hsucc, pick_eq hperiod hbound hn events (k + 1) (m + 1) hconst hnext hmod,
        if_neg (by rw [Nat.dvd_iff_mod_eq_zero, hmod]; omega)]
    · have hmod : (m + 1) % n = 0 := by
        rw [← Nat.mod_add_mod, hm, show k + 1 = n by omega, Nat.mod_self]
      rw [if_neg (fun h => hnext (hlt.1 h)), if_pos (Nat.dvd_of_mod_eq_zero hmod)]
      exact congrArg (event :: ·) (pick_eq hperiod hbound hn events 0 (m + 1) hconst (by omega) hmod)

/-! ## The rates of a channel -/

/-- A step of the HAL, or a call of `writeToDirectBuffer`. -/
inductive Op
  | hal (op : HalOp)
  | write (events : List Event) (samplingPeriodNs : Int64) (try_lock : Bool)

def step (s : SensorsHalAidl) : Op → SensorsHalAidl
  | .hal op => s.step op
  | .write events samplingPeriodNs try_lock =>
    { s with mDirectChannels :=
        (writeToDirectBuffer s.mDirectChannels events samplingPeriodNs.toInt try_lock).mDirectChannels }

/-- No rate is slower than that of level `NORMAL`. -/
def Rates (mDirectChannels : StdMap Int32 DirectChannelBase) : Prop :=
  ∀ (c : Int32) (channel : DirectChannelBase), mDirectChannels[c]? = some channel →
    ∀ k : Int32, (channel.rateNs.getD k 0).toInt ≤ 20000000

theorem rateOf_le {rate : RateLevel} {maxRate : Int32} {rateNs : Int64}
    (h : SensorsHalAidl.rateOf rate maxRate = some rateNs) : rateNs.toInt ≤ 20000000 := by
  unfold SensorsHalAidl.rateOf at h
  split at h
  · obtain rfl := Option.some.inj h
    decide
  · obtain rfl := Option.some.inj h
    decide
  · split at h
    · cases h
    · obtain rfl := Option.some.inj h
      decide
  · split at h
    · cases h
    · obtain rfl := Option.some.inj h
      decide
  · cases h

theorem rates_channelsAfter {s : SensorsHalAidl} {op : HalOp} {m : StdMap Int32 DirectChannelBase}
    (h : Rates s.mDirectChannels) (hm : ChannelsAfter s op m) : Rates m := by
  cases hm with
  | same => exact h
  | @configured sensorHandle channelHandle rate channel rateNs hconf =>
    refine (StdMap.all_insert_iff h _ _).2 fun k => ?_
    obtain ⟨sensor, -, -, hrate⟩ := hconf.supported
    rw [StdMap.getD_insert_eq]
    split
    · exact rateOf_le hrate
    · exact h channelHandle channel hconf.registered k
  | @stopped channelHandle channel hc =>
    refine (StdMap.all_insert_iff h _ _).2 fun k => ?_
    rw [getD_foldl_stops]
    split
    · decide
    · exact h channelHandle channel hc k
  | registered =>
    refine StdMap.All.subscript h _ fun k => ?_
    rw [show DirectChannelBase.fresh.rateNs.getD k 0 = 0 from Std.ExtTreeMap.getD_empty]
    decide
  | unregistered => exact StdMap.All.erase h _
  | cleared => exact StdMap.all_empty

theorem rateNs_sample (channel : DirectChannelBase) (event : Event) (samplingPeriodNs : Int) (k : Int32) :
    (channel.sample event samplingPeriodNs).1.rateNs.getD k 0 = channel.rateNs.getD k 0 := by
  unfold DirectChannelBase.sample
  split
  · rfl
  · dsimp only
    split
    · simp
    · split <;> simp

theorem rateNs_take (k : Int32) : ∀ (events : List (Event × Int)) (channel : DirectChannelBase),
    (take channel events).1.rateNs.getD k 0 = channel.rateNs.getD k 0
  | [], _ => rfl
  | (event, period) :: events, channel =>
    (rateNs_take k events (channel.sample event period).1).trans (rateNs_sample channel event period k)

theorem Rates.write {m : StdMap Int32 DirectChannelBase} (h : Rates m) (events : List Event) (samplingPeriodNs : Int)
    (try_lock : Bool) : Rates (writeToDirectBuffer m events samplingPeriodNs try_lock).mDirectChannels := by
  unfold writeToDirectBuffer
  split
  · intro c channel hc k
    rw [(foldl_writeEvent_channel samplingPeriodNs c events ⟨m, []⟩).1] at hc
    obtain ⟨old, hold, rfl⟩ := Option.map_eq_some_iff.1 hc
    rw [rateNs_take]
    exact h c old hold k
  · exact h

theorem rates_step {s : SensorsHalAidl} (op : Op) (h : Rates s.mDirectChannels) :
    Rates (step s op).mDirectChannels := by
  cases op with
  | hal op => exact rates_channelsAfter h (channels_step s op)
  | write events samplingPeriodNs try_lock => exact h.write events samplingPeriodNs.toInt try_lock

/-- **The rates of every channel along a run.** -/
theorem rates_run (timeoutSeconds : UInt32) (descriptions : List SensorDescription) (ops : List Op) :
    Rates (Run.run step (.construct timeoutSeconds descriptions) ops).mDirectChannels :=
  Run.run_of_inv step (fun s => Rates s.mDirectChannels) (fun _ op => rates_step op) ops StdMap.all_empty

/-! ## What a channel receives -/

theorem eventData?_isSome {event : Event} (h : Fits event) : (eventData? event).isSome = true := by
  unfold Fits directTag at h
  unfold eventData?
  split
  · rename_i huncal
    rw [if_pos huncal] at h
    cases hp : event.payload <;> rw [hp] at h <;> first | rfl | cases h
  · rename_i huncal
    rw [if_neg huncal] at h
    cases hp : event.payload <;> rw [hp] at h <;> first | rfl | cases h

theorem sensorsEvent?_of_fits {event : Event} (h : Fits event) :
    ∃ ev, sensorsEvent? event = some ev ∧ ev.sensor = event.sensorHandle := by
  obtain ⟨data, hdata⟩ := Option.isSome_iff_exists.1 (eventData?_isSome h)
  unfold sensorsEvent?
  rw [hdata]
  exact ⟨_, rfl, rfl⟩

theorem mapM_sensorsEvent? (s : Int32) : ∀ {events : List Event}, (∀ event ∈ events, Fits event) →
    ∃ sent, events.mapM sensorsEvent? = some sent ∧
      (events.filter fun event => event.sensorHandle = s).mapM sensorsEvent? = some (sent.filter fun ev => ev.sensor = s)
  | [], _ => ⟨[], rfl, rfl⟩
  | event :: events, h => by
    obtain ⟨hfirst, hrest⟩ := List.forall_mem_cons.1 h
    obtain ⟨ev, hev, hsensor⟩ := sensorsEvent?_of_fits hfirst
    obtain ⟨sent, hsent, hof⟩ := mapM_sensorsEvent? s hrest
    refine ⟨ev :: sent, by rw [List.mapM_cons, hev, hsent]; rfl, ?_⟩
    rw [List.filter_cons, List.filter_cons, hsensor]
    split
    · rw [List.mapM_cons, hev, hof]
      rfl
    · exact hof

theorem entry_sample_same (channel : DirectChannelBase) (event : Event) (samplingPeriodNs : Int) (s : Int32) :
    (entry (channel.sample event samplingPeriodNs).1 s).listed = (entry channel s).listed ∧
      (entry (channel.sample event samplingPeriodNs).1 s).rateNs = (entry channel s).rateNs := by
  by_cases hs : event.sensorHandle = s
  · subst hs
    by_cases hon : (entry channel event.sensorHandle).listed ∧ (entry channel event.sensorHandle).rateNs ≠ 0
    · rw [(sample_of_on channel event samplingPeriodNs rfl hon).2]
      exact ⟨rfl, rfl⟩
    · rw [(sample_of_off channel event samplingPeriodNs hon).2]
      exact ⟨rfl, rfl⟩
  · rw [entry_sample_of_ne channel samplingPeriodNs hs]
    exact ⟨rfl, rfl⟩

/-- **A channel takes events of the sensors only that it has a rate for.** -/
theorem mem_take : ∀ (events : List (Event × Int)) (channel : DirectChannelBase), ∀ event ∈ (take channel events).2,
    event ∈ events.map Prod.fst ∧ event.sensorHandle ∈ channel.sensorHandles ∧
      channel.rateNs.getD event.sensorHandle 0 ≠ 0
  | [], _, _, hm => by cases hm
  | (head, period) :: events, channel, event, hm => by
    rw [take_cons] at hm
    rcases List.mem_append.1 hm with hfirst | hrest
    · by_cases hon : (entry channel head.sensorHandle).listed ∧ (entry channel head.sensorHandle).rateNs ≠ 0
      · have heq : event = head := by
          split at hfirst
          · exact List.mem_singleton.1 hfirst
          · cases hfirst
        subst heq
        exact ⟨List.mem_cons_self, of_decide_eq_true hon.1, hon.2⟩
      · rw [(sample_of_off channel head period hon).1] at hfirst
        cases hfirst
    · obtain ⟨hmem, hlisted, hrate⟩ := mem_take events _ event hrest
      obtain ⟨hsameListed, hsameRate⟩ := entry_sample_same channel head period event.sensorHandle
      refine ⟨List.mem_cons_of_mem _ hmem, of_decide_eq_true (hsameListed.symm.trans (decide_eq_true hlisted)), ?_⟩
      exact fun hzero => hrate (hsameRate.trans hzero)

/-- Some channel has a rate for the sensor. -/
def Served (mDirectChannels : StdMap Int32 DirectChannelBase) (s : Int32) : Prop :=
  ∃ (c : Int32) (channel : DirectChannelBase), mDirectChannels[c]? = some channel ∧ s ∈ channel.sensorHandles ∧
    channel.rateNs.getD s 0 ≠ 0

/-- The events of sensors that are on a channel have the payload that is read. -/
def AllFit (mDirectChannels : StdMap Int32 DirectChannelBase) (calls : List Call) : Prop :=
  ∀ call ∈ calls, ∀ event ∈ call.events, Served mDirectChannels event.sensorHandle → Fits event

theorem fits_of_writtenTo {mDirectChannels : StdMap Int32 DirectChannelBase} {calls : List Call}
    (hfits : AllFit mDirectChannels calls) (c : Int32) :
    ∀ event ∈ writtenTo c (writeAll mDirectChannels calls).written, Fits event := by
  intro event hm
  rw [writtenTo_writeAll] at hm
  cases hc : mDirectChannels[c]? with
  | none =>
    rw [hc] at hm
    cases hm
  | some channel =>
    rw [hc] at hm
    obtain ⟨hmem, hlisted, hrate⟩ := mem_take _ channel event hm
    obtain ⟨sample, hsample, rfl⟩ := List.mem_map.1 hmem
    obtain ⟨call, hcall, hsample⟩ := List.mem_flatMap.1 hsample
    obtain ⟨event, hevent, rfl⟩ := List.mem_map.1 hsample
    exact hfits call hcall event hevent ⟨c, channel, hc, hlisted, hrate⟩

/-- Of what a channel receives, the part of one sensor. -/
def receivedOf? (mDirectChannels : StdMap Int32 DirectChannelBase) (calls : List Call) (channelHandle s : Int32) :
    Option (List SensorsEventT) :=
  (received? mDirectChannels calls channelHandle).map (·.filter fun ev => ev.sensor = s)

/-- **Of a sensor's events a channel receives those that its entry for the sensor lets through.** -/
theorem receivedOf?_eq {mDirectChannels : StdMap Int32 DirectChannelBase} {calls : List Call}
    (hfits : AllFit mDirectChannels calls) (c s : Int32) : receivedOf? mDirectChannels calls c s =
      ((mDirectChannels[c]?.map fun channel => (entry channel s).receives (samplesOf s calls)).getD []).mapM
        sensorsEvent? := by
  obtain ⟨sent, hsent, hof⟩ := mapM_sensorsEvent? s (fits_of_writtenTo hfits c)
  unfold receivedOf? received?
  rw [hsent, Option.map_some, ← hof, writtenTo_writeAll]
  cases mDirectChannels[c]? with
  | none => rfl
  | some channel =>
    rw [Option.map_some, Option.map_some, Option.getD_some, Option.getD_some, filter_take]
    rfl

/-- **What the channels receive of a sensor** that is sampled with one period. -/
structure Decimated (mDirectChannels : StdMap Int32 DirectChannelBase) (calls : List Call) (s : Int32)
    (samplingPeriodNs : Int64) : Prop where
  -- no `get` aborts
  returns : ∀ c : Int32, (received? mDirectChannels calls c).isSome = true
  -- a channel with a rate and a counter of 0 gets every `⌈R / P⌉`-th event
  decimated : ∀ (c : Int32) (channel : DirectChannelBase), mDirectChannels[c]? = some channel →
    s ∈ channel.sensorHandles → 0 < channel.rateNs.getD s 0 → channel.sampleCount.getD s 0 = 0 →
    receivedOf? mDirectChannels calls c s =
      (everyNth ⌈((channel.rateNs.getD s 0).toInt : ℚ) / samplingPeriodNs.toInt⌉₊
        ((samplesOf s calls).map Prod.fst)).mapM sensorsEvent?
  -- a channel that does not list the sensor, or lists it with rate 0, gets none
  skipped : ∀ (c : Int32) (channel : DirectChannelBase), mDirectChannels[c]? = some channel →
    s ∉ channel.sensorHandles ∨ channel.rateNs.getD s 0 = 0 → receivedOf? mDirectChannels calls c s = some []
  -- other channels do not matter
  channels : ∀ (other : StdMap Int32 DirectChannelBase) (c : Int32), other[c]? = mDirectChannels[c]? →
    received? other calls c = received? mDirectChannels calls c
  -- nor do the events of other sensors, or what the channels have for these
  sensors : ∀ (other : StdMap Int32 DirectChannelBase) (calls' : List Call) (c : Int32),
    AllFit other calls' → samplesOf s calls' = samplesOf s calls →
    other[c]?.map (entry · s) = mDirectChannels[c]?.map (entry · s) →
    receivedOf? other calls' c s = receivedOf? mDirectChannels calls c s

theorem receives_of_off {e : Entry} (hoff : e.listed = false ∨ e.rateNs = 0) (events : List (Event × Int)) :
    e.receives events = [] := by
  unfold Entry.receives
  rw [if_neg]
  rintro ⟨hlisted, hrate⟩
  rcases hoff with hoff | hoff
  · rw [hoff] at hlisted
    cases hlisted
  · exact hrate hoff

theorem receives_of_on {e : Entry} (hlisted : e.listed = true) (hrate : 0 < e.rateNs.toInt)
    (hbound : e.rateNs.toInt ≤ 20000000) (hcount : e.sampleCount = 0) {period : Int} (hpositive : 0 < period)
    {events : List (Event × Int)} (hperiod : ∀ sample ∈ events, sample.2 = period) :
    e.receives events = everyNth ⌈(e.rateNs.toInt : ℚ) / period⌉₊ (events.map Prod.fst) := by
  have hne : e.rateNs ≠ 0 := by
    intro h
    rw [h] at hrate
    exact lt_irrefl 0 hrate
  have hn : 0 < ⌈(e.rateNs.toInt : ℚ) / period⌉₊ :=
    Nat.ceil_pos.2 (div_pos (by exact_mod_cast hrate) (by exact_mod_cast hpositive))
  have hfits : e.rateNs.toInt ≤ period * (2 ^ 31 - 1) := by omega
  unfold Entry.receives
  rw [if_pos ⟨hlisted, hne⟩, hcount]
  exact pick_eq hpositive hfits rfl events 0 0 hperiod hn (Nat.zero_mod _)

theorem receivedOf?_congr {calls calls' : List Call} {m m' : StdMap Int32 DirectChannelBase} (hfits : AllFit m calls)
    (hfits' : AllFit m' calls') {c s : Int32} (hsamples : samplesOf s calls' = samplesOf s calls)
    (hentry : m'[c]?.map (entry · s) = m[c]?.map (entry · s)) :
    receivedOf? m' calls' c s = receivedOf? m calls c s := by
  have hmap : ∀ m : StdMap Int32 DirectChannelBase,
      m[c]?.map (fun channel => (entry channel s).receives (samplesOf s calls)) =
        (m[c]?.map (entry · s)).map (Entry.receives · (samplesOf s calls)) := by
    intro m
    cases m[c]? <;> rfl
  rw [receivedOf?_eq hfits', receivedOf?_eq hfits, hsamples, hmap m', hmap m, hentry]

/-- **Decimation and isolation**, from any state of the HAL. -/
theorem decimation_run (timeoutSeconds : UInt32) (descriptions : List SensorDescription) (ops : List Op)
    (calls : List Call) (s : Int32) (samplingPeriodNs : Int64)
    (hfits : AllFit (Run.run step (.construct timeoutSeconds descriptions) ops).mDirectChannels calls)
    (hpositive : 0 < samplingPeriodNs)
    (hperiod : ∀ sample ∈ samplesOf s calls, sample.2 = samplingPeriodNs.toInt) :
    Decimated (Run.run step (.construct timeoutSeconds descriptions) ops).mDirectChannels calls s samplingPeriodNs := by
  have hrates := rates_run timeoutSeconds descriptions ops
  generalize (Run.run step (.construct timeoutSeconds descriptions) ops).mDirectChannels = mDirectChannels
    at hfits hrates ⊢
  have hof : ∀ (c : Int32) (channel : DirectChannelBase), mDirectChannels[c]? = some channel →
      receivedOf? mDirectChannels calls c s =
        ((entry channel s).receives (samplesOf s calls)).mapM sensorsEvent? := by
    intro c channel hc
    rw [receivedOf?_eq hfits, hc, Option.map_some, Option.getD_some]
  have hpositive : 0 < samplingPeriodNs.toInt := Int64.lt_iff_toInt_lt.1 hpositive
  refine ⟨fun c => ?_, fun c channel hc hlisted hrate hcount => ?_, fun c channel hc hoff => ?_, fun other c hc => ?_,
    fun other calls' c hfits' hsamples hentry => receivedOf?_congr hfits hfits' hsamples hentry⟩
  · obtain ⟨sent, hsent, -⟩ := mapM_sensorsEvent? s (fits_of_writtenTo hfits c)
    unfold received?
    rw [hsent]
    rfl
  · have hrate : 0 < (channel.rateNs.getD s 0).toInt := Int64.lt_iff_toInt_lt.1 hrate
    have hon := receives_of_on (e := entry channel s) (decide_eq_true hlisted) hrate (hrates c channel hc s) hcount
      hpositive hperiod
    rw [hof c channel hc, hon]
    simp only [entry]
  · rw [hof c channel hc, receives_of_off (hoff.imp decide_eq_false id)]
    rfl
  · unfold received?
    rw [writtenTo_writeAll, writtenTo_writeAll, hc]

/-- An accelerometer on one channel at level `NORMAL`. -/
def oneChannel : List Op :=
  [.hal (.registerDirectChannel ⟨.ashmem, 1040⟩ ⟨true, 1040, false⟩), .hal (.configDirectReport 1 1 .normal)]

def accelerometer : SensorDescription :=
  { sensorHandle := 1, type := .accelerometer, flags := 0x480, delays := ⟨5000, 20000⟩ }

/-- Its event of a time. -/
def accEvent (timestamp : Int64) : Event :=
  { timestamp := timestamp, sensorHandle := 1, sensorType := .accelerometer, payload := .vec3 ⟨1, 2, 3, 3⟩ }

/-- Seven events, sampled every 8 ms. -/
def sevenEvents : List Call := [1, 2, 3, 4, 5, 6, 7].map fun timestamp => ⟨[accEvent timestamp], 8000000⟩

theorem decimation_run_sevenEvents :
    Decimated (Run.run step (.construct 1 [accelerometer]) oneChannel).mDirectChannels sevenEvents 1 8000000 ∧
    receivedOf? (Run.run step (.construct 1 [accelerometer]) oneChannel).mDirectChannels sevenEvents 1 1 =
      some [⟨104, 1, 1, 0, 3, .acceleration ⟨1, 2, 3, 3⟩⟩, ⟨104, 1, 1, 0, 6, .acceleration ⟨1, 2, 3, 3⟩⟩] :=
  have hfits : ∀ call ∈ sevenEvents, ∀ event ∈ call.events, Fits event := by decide
  ⟨decimation_run 1 [accelerometer] oneChannel sevenEvents 1 8000000 (fun call hcall event hevent _ =>
    hfits call hcall event hevent) (by decide) (by decide), by decide⟩

def thermometer : SensorDescription :=
  { sensorHandle := 1, type := .ambientTemperature, flags := 0x480, delays := ⟨5000, 20000⟩ }

/-- Its payload is a scalar, as the interface has it. -/
def temperatureEvent : Event :=
  { timestamp := 1, sensorHandle := 1, sensorType := .ambientTemperature, payload := .scalar 3 }

/-- **A payload of the right type can be one that is not read**: the `get` of its event aborts. -/
theorem not_decimated_thermometer :
    tag temperatureEvent.payload = requiredTag temperatureEvent.sensorType ∧
      ¬ Decimated (Run.run step (.construct 1 [thermometer]) oneChannel).mDirectChannels
        [⟨[temperatureEvent], 20000000⟩] 1 20000000 := by
  refine ⟨rfl, fun h => ?_⟩
  have hnone : received? (Run.run step (.construct 1 [thermometer]) oneChannel).mDirectChannels
      [⟨[temperatureEvent], 20000000⟩] 1 = none := by
    decide
  have hreturns := h.returns 1
  rw [hnone] at hreturns
  cases hreturns

end HalDirect
end Aidl
end MemsHal
