import MemsHal.ProxyInit
import MemsHal.ProxyDirect
import Mathlib.Data.List.Nodup
/-!
# ProxyFlags — the direct-channel flags that `initializeSensorList` leaves

The sub-HAL for direct channels is chosen while the sensors are loaded.  A sensor that is loaded before the choice has
no flag to lose, so every sensor is stored as if the choice had been known from the start (`mSensors_foldl`).
-/
namespace MemsHal
namespace MultiHal

/-- The flags of `setDirectChannelFlags`. -/
def SensorFlagBits.maskDirect : UInt32 := SensorFlagBits.maskDirectReport ||| SensorFlagBits.maskDirectChannel

namespace ProxyFlags

/-- The sensors that are loaded, with the indexes of their sub-HALs, in the order of the loops. -/
def loaded (subHalList : List SubHal) : List (Nat × SensorInfo) :=
  subHalList.zipIdx.flatMap (fun (subHal, i) =>
    (subHal.sensors.filter (fun sensor => subHalIndexIsClear sensor.sensorHandle)).map (fun sensor => (i, sensor)))

/-- The framework's handle of a sensor that is loaded. -/
def handle (entry : Nat × SensorInfo) : Int32 := setSubHalIndex entry.2.sensorHandle entry.1

/-- What is stored for a sensor when the sub-HAL for direct channels is known. -/
def stored (direct : Option Nat) (entry : Nat × SensorInfo) : SensorInfo where
  sensorHandle := handle entry
  flags := if direct = some entry.1 then entry.2.flags else entry.2.flags &&& ~~~SensorFlagBits.maskDirect

/-- **The flags that `mSensors` has for a sensor.**  A sensor of the sub-HAL for direct channels is listed with all its
flags, a sensor of any other sub-HAL without those for direct channels and with all the others. -/
structure RightFlags (p : HalProxy) (entry : Nat × SensorInfo) : Prop where
  kept : p.mDirectChannelSubHal = some entry.1 →
    ∃ sensorInfo, p.mSensors[handle entry]? = some sensorInfo ∧ sensorInfo.flags = entry.2.flags
  cleared : p.mDirectChannelSubHal ≠ some entry.1 →
    ∃ sensorInfo, p.mSensors[handle entry]? = some sensorInfo ∧ sensorInfo.flags &&& SensorFlagBits.maskDirect = 0 ∧
      sensorInfo.flags &&& ~~~SensorFlagBits.maskDirect = entry.2.flags &&& ~~~SensorFlagBits.maskDirect

/-- **Exactly one sub-HAL offers direct channels.**
* It is the first that reports a sensor with one of the flags.
* Every sensor that is loaded is listed with the flags that this leaves it. -/
structure Exclusive (subHalList : List SubHal) (p : HalProxy) : Prop where
  first : p.mDirectChannelSubHal = subHalList.findIdx? SubHal.offersDirectChannel
  flags : ∀ entry ∈ loaded subHalList, RightFlags p entry

/-- No two sensors that are loaded share a framework handle: the indexes fit the byte, and a sub-HAL reports a handle
once. -/
structure DistinctHandles (subHalList : List SubHal) : Prop where
  indexes : subHalList.length ≤ 256
  handles : ∀ subHal ∈ subHalList, (subHal.sensors.map SensorInfo.sensorHandle).Nodup

/-! ## Flags -/

theorem and_not_and (flags mask : UInt32) : flags &&& ~~~mask &&& mask = 0 := by
  rw [UInt32.and_assoc, UInt32.and_comm (~~~mask), UInt32.and_not_self, UInt32.and_zero]

theorem and_not_and_not (flags mask : UInt32) : flags &&& ~~~mask &&& ~~~mask = flags &&& ~~~mask := by
  rw [UInt32.and_assoc, UInt32.and_self]

theorem and_not_of_and_eq_zero {flags mask : UInt32} (h : flags &&& mask = 0) : flags &&& ~~~mask = flags := by
  have hbits : flags.toBitVec &&& mask.toBitVec = 0#32 := congrArg UInt32.toBitVec h
  refine UInt32.eq_of_toBitVec_eq (BitVec.eq_of_getElem_eq fun i hi => ?_)
  have hbit := congrArg (fun b : BitVec 32 => b[i]) hbits
  simp only [BitVec.getElem_and, BitVec.getElem_zero, Bool.and_eq_false_iff] at hbit
  simp only [UInt32.toBitVec_and, UInt32.toBitVec_not, BitVec.getElem_and, BitVec.getElem_not]
  rcases hbit with hf | hm
  · rw [hf, Bool.false_and]
  · rw [hm, Bool.not_false, Bool.and_true]

/-! ## The loops -/

/-- A sensor is stored as any choice wants it that comes out of the loops from here. -/
theorem mSensors_loadSensor (p : HalProxy) (subHalIndex : Nat) (sensor : SensorInfo)
    (hclear : subHalIndexIsClear sensor.sensorHandle = true) (later : Option Nat) :
    (p.loadSensor subHalIndex sensor).mSensors =
      p.mSensors.insert (handle (subHalIndex, sensor))
        (stored ((p.loadSensor subHalIndex sensor).mDirectChannelSubHal.or later) (subHalIndex, sensor)) := by
  have hdirect := ProxyDirect.direct_loadSensor p subHalIndex sensor
  rw [hdirect]
  unfold SensorInfo.offersDirectChannel
  simp only [hclear, true_and, decide_eq_true_eq]
  unfold HalProxy.loadSensor HalProxy.setDirectChannelFlags stored handle SensorFlagBits.maskDirect
  rw [if_pos hclear]
  dsimp only
  cases hchoice : p.mDirectChannelSubHal with
  | none =>
    by_cases hflags : sensor.flags &&& (SensorFlagBits.maskDirectReport ||| SensorFlagBits.maskDirectChannel) = 0
    · simp [hflags, and_not_of_and_eq_zero hflags]
    · simp [hflags]
  | some i =>
    by_cases hi : i = subHalIndex
    · simp [hi]
    · simp [hi]

theorem direct_foldl : ∀ (entries : List (Nat × SensorInfo)) (p : HalProxy), ∃ later,
    (entries.foldl (fun p entry => p.loadSensor entry.1 entry.2) p).mDirectChannelSubHal =
      p.mDirectChannelSubHal.or later
  | [], p => ⟨none, Option.or_none.symm⟩
  | entry :: entries, p => by
    obtain ⟨later, hlater⟩ := direct_foldl entries (p.loadSensor entry.1 entry.2)
    rw [List.foldl_cons, hlater, ProxyDirect.direct_loadSensor, Option.or_assoc]
    exact ⟨_, rfl⟩

/-- **Every sensor is stored as the final choice wants it.** -/
theorem mSensors_foldl (direct : Option Nat) : ∀ (entries : List (Nat × SensorInfo)) (p : HalProxy),
    (∀ entry ∈ entries, subHalIndexIsClear entry.2.sensorHandle = true) →
    (entries.foldl (fun p entry => p.loadSensor entry.1 entry.2) p).mDirectChannelSubHal = direct →
    (entries.foldl (fun p entry => p.loadSensor entry.1 entry.2) p).mSensors =
      StdMap.assign p.mSensors handle (stored direct) entries
  | [], p, _, _ => rfl
  | entry :: entries, p, hclear, hdirect => by
    obtain ⟨hentry, hentries⟩ := List.forall_mem_cons.1 hclear
    rw [List.foldl_cons] at hdirect ⊢
    obtain ⟨later, hlater⟩ := direct_foldl entries (p.loadSensor entry.1 entry.2)
    rw [mSensors_foldl direct entries _ hentries hdirect, mSensors_loadSensor p entry.1 entry.2 hentry later, ← hlater,
      hdirect]
    rfl

theorem initializeSensorList_eq_foldl (p : HalProxy) :
    p.initializeSensorList = (loaded p.mSubHalList).foldl (fun p entry => p.loadSensor entry.1 entry.2) p := by
  have hskip : ∀ (q : HalProxy) (i : Nat) (sensor : SensorInfo),
      (if subHalIndexIsClear sensor.sensorHandle = true then q.loadSensor i sensor else q) = q.loadSensor i sensor := by
    intro q i sensor
    unfold HalProxy.loadSensor
    split <;> rfl
  unfold HalProxy.initializeSensorList loaded
  rw [List.foldl_flatMap]
  simp only [List.foldl_map, List.foldl_filter, hskip]

theorem clear_of_mem_loaded {subHalList : List SubHal} {entry : Nat × SensorInfo} (h : entry ∈ loaded subHalList) :
    subHalIndexIsClear entry.2.sensorHandle = true := by
  obtain ⟨⟨subHal, i⟩, -, hm⟩ := List.mem_flatMap.1 h
  obtain ⟨sensor, hs, rfl⟩ := List.mem_map.1 hm
  exact (List.mem_filter.1 hs).2

/-! ## The list -/

section Construct

variable (kWakelockTimeoutNs : Int) (subHalList : List SubHal) (startTime resetTime : Int)

/-- **The loops store every sensor that they load.** -/
theorem mSensors_construct : (HalProxy.construct kWakelockTimeoutNs subHalList startTime resetTime).mSensors =
    StdMap.assign ∅ handle
      (stored (HalProxy.construct kWakelockTimeoutNs subHalList startTime resetTime).mDirectChannelSubHal)
      (loaded subHalList) := by
  unfold HalProxy.construct
  rw [initializeSensorList_eq_foldl]
  exact mSensors_foldl _ _ _ (fun entry hm => clear_of_mem_loaded hm) rfl

/-- **The last sensor that is loaded under a handle is the one that is listed.** -/
theorem getElem?_construct {entry : Nat × SensorInfo} (hlast : StdMap.Last handle (loaded subHalList) entry) :
    (HalProxy.construct kWakelockTimeoutNs subHalList startTime resetTime).mSensors[handle entry]? =
      some (stored (HalProxy.construct kWakelockTimeoutNs subHalList startTime resetTime).mDirectChannelSubHal entry) := by
  rw [mSensors_construct]
  exact (StdMap.getElem?_assign_iff ..).2 (Or.inl ⟨entry, hlast, rfl, rfl⟩)

theorem rightFlags_construct {entry : Nat × SensorInfo} (hlast : StdMap.Last handle (loaded subHalList) entry) :
    RightFlags (HalProxy.construct kWakelockTimeoutNs subHalList startTime resetTime) entry := by
  have hlisted := getElem?_construct kWakelockTimeoutNs subHalList startTime resetTime hlast
  refine ⟨fun hchosen => ⟨_, hlisted, if_pos hchosen⟩, fun hother => ⟨_, hlisted, ?_⟩⟩
  have hflags : (stored (HalProxy.construct kWakelockTimeoutNs subHalList startTime resetTime).mDirectChannelSubHal
      entry).flags = entry.2.flags &&& ~~~SensorFlagBits.maskDirect := if_neg hother
  rw [hflags]
  exact ⟨and_not_and _ _, and_not_and_not _ _⟩

end Construct

/-- **Where no sub-HAL reports a handle twice and there are at most 256 of them, every sensor is listed.** -/
theorem last_of_mem_loaded {subHalList : List SubHal} (hdistinct : DistinctHandles subHalList)
    {entry : Nat × SensorInfo} (h : entry ∈ loaded subHalList) : StdMap.Last handle (loaded subHalList) entry := by
  have hlt : ∀ other ∈ loaded subHalList, other.1 < 256 := by
    intro other hm
    obtain ⟨⟨subHal, i⟩, hentry, hs⟩ := List.mem_flatMap.1 hm
    obtain ⟨sensor, -, rfl⟩ := List.mem_map.1 hs
    exact Nat.lt_of_lt_of_le (List.getElem?_eq_some_iff.1 (List.mk_mem_zipIdx_iff_getElem?.1 hentry)).1 hdistinct.indexes
  have hpairs : ((loaded subHalList).map (fun entry => (entry.1, entry.2.sensorHandle))).Nodup := by
    unfold loaded
    rw [List.map_flatMap]
    refine List.nodup_flatMap.2 ⟨fun (subHal, i) hentry => ?_, ?_⟩
    · have hsub := hdistinct.handles subHal (List.mem_of_getElem? (List.mk_mem_zipIdx_iff_getElem?.1 hentry))
      have hlocal := (List.Sublist.map SensorInfo.sensorHandle
        (List.filter_sublist (p := fun sensor => subHalIndexIsClear sensor.sensorHandle))).nodup hsub
      have hpair := hlocal.map (Prod.mk_right_injective i)
      rw [List.map_map] at hpair ⊢
      exact hpair
    · have hindex : (subHalList.zipIdx.map Prod.snd).Pairwise (· ≠ ·) := by
        rw [List.zipIdx_map_snd]
        exact List.nodup_range'
      refine (List.pairwise_map.1 hindex).imp (fun {a b} hne => ?_)
      intro x ha hb
      obtain ⟨_, hentry, rfl⟩ := List.mem_map.1 ha
      obtain ⟨_, hother, heq⟩ := List.mem_map.1 hb
      obtain ⟨_, -, rfl⟩ := List.mem_map.1 hentry
      obtain ⟨_, -, rfl⟩ := List.mem_map.1 hother
      exact hne (congrArg Prod.fst heq).symm
  refine StdMap.last_of_nodup ?_ h
  have hmap : (loaded subHalList).map handle =
      ((loaded subHalList).map (fun entry => (entry.1, entry.2.sensorHandle))).map
        (fun pair => setSubHalIndex pair.2 pair.1) := by
    rw [List.map_map]
    rfl
  rw [hmap]
  refine hpairs.map_on fun a ha b hb heq => ?_
  obtain ⟨x, hx, rfl⟩ := List.mem_map.1 ha
  obtain ⟨y, hy, rfl⟩ := List.mem_map.1 hb
  obtain ⟨hi, hh⟩ := set_inj (clear_of_mem_loaded hx) (clear_of_mem_loaded hy) (hlt x hx) (hlt y hy) heq
  exact Prod.ext hi hh

/-- **The choice is the first sub-HAL for every list, and so are the flags of the last sensor under each handle.**  Where
no two sensors share a handle, that is every sensor. -/
theorem exclusive_construct (kWakelockTimeoutNs : Int) (subHalList : List SubHal) (startTime resetTime : Int) :
    (HalProxy.construct kWakelockTimeoutNs subHalList startTime resetTime).mDirectChannelSubHal =
      subHalList.findIdx? SubHal.offersDirectChannel ∧
    (∀ entry, StdMap.Last handle (loaded subHalList) entry →
      RightFlags (HalProxy.construct kWakelockTimeoutNs subHalList startTime resetTime) entry) ∧
    (DistinctHandles subHalList →
      Exclusive subHalList (HalProxy.construct kWakelockTimeoutNs subHalList startTime resetTime)) := by
  have hfirst := ProxyDirect.direct_run kWakelockTimeoutNs subHalList startTime resetTime []
  have hlast := @rightFlags_construct kWakelockTimeoutNs subHalList startTime resetTime
  exact ⟨hfirst, fun entry => hlast, fun hdistinct => ⟨hfirst, fun entry hm => hlast (last_of_mem_loaded hdistinct hm)⟩⟩

/-- Two sub-HALs with sensors of the same handle; the second sensor of the first is the one with the flag. -/
theorem exclusive_construct_two : Exclusive [⟨[⟨1, 3⟩, ⟨2, 0x400⟩]⟩, ⟨[⟨1, 0x481⟩]⟩]
    (HalProxy.construct 10 [⟨[⟨1, 3⟩, ⟨2, 0x400⟩]⟩, ⟨[⟨1, 0x481⟩]⟩] 0 0) :=
  (exclusive_construct 10 _ 0 0).2.2 ⟨by decide, by decide⟩

/-- **A handle twice.**  A sub-HAL reports a sensor with a flag for direct channels, and then another without it under
the same handle; or the sub-HAL at index 256 does, whose index does not fit the byte. -/
theorem not_exclusive_repeated :
    ¬ Exclusive [⟨[⟨1, 0x400⟩, ⟨1, 0⟩]⟩] (HalProxy.construct 10 [⟨[⟨1, 0x400⟩, ⟨1, 0⟩]⟩] 0 0) ∧
    ¬ Exclusive (⟨[⟨1, 0x400⟩]⟩ :: List.replicate 255 ⟨[]⟩ ++ [⟨[⟨1, 0⟩]⟩])
      (HalProxy.construct 10 (⟨[⟨1, 0x400⟩]⟩ :: List.replicate 255 ⟨[]⟩ ++ [⟨[⟨1, 0⟩]⟩]) 0 0) := by
  constructor
  all_goals
    intro h
    obtain ⟨sensorInfo, hlisted, hflags⟩ := (h.flags (0, ⟨1, 0x400⟩) (by decide +kernel)).kept (by decide +kernel)
    have hflagless : (some ⟨1, 0⟩ : Option SensorInfo) = some sensorInfo := hlisted ▸ by decide +kernel
    cases Option.some.inj hflagless
    cases hflags

end ProxyFlags
end MultiHal
end MemsHal
