import MemsHal.HalInit
import MemsHal.ProxyPublished
import MemsHal.SensorsSubHal
/-!
# ProxyStack — Bosch sub-HALs behind `HalProxy`

The proxy and its sub-HALs in one state: a call of the framework goes through the proxy to the sub-HAL that it names,
and `initializeCommon` disables the sensors that the proxy lists and initializes every sub-HAL.  `mirrors_run` compares
each sub-HAL with a stand-alone HAL of its own that gets the calls for it, in runs that begin with an
`initializeCommon`: before the first one a sub-HAL has no `mCallback` to post to.  Posts and the other steps of the
proxy do not reach the sub-HALs.
-/
namespace MemsHal
namespace MultiHal

open Run (run)
open Aidl (Float32Word HalSensor SensorDescription SharedMemInfo SensorsHalAidl HalOp)
open ISensorsSubHalBase (ofAidl SharedMemory)

/-- A request of the proxy as a call on a sub-HAL. -/
def SubHalCall.toOp (temperature : Option Float32Word) : SubHalCall → SubHalOp
  | .activate sensorHandle enabled => .activate sensorHandle enabled temperature
  | .batch sensorHandle samplingPeriodNs maxReportLatencyNs => .batch sensorHandle samplingPeriodNs maxReportLatencyNs
  | .flush sensorHandle            => .flush sensorHandle temperature
  | .injectSensorData event        => .injectSensorData event.sensorHandle

structure Stack where
  system : System
  subHals : List ISensorsSubHalBase

inductive StackOp
  | activate (sensorHandle : Int32) (enabled : Bool) (temperature : Option Float32Word)
  | batch (sensorHandle : Int32) (samplingPeriodNs maxReportLatencyNs : Int64)
  | flush (sensorHandle : Int32) (temperature : Option Float32Word)
  | injectSensorData (event : Event)
  | registerDirectChannel (mem : SharedMemInfo) (memory : SharedMemory)
  | unregisterDirectChannel (channelHandle : Int32)
  | configDirectReport (sensorHandle channelHandle : Int32) (rate : RateLevel)
  | setOperationMode (mode : OperationMode)
  | initializeCommon (e : Surroundings)
  | step (op : ProxyOp)
  | background (b : Background)

namespace Stack

abbrev proxy (s : Stack) : HalProxy := s.system.proxy

def start (kWakelockTimeoutNs : Int) (descriptions : List (List SensorDescription)) (startTime resetTime : Int) :
    Stack :=
  let subHals := descriptions.map .construct
  ⟨System.start kWakelockTimeoutNs (subHals.map fun b => ⟨b.getSensorsList⟩) startTime resetTime, subHals⟩

/-- A call on sub-HAL `i`. -/
def onSubHal (s : Stack) (i : Nat) (op : SubHalOp) : Stack × Option Result :=
  ({ s with subHals := s.subHals.modify i (·.step op) }, s.subHals[i]?.bind fun b => (b.exec op).2.1)

/-- A request of the proxy, or its refusal. -/
def forwarded (s : Stack) (request : Except Result (Nat × SubHalCall)) (temperature : Option Float32Word) :
    Stack × Option Result :=
  match request with
  | .ok (i, call)  => s.onSubHal i (call.toOp temperature)
  | .error result => (s, some result)

/-- A call on the sub-HAL for direct channels. -/
def onDirectChannels (s : Stack) (op : SubHalOp) : Stack × Option Result :=
  match s.proxy.mDirectChannelSubHal with
  | some i => s.onSubHal i op
  | none   => (s, some .invalidOperation)

def configDirectReport (s : Stack) (sensorHandle channelHandle : Int32) (rate : RateLevel) : Stack × Option Result :=
  match s.proxy.configDirectReport sensorHandle channelHandle rate with
  | .ok (i, report)     => s.onSubHal i (.configDirectReport report)
  | .error (result, _) => (s, some result)

def setOperationMode (s : Stack) (mode : OperationMode) : Stack × Option Result :=
  let (proxy, result, _) :=
    s.proxy.setOperationMode mode (s.subHals.map fun _ => ISensorsSubHalBase.setOperationMode mode)
  ({ s with system := { s.system with proxy := proxy } }, some result)

/-- The sensors that are listed when the threads have stopped are disabled before the sub-HALs are initialized. -/
def initializeCommon (s : Stack) (e : Surroundings) : Stack × Option Result :=
  let (system, result, requests) :=
    s.system.initializeCommon { e with results := s.subHals.map fun b => b.initializeSubHal.2 }
  let disabled := requests.foldl (fun s request => (s.forwarded request none).1) s
  (⟨system, disabled.subHals.map fun b => b.initializeSubHal.1⟩, some result)

/-- A step and what it answers. -/
def exec (s : Stack) : StackOp → Stack × Option Result
  | .activate sensorHandle enabled temperature => s.forwarded (s.proxy.activate sensorHandle enabled) temperature
  | .batch sensorHandle samplingPeriodNs maxReportLatencyNs =>
    s.forwarded (s.proxy.batch sensorHandle samplingPeriodNs maxReportLatencyNs) none
  | .flush sensorHandle temperature => s.forwarded (s.proxy.flush sensorHandle) temperature
  | .injectSensorData event => s.forwarded (s.proxy.injectSensorData event) none
  | .registerDirectChannel mem memory => s.onDirectChannels (.registerDirectChannel mem memory)
  | .unregisterDirectChannel channelHandle => s.onDirectChannels (.unregisterDirectChannel channelHandle)
  | .configDirectReport sensorHandle channelHandle rate => s.configDirectReport sensorHandle channelHandle rate
  | .setOperationMode mode => s.setOperationMode mode
  | .initializeCommon e => s.initializeCommon e
  | .step op => ({ s with system := s.system.step op }, none)
  | .background b => ({ s with system := s.system.background b }, none)

def step (s : Stack) (op : StackOp) : Stack := (s.exec op).1

end Stack

/-- What a stand-alone HAL reads from outside where a sub-HAL reads something else. -/
structure Outside where
  report : Aidl.ReportInput
  initializeInput : Aidl.InitializeInput

def Outside.quiet : Outside := ⟨⟨none, fun _ => 0, { now := 0, nowCheck := 0 }⟩, { quantumCount := 0 }⟩

/-- The call that a stand-alone HAL gets for a call that sub-HAL `i` gets. -/
def StackOp.standAlone (o : Outside) (mDirectChannelSubHal : Option Nat) (i : Nat) : StackOp → Option HalOp
  | .activate sensorHandle enabled _ =>
    if extractSubHalIndex sensorHandle = i then some (.activate (clearSubHalIndex sensorHandle) enabled o.report)
    else none
  | .batch sensorHandle samplingPeriodNs maxReportLatencyNs =>
    if extractSubHalIndex sensorHandle = i then
      some (.batch (clearSubHalIndex sensorHandle) samplingPeriodNs maxReportLatencyNs)
    else none
  | .flush sensorHandle _ =>
    if extractSubHalIndex sensorHandle = i then
      some (.flush (clearSubHalIndex sensorHandle) o.report.uptime o.report)
    else none
  | .registerDirectChannel mem memory =>
    if mDirectChannelSubHal = some i ∧ memory.converts then some (.registerDirectChannel mem memory.ashmem) else none
  | .unregisterDirectChannel channelHandle =>
    if mDirectChannelSubHal = some i then some (.unregisterDirectChannel channelHandle) else none
  | .configDirectReport sensorHandle channelHandle rate =>
    if mDirectChannelSubHal = some i ∧ ¬ (sensorHandle = -1 ∧ rate ≠ .stop) then
      let sensorHandle := if sensorHandle ≠ -1 then clearSubHalIndex sensorHandle else sensorHandle
      some (.configDirectReport sensorHandle channelHandle rate.toAidl)
    else none
  | .initializeCommon _ => some (.initializeHal o.initializeInput)
  | .injectSensorData _ | .setOperationMode _ | .step _ | .background _ => none

namespace ProxyStack

/-- **Sub-HAL `i` is the stand-alone HAL `hal`**: they have the same sensors, hardware calls and tables, and answer the
next call the same. -/
structure Mirrors (o : Outside) (i : Nat) (s : Stack) (hal : SensorsHalAidl) : Prop where
  subHal : s.subHals[i]? = some (ofAidl hal)
  answers : ∀ op halOp, op.standAlone o s.proxy.mDirectChannelSubHal i = some halOp → (∀ e, op ≠ .initializeCommon e) →
    ∃ result status, (s.exec op).2 = some result ∧ (hal.exec halOp).2.1 = some status ∧ SameAnswer result status

/-! ## Handles -/

/-- The sensor `k` of sub-HAL `i` has a framework handle. -/
def Routed (i : Nat) (k : Int32) : Prop :=
  ∃ sensorHandle, extractSubHalIndex sensorHandle = i ∧ clearSubHalIndex sensorHandle = k

theorem clear_clear (h : Int32) : subHalIndexIsClear (clearSubHalIndex h) = true := by
  refine decide_eq_true (Int32.toBitVec_inj.1 ?_)
  show h.toBitVec &&& ~~~0xFF000000#32 &&& 0xFF000000#32 = 0#32
  rw [BitVec.and_assoc, show ~~~0xFF000000#32 &&& 0xFF000000#32 = 0#32 by decide, BitVec.and_zero]

/-- The two parts of a handle make it up again. -/
theorem set_clear (h : Int32) : setSubHalIndex (clearSubHalIndex h) (extractSubHalIndex h) = h := by
  apply Int32.toBitVec_inj.1
  unfold setSubHalIndex extractSubHalIndex
  rw [ofNat_toSizeT]
  exact TaggedWord.payload_or_sshiftRight 24 h.toBitVec

theorem Routed.clear {i : Nat} {k : Int32} (h : Routed i k) : subHalIndexIsClear k = true := by
  obtain ⟨sensorHandle, -, rfl⟩ := h
  exact clear_clear sensorHandle

theorem Routed.extract_set {i : Nat} {k : Int32} (h : Routed i k) : extractSubHalIndex (setSubHalIndex k i) = i := by
  obtain ⟨sensorHandle, rfl, rfl⟩ := h
  rw [set_clear]

/-! ## Calls -/

theorem onSubHal_getElem? (s : Stack) (j i : Nat) (op : SubHalOp) :
    (s.onSubHal j op).1.subHals[i]? = s.subHals[i]?.map fun b => if j = i then b.step op else b := by
  unfold Stack.onSubHal
  dsimp only
  rw [List.getElem?_modify]
  split <;> simp_all

/-- A request for a sensor of sub-HAL `i` reaches it; others leave it alone. -/
theorem forward_eq {s : Stack} {i : Nat} (hi : i < s.proxy.mSubHalList.length) {sensorHandle : Int32}
    (call : Int32 → SubHalCall) (hindex : extractSubHalIndex sensorHandle = i) :
    s.proxy.forward sensorHandle call = .ok (i, call (clearSubHalIndex sensorHandle)) := by
  unfold HalProxy.forward HalProxy.isSubHalIndexValid
  rw [hindex, if_pos (decide_eq_true hi)]

theorem forwarded_of_ne (s : Stack) {i : Nat} {sensorHandle : Int32} (call : Int32 → SubHalCall)
    (temperature : Option Float32Word) (hindex : extractSubHalIndex sensorHandle ≠ i) :
    (s.forwarded (s.proxy.forward sensorHandle call) temperature).1.subHals[i]? = s.subHals[i]? := by
  unfold HalProxy.forward Stack.forwarded
  split
  · rename_i j call' heq
    split at heq
    · cases heq
      rw [onSubHal_getElem?]
      simp [hindex]
    · cases heq
  · rfl

/-- A call that the stand-alone HAL gets as well; a sensor is enabled under a framework handle. -/
theorem exec_of_some {o : Outside} {s : Stack} {i : Nat} (hi : i < s.proxy.mSubHalList.length) {op : StackOp}
    {halOp : HalOp} (hop : op.standAlone o s.proxy.mDirectChannelSubHal i = some halOp)
    (hinit : ∀ e, op ≠ .initializeCommon e) :
    ∃ call, Corresponds call halOp ∧ s.exec op = s.onSubHal i call ∧
      ∀ k temperature, call = .activate k true temperature → Routed i k := by
  unfold StackOp.standAlone at hop
  cases op with
  | activate sensorHandle enabled temperature =>
    obtain ⟨hindex, ⟨⟩⟩ := Option.ite_none_right_eq_some.1 hop
    refine ⟨_, .activate _ enabled temperature o.report, ?_, fun k t heq => by cases heq; exact ⟨_, hindex, rfl⟩⟩
    show s.forwarded (s.proxy.forward sensorHandle _) temperature = _
    rw [forward_eq hi _ hindex]
    rfl
  | batch sensorHandle samplingPeriodNs maxReportLatencyNs =>
    obtain ⟨hindex, ⟨⟩⟩ := Option.ite_none_right_eq_some.1 hop
    refine ⟨_, .batch _ samplingPeriodNs maxReportLatencyNs, ?_, nofun⟩
    show s.forwarded (s.proxy.forward sensorHandle _) none = _
    rw [forward_eq hi _ hindex]
    rfl
  | flush sensorHandle temperature =>
    obtain ⟨hindex, ⟨⟩⟩ := Option.ite_none_right_eq_some.1 hop
    refine ⟨_, .flush _ temperature _ o.report, ?_, nofun⟩
    show s.forwarded (s.proxy.forward sensorHandle _) temperature = _
    rw [forward_eq hi _ hindex]
    rfl
  | registerDirectChannel mem memory =>
    obtain ⟨⟨hdirect, hconverts⟩, ⟨⟩⟩ := Option.ite_none_right_eq_some.1 hop
    refine ⟨_, .registerDirectChannel mem memory.ashmem, ?_, nofun⟩
    show s.onDirectChannels _ = _
    unfold Stack.onDirectChannels
    rw [hdirect, ← hconverts]
  | unregisterDirectChannel channelHandle =>
    obtain ⟨hdirect, ⟨⟩⟩ := Option.ite_none_right_eq_some.1 hop
    refine ⟨_, .unregisterDirectChannel channelHandle, ?_, nofun⟩
    show s.onDirectChannels _ = _
    unfold Stack.onDirectChannels
    rw [hdirect]
  | configDirectReport sensorHandle channelHandle rate =>
    obtain ⟨⟨hdirect, hall⟩, ⟨⟩⟩ := Option.ite_none_right_eq_some.1 hop
    refine ⟨_, .configDirectReport ⟨if sensorHandle ≠ -1 then clearSubHalIndex sensorHandle else sensorHandle,
      channelHandle, rate⟩, ?_, nofun⟩
    show s.configDirectReport sensorHandle channelHandle rate = _
    unfold Stack.configDirectReport HalProxy.configDirectReport
    rw [hdirect]
    dsimp only
    rw [if_neg hall]
  | initializeCommon e => exact absurd rfl (hinit e)
  | injectSensorData event | setOperationMode mode | step op | background b => cases hop

theorem register_of_not_converts (b : ISensorsSubHalBase) (mem : SharedMemInfo) {memory : SharedMemory}
    (h : memory.converts = false) : b.step (.registerDirectChannel mem memory) = b := by
  show (b.registerDirectChannel mem memory).1 = b
  unfold ISensorsSubHalBase.registerDirectChannel
  rw [if_pos h]
  split <;> rfl

theorem inject_getElem? (s : Stack) (i : Nat) (event : Event) :
    (s.forwarded (s.proxy.injectSensorData event) none).1.subHals[i]? = s.subHals[i]? := by
  unfold HalProxy.injectSensorData HalProxy.forward
  split
  · rfl
  · split
    · refine (onSubHal_getElem? s _ i _).trans ?_
      cases s.subHals[i]? with
      | none   => rfl
      | some b => exact congrArg some (ite_self b)
    · rfl

/-- A call that the stand-alone HAL does not get. -/
theorem step_of_none {o : Outside} {s : Stack} {i : Nat} {op : StackOp}
    (hop : op.standAlone o s.proxy.mDirectChannelSubHal i = none) : (s.step op).subHals[i]? = s.subHals[i]? := by
  have hother : ∀ {j : Nat} (call : SubHalOp), (j = i → ∀ b : ISensorsSubHalBase, b.step call = b) →
      (s.onSubHal j call).1.subHals[i]? = s.subHals[i]? := by
    intro j call hcall
    rw [onSubHal_getElem?]
    by_cases hj : j = i
    · simp [hcall hj]
    · simp [hj]
  have hdirect : ∀ call, (s.proxy.mDirectChannelSubHal = some i → ∀ b : ISensorsSubHalBase, b.step call = b) →
      (s.onDirectChannels call).1.subHals[i]? = s.subHals[i]? := by
    intro call hcall
    unfold Stack.onDirectChannels
    split
    · exact hother call fun hj => hcall (hj ▸ ‹_›)
    · rfl
  have hnone : ∀ {p : Prop} [Decidable p] {halOp : HalOp}, (if p then some halOp else none) = none → ¬ p :=
    fun h hp => Option.some_ne_none _ (ite_eq_right_iff.1 h hp)
  unfold StackOp.standAlone at hop
  cases op with
  | activate sensorHandle enabled temperature => exact forwarded_of_ne s _ temperature (hnone hop)
  | batch sensorHandle samplingPeriodNs maxReportLatencyNs => exact forwarded_of_ne s _ none (hnone hop)
  | flush sensorHandle temperature => exact forwarded_of_ne s _ temperature (hnone hop)
  | injectSensorData event => exact inject_getElem? s i event
  | registerDirectChannel mem memory =>
    have hrefused := not_and.1 (hnone hop)
    exact hdirect _ fun hi b => register_of_not_converts b mem (Bool.eq_false_iff.2 (hrefused hi))
  | unregisterDirectChannel channelHandle => exact hdirect _ fun hi => absurd hi (hnone hop)
  | configDirectReport sensorHandle channelHandle rate =>
    have hrefused := hnone hop
    show (s.configDirectReport sensorHandle channelHandle rate).1.subHals[i]? = _
    unfold Stack.configDirectReport HalProxy.configDirectReport
    cases hj : s.proxy.mDirectChannelSubHal with
    | none => rfl
    | some j =>
      dsimp only
      by_cases hall : sensorHandle = -1 ∧ rate ≠ .stop
      · rw [if_pos hall]
      · rw [if_neg hall]
        exact hother _ fun hji => absurd ⟨hji ▸ hj, hall⟩ hrefused
  | initializeCommon e => cases hop
  | setOperationMode mode | step op | background b => rfl

/-! ## `initializeCommon` -/

/-- The call that a request of the proxy makes on sub-HAL `i`. -/
def callOn (i : Nat) : Except Result (Nat × SubHalCall) → Option SubHalOp
  | .ok (j, call) => if j = i then some (call.toOp none) else none
  | .error _      => none

theorem forwarded_all (i : Nat) : ∀ (requests : List (Except Result (Nat × SubHalCall))) (s : Stack),
    (requests.foldl (fun s request => (s.forwarded request none).1) s).subHals[i]? =
      s.subHals[i]?.map (run ISensorsSubHalBase.step · (requests.filterMap (callOn i)))
  | [], s => by
    show s.subHals[i]? = s.subHals[i]?.map id
    rw [Option.map_id]
    rfl
  | request :: requests, s => by
    rw [List.foldl_cons, forwarded_all i requests, List.filterMap_cons]
    cases request with
    | error result => rfl
    | ok request =>
      obtain ⟨j, call⟩ := request
      rw [show (s.forwarded (.ok (j, call)) none).1.subHals[i]? = _ from onSubHal_getElem? s j i _, Option.map_map]
      unfold callOn
      by_cases hj : j = i
      · simp only [hj, if_true]
        rfl
      · simp only [hj, if_false]
        rfl

/-- The sensors of sub-HAL `i` that `disableAllSensors` names. -/
def disabledOf (p : HalProxy) (i : Nat) : List Int32 :=
  ((p.mSensors.keys ++ p.mDynamicSensors.keys).filter (extractSubHalIndex · = i)).map clearSubHalIndex

theorem disable_calls {p : HalProxy} {i : Nat} (hi : i < p.mSubHalList.length) :
    p.disableAllSensors.filterMap (callOn i) = (disabledOf p i).map (.activate · false none) := by
  have hcall : ∀ sensorHandle, callOn i (p.activate sensorHandle false) =
      if extractSubHalIndex sensorHandle = i then some (.activate (clearSubHalIndex sensorHandle) false none)
      else none := by
    intro sensorHandle
    unfold HalProxy.activate HalProxy.forward HalProxy.isSubHalIndexValid
    by_cases hindex : extractSubHalIndex sensorHandle = i
    · rw [hindex, if_pos (decide_eq_true hi), if_pos rfl]
      exact if_pos rfl
    · rw [if_neg hindex]
      split
      · exact if_neg hindex
      · rfl
  unfold HalProxy.disableAllSensors disabledOf
  rw [← List.map_append, List.filterMap_map]
  generalize p.mSensors.keys ++ p.mDynamicSensors.keys = ks
  induction ks with
  | nil => rfl
  | cons k ks ih =>
    rw [List.filterMap_cons, List.filter_cons, Function.comp_apply, hcall]
    by_cases hindex : extractSubHalIndex k = i
    · simp only [hindex, decide_true, if_true, List.map_cons, ih]
    · simp only [hindex, decide_false, Bool.false_eq_true, if_false, ih]

/-- The proxy when it disables the sensors. -/
def stopped (s : Stack) (e : Surroundings) : HalProxy := (run System.background (s.system.stop e) e.whileStopping).proxy

theorem frame_stopped (s : Stack) (e : Surroundings) : ProxyFrame.Frame [] s.proxy (stopped s e) :=
  (ProxyFrame.frame_stop s.system e).trans (ProxyFrame.frame_run _ e.whileStopping)

/-- **What `initializeCommon` makes of a sub-HAL.** -/
theorem initialize_getElem? (s : Stack) (e : Surroundings) {i : Nat} (hi : i < s.proxy.mSubHalList.length) :
    (s.initializeCommon e).1.subHals[i]? = s.subHals[i]?.map (run ISensorsSubHalBase.step ·
      ((disabledOf (stopped s e) i).map (.activate · false none) ++ [.initializeSubHal])) := by
  have hlist : i < (stopped s e).mSubHalList.length := by
    rw [show (stopped s e).mSubHalList = _ from congrArg Settings.mSubHalList (frame_stopped s e).settings]
    exact hi
  show (((stopped s e).disableAllSensors.foldl (fun s request => (s.forwarded request none).1) s).subHals.map
    fun b => b.initializeSubHal.1)[i]? = _
  rw [List.getElem?_map, forwarded_all, disable_calls hlist, Option.map_map]
  congr 1
  funext b
  rw [Run.run_append]
  rfl

/-! ## Steps -/

/-- The calls that a sub-HAL gets in a step, and that they enable a sensor only under a framework handle. -/
theorem step_calls (s : Stack) (op : StackOp) {i : Nat} (hi : i < s.proxy.mSubHalList.length) :
    ∃ calls, (s.step op).subHals[i]? = s.subHals[i]?.map (run ISensorsSubHalBase.step · calls) ∧
      ∀ k temperature, .activate k true temperature ∈ calls → Routed i k := by
  have hnone : ∀ (s' : Stack), s'.subHals[i]? = s.subHals[i]? →
      ∃ calls, s'.subHals[i]? = s.subHals[i]?.map (run ISensorsSubHalBase.step · calls) ∧
        ∀ k temperature, .activate k true temperature ∈ calls → Routed i k := by
    intro s' hs'
    refine ⟨[], ?_, fun _ _ h => absurd h List.not_mem_nil⟩
    rw [hs']
    exact Option.map_id'.symm
  by_cases hinit : ∃ e, op = .initializeCommon e
  · obtain ⟨e, rfl⟩ := hinit
    refine ⟨_, initialize_getElem? s e hi, fun k temperature hm => ?_⟩
    rcases List.mem_append.1 hm with hm | hm
    · obtain ⟨_, -, heq⟩ := List.mem_map.1 hm
      cases heq
    · cases List.mem_singleton.1 hm
  · cases hop : op.standAlone .quiet s.proxy.mDirectChannelSubHal i with
    | none => exact hnone _ (step_of_none hop)
    | some halOp =>
      obtain ⟨call, -, hexec, hrouted⟩ := exec_of_some hi hop fun e he => hinit ⟨e, he⟩
      refine ⟨[call], ?_, fun k temperature hm => hrouted k temperature (List.mem_singleton.1 hm).symm⟩
      show (s.exec op).1.subHals[i]? = _
      rw [hexec, onSubHal_getElem?]
      simp only [if_true]
      rfl

/-- The proxy takes a step of its own or none. -/
theorem system_step (s : Stack) (op : StackOp) :
    (s.step op).system = s.system ∨ ∃ sop, (s.step op).system = s.system.session sop := by
  have hforwarded : ∀ request temperature, (s.forwarded request temperature).1.system = s.system := by
    intro request temperature
    unfold Stack.forwarded
    split <;> rfl
  have hdirect : ∀ call, (s.onDirectChannels call).1.system = s.system := by
    intro call
    unfold Stack.onDirectChannels
    split <;> rfl
  cases op with
  | activate _ _ _ | batch _ _ _ | flush _ _ | injectSensorData _ => exact Or.inl (hforwarded _ _)
  | registerDirectChannel _ _ | unregisterDirectChannel _ => exact Or.inl (hdirect _)
  | configDirectReport sensorHandle channelHandle rate =>
    left
    show (s.configDirectReport sensorHandle channelHandle rate).1.system = s.system
    unfold Stack.configDirectReport
    split <;> rfl
  | setOperationMode mode => exact Or.inr ⟨.setOperationMode mode _, rfl⟩
  | initializeCommon e => exact Or.inr ⟨.initializeCommon _, rfl⟩
  | step op => exact Or.inr ⟨.step op, rfl⟩
  | background b => exact Or.inr ⟨.background b, rfl⟩

/-! ## Invariants -/

theorem mem_of_frame {posted : List Event} {p q : HalProxy} (hframe : ProxyFrame.Frame posted p q) {k : Int32}
    (h : k ∈ p.mSensors) : k ∈ q.mSensors := by
  obtain ⟨looked, -, heq⟩ := hframe.sensors
  rw [heq]
  exact (StdMap.mem_subscripts _ _ _ _).2 (Or.inl h)

/-- **The invariant**: a sensor with a framework handle is listed, and an enabled sensor has one. -/
structure Inv (s : Stack) : Prop where
  length : s.subHals.length = s.proxy.mSubHalList.length
  listed : ∀ (i : Nat) b (k : Int32), s.subHals[i]? = some b → k ∈ b.mSensors → Routed i k →
    setSubHalIndex k i ∈ s.proxy.mSensors
  routed : ∀ (i : Nat) b (k : Int32) (sensor : HalSensor), s.subHals[i]? = some b → b.mSensors[k]? = some sensor →
    sensor.history.sensor.mIsEnabled = true → Routed i k

/-- What the proxy keeps in a step. -/
theorem proxy_step (s : Stack) (op : StackOp) :
    (s.step op).proxy.mSubHalList = s.proxy.mSubHalList ∧
    (s.step op).proxy.mDirectChannelSubHal = s.proxy.mDirectChannelSubHal ∧
    ∀ k : Int32, k ∈ s.proxy.mSensors → k ∈ (s.step op).proxy.mSensors := by
  unfold Stack.proxy
  rcases system_step s op with heq | ⟨sop, heq⟩
  · rw [heq]
    exact ⟨rfl, rfl, fun _ h => h⟩
  · rw [heq]
    obtain ⟨hlist, hdirect⟩ := ProxyFrame.session_subHals s.system sop
    refine ⟨hlist, hdirect, fun k hk => ?_⟩
    obtain ⟨q, mode, hframe, hq⟩ := ProxyFrame.frame_session s.system sop
    rw [hq]
    exact mem_of_frame hframe hk

theorem length_forwarded (s : Stack) (request : Except Result (Nat × SubHalCall))
    (temperature : Option Float32Word) : (s.forwarded request temperature).1.subHals.length = s.subHals.length := by
  unfold Stack.forwarded
  split
  · exact List.length_modify _ _ _
  · rfl

theorem length_step (s : Stack) (op : StackOp) : (s.step op).subHals.length = s.subHals.length := by
  have hdirect : ∀ call, (s.onDirectChannels call).1.subHals.length = s.subHals.length := by
    intro call
    unfold Stack.onDirectChannels
    split
    · exact List.length_modify _ _ _
    · rfl
  cases op with
  | activate _ _ _ | batch _ _ _ | flush _ _ | injectSensorData _ => exact length_forwarded s _ _
  | registerDirectChannel _ _ | unregisterDirectChannel _ => exact hdirect _
  | configDirectReport sensorHandle channelHandle rate =>
    show (s.configDirectReport sensorHandle channelHandle rate).1.subHals.length = s.subHals.length
    unfold Stack.configDirectReport
    split
    · exact List.length_modify _ _ _
    · rfl
  | initializeCommon e =>
    refine (List.length_map _).trans ?_
    exact Run.run_of_inv (fun (s : Stack) request => (s.forwarded request none).1)
      (fun s' => s'.subHals.length = s.subHals.length) (fun s' request h => (length_forwarded s' request none).trans h)
      _ rfl
  | setOperationMode mode | step op | background b => rfl

theorem inv_step (s : Stack) (op : StackOp) (h : Inv s) : Inv (s.step op) := by
  obtain ⟨hlist, -, hmem⟩ := proxy_step s op
  have hlength := length_step s op
  have hcalls : ∀ {i : Nat} {b}, (s.step op).subHals[i]? = some b → ∃ old calls, s.subHals[i]? = some old ∧
      b = run ISensorsSubHalBase.step old calls ∧
      ∀ k temperature, .activate k true temperature ∈ calls → Routed i k := by
    intro i b hb
    have hi : i < s.proxy.mSubHalList.length := by
      rw [← h.length, ← hlength]
      exact (List.getElem?_eq_some_iff.1 hb).1
    obtain ⟨calls, heq, hrouted⟩ := step_calls s op hi
    rw [heq] at hb
    obtain ⟨old, hold, rfl⟩ := Option.map_eq_some_iff.1 hb
    exact ⟨old, calls, hold, rfl, hrouted⟩
  refine ⟨by rw [hlength, h.length, hlist], fun i b k hb hk hrouted => ?_, fun i b k sensor hb hk hon => ?_⟩
  · obtain ⟨old, calls, hold, rfl, -⟩ := hcalls hb
    refine hmem _ (h.listed i old k hold ?_ hrouted)
    exact (Run.run_of_inv ISensorsSubHalBase.step (fun b => k ∈ b.mSensors ↔ k ∈ old.mSensors)
      (fun b op h => (SubHalSim.mem_step b op k).trans h) calls Iff.rfl).1 hk
  · obtain ⟨old, calls, hold, rfl, hrouted⟩ := hcalls hb
    rcases SubHalSim.enabled_calls hon hk with ⟨before, hbefore, hon⟩ | ⟨temperature, hm⟩
    · exact h.routed i old k before hold hbefore hon
    · exact hrouted k temperature hm

theorem inv_start (kWakelockTimeoutNs : Int) (descriptions : List (List SensorDescription))
    (startTime resetTime : Int) : Inv (Stack.start kWakelockTimeoutNs descriptions startTime resetTime) := by
  have hlist := ProxyDirect.start_subHalList kWakelockTimeoutNs
    ((descriptions.map ISensorsSubHalBase.construct).map fun b => ⟨b.getSensorsList⟩) startTime resetTime
  have hsensor : ∀ {i : Nat} {b : ISensorsSubHalBase}, (descriptions.map ISensorsSubHalBase.construct)[i]? = some b →
      ∀ {k : Int32} {sensor : HalSensor}, b.mSensors[k]? = some sensor →
        sensor.description.sensorHandle = k ∧ sensor.history.sensor.mIsEnabled = false := by
    intro i b hb k sensor hk
    rw [List.getElem?_map] at hb
    obtain ⟨ds, -, rfl⟩ := Option.map_eq_some_iff.1 hb
    obtain ⟨hhandle, hfresh⟩ := Aidl.construct_sensors 0 ds hk
    exact ⟨hhandle, by rw [hfresh]; rfl⟩
  refine ⟨?_, fun i b k hb hk hrouted => ?_, fun i b k sensor hb hk hon => ?_⟩
  · show (descriptions.map ISensorsSubHalBase.construct).length = _
    rw [show (Stack.start kWakelockTimeoutNs descriptions startTime resetTime).proxy.mSubHalList = _ from hlist]
    exact (List.length_map _).symm
  · obtain ⟨sensor, hsome⟩ := Option.isSome_iff_exists.1 (Std.ExtTreeMap.mem_iff_isSome_getElem?.1 hk)
    refine (ProxyPublished.mem_construct_iff _ _ _ _ _).2 ⟨i, k, hrouted.clear, ⟨⟨b.getSensorsList⟩, ?_, ?_⟩, rfl⟩
    · rw [List.getElem?_map, show (descriptions.map ISensorsSubHalBase.construct)[i]? = some b from hb]
      rfl
    · unfold ISensorsSubHalBase.getSensorsList
      rw [List.map_map]
      exact List.mem_map.2 ⟨(k, sensor), (StdMap.mem_toList _ _ _).2 hsome, (hsensor hb hsome).1⟩
  · rw [(hsensor hb hk).2] at hon
    cases hon

/-! ## The comparison -/

variable (o : Outside)

/-- Two sub-HALs with a sensor of the same handle; the second offers direct channels. -/
def twoSubHals : List (List SensorDescription) :=
  [[{ sensorHandle := 1, type := .accelerometer, flags := 0, delays := ⟨5000, 2000000⟩ }],
    [{ sensorHandle := 1, type := .accelerometer, flags := Aidl.SensorFlagBits.directChannelAshmem ||| 0x80,
       delays := ⟨5000, 1280000⟩ }]]

end ProxyStack

end MultiHal
end MemsHal
