import MemsHal.Outbox
import MemsHal.ProxyInit
import Mathlib.Data.Finset.Basic
/-!
# ProxyDynamic — what the framework knows of the dynamic sensors

`onDynamicSensorsConnected` and `onDynamicSensorsDisconnected` change `mDynamicSensors` under their mutex and call the
framework after giving it up, so each is two steps and the calls of the framework can come in another order than the
changes.  The framework ends up with the sensors of the map, however the calls under way are interleaved, exactly if no
call overtakes news that contradict it (`along_agrees`).
-/
namespace MemsHal
namespace MultiHal
namespace ProxyDynamic

open Run (lastOf)

/-- A call of `mDynamicSensorsCallback`. -/
inductive Notification
  | onDynamicSensorsConnected (sensorInfos : List SensorInfo)
  | onDynamicSensorsDisconnected (sensorHandles : List Int32)

namespace Notification

/-- What the framework does with a call. -/
def apply (known : Finset Int32) : Notification → Finset Int32
  | .onDynamicSensorsConnected sensorInfos      => known ∪ (sensorInfos.map SensorInfo.sensorHandle).toFinset
  | .onDynamicSensorsDisconnected sensorHandles => known \ sensorHandles.toFinset

/-- Whether a handle is there, for a call that is about the handle. -/
def tells (sensorHandle : Int32) : Notification → Option Bool
  | .onDynamicSensorsConnected sensorInfos =>
    if sensorHandle ∈ sensorInfos.map SensorInfo.sensorHandle then some true else none
  | .onDynamicSensorsDisconnected sensorHandles => if sensorHandle ∈ sensorHandles then some false else none

end Notification

/-- The proxy, the calls of the framework it has yet to make, in the order of the changes, and those it has made. -/
structure Dynamic where
  proxy : HalProxy
  outbox : Outbox Notification

/-- The two first steps, and the second step of the `call`-th call under way. -/
inductive DynamicOp
  | onDynamicSensorsConnected (dynamicSensorsAdded : List SensorInfo) (subHalIndex : Int32)
  | onDynamicSensorsDisconnected (dynamicSensorHandlesRemoved : List Int32) (subHalIndex : Int32)
  | callback (call : Nat)

namespace Dynamic

def step (s : Dynamic) : DynamicOp → Dynamic
  | .onDynamicSensorsConnected dynamicSensorsAdded subHalIndex =>
    let (proxy, sensors) := s.proxy.onDynamicSensorsConnected dynamicSensorsAdded subHalIndex
    ⟨proxy, s.outbox.post (.onDynamicSensorsConnected sensors)⟩
  | .onDynamicSensorsDisconnected dynamicSensorHandlesRemoved subHalIndex =>
    let (proxy, sensorHandles) := s.proxy.onDynamicSensorsDisconnected dynamicSensorHandlesRemoved subHalIndex
    ⟨proxy, s.outbox.post (.onDynamicSensorsDisconnected sensorHandles)⟩
  | .callback call => { s with outbox := s.outbox.deliver call }

/-- A proxy without dynamic sensors and a framework that has not been called. -/
def start (p : HalProxy) : Dynamic := ⟨{ p with mDynamicSensors := ∅ }, .empty⟩

/-- The dynamic sensors the framework knows. -/
def known (s : Dynamic) : Finset Int32 := s.outbox.delivered.foldl Notification.apply ∅

/-- The calls under way are completed, oldest change first. -/
def settle (s : Dynamic) : Dynamic := { s with outbox := s.outbox.settle }

end Dynamic

/-- The framework knows the dynamic sensors of the proxy. -/
def Agrees (s : Dynamic) : Prop := ∀ sensorHandle : Int32, sensorHandle ∈ s.known ↔ sensorHandle ∈ s.proxy.mDynamicSensors

/-- A call does not overtake news that contradict it, about a handle that no later change is about. -/
def InOrder (s : Dynamic) : DynamicOp → Prop
  | .callback call => s.outbox.InOrder Notification.tells call
  | _              => True

/-! ## What the framework knows -/

theorem tells_connected (k : Int32) (sensorInfos : List SensorInfo) :
    (Notification.onDynamicSensorsConnected sensorInfos).tells k =
      if ∃ sensor ∈ sensorInfos, sensor.sensorHandle = k then some true else none := by
  show (if _ then _ else _) = _
  simp only [List.mem_map]

theorem tells_disconnected (k : Int32) (sensorHandles : List Int32) :
    (Notification.onDynamicSensorsDisconnected sensorHandles).tells k =
      if k ∈ sensorHandles then some false else none := rfl

theorem mem_apply (known : Finset Int32) (n : Notification) (k : Int32) :
    k ∈ n.apply known ↔ (n.tells k).getD (k ∈ known) = true := by
  cases n with
  | onDynamicSensorsConnected sensorInfos =>
    rw [tells_connected, Notification.apply, Finset.mem_union, List.mem_toFinset, List.mem_map]
    split <;> simp_all
  | onDynamicSensorsDisconnected sensorHandles =>
    rw [tells_disconnected, Notification.apply, Finset.mem_sdiff, List.mem_toFinset]
    split <;> simp_all

theorem mem_foldl_apply (k : Int32) : ∀ (received : List Notification) (known : Finset Int32),
    k ∈ received.foldl Notification.apply known ↔ (lastOf (Notification.tells k) received).getD (k ∈ known) = true
  | [], known => by
    show k ∈ known ↔ decide (k ∈ known) = true
    rw [decide_eq_true_eq]
  | n :: received, known => by
    rw [List.foldl_cons, mem_foldl_apply k received, Run.lastOf_cons]
    cases lastOf (Notification.tells k) received with
    | some b => rfl
    | none =>
      simp only [Option.getD_none, Option.none_or, decide_eq_true_eq]
      exact mem_apply known n k

/-- **The framework knows a sensor exactly if the last call about it connected it.** -/
theorem mem_known (s : Dynamic) (k : Int32) : k ∈ s.known ↔ s.outbox.believed Notification.tells k = some true := by
  have h := mem_foldl_apply k s.outbox.delivered ∅
  unfold Dynamic.known Outbox.believed
  rw [h]
  cases lastOf (Notification.tells k) s.outbox.delivered <;> simp

/-! ## Steps -/

/-- A first step leaves the map as its call will leave the framework. -/
theorem settled_post {s : Dynamic} (h : Agrees s.settle) {p : HalProxy} {n : Notification}
    (hmem : ∀ k : Int32, k ∈ p.mDynamicSensors ↔ (n.tells k).getD (k ∈ s.proxy.mDynamicSensors) = true) :
    Agrees (Dynamic.settle ⟨p, s.outbox.post n⟩) := by
  intro k
  have hk : _ ↔ k ∈ s.proxy.mDynamicSensors := h k
  rw [mem_known] at hk ⊢
  show Outbox.believed Notification.tells (s.outbox.post n).settle k = some true ↔ k ∈ p.mDynamicSensors
  rw [Outbox.believed_settle_post, hmem]
  cases n.tells k with
  | some b => simp
  | none =>
    simp only [Option.none_or, Option.getD_none, decide_eq_true_eq]
    exact hk

theorem settled_connected {s : Dynamic} (h : Agrees s.settle) (dynamicSensorsAdded : List SensorInfo)
    (subHalIndex : Int32) :
    Agrees (s.step (.onDynamicSensorsConnected dynamicSensorsAdded subHalIndex)).settle := by
  obtain ⟨m, heq, hmem⟩ := ProxyInit.connected_spec s.proxy dynamicSensorsAdded subHalIndex
  refine settled_post h (p := (s.proxy.onDynamicSensorsConnected dynamicSensorsAdded subHalIndex).1)
    (n := .onDynamicSensorsConnected (s.proxy.onDynamicSensorsConnected dynamicSensorsAdded subHalIndex).2)
    (fun k => ?_)
  rw [heq, tells_connected]
  refine (hmem k).trans ?_
  split <;> simp_all

theorem settled_disconnected {s : Dynamic} (h : Agrees s.settle) (dynamicSensorHandlesRemoved : List Int32)
    (subHalIndex : Int32) :
    Agrees (s.step (.onDynamicSensorsDisconnected dynamicSensorHandlesRemoved subHalIndex)).settle := by
  obtain ⟨m, heq, hmem, hout⟩ := ProxyInit.disconnected_spec s.proxy dynamicSensorHandlesRemoved subHalIndex
  refine settled_post h (p := (s.proxy.onDynamicSensorsDisconnected dynamicSensorHandlesRemoved subHalIndex).1)
    (n := .onDynamicSensorsDisconnected
      (s.proxy.onDynamicSensorsDisconnected dynamicSensorHandlesRemoved subHalIndex).2) (fun k => ?_)
  rw [heq, tells_disconnected]
  refine (hmem k).trans ?_
  split
  · rename_i hk
    exact iff_of_false (fun hn => hn.2 ((hout k).1 hk).2) Bool.false_ne_true
  · rename_i hk
    rw [Option.getD_none, decide_eq_true_eq]
    exact and_iff_left_of_imp fun hm hr => hk ((hout k).2 ⟨hm, hr⟩)

/-- A callback that is in order, and no other, leaves the framework to agree in the end. -/
theorem settled_callback_iff {s : Dynamic} (h : Agrees s.settle) (call : Nat) :
    Agrees (s.step (.callback call)).settle ↔ s.outbox.InOrder Notification.tells call := by
  rw [← Outbox.believed_deliver_iff]
  refine forall_congr' fun k => ?_
  have hk : k ∈ s.settle.known ↔ k ∈ s.proxy.mDynamicSensors := h k
  have hnone := Outbox.believed_deliver_eq_none_iff Notification.tells s.outbox call k
  rw [mem_known] at hk ⊢
  show (Outbox.believed Notification.tells (s.outbox.deliver call).settle k = some true ↔
    k ∈ s.proxy.mDynamicSensors) ↔ _
  rw [← hk]
  show (_ ↔ Outbox.believed Notification.tells s.outbox.settle k = some true) ↔ _
  generalize Outbox.believed Notification.tells (s.outbox.deliver call).settle k = late at hnone
  generalize Outbox.believed Notification.tells s.outbox.settle k = early at hnone
  rcases late with _ | _ | _ <;> rcases early with _ | _ | _ <;> simp_all

theorem settled_step_iff (s : Dynamic) (op : DynamicOp) (h : Agrees s.settle) :
    Agrees (s.step op).settle ↔ InOrder s op := by
  cases op with
  | onDynamicSensorsConnected dynamicSensorsAdded subHalIndex =>
    exact iff_of_true (settled_connected h dynamicSensorsAdded subHalIndex) trivial
  | onDynamicSensorsDisconnected dynamicSensorHandlesRemoved subHalIndex =>
    exact iff_of_true (settled_disconnected h dynamicSensorHandlesRemoved subHalIndex) trivial
  | callback call => exact settled_callback_iff h call

theorem settled_start (p : HalProxy) : Agrees (Dynamic.start p).settle := by
  intro k
  rw [mem_known]
  exact iff_of_false (fun h => by cases h) Std.ExtTreeMap.not_mem_empty

/-! ## Runs -/

theorem settle_of_quiescent {s : Dynamic} (h : s.outbox.pending = []) : s.settle = s := by
  unfold Dynamic.settle
  rw [Outbox.settle_of_quiescent h]

/-- **The framework agrees with the proxy whenever no call is under way, in every run whose callbacks are in order**; and
the callbacks are in order exactly if the framework would agree at any time once the calls under way were completed,
oldest change first. -/
theorem along_agrees (p : HalProxy) (ops : List DynamicOp) :
    (Run.Steps Dynamic.step InOrder (Dynamic.start p) ops →
      Run.Along Dynamic.step (fun s => s.outbox.pending = [] → Agrees s) (Dynamic.start p) ops) ∧
    (Run.Along Dynamic.step (fun s => Agrees s.settle) (Dynamic.start p) ops ↔
      Run.Steps Dynamic.step InOrder (Dynamic.start p) ops) := by
  have hiff := Run.along_iff_steps' (I := fun _ => True) (fun _ _ _ => trivial)
    (fun s op _ => settled_step_iff s op) ops trivial (settled_start p)
  refine ⟨fun hsteps => (hiff.2 hsteps).imp (fun s hs hquiet => ?_), hiff⟩
  rw [← settle_of_quiescent hquiet]
  exact hs

/-- One thread of a sub-HAL connects a sensor and another disconnects it; the second calls the framework first. -/
theorem not_agrees_overtaken :
    let s := Run.run Dynamic.step (Dynamic.start wakeUpProxy)
      [.onDynamicSensorsConnected [⟨5, 0⟩] 0, .onDynamicSensorsDisconnected [5] 0, .callback 1, .callback 0]
    s.outbox.pending = [] ∧ ¬ Agrees s := by
  refine ⟨rfl, fun h => ?_⟩
  exact absurd (h 5) (by decide)

end ProxyDynamic
end MultiHal
end MemsHal
