import MemsHal.Run
import MemsHal.SensorList
/-!
# CoreRate — the sampling rate of one `SensorCore`

The core recomputes the rate when a period is batched and when it starts or stops, and not when one more type is
switched on or off while others keep it running.  The rate in force is then right exactly as long as no such switch
concerns the one fastest client (`along_rateInForce_iff`).
-/
namespace MemsHal
namespace CoreRate

open Run (Along Steps)

/-- A core, the calls it has made on its driver and what was asked of it. -/
structure World where
  core : SensorCore
  calls : List DriverCall
  asked : Clients BoschSensorType Int

def fresh (data : SensorData) (device : String) : World :=
  ⟨{ mSensorData := data, mDevice := device }, [], .none⟩

def step (w : World) (op : CoreOp) : World :=
  ⟨(w.core.exec op).1, w.calls ++ (w.core.exec op).2, op.ask w.asked⟩

def samplingRate? : DriverCall → Option Int
  | .setSamplingRate samplingPeriodNs => some samplingPeriodNs
  | .setPowerMode _                   => none

/-- The value most recently passed to `setSamplingRate`. -/
def lastSamplingRate (calls : List DriverCall) : Option Int := Run.lastOf samplingRate? calls

/-- **The rate in force is the one asked for**: while some type is enabled, the last period passed to the driver is the
least of the slowest period and the batched periods of the enabled types. -/
def RateInForce (w : World) : Prop :=
  w.asked.Running → ∃ p, lastSamplingRate w.calls = some p ∧ w.asked.IsRate {w.core.maxDelayNs} p

/-- The operation does not switch, on a core that other types keep running, a type that asked for a faster rate than
all the others. -/
def KeepsRate (w : World) : CoreOp → Prop
  | .activateByType type enable =>
    w.asked.Running → (w.asked.activate type enable).Running →
      w.asked.active type = enable ∨ w.asked.Covered {w.core.maxDelayNs} type
  | .batchByType _ _ _ => True

/-- What holds after every operation, kept rate or not. -/
structure Inv (w : World) : Prop where
  clients : w.core.clients = w.asked
  consistent : w.core.Consistent

theorem inv_fresh (data : SensorData) (device : String) : Inv (fresh data device) :=
  ⟨rfl, iff_of_false Bool.false_ne_true Clients.not_running_none⟩

theorem inv_step (w : World) (op : CoreOp) (h : Inv w) : Inv (step w op) :=
  ⟨(SensorCore.exec_clients w.core op).trans (congrArg op.ask h.clients),
    SensorCore.exec_consistent w.core op h.consistent⟩

theorem step_maxDelayNs (w : World) (op : CoreOp) : (step w op).core.maxDelayNs = w.core.maxDelayNs :=
  congrArg (fun d : SensorData => d.maxDelayUs * 1000) (SensorCore.exec_data w.core op)

theorem lastSamplingRate_append (l : List DriverCall) (p : Int) :
    lastSamplingRate (l ++ [.setSamplingRate p]) = some p :=
  Run.lastOf_append _ _ _

theorem lastSamplingRate_powerMode (l : List DriverCall) (b : Bool) (p : Int) :
    lastSamplingRate (l ++ [.setPowerMode b, .setSamplingRate p]) = some p :=
  Run.lastOf_append _ _ _

/-- A step that calls `setSamplingRate` puts the rate asked for in force. -/
theorem rateInForce_of_call (w : World) (op : CoreOp) {p : Int}
    (hrate : (step w op).asked.IsRate {w.core.maxDelayNs} p) (hlast : lastSamplingRate (step w op).calls = some p) :
    RateInForce (step w op) := by
  intro _
  refine ⟨p, hlast, ?_⟩
  rw [step_maxDelayNs]
  exact hrate

/-- **One step keeps the rate in force exactly when it is a `KeepsRate` step.** -/
theorem rateInForce_step_iff (w : World) (op : CoreOp) (h : Inv w) (hr : RateInForce w) :
    RateInForce (step w op) ↔ KeepsRate w op := by
  cases op with
  | batchByType t q l =>
    obtain ⟨-, p, hrate, hcalls⟩ := SensorCore.exec_batchByType w.core t q l
    rw [h.clients] at hrate
    have hlast : lastSamplingRate (step w (.batchByType t q l)).calls = some p := by
      simp only [step, hcalls, lastSamplingRate_append]
    exact iff_of_true (rateInForce_of_call w _ hrate hlast) trivial
  | activateByType t e =>
    obtain ⟨hen, hcases⟩ := SensorCore.exec_activateByType w.core t e
    have hon := h.consistent
    unfold SensorCore.Consistent at hon
    rw [h.clients] at hon hen
    rcases hcases with ⟨hsame, hcalls⟩ | ⟨hdiff, p, hrate, hcalls⟩
    · -- the core neither starts nor stops: the driver is not called
      have hlast : lastSamplingRate (step w (.activateByType t e)).calls = lastSamplingRate w.calls := by
        simp only [step, hcalls, List.append_nil]
      rw [hsame] at hen
      have hrun : (w.asked.activate t e).Running ↔ w.asked.Running := hen.symm.trans hon
      unfold RateInForce
      rw [hlast, step_maxDelayNs]
      show ((w.asked.activate t e).Running → _) ↔
        (w.asked.Running → (w.asked.activate t e).Running → _)
      constructor
      · intro hafter hbefore hr'
        obtain ⟨p, hp, hrate⟩ := hr hbefore
        obtain ⟨p', hp', hrate'⟩ := hafter hr'
        obtain rfl : p = p' := Option.some.inj (hp.symm.trans hp')
        exact (Clients.isRate_activate_iff hrate t e).1 hrate'
      · intro hkeep hr'
        obtain ⟨p, hp, hrate⟩ := hr (hrun.1 hr')
        exact ⟨p, hp, (Clients.isRate_activate_iff hrate t e).2 (hkeep (hrun.1 hr') hr')⟩
    · -- the core starts or stops: the rate is recomputed
      rw [h.clients] at hrate
      have hlast : lastSamplingRate (step w (.activateByType t e)).calls = some p := by
        simp only [step, hcalls, lastSamplingRate_powerMode]
      refine iff_of_true (rateInForce_of_call w _ hrate hlast) (fun hb ha => absurd ?_ hdiff)
      rw [hen.2 ha, hon.2 hb]

/-- **The rate in force along a run.** -/
theorem along_rateInForce_iff (data : SensorData) (device : String) (ops : List CoreOp) :
    Along step RateInForce (fresh data device) ops ↔ Steps step KeepsRate (fresh data device) ops :=
  Run.along_iff_steps' inv_step rateInForce_step_iff ops (inv_fresh data device)
    (fun h => absurd h Clients.not_running_none)

/-- The accelerometer runs at 100 ms, then gravity is batched at 20 ms and activated. -/
def slowThenFast : List CoreOp :=
  [.batchByType .accel 100000000 0, .activateByType .accel true, .batchByType .gravity 20000000 0,
    .activateByType .gravity true]

/-- **A faster client activated on a running core gets no rate.** -/
theorem not_along_rateInForce_slowThenFast : ¬ Along step RateInForce (fresh smi330Acc "") slowThenFast := by
  intro h
  obtain ⟨p, hp, hrate⟩ := h.last ⟨.accel, rfl⟩
  have hlast : lastSamplingRate (Run.run step (fresh smi330Acc "") slowThenFast).calls = some 100000000 := by
    decide
  obtain rfl : p = 100000000 := Option.some.inj (hp.symm.trans hlast)
  have hle : (100000000 : Int) ≤ 20000000 := hrate.2 (Or.inr ⟨.gravity, rfl, rfl⟩)
  omega

end CoreRate
end MemsHal
