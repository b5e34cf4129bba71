import MemsHal.ProxyFrame
/-!
# ProxyModes — `HalProxy::setOperationMode` and the modes of the sub-HALs

The proxy asks its sub-HALs for a mode one after the other and, when one refuses, asks those before it for the mode it
has on record.  A sub-HAL is what it answers and the mode it is in.  `setOperationMode_eq` says that the two loops do
what `HalProxy.setOperationMode` says of the proxy, and `along_agreed` that all sub-HALs stay in the mode on record.
-/
namespace MemsHal
namespace MultiHal
namespace ProxyModes

/-- What the sub-HALs answer when they are asked for a mode. -/
abbrev Answers := Nat → OperationMode → Result

/-- The modes the sub-HALs are in, in list order, and the requests they got during a call. -/
structure SubHals where
  modes : List OperationMode
  requests : List (Nat × OperationMode)

namespace SubHals

/-- `mSubHalList[i]->setOperationMode(mode)`. -/
def request (s : SubHals) (answers : Answers) (i : Nat) (mode : OperationMode) : SubHals × Result :=
  ({ modes := if answers i mode = .ok then s.modes.set i mode else s.modes
     requests := s.requests ++ [(i, mode)] }, answers i mode)

/-- The first loop of `setOperationMode`, with `remaining` sub-HALs to go; it ends with the last result and index. -/
def switchFrom (answers : Answers) (mode : OperationMode) : Nat → Nat → SubHals → SubHals × Result × Nat
  | 0, subHalIndex, s => (s, .ok, subHalIndex)
  | remaining + 1, subHalIndex, s =>
    let (s, result) := s.request answers subHalIndex mode
    if result ≠ .ok then (s, result, subHalIndex) else switchFrom answers mode remaining (subHalIndex + 1) s

/-- The second loop. -/
def switchBack (answers : Answers) (mCurrentOperationMode : OperationMode) (subHalIndex : Nat) (s : SubHals) : SubHals :=
  (List.range subHalIndex).foldl (fun s i => (s.request answers i mCurrentOperationMode).1) s

end SubHals

structure Modal where
  system : System
  modes : List OperationMode

inductive ModalOp
  | setOperationMode (mode : OperationMode) (answers : Answers)
  | initializeCommon (e : Surroundings)
  | step (op : ProxyOp)
  | background (b : Background)

namespace Modal

abbrev proxy (s : Modal) : HalProxy := s.system.proxy

/-- The new state, the result and the requests to the sub-HALs. -/
def setOperationMode (s : Modal) (mode : OperationMode) (answers : Answers) :
    Modal × Result × List (Nat × OperationMode) :=
  let (subHals, result, subHalIndex) :=
    SubHals.switchFrom answers mode s.proxy.mSubHalList.length 0 { modes := s.modes, requests := [] }
  if result ≠ .ok then
    let subHals := subHals.switchBack answers s.proxy.mCurrentOperationMode subHalIndex
    ({ s with modes := subHals.modes }, result, subHals.requests)
  else
    ({ system := { s.system with proxy := { s.proxy with mCurrentOperationMode := mode } }, modes := subHals.modes },
      result, subHals.requests)

/-- Each sub-HAL resets its mode in its own `initialize`. -/
def initializeCommon (s : Modal) (e : Surroundings) : Modal where
  system := (s.system.initializeCommon e).1
  modes := (List.range s.proxy.mSubHalList.length).foldl (fun modes i => modes.set i .normal) s.modes

def step (s : Modal) : ModalOp → Modal
  | .setOperationMode mode answers => (s.setOperationMode mode answers).1
  | .initializeCommon e            => s.initializeCommon e
  | .step op                       => { s with system := s.system.step op }
  | .background b                  => { s with system := s.system.background b }

/-- A new proxy over sub-HALs in normal mode. -/
def start (kWakelockTimeoutNs : Int) (subHalList : List SubHal) (startTime resetTime : Int) : Modal where
  system := ⟨HalProxy.construct kWakelockTimeoutNs subHalList startTime resetTime, [], []⟩
  modes := List.replicate subHalList.length .normal

end Modal

/-- **All sub-HALs are in the mode on record.** -/
def Agreed (s : Modal) : Prop :=
  s.modes = List.replicate s.proxy.mSubHalList.length s.proxy.mCurrentOperationMode

/-- A sub-HAL accepts to return to the mode on record. -/
def Legal (s : Modal) : ModalOp → Prop
  | .setOperationMode _ answers =>
    ∀ i < s.proxy.mSubHalList.length, answers i s.proxy.mCurrentOperationMode = .ok
  | _ => True

/-- **`setOperationMode` is all or nothing.** -/
structure AllOrNothing (s : Modal) (mode : OperationMode) (answers : Answers) : Prop where
  refused : (s.setOperationMode mode answers).2.1 ≠ .ok → ∃ i < s.proxy.mSubHalList.length,
    (∀ j < i, answers j mode = .ok) ∧ answers i mode ≠ .ok ∧ (s.setOperationMode mode answers).2.1 = answers i mode ∧
    (∀ r ∈ (s.setOperationMode mode answers).2.2, r.1 ≤ i) ∧ (s.setOperationMode mode answers).1 = s
  accepted : (s.setOperationMode mode answers).2.1 = .ok →
    (s.setOperationMode mode answers).1.modes = List.replicate s.proxy.mSubHalList.length mode ∧
    (s.setOperationMode mode answers).1.proxy = { s.proxy with mCurrentOperationMode := mode }

def Atomic (s : Modal) : ModalOp → Prop
  | .setOperationMode mode answers => AllOrNothing s mode answers
  | _                              => True

/-! ## The two loops -/

theorem set_switched (mode : OperationMode) {i : Nat} {modes : List OperationMode} (hi : i < modes.length) :
    (List.replicate i mode ++ modes.drop i).set i mode = List.replicate (i + 1) mode ++ modes.drop (i + 1) := by
  rw [List.set_append_right _ _ (by rw [List.length_replicate]), List.length_replicate, Nat.sub_self,
    List.drop_eq_getElem_cons hi, List.set_cons_zero, List.replicate_succ', List.append_assoc]
  rfl

/-- The sub-HALs after the first `i` of them were switched to `mode`. -/
def switched (s : SubHals) (mode : OperationMode) (i : Nat) : SubHals where
  modes := List.replicate i mode ++ s.modes.drop i
  requests := s.requests ++ (List.range i).map (·, mode)

theorem request_switched (s : SubHals) {answers : Answers} {mode : OperationMode} {i : Nat} (hi : i < s.modes.length)
    (hok : answers i mode = .ok) : (switched s mode i).request answers i mode = (switched s mode (i + 1), .ok) := by
  unfold SubHals.request switched
  dsimp only
  rw [if_pos hok, set_switched mode hi, hok, List.append_assoc, List.range_succ, List.map_append]
  rfl

theorem switchBack_eq {answers : Answers} (mode : OperationMode) (s : SubHals) : ∀ {k : Nat}, k ≤ s.modes.length →
    (∀ i < k, answers i mode = .ok) → s.switchBack answers mode k = switched s mode k
  | 0, _, _ => by
    unfold SubHals.switchBack switched
    simp
  | k + 1, hk, hok => by
    have ih := switchBack_eq mode s (Nat.le_of_succ_le hk) (fun i hi => hok i (Nat.lt_succ_of_lt hi))
    unfold SubHals.switchBack at ih ⊢
    rw [List.range_succ, List.foldl_append, ih, List.foldl_cons, List.foldl_nil,
      request_switched s hk (hok k (Nat.lt_succ_self k))]

/-- The loop gets past sub-HALs that accept. -/
theorem switchFrom_skip (answers : Answers) (mode : OperationMode) (s : SubHals) (remaining : Nat) : ∀ (k i : Nat),
    i + k ≤ s.modes.length → (∀ j, i ≤ j → j < i + k → answers j mode = .ok) →
    SubHals.switchFrom answers mode (k + remaining) i (switched s mode i) =
      SubHals.switchFrom answers mode remaining (i + k) (switched s mode (i + k))
  | 0, i, _, _ => by rw [Nat.zero_add, Nat.add_zero]
  | k + 1, i, hlen, hok => by
    have hi := hok i (Nat.le_refl i) (by omega)
    have ih := switchFrom_skip answers mode s remaining k (i + 1) (by omega)
      (fun j hj hlt => hok j (by omega) (by omega))
    rw [show k + 1 + remaining = (k + remaining) + 1 by omega, SubHals.switchFrom,
      request_switched s (by omega) hi]
    dsimp only
    rw [if_neg (fun h => h rfl), ih, Nat.add_right_comm, Nat.add_assoc]

theorem switched_zero (s : SubHals) (mode : OperationMode) : switched s mode 0 = s := by
  unfold switched
  simp

/-- All accept, or there is a first one to refuse. -/
theorem refuses_cases (answers : Answers) (mode : OperationMode) (n : Nat) :
    (∀ i < n, answers i mode = .ok) ∨ ∃ i < n, (∀ j < i, answers j mode = .ok) ∧ answers i mode ≠ .ok := by
  by_cases h : ∃ i, i < n ∧ answers i mode ≠ .ok
  · obtain ⟨hlt, hne⟩ := Nat.find_spec h
    refine Or.inr ⟨Nat.find h, hlt, fun j hj => ?_, hne⟩
    by_contra hj'
    exact Nat.find_min h hj ⟨Nat.lt_trans hj hlt, hj'⟩
  · exact Or.inl fun i hi => by_contra fun hne => h ⟨i, hi, hne⟩

section Loops

variable {answers : Answers} {mode : OperationMode} {s : SubHals} {n : Nat} (hn : n ≤ s.modes.length)
include hn

theorem switchFrom_ok (hok : ∀ i < n, answers i mode = .ok) :
    SubHals.switchFrom answers mode n 0 s = (switched s mode n, .ok, n) := by
  have hskip := switchFrom_skip answers mode s 0 n 0 (by omega) (fun j _ hj => hok j (by omega))
  rw [switched_zero, Nat.zero_add, Nat.add_zero] at hskip
  exact hskip

theorem switchFrom_refused {i : Nat} (hi : i < n) (hok : ∀ j < i, answers j mode = .ok)
    (hrefused : answers i mode ≠ .ok) :
    SubHals.switchFrom answers mode n 0 s =
      ({ switched s mode i with requests := (switched s mode i).requests ++ [(i, mode)] }, answers i mode, i) := by
  have hskip := switchFrom_skip answers mode s (n - i) i 0 (by omega)
    (fun j _ hj => hok j (by omega))
  rw [switched_zero, Nat.zero_add, show i + (n - i) = n by omega] at hskip
  rw [hskip, show n - i = (n - i - 1) + 1 by omega, SubHals.switchFrom, SubHals.request]
  dsimp only
  rw [if_neg hrefused, if_pos hrefused]

end Loops

theorem switchBack_requests (answers : Answers) (mode : OperationMode) (s : SubHals) : ∀ k : Nat,
    (s.switchBack answers mode k).requests = s.requests ++ (List.range k).map (·, mode)
  | 0 => (List.append_nil _).symm
  | k + 1 => by
    have ih := switchBack_requests answers mode s k
    unfold SubHals.switchBack at ih ⊢
    rw [List.range_succ, List.foldl_append, List.foldl_cons, List.foldl_nil, List.map_append, ← List.append_assoc, ← ih]
    rfl

/-! ## `setOperationMode` -/

section SetOperationMode

variable (s : Modal) {mode : OperationMode} {answers : Answers} (hlen : s.proxy.mSubHalList.length ≤ s.modes.length)
include hlen

theorem setOperationMode_ok (hok : ∀ i < s.proxy.mSubHalList.length, answers i mode = .ok) :
    s.setOperationMode mode answers =
      ({ system := { s.system with proxy := { s.proxy with mCurrentOperationMode := mode } }
         modes := List.replicate s.proxy.mSubHalList.length mode ++ s.modes.drop s.proxy.mSubHalList.length },
        .ok, (List.range s.proxy.mSubHalList.length).map (·, mode)) := by
  have hloop := switchFrom_ok (s := { modes := s.modes, requests := [] }) hlen hok
  unfold Modal.setOperationMode
  rw [hloop]
  rfl

theorem setOperationMode_refused {i : Nat} (hi : i < s.proxy.mSubHalList.length) (hok : ∀ j < i, answers j mode = .ok)
    (hrefused : answers i mode ≠ .ok) :
    ∃ modes, s.setOperationMode mode answers = ({ s with modes := modes }, answers i mode,
        (List.range (i + 1)).map (·, mode) ++ (List.range i).map (·, s.proxy.mCurrentOperationMode)) ∧
      ((∀ j < i, answers j s.proxy.mCurrentOperationMode = .ok) →
        modes = List.replicate i s.proxy.mCurrentOperationMode ++ s.modes.drop i) := by
  have hloop := switchFrom_refused (s := { modes := s.modes, requests := [] }) hlen hi hok hrefused
  unfold Modal.setOperationMode
  rw [hloop]
  dsimp only
  rw [if_pos hrefused, switchBack_requests, List.range_succ, List.map_append]
  refine ⟨(SubHals.switchBack answers s.proxy.mCurrentOperationMode i
    ⟨(switched ⟨s.modes, []⟩ mode i).modes, (switched ⟨s.modes, []⟩ mode i).requests ++ [(i, mode)]⟩).modes, rfl,
    fun hback => ?_⟩
  have hle : i ≤ s.modes.length := Nat.le_trans (Nat.le_of_lt hi) hlen
  have hswitched : (switched ⟨s.modes, []⟩ mode i).modes.length = s.modes.length := by
    unfold switched
    rw [List.length_append, List.length_replicate, List.length_drop]
    exact Nat.add_sub_cancel' hle
  have hswitchedBack := switchBack_eq s.proxy.mCurrentOperationMode
    ⟨(switched ⟨s.modes, []⟩ mode i).modes, (switched ⟨s.modes, []⟩ mode i).requests ++ [(i, mode)]⟩
    (Nat.le_trans hle (Nat.le_of_eq hswitched.symm)) hback
  rw [hswitchedBack]
  unfold switched
  dsimp only
  rw [List.drop_left' List.length_replicate]

end SetOperationMode

/-- **The two loops do what `HalProxy.setOperationMode` says**, whatever the sub-HALs answer. -/
theorem setOperationMode_eq (s : Modal) (hlen : s.proxy.mSubHalList.length ≤ s.modes.length) (mode : OperationMode)
    (answers : Answers) :
    ((s.setOperationMode mode answers).1.proxy, (s.setOperationMode mode answers).2) =
      s.proxy.setOperationMode mode ((List.range s.proxy.mSubHalList.length).map (answers · mode)) := by
  unfold HalProxy.setOperationMode
  rw [List.take_of_length_le (by rw [List.length_map, List.length_range])]
  rcases refuses_cases answers mode s.proxy.mSubHalList.length with hok | ⟨i, hi, hok, hrefused⟩
  · have hnone : ((List.range s.proxy.mSubHalList.length).map (answers · mode)).findIdx? (· ≠ .ok) = none := by
      rw [List.findIdx?_eq_none_iff]
      simpa using hok
    rw [hnone, setOperationMode_ok s hlen hok]
  · have hsome : ((List.range s.proxy.mSubHalList.length).map (answers · mode)).findIdx? (· ≠ .ok) = some i := by
      rw [List.findIdx?_eq_some_iff_getElem]
      refine ⟨by simpa using hi, by simpa using hrefused, fun j hj => ?_⟩
      simpa using hok j hj
    obtain ⟨modes, heq, -⟩ := setOperationMode_refused s hlen hi hok hrefused
    rw [hsome, heq]
    dsimp only
    rw [List.getD_eq_getElem?_getD, List.getElem?_map, List.getElem?_range hi]
    rfl

theorem Agreed.length {s : Modal} (h : Agreed s) : s.modes.length = s.proxy.mSubHalList.length := by
  rw [show s.modes = _ from h, List.length_replicate]

/-- **From an agreed state `setOperationMode` is all or nothing.** -/
theorem allOrNothing_of_agreed {s : Modal} (h : Agreed s) {mode : OperationMode} {answers : Answers}
    (hlegal : Legal s (.setOperationMode mode answers)) : AllOrNothing s mode answers := by
  have hlen : s.proxy.mSubHalList.length ≤ s.modes.length := Nat.le_of_eq h.length.symm
  rcases refuses_cases answers mode s.proxy.mSubHalList.length with hok | ⟨i, hi, hok, hrefused⟩
  · have heq := setOperationMode_ok s hlen hok
    refine ⟨fun hne => absurd (congrArg (·.2.1) heq) hne, fun _ => ?_⟩
    rw [heq, ← h.length, List.drop_length, List.append_nil, h.length]
    exact ⟨rfl, rfl⟩
  · obtain ⟨modes, heq, hback⟩ := setOperationMode_refused s hlen hi hok hrefused
    refine ⟨fun _ => ⟨i, hi, hok, hrefused, congrArg (·.2.1) heq, fun r hr => ?_, ?_⟩, fun hne => ?_⟩
    · rw [heq] at hr
      rcases List.mem_append.1 hr with hr | hr
      · obtain ⟨j, hj, rfl⟩ := List.mem_map.1 hr
        exact Nat.le_of_lt_succ (List.mem_range.1 hj)
      · obtain ⟨j, hj, rfl⟩ := List.mem_map.1 hr
        exact Nat.le_of_lt (List.mem_range.1 hj)
    · have hmodes : modes = s.modes := by
        rw [hback (fun j hj => hlegal j (Nat.lt_trans hj hi)), show s.modes = _ from h, List.drop_replicate,
          List.replicate_append_replicate, Nat.add_sub_cancel' (Nat.le_of_lt hi)]
      rw [heq, hmodes]
    · exact absurd ((congrArg (·.2.1) heq).symm.trans hne) hrefused

/-! ## What leaves the modes alone -/

/-- The fields that decide about the modes. -/
structure SameModes (p p' : HalProxy) : Prop where
  subHalList : p'.mSubHalList = p.mSubHalList
  mode : p'.mCurrentOperationMode = p.mCurrentOperationMode

theorem sameModes_of_frame {posted : List Event} {p p' : HalProxy} (h : ProxyFrame.Frame posted p p') :
    SameModes p p' :=
  ⟨congrArg Settings.mSubHalList h.settings, congrArg Settings.mCurrentOperationMode h.settings⟩

/-- `initializeCommon` keeps the list of sub-HALs and goes back to normal mode. -/
theorem initializeCommon_modes (s : System) (e : Surroundings) :
    (s.initializeCommon e).1.proxy.mSubHalList = s.proxy.mSubHalList ∧
      (s.initializeCommon e).1.proxy.mCurrentOperationMode = .normal := by
  obtain ⟨q, hframe, h⟩ := ProxyFrame.frame_initializeCommon s e
  rw [h]
  exact ⟨(sameModes_of_frame hframe).subHalList, rfl⟩

/-! ## Runs -/

theorem initialize_modes (s : Modal) (h : Agreed s) (e : Surroundings) :
    (s.initializeCommon e).modes = List.replicate s.proxy.mSubHalList.length .normal := by
  have hset : ∀ k ≤ s.modes.length, (List.range k).foldl (fun modes i => modes.set i .normal) s.modes =
      List.replicate k .normal ++ s.modes.drop k := by
    intro k hk
    induction k with
    | zero => simp
    | succ k ih =>
      rw [List.range_succ, List.foldl_append, ih (Nat.le_of_succ_le hk)]
      exact set_switched .normal hk
  show (List.range s.proxy.mSubHalList.length).foldl _ s.modes = _
  rw [hset _ (Nat.le_of_eq h.length.symm), ← h.length, List.drop_length, List.append_nil]

theorem agreed_step (s : Modal) (op : ModalOp) (h : Agreed s) (hlegal : Legal s op) : Agreed (s.step op) := by
  cases op with
  | setOperationMode mode answers =>
    have hall := allOrNothing_of_agreed h hlegal
    by_cases hok : (s.setOperationMode mode answers).2.1 = .ok
    · obtain ⟨hmodes, hproxy⟩ := hall.accepted hok
      unfold Agreed Modal.step
      dsimp only
      rw [hmodes, hproxy]
    · obtain ⟨i, -, -, -, -, -, hsame⟩ := hall.refused hok
      unfold Modal.step
      dsimp only
      rw [hsame]
      exact h
  | initializeCommon e =>
    obtain ⟨hlist, hmode⟩ := initializeCommon_modes s.system e
    have hmodes := initialize_modes s h e
    show (s.initializeCommon e).modes = _
    unfold Modal.step Modal.proxy Modal.initializeCommon at *
    rw [hmodes, hlist, hmode]
  | step op =>
    have hsame := sameModes_of_frame (ProxyFrame.frame_step s.system op)
    unfold Agreed Modal.step Modal.proxy
    dsimp only
    rw [hsame.subHalList, hsame.mode]
    exact h
  | background b =>
    have hsame := sameModes_of_frame (ProxyFrame.frame_background s.system b)
    unfold Agreed Modal.step Modal.proxy
    dsimp only
    rw [hsame.subHalList, hsame.mode]
    exact h

theorem agreed_start (kWakelockTimeoutNs : Int) (subHalList : List SubHal) (startTime resetTime : Int) :
    Agreed (Modal.start kWakelockTimeoutNs subHalList startTime resetTime) := by
  unfold Agreed Modal.start Modal.proxy HalProxy.construct
  obtain ⟨m, index, h⟩ := ProxyRoute.initializeSensorList_fields _
  rw [h]

/-- **After every call all sub-HALs are in the mode on record, and `setOperationMode` is all or nothing.** -/
theorem along_agreed (kWakelockTimeoutNs : Int) (subHalList : List SubHal) (startTime resetTime : Int)
    (ops : List ModalOp)
    (hlegal : Run.Steps Modal.step Legal (Modal.start kWakelockTimeoutNs subHalList startTime resetTime) ops) :
    Run.Along Modal.step Agreed (Modal.start kWakelockTimeoutNs subHalList startTime resetTime) ops ∧
      Run.Steps Modal.step Atomic (Modal.start kWakelockTimeoutNs subHalList startTime resetTime) ops := by
  have hstart := agreed_start kWakelockTimeoutNs subHalList startTime resetTime
  refine ⟨Run.along_of_step agreed_step hstart hlegal,
    Run.steps_of_step agreed_step (fun s op h hl => ?_) hstart hlegal⟩
  cases op with
  | setOperationMode mode answers => exact allOrNothing_of_agreed h hl
  | _ => trivial

/-- The second of two sub-HALs refuses to inject data, first in normal mode and then after a new session. -/
theorem along_agreed_refusedTwice :
    let refuse : Answers := fun i mode => if mode = .dataInjection ∧ i = 1 then .badValue else .ok
    let s := Modal.start 1000000000 [⟨[]⟩, ⟨[]⟩] 0 0
    let ops := [.setOperationMode .dataInjection refuse, .setOperationMode .dataInjection (fun _ _ => .ok),
      .initializeCommon (ProxyInit.calm 5 []), .setOperationMode .dataInjection refuse]
    Run.Along Modal.step Agreed s ops ∧ Run.Steps Modal.step Atomic s ops := by
  refine along_agreed _ _ _ _ _ ⟨fun i _ => ?_, fun i _ => ?_, trivial, fun i _ => ?_, trivial⟩
  · rfl
  · rfl
  · rfl

end ProxyModes
end MultiHal
end MemsHal
