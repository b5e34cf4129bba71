import MemsHal.ProxyThreads
/-!
# ProxyDrain — the pending-writes thread empties the queue

Once the sub-HALs stop posting, the thread writes at most `eventQueueSize` events of the front entry in each pass, with
the wake-lock thread and the ends of wakelocks in between.  `drained_iff` tells after how many passes the queue is empty.
-/
namespace MemsHal
namespace MultiHal
namespace ProxyDrain

open Run (run)
open LossyFifo (Channel pieces)
open ProxyFifo (History channel commands SameQueue WriterFits)

/-- A step of another thread that posts nothing. -/
def Silent : ProxyOp → Prop
  | .createScopedWakelock _ _ | .destroyScopedWakelock _ | .handleWakelocksCheck _ _ | .handleWakelocksRead _ => True
  | _                                                                                                       => False

/-- The passes of the thread, with how their writes end, and silent steps in between. -/
inductive Passes : List Bool → List ProxyOp → Prop
  | rest {others : List ProxyOp} (h : ∀ op ∈ others, Silent op) : Passes [] others
  | pass {before between after ops : List ProxyOp} {outcomes : List Bool} (success : Bool)
    (hbefore : ∀ op ∈ before, Silent op) (hbetween : ∀ op ∈ between, Silent op)
    (hafter : ∀ op ∈ after, Silent op)
    (h : Passes outcomes ops) :
    Passes (success :: outcomes)
      (before ++ .handlePendingWritesTake :: (between ++ .handlePendingWritesWrite success ::
        (after ++ .handlePendingWritesCommit :: ops)))

/-! ## Steps -/

/-- What a silent step leaves alone. -/
structure Same (w w' : History) : Prop where
  queue : SameQueue w.system.proxy w'.system.proxy
  threadsRun : w'.system.proxy.mThreadsRun = w.system.proxy.mThreadsRun
  channel : channel w' = channel w

theorem Same.refl (w : History) : Same w w := ⟨.refl _, rfl, rfl⟩

theorem Same.trans {w w' w'' : History} (h : Same w w') (h' : Same w' w'') : Same w w'' :=
  ⟨h.queue.trans h'.queue, h'.threadsRun.trans h.threadsRun, h'.channel.trans h.channel⟩

theorem same_silent (w : History) {op : ProxyOp} (hop : Silent op) : Same w (ProxyFifo.step w op) := by
  have hrun := ProxyThreads.threadsRun_step w.system op
  cases op with
  | createScopedWakelock lock now =>
    have hquiet := ProxyFifo.quiet_of_locking (HalProxy.locking_create trivial w.system.proxy lock now)
    exact ⟨hquiet.same, hrun, ProxyFifo.channel_of_quiet w hquiet _⟩
  | destroyScopedWakelock i =>
    cases hwl : w.system.wakelocks[i]? with
    | none =>
      have hs : ProxyFifo.step w (.destroyScopedWakelock i) = w :=
        congrArg (fun s => (⟨s, w.posted⟩ : History)) (System.step_destroy_none hwl)
      rw [hs]
      exact .refl w
    | some wakelock =>
      have hquiet := ProxyFifo.quiet_of_locking (HalProxy.locking_destroy w.system.proxy wakelock)
      have hs : ProxyFifo.step w (.destroyScopedWakelock i) = ⟨w.system.destroy i wakelock, w.posted⟩ :=
        congrArg (fun s => (⟨s, w.posted⟩ : History)) (System.step_destroy hwl)
      rw [System.step_destroy hwl] at hrun
      rw [hs]
      exact ⟨hquiet.same, hrun, ProxyFifo.channel_of_quiet w hquiet _⟩
  | handleWakelocksCheck now nowReset =>
    have hquiet := ProxyFifo.quiet_of_locking (HalProxy.locking_check w.system.proxy now nowReset)
    exact ⟨hquiet.same, hrun, ProxyFifo.channel_of_quiet w hquiet _⟩
  | handleWakelocksRead n =>
    have hquiet := ProxyFifo.quiet_of_locking (HalProxy.locking_read w.system.proxy n)
    exact ⟨hquiet.same, hrun, ProxyFifo.channel_of_quiet w hquiet _⟩
  | _ => exact hop.elim

theorem same_run : ∀ {others : List ProxyOp} (w : History), (∀ op ∈ others, Silent op) →
    Same w (run ProxyFifo.step w others)
  | [], w, _ => .refl w
  | op :: others, w, h => by
    obtain ⟨hop, hothers⟩ := List.forall_mem_cons.1 h
    exact (same_silent w hop).trans (same_run _ hothers)

/-- The thread is at the top of its loop, and is to go on. -/
structure Waits (size : Nat) (w : History) : Prop where
  waiting : w.system.proxy.mPendingWrites = .waiting
  threadsRun : w.system.proxy.mThreadsRun = true
  size : w.system.proxy.eventQueueSize = size

theorem Waits.of_same {size : Nat} {w w' : History} (hw : Waits size w) (h : Same w w') : Waits size w' :=
  ⟨h.queue.writes.trans hw.waiting, h.threadsRun.trans hw.threadsRun, h.queue.eventQueueSize.trans hw.size⟩

theorem queue_of_waiting {w : History} (h : w.system.proxy.mPendingWrites = .waiting) :
    (channel w).queue = w.system.proxy.mPendingWriteEventsQueue.map Prod.fst := by
  unfold channel ProxyFifo.unwritten
  rw [h]

/-- Without a pending event the thread does nothing. -/
theorem same_take {w : History} (hq : w.system.proxy.mPendingWriteEventsQueue = []) :
    Same w (ProxyFifo.step w .handlePendingWritesTake) := by
  have hp : w.system.proxy.handlePendingWritesTake = w.system.proxy := by
    unfold HalProxy.handlePendingWritesTake
    split
    · rename_i hcons
      cases hq.symm.trans hcons
    · rfl
  have hstep : ProxyFifo.step w .handlePendingWritesTake =
      ⟨{ w.system with proxy := w.system.proxy.handlePendingWritesTake }, w.posted⟩ := rfl
  rw [hstep, hp]
  exact .refl w

theorem same_write {w : History} (hwaiting : w.system.proxy.mPendingWrites = .waiting) (success : Bool) :
    Same w (ProxyFifo.step w (.handlePendingWritesWrite success)) := by
  have hp : w.system.proxy.handlePendingWritesWrite success = (w.system.proxy, []) := by
    unfold HalProxy.handlePendingWritesWrite
    rw [hwaiting]
  have hstep : ProxyFifo.step w (.handlePendingWritesWrite success) =
      ⟨w.system.after (w.system.proxy.handlePendingWritesWrite success), w.posted⟩ := rfl
  rw [hstep, hp, System.after_nil]
  exact .refl w

theorem same_commit {w : History} (hwaiting : w.system.proxy.mPendingWrites = .waiting) :
    Same w (ProxyFifo.step w .handlePendingWritesCommit) := by
  have hp : w.system.proxy.handlePendingWritesCommit = w.system.proxy := by
    unfold HalProxy.handlePendingWritesCommit
    rw [hwaiting]
  have hstep : ProxyFifo.step w .handlePendingWritesCommit =
      ⟨{ w.system with proxy := w.system.proxy.handlePendingWritesCommit }, w.posted⟩ := rfl
  rw [hstep, hp]
  exact .refl w

/-- The thread has taken the front entry, and is to write the first `numToWrite` of its events. -/
structure Took (size : Nat) (events : List Event) (phase : PendingWrites) (w : History) : Prop where
  phase : w.system.proxy.mPendingWrites = phase
  front : ∃ numWakeupEvents rest, w.system.proxy.mPendingWriteEventsQueue = (events, numWakeupEvents) :: rest
  threadsRun : w.system.proxy.mThreadsRun = true
  size : w.system.proxy.eventQueueSize = size

theorem Took.of_same {size : Nat} {events : List Event} {phase : PendingWrites} {w w' : History}
    (hw : Took size events phase w) (h : Same w w') : Took size events phase w' := by
  obtain ⟨numWakeupEvents, rest, hq⟩ := hw.front
  exact ⟨h.queue.writes.trans hw.phase, ⟨numWakeupEvents, rest, h.queue.queue.trans hq⟩,
    h.threadsRun.trans hw.threadsRun, h.queue.eventQueueSize.trans hw.size⟩

theorem take_spec {size : Nat} {w : History} (hw : Waits size w) {events : List Event} {numWakeupEvents : Nat}
    {rest : List (List Event × Nat)} (hq : w.system.proxy.mPendingWriteEventsQueue = (events, numWakeupEvents) :: rest) :
    Took size events (.writing numWakeupEvents (min events.length size))
      (ProxyFifo.step w .handlePendingWritesTake) := by
  have hp : w.system.proxy.handlePendingWritesTake = { w.system.proxy with
      mPendingWrites := .writing numWakeupEvents (min events.length size) } := by
    unfold HalProxy.handlePendingWritesTake
    split
    · rename_i hcons
      cases hq.symm.trans hcons
      rw [if_pos hw.threadsRun, ← hw.size]
    · rename_i hidle
      exact (hidle events numWakeupEvents rest hw.waiting hq).elim
  have hstep : (ProxyFifo.step w .handlePendingWritesTake).system.proxy = w.system.proxy.handlePendingWritesTake := rfl
  refine ⟨?_, ⟨numWakeupEvents, rest, ?_⟩, ?_, ?_⟩ <;> rw [hstep, hp]
  · exact hq
  · exact hw.threadsRun
  · exact hw.size

theorem write_spec {size numWakeupEvents numToWrite : Nat} {events : List Event} {w : History}
    (hw : Took size events (.writing numWakeupEvents numToWrite) w) (success : Bool) :
    Took size events (.written numToWrite) (ProxyFifo.step w (.handlePendingWritesWrite success)) ∧
      channel (ProxyFifo.step w (.handlePendingWritesWrite success)) =
        (channel w).step (.resolve numToWrite success) := by
  obtain ⟨n, rest, hq⟩ := hw.front
  have hwriting : w.system.proxy.Writing numWakeupEvents numToWrite events := ⟨hw.phase, n, rest, hq⟩
  have hrun := ProxyThreads.threadsRun_step w.system (.handlePendingWritesWrite success)
  refine ⟨?_, ?_⟩
  · obtain ⟨r, hquiet, hwrite⟩ := ProxyFifo.write_spec w.system.proxy success hwriting
    have hproxy : (w.system.proxy.handlePendingWritesWrite success).1 = r.1 := by rw [hwrite]
    exact ⟨(congrArg HalProxy.mPendingWrites hproxy).trans hquiet.same.writes,
      ⟨n, rest, (congrArg HalProxy.mPendingWriteEventsQueue hproxy).trans (hquiet.same.queue.trans hq)⟩,
      hrun.trans hw.threadsRun,
      (congrArg HalProxy.eventQueueSize hproxy).trans (hquiet.same.eventQueueSize.trans hw.size)⟩
  · rw [ProxyFifo.channel_write, ProxyFifo.commands_write hwriting]
    rfl

theorem commit_spec {size : Nat} {events : List Event} {w : History}
    (hw : Took size events (.written (min events.length size)) w) :
    Waits size (ProxyFifo.step w .handlePendingWritesCommit) ∧
      channel (ProxyFifo.step w .handlePendingWritesCommit) = channel w := by
  obtain ⟨n, rest, hq⟩ := hw.front
  have hrun := ProxyThreads.threadsRun_step w.system .handlePendingWritesCommit
  have hstep : (ProxyFifo.step w .handlePendingWritesCommit).system.proxy =
      w.system.proxy.handlePendingWritesCommit := rfl
  refine ⟨⟨?_, hrun.trans hw.threadsRun, ?_⟩, ProxyFifo.channel_commit w ?_⟩
  · rw [hstep]
    unfold HalProxy.handlePendingWritesCommit
    rw [hw.phase, hq]
  · rw [hstep]
    unfold HalProxy.handlePendingWritesCommit
    rw [hw.phase, hq]
    exact hw.size
  · unfold WriterFits
    rw [hw.phase]
    exact ⟨events, n, rest, hq, by rw [hw.size]⟩

/-! ## Passes -/

/-- **A pass resolves as much of the front entry as the FMQ holds**, or does nothing where none waits. -/
theorem pass_spec {size : Nat} {w : History} (hw : Waits size w) {before between after : List ProxyOp}
    (hbefore : ∀ op ∈ before, Silent op) (hbetween : ∀ op ∈ between, Silent op)
    (hafter : ∀ op ∈ after, Silent op)
    (success : Bool) :
    ∃ w', run ProxyFifo.step w (before ++ .handlePendingWritesTake :: (between ++ .handlePendingWritesWrite success ::
        (after ++ [.handlePendingWritesCommit]))) = w' ∧ Waits size w' ∧
      (((channel w).queue = [] ∧ channel w' = channel w) ∨ ∃ chunk rest, (channel w).queue = chunk :: rest ∧
        channel w' = (channel w).step (.resolve (min chunk.length size) success)) := by
  refine ⟨_, rfl, ?_⟩
  simp only [Run.run_append, Run.run_cons, Run.run_nil]
  have hsame := same_run w hbefore
  have hw₁ := hw.of_same hsame
  rw [← hsame.channel]
  generalize run ProxyFifo.step w before = w₁ at hw₁ ⊢
  rw [queue_of_waiting hw₁.waiting]
  cases hq : w₁.system.proxy.mPendingWriteEventsQueue with
  | nil =>
    have htake := same_take hq
    have hw₂ := hw₁.of_same htake
    have hsame₂ := same_run (ProxyFifo.step w₁ .handlePendingWritesTake) hbetween
    have hw₃ := hw₂.of_same hsame₂
    have hwrite := same_write hw₃.waiting success
    have hw₄ := hw₃.of_same hwrite
    have hsame₄ := same_run (ProxyFifo.step (run ProxyFifo.step (ProxyFifo.step w₁ .handlePendingWritesTake) between)
      (.handlePendingWritesWrite success)) hafter
    have hw₅ := hw₄.of_same hsame₄
    have hcommit := same_commit hw₅.waiting
    have hall := htake.trans (hsame₂.trans (hwrite.trans (hsame₄.trans hcommit)))
    exact ⟨hw₁.of_same hall, Or.inl ⟨rfl, hall.channel⟩⟩
  | cons entry rest =>
    obtain ⟨events, numWakeupEvents⟩ := entry
    have hw₂ := take_spec hw₁ hq
    have hsame₂ := same_run (ProxyFifo.step w₁ .handlePendingWritesTake) hbetween
    obtain ⟨hw₄, hresolve⟩ := write_spec (hw₂.of_same hsame₂) success
    have hsame₄ := same_run (ProxyFifo.step (run ProxyFifo.step (ProxyFifo.step w₁ .handlePendingWritesTake) between)
      (.handlePendingWritesWrite success)) hafter
    obtain ⟨hw₆, hcommit⟩ := commit_spec (hw₄.of_same hsame₄)
    refine ⟨hw₆, Or.inr ⟨events, rest.map Prod.fst, rfl, ?_⟩⟩
    rw [hcommit, hsame₄.channel, hresolve, hsame₂.channel, ProxyFifo.channel_take]

theorem passes_spec {size : Nat} (hsize : 0 < size) {outcomes : List Bool} {ops : List ProxyOp}
    (h : Passes outcomes ops) : ∀ {w : History}, Waits size w →
      Waits size (run ProxyFifo.step w ops) ∧
      pieces size (channel (run ProxyFifo.step w ops)).queue = pieces size (channel w).queue - outcomes.length ∧
      ((∀ success ∈ outcomes, success = true) → Channel.Conveys (channel w) (channel (run ProxyFifo.step w ops))) := by
  induction h with
  | rest hothers =>
    intro w hw
    have hsame := same_run w hothers
    rw [hsame.channel]
    exact ⟨hw.of_same hsame, rfl, fun _ => .refl _⟩
  | @pass before between after ops outcomes success hbefore hbetween hafter _ ih =>
    intro w hw
    obtain ⟨w', hrun, hw', hchannel⟩ := pass_spec hw hbefore hbetween hafter success
    have hsplit : before ++ .handlePendingWritesTake :: (between ++ .handlePendingWritesWrite success ::
        (after ++ .handlePendingWritesCommit :: ops)) =
        (before ++ .handlePendingWritesTake :: (between ++ .handlePendingWritesWrite success ::
          (after ++ [.handlePendingWritesCommit]))) ++ ops := by
      simp only [List.append_assoc, List.cons_append, List.nil_append]
    rw [hsplit, Run.run_append, hrun]
    obtain ⟨hwaits, hpieces, hconveys⟩ := ih hw'
    refine ⟨hwaits, ?_, fun hall => ?_⟩
    · rw [hpieces, List.length_cons]
      rcases hchannel with ⟨hempty, hsame⟩ | ⟨chunk, rest, hqueue, hstep⟩
      · rw [hsame, hempty]
        exact (Nat.zero_sub _).trans (Nat.zero_sub _).symm
      · have hone := Channel.pieces_resolve hsize hqueue success
        rw [hstep]
        omega
    · obtain ⟨hsuccess, hrest⟩ := List.forall_mem_cons.1 hall
      refine Channel.Conveys.trans ?_ (hconveys hrest)
      rcases hchannel with ⟨-, hsame⟩ | ⟨chunk, rest, -, hstep⟩
      · rw [hsame]
        exact .refl _
      · rw [hstep, hsuccess]
        exact Channel.conveys_resolve _ _

/-- **The pending-writes thread empties the queue**: once nobody posts, the queue is empty exactly after as many passes
as it has pieces of the size of the FMQ, however the writes end; and if they succeed, all that waited is delivered in
order. -/
theorem drained_iff {size : Nat} (hsize : 0 < size) {w : History} (hw : Waits size w) {outcomes : List Bool}
    {ops : List ProxyOp} (h : Passes outcomes ops) :
    ((run ProxyFifo.step w ops).system.proxy.mPendingWriteEventsQueue = [] ↔
      pieces size (w.system.proxy.mPendingWriteEventsQueue.map Prod.fst) ≤ outcomes.length) ∧
    ((∀ success ∈ outcomes, success = true) →
      Channel.Conveys (channel w) (channel (run ProxyFifo.step w ops))) := by
  obtain ⟨hwaits, hpieces, hconveys⟩ := passes_spec hsize h hw
  refine ⟨?_, hconveys⟩
  rw [queue_of_waiting hwaits.waiting, queue_of_waiting hw.waiting] at hpieces
  calc (run ProxyFifo.step w ops).system.proxy.mPendingWriteEventsQueue = []
      ↔ (run ProxyFifo.step w ops).system.proxy.mPendingWriteEventsQueue.map Prod.fst = [] := List.map_eq_nil_iff.symm
    _ ↔ pieces size ((run ProxyFifo.step w ops).system.proxy.mPendingWriteEventsQueue.map Prod.fst) = 0 :=
      LossyFifo.pieces_eq_zero.symm
    _ ↔ pieces size (w.system.proxy.mPendingWriteEventsQueue.map Prod.fst) ≤ outcomes.length := by
      rw [hpieces]
      exact Nat.sub_eq_zero_iff_le

/-- Nine events wait for an FMQ of eight: two passes, with the wake-lock thread in between. -/
def nineWaiting : History :=
  ⟨⟨{ wakeUpProxy with mPendingWriteEventsQueue := [(List.replicate 9 (wakeUpEvent 1), 9)] }, [], []⟩, []⟩

theorem passes_nineWaiting : Passes [true, false] [.handlePendingWritesTake, .handlePendingWritesWrite true,
    .handleWakelocksCheck 1 1, .handlePendingWritesCommit, .handlePendingWritesTake, .handlePendingWritesWrite false,
    .handlePendingWritesCommit] :=
  have hnil : ∀ op ∈ ([] : List ProxyOp), Silent op := nofun
  have hcheck : ∀ op ∈ [ProxyOp.handleWakelocksCheck 1 1], Silent op := fun _ hop => List.mem_singleton.1 hop ▸ trivial
  .pass true hnil hnil hcheck (.pass false hnil hnil hnil (.rest hnil))

theorem drained_iff_nineWaiting :
    (run ProxyFifo.step nineWaiting [.handlePendingWritesTake, .handlePendingWritesWrite true,
      .handleWakelocksCheck 1 1, .handlePendingWritesCommit, .handlePendingWritesTake,
      .handlePendingWritesWrite false, .handlePendingWritesCommit]).system.proxy.mPendingWriteEventsQueue = [] :=
  have hwaits : Waits 8 nineWaiting := ⟨rfl, rfl, rfl⟩
  (drained_iff (by decide) hwaits passes_nineWaiting).1.2 (by decide)

end ProxyDrain
end MultiHal
end MemsHal
