import Mathlib.Tactic.Common
import MemsHal.Run
/-!
# LossyFifo — a FIFO channel that accounts for what it loses

A channel takes a stream in chunks.  A chunk goes straight through while nothing waits, waits in a queue, or is refused;
the head of the queue is resolved a piece at a time, delivered or failed.  A `Ledger` tells the fate of every chunk in
the order of the stream, and there is one after every run (`explains_run`).
-/

universe u

namespace LossyFifo

variable {α : Type u}

inductive Fate
  | delivered
  | failed
  | refused
  | queued
  deriving DecidableEq, Repr

/-- A channel as seen from outside: what was put in, what came out, what was lost and what waits. -/
structure Channel (α : Type u) where
  posted : List α
  delivered : List α
  failed : List (List α)
  refused : List (List α)
  queue : List (List α)

inductive Command (α : Type u)
  | deliver (chunk : List α)
  | refuse (chunk : List α)
  | enqueue (chunk : List α)
  | resolve (n : Nat) (delivered : Bool)

/-- What remains of a chunk whose first `n` elements are resolved. -/
def leftover (n : Nat) (chunk : List α) : List (List α) := if n < chunk.length then [chunk.drop n] else []

theorem take_leftover (n : Nat) (chunk : List α) : chunk.take n ++ (leftover n chunk).flatten = chunk := by
  unfold leftover
  split
  · simp
  · rename_i hn
    rw [List.take_of_length_le (Nat.le_of_not_lt hn)]
    exact List.append_nil chunk

namespace Channel

def step (c : Channel α) : Command α → Channel α
  | .deliver chunk => { c with posted := c.posted ++ chunk, delivered := c.delivered ++ chunk }
  | .refuse chunk  => { c with posted := c.posted ++ chunk, refused := c.refused ++ [chunk] }
  | .enqueue chunk => { c with posted := c.posted ++ chunk, queue := c.queue ++ [chunk] }
  | .resolve n delivered =>
    match c.queue with
    | []            => c
    | chunk :: rest =>
      if delivered then { c with queue := leftover n chunk ++ rest, delivered := c.delivered ++ chunk.take n }
      else { c with queue := leftover n chunk ++ rest, failed := c.failed ++ [chunk.take n] }

/-- Nothing overtakes the queue. -/
def Legal (c : Channel α) : Command α → Prop
  | .deliver _ => c.queue = []
  | _          => True

/-- Resolving moves the first elements of the queue out of it, to the delivered ones if they get through. -/
theorem countP_resolve (q : α → Bool) {c : Channel α} {chunk : List α} {rest : List (List α)}
    (h : c.queue = chunk :: rest) (n : Nat) (delivered : Bool) :
    (c.step (.resolve n delivered)).delivered.countP q =
      c.delivered.countP q + (if delivered then (chunk.take n).countP q else 0) ∧
    (c.step (.resolve n delivered)).queue.flatten.countP q + (chunk.take n).countP q = c.queue.flatten.countP q := by
  have hsplit := congrArg (List.countP q) (take_leftover n chunk)
  rw [List.countP_append] at hsplit
  have hqueue : (c.step (.resolve n delivered)).queue = leftover n chunk ++ rest := by
    unfold step
    rw [h]
    cases delivered <;> rfl
  rw [hqueue, h, List.flatten_append, List.flatten_cons, List.countP_append, List.countP_append]
  refine ⟨?_, by omega⟩
  unfold step
  rw [h]
  cases delivered with
  | true => exact List.countP_append
  | false => rfl

/-- A chunk that is delivered unless it is empty. -/
theorem run_deliver {chunk : List α} {p : Prop} [Decidable p] (h : ¬ p → chunk = []) (c : Channel α) :
    Run.run step c (if p then [.deliver chunk] else []) =
      { c with posted := c.posted ++ chunk, delivered := c.delivered ++ chunk } := by
  by_cases hp : p
  · rw [if_pos hp]
    rfl
  · rw [if_neg hp, h hp, List.append_nil, List.append_nil]
    rfl

/-- Nothing delivered is taken back. -/
theorem countP_delivered_le (q : α → Bool) : ∀ (cmds : List (Command α)) (c : Channel α),
    c.delivered.countP q ≤ (Run.run step c cmds).delivered.countP q
  | [], _ => Nat.le_refl _
  | cmd :: cmds, c => by
    refine Nat.le_trans ?_ (countP_delivered_le q cmds (c.step cmd))
    cases cmd with
    | deliver chunk =>
      show _ ≤ (c.delivered ++ chunk).countP q
      rw [List.countP_append]
      exact Nat.le_add_right _ _
    | refuse chunk => exact Nat.le_refl _
    | enqueue chunk => exact Nat.le_refl _
    | resolve n delivered =>
      cases hq : c.queue with
      | nil => exact Nat.le_of_eq (by unfold step; rw [hq])
      | cons chunk rest => rw [(countP_resolve q hq n delivered).1]; exact Nat.le_add_right _ _

end Channel

abbrev Ledger (α : Type u) := List (Fate × List α)

/-- The chunks of one fate, in order. -/
def chunksOf (fate : Fate) (l : Ledger α) : List (List α) := (l.filter (fun e => e.1 = fate)).map Prod.snd

@[simp] theorem chunksOf_nil (fate : Fate) : chunksOf fate ([] : Ledger α) = [] := rfl

theorem chunksOf_cons (fate : Fate) (e : Fate × List α) (l : Ledger α) :
    chunksOf fate (e :: l) = if e.1 = fate then e.2 :: chunksOf fate l else chunksOf fate l := by
  unfold chunksOf
  rw [List.filter_cons]
  by_cases h : e.1 = fate <;> simp [h]

theorem chunksOf_append (fate : Fate) (l l' : Ledger α) :
    chunksOf fate (l ++ l') = chunksOf fate l ++ chunksOf fate l' := by
  unfold chunksOf
  rw [List.filter_append, List.map_append]

theorem chunksOf_map (fate fate' : Fate) (chunks : List (List α)) :
    chunksOf fate (chunks.map (Prod.mk fate')) = if fate' = fate then chunks else [] := by
  induction chunks with
  | nil => split <;> rfl
  | cons c cs ih =>
    rw [List.map_cons, chunksOf_cons, ih]
    by_cases h : fate' = fate <;> simp [h]

theorem chunksOf_eq_nil {fate : Fate} {l : Ledger α} (h : ∀ e ∈ l, e.1 ≠ fate) : chunksOf fate l = [] := by
  unfold chunksOf
  rw [List.filter_eq_nil_iff.2 (fun e he => by simpa using h e he), List.map_nil]

theorem ne_of_chunksOf_eq_nil {fate : Fate} {l : Ledger α} (h : chunksOf fate l = []) : ∀ e ∈ l, e.1 ≠ fate := by
  intro e he hf
  have hm : e ∈ l.filter (fun e => e.1 = fate) := List.mem_filter.2 ⟨he, by simpa using hf⟩
  rw [List.map_eq_nil_iff.1 h] at hm
  cases hm

/-- The first chunk of a fate splits the ledger. -/
theorem exists_split {fate : Fate} {chunk : List α} {rest : List (List α)} : ∀ {l : Ledger α},
    chunksOf fate l = chunk :: rest →
      ∃ l₁ l₂, l = l₁ ++ (fate, chunk) :: l₂ ∧ (∀ e ∈ l₁, e.1 ≠ fate) ∧ chunksOf fate l₂ = rest
  | [], h => by cases h
  | e :: l, h => by
    rw [chunksOf_cons] at h
    by_cases he : e.1 = fate
    · rw [if_pos he] at h
      obtain ⟨hc, hr⟩ := List.cons.inj h
      refine ⟨[], l, ?_, fun _ hm => absurd hm List.not_mem_nil, hr⟩
      rw [← he, ← hc]
      rfl
    · rw [if_neg he] at h
      obtain ⟨l₁, l₂, hl, hne, hr⟩ := exists_split h
      refine ⟨e :: l₁, l₂, by rw [hl]; rfl, fun x hx => ?_, hr⟩
      rcases List.mem_cons.1 hx with rfl | hx
      · exact he
      · exact hne x hx

/-- **A ledger explains a channel**: its chunks are the stream, those of each fate are what the channel shows, and
nothing was delivered or failed past a chunk that waits. -/
structure Explains (l : Ledger α) (c : Channel α) : Prop where
  posted : (l.map Prod.snd).flatten = c.posted
  delivered : (chunksOf .delivered l).flatten = c.delivered
  failed : chunksOf .failed l = c.failed
  refused : chunksOf .refused l = c.refused
  queue : chunksOf .queued l = c.queue
  order : l.Pairwise (fun a b => a.1 = .queued → b.1 = .queued ∨ b.1 = .refused)

theorem explains_nil : Explains ([] : Ledger α) ⟨[], [], [], [], []⟩ :=
  ⟨rfl, rfl, rfl, rfl, rfl, .nil⟩

/-- A new entry goes to the end, unless it would overtake. -/
theorem order_concat {l : Ledger α} {e : Fate × List α}
    (h : l.Pairwise (fun a b => a.1 = .queued → b.1 = .queued ∨ b.1 = .refused))
    (he : (e.1 = .queued ∨ e.1 = .refused) ∨ chunksOf .queued l = []) :
    (l ++ [e]).Pairwise (fun a b => a.1 = .queued → b.1 = .queued ∨ b.1 = .refused) := by
  refine List.pairwise_append.2 ⟨h, List.pairwise_singleton _ _, fun a ha b hb hq => ?_⟩
  obtain rfl := List.mem_singleton.1 hb
  rcases he with he | he
  · exact he
  · exact absurd hq (ne_of_chunksOf_eq_nil he a ha)

/-- The ledger after the first chunk that waits met `fate` with its first `n` elements. -/
def split (l₁ l₂ : Ledger α) (n : Nat) (chunk : List α) (fate : Fate) : Ledger α :=
  l₁ ++ (fate, chunk.take n) :: ((leftover n chunk).map (Prod.mk .queued) ++ l₂)

theorem chunksOf_split (l₁ l₂ : Ledger α) (n : Nat) (chunk : List α) (fate f : Fate) :
    chunksOf f (split l₁ l₂ n chunk fate) = chunksOf f l₁ ++ (if fate = f then [chunk.take n] else []) ++
      (if .queued = f then leftover n chunk else []) ++ chunksOf f l₂ := by
  unfold split
  rw [chunksOf_append, chunksOf_cons, chunksOf_append, chunksOf_map]
  split <;> simp

theorem order_split {l₁ l₂ : Ledger α} {n : Nat} {chunk : List α} {fate : Fate}
    (h : (l₁ ++ (.queued, chunk) :: l₂).Pairwise (fun a b => a.1 = .queued → b.1 = .queued ∨ b.1 = .refused))
    (h₁ : ∀ e ∈ l₁, e.1 ≠ .queued) (hf : fate ≠ .queued) :
    (split l₁ l₂ n chunk fate).Pairwise (fun a b => a.1 = .queued → b.1 = .queued ∨ b.1 = .refused) := by
  obtain ⟨ho₁, ho₂, -⟩ := List.pairwise_append.1 h
  have hleft : ∀ e ∈ (leftover n chunk).map (Prod.mk Fate.queued) ++ l₂, e.1 = .queued ∨ e.1 = .refused := by
    intro e he
    rcases List.mem_append.1 he with he | he
    · obtain ⟨c, -, rfl⟩ := List.mem_map.1 he
      exact Or.inl rfl
    · exact List.rel_of_pairwise_cons ho₂ he rfl
  refine List.pairwise_append.2 ⟨ho₁, List.pairwise_cons.2 ⟨fun b _ hq => absurd hq hf, ?_⟩,
    fun a ha b _ hq => absurd hq (h₁ a ha)⟩
  exact List.pairwise_append.2 ⟨List.pairwise_of_forall_mem_list (fun a _ b hb _ => hleft b
    (List.mem_append_left _ hb)), ho₂.of_cons, fun a _ b hb _ => hleft b (List.mem_append_right _ hb)⟩

/-- Resolving the first chunk that waits splits its entry in two. -/
theorem explains_resolve {l : Ledger α} {c : Channel α} (h : Explains l c) (n : Nat) (delivered : Bool) :
    ∃ l', Explains l' (c.step (.resolve n delivered)) := by
  cases hq : c.queue with
  | nil =>
    refine ⟨l, ?_⟩
    unfold Channel.step
    rw [hq]
    exact h
  | cons chunk rest =>
    obtain ⟨l₁, l₂, rfl, hl₁, hl₂⟩ := exists_split (h.queue.trans hq)
    obtain ⟨-, ho₂, -⟩ := List.pairwise_append.1 h.order
    -- past the first waiting chunk nothing was delivered or failed
    have hpast : ∀ f, f ≠ .queued → f ≠ .refused → chunksOf f l₂ = [] := by
      intro f hfq hfr
      refine chunksOf_eq_nil (fun e he hf => ?_)
      rcases List.rel_of_pairwise_cons ho₂ he rfl with hp | hp
      · exact hfq (hf.symm.trans hp)
      · exact hfr (hf.symm.trans hp)
    have hdel := hpast .delivered (by decide) (by decide)
    have hfail := hpast .failed (by decide) (by decide)
    have hl₁q : chunksOf .queued l₁ = [] := chunksOf_eq_nil hl₁
    have hposted : ∀ fate, ((split l₁ l₂ n chunk fate).map Prod.snd).flatten = c.posted := by
      intro fate
      rw [← h.posted]
      unfold split
      conv => rhs; rw [← take_leftover n chunk]
      simp [Function.comp_def]
    obtain ⟨-, hd, hf, hr, hqueue, horder⟩ := h
    rw [chunksOf_append, chunksOf_cons] at hd hf hr
    unfold Channel.step
    rw [hq]
    cases delivered with
    | true =>
      refine ⟨split l₁ l₂ n chunk .delivered, hposted _, ?_, ?_, ?_, ?_, order_split horder hl₁ (by decide)⟩
      all_goals rw [chunksOf_split]
      · simp [← hd, hdel]
      · simpa [hfail] using hf
      · simpa using hr
      · simp [hl₁q, hl₂]
    | false =>
      refine ⟨split l₁ l₂ n chunk .failed, hposted _, ?_, ?_, ?_, ?_, order_split horder hl₁ (by decide)⟩
      all_goals rw [chunksOf_split]
      · simpa [hdel] using hd
      · simp [← hf, hfail]
      · simpa using hr
      · simp [hl₁q, hl₂]

/-- **Every command keeps the channel explained.** -/
theorem explains_step {l : Ledger α} {c : Channel α} (h : Explains l c) (cmd : Command α) (hl : c.Legal cmd) :
    ∃ l', Explains l' (c.step cmd) := by
  cases cmd with
  | resolve n delivered => exact explains_resolve h n delivered
  | deliver chunk =>
    refine ⟨l ++ [(.delivered, chunk)], ?_, ?_, ?_, ?_, ?_, order_concat h.order (Or.inr (h.queue.trans hl))⟩
    all_goals simp [Channel.step, chunksOf_append, chunksOf_cons, h.posted, h.delivered, h.failed, h.refused, h.queue]
  | refuse chunk =>
    refine ⟨l ++ [(.refused, chunk)], ?_, ?_, ?_, ?_, ?_, order_concat h.order (Or.inl (Or.inr rfl))⟩
    all_goals simp [Channel.step, chunksOf_append, chunksOf_cons, h.posted, h.delivered, h.failed, h.refused, h.queue]
  | enqueue chunk =>
    refine ⟨l ++ [(.queued, chunk)], ?_, ?_, ?_, ?_, ?_, order_concat h.order (Or.inl (Or.inl rfl))⟩
    all_goals simp [Channel.step, chunksOf_append, chunksOf_cons, h.posted, h.delivered, h.failed, h.refused, h.queue]

/-- **Every run keeps the channel explained.** -/
theorem explains_run : ∀ {cmds : List (Command α)} {l : Ledger α} {c : Channel α}, Explains l c →
    Run.Steps Channel.step Channel.Legal c cmds → ∃ l', Explains l' (Run.run Channel.step c cmds)
  | [], l, _, h, _ => ⟨l, h⟩
  | cmd :: _, _, _, h, hl => by
    obtain ⟨l', h'⟩ := explains_step h cmd hl.1
    rw [Run.run_cons]
    exact explains_run h' hl.2

/-! ## Draining -/

/-- How often a queue has to be resolved until it is empty, if at most `size` elements are resolved at a time. -/
def pieces (size : Nat) : List (List α) → Nat
  | []            => 0
  | chunk :: rest => (chunk.length - 1) / size + 1 + pieces size rest

theorem pieces_cons (size : Nat) (chunk : List α) (rest : List (List α)) :
    pieces size (chunk :: rest) = (chunk.length - 1) / size + 1 + pieces size rest := rfl

theorem pieces_append (size : Nat) : ∀ queue later : List (List α),
    pieces size (queue ++ later) = pieces size queue + pieces size later
  | [], later            => (Nat.zero_add _).symm
  | chunk :: rest, later => by
    rw [List.cons_append, pieces_cons, pieces_cons, pieces_append size rest later, ← Nat.add_assoc]

theorem pieces_eq_zero {size : Nat} : ∀ {queue : List (List α)}, pieces size queue = 0 ↔ queue = []
  | []            => iff_of_true rfl rfl
  | chunk :: rest => by
    have hpos : 0 < pieces size (chunk :: rest) := by
      rw [pieces_cons]
      exact Nat.add_pos_left (Nat.succ_pos _) _
    exact iff_of_false (Nat.ne_of_gt hpos) (List.cons_ne_nil chunk rest)

theorem pieces_leftover {size : Nat} (hsize : 0 < size) (chunk : List α) :
    pieces size (leftover (min chunk.length size) chunk) = (chunk.length - 1) / size := by
  unfold leftover
  by_cases hlong : size < chunk.length
  · rw [if_pos (by omega), pieces_cons, List.length_drop, Nat.min_eq_right (Nat.le_of_lt hlong),
      show chunk.length - 1 = chunk.length - size - 1 + size by omega, Nat.add_div_right _ hsize]
    rfl
  · rw [if_neg (by omega), Nat.div_eq_of_lt (by omega)]
    rfl

namespace Channel

/-- A resolution of as much as fits takes one piece away. -/
theorem pieces_resolve {size : Nat} (hsize : 0 < size) {c : Channel α} {chunk : List α} {rest : List (List α)}
    (h : c.queue = chunk :: rest) (delivered : Bool) :
    pieces size (c.step (.resolve (min chunk.length size) delivered)).queue + 1 = pieces size c.queue := by
  have hqueue : (c.step (.resolve (min chunk.length size) delivered)).queue =
      leftover (min chunk.length size) chunk ++ rest := by
    unfold step
    rw [h]
    cases delivered <;> rfl
  rw [hqueue, h, pieces_append, pieces_leftover hsize, pieces_cons]
  omega

/-- The second channel has delivered some of what waited in the first, and lost nothing. -/
structure Conveys (c c' : Channel α) : Prop where
  posted : c'.posted = c.posted
  failed : c'.failed = c.failed
  refused : c'.refused = c.refused
  inOrder : c'.delivered ++ c'.queue.flatten = c.delivered ++ c.queue.flatten

theorem Conveys.refl (c : Channel α) : Conveys c c := ⟨rfl, rfl, rfl, rfl⟩

theorem Conveys.trans {c c' c'' : Channel α} (h : Conveys c c') (h' : Conveys c' c'') : Conveys c c'' :=
  ⟨h'.posted.trans h.posted, h'.failed.trans h.failed, h'.refused.trans h.refused, h'.inOrder.trans h.inOrder⟩

theorem conveys_resolve (c : Channel α) (n : Nat) : Conveys c (c.step (.resolve n true)) := by
  unfold step
  cases hqueue : c.queue with
  | nil => exact .refl c
  | cons chunk rest =>
    refine ⟨rfl, rfl, rfl, ?_⟩
    have hsplit := take_leftover n chunk
    dsimp only
    rw [if_pos rfl]
    dsimp only
    rw [List.flatten_append, List.append_assoc, ← List.append_assoc (chunk.take n), hsplit, hqueue, List.flatten_cons]

end Channel

end LossyFifo
