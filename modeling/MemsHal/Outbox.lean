import MemsHal.Run
import Mathlib.Tactic.Common
/-!
# Outbox — changes whose messages are sent later

A component changes a table in one step and sends the message about the change in a later one, so that a message can
overtake those of earlier changes.  `tells k x` is the value that the message `x` gives to the key `k`, if it is about
`k`, and a receiver believes of `k` what the last message about it said.  Sending one message leaves what the receiver
will believe in the end as it was exactly if no key hears less recent news last (`believed_deliver_iff`).
-/

universe u v w

/-- The messages to be sent, oldest change first, and those sent, in the order they were. -/
structure Outbox (α : Type u) where
  pending : List α
  delivered : List α

namespace Outbox

open Run (lastOf lastOf_append lastOf_cons)

variable {α : Type u} {κ : Type v} {β : Type w}

def empty : Outbox α := ⟨[], []⟩

def post (o : Outbox α) (x : α) : Outbox α := { o with pending := o.pending ++ [x] }

/-- The `j`-th message is sent. -/
def deliver (o : Outbox α) (j : Nat) : Outbox α :=
  match o.pending[j]? with
  | some x => ⟨o.pending.eraseIdx j, o.delivered ++ [x]⟩
  | none   => o

/-- All messages are sent, oldest change first. -/
def settle (o : Outbox α) : Outbox α := ⟨[], o.delivered ++ o.pending⟩

/-- What the receiver believes of a key. -/
def believed (tells : κ → α → Option β) (o : Outbox α) (k : κ) : Option β := lastOf (tells k) o.delivered

/-- The `j`-th message agrees with the news it overtakes, about each key that no later message is about. -/
def InOrder (tells : κ → α → Option β) (o : Outbox α) (j : Nat) : Prop :=
  ∀ x, o.pending[j]? = some x → ∀ k b b', tells k x = some b → lastOf (tells k) (o.pending.drop (j + 1)) = none →
    lastOf (tells k) (o.pending.take j) = some b' → b' = b

/-- Settling sends the messages one by one. -/
theorem settle_eq_run : ∀ (pending delivered : List α),
    settle ⟨pending, delivered⟩ = Run.run deliver ⟨pending, delivered⟩ (List.replicate pending.length 0)
  | [], delivered => by
    unfold settle
    rw [List.append_nil]
    rfl
  | x :: pending, delivered => by
    have hfirst : deliver ⟨x :: pending, delivered⟩ 0 = ⟨pending, delivered ++ [x]⟩ := rfl
    rw [List.length_cons, List.replicate_succ, Run.run_cons, hfirst, ← settle_eq_run pending (delivered ++ [x])]
    unfold settle
    rw [List.append_assoc]
    rfl

theorem settle_of_quiescent {o : Outbox α} (h : o.pending = []) : o.settle = o := by
  obtain ⟨pending, delivered⟩ := o
  obtain rfl : pending = [] := h
  unfold settle
  rw [List.append_nil]

/-- A new message is believed in the end. -/
theorem believed_settle_post (tells : κ → α → Option β) (o : Outbox α) (x : α) (k : κ) :
    believed tells (o.post x).settle k = (tells k x).or (believed tells o.settle k) := by
  unfold believed settle post
  dsimp only
  rw [← List.append_assoc, lastOf_append, lastOf_cons]
  rfl

/-- Moving `x` in front of `a` changes what is said last exactly if `x` disagrees with `a` and nothing follows. -/
theorem lastOf_move_iff (f : α → Option β) (r a c : List α) (x : α) :
    lastOf f (r ++ [x] ++ (a ++ c)) = lastOf f (r ++ (a ++ x :: c)) ↔
      ∀ b b', f x = some b → lastOf f c = none → lastOf f a = some b' → b' = b := by
  simp only [lastOf_append, lastOf_cons]
  have hnil : lastOf f [] = none := rfl
  rw [hnil, Option.none_or]
  cases hc : lastOf f c with
  | some d =>
    refine iff_of_true ?_ (fun _ _ _ hnone => by cases hnone)
    simp
  | none =>
    cases hx : f x with
    | none => refine iff_of_true ?_ (fun _ _ hb => by cases hb); simp
    | some b =>
      cases ha : lastOf f a with
      | none => refine iff_of_true ?_ (fun _ _ _ _ hb' => by cases hb'); simp
      | some b' => simp

theorem lastOf_eq_none_iff (f : α → Option β) (l : List α) : lastOf f l = none ↔ ∀ x ∈ l, f x = none := by
  unfold lastOf
  rw [List.getLast?_eq_none_iff, List.filterMap_eq_nil_iff]

theorem split_at {l : List α} {j : Nat} {x : α} (h : l[j]? = some x) : l = l.take j ++ x :: l.drop (j + 1) := by
  obtain ⟨hlt, rfl⟩ := List.getElem?_eq_some_iff.1 h
  rw [← List.drop_eq_getElem_cons hlt, List.take_append_drop]

/-- Which keys the receiver has heard of in the end does not depend on the order. -/
theorem believed_deliver_eq_none_iff (tells : κ → α → Option β) (o : Outbox α) (j : Nat) (k : κ) :
    believed tells (o.deliver j).settle k = none ↔ believed tells o.settle k = none := by
  unfold believed deliver
  cases hj : o.pending[j]? with
  | none => exact Iff.rfl
  | some x =>
    have hperm : (o.delivered ++ [x] ++ o.pending.eraseIdx j).Perm (o.delivered ++ o.pending) := by
      conv_rhs => rw [split_at hj]
      rw [List.append_assoc, List.eraseIdx_eq_take_drop_succ, List.singleton_append]
      exact List.perm_middle.symm.append_left o.delivered
    simp only [settle, lastOf_eq_none_iff, hperm.mem_iff]

/-- **A message leaves what the receiver believes in the end as it was exactly if it is in order.** -/
theorem believed_deliver_iff (tells : κ → α → Option β) (o : Outbox α) (j : Nat) :
    (∀ k, believed tells (o.deliver j).settle k = believed tells o.settle k) ↔ InOrder tells o j := by
  unfold InOrder deliver
  cases hj : o.pending[j]? with
  | none => exact iff_of_true (fun _ => rfl) (fun x hx => by cases hx)
  | some x =>
    have hone : ∀ k, believed tells (settle ⟨o.pending.eraseIdx j, o.delivered ++ [x]⟩) k =
        believed tells o.settle k ↔ ∀ b b', tells k x = some b →
          lastOf (tells k) (o.pending.drop (j + 1)) = none → lastOf (tells k) (o.pending.take j) = some b' → b' = b := by
      intro k
      rw [← lastOf_move_iff (tells k) o.delivered, ← split_at hj, ← List.eraseIdx_eq_take_drop_succ]
      rfl
    constructor
    · rintro h _ ⟨⟩ k
      exact (hone k).1 (h k)
    · intro h k
      exact (hone k).2 (h _ rfl k)

end Outbox
