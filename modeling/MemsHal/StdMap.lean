import Mathlib.Data.List.Perm.Subperm
import Mathlib.Tactic.Common
/-!
# StdMap — `std::map`

An ordered map is `Std.ExtTreeMap`; `m[k]` on a missing key inserts the default value first, which is `subscript`.
-/

universe u v

abbrev StdMap (κ : Type u) (α : Type v) [Ord κ] [Std.TransOrd κ] := Std.ExtTreeMap κ α

namespace StdMap

variable {κ : Type u} {α : Type v} [Ord κ] [Std.TransOrd κ]

/-- The map after `m[k]` was evaluated, `d` being the value a missing key gets. -/
def subscript (m : StdMap κ α) (k : κ) (d : α) : StdMap κ α := m.insertIfNew k d

variable [Std.LawfulEqOrd κ] [DecidableEq κ]

theorem getElem?_subscript (m : StdMap κ α) (k : κ) (d : α) (a : κ) :
    (m.subscript k d)[a]? = if k = a ∧ m[k]? = none then some d else m[a]? := by
  unfold subscript
  rw [Std.ExtTreeMap.getElem?_insertIfNew]
  simp only [Std.LawfulEqCmp.compare_eq_iff_eq, Std.ExtTreeMap.mem_iff_isSome_getElem?, Bool.not_eq_true,
    Option.isSome_eq_false_iff, Option.isNone_iff_eq_none]

/-- Evaluating `m[k]` changes no value read with the same default. -/
@[simp] theorem getD_subscript (m : StdMap κ α) (k : κ) (d : α) (a : κ) : (m.subscript k d).getD a d = m.getD a d := by
  rw [Std.ExtTreeMap.getD_eq_getD_getElem?, Std.ExtTreeMap.getD_eq_getD_getElem?, getElem?_subscript]
  split
  · rename_i h
    obtain ⟨rfl, h⟩ := h
    rw [h]; rfl
  · rfl

omit [DecidableEq κ] in
theorem mem_subscript (m : StdMap κ α) (k : κ) (d : α) (a : κ) : a ∈ m.subscript k d ↔ a = k ∨ a ∈ m := by
  unfold subscript
  rw [Std.ExtTreeMap.mem_insertIfNew, Std.LawfulEqCmp.compare_eq_iff_eq, eq_comm]

/-- Evaluating `m[k]` leaves a map alone that has `k`. -/
theorem subscript_of_mem {m : StdMap κ α} {k : κ} (h : k ∈ m) (d : α) : m.subscript k d = m := by
  rw [Std.ExtTreeMap.mem_iff_isSome_getElem?] at h
  refine Std.ExtTreeMap.ext_getElem? fun a => ?_
  rw [getElem?_subscript, if_neg]
  rintro ⟨-, hnone⟩
  rw [hnone] at h
  cases h

/-- The map after `m[k]` was evaluated for each of `ks`. -/
def subscripts (m : StdMap κ α) (ks : List κ) (d : α) : StdMap κ α := ks.foldl (fun m k => m.subscript k d) m

omit [DecidableEq κ] in
theorem mem_subscripts (d : α) (a : κ) : ∀ (ks : List κ) (m : StdMap κ α), a ∈ m.subscripts ks d ↔ a ∈ m ∨ a ∈ ks
  | [], m => by simp [subscripts]
  | k :: ks, m => by
    show a ∈ (m.subscript k d).subscripts ks d ↔ a ∈ m ∨ a ∈ k :: ks
    rw [mem_subscripts d a ks, mem_subscript, List.mem_cons]
    tauto

@[simp] theorem getD_subscripts (d : α) (a : κ) : ∀ (ks : List κ) (m : StdMap κ α),
    (m.subscripts ks d).getD a d = m.getD a d
  | [], _ => rfl
  | k :: ks, m => (getD_subscripts d a ks (m.subscript k d)).trans (getD_subscript m k d a)

/-- **Lookups leave a map alone exactly if it has all the keys.** -/
theorem subscripts_eq_self_iff (m : StdMap κ α) (ks : List κ) (d : α) : m.subscripts ks d = m ↔ ∀ k ∈ ks, k ∈ m := by
  constructor
  · intro h k hk
    rw [← h, mem_subscripts]
    exact Or.inr hk
  · intro h
    induction ks with
    | nil => rfl
    | cons k ks ih =>
      show (m.subscript k d).subscripts ks d = m
      rw [subscript_of_mem (h k List.mem_cons_self), ih (fun k hk => h k (List.mem_cons_of_mem _ hk))]

@[simp] theorem getElem?_insert_eq (m : StdMap κ α) (k : κ) (v : α) (a : κ) :
    (m.insert k v)[a]? = if k = a then some v else m[a]? := by
  rw [Std.ExtTreeMap.getElem?_insert]
  simp only [Std.LawfulEqCmp.compare_eq_iff_eq]

@[simp] theorem getElem?_erase_eq (m : StdMap κ α) (k a : κ) :
    (m.erase k)[a]? = if k = a then none else m[a]? := by
  rw [Std.ExtTreeMap.getElem?_erase]
  simp only [Std.LawfulEqCmp.compare_eq_iff_eq]

@[simp] theorem getD_insert_eq (m : StdMap κ α) (k : κ) (v d : α) (a : κ) :
    (m.insert k v).getD a d = if k = a then v else m.getD a d := by
  rw [Std.ExtTreeMap.getD_insert]
  simp only [Std.LawfulEqCmp.compare_eq_iff_eq]

omit [DecidableEq κ] in
/-- A loop over the entries sees exactly the stored ones. -/
theorem mem_toList (m : StdMap κ α) (k : κ) (v : α) : (k, v) ∈ m.toList ↔ m[k]? = some v :=
  Std.ExtTreeMap.mem_toList_iff_getElem?_eq_some

omit [DecidableEq κ] in
/-- Keys that are all in the map, no key twice, are no more than the map has. -/
theorem length_le_size {m : StdMap κ α} {ks : List κ} (hnodup : ks.Nodup) (hmem : ∀ k ∈ ks, k ∈ m) :
    ks.length ≤ m.size := by
  have hsub : ks ⊆ m.keys := fun k hk => Std.ExtTreeMap.mem_keys.2 (hmem k hk)
  rw [← Std.ExtTreeMap.length_keys]
  exact (List.subperm_of_subset hnodup hsub).length_le

/-! ## A property of all values -/

def All (P : α → Prop) (m : StdMap κ α) : Prop := ∀ (k : κ) (v : α), m[k]? = some v → P v

section All

variable {P : α → Prop} {m : StdMap κ α}

omit [Std.LawfulEqOrd κ] [DecidableEq κ] in
theorem all_empty : All P (∅ : StdMap κ α) := by
  intro k v hv
  rw [Std.ExtTreeMap.getElem?_empty] at hv
  cases hv

/-- A new value is all there is to check. -/
theorem all_insert_iff (h : All P m) (k : κ) (v : α) : All P (m.insert k v) ↔ P v := by
  constructor
  · exact fun hall => hall k v (by rw [getElem?_insert_eq, if_pos rfl])
  · intro hv k' v' hv'
    rw [getElem?_insert_eq] at hv'
    split at hv'
    · exact Option.some.inj hv' ▸ hv
    · exact h k' v' hv'

theorem All.subscript (h : All P m) (k : κ) {d : α} (hd : P d) : All P (m.subscript k d) := by
  intro k' v hv
  rw [getElem?_subscript] at hv
  split at hv
  · exact Option.some.inj hv ▸ hd
  · exact h k' v hv

theorem All.erase (h : All P m) (k : κ) : All P (m.erase k) := by
  intro k' v hv
  rw [getElem?_erase_eq] at hv
  split at hv
  · cases hv
  · exact h k' v hv

end All

/-! ## A loop of assignments -/

/-- `e` is the last of the entries with its key. -/
def Last {ε : Type*} (key : ε → κ) (entries : List ε) (e : ε) : Prop :=
  ∃ before after, entries = before ++ e :: after ∧ ∀ later ∈ after, key later ≠ key e

/-- The map after `m[key e] = value e` for each entry. -/
def assign {ε : Type*} (m : StdMap κ α) (key : ε → κ) (value : ε → α) (entries : List ε) : StdMap κ α :=
  entries.foldl (fun m e => m.insert (key e) (value e)) m

section Assign

variable {ε : Type*} {key : ε → κ} {value : ε → α}

omit [Ord κ] [Std.TransOrd κ] [Std.LawfulEqOrd κ] [DecidableEq κ] in
theorem last_cons (first : ε) (entries : List ε) (e : ε) :
    Last key (first :: entries) e ↔ Last key entries e ∨ (e = first ∧ ∀ later ∈ entries, key later ≠ key e) := by
  constructor
  · rintro ⟨before, after, heq, hlater⟩
    cases before with
    | nil =>
      obtain ⟨rfl, rfl⟩ := List.cons.inj heq
      exact Or.inr ⟨rfl, hlater⟩
    | cons b before =>
      obtain ⟨-, rfl⟩ := List.cons.inj heq
      exact Or.inl ⟨before, after, rfl, hlater⟩
  · rintro (⟨before, after, rfl, hlater⟩ | ⟨rfl, hlater⟩)
    · exact ⟨first :: before, after, rfl, hlater⟩
    · exact ⟨[], entries, rfl, hlater⟩

omit [Ord κ] [Std.TransOrd κ] [Std.LawfulEqOrd κ] [DecidableEq κ] in
/-- Where no key occurs twice, every entry is the last with its key. -/
theorem last_of_nodup {entries : List ε} (hnodup : (entries.map key).Nodup) {e : ε} (h : e ∈ entries) :
    Last key entries e := by
  obtain ⟨before, after, rfl⟩ := List.append_of_mem h
  refine ⟨before, after, rfl, fun later hm heq => ?_⟩
  rw [List.map_append, List.map_cons] at hnodup
  have hcons := (List.nodup_append.1 hnodup).2.1
  exact (List.nodup_cons.1 hcons).1 (List.mem_map.2 ⟨later, hm, heq⟩)

/-- **The last assignment to a key is the one that stays.** -/
theorem getElem?_assign_iff (k : κ) (v : α) : ∀ (entries : List ε) (m : StdMap κ α),
    (m.assign key value entries)[k]? = some v ↔ (∃ e, Last key entries e ∧ key e = k ∧ value e = v) ∨
      (m[k]? = some v ∧ ∀ e ∈ entries, key e ≠ k)
  | [], m => by simp [assign, Last]
  | first :: entries, m => by
    have hrest := getElem?_assign_iff k v entries (m.insert (key first) (value first))
    refine hrest.trans ?_
    rw [getElem?_insert_eq]
    simp only [last_cons, List.forall_mem_cons]
    by_cases hk : key first = k
    · rw [if_pos hk]
      constructor
      · rintro (⟨e, hlast, he⟩ | ⟨hv, hnone⟩)
        · exact Or.inl ⟨e, Or.inl hlast, he⟩
        · exact Or.inl ⟨first, Or.inr ⟨rfl, fun later hm heq => hnone later hm (heq.trans hk)⟩, hk, Option.some.inj hv⟩
      · rintro (⟨e, hlast | ⟨rfl, hnone⟩, hkey, hv⟩ | ⟨-, hne, -⟩)
        · exact Or.inl ⟨e, hlast, hkey, hv⟩
        · exact Or.inr ⟨congrArg some hv, fun later hm heq => hnone later hm (heq.trans hkey.symm)⟩
        · exact absurd hk hne
    · rw [if_neg hk]
      constructor
      · rintro (⟨e, hlast, he⟩ | ⟨hv, hnone⟩)
        · exact Or.inl ⟨e, Or.inl hlast, he⟩
        · exact Or.inr ⟨hv, hk, hnone⟩
      · rintro (⟨e, hlast | ⟨rfl, -⟩, hkey, hv⟩ | ⟨hv, -, hnone⟩)
        · exact Or.inl ⟨e, hlast, hkey, hv⟩
        · exact absurd hkey hk
        · exact Or.inr ⟨hv, hnone⟩

/-- **Assignments in ascending order of their keys** are the entries of the map, in that order. -/
theorem toList_assign {entries : List ε} (h : entries.Pairwise fun a b => compare (key a) (key b) = .lt) :
    ((∅ : StdMap κ α).assign key value entries).toList = entries.map fun e => (key e, value e) := by
  have hsorted := (List.pairwise_map (l := entries) (f := fun e => (key e, value e))
    (R := fun a b => compare a.1 b.1 = .lt)).2 h
  have hnodup : (entries.map key).Nodup := List.pairwise_map.2 (h.imp fun hlt heq => by
    rw [heq, Std.ReflOrd.compare_self] at hlt
    cases hlt)
  have hne : ∀ {l : List (κ × α)}, l.Pairwise (fun a b => compare a.1 b.1 = .lt) → l.Nodup := fun hl =>
    hl.imp fun hlt heq => by
      rw [heq, Std.ReflOrd.compare_self] at hlt
      cases hlt
  refine List.Perm.eq_of_pairwise (fun a b _ _ hlt hgt => ?_) Std.ExtTreeMap.ordered_keys_toList hsorted
    ((List.perm_ext_iff_of_nodup (hne Std.ExtTreeMap.ordered_keys_toList) (hne hsorted)).2 ?_)
  · rw [Std.OrientedOrd.eq_swap (a := a.1), hgt] at hlt
    cases hlt
  · rintro ⟨k, v⟩
    rw [mem_toList, getElem?_assign_iff, List.mem_map]
    constructor
    · rintro (⟨e, ⟨before, after, rfl, -⟩, rfl, rfl⟩ | ⟨hv, -⟩)
      · exact ⟨e, List.mem_append_right before List.mem_cons_self, rfl⟩
      · rw [Std.ExtTreeMap.getElem?_empty] at hv
        cases hv
    · rintro ⟨e, hm, heq⟩
      obtain ⟨rfl, rfl⟩ := Prod.mk.inj heq
      exact Or.inl ⟨e, last_of_nodup hnodup hm, rfl, rfl⟩

end Assign

end StdMap
