import Mathlib.Computability.RegularExpressions
/-!
# CharClass — classes, options and repetitions in regular expressions

The parts that a written regular expression is made of, `[abc]`, `r?` and `r+`, and what each of them matches.
-/
namespace CharClass

open RegularExpression

universe u

variable {α : Type u}

/-- `[cs]`. -/
def oneOf : List α → RegularExpression α
  | []      => 0
  | c :: cs => char c + oneOf cs

/-- `r?`. -/
def opt (r : RegularExpression α) : RegularExpression α := r + 1

/-- `r+`. -/
def atLeastOnce (r : RegularExpression α) : RegularExpression α := r * star r

theorem mem_opt {r : RegularExpression α} {w : List α} : w ∈ (opt r).matches' ↔ w ∈ r.matches' ∨ w = [] := Iff.rfl

theorem mem_mul {r q : RegularExpression α} {w : List α} :
    w ∈ (r * q).matches' ↔ ∃ a ∈ r.matches', ∃ b ∈ q.matches', a ++ b = w := Language.mem_mul

theorem mem_oneOf {w : List α} : ∀ {cs : List α}, w ∈ (oneOf cs).matches' ↔ ∃ c ∈ cs, w = [c]
  | []      => ⟨fun h => absurd h (Set.notMem_empty w), fun ⟨_, hc, _⟩ => by cases hc⟩
  | c :: cs => by
    rw [List.exists_mem_cons_iff]
    exact or_congr Iff.rfl mem_oneOf

theorem mem_star_oneOf {cs w : List α} : w ∈ (star (oneOf cs)).matches' ↔ ∀ c ∈ w, c ∈ cs := by
  constructor
  · rintro ⟨parts, rfl, hparts⟩ c hc
    obtain ⟨part, hpart, hc⟩ := List.mem_flatten.1 hc
    obtain ⟨c', hc', rfl⟩ := mem_oneOf.1 (hparts part hpart)
    obtain rfl := List.mem_singleton.1 hc
    exact hc'
  · intro h
    refine ⟨w.map fun c => [c], by rw [← List.flatMap_def, List.flatMap_singleton'], fun part hpart => ?_⟩
    obtain ⟨c, hc, rfl⟩ := List.mem_map.1 hpart
    exact mem_oneOf.2 ⟨c, h c hc, rfl⟩

theorem mem_atLeastOnce_oneOf {cs w : List α} :
    w ∈ (atLeastOnce (oneOf cs)).matches' ↔ w ≠ [] ∧ ∀ c ∈ w, c ∈ cs := by
  refine mem_mul.trans ⟨?_, ?_⟩
  · rintro ⟨first, hfirst, rest, hrest, rfl⟩
    obtain ⟨c, hc, rfl⟩ := mem_oneOf.1 hfirst
    exact ⟨List.cons_ne_nil c rest, List.forall_mem_cons.2 ⟨hc, mem_star_oneOf.1 hrest⟩⟩
  · rintro ⟨hne, hall⟩
    cases w with
    | nil => exact absurd rfl hne
    | cons c rest =>
      obtain ⟨hc, hrest⟩ := List.forall_mem_cons.1 hall
      exact ⟨[c], mem_oneOf.2 ⟨c, hc, rfl⟩, rest, mem_star_oneOf.2 hrest, rfl⟩

theorem mem_char_mul {c : α} {r : RegularExpression α} {w : List α} :
    w ∈ (char c * r).matches' ↔ ∃ t ∈ r.matches', c :: t = w := by
  refine mem_mul.trans ⟨?_, ?_⟩
  · rintro ⟨first, rfl, rest, hrest, rfl⟩
    exact ⟨rest, hrest, rfl⟩
  · rintro ⟨t, ht, rfl⟩
    exact ⟨[c], rfl, t, ht, rfl⟩

end CharClass
