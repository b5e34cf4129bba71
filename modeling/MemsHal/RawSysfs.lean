import Mathlib.Data.Rat.Cast.Order
import Mathlib.Algebra.Field.Rat
import Mathlib.Tactic.NormNum
import MemsHal.CharClass
import MemsHal.SensorHal
/-!
# RawSysfs — `hwctl/FileHandler.cpp`: the raw values of a sensor's files

A file is accepted by a regular expression for decimal numbers, with fraction and exponent, and read by `std::stoi`,
which stops at the end of the integer part.  The two agree on a number that is its own integer part; elsewhere the value
is not the number, or `stoi` throws (`right_iff`).
-/
namespace MemsHal
namespace RawSysfs

open RegularExpression CharClass

/-- The characters of `\s`, which are those of `isspace`. -/
def spaces : List Char := [' ', '\t', '\n', '\x0b', '\x0c', '\r']

def digits : List Char := ['0', '1', '2', '3', '4', '5', '6', '7', '8', '9']

/-- `^\s*[-+]?(?:\d+(?:\.\d*)?|\.\d+)(?:[eE][-+]?\d+)?\s*$` -/
def number_regex : RegularExpression Char :=
  star (oneOf spaces) * (opt (oneOf ['-', '+']) *
    ((atLeastOnce (oneOf digits) * opt (char '.' * star (oneOf digits)) + char '.' * atLeastOnce (oneOf digits)) *
      (opt (oneOf ['e', 'E'] * (opt (oneOf ['-', '+']) * atLeastOnce (oneOf digits))) * star (oneOf spaces))))

def isValidInteger (s : List Char) : Bool := number_regex.rmatch s

/-! ## `std::stoi` -/

inductive StoiError
  | invalid_argument
  | out_of_range
  deriving DecidableEq, Repr

/-- A sign that may be there. -/
inductive Sign
  | absent
  | plus
  | minus
  deriving DecidableEq, Repr

namespace Sign

def text : Sign → List Char
  | absent => []
  | plus   => ['+']
  | minus  => ['-']

def apply (sign : Sign) (n : Nat) : Int := if sign = minus then -n else n

/-- The sign that a string starts with, and what follows. -/
def split : List Char → Sign × List Char
  | '+' :: s => (plus, s)
  | '-' :: s => (minus, s)
  | s        => (absent, s)

end Sign

/-- The number that digits stand for. -/
def ofDigits (s : List Char) : Nat := s.foldl (fun n c => 10 * n + (c.toNat - '0'.toNat)) 0

/-- The range of `int`. -/
def InRange (n : Int) : Prop := -2 ^ 31 ≤ n ∧ n < 2 ^ 31

instance (n : Int) : Decidable (InRange n) := inferInstanceAs (Decidable (_ ∧ _))

def stoi (s : List Char) : Except StoiError Int :=
  let (sign, rest) := Sign.split (s.dropWhile (· ∈ spaces))
  let prefixDigits := rest.takeWhile (· ∈ digits)
  if prefixDigits = [] then .error .invalid_argument
  else
    let n := sign.apply (ofDigits prefixDigits)
    if InRange n then .ok n else .error .out_of_range

/-! ## `RawSysfsHandler` -/

/-- The files of the handlers. -/
def init (path : String) (files : Vector String 3) : List String :=
  (files.toList.takeWhile (· ≠ "")).map (path ++ ·)

section Read

variable {K : Type*} [IntCast K] [Mul K]

/-- What `read` returns, and the values that it leaves in `results`; `none` is a file that is not open. -/
def read (results : List K) (resolution : K) : List (Option (List Char)) → Except StoiError (Int × List K)
  | []                     => .ok (0, results)
  | none :: _              => .ok (-1, results)
  | some content :: others =>
    if isValidInteger content then
      match stoi content with
      | .error e => .error e
      | .ok n    => read (results ++ [(n : K) * resolution]) resolution others
    else .ok (-1, results)

/-- `SensorCore::readPollingData`. -/
def readPollingData (values : List (SensorValues K)) (timestamp : Int64) (files : List (Option (List Char)))
    (resolution : K) : Except StoiError (List (SensorValues K)) :=
  match read [] resolution files with
  | .error e            => .error e
  | .ok (status, data)  => .ok (if status ≠ 0 then values else values ++ [{ timestamp := timestamp, data := data }])

end Read

/-! ## Numbers -/

def AllDigits (s : List Char) : Prop := ∀ c ∈ s, c ∈ digits

theorem allDigits_singleton {c : Char} (h : c ∈ digits) : AllDigits [c] := List.forall_mem_singleton.2 h

structure Exponent where
  letter : Char
  sign : Sign
  power : List Char
  hletter : letter ∈ ['e', 'E']
  hpower : power ≠ [] ∧ AllDigits power

/-- A decimal number as it is written. -/
structure Numeral where
  sign : Sign
  integer : List Char
  fraction : Option (List Char)
  exponent : Option Exponent
  hinteger : AllDigits integer
  hfraction : ∀ f ∈ fraction, AllDigits f
  hmantissa : integer ≠ [] ∨ ∃ f ∈ fraction, f ≠ []

namespace Exponent

def text (e : Exponent) : List Char := e.letter :: (e.sign.text ++ e.power)

def value (e : Exponent) : Int := e.sign.apply (ofDigits e.power)

end Exponent

namespace Numeral

def fractionText : Option (List Char) → List Char
  | some f => '.' :: f
  | none   => []

def exponentText : Option Exponent → List Char
  | some e => e.text
  | none   => []

/-- What follows the integer part. -/
def tail (n : Numeral) : List Char := fractionText n.fraction ++ exponentText n.exponent

def text (n : Numeral) : List Char := n.sign.text ++ (n.integer ++ n.tail)

/-- **The number it denotes.** -/
def value (n : Numeral) : ℚ :=
  n.sign.apply (ofDigits (n.integer ++ n.fraction.getD [])) *
    10 ^ ((n.exponent.map Exponent.value).getD 0 - (n.fraction.getD []).length)

def integerPart (n : Numeral) : Int := n.sign.apply (ofDigits n.integer)

end Numeral

/-- A string is a number, up to surrounding whitespace. -/
def Contains (s : List Char) (n : Numeral) : Prop :=
  ∃ before after, (∀ c ∈ before, c ∈ spaces) ∧ (∀ c ∈ after, c ∈ spaces) ∧ s = before ++ (n.text ++ after)

/-! ## The regular expression -/

theorem mem_sign {w : List Char} : w ∈ (opt (oneOf ['-', '+'])).matches' ↔ ∃ sign : Sign, w = sign.text := by
  rw [mem_opt, mem_oneOf]
  constructor
  · rintro (⟨c, hc, rfl⟩ | rfl)
    · rcases List.mem_cons.1 hc with rfl | hc
      · exact ⟨.minus, rfl⟩
      · obtain rfl := List.mem_singleton.1 hc
        exact ⟨.plus, rfl⟩
    · exact ⟨.absent, rfl⟩
  · rintro ⟨sign, rfl⟩
    cases sign with
    | absent => exact Or.inr rfl
    | plus => exact Or.inl ⟨'+', by decide, rfl⟩
    | minus => exact Or.inl ⟨'-', by decide, rfl⟩

theorem mem_mantissa {w : List Char} :
    w ∈ (atLeastOnce (oneOf digits) * opt (char '.' * star (oneOf digits)) +
        char '.' * atLeastOnce (oneOf digits)).matches' ↔
      ∃ integer fraction, AllDigits integer ∧ (∀ f ∈ fraction, AllDigits f) ∧
        (integer ≠ [] ∨ ∃ f ∈ fraction, f ≠ []) ∧ integer ++ Numeral.fractionText fraction = w := by
  have hadd : w ∈ (atLeastOnce (oneOf digits) * opt (char '.' * star (oneOf digits)) +
      char '.' * atLeastOnce (oneOf digits)).matches' ↔
      w ∈ (atLeastOnce (oneOf digits) * opt (char '.' * star (oneOf digits))).matches' ∨
        w ∈ (char '.' * atLeastOnce (oneOf digits)).matches' := Iff.rfl
  rw [hadd, mem_mul, mem_char_mul]
  constructor
  · rintro (⟨integer, hinteger, rest, hrest, rfl⟩ | ⟨f, hf, rfl⟩)
    · obtain ⟨hne, hdigits⟩ := mem_atLeastOnce_oneOf.1 hinteger
      rcases mem_opt.1 hrest with hrest | rfl
      · obtain ⟨f, hf, rfl⟩ := mem_char_mul.1 hrest
        refine ⟨integer, some f, hdigits, fun g hg => ?_, Or.inl hne, rfl⟩
        obtain rfl := Option.some.inj hg
        exact mem_star_oneOf.1 hf
      · exact ⟨integer, none, hdigits, nofun, Or.inl hne, rfl⟩
    · obtain ⟨hne, hdigits⟩ := mem_atLeastOnce_oneOf.1 hf
      refine ⟨[], some f, nofun, fun g hg => ?_, Or.inr ⟨f, rfl, hne⟩, rfl⟩
      obtain rfl := Option.some.inj hg
      exact hdigits
  · rintro ⟨integer, fraction, hdigits, hfraction, hmantissa, rfl⟩
    by_cases hne : integer = []
    · obtain ⟨f, hf, hfne⟩ := hmantissa.resolve_left (not_not.2 hne)
      obtain rfl := Option.mem_def.1 hf
      subst hne
      exact Or.inr ⟨f, mem_atLeastOnce_oneOf.2 ⟨hfne, hfraction f rfl⟩, rfl⟩
    · refine Or.inl ⟨integer, mem_atLeastOnce_oneOf.2 ⟨hne, hdigits⟩, _, ?_, rfl⟩
      cases fraction with
      | none => exact Or.inr rfl
      | some f => exact mem_opt.2 (Or.inl (mem_char_mul.2 ⟨f, mem_star_oneOf.2 (hfraction f rfl), rfl⟩))

theorem mem_exponent {w : List Char} :
    w ∈ (opt (oneOf ['e', 'E'] * (opt (oneOf ['-', '+']) * atLeastOnce (oneOf digits)))).matches' ↔
      ∃ exponent : Option Exponent, Numeral.exponentText exponent = w := by
  rw [mem_opt, mem_mul]
  constructor
  · rintro (⟨letter, hletter, rest, hrest, rfl⟩ | rfl)
    · obtain ⟨c, hc, rfl⟩ := mem_oneOf.1 hletter
      obtain ⟨sign, hsign, power, hpower, rfl⟩ := mem_mul.1 hrest
      obtain ⟨sign, rfl⟩ := mem_sign.1 hsign
      exact ⟨some ⟨c, sign, power, hc, mem_atLeastOnce_oneOf.1 hpower⟩, rfl⟩
    · exact ⟨none, rfl⟩
  · rintro ⟨exponent, rfl⟩
    cases exponent with
    | none => exact Or.inr rfl
    | some e =>
      refine Or.inl ⟨[e.letter], mem_oneOf.2 ⟨e.letter, e.hletter, rfl⟩, e.sign.text ++ e.power, ?_, rfl⟩
      exact mem_mul.2 ⟨e.sign.text, mem_sign.2 ⟨e.sign, rfl⟩, e.power, mem_atLeastOnce_oneOf.2 e.hpower, rfl⟩

/-- **The regular expression accepts the numbers.** -/
theorem isValidInteger_iff {s : List Char} : isValidInteger s = true ↔ ∃ n, Contains s n := by
  unfold isValidInteger
  rw [rmatch_iff_matches']
  constructor
  · intro h
    obtain ⟨before, hbefore, signed, hsigned, rfl⟩ := mem_mul.1 h
    obtain ⟨sign, hsign, unsigned, hunsigned, rfl⟩ := mem_mul.1 hsigned
    obtain ⟨mantissa, hmantissa, rest, hrest, rfl⟩ := mem_mul.1 hunsigned
    obtain ⟨exponent, hexponent, after, hafter, rfl⟩ := mem_mul.1 hrest
    obtain ⟨sign, rfl⟩ := mem_sign.1 hsign
    obtain ⟨integer, fraction, hinteger, hfraction, hne, rfl⟩ := mem_mantissa.1 hmantissa
    obtain ⟨exponent, rfl⟩ := mem_exponent.1 hexponent
    refine ⟨⟨sign, integer, fraction, exponent, hinteger, hfraction, hne⟩, before, after, mem_star_oneOf.1 hbefore,
      mem_star_oneOf.1 hafter, ?_⟩
    simp [Numeral.text, Numeral.tail]
  · rintro ⟨n, before, after, hbefore, hafter, rfl⟩
    have htext : n.text ++ after = n.sign.text ++ ((n.integer ++ Numeral.fractionText n.fraction) ++
        (Numeral.exponentText n.exponent ++ after)) := by simp [Numeral.text, Numeral.tail]
    rw [htext]
    refine mem_mul.2 ⟨before, mem_star_oneOf.2 hbefore, _, mem_mul.2 ⟨_, mem_sign.2 ⟨n.sign, rfl⟩, _, mem_mul.2 ⟨_, ?_,
      _, mem_mul.2 ⟨_, mem_exponent.2 ⟨n.exponent, rfl⟩, after, mem_star_oneOf.2 hafter, rfl⟩, rfl⟩, rfl⟩, rfl⟩
    exact mem_mantissa.2 ⟨n.integer, n.fraction, n.hinteger, n.hfraction, n.hmantissa, rfl⟩

/-! ## `stoi` of a number -/

theorem split_of_head {c : Char} (hc : c ∈ '.' :: digits) (rest : List Char) :
    Sign.split (c :: rest) = (.absent, c :: rest) := by
  have hsigns : ∀ c ∈ '.' :: digits, c ≠ '+' ∧ c ≠ '-' := by simp [digits]
  obtain ⟨hplus, hminus⟩ := hsigns c hc
  unfold Sign.split
  split
  · rename_i heq
    exact absurd (List.cons.inj heq).1 hplus
  · rename_i heq
    exact absurd (List.cons.inj heq).1 hminus
  · rfl

theorem split_text (sign : Sign) {c : Char} (hc : c ∈ '.' :: digits) (rest : List Char) :
    Sign.split (sign.text ++ c :: rest) = (sign, c :: rest) := by
  cases sign with
  | plus => rfl
  | minus => rfl
  | absent => exact split_of_head hc rest

theorem Exponent.split_power (e : Exponent) (after : List Char) :
    Sign.split (e.sign.text ++ (e.power ++ after)) = (e.sign, e.power ++ after) := by
  obtain ⟨hne, hdigits⟩ := e.hpower
  obtain ⟨c, rest, hpower⟩ := List.exists_cons_of_ne_nil hne
  rw [hpower]
  exact split_text e.sign (List.mem_cons_of_mem _ (hdigits c (hpower ▸ List.mem_cons_self))) (rest ++ after)

theorem takeWhile_digits {s rest : List Char} (hs : AllDigits s) (hrest : rest.takeWhile (· ∈ digits) = []) :
    (s ++ rest).takeWhile (· ∈ digits) = s := by
  rw [List.takeWhile_append_of_pos (fun c hc => decide_eq_true (hs c hc)), hrest, List.append_nil]

namespace Numeral

/-- What follows the sign starts with a digit or the point. -/
theorem exists_head (n : Numeral) : ∃ c rest, n.integer ++ n.tail = c :: rest ∧ c ∈ '.' :: digits := by
  cases hinteger : n.integer with
  | cons c rest => exact ⟨c, rest ++ n.tail, rfl, List.mem_cons_of_mem _ (n.hinteger c (hinteger ▸ List.mem_cons_self))⟩
  | nil =>
    obtain ⟨f, hf, -⟩ := n.hmantissa.resolve_left (not_not.2 hinteger)
    refine ⟨'.', f ++ exponentText n.exponent, ?_, List.mem_cons_self⟩
    unfold tail
    rw [Option.mem_def.1 hf]
    rfl

theorem split_text (n : Numeral) (after : List Char) :
    Sign.split (n.text ++ after) = (n.sign, n.integer ++ (n.tail ++ after)) := by
  obtain ⟨c, rest, hhead, hc⟩ := n.exists_head
  have hunsigned : n.integer ++ (n.tail ++ after) = c :: (rest ++ after) := by
    rw [← List.append_assoc, hhead]
    rfl
  unfold text
  rw [List.append_assoc, List.append_assoc, hunsigned, RawSysfs.split_text n.sign hc]

theorem dropWhile_text (n : Numeral) (after : List Char) :
    (n.text ++ after).dropWhile (· ∈ spaces) = n.text ++ after := by
  have hfirst : ∃ c rest, n.text ++ after = c :: rest ∧ c ∉ spaces := by
    obtain ⟨c, rest, hhead, hc⟩ := n.exists_head
    have hspaces : ∀ c ∈ '.' :: digits, c ∉ spaces := by simp [digits, spaces]
    unfold text
    rw [hhead]
    cases n.sign with
    | absent => exact ⟨c, rest ++ after, rfl, hspaces c hc⟩
    | plus => exact ⟨'+', c :: rest ++ after, rfl, by decide⟩
    | minus => exact ⟨'-', c :: rest ++ after, rfl, by decide⟩
  obtain ⟨c, rest, heq, hc⟩ := hfirst
  rw [heq, List.dropWhile_cons_of_neg (by simpa using hc)]

end Numeral

section After

variable {after : List Char} (hafter : ∀ c ∈ after, c ∈ spaces)
include hafter

/-- What follows the digits of the mantissa starts with the letter of an exponent or with a space. -/
theorem exponent_head (exponent : Option Exponent) {c : Char} {rest : List Char}
    (h : Numeral.exponentText exponent ++ after = c :: rest) : c ∈ 'e' :: 'E' :: spaces := by
  cases exponent with
  | some e =>
    obtain ⟨rfl, -⟩ := List.cons.inj h
    rcases List.mem_cons.1 e.hletter with he | he
    · rw [he]
      exact List.mem_cons_self
    · rw [List.mem_singleton.1 he]
      exact List.mem_cons_of_mem _ List.mem_cons_self
  | none =>
    have hc : c ∈ after := by
      rw [show after = c :: rest from h]
      exact List.mem_cons_self
    exact List.mem_cons_of_mem _ (List.mem_cons_of_mem _ (hafter c hc))

theorem takeWhile_exponent (exponent : Option Exponent) :
    (Numeral.exponentText exponent ++ after).takeWhile (· ∈ digits) = [] := by
  cases heq : Numeral.exponentText exponent ++ after with
  | nil => rfl
  | cons c rest =>
    have hdigits : ∀ c ∈ 'e' :: 'E' :: spaces, c ∉ digits := by simp [digits, spaces]
    exact List.takeWhile_cons_of_neg (by simpa using hdigits c (exponent_head hafter exponent heq))

theorem takeWhile_after : after.takeWhile (· ∈ digits) = [] := takeWhile_exponent hafter none

theorem takeWhile_tail (n : Numeral) : (n.tail ++ after).takeWhile (· ∈ digits) = [] := by
  unfold Numeral.tail
  cases n.fraction with
  | some f => rfl
  | none => exact takeWhile_exponent hafter n.exponent

end After

/-- **`stoi` reads the integer part** of a number, and throws if there is none or it does not fit. -/
theorem stoi_of_contains {s : List Char} {n : Numeral} (h : Contains s n) :
    stoi s = if n.integer = [] then .error .invalid_argument
      else if InRange n.integerPart then .ok n.integerPart else .error .out_of_range := by
  obtain ⟨before, after, hbefore, hafter, rfl⟩ := h
  unfold stoi
  rw [List.dropWhile_append_of_pos (fun c hc => decide_eq_true (hbefore c hc)), n.dropWhile_text, n.split_text]
  dsimp only
  rw [takeWhile_digits n.hinteger (takeWhile_tail hafter n)]
  rfl

/-! ## A string denotes one number -/

theorem fraction_unique {f f' : Option (List Char)} (hf : ∀ d ∈ f, AllDigits d) (hf' : ∀ d ∈ f', AllDigits d)
    {e e' : Option Exponent} {after after' : List Char} (hafter : ∀ c ∈ after, c ∈ spaces)
    (hafter' : ∀ c ∈ after', c ∈ spaces)
    (h : Numeral.fractionText f ++ (Numeral.exponentText e ++ after) =
      Numeral.fractionText f' ++ (Numeral.exponentText e' ++ after')) :
    f = f' ∧ Numeral.exponentText e ++ after = Numeral.exponentText e' ++ after' := by
  have hpoint : '.' ∉ 'e' :: 'E' :: spaces := by decide
  cases f with
  | none => cases f' with
    | none => exact ⟨rfl, h⟩
    | some d' => exact absurd (exponent_head hafter e h) hpoint
  | some d => cases f' with
    | none => exact absurd (exponent_head hafter' e' h.symm) hpoint
    | some d' =>
      have hrest : d ++ (Numeral.exponentText e ++ after) = d' ++ (Numeral.exponentText e' ++ after') :=
        (List.cons.inj h).2
      have hd : d = d' := by
        rw [← takeWhile_digits (hf d rfl) (takeWhile_exponent hafter e), hrest,
          takeWhile_digits (hf' d' rfl) (takeWhile_exponent hafter' e')]
      subst hd
      exact ⟨rfl, List.append_cancel_left hrest⟩

theorem exponent_unique {e e' : Option Exponent} {after after' : List Char} (hafter : ∀ c ∈ after, c ∈ spaces)
    (hafter' : ∀ c ∈ after', c ∈ spaces)
    (h : Numeral.exponentText e ++ after = Numeral.exponentText e' ++ after') :
    e.map Exponent.value = e'.map Exponent.value := by
  have hletters : ∀ c ∈ ['e', 'E'], c ∉ spaces := by simp [spaces]
  cases e with
  | none => cases e' with
    | none => rfl
    | some e' =>
      have hmem : e'.letter ∈ after := by
        rw [show after = e'.letter :: _ from h]
        exact List.mem_cons_self
      exact absurd (hafter _ hmem) (hletters _ e'.hletter)
  | some e => cases e' with
    | none =>
      have hmem : e.letter ∈ after' := by
        rw [show after' = e.letter :: _ from h.symm]
        exact List.mem_cons_self
      exact absurd (hafter' _ hmem) (hletters _ e.hletter)
    | some e' =>
      have hrest : e.sign.text ++ (e.power ++ after) = e'.sign.text ++ (e'.power ++ after') := by
        have hcons : (e.sign.text ++ e.power) ++ after = (e'.sign.text ++ e'.power) ++ after' := (List.cons.inj h).2
        rwa [List.append_assoc, List.append_assoc] at hcons
      have hboth := congrArg Sign.split hrest
      rw [e.split_power, e'.split_power] at hboth
      obtain ⟨hsign, hpower⟩ := Prod.mk.inj hboth
      have hpower : e.power = e'.power := by
        rw [← takeWhile_digits e.hpower.2 (takeWhile_after hafter), hpower,
          takeWhile_digits e'.hpower.2 (takeWhile_after hafter')]
      unfold Exponent.value
      rw [Option.map_some, Option.map_some, hsign, hpower]

/-- **The number that a string denotes is unique**, and so is its integer part. -/
theorem Contains.unique {s : List Char} {n m : Numeral} (hn : Contains s n) (hm : Contains s m) :
    n.value = m.value ∧ n.integerPart = m.integerPart := by
  obtain ⟨before, after, hbefore, hafter, rfl⟩ := hn
  obtain ⟨before', after', hbefore', hafter', heq⟩ := hm
  have htext := congrArg (List.dropWhile (· ∈ spaces)) heq
  rw [List.dropWhile_append_of_pos (fun c hc => decide_eq_true (hbefore c hc)),
    List.dropWhile_append_of_pos (fun c hc => decide_eq_true (hbefore' c hc)), n.dropWhile_text, m.dropWhile_text] at htext
  have hboth := congrArg Sign.split htext
  rw [n.split_text, m.split_text] at hboth
  obtain ⟨hsign, hunsigned⟩ := Prod.mk.inj hboth
  have hinteger : n.integer = m.integer := by
    rw [← takeWhile_digits n.hinteger (takeWhile_tail hafter n), hunsigned,
      takeWhile_digits m.hinteger (takeWhile_tail hafter' m)]
  rw [hinteger] at hunsigned
  have htail := List.append_cancel_left hunsigned
  unfold Numeral.tail at htail
  rw [List.append_assoc, List.append_assoc] at htail
  obtain ⟨hfraction, hrest⟩ := fraction_unique n.hfraction m.hfraction hafter hafter' htail
  have hexponent := exponent_unique hafter hafter' hrest
  unfold Numeral.value Numeral.integerPart
  rw [hsign, hinteger, hfraction, hexponent]
  exact ⟨rfl, rfl⟩

/-! ## What `read` should do -/

/-- A file is open and contains a number. -/
def IsNumber (file : Option (List Char)) : Prop := ∃ content n, file = some content ∧ Contains content n

/-- A file contains a number that denotes an `int`. -/
def Denotes (file : Option (List Char)) (v : Int) : Prop :=
  ∃ content n, file = some content ∧ Contains content n ∧ n.value = v ∧ InRange v

/-- A file that contains a number has an integer part, which is an `int`. -/
def HasIntegerPart (file : Option (List Char)) : Prop :=
  ∀ content n, file = some content → Contains content n → n.integer ≠ [] ∧ InRange n.integerPart

/-- The files that `stoi` is given have integer parts: those before the first that is not a number. -/
def IntegerParts : List (Option (List Char)) → Prop
  | []             => True
  | file :: others => HasIntegerPart file ∧ (IsNumber file → IntegerParts others)

section Right

variable {K : Type*} [IntCast K] [Mul K]

/-- **`read` returns, with 0 exactly if every file denotes an `int`**, and has then appended their values. -/
def Right (results : List K) (resolution : K) (files : List (Option (List Char))) : Prop :=
  ∃ status values, read results resolution files = .ok (status, values) ∧
    (status = 0 ↔ ∃ vs, List.Forall₂ Denotes files vs) ∧
    (status = 0 → ∃ vs, List.Forall₂ Denotes files vs ∧
      values = results ++ vs.map fun (v : Int) => (v : K) * resolution)

/-- A file denotes an `int` whose value is that of its integer part. -/
def IsIntegerPart (resolution : K) (file : Option (List Char)) : Prop :=
  ∃ content n, ∃ v : Int, file = some content ∧ Contains content n ∧ n.value = v ∧ InRange v ∧
    (v : K) * resolution = (n.integerPart : K) * resolution

/-- `stoi` is given integer parts only, and if every file is a number, each is its own integer part. -/
def Plain (resolution : K) (files : List (Option (List Char))) : Prop :=
  IntegerParts files ∧ ((∀ file ∈ files, IsNumber file) → ∀ file ∈ files, IsIntegerPart resolution file)

/-! ## What it does -/

/-- The value that `stoi` makes of a file. -/
def Reads (file : Option (List Char)) (v : Int) : Prop := ∃ content, file = some content ∧ stoi content = .ok v

theorem stoi_of_hasIntegerPart {content : List Char} {n : Numeral} (h : HasIntegerPart (some content))
    (hn : Contains content n) : stoi content = .ok n.integerPart := by
  obtain ⟨hne, hrange⟩ := h content n rfl hn
  rw [stoi_of_contains hn, if_neg hne, if_pos hrange]

theorem stoi_throws {content : List Char} {n : Numeral} (hn : Contains content n)
    (h : ¬ HasIntegerPart (some content)) : ∃ e, stoi content = .error e := by
  rw [stoi_of_contains hn]
  split
  · exact ⟨_, rfl⟩
  · rename_i hne
    split
    · rename_i hrange
      refine absurd (fun other m hsome hm => ?_) h
      obtain rfl := Option.some.inj hsome
      refine ⟨?_, (hm.unique hn).2 ▸ hrange⟩
      -- the other reading of the string has an integer part too, or `stoi` would throw
      intro hempty
      have hthrows := stoi_of_contains hm
      rw [if_pos hempty, stoi_of_contains hn, if_neg hne, if_pos hrange] at hthrows
      cases hthrows
    · exact ⟨_, rfl⟩

theorem read_some_of_number {content : List Char} (hvalid : isValidInteger content = true) {v : Int}
    (hv : stoi content = .ok v) (results : List K) (resolution : K) (others : List (Option (List Char))) :
    read results resolution (some content :: others) = read (results ++ [(v : K) * resolution]) resolution others := by
  rw [read, if_pos hvalid, hv]

theorem read_of_not_number {file : Option (List Char)} (h : ¬ IsNumber file) (results : List K) (resolution : K)
    (others : List (Option (List Char))) : read results resolution (file :: others) = .ok (-1, results) := by
  cases file with
  | none => rfl
  | some content =>
    rw [read, if_neg]
    intro hvalid
    obtain ⟨n, hn⟩ := isValidInteger_iff.1 hvalid
    exact h ⟨content, n, rfl, hn⟩

/-- **`read` throws** exactly if `stoi` is given a number without an integer part. -/
theorem read_throws (resolution : K) : ∀ (files : List (Option (List Char))) (results : List K),
    ¬ IntegerParts files → ∃ e, read results resolution files = .error e
  | [], _, h => absurd trivial h
  | file :: others, results, h => by
    by_cases hnumber : IsNumber file
    · obtain ⟨content, n, rfl, hn⟩ := hnumber
      have hvalid := isValidInteger_iff.2 ⟨n, hn⟩
      by_cases hpart : HasIntegerPart (some content)
      · rw [read_some_of_number hvalid (stoi_of_hasIntegerPart hpart hn)]
        exact read_throws resolution others _ fun hothers => h ⟨hpart, fun _ => hothers⟩
      · obtain ⟨e, he⟩ := stoi_throws hn hpart
        refine ⟨e, ?_⟩
        rw [read, if_pos hvalid, he]
    · refine absurd ⟨?_, fun hn => absurd hn hnumber⟩ h
      exact fun content n hsome hn => absurd ⟨content, n, hsome, hn⟩ hnumber

/-- **With a file that is not a number `read` returns -1.** -/
theorem read_rejects (resolution : K) : ∀ (files : List (Option (List Char))) (results : List K), IntegerParts files →
    ¬ (∀ file ∈ files, IsNumber file) → ∃ values, read results resolution files = .ok (-1, values)
  | [], _, _, h => absurd (fun _ hm => by cases hm) h
  | file :: others, results, hparts, h => by
    by_cases hnumber : IsNumber file
    · obtain ⟨hpart, hothers⟩ := hparts
      have hrest := hothers hnumber
      obtain ⟨content, n, rfl, hn⟩ := hnumber
      rw [read_some_of_number (isValidInteger_iff.2 ⟨n, hn⟩) (stoi_of_hasIntegerPart hpart hn)]
      exact read_rejects resolution others _ hrest fun hall => h (List.forall_mem_cons.2 ⟨⟨content, n, rfl, hn⟩, hall⟩)
    · exact ⟨results, read_of_not_number hnumber results resolution others⟩

/-- **With numbers only it returns 0**, and the integer parts. -/
theorem read_accepts (resolution : K) : ∀ (files : List (Option (List Char))) (results : List K), IntegerParts files →
    (∀ file ∈ files, IsNumber file) → ∃ vs, List.Forall₂ Reads files vs ∧
      read results resolution files = .ok (0, results ++ vs.map fun (v : Int) => (v : K) * resolution)
  | [], results, _, _ => ⟨[], .nil, by rw [List.map_nil, List.append_nil]; rfl⟩
  | file :: others, results, hparts, h => by
    obtain ⟨hnumber, hall⟩ := List.forall_mem_cons.1 h
    obtain ⟨hpart, hothers⟩ := hparts
    have hrest := hothers hnumber
    obtain ⟨content, n, rfl, hn⟩ := hnumber
    have hstoi := stoi_of_hasIntegerPart hpart hn
    obtain ⟨vs, hvs, hread⟩ := read_accepts resolution others (results ++ [(n.integerPart : K) * resolution]) hrest hall
    refine ⟨n.integerPart :: vs, .cons ⟨content, rfl, hstoi⟩ hvs, ?_⟩
    rw [read_some_of_number (isValidInteger_iff.2 ⟨n, hn⟩) hstoi, hread, List.map_cons, List.append_assoc]
    rfl

/-! ## When it is right -/

theorem integerParts_of_numbers : ∀ {files : List (Option (List Char))}, IntegerParts files →
    (∀ file ∈ files, IsNumber file) → ∀ file ∈ files, HasIntegerPart file
  | [], _, _ => fun _ hm => by cases hm
  | _ :: _, hparts, h => by
    obtain ⟨hnumber, hall⟩ := List.forall_mem_cons.1 h
    exact List.forall_mem_cons.2 ⟨hparts.1, integerParts_of_numbers (hparts.2 hnumber) hall⟩

theorem isNumber_of_denotes : ∀ {files : List (Option (List Char))} {vs : List Int}, List.Forall₂ Denotes files vs →
    ∀ file ∈ files, IsNumber file
  | _, _, .nil => fun _ hm => by cases hm
  | _, _, .cons ⟨content, n, hsome, hn, _⟩ hrest =>
    List.forall_mem_cons.2 ⟨⟨content, n, hsome, hn⟩, isNumber_of_denotes hrest⟩

/-- Values that come out right are those of the integer parts. -/
theorem isIntegerPart_of_eq {resolution : K} : ∀ {files : List (Option (List Char))} {vs ws : List Int},
    (∀ file ∈ files, HasIntegerPart file) → List.Forall₂ Reads files vs → List.Forall₂ Denotes files ws →
    (vs.map fun (v : Int) => (v : K) * resolution) = (ws.map fun (v : Int) => (v : K) * resolution) →
    ∀ file ∈ files, IsIntegerPart resolution file
  | _, _, _, _, .nil, .nil, _ => fun _ hm => by cases hm
  | _, _, w :: _, hparts, .cons ⟨content, hsome, hstoi⟩ hreads, .cons ⟨content', n, hsome', hn, hvalue⟩ hdenotes,
      heq => by
    obtain ⟨hpart, hothers⟩ := List.forall_mem_cons.1 hparts
    obtain ⟨hhead, htail⟩ := List.cons.inj heq
    subst hsome
    obtain rfl := Option.some.inj hsome'
    rw [stoi_of_hasIntegerPart hpart hn] at hstoi
    obtain rfl := Except.ok.inj hstoi
    exact List.forall_mem_cons.2 ⟨⟨content, n, w, rfl, hn, hvalue.1, hvalue.2, hhead.symm⟩,
      isIntegerPart_of_eq hothers hreads hdenotes htail⟩

theorem eq_of_isIntegerPart {resolution : K} : ∀ {files : List (Option (List Char))} {vs : List Int},
    (∀ file ∈ files, HasIntegerPart file) → List.Forall₂ Reads files vs →
    (∀ file ∈ files, IsIntegerPart resolution file) → ∃ ws, List.Forall₂ Denotes files ws ∧
      (vs.map fun (v : Int) => (v : K) * resolution) = (ws.map fun (v : Int) => (v : K) * resolution)
  | _, _, _, .nil, _ => ⟨[], .nil, rfl⟩
  | _, _, hparts, .cons ⟨content, hsome, hstoi⟩ hreads, h => by
    obtain ⟨hpart, hothers⟩ := List.forall_mem_cons.1 hparts
    obtain ⟨⟨content', n, w, hsome', hn, hvalue, hrange, heq⟩, hrest⟩ := List.forall_mem_cons.1 h
    subst hsome
    obtain rfl := Option.some.inj hsome'
    rw [stoi_of_hasIntegerPart hpart hn] at hstoi
    obtain rfl := Except.ok.inj hstoi
    obtain ⟨ws, hws, hmap⟩ := eq_of_isIntegerPart hothers hreads hrest
    refine ⟨w :: ws, .cons ⟨content, n, rfl, hn, hvalue, hrange⟩ hws, ?_⟩
    rw [List.map_cons, List.map_cons, heq, hmap]

theorem right_iff_plain (results : List K) (resolution : K) (files : List (Option (List Char))) :
    Right results resolution files ↔ Plain resolution files := by
  constructor
  · rintro ⟨status, values, hread, hiff, hvalues⟩
    have hparts : IntegerParts files := by
      by_contra hthrows
      obtain ⟨e, he⟩ := read_throws resolution files results hthrows
      rw [he] at hread
      cases hread
    refine ⟨hparts, fun hnumbers => ?_⟩
    obtain ⟨vs, hreads, hok⟩ := read_accepts resolution files results hparts hnumbers
    rw [hok] at hread
    obtain ⟨rfl, rfl⟩ := Prod.mk.inj (Except.ok.inj hread)
    obtain ⟨ws, hdenotes, heq⟩ := hvalues rfl
    exact isIntegerPart_of_eq (integerParts_of_numbers hparts hnumbers) hreads hdenotes (List.append_cancel_left heq)
  · rintro ⟨hparts, hplain⟩
    by_cases hnumbers : ∀ file ∈ files, IsNumber file
    · obtain ⟨vs, hreads, hok⟩ := read_accepts resolution files results hparts hnumbers
      obtain ⟨ws, hdenotes, heq⟩ :=
        eq_of_isIntegerPart (integerParts_of_numbers hparts hnumbers) hreads (hplain hnumbers)
      rw [heq] at hok
      exact ⟨0, _, hok, iff_of_true rfl ⟨ws, hdenotes⟩, fun _ => ⟨ws, hdenotes, rfl⟩⟩
    · obtain ⟨values, hok⟩ := read_rejects resolution files results hparts hnumbers
      have hne : (-1 : Int) ≠ 0 := by decide
      refine ⟨-1, values, hok, iff_of_false hne ?_, fun h => absurd h hne⟩
      rintro ⟨ws, hdenotes⟩
      exact hnumbers (isNumber_of_denotes hdenotes)

/-- **`read` is right about the files of a sensor** exactly if `stoi` is given integer parts only and, where every file
is a number, each is its own integer part. -/
theorem right_iff (contents : String → Option (List Char)) (path : String) (files : Vector String 3) (results : List K)
    (resolution : K) : Right results resolution ((init path files).map contents) ↔
      Plain resolution ((init path files).map contents) :=
  right_iff_plain results resolution _

end Right

/-! ## The values of a sensor -/

section Sensor

variable {K : Type*} [IntCast K] [Mul K]

/-- What three files come to for the objects behind the sensors. -/
def rawRead (timestamp : Int64) (files : List (Option (List Char))) (resolution : K) :
    Except StoiError (RawRead K) :=
  match read [] resolution files with
  | .error e             => .error e
  | .ok (0, [x, y, z])   => .ok ⟨timestamp, some fun | 0 => x | 1 => y | 2 => z⟩
  | .ok _                => .ok ⟨timestamp, none⟩

theorem length_of_read (resolution : K) : ∀ (files : List (Option (List Char))) (results values : List K),
    read results resolution files = .ok (0, values) → values.length = results.length + files.length
  | [], results, values, h => by
    obtain ⟨-, rfl⟩ := Prod.mk.inj (Except.ok.inj h)
    rfl
  | none :: _, _, _, h => by cases (Prod.mk.inj (Except.ok.inj h)).1
  | some content :: others, results, values, h => by
    rw [read] at h
    split at h
    · split at h
      · cases h
      · rw [length_of_read resolution others _ values h, List.length_append, List.length_cons, List.length_cons]
        simp only [List.length_nil]
        omega
    · cases (Prod.mk.inj (Except.ok.inj h)).1

/-- **A sensor with three files polls what `rawRead` makes of them.** -/
theorem readPollingData_eq (values : List (SensorValues K)) (timestamp : Int64) {files : List (Option (List Char))}
    (hfiles : files.length = 3) (resolution : K) : readPollingData values timestamp files resolution =
      (rawRead timestamp files resolution).map (SensorCore.readPollingData values) := by
  unfold readPollingData rawRead
  split
  · rename_i heq
    rw [heq]
    rfl
  · rename_i status data heq
    rw [heq]
    by_cases hstatus : status = 0
    · subst hstatus
      have hlength := length_of_read resolution files [] data heq
      rw [hfiles] at hlength
      obtain ⟨x, y, z, rfl⟩ := List.length_eq_three.1 hlength
      rfl
    · rw [if_pos hstatus]
      split
      · rename_i hok
        cases hok
      · rename_i hok
        exact absurd (Prod.mk.inj (Except.ok.inj hok)).1 hstatus
      · rfl

end Sensor

/-! ## Three files that it is wrong about -/

/-- `.5` -/
def half : Numeral where
  sign := .absent
  integer := []
  fraction := some ['5']
  exponent := none
  hinteger := nofun
  hfraction f hf := by
    obtain rfl := Option.some.inj hf
    exact allDigits_singleton (by decide)
  hmantissa := Or.inr ⟨['5'], rfl, List.cons_ne_nil _ _⟩

/-- `1e3` -/
def thousand : Numeral where
  sign := .absent
  integer := ['1']
  fraction := none
  exponent := some ⟨'e', .absent, ['3'], by decide, List.cons_ne_nil _ _, allDigits_singleton (by decide)⟩
  hinteger := allDigits_singleton (by decide)
  hfraction := nofun
  hmantissa := Or.inl (List.cons_ne_nil _ _)

/-- `1.5` -/
def threeHalves : Numeral where
  sign := .absent
  integer := ['1']
  fraction := some ['5']
  exponent := none
  hinteger := allDigits_singleton (by decide)
  hfraction f hf := by
    obtain rfl := Option.some.inj hf
    exact allDigits_singleton (by decide)
  hmantissa := Or.inl (List.cons_ne_nil _ _)

theorem contains_text (n : Numeral) : Contains n.text n :=
  ⟨[], [], nofun, nofun, (List.append_nil n.text).symm⟩

/-- A file that is right denotes its integer part. -/
theorem value_of_right {n : Numeral} (h : Right [] (1 : Int) [some n.text]) : n.value = n.integerPart := by
  obtain ⟨hparts, hplain⟩ := (right_iff_plain _ _ _).1 h
  have hnumber : ∀ file ∈ [some n.text], IsNumber file :=
    List.forall_mem_singleton.2 ⟨n.text, n, rfl, contains_text n⟩
  obtain ⟨content, m, v, hsome, hm, hvalue, -, heq⟩ := hplain hnumber (some n.text) List.mem_cons_self
  obtain rfl := Option.some.inj hsome
  obtain ⟨hvalues, hintegers⟩ := hm.unique (contains_text n)
  rw [Int.mul_one, Int.mul_one, hintegers, Int.cast_id, Int.cast_id] at heq
  rw [← hvalues, hvalue, heq]

theorem not_right_half : ¬ Right [] (1 : Int) [some ".5".toList] ∧ ¬ Right [] (1 : Int) [some "1e3".toList] ∧
    ¬ Right [] (1 : Int) [some "1.5".toList] := by
  refine ⟨fun h => ?_, fun h => ?_, fun h => ?_⟩
  · have hparts := ((right_iff_plain _ _ _).1 h).1.1
    exact (hparts _ half rfl (contains_text half)).1 rfl
  · have hvalue : ((1 : Int) : ℚ) * 10 ^ ((3 : Int) - (0 : Nat)) = (1 : Int) := value_of_right (n := thousand) h
    norm_num at hvalue
  · have hvalue : ((15 : Int) : ℚ) * 10 ^ ((0 : Int) - (1 : Nat)) = (1 : Int) := value_of_right (n := threeHalves) h
    norm_num at hvalue

end RawSysfs
end MemsHal
