import Mathlib.Data.Nat.ModEq
import Mathlib.Tactic.Common
/-!
# ByteMemory — memory as bytes

Memory is a byte for each address.  `load` reads a little-endian number of some bytes, `store` writes one, and `memcpy`
and `memset` are those of C.  What is stored is read back (`load_store`), a copy has the bytes of its source, and other
addresses keep theirs.
-/

abbrev ByteMemory := Nat → UInt8

namespace ByteMemory

/-- The number in the `n` bytes from address `a` on. -/
def load (m : ByteMemory) (a : Nat) : Nat → Nat
  | 0     => 0
  | n + 1 => load m a n + 256 ^ n * (m (a + n)).toNat

def store (m : ByteMemory) (a n v : Nat) : ByteMemory :=
  fun i => if a ≤ i ∧ i < a + n then UInt8.ofNat (v / 256 ^ (i - a)) else m i

def memcpy (m : ByteMemory) (a : Nat) (source : ByteMemory) (b n : Nat) : ByteMemory :=
  fun i => if a ≤ i ∧ i < a + n then source (b + (i - a)) else m i

def memset (m : ByteMemory) (a : Nat) (v : UInt8) (n : Nat) : ByteMemory :=
  fun i => if a ≤ i ∧ i < a + n then v else m i

variable {m m' source : ByteMemory} {a b n i v : Nat}

/-! ## Bytes -/

theorem store_other (h : i < a ∨ a + n ≤ i) : store m a n v i = m i := if_neg (by omega)

theorem store_at (h : i < n) : store m a n v (a + i) = UInt8.ofNat (v / 256 ^ i) := by
  unfold store
  rw [if_pos (by omega), Nat.add_sub_cancel_left]

theorem memcpy_other (h : i < a ∨ a + n ≤ i) : memcpy m a source b n i = m i := if_neg (by omega)

theorem memcpy_at (h : i < n) : memcpy m a source b n (a + i) = source (b + i) := by
  unfold memcpy
  rw [if_pos (by omega), Nat.add_sub_cancel_left]

/-- A copy to the same address. -/
theorem memcpy_same (m source : ByteMemory) (a n i : Nat) :
    memcpy m a source a n i = if a ≤ i ∧ i < a + n then source i else m i := by
  unfold memcpy
  split
  · rw [Nat.add_sub_cancel' (by omega)]
  · rfl

theorem memset_at {c : UInt8} (h : i < n) : memset m a c n (a + i) = c := if_pos (by omega)

/-! ## Numbers -/

theorem load_lt (m : ByteMemory) (a : Nat) : ∀ n, load m a n < 256 ^ n
  | 0 => Nat.one_pos
  | n + 1 => by
    have ih := load_lt m a n
    have hbyte : (m (a + n)).toNat ≤ 255 := Nat.le_of_lt_succ (m (a + n)).toNat_lt
    have hmul := Nat.mul_le_mul_left (256 ^ n) hbyte
    rw [load, Nat.pow_succ]
    omega

/-- A number depends on its own bytes only. -/
theorem load_congr : ∀ {n : Nat}, (∀ i < n, m (a + i) = m' (b + i)) → load m a n = load m' b n
  | 0, _ => rfl
  | n + 1, h => by
    rw [load, load, load_congr (fun i hi => h i (Nat.lt_succ_of_lt hi)), h n (Nat.lt_succ_self n)]

theorem load_zero : ∀ {n : Nat}, (∀ i < n, m (a + i) = 0) → load m a n = 0
  | 0, _ => rfl
  | n + 1, h => by
    rw [load, load_zero (fun i hi => h i (Nat.lt_succ_of_lt hi)), h n (Nat.lt_succ_self n)]
    rfl

/-- **What was stored is read back**, up to the width. -/
theorem load_store (m : ByteMemory) (a n v : Nat) : load (store m a n v) a n = v % 256 ^ n := by
  have hprefix : ∀ k ≤ n, load (store m a n v) a k = v % 256 ^ k := by
    intro k hk
    induction k with
    | zero => rw [load, Nat.pow_zero, Nat.mod_one]
    | succ k ih =>
      rw [load, ih (Nat.le_of_succ_le hk), store_at hk, UInt8.toNat_ofNat']
      exact Nat.mod_pow_succ.symm
  exact hprefix n (Nat.le_refl n)

/-- The bytes of a number. -/
theorem byte_load (m : ByteMemory) (a : Nat) : ∀ {n i : Nat}, i < n → UInt8.ofNat (load m a n / 256 ^ i) = m (a + i)
  | n + 1, i, hi => by
    rcases Nat.lt_succ_iff_lt_or_eq.1 hi with hlt | rfl
    · have hsplit : 256 ^ n = 256 ^ i * (256 * 256 ^ (n - i - 1)) := by
        rw [← Nat.pow_succ', ← Nat.pow_add]
        congr 1
        omega
      rw [← byte_load m a hlt, load, hsplit, Nat.mul_assoc, Nat.add_mul_div_left _ _ (Nat.pow_pos (by decide)),
        Nat.mul_assoc]
      apply UInt8.toNat_inj.1
      rw [UInt8.toNat_ofNat', UInt8.toNat_ofNat', Nat.add_mul_mod_self_left]
    · have hlt := load_lt m a i
      rw [load, Nat.add_mul_div_left _ _ (Nat.pow_pos (by decide)), Nat.div_eq_of_lt hlt, Nat.zero_add,
        UInt8.ofNat_toNat]

end ByteMemory
