import MemsHal.ByteMemory
/-!
# Codec — values of fixed size in memory

A `Codec α` says how a value of `α` is laid out in bytes.  Its laws are those of a field in a record: what was written
is read back, writing what was read is a copy, and other bytes keep out of it.  Numbers of some bytes and arrays of a
codec are the codecs of this library.
-/

universe u

open ByteMemory

structure Codec (α : Type u) where
  size : Nat
  read : ByteMemory → Nat → α
  write : ByteMemory → Nat → α → ByteMemory
  read_write : ∀ m a x, read (write m a x) a = x
  write_read : ∀ m a m' b, write m a (read m' b) = memcpy m a m' b size
  write_other : ∀ m a x i, i < a ∨ a + size ≤ i → write m a x i = m i
  read_congr : ∀ m a m' b, (∀ i < size, m (a + i) = m' (b + i)) → read m a = read m' b

namespace Codec

variable {α : Type u} {β : Type u}

/-- **Fields that do not overlap are independent.** -/
theorem read_write_other (c : Codec α) (d : Codec β) (m : ByteMemory) (a b : Nat) (x : β)
    (h : a + d.size ≤ b ∨ b + c.size ≤ a) : c.read (d.write m a x) b = c.read m b :=
  c.read_congr _ _ _ _ fun i _ => d.write_other m a x (b + i) (by omega)

/-- A number type of `n` bytes. -/
def number (n : Nat) (ofNat : Nat → α) (toNat : α → Nat) (hlt : ∀ x, toNat x < 256 ^ n)
    (hto : ∀ v < 256 ^ n, toNat (ofNat v) = v) (hof : ∀ x, ofNat (toNat x) = x) : Codec α where
  size := n
  read m a := ofNat (load m a n)
  write m a x := store m a n (toNat x)
  read_write m a x := by rw [load_store, Nat.mod_eq_of_lt (hlt x), hof]
  write_read m a m' b := by
    rw [hto _ (load_lt m' b n)]
    funext i
    by_cases h : a ≤ i ∧ i < a + n
    · unfold store memcpy
      rw [if_pos h, if_pos h, byte_load m' b (by omega)]
    · rw [store_other (by omega), memcpy_other (by omega)]
  write_other _ _ _ _ h := store_other h
  read_congr _ _ _ _ h := by rw [load_congr h]

def byte : Codec UInt8 :=
  number 1 UInt8.ofNat UInt8.toNat UInt8.toNat_lt (fun _ h => UInt8.toNat_ofNat_of_lt h) (fun _ => UInt8.ofNat_toNat)

def word : Codec UInt32 :=
  number 4 UInt32.ofNat UInt32.toNat UInt32.toNat_lt (fun _ h => UInt32.toNat_ofNat_of_lt h)
    (fun _ => UInt32.ofNat_toNat)

def long : Codec UInt64 :=
  number 8 UInt64.ofNat UInt64.toNat UInt64.toNat_lt (fun _ h => UInt64.toNat_ofNat_of_lt h)
    (fun _ => UInt64.ofNat_toNat)

@[simp] theorem byte_size : byte.size = 1 := rfl

@[simp] theorem word_size : word.size = 4 := rfl

@[simp] theorem long_size : long.size = 8 := rfl

/-! ## Arrays -/

/-- The first elements of an array, one behind the other. -/
def writes (c : Codec α) (m : ByteMemory) (a : Nat) (f : Nat → α) : Nat → ByteMemory
  | 0     => m
  | n + 1 => c.write (writes c m a f n) (a + n * c.size) (f n)

section Writes

variable (c : Codec α) (m : ByteMemory) (a : Nat) (f : Nat → α)

theorem writes_other (i : Nat) : ∀ n, i < a ∨ a + n * c.size ≤ i → c.writes m a f n i = m i
  | 0, _ => rfl
  | n + 1, h => by
    rw [Nat.succ_mul] at h
    rw [writes, c.write_other _ _ _ _ (by omega), writes_other i n (by omega)]

theorem read_writes (k : Nat) : ∀ n, k < n → c.read (c.writes m a f n) (a + k * c.size) = f k
  | n + 1, h => by
    rw [writes]
    rcases Nat.lt_succ_iff_lt_or_eq.1 h with hlt | rfl
    · have hmul := Nat.mul_le_mul_right c.size (Nat.succ_le_of_lt hlt)
      rw [Nat.succ_mul] at hmul
      rw [c.read_write_other c _ _ _ _ (by omega), read_writes k n hlt]
    · exact c.read_write _ _ _

theorem writes_read (m' : ByteMemory) (b : Nat) : ∀ n, (∀ k < n, f k = c.read m' (b + k * c.size)) →
    c.writes m a f n = memcpy m a m' b (n * c.size)
  | 0, _ => by
    funext i
    exact (memcpy_other (by omega)).symm
  | n + 1, h => by
    rw [writes, h n (Nat.lt_succ_self n), c.write_read, writes_read m' b n (fun k hk => h k (Nat.lt_succ_of_lt hk))]
    funext i
    rw [Nat.succ_mul]
    unfold memcpy
    split
    · rw [if_pos (by omega)]
      congr 1
      omega
    · refine if_congr ?_ rfl rfl
      omega

end Writes

/-- An array of `n` elements. -/
def vector [Inhabited α] (c : Codec α) (n : Nat) : Codec (Vector α n) where
  size := n * c.size
  read m a := Vector.ofFn fun i => c.read m (a + i * c.size)
  write m a x := c.writes m a (fun k => x[k]!) n
  read_write m a x := by
    ext i hi
    rw [Vector.getElem_ofFn, c.read_writes m a _ i n hi, getElem!_pos x i hi]
  write_read m a m' b := by
    refine c.writes_read m a _ m' b n fun k hk => ?_
    rw [getElem!_pos _ k hk, Vector.getElem_ofFn]
  write_other m a x i h := c.writes_other m a _ i n h
  read_congr m a m' b h := by
    ext k hk
    rw [Vector.getElem_ofFn, Vector.getElem_ofFn]
    have hmul := Nat.mul_le_mul_right c.size (Nat.succ_le_of_lt hk)
    rw [Nat.succ_mul] at hmul
    refine c.read_congr _ _ _ _ fun i hi => ?_
    rw [Nat.add_assoc, Nat.add_assoc]
    dsimp only
    exact h _ (by omega)

@[simp] theorem vector_size [Inhabited α] (c : Codec α) (n : Nat) : (c.vector n).size = n * c.size := rfl

end Codec
