import Mathlib.Tactic.Common
import Mathlib.Tactic.Ring
/-!
# TaggedWord — a tag in the upper bits of a word

A word of `w` bits keeps a payload in its `k` lower bits and a tag above them.  Packing loses nothing; but a tag that is
read back by an arithmetic shift comes out negative when it has the sign bit of the word.
-/
namespace TaggedWord

variable {w k tag tag' : Nat} {x x' : BitVec w}

def pack (k tag : Nat) (x : BitVec w) : BitVec w := x ||| (BitVec.ofNat w tag <<< k)

/-- The word with its tag cleared. -/
def payload (k : Nat) (x : BitVec w) : BitVec w := x &&& BitVec.ofNat w (2 ^ k - 1)

theorem two_pow_split (hk : k ≤ w) : 2 ^ w = 2 ^ k * 2 ^ (w - k) := by
  rw [← Nat.pow_add, Nat.add_sub_cancel' hk]

/-- **A packed word as a number.** -/
theorem toNat_pack (hk : k ≤ w) (hx : x.toNat < 2 ^ k) (ht : tag < 2 ^ (w - k)) :
    (pack k tag x).toNat = 2 ^ k * tag + x.toNat := by
  have hlt : 2 ^ k * tag < 2 ^ w := by
    rw [two_pow_split hk]
    exact Nat.mul_lt_mul_of_pos_left ht (Nat.two_pow_pos k)
  have htag : tag < 2 ^ w := Nat.lt_of_lt_of_le ht (Nat.pow_le_pow_right Nat.two_pos (Nat.sub_le w k))
  have hshift : (BitVec.ofNat w tag <<< k).toNat = 2 ^ k * tag := by
    rw [BitVec.toNat_shiftLeft, BitVec.toNat_ofNat, Nat.mod_eq_of_lt htag, Nat.shiftLeft_eq, Nat.mul_comm,
      Nat.mod_eq_of_lt hlt]
  unfold pack
  rw [BitVec.toNat_or, hshift, Nat.or_comm, ← Nat.two_pow_add_eq_or_of_lt hx]

theorem toNat_payload (hk : k ≤ w) (x : BitVec w) : (payload k x).toNat = x.toNat % 2 ^ k := by
  have hlt : 2 ^ k - 1 < 2 ^ w :=
    Nat.lt_of_lt_of_le (Nat.sub_lt (Nat.two_pow_pos k) Nat.one_pos) (Nat.pow_le_pow_right Nat.two_pos hk)
  unfold payload
  rw [BitVec.toNat_and, BitVec.toNat_ofNat, Nat.mod_eq_of_lt hlt, Nat.and_two_pow_sub_one_eq_mod]

/-- **Clearing the tag gives the payload back**, also of a tag that does not fit. -/
theorem payload_pack (hk : k ≤ w) (hx : x.toNat < 2 ^ k) (tag : Nat) : payload k (pack k tag x) = x := by
  have hshift : (BitVec.ofNat w tag <<< k).toNat % 2 ^ k = 0 := by
    rw [BitVec.toNat_shiftLeft, Nat.shiftLeft_eq, Nat.mod_mod_of_dvd _ (Nat.pow_dvd_pow 2 hk), Nat.mul_mod_left]
  apply BitVec.eq_of_toNat_eq
  rw [toNat_payload hk]
  unfold pack
  rw [BitVec.toNat_or, Nat.or_mod_two_pow, hshift, Nat.or_zero, Nat.mod_eq_of_lt hx]

/-- The payload and the tag read back by an arithmetic shift make the word up again. -/
theorem payload_or_sshiftRight (k : Nat) (x : BitVec w) : payload k x ||| x.sshiftRight k <<< k = x := by
  unfold payload
  ext j hj
  have hmask : (BitVec.ofNat w (2 ^ k - 1))[j] = decide (j < k) := by
    rw [← BitVec.getLsbD_eq_getElem, BitVec.getLsbD_ofNat, Nat.testBit_two_pow_sub_one, decide_eq_true hj,
      Bool.true_and]
  simp only [BitVec.getElem_or, BitVec.getElem_and, BitVec.getElem_shiftLeft, BitVec.getElem_sshiftRight, hmask]
  by_cases h : j < k
  · simp [h]
  · have hback : k + (j - k) = j := by omega
    simp [h, hback, hj]

/-- **Packing is injective.** -/
theorem pack_inj (hk : k ≤ w) (hx : x.toNat < 2 ^ k) (hx' : x'.toNat < 2 ^ k) (ht : tag < 2 ^ (w - k))
    (ht' : tag' < 2 ^ (w - k)) (h : pack k tag x = pack k tag' x') : tag = tag' ∧ x = x' := by
  have hn := congrArg BitVec.toNat h
  rw [toNat_pack hk hx ht, toNat_pack hk hx' ht'] at hn
  have htag : tag = tag' := by
    have hdiv := congrArg (· / 2 ^ k) hn
    simpa only [Nat.mul_add_div (Nat.two_pow_pos k), Nat.div_eq_of_lt hx, Nat.div_eq_of_lt hx', Nat.add_zero] using hdiv
  subst htag
  exact ⟨rfl, BitVec.eq_of_toNat_eq (Nat.add_left_cancel hn)⟩

/-- The sign bit of a packed word is that of its tag. -/
theorem sign_pack (hk : k < w) (hx : x.toNat < 2 ^ k) :
    2 * (2 ^ k * tag + x.toNat) < 2 ^ w ↔ tag < 2 ^ (w - k - 1) := by
  have hsplit : 2 ^ w = 2 * (2 ^ k * 2 ^ (w - k - 1)) := by
    rw [← Nat.pow_add, ← Nat.pow_succ']
    congr 1
    omega
  rw [hsplit, Nat.mul_lt_mul_left Nat.two_pos]
  constructor
  · intro h
    exact Nat.lt_of_mul_lt_mul_left (Nat.lt_of_le_of_lt (Nat.le_add_right _ x.toNat) h)
  · intro h
    calc 2 ^ k * tag + x.toNat < 2 ^ k * tag + 2 ^ k := Nat.add_lt_add_left hx _
      _ = 2 ^ k * (tag + 1) := (Nat.mul_succ _ _).symm
      _ ≤ 2 ^ k * 2 ^ (w - k - 1) := Nat.mul_le_mul_left _ h

/-- **A tag read back by an arithmetic shift** is right below the sign bit and negative from there on. -/
theorem toInt_sshiftRight_pack (hk : k < w) (hx : x.toNat < 2 ^ k) (ht : tag < 2 ^ (w - k)) :
    ((pack k tag x).sshiftRight k).toInt =
      if tag < 2 ^ (w - k - 1) then (tag : Int) else (tag : Int) - 2 ^ (w - k) := by
  have hpos : (2 ^ k : Int) ≠ 0 := Int.pow_ne_zero (by decide)
  have hdiv : ((2 ^ k * tag + x.toNat : Nat) : Int) / 2 ^ k = tag := by
    have hnat : (2 ^ k * tag + x.toNat) / 2 ^ k = tag := by
      rw [Nat.mul_add_div (Nat.two_pow_pos k), Nat.div_eq_of_lt hx, Nat.add_zero]
    exact_mod_cast hnat
  rw [BitVec.toInt_sshiftRight, Int.shiftRight_eq_div_pow, BitVec.toInt_eq_toNat_cond,
    toNat_pack (Nat.le_of_lt hk) hx ht]
  simp only [sign_pack hk hx]
  split
  · exact_mod_cast hdiv
  · have hsplit : ((2 ^ w : Nat) : Int) = 2 ^ k * 2 ^ (w - k) := by exact_mod_cast two_pow_split (Nat.le_of_lt hk)
    have hsub : ((2 ^ k * tag + x.toNat : Nat) : Int) - ((2 ^ w : Nat) : Int) =
        ((2 ^ k * tag + x.toNat : Nat) : Int) + 2 ^ k * (-2 ^ (w - k)) := by
      rw [hsplit]
      ring
    rw [hsub]
    push_cast at hdiv ⊢
    rw [Int.add_mul_ediv_left _ _ hpos, hdiv]
    ring

end TaggedWord
