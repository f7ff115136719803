import PyroFling.Library.Ring

/-!
# Serial numbers

Items are numbered without end, and what is known of a number are its low bits. Two numbers that are
less than half of the range apart can still be compared.
-/

namespace SerialNumber
open Ring

variable {width m n : Nat}

/-- `n` comes less than half of the range before or behind every item so far. -/
def InWindow (width : Nat) (items : List Nat) (n : Nat) : Prop :=
  (∀ m ∈ items, m < n + 2 ^ width) ∧ (items = [] ∨ ∃ m ∈ items, n < m + 2 ^ width)

instance (width : Nat) (items : List Nat) (n : Nat) : Decidable (InWindow width items n) :=
  inferInstanceAs (Decidable (_ ∧ _))

/-- `b` is ahead of `a` by less than half of the range. -/
def Newer (a b : BitVec (width + 1)) : Prop := 0 < (b - a).toNat ∧ (b - a).toNat < 2 ^ width

lemma InWindow.newest {items : List Nat} (h : InWindow width items n) (hmem : m ∈ items)
    (hnewest : ∀ l ∈ items, l ≤ m) : m < n + 2 ^ width ∧ n < m + 2 ^ width := by
  obtain ⟨hlate, rfl | ⟨l, hl, hearly⟩⟩ := h
  · exact absurd hmem List.not_mem_nil
  · have := hnewest l hl
    exact ⟨hlate m hmem, by omega⟩

/-- The upper half of the range stands for the numbers behind. -/
lemma toNat_sub_lt_iff (hlate : m < n + 2 ^ width) (hearly : n < m + 2 ^ width) :
    (BitVec.ofNat (width + 1) n - BitVec.ofNat (width + 1) m).toNat < 2 ^ width ↔ m ≤ n := by
  have hrange : 2 ^ (width + 1) = 2 ^ width + 2 ^ width := by rw [pow_succ, mul_two]
  rcases le_or_gt m n with hle | hlt
  · rw [toNat_ofNat_sub hle (by omega)]
    omega
  · have hback : BitVec.ofNat (width + 1) n - BitVec.ofNat (width + 1) m =
        -BitVec.ofNat (width + 1) (m - n) := by
      rw [sub_eq_iff_eq_add, eq_neg_add_iff_add_eq, ← BitVec.ofNat_add, Nat.sub_add_cancel hlt.le]
    have hdelta : (m - n) % 2 ^ (width + 1) = m - n := Nat.mod_eq_of_lt (by omega)
    have hrest : (2 ^ (width + 1) - (m - n)) % 2 ^ (width + 1) = 2 ^ (width + 1) - (m - n) :=
      Nat.mod_eq_of_lt (by omega)
    rw [hback, BitVec.toNat_neg, BitVec.toNat_ofNat, hdelta, hrest]
    omega

lemma ofNat_eq_iff (hlate : m < n + 2 ^ width) (hearly : n < m + 2 ^ width) :
    BitVec.ofNat (width + 1) n = BitVec.ofNat (width + 1) m ↔ n = m := by
  constructor
  · intro heq
    have hpos : 0 < 2 ^ width := Nat.two_pow_pos width
    have hle := (toNat_sub_lt_iff hlate hearly).1 (by rw [heq, sub_self]; exact hpos)
    have hge := (toNat_sub_lt_iff hearly hlate).1 (by rw [heq, sub_self]; exact hpos)
    exact le_antisymm hge hle
  · rintro rfl
    rfl

lemma newer_ofNat (hlt : m < n) (hearly : n < m + 2 ^ width) :
    Newer (BitVec.ofNat (width + 1) m) (BitVec.ofNat (width + 1) n) := by
  have hrange : 2 ^ (width + 1) = 2 ^ width + 2 ^ width := by rw [pow_succ, mul_two]
  rw [Newer, toNat_ofNat_sub hlt.le (by omega)]
  omega

/-- The test of the highest bit. -/
lemma and_twoPow_eq_zero_iff (v : BitVec (width + 1)) :
    v &&& BitVec.twoPow (width + 1) width = 0 ↔ v.toNat < 2 ^ width := by
  have hbit : v.getLsbD width = decide (2 ^ width ≤ v.toNat) := BitVec.getLsbD_succ_last v
  rw [BitVec.and_twoPow, hbit]
  by_cases hle : 2 ^ width ≤ v.toNat
  · simp [hle]
  · simp [hle, Nat.lt_of_not_le hle]

end SerialNumber
