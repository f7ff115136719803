import Mathlib

/-!
# Byte memory

A buffer is the function from offsets to bytes; its size is kept by whoever owns it. The
operations are the ones of the C library, with a destination and a source that do not
overlap.
-/

namespace ByteMemory

abbrev Bytes := Nat → UInt8

namespace Bytes

/-- The buffer seen through a pointer that is `offset` bytes further on. -/
def drop (m : Bytes) (offset : Nat) : Bytes := fun i => m (offset + i)

/-- `memcpy(dst, src, size)`. -/
def copy (dst src : Bytes) (size : Nat) : Bytes :=
  fun i => if i < size then src i else dst i

/-- `memcpy(dst + offset, src, size)`. -/
def store (dst : Bytes) (offset : Nat) (src : Bytes) (size : Nat) : Bytes :=
  fun i => if offset ≤ i ∧ i < offset + size then src (i - offset) else dst i

/-- `memset(dst + offset, 0, size)`. -/
def zero (dst : Bytes) (offset size : Nat) : Bytes := dst.store offset (fun _ => 0) size

/-- `a[i] ^= b[i]` for every `i` below `size`. -/
def xor (a b : Bytes) (size : Nat) : Bytes :=
  fun i => if i < size then a i ^^^ b i else a i

@[simp] lemma drop_apply (m : Bytes) (offset i : Nat) : m.drop offset i = m (offset + i) := rfl

lemma store_apply_inside (dst src : Bytes) {offset size i : Nat} (hi : i < size) :
    dst.store offset src size (offset + i) = src i := by
  simp [store, hi]

lemma store_apply_outside (dst src : Bytes) {offset size i : Nat}
    (hi : i < offset ∨ offset + size ≤ i) : dst.store offset src size i = dst i := by
  have h : ¬(offset ≤ i ∧ i < offset + size) := by omega
  simp [store, h]

end Bytes

/-- Slots of one size laid out one after the other do not overlap. -/
lemma slot_disjoint {size a b i : Nat} (h : a ≠ b) (hi : i < size) :
    size * a + i < size * b ∨ size * b + size ≤ size * a + i := by
  rcases Nat.lt_or_gt_of_ne h with h | h
  · left
    have : size * (a + 1) ≤ size * b := Nat.mul_le_mul_left size h
    rw [Nat.mul_add, Nat.mul_one] at this
    omega
  · right
    have : size * (b + 1) ≤ size * a := Nat.mul_le_mul_left size h
    rw [Nat.mul_add, Nat.mul_one] at this
    omega

end ByteMemory
