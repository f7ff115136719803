import Mathlib

/-!
# Ring buffers with free-running counters

A ring of `n` slots is written at one counter and read at another. The counters count all items that
ever went through; what is stored of them are the low bits. An item stays in its slot until it has
been read, as long as the counters are at most `n` apart.
-/

namespace Ring

variable {α β : Type*} {R : β → α → Prop} {slots : Nat → β} {items : List α} {n r w : Nat}

/-! ### Counters -/

/-- The distance of two counters survives the wrapping. -/
lemma toNat_ofNat_sub {width : Nat} (hle : r ≤ w) (hwindow : w - r < 2 ^ width) :
    (BitVec.ofNat width w - BitVec.ofNat width r).toNat = w - r := by
  have hsub : BitVec.ofNat width w - BitVec.ofNat width r = BitVec.ofNat width (w - r) := by
    rw [sub_eq_iff_eq_add, ← BitVec.ofNat_add, Nat.sub_add_cancel hle]
  rw [hsub, BitVec.toNat_ofNat, Nat.mod_eq_of_lt hwindow]

/-- Masking a counter gives the slot of a ring that divides its range. -/
lemma toNat_ofNat_and_mask {width k : Nat} (hk : k ≤ width) (w : Nat) :
    (BitVec.ofNat width w).toNat &&& (2 ^ k - 1) = w % 2 ^ k := by
  rw [BitVec.toNat_ofNat, Nat.and_two_pow_sub_one_eq_mod,
    Nat.mod_mod_of_dvd w (Nat.pow_dvd_pow 2 hk)]

/-- Counters less than a lap apart lead to different slots. -/
lemma slot_ne (hlt : r < w) (hlap : w < r + n) : w % n ≠ r % n := by
  intro heq
  have hdvd : n ∣ w - r := (Nat.modEq_iff_dvd' hlt.le).1 heq.symm
  have hle := Nat.le_of_dvd (by omega) hdvd
  omega

/-! ### Contents -/

/-- The items from `r` up to `w` are in their slots. -/
def Holds (R : β → α → Prop) (slots : Nat → β) (n : Nat) (items : List α) (r w : Nat) : Prop :=
  ∀ j a, r ≤ j → j < w → items[j]? = some a → R (slots (j % n)) a

lemma Holds.empty : Holds R slots n items r r := fun _ _ hle hlt _ => absurd hlt (Nat.not_lt.2 hle)

lemma Holds.get (h : Holds R slots n items r w) (hlt : r < w) {a : α} (ha : items[r]? = some a) :
    R (slots (r % n)) a := h r a le_rfl hlt ha

lemma Holds.pop (h : Holds R slots n items r w) : Holds R slots n items (r + 1) w :=
  fun j a hle hlt ha => h j a (Nat.le_of_succ_le hle) hlt ha

/-- The slot behind the newest item may be overwritten unless the ring is full. -/
lemma Holds.update (h : Holds R slots n items r w) (hroom : w < r + n) (b : β) :
    Holds R (Function.update slots (w % n) b) n items r w := by
  intro j a hle hlt ha
  rw [Function.update_of_ne (slot_ne hlt (by omega)).symm]
  exact h j a hle hlt ha

/-- What is in the slot behind the newest item becomes the newest item. -/
lemma Holds.push (h : Holds R slots n items r w)
    (hnew : ∀ a, items[w]? = some a → R (slots (w % n)) a) : Holds R slots n items r (w + 1) := by
  intro j a hle hlt ha
  rcases Nat.lt_succ_iff_lt_or_eq.1 hlt with hlt | rfl
  · exact h j a hle hlt ha
  · exact hnew a ha

lemma Holds.arrive (h : Holds R slots n items r w) (hlength : w ≤ items.length) (x : α) :
    Holds R slots n (items ++ [x]) r w := by
  intro j a hle hlt ha
  rw [List.getElem?_append_left (hlt.trans_le hlength)] at ha
  exact h j a hle hlt ha

end Ring
