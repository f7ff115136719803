import Mathlib

/-!
# Reference counting

Objects that delete themselves when the last reference to them is released. How the counters work is a
parameter; what is required of them is that they count.
-/

namespace RefCount

/-- An implementation of reference counters. `release` tells whether the object is deleted. -/
structure Counting where
  Counter : Type
  make : Counter
  add : Counter → Counter
  release : Counter → Bool × Counter

/-- `count` is the number of references that a counter stands for. -/
structure Counting.Lawful (R : Counting) (count : R.Counter → Nat) : Prop where
  make : count R.make = 1
  add : ∀ c, count (R.add c) = count c + 1
  release : ∀ c, 0 < count c → count (R.release c).2 = count c - 1
  deletes : ∀ c, 0 < count c → ((R.release c).1 = true ↔ count c = 1)

/-- Counters that are numbers. -/
def natCounting : Counting := ⟨Nat, 1, fun c => c + 1, fun c => (c == 1, c - 1)⟩

lemma natCounting_lawful : natCounting.Lawful fun c => c where
  make := rfl
  add _ := rfl
  release _ _ := rfl
  deletes := fun (c : Nat) _ => (beq_iff_eq : (c == 1) = true ↔ c = 1)

/-- Objects with their counters, numbered in the order in which they were made. -/
structure Pool (R : Counting) where
  made : Nat := 0
  counter : Nat → R.Counter := fun _ => R.make
  /-- The objects that have been deleted, the last one first. -/
  deleted : List Nat := []

namespace Pool

variable {R : Counting} {count : R.Counter → Nat} {holders : Nat → Nat} {p : Pool R} {i : Nat}

def make (p : Pool R) : Pool R :=
  { p with made := p.made + 1, counter := Function.update p.counter p.made R.make }

def addReference (p : Pool R) (i : Nat) : Pool R :=
  { p with counter := Function.update p.counter i (R.add (p.counter i)) }

def releaseReference (p : Pool R) (i : Nat) : Pool R :=
  let r := R.release (p.counter i)
  { p with
    counter := Function.update p.counter i r.2
    deleted := if r.1 then i :: p.deleted else p.deleted }

/-- Every object has this many references and is deleted, once, when it has none. -/
structure Sound (count : R.Counter → Nat) (holders : Nat → Nat) (p : Pool R) : Prop where
  counts : ∀ i < p.made, count (p.counter i) = holders i
  unmade : ∀ i, p.made ≤ i → holders i = 0
  deleted : ∀ i, p.deleted.count i = if i < p.made ∧ holders i = 0 then 1 else 0

lemma Sound.initial : Sound count (fun _ => 0) ({} : Pool R) where
  counts _ h := absurd h (Nat.not_lt_zero _)
  unmade _ _ := rfl
  deleted _ := (if_neg fun h => Nat.not_lt_zero _ h.1).symm

lemma Sound.congr {holders' : Nat → Nat} (h : Sound count holders p) (heq : ∀ i, holders' i = holders i) :
    Sound count holders' p := by
  rwa [funext heq]

lemma Sound.make (hR : R.Lawful count) (h : Sound count holders p) :
    Sound count (Function.update holders p.made 1) p.make where
  counts i hi := by
    rw [Pool.make]
    dsimp only
    rcases eq_or_ne i p.made with rfl | hne
    · rw [Function.update_self, Function.update_self, hR.make]
    · rw [Function.update_of_ne hne, Function.update_of_ne hne]
      exact h.counts i (lt_of_le_of_ne (Nat.lt_succ_iff.1 hi) hne)
  unmade i hi := by
    rw [Function.update_of_ne (Nat.lt_of_succ_le hi).ne']
    exact h.unmade i (Nat.le_of_succ_le hi)
  deleted i := by
    rw [Pool.make]
    dsimp only
    rw [h.deleted]
    rcases eq_or_ne i p.made with rfl | hne
    · rw [Function.update_self, if_neg (by omega), if_neg (by omega)]
    · rw [Function.update_of_ne hne]
      congr 1
      exact propext ⟨fun hi => ⟨by omega, hi.2⟩, fun hi => ⟨by omega, hi.2⟩⟩

lemma Sound.addReference (hR : R.Lawful count) (h : Sound count holders p) (hi : 0 < holders i) :
    Sound count (Function.update holders i (holders i + 1)) (p.addReference i) where
  counts j hj := by
    rw [Pool.addReference]
    dsimp only
    rcases eq_or_ne j i with rfl | hne
    · rw [Function.update_self, Function.update_self, hR.add, h.counts j hj]
    · rw [Function.update_of_ne hne, Function.update_of_ne hne]
      exact h.counts j hj
  unmade j hj := by
    rcases eq_or_ne j i with rfl | hne
    · have hzero := h.unmade j hj
      omega
    · rw [Function.update_of_ne hne]
      exact h.unmade j hj
  deleted j := by
    rw [Pool.addReference]
    dsimp only
    rw [h.deleted]
    rcases eq_or_ne j i with rfl | hne
    · rw [Function.update_self, if_neg (by omega), if_neg (by omega)]
    · rw [Function.update_of_ne hne]

lemma Sound.releaseReference (hR : R.Lawful count) (h : Sound count holders p) (hi : 0 < holders i) :
    Sound count (Function.update holders i (holders i - 1)) (p.releaseReference i) := by
  have hmade : i < p.made := by
    by_contra hge
    have hzero := h.unmade i (Nat.not_lt.1 hge)
    omega
  have hcount := h.counts i hmade
  constructor
  · intro j hj
    rw [Pool.releaseReference]
    dsimp only
    rcases eq_or_ne j i with rfl | hne
    · rw [Function.update_self, Function.update_self, hR.release _ (hcount ▸ hi), hcount]
    · rw [Function.update_of_ne hne, Function.update_of_ne hne]
      exact h.counts j hj
  · intro j hj
    rw [Function.update_of_ne (hmade.trans_le hj).ne']
    exact h.unmade j hj
  · intro j
    have hdeletes := hR.deletes _ (hcount ▸ hi)
    rw [hcount] at hdeletes
    have hdeleted := h.deleted j
    rw [Pool.releaseReference]
    dsimp only
    rcases eq_or_ne j i with rfl | hne
    · rw [if_neg (by omega)] at hdeleted
      rw [Function.update_self]
      by_cases hlast : holders j = 1
      · rw [if_pos (hdeletes.2 hlast), List.count_cons_self, hdeleted, if_pos ⟨hmade, by omega⟩]
      · rw [if_neg fun hdel => hlast (hdeletes.1 hdel), hdeleted, if_neg (by omega)]
    · rw [Function.update_of_ne hne, ← hdeleted]
      split
      · rw [List.count_cons_of_ne hne.symm]
      · rfl

end Pool

end RefCount
