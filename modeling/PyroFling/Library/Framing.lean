import Mathlib

/-!
# Framing a stream

A stream of symbols is cut into frames. How long the first frame is can be told as soon as all of
it has arrived, and does not change when more arrives. Cutting off frames greedily then gives the
same frames no matter in which pieces the stream comes.
-/

/-- A way to recognise the first frame of a stream. -/
structure Framing (α : Type*) where
  /-- The length of the first frame, if the list contains all of it. -/
  frame : List α → Option Nat
  pos : ∀ {l n}, frame l = some n → 0 < n
  le : ∀ {l n}, frame l = some n → n ≤ l.length
  append : ∀ {l n} (r), frame l = some n → frame (l ++ r) = some n

namespace Framing

variable {α : Type*} (F : Framing α)

/-- Cuts off at most `fuel` frames. -/
def split : Nat → List α → List (List α) × List α
  | 0, l => ([], l)
  | fuel + 1, l =>
    match F.frame l with
    | none => ([], l)
    | some n =>
      let r := split fuel (l.drop n)
      (l.take n :: r.1, r.2)

/-- The complete frames of a stream. -/
def frames (l : List α) : List (List α) := (F.split l.length l).1

/-- What comes after the last complete frame. -/
def rest (l : List α) : List α := (F.split l.length l).2

lemma split_fuel (l : List α) : ∀ fuel, l.length ≤ fuel → F.split fuel l = (F.frames l, F.rest l) := by
  induction hn : l.length using Nat.strong_induction_on generalizing l with
  | h n ih =>
    subst hn
    have hfuel : ∀ a b, l.length ≤ a → l.length ≤ b → F.split a l = F.split b l := by
      intro a b ha hb
      cases hframe : F.frame l with
      | none =>
        have hnone : ∀ k, F.split k l = ([], l) := by
          intro k
          cases k with
          | zero => rfl
          | succ k => simp only [split, hframe]
        rw [hnone a, hnone b]
      | some n =>
        have hpos := F.pos hframe
        have hle := F.le hframe
        obtain ⟨a, rfl⟩ := Nat.exists_eq_succ_of_ne_zero (by omega : a ≠ 0)
        obtain ⟨b, rfl⟩ := Nat.exists_eq_succ_of_ne_zero (by omega : b ≠ 0)
        have hlength : (l.drop n).length = l.length - n := List.length_drop
        have hrest := ih (l.drop n).length (by omega) (l.drop n) rfl
        simp only [split, hframe]
        rw [hrest a (by omega), hrest b (by omega)]
    intro fuel hle
    exact hfuel fuel l.length hle le_rfl

variable {F}

lemma frames_of_none {l : List α} (h : F.frame l = none) : F.frames l = [] ∧ F.rest l = l := by
  unfold frames rest
  cases l.length with
  | zero => exact ⟨rfl, rfl⟩
  | succ n =>
    simp only [split, h]
    exact ⟨trivial, trivial⟩

lemma frames_of_some {l : List α} {n : Nat} (h : F.frame l = some n) :
    F.frames l = l.take n :: F.frames (l.drop n) ∧ F.rest l = F.rest (l.drop n) := by
  have hpos := F.pos h
  have hle := F.le h
  obtain ⟨k, hk⟩ := Nat.exists_eq_succ_of_ne_zero (by omega : l.length ≠ 0)
  have hsplit : F.split l.length l = (l.take n :: F.frames (l.drop n), F.rest (l.drop n)) := by
    rw [hk]
    simp only [split, h]
    rw [F.split_fuel (l.drop n) k (by rw [List.length_drop]; omega)]
  constructor
  · change (F.split l.length l).1 = _
    rw [hsplit]
  · change (F.split l.length l).2 = _
    rw [hsplit]

/-- Induction along the frames of a stream. -/
lemma frame_induction {motive : List α → Prop} (hnone : ∀ l, F.frame l = none → motive l)
    (hsome : ∀ l n, F.frame l = some n → motive (l.drop n) → motive l) (l : List α) : motive l := by
  induction hn : l.length using Nat.strong_induction_on generalizing l with
  | h n ih =>
    subst hn
    cases hframe : F.frame l with
    | none => exact hnone l hframe
    | some n =>
      have hpos := F.pos hframe
      have hle := F.le hframe
      refine hsome l n hframe (ih _ ?_ (l.drop n) rfl)
      rw [List.length_drop]
      omega

/-- No frame is left over. -/
lemma frame_rest (l : List α) : F.frame (F.rest l) = none := by
  induction l using frame_induction (F := F) with
  | hnone l h => rwa [(frames_of_none h).2]
  | hsome l n h ih => rwa [(frames_of_some h).2]

lemma split_append (l r : List α) : F.frames (l ++ r) = F.frames l ++ F.frames (F.rest l ++ r) ∧
    F.rest (l ++ r) = F.rest (F.rest l ++ r) := by
  induction l using frame_induction (F := F) with
  | hnone l h =>
    obtain ⟨hframes, hrest⟩ := frames_of_none h
    rw [hframes, hrest]
    exact ⟨rfl, rfl⟩
  | hsome l n h ih =>
    obtain ⟨hframes, hrest⟩ := frames_of_some h
    obtain ⟨hframes', hrest'⟩ := frames_of_some (F.append r h)
    have hle := F.le h
    rw [List.take_append_of_le_length hle, List.drop_append_of_le_length hle] at hframes'
    rw [List.drop_append_of_le_length hle] at hrest'
    rw [hframes', hrest', hframes, hrest, ih.1, ih.2]
    exact ⟨rfl, rfl⟩

end Framing
