import Mathlib

/-!
# Drawing without replacement

An urn is filled, drawn from and discarded. Whatever is drawn between two fillings is part of the first
one, so a filling without repetitions is drawn from without repetitions.
-/

/-- A filling, and what has been drawn from it, the latest first. -/
structure Urn.Round (α : Type*) where
  ground : Multiset α
  drawn : List α

/-- What is left to draw, and all rounds, the latest first. -/
structure Urn (α : Type*) where
  left : Multiset α := 0
  rounds : List (Urn.Round α) := []

namespace Urn

variable {α : Type*} {u : Urn α} {r : Round α} {x : α}

def fill (u : Urn α) (ground : Multiset α) : Urn α :=
  { left := ground, rounds := ⟨ground, []⟩ :: u.rounds }

def discard (u : Urn α) : Urn α := { u with left := 0 }

def draw [DecidableEq α] (u : Urn α) (x : α) : Urn α where
  left := u.left.erase x
  rounds := u.rounds.modifyHead fun r => { r with drawn := x :: r.drawn }

/-- What is left and what has been drawn in the latest round are parts of its filling that do not overlap. -/
structure Sound (u : Urn α) : Prop where
  unfilled : u.rounds = [] → u.left = 0
  latest : ∀ r ∈ u.rounds.head?, u.left + r.drawn ≤ r.ground
  drawn : ∀ r ∈ u.rounds, (r.drawn : Multiset α) ≤ r.ground

lemma sound_new : ({} : Urn α).Sound where
  unfilled _ := rfl
  latest _ hr := absurd hr (Option.not_mem_none _)
  drawn _ hr := absurd hr List.not_mem_nil

lemma Sound.fill (h : u.Sound) (ground : Multiset α) : (u.fill ground).Sound := by
  refine ⟨fun hnil => absurd hnil (List.cons_ne_nil _ _), fun r hr => ?_, fun r hr => ?_⟩
  · cases hr
    exact (add_zero ground).le
  · rcases List.mem_cons.1 hr with rfl | hr
    · exact Multiset.zero_le ground
    · exact h.drawn r hr

lemma Sound.discard (h : u.Sound) : u.discard.Sound := by
  refine ⟨fun _ => rfl, fun r hr => ?_, h.drawn⟩
  rw [Urn.discard, zero_add]
  exact h.drawn r (List.mem_of_mem_head? hr)

lemma Sound.draw [DecidableEq α] (h : u.Sound) (hx : x ∈ u.left) : (u.draw x).Sound := by
  obtain ⟨left, rounds⟩ := u
  cases rounds with
  | nil =>
    have hleft : left = 0 := h.unfilled rfl
    rw [hleft] at hx
    exact absurd hx (Multiset.notMem_zero x)
  | cons r rounds =>
    have hsum : left.erase x + ↑(x :: r.drawn) = left + r.drawn := by
      calc left.erase x + ↑(x :: r.drawn) = x ::ₘ left.erase x + r.drawn := by
            rw [← Multiset.cons_coe, Multiset.add_cons, Multiset.cons_add]
        _ = left + r.drawn := by rw [Multiset.cons_erase hx]
    have hlatest : left.erase x + ↑(x :: r.drawn) ≤ r.ground := hsum.trans_le (h.latest r rfl)
    refine ⟨fun hnil => absurd hnil (List.cons_ne_nil _ _), fun r' hr' => ?_, fun r' hr' => ?_⟩
    · cases hr'
      exact hlatest
    · rcases List.mem_cons.1 hr' with rfl | hr'
      · exact (Multiset.le_add_left _ _).trans hlatest
      · exact h.drawn r' (List.mem_cons_of_mem r hr')

lemma forall_ground_draw [DecidableEq α] {P : Multiset α → Prop} (h : ∀ r ∈ u.rounds, P r.ground) (x : α) :
    ∀ r ∈ (u.draw x).rounds, P r.ground := by
  obtain ⟨left, rounds⟩ := u
  cases rounds with
  | nil => exact h
  | cons r rounds =>
    intro r' hr'
    rcases List.mem_cons.1 hr' with rfl | hr'
    · exact h r List.mem_cons_self
    · exact h r' (List.mem_cons_of_mem r hr')

/-- No element of a filling without repetitions is drawn twice. -/
lemma Sound.nodup (h : u.Sound) (hr : r ∈ u.rounds) (hground : r.ground.Nodup) : r.drawn.Nodup :=
  Multiset.coe_nodup.1 (Multiset.nodup_of_le (h.drawn r hr) hground)

end Urn
