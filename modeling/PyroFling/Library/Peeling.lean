import Mathlib

/-!
# Peeling

Equations over unknowns of type `α`, each given by the finite set of unknowns it involves. An
equation with all but one of its unknowns known yields the remaining one; a set is closed when
no equation yields anything new. What a family of equations can recover from a set of known
unknowns by such steps alone is the least closed set that contains it.
-/

namespace Peeling

variable {α ι : Type*}

/-- Nothing more can be recovered from `D` with the equations in `F`. -/
def PeelClosed (members : ι → Finset α) (F : Set ι) (D : Set α) : Prop :=
  ∀ f ∈ F, ∀ a ∈ members f, (∀ b ∈ members f, b ≠ a → b ∈ D) → a ∈ D

/-- The closed sets that contain what is known from the start. -/
def closedSets (members : ι → Finset α) (F : Set ι) (R : Set α) : Set (Set α) :=
  {D | R ⊆ D ∧ PeelClosed members F D}

lemma closedSets_congr {members members' : ι → Finset α} {F : Set ι}
    (h : ∀ f ∈ F, members f = members' f) (R : Set α) :
    closedSets members F R = closedSets members' F R := by
  have hclosed : ∀ D, PeelClosed members F D ↔ PeelClosed members' F D := by
    intro D
    refine forall₂_congr fun f hf => ?_
    rw [h f hf]
  ext D
  simp only [closedSets, Set.mem_ofPred_eq, hclosed D]

/-- A finite set is closed if no equation has exactly one unknown left. -/
lemma peelClosed_of_card [DecidableEq α] {members : ι → Finset α} {F : Set ι} {D : Finset α}
    (h : ∀ f ∈ F, (members f \ D).card ≠ 1) : PeelClosed members F (D : Set α) := by
  intro f hf a ha hothers
  by_contra haD
  apply h f hf
  rw [Finset.card_eq_one]
  refine ⟨a, Finset.ext fun b => ?_⟩
  rw [Finset.mem_sdiff, Finset.mem_singleton]
  constructor
  · rintro ⟨hb, hbD⟩
    by_contra hba
    exact hbD (hothers b hb hba)
  · rintro rfl
    exact ⟨ha, haD⟩

/-- A peeling step never leaves a closed set. -/
lemma PeelClosed.insert_subset [DecidableEq α] {members : ι → Finset α} {F : Set ι} {S : Set α} {D : Finset α}
    (hS : PeelClosed members F S) (hD : (D : Set α) ⊆ S) {f : ι} (hf : f ∈ F) {a : α}
    (ha : members f \ D = {a}) : ((insert a D : Finset α) : Set α) ⊆ S := by
  have hmem : a ∈ members f \ D := ha ▸ Finset.mem_singleton_self a
  rw [Finset.coe_insert, Set.insert_subset_iff]
  refine ⟨hS f hf a (Finset.mem_sdiff.mp hmem).1 fun b hb hba => ?_, hD⟩
  by_contra hbS
  have hbD : b ∉ D := fun hbD => hbS (hD (Finset.mem_coe.mpr hbD))
  have : b ∈ members f \ D := Finset.mem_sdiff.mpr ⟨hb, hbD⟩
  rw [ha, Finset.mem_singleton] at this
  exact hba this

/-- More equations and more known unknowns, followed by peeling steps, lead from one least closed
set to the next. -/
lemma isLeast_closedSets_extend {members : ι → Finset α} {F F' : Set ι} {R R' D D' : Set α}
    (h : IsLeast (closedSets members F R) D) (hF : F ⊆ F') (hR : R ⊆ R') (hsub : R' ⊆ D')
    (hclosed : PeelClosed members F' D')
    (hpeel : ∀ S, PeelClosed members F' S → R' ⊆ S → D ⊆ S → D' ⊆ S) :
    IsLeast (closedSets members F' R') D' := by
  refine ⟨⟨hsub, hclosed⟩, fun S hS => hpeel S hS.2 hS.1 ?_⟩
  exact h.2 ⟨hR.trans hS.1, fun f hf => hS.2 f (hF hf)⟩

end Peeling
