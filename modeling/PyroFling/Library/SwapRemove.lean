import Mathlib

/-!
# Removing an element by moving the last one into its place
-/

namespace SwapRemove

variable {α : Type*}

/-- Moves the last element to `i` and shortens the list. -/
def swapRemove (l : List α) (i : Nat) : List α :=
  match l.getLast? with
  | none => []
  | some last => (l.set i last).dropLast

lemma swapRemove_append (l : List α) (last : α) {i : Nat} (hi : i < l.length) :
    swapRemove (l ++ [last]) i = l.set i last := by
  simp [swapRemove, List.set_append_left _ _ hi]

lemma swapRemove_last (l : List α) (last : α) : swapRemove (l ++ [last]) l.length = l := by
  simp [swapRemove]

/-- All other elements stay. -/
theorem perm_cons_swapRemove {l : List α} {i : Nat} (hi : i < l.length) :
    l.Perm (l[i] :: swapRemove l i) := by
  have hne : l ≠ [] := List.ne_nil_of_length_pos (by omega)
  obtain ⟨init, last, rfl⟩ := l.eq_nil_or_concat'.resolve_left hne
  rw [List.length_append, List.length_singleton] at hi
  rcases Nat.lt_or_eq_of_le (Nat.lt_succ_iff.1 hi) with hlt | rfl
  · rw [swapRemove_append init last hlt, List.getElem_append_left hlt]
    calc (init ++ [last]).Perm (last :: init) := List.perm_append_singleton _ _
      _ |>.Perm (last :: init[i] :: init.eraseIdx i) :=
        (List.getElem_cons_eraseIdx_perm hlt).symm.cons _
      _ |>.Perm (init[i] :: last :: init.eraseIdx i) := List.Perm.swap _ _ _
      _ |>.Perm (init[i] :: init.set i last) := (List.set_perm_cons_eraseIdx hlt last).symm.cons _
  · rw [swapRemove_last, List.getElem_concat_length rfl]
    exact List.perm_append_singleton _ _

end SwapRemove
