import Mathlib

/-!
# Sums in a group of exponent two

`Finset.fold op e f s` combines the values of `f` over `s`. When every element is its own
inverse, combining a summand once more takes it out of the sum again, which is the whole
arithmetic of parity-based erasure codes.
-/

namespace XorSum

variable {α ι : Type*} [DecidableEq ι] (op : α → α → α) [Std.Commutative op] [Std.Associative op]
  {e : α}

lemma fold_erase (hself : ∀ a, op a a = e) (hid : ∀ a, op e a = a) (f : ι → α) {s : Finset ι}
    {i : ι} (hi : i ∈ s) : op (s.fold op e f) (f i) = (s.erase i).fold op e f := by
  have hcomm : ∀ a b, op a b = op b a := Std.Commutative.comm
  have hassoc : ∀ a b c, op (op a b) c = op a (op b c) := Std.Associative.assoc
  have hinsert : s.fold op e f = op (f i) ((s.erase i).fold op e f) := by
    conv_lhs => rw [← Finset.insert_erase hi]
    exact Finset.fold_insert (Finset.notMem_erase i s)
  rw [hinsert, hcomm, ← hassoc, hself, hid]

/-- The members of a list without repetitions, combined one after the other. -/
lemma foldl_eq_fold (hid : ∀ a, op e a = a) (f : ι → α) {l : List ι} (hl : l.Nodup) (a : α) :
    l.foldl (fun acc i => op acc (f i)) a = op a (l.toFinset.fold op e f) := by
  have hcomm : ∀ a b, op a b = op b a := Std.Commutative.comm
  have hassoc : ∀ a b c, op (op a b) c = op a (op b c) := Std.Associative.assoc
  induction l generalizing a with
  | nil => simp [hcomm a e, hid]
  | cons i l ih =>
    obtain ⟨hi, hl⟩ := List.nodup_cons.mp hl
    have hfold : (i :: l).toFinset.fold op e f = op (f i) (l.toFinset.fold op e f) := by
      rw [List.toFinset_cons]
      exact Finset.fold_insert (by simpa using hi)
    rw [List.foldl_cons, hfold, ih hl, hassoc]

end XorSum
