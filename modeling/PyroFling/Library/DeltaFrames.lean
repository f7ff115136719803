import PyroFling.Library.Runs

/-!
# States sent as frames of changes

A sender that remembers the last state sends of the next one only what is different. A receiver that takes
the changes of each frame has the states of the sender, as far as the keys that are watched go. It counts the
changes of a frame, and has room for some of them.
-/

namespace DeltaFrames

variable {κ α σ : Type*} [DecidableEq α]

/-- The values that are different, in the order of the keys. -/
def changes (keys : List κ) (old new : κ → α) : List (κ × α) :=
  (keys.filter fun k => new k ≠ old k).map fun k => (k, new k)

lemma changes_cons_of_ne {k : κ} {keys : List κ} {old new : κ → α} (h : new k ≠ old k) :
    changes (k :: keys) old new = (k, new k) :: changes keys old new := by
  rw [changes, List.filter_cons, if_pos (decide_eq_true h)]
  rfl

lemma changes_cons_of_eq {k : κ} {keys : List κ} {old new : κ → α} (h : new k = old k) :
    changes (k :: keys) old new = changes keys old new := by
  have hsame : ¬decide (new k ≠ old k) = true := by
    rw [decide_eq_true_iff, not_not]
    exact h
  rw [changes, List.filter_cons, if_neg hsame]
  rfl

lemma changes_eq_nil {keys : List κ} {old new : κ → α} :
    changes keys old new = [] ↔ keys.map new = keys.map old := by
  rw [changes, List.map_eq_nil_iff, List.filter_eq_nil_iff, List.map_inj_left]
  simp

/-- A state at the end is kept if it differs from the last one. -/
lemma destutter'_concat (a b : α) (l : List α) :
    (l ++ [b]).destutter' (· ≠ ·) a =
      l.destutter' (· ≠ ·) a ++ if (a :: l).getLast (List.cons_ne_nil a l) ≠ b then [b] else [] := by
  induction l generalizing a with
  | nil =>
    rw [List.nil_append, List.destutter'_singleton, List.destutter'_nil, List.getLast_singleton]
    split <;> rfl
  | cons c l ih =>
    rw [List.cons_append, List.destutter'_cons, List.destutter'_cons, List.getLast_cons_cons]
    by_cases hne : a ≠ c
    · rw [if_pos hne, if_pos hne, ih c, List.cons_append]
    · rw [ne_eq, not_not] at hne
      rw [if_neg (not_not.2 hne), if_neg (not_not.2 hne), hne]
      exact ih c

structure Receiver (κ α σ : Type*) where
  value : σ → κ → α
  pending : σ → Nat
  put : σ → κ × α → σ

namespace Receiver

variable [DecidableEq κ] (r : Receiver κ α σ)

/-- The keys take their values, and what changes nothing is not counted. -/
structure Lawful (keys : List κ) (allowed : κ → α → Prop) (limit : Nat) : Prop where
  value_put : ∀ d, ∀ k ∈ keys, ∀ v, allowed k v →
    ∀ k' ∈ keys, r.value (r.put d (k, v)) k' = Function.update (r.value d) k v k'
  pending_put : ∀ d, ∀ k ∈ keys, ∀ v, allowed k v → r.pending d < limit →
    r.pending (r.put d (k, v)) = if v = r.value d k then r.pending d else r.pending d + 1

/-- It is a change. -/
def Changes (d : σ) (change : κ × α) : Prop := change.2 ≠ r.value d change.1

def HasRoom (limit : Nat) (d : σ) (_ : κ × α) : Prop := r.pending d < limit

variable {r} {keys ks : List κ} {allowed : κ → α → Prop} {limit : Nat} {old new : κ → α}

/-- The other keys keep their values. -/
lemma Lawful.value_put_rest (h : r.Lawful keys allowed limit) {d : σ} {k : κ} {v : α} (hks : k :: ks ⊆ keys)
    (hnew : k ∉ ks) (hv : allowed k v) (hd : ∀ k' ∈ k :: ks, r.value d k' = old k') :
    ∀ k' ∈ ks, r.value (r.put d (k, v)) k' = old k' := by
  intro k' hk'
  obtain ⟨hk, hrest⟩ := List.cons_subset.1 hks
  have hother : k' ≠ k := fun heq => hnew (heq ▸ hk')
  rw [h.value_put d k hk v hv k' (hrest hk'), Function.update_of_ne hother]
  exact hd k' (List.mem_cons_of_mem k hk')

/-- The receiver gets from the old state to the new one, and no change is sent for nothing. -/
theorem Lawful.value_changes (h : r.Lawful keys allowed limit) (hks : ks ⊆ keys) (hnodup : ks.Nodup)
    (hallowed : ∀ k ∈ ks, allowed k (new k)) {d : σ} (hd : ∀ k ∈ ks, r.value d k = old k) :
    (∀ k ∈ keys, r.value ((changes ks old new).foldl r.put d) k = if k ∈ ks then new k else r.value d k) ∧
      Runs.Along r.put r.Changes d (changes ks old new) := by
  induction ks generalizing d with
  | nil => exact ⟨fun k _ => (if_neg List.not_mem_nil).symm, trivial⟩
  | cons k ks ih =>
    obtain ⟨hk, hrest⟩ := List.cons_subset.1 hks
    obtain ⟨hnew, hnodup'⟩ := List.nodup_cons.1 hnodup
    have hkv := hallowed k List.mem_cons_self
    have hall : ∀ k' ∈ ks, allowed k' (new k') := fun k' hk' => hallowed k' (List.mem_cons_of_mem k hk')
    by_cases hne : new k ≠ old k
    · rw [changes_cons_of_ne hne, List.foldl_cons]
      obtain ⟨hvalue, halong⟩ := ih hrest hnodup' hall (h.value_put_rest hks hnew hkv hd)
      refine ⟨fun k' hk' => ?_, ?_, halong⟩
      · rw [hvalue k' hk', h.value_put d k hk (new k) hkv k' hk']
        rcases eq_or_ne k' k with rfl | hother
        · rw [if_neg hnew, Function.update_self, if_pos List.mem_cons_self]
        · rw [Function.update_of_ne hother]
          simp only [List.mem_cons, hother, false_or]
      · rw [Changes, hd k List.mem_cons_self]
        exact hne
    · rw [ne_eq, not_not] at hne
      rw [changes_cons_of_eq hne]
      obtain ⟨hvalue, halong⟩ := ih hrest hnodup' hall fun k' hk' => hd k' (List.mem_cons_of_mem k hk')
      refine ⟨fun k' hk' => ?_, halong⟩
      rw [hvalue k' hk']
      rcases eq_or_ne k' k with rfl | hother
      · rw [if_neg hnew, if_pos List.mem_cons_self, hne, hd k' List.mem_cons_self]
      · simp only [List.mem_cons, hother, false_or]

/-- All changes are counted, as long as there is room for them. -/
theorem Lawful.pending_changes (h : r.Lawful keys allowed limit) (hks : ks ⊆ keys) (hnodup : ks.Nodup)
    (hallowed : ∀ k ∈ ks, allowed k (new k)) {d : σ} (hd : ∀ k ∈ ks, r.value d k = old k)
    (hroom : r.pending d + (changes ks old new).length ≤ limit) :
    r.pending ((changes ks old new).foldl r.put d) = r.pending d + (changes ks old new).length ∧
      Runs.Along r.put (r.HasRoom limit) d (changes ks old new) := by
  induction ks generalizing d with
  | nil => exact ⟨rfl, trivial⟩
  | cons k ks ih =>
    obtain ⟨hk, hrest⟩ := List.cons_subset.1 hks
    obtain ⟨hnew, hnodup'⟩ := List.nodup_cons.1 hnodup
    have hkv := hallowed k List.mem_cons_self
    have hall : ∀ k' ∈ ks, allowed k' (new k') := fun k' hk' => hallowed k' (List.mem_cons_of_mem k hk')
    by_cases hne : new k ≠ old k
    · rw [changes_cons_of_ne hne, List.length_cons] at hroom
      rw [changes_cons_of_ne hne, List.foldl_cons, List.length_cons]
      have hlt : r.pending d < limit := by omega
      have hput := h.pending_put d k hk (new k) hkv hlt
      rw [hd k List.mem_cons_self, if_neg hne] at hput
      obtain ⟨hcount, halong⟩ := ih hrest hnodup' hall (h.value_put_rest hks hnew hkv hd) (by omega)
      refine ⟨?_, hlt, halong⟩
      rw [hcount, hput]
      omega
    · rw [ne_eq, not_not] at hne
      rw [changes_cons_of_eq hne] at hroom ⊢
      exact ih hrest hnodup' hall (fun k' hk' => hd k' (List.mem_cons_of_mem k hk')) hroom

end Receiver

end DeltaFrames
