import PyroFling.Library.SwapRemove
import PyroFling.Lt.Shuffle

/-!
# Sampling without replacement

The entries a `Shuffler` has not handed out yet form a list without repetitions, and every
`pick` takes one element out of it. What a shuffler returns after a `flush` and a `seed` is
determined by the seed alone, which is what lets encoder and decoder agree on index sets.
-/

namespace PyroFling
open SwapRemove

lemma Fault.note_eq_none {old : Option Fault} {ok : Bool} {f : Fault} :
    Fault.note old ok f = none ↔ old = none ∧ ok = true := by
  cases ok <;> cases old <;> simp [Fault.note]

@[simp] lemma Fault.note_true (old : Option Fault) (f : Fault) : Fault.note old true f = old := rfl

/-- Doubling reaches any need that does not exceed half of the range of the integer type. -/
lemma growCapacity_spec (width need : Nat) (hneed : need ≤ 2 ^ (width - 1)) (hwidth : 0 < width) :
    ∀ fuel capacity, 0 < capacity → need ≤ capacity * 2 ^ fuel →
      ∃ c, growCapacity width fuel capacity need = some c ∧ need ≤ c := by
  intro fuel
  induction fuel with
  | zero =>
    intro capacity _ h
    have : ¬capacity < need := by simpa using h
    exact ⟨capacity, by simp [growCapacity, this], by omega⟩
  | succ fuel ih =>
    intro capacity hpos h
    by_cases hlt : capacity < need
    · have hdouble : capacity * 2 < 2 ^ width := by
        have : 2 ^ width = 2 ^ (width - 1) * 2 := by
          rw [← pow_succ]; congr 1; omega
        omega
      simp only [growCapacity, hlt, if_true, Nat.mod_eq_of_lt hdouble]
      apply ih (capacity * 2) (by omega)
      rw [pow_succ] at h
      calc need ≤ capacity * (2 ^ fuel * 2) := h
        _ = capacity * 2 * 2 ^ fuel := by ring
    · exact ⟨capacity, by simp [growCapacity, hlt], by omega⟩

/-- What doubling from one arrives at, down to the zero that it wraps to. -/
def IsCapacity (width capacity : Nat) : Prop :=
  capacity = 0 ∨ ∃ j < width, capacity = 2 ^ j

section Capacity

variable {width capacity need : Nat}

lemma IsCapacity.le (h : IsCapacity width capacity) : capacity ≤ 2 ^ (width - 1) := by
  rcases h with rfl | ⟨j, hj, rfl⟩
  · exact Nat.zero_le _
  · exact Nat.pow_le_pow_right (by norm_num) (by omega)

lemma IsCapacity.double (h : IsCapacity width capacity) :
    IsCapacity width (capacity * 2 % 2 ^ width) := by
  rcases h with rfl | ⟨j, hj, rfl⟩
  · exact .inl (by simp)
  · rw [← pow_succ]
    by_cases hlast : j + 1 = width
    · exact .inl (by rw [hlast, Nat.mod_self])
    · have hlt : 2 ^ (j + 1) < 2 ^ width := Nat.pow_lt_pow_right (by norm_num) (by omega)
      exact .inr ⟨j + 1, by omega, Nat.mod_eq_of_lt hlt⟩

/-- Doubling never reaches more than half of the range. -/
lemma growCapacity_eq_none (hneed : 2 ^ (width - 1) < need) (fuel : Nat)
    (h : IsCapacity width capacity) : growCapacity width fuel capacity need = none := by
  induction fuel generalizing capacity with
  | zero =>
    have hlt : capacity < need := h.le.trans_lt hneed
    rw [growCapacity, if_pos hlt]
  | succ fuel ih =>
    have hlt : capacity < need := h.le.trans_lt hneed
    rw [growCapacity, if_pos hlt]
    exact ih h.double

lemma IsCapacity.grow (fuel : Nat) (h : IsCapacity width capacity) {c : Nat}
    (hgrow : growCapacity width fuel capacity need = some c) : IsCapacity width c ∧ need ≤ c := by
  induction fuel generalizing capacity with
  | zero =>
    rw [growCapacity] at hgrow
    split at hgrow
    · cases hgrow
    · rename_i hnot
      obtain rfl := Option.some.inj hgrow
      exact ⟨h, not_lt.1 hnot⟩
  | succ fuel ih =>
    rw [growCapacity] at hgrow
    split at hgrow
    · exact ih h.double hgrow
    · rename_i hnot
      obtain rfl := Option.some.inj hgrow
      exact ⟨h, not_lt.1 hnot⟩

end Capacity

namespace Shuffler

/-- The elements that can still be picked before the next refill. -/
def unused (s : Shuffler) : List Nat := (List.range s.entries).map s.data

@[simp] lemma length_unused (s : Shuffler) : s.unused.length = s.entries := by simp [unused]

/-- The last unused element takes the place of the one that is picked. -/
lemma pickAt_unused (s : Shuffler) (draw : Nat) (h : s.entries ≠ 0) :
    (s.pickAt draw).2.unused = swapRemove s.unused (draw % s.entries) := by
  obtain ⟨m, hm⟩ := Nat.exists_eq_succ_of_ne_zero h
  have hlast : s.unused.getLast? = some (s.data m) := by
    simp [unused, hm, List.range_succ]
  simp only [swapRemove, hlast]
  apply List.ext_getElem (by simp [pickAt, hm])
  intro i h1 h2
  simp only [unused, pickAt, hm, Nat.succ_ne_zero, if_false, Nat.succ_eq_add_one,
    Nat.add_sub_cancel, List.getElem_map, List.getElem_range, List.getElem_dropLast,
    List.getElem_set, Function.update_apply]
  simp only [eq_comm]

lemma pickAt_perm (s : Shuffler) (draw : Nat) (h : s.entries ≠ 0) :
    s.unused.Perm ((s.pickAt draw).1 :: (s.pickAt draw).2.unused) := by
  have hindex : draw % s.entries < s.unused.length := by
    rw [length_unused]
    exact Nat.mod_lt _ (Nat.pos_of_ne_zero h)
  have hpick : (s.pickAt draw).1 = s.unused[draw % s.entries] := by
    simp [pickAt, h, unused]
  rw [pickAt_unused s draw h, hpick]
  exact perm_cons_swapRemove hindex

lemma pick_perm (s : Shuffler) (h : s.entries ≠ 0) :
    s.unused.Perm (s.pick.1 :: s.pick.2.unused) :=
  pickAt_perm { s with rnd := s.rnd.next } s.rnd.next.state h

@[simp] lemma pick_entries (s : Shuffler) : s.pick.2.entries = s.entries - 1 := by
  by_cases h : s.entries = 0 <;> simp [pick, pickAt, note, h]

lemma pick_fault (s : Shuffler) :
    s.pick.2.fault = Fault.note s.fault (s.entries ≠ 0) .divisionByZero := by
  by_cases h : s.entries = 0 <;> simp [pick, pickAt, note, h]

lemma pickMany_perm (k : Nat) (s : Shuffler) (h : k ≤ s.entries) :
    s.unused.Perm ((s.pickMany k).1 ++ (s.pickMany k).2.unused) := by
  induction k generalizing s with
  | zero => simp [pickMany]
  | succ k ih =>
    have hne : s.entries ≠ 0 := by omega
    exact (s.pick_perm hne).trans ((ih s.pick.2 (by simp; omega)).cons _)

@[simp] lemma pickMany_entries (k : Nat) (s : Shuffler) :
    (s.pickMany k).2.entries = s.entries - k := by
  induction k generalizing s with
  | zero => rfl
  | succ k ih =>
    have hstep : (s.pickMany (k + 1)).2.entries = (s.pick.2.pickMany k).2.entries := rfl
    rw [hstep, ih, pick_entries]
    omega

@[simp] lemma length_pickMany (k : Nat) (s : Shuffler) : (s.pickMany k).1.length = k := by
  induction k generalizing s with
  | zero => rfl
  | succ k ih => exact congrArg (· + 1) (ih s.pick.2)

lemma pickMany_fault (k : Nat) (s : Shuffler) (h : k ≤ s.entries) :
    (s.pickMany k).2.fault = s.fault := by
  induction k generalizing s with
  | zero => rfl
  | succ k ih =>
    have hstep : (s.pickMany (k + 1)).2.fault = (s.pick.2.pickMany k).2.fault := rfl
    have hne : s.entries ≠ 0 := by omega
    rw [hstep, ih s.pick.2 (by simp; omega), pick_fault, decide_eq_true hne, Fault.note_true]

lemma entries_pickAt (s : Shuffler) (draw : Nat) : (s.pickAt draw).2.entries = s.entries - 1 := by
  by_cases h : s.entries = 0
  · simp [pickAt, note, h]
  · simp [pickAt, h]

/-- A shuffler between two messages' worth of picks: what is unused has no repetitions and
lies below the number of elements. -/
structure Valid (s : Shuffler) (total : Nat) : Prop where
  nodup : s.unused.Nodup
  lt : ∀ x ∈ s.unused, x < total
  fault : s.fault = none

@[simp] lemma unused_grow (s : Shuffler) (total : Nat) : (s.grow total).unused = s.unused := by
  unfold grow
  split
  · split
    · simp only [unused]
      apply List.map_congr_left
      intro i hi
      simp [List.mem_range.mp hi]
    · rfl
  · rfl

lemma grow_fault {s : Shuffler} {total : Nat} (htotal : total ≤ 2 ^ 31) :
    (s.grow total).fault = s.fault := by
  unfold grow
  split
  · obtain ⟨c, hc, _⟩ := growCapacity_spec 32 total (by simpa using htotal)
      (by norm_num) 32 (if s.capacity = 0 then 1 else s.capacity) (by split <;> omega)
      (htotal.trans (by split <;> omega))
    rw [hc]
  · rfl

@[simp] lemma grow_entries (s : Shuffler) (total : Nat) : (s.grow total).entries = s.entries := by
  rw [← length_unused, unused_grow, length_unused]

lemma unused_refill (s : Shuffler) (total : Nat) : (s.refill total).unused = List.range total := by
  simp only [unused, refill]
  conv_rhs => rw [← List.map_id (List.range total)]
  apply List.map_congr_left
  intro i hi
  simp [List.mem_range.mp hi]

@[simp] lemma unused_note (s : Shuffler) (ok : Bool) (f : Fault) : (s.note ok f).unused = s.unused :=
  rfl

/-- With too few entries a set is drawn from all elements. -/
lemma begin_of_few {s : Shuffler} (total : Nat) {selected : Nat} (h : s.entries < selected) :
    (s.begin total selected).unused = List.range total ∧ (s.begin total selected).entries = total := by
  have hlt : ((s.note (selected ≤ total) .assertion).grow total).entries < selected := by
    rw [grow_entries]
    exact h
  rw [begin, if_pos hlt]
  exact ⟨unused_refill _ _, rfl⟩

/-- With enough of them it is drawn from these. -/
lemma begin_of_enough {s : Shuffler} (total : Nat) {selected : Nat} (h : selected ≤ s.entries) :
    (s.begin total selected).unused = s.unused ∧ (s.begin total selected).entries = s.entries := by
  have hnot : ¬((s.note (selected ≤ total) .assertion).grow total).entries < selected := by
    rw [grow_entries]
    exact not_lt.2 h
  rw [begin, if_neg hnot, unused_grow, grow_entries]
  exact ⟨rfl, rfl⟩

lemma begin_valid {s : Shuffler} {total k : Nat} (h : s.Valid total) (htotal : total ≤ 2 ^ 31)
    (hk : k ≤ total) : (s.begin total k).Valid total ∧ k ≤ (s.begin total k).entries := by
  have hfault : ((s.note (decide (k ≤ total)) .assertion).grow total).fault = none := by
    rw [grow_fault htotal]
    simp [note, hk, h.fault]
  unfold begin
  simp only
  split
  · refine ⟨⟨?_, ?_, hfault⟩, hk⟩
    · rw [unused_refill]
      exact List.nodup_range
    · intro x hx
      rw [unused_refill] at hx
      exact List.mem_range.mp hx
  · rename_i hentries
    refine ⟨⟨?_, ?_, hfault⟩, by omega⟩
    · simpa using h.nodup
    · simpa using h.lt

/-- One index set: its elements are distinct and in range, and the shuffler is valid again. -/
lemma select_spec {s : Shuffler} {total k : Nat} (h : s.Valid total) (htotal : total ≤ 2 ^ 31)
    (hk : k ≤ total) :
    (s.select total k).1.Nodup ∧ (∀ x ∈ (s.select total k).1, x < total) ∧
      (s.select total k).2.Valid total := by
  obtain ⟨hvalid, hentries⟩ := begin_valid h htotal hk
  have hperm := pickMany_perm k (s.begin total k) hentries
  have hnodup := hperm.nodup_iff.mp hvalid.nodup
  have hlt : ∀ x ∈ (s.select total k).1 ++ (s.select total k).2.unused, x < total :=
    fun x hx => hvalid.lt x (hperm.mem_iff.mpr hx)
  refine ⟨hnodup.of_append_left, fun x hx => hlt x (List.mem_append_left _ hx),
    ⟨hnodup.of_append_right, fun x hx => hlt x (List.mem_append_right _ hx), ?_⟩⟩
  exact (pickMany_fault k _ hentries).trans hvalid.fault

lemma valid_of_flush (s : Shuffler) (seed total : Nat) : ((s.seed seed).flush).Valid total := by
  constructor <;> simp [unused, flush]

lemma after_valid {s : Shuffler} {total even odd : Nat} (h : s.Valid total)
    (htotal : total ≤ 2 ^ 31) {i : Nat} (hdegree : ∀ j < i, fecDegree even odd j ≤ total) :
    (s.after total even odd i).Valid total := by
  induction i with
  | zero => exact h
  | succ i ih =>
    exact (select_spec (ih fun j hj => hdegree j (by omega)) htotal (hdegree i (by omega))).2.2

/-! ### Independence of the history -/

/-- Two shufflers that will return the same picks. -/
structure Agree (s t : Shuffler) : Prop where
  rnd : s.rnd = t.rnd
  entries : s.entries = t.entries
  data : ∀ i < s.entries, s.data i = t.data i

lemma begin_rnd (s : Shuffler) (total selected : Nat) : (s.begin total selected).rnd = s.rnd := by
  have hgrow : ∀ u : Shuffler, (u.grow total).rnd = u.rnd := by
    intro u
    rw [grow]
    split
    · split <;> rfl
    · rfl
  rw [begin]
  split
  · exact hgrow _
  · exact hgrow _

lemma pick_rnd (s : Shuffler) : s.pick.2.rnd = s.rnd.next := by
  rw [pick, pickAt]
  split <;> rfl

section Congr

variable {s t : Shuffler}

lemma entries_eq_of_unused (h : s.unused = t.unused) : s.entries = t.entries := by
  rw [← s.length_unused, h, t.length_unused]

lemma begin_unused (h : s.unused = t.unused) (total selected : Nat) :
    (s.begin total selected).unused = (t.begin total selected).unused := by
  have hentries := entries_eq_of_unused h
  rcases lt_or_ge s.entries selected with hfew | henough
  · rw [(begin_of_few total hfew).1, (begin_of_few total (hentries ▸ hfew)).1]
  · rw [(begin_of_enough total henough).1, (begin_of_enough total (hentries ▸ henough)).1, h]

lemma pickAt_congr (h : s.unused = t.unused) (draw : Nat) :
    (s.pickAt draw).1 = (t.pickAt draw).1 ∧ (s.pickAt draw).2.unused = (t.pickAt draw).2.unused := by
  have hentries := entries_eq_of_unused h
  by_cases hzero : s.entries = 0
  · have hzero' : t.entries = 0 := hentries ▸ hzero
    rw [pickAt, pickAt, if_pos hzero, if_pos hzero']
    exact ⟨rfl, h⟩
  · have hzero' : t.entries ≠ 0 := hentries ▸ hzero
    have hindex : draw % s.entries < s.entries := Nat.mod_lt _ (Nat.pos_of_ne_zero hzero)
    have hdata : s.unused[draw % s.entries]? = t.unused[draw % s.entries]? := by rw [h]
    constructor
    · simpa [unused, hindex, pickAt, hzero, hzero', hentries ▸ hindex, ← hentries] using hdata
    · rw [pickAt_unused s draw hzero, pickAt_unused t draw hzero', h, hentries]

/-- Apart from the generator, picks depend on what is unused and nothing else. -/
lemma pick_congr (hrnd : s.rnd = t.rnd) (h : s.unused = t.unused) :
    s.pick.1 = t.pick.1 ∧ s.pick.2.unused = t.pick.2.unused := by
  have hpick := pickAt_congr (s := { s with rnd := s.rnd.next }) (t := { t with rnd := s.rnd.next })
    h s.rnd.next.state
  rw [pick, pick, ← hrnd]
  exact hpick

lemma Agree.unused (h : Agree s t) : s.unused = t.unused := by
  rw [Shuffler.unused, Shuffler.unused, ← h.entries]
  exact List.map_congr_left fun i hi => h.data i (List.mem_range.1 hi)

lemma agree_of_unused (hrnd : s.rnd = t.rnd) (h : s.unused = t.unused) : Agree s t := by
  have hentries := entries_eq_of_unused h
  refine ⟨hrnd, hentries, fun i hi => ?_⟩
  have hdata : s.unused[i]? = t.unused[i]? := by rw [h]
  simpa [unused, hi, hentries ▸ hi] using hdata

lemma Agree.pick (h : Agree s t) : s.pick.1 = t.pick.1 ∧ Agree s.pick.2 t.pick.2 := by
  obtain ⟨hpicked, hunused⟩ := pick_congr h.rnd h.unused
  refine ⟨hpicked, agree_of_unused ?_ hunused⟩
  rw [pick_rnd, pick_rnd, h.rnd]

lemma Agree.begin (h : Agree s t) (total k : Nat) : Agree (s.begin total k) (t.begin total k) := by
  refine agree_of_unused ?_ (begin_unused h.unused total k)
  rw [begin_rnd, begin_rnd, h.rnd]

end Congr

lemma Agree.pickMany {s t : Shuffler} (h : Agree s t) (k : Nat) :
    (s.pickMany k).1 = (t.pickMany k).1 ∧ Agree (s.pickMany k).2 (t.pickMany k).2 := by
  induction k generalizing s t with
  | zero => exact ⟨rfl, h⟩
  | succ k ih =>
    obtain ⟨hhead, htail⟩ := h.pick
    obtain ⟨hlist, hagree⟩ := ih htail
    refine ⟨?_, hagree⟩
    exact congrArg₂ List.cons hhead hlist

lemma Agree.trans {s t u : Shuffler} (h : Agree s t) (h' : Agree t u) : Agree s u :=
  ⟨h.rnd.trans h'.rnd, h.entries.trans h'.entries,
    fun i hi => (h.data i hi).trans (h'.data i (h.entries ▸ hi))⟩

lemma Agree.symm {s t : Shuffler} (h : Agree s t) : Agree t s :=
  ⟨h.rnd.symm, h.entries.symm, fun i hi => (h.data i (h.entries ▸ hi)).symm⟩

lemma Agree.select {s t : Shuffler} (h : Agree s t) (total k : Nat) :
    (s.select total k).1 = (t.select total k).1 ∧
      Agree (s.select total k).2 (t.select total k).2 :=
  (h.begin total k).pickMany k

lemma Agree.after {s t : Shuffler} (h : Agree s t) (n even odd i : Nat) :
    Agree (s.after n even odd i) (t.after n even odd i) := by
  induction i with
  | zero => exact h
  | succ i ih => exact (ih.select n (fecDegree even odd i)).2

lemma Agree.indices {s t : Shuffler} (h : Agree s t) (n even odd i : Nat) :
    s.indices n even odd i = t.indices n even odd i :=
  ((h.after n even odd i).select n (fecDegree even odd i)).1

/-- After a `flush` and a `seed`, in either order, the history is forgotten. -/
lemma seed_flush_agree (s t : Shuffler) (seed : Nat) :
    Agree (s.seed seed).flush (t.flush.seed seed) :=
  ⟨rfl, rfl, fun i hi => absurd hi (by simp [flush])⟩

end Shuffler

/-- The index set of FEC block `i`, as every freshly seeded shuffler draws it. -/
def fecIndices (seed n even odd i : Nat) : List Nat :=
  ((({} : Shuffler).seed seed).flush).indices n even odd i

lemma fecIndices_of_flush (s : Shuffler) (seed n even odd i : Nat) :
    ((s.seed seed).flush).indices n even odd i = fecIndices seed n even odd i :=
  ((s.seed_flush_agree {} seed).trans
    (({} : Shuffler).seed_flush_agree {} seed).symm).indices n even odd i

lemma length_fecIndices (seed n even odd i : Nat) :
    (fecIndices seed n even odd i).length = fecDegree even odd i :=
  Shuffler.length_pickMany _ _

lemma fecDegree_le {n even odd : Nat} (heven : even ≤ n) (hodd : odd ≤ n) (i : Nat) :
    fecDegree even odd i ≤ n := by
  unfold fecDegree
  split <;> assumption

lemma fecIndices_spec {n even odd i : Nat} (hn : n ≤ 2 ^ 31)
    (hdegree : ∀ j ≤ i, fecDegree even odd j ≤ n) (seed : Nat) :
    (fecIndices seed n even odd i).Nodup ∧ ∀ x ∈ fecIndices seed n even odd i, x < n := by
  have hvalid := Shuffler.after_valid (Shuffler.valid_of_flush {} seed n) hn
    fun j hj => hdegree j (Nat.le_of_lt hj)
  obtain ⟨hnodup, hlt, _⟩ := Shuffler.select_spec hvalid hn (hdegree i le_rfl)
  exact ⟨hnodup, hlt⟩

end PyroFling
