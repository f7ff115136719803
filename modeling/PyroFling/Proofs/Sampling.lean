import PyroFling.Library.Runs
import PyroFling.Library.Urn
import PyroFling.Proofs.Shuffle

/-!
# Runs of a shuffler

Every run of a `Shuffler` is a run of an urn: `begin` fills it with all elements when fewer than it needs are
left, `pick` draws from it, `flush` discards what is left. So nothing is picked twice between two refills,
whatever the generator returns. What a shuffler did before it was flushed and seeded shows in no later pick.
-/

namespace PyroFling
open Runs

/-- The calls of the member functions. -/
inductive ShufflerCall
  | seed (seed : Nat)
  | flush
  | begin (totalElements selectedElements : Nat)
  | pick
  deriving DecidableEq, Repr

namespace Shuffler

/-- A call, and what it returns. A pick moves the generator to `rnd`, whose state is the outcome. -/
def call (s : Shuffler) (rnd : MinstdRand) : ShufflerCall → Option Nat × Shuffler
  | .seed seed => (none, s.seed seed)
  | .flush => (none, s.flush)
  | .begin totalElements selectedElements => (none, s.begin totalElements selectedElements)
  | .pick =>
    let (x, s) := ({ s with rnd := rnd }).pickAt rnd.state
    (some x, s)

/-- A call with the shuffler's own generator. -/
def next (s : Shuffler) (c : ShufflerCall) : Shuffler := (s.call s.rnd.next c).2

def picked (s : Shuffler) (c : ShufflerCall) : Option Nat := (s.call s.rnd.next c).1

variable {s t : Shuffler} {total selected : Nat}

/-! ### The room for the elements -/

/-- There is room for as many elements as doubling can reach, and none of it is ever given up. -/
lemma grow_room (h : IsCapacity 32 s.capacity) (total : Nat) :
    IsCapacity 32 (s.grow total).capacity ∧ s.capacity ≤ (s.grow total).capacity ∧
      (total ≤ 2 ^ 31 → total ≤ (s.grow total).capacity) ∧
      (s.grow total).fault = Fault.note s.fault (total ≤ 2 ^ 31) .divergence := by
  have hmax : s.capacity ≤ 2 ^ 31 := h.le
  have hstart : IsCapacity 32 (if s.capacity = 0 then 1 else s.capacity) := by
    split
    · exact .inr ⟨0, by norm_num, rfl⟩
    · exact h
  unfold grow
  by_cases hlt : s.capacity < total
  · rw [if_pos hlt]
    by_cases htotal : total ≤ 2 ^ 31
    · obtain ⟨c, hc, -⟩ := growCapacity_spec 32 total htotal (by norm_num) 32
        (if s.capacity = 0 then 1 else s.capacity) (by split <;> omega)
        (htotal.trans (by split <;> omega))
      obtain ⟨hcapacity, hneed⟩ := hstart.grow 32 hc
      rw [hc]
      refine ⟨hcapacity, hlt.le.trans hneed, fun _ => hneed, ?_⟩
      rw [decide_eq_true htotal, Fault.note_true]
    · rw [growCapacity_eq_none (not_le.1 htotal) 32 hstart]
      refine ⟨h, le_rfl, fun hle => absurd hle htotal, ?_⟩
      rw [decide_eq_false htotal]
      rfl
  · have htotal : total ≤ s.capacity := not_lt.1 hlt
    rw [if_neg hlt]
    refine ⟨h, le_rfl, fun _ => htotal, ?_⟩
    rw [decide_eq_true (htotal.trans hmax), Fault.note_true]

lemma begin_room (h : IsCapacity 32 s.capacity) (total selected : Nat) :
    IsCapacity 32 (s.begin total selected).capacity ∧ s.capacity ≤ (s.begin total selected).capacity ∧
      (total ≤ 2 ^ 31 → total ≤ (s.begin total selected).capacity) ∧
      (s.begin total selected).fault =
        Fault.note (Fault.note s.fault (selected ≤ total) .assertion) (total ≤ 2 ^ 31) .divergence := by
  have hgrow := grow_room (s := s.note (selected ≤ total) .assertion) h total
  rw [begin]
  split
  · exact hgrow
  · exact hgrow

lemma pickAt_room (s : Shuffler) (draw : Nat) : (s.pickAt draw).2.capacity = s.capacity := by
  by_cases h : s.entries = 0
  · simp [pickAt, note, h]
  · simp [pickAt, h]

lemma next_room (h : IsCapacity 32 s.capacity) (c : ShufflerCall) : IsCapacity 32 (s.next c).capacity := by
  cases c with
  | seed seed => exact h
  | flush => exact h
  | begin total selected => exact (begin_room h total selected).1
  | pick =>
    change IsCapacity 32 (({ s with rnd := s.rnd.next }).pickAt s.rnd.next.state).2.capacity
    rw [pickAt_room]
    exact h

lemma room_of_history (history : List ShufflerCall) : IsCapacity 32 (history.foldl next {}).capacity := by
  have hall : Along next (fun _ _ => True) ({} : Shuffler) history := Along.of_forall fun _ _ => trivial
  exact hall.invariant (I := fun s => IsCapacity 32 s.capacity) (.inl rfl) fun s c h _ => next_room h c

lemma call_pick (rnd : MinstdRand) (h : s.entries ≠ 0) : ∃ x t, s.call rnd .pick = (some x, t) ∧
    s.unused.Perm (x :: t.unused) ∧ t.entries = s.entries - 1 ∧ t.capacity = s.capacity ∧
      t.fault = s.fault := by
  have hfault : (({ s with rnd := rnd }).pickAt rnd.state).2.fault = s.fault := by simp [pickAt, h]
  exact ⟨_, _, rfl, pickAt_perm { s with rnd := rnd } rnd.state h, entries_pickAt _ _, pickAt_room _ _, hfault⟩

end Shuffler

/-! ### A run beside an urn -/

/-- A shuffler, the urn that it stands for, the number of elements since the last `flush`, the picks that
the last `begin` is still made for, and those that it has been used for. -/
structure Sampling where
  shuffler : Shuffler := {}
  urn : Urn Nat := {}
  total : Option Nat := none
  owed : Nat := 0
  set : List Nat := []

namespace Sampling

/-- The elements have been written again. -/
def Refills (r : Sampling) (e : ShufflerCall × MinstdRand) : Prop :=
  r.shuffler.entries < (r.shuffler.call e.2 e.1).2.entries

instance (r : Sampling) (e : ShufflerCall × MinstdRand) : Decidable (r.Refills e) :=
  inferInstanceAs (Decidable (_ < _))

/-- A call, with the state that the generator moves to if it is a pick. The urn follows what is seen of
the shuffler: the refills and the picks. -/
def step (r : Sampling) (e : ShufflerCall × MinstdRand) : Sampling :=
  let (picked, s) := r.shuffler.call e.2 e.1
  match e.1 with
  | .seed _ => { r with shuffler := s }
  | .flush => { shuffler := s, urn := r.urn.discard }
  | .begin totalElements selectedElements =>
    { shuffler := s
      urn := if r.Refills e then r.urn.fill (.range totalElements) else r.urn
      total := some totalElements
      owed := selectedElements }
  | .pick =>
    { r with
      shuffler := s
      urn := picked.elim r.urn r.urn.draw
      owed := r.owed - 1
      set := picked.toList ++ r.set }

/-- The number of elements is fixed until the next `flush`, and a `begin` for `k` of them is followed by no
more than `k` picks. -/
def Legal (r : Sampling) (e : ShufflerCall × MinstdRand) : Prop :=
  match e.1 with
  | .seed _ => True
  | .flush => True
  | .begin totalElements selectedElements =>
    selectedElements ≤ totalElements ∧ ∀ total ∈ r.total, total = totalElements
  | .pick => 0 < r.owed

instance (r : Sampling) : (e : ShufflerCall × MinstdRand) → Decidable (r.Legal e)
  | (.seed _, _) => .isTrue trivial
  | (.flush, _) => .isTrue trivial
  | (.begin _ _, _) => inferInstanceAs (Decidable (_ ∧ _))
  | (.pick, _) => inferInstanceAs (Decidable (_ < _))

/-- Doubling can make room for the elements. -/
def Roomy (r : Sampling) : Prop := ∀ total ∈ r.total, total ≤ 2 ^ 31

instance (r : Sampling) : Decidable r.Roomy := inferInstanceAs (Decidable (∀ total ∈ r.total, _))

/-- The shuffler stands for the urn: its first entries are what is left. -/
structure Sound (r : Sampling) : Prop where
  urn : r.urn.Sound
  grounds : ∀ round ∈ r.urn.rounds, round.ground.Nodup
  unused : (r.shuffler.unused : Multiset Nat) = r.urn.left
  below : ∀ x ∈ r.urn.left, ∃ total ∈ r.total, x < total
  set : (r.set + r.urn.left : Multiset Nat).Nodup
  owed : r.owed ≤ r.shuffler.entries
  capacity : IsCapacity 32 r.shuffler.capacity
  inside : r.Roomy → r.shuffler.entries ≤ r.shuffler.capacity
  fault : r.shuffler.fault = if r.Roomy then none else some .divergence

variable {r : Sampling}

lemma sound_new : ({} : Sampling).Sound where
  urn := Urn.sound_new
  grounds _ h := absurd h List.not_mem_nil
  unused := rfl
  below _ h := absurd h (Multiset.notMem_zero _)
  set := Multiset.nodup_zero
  owed := le_rfl
  capacity := .inl rfl
  inside _ := le_rfl
  fault := rfl

lemma Sound.card_left (h : r.Sound) : r.urn.left.card = r.shuffler.entries := by
  rw [← h.unused, Multiset.coe_card, Shuffler.length_unused]

lemma Sound.flush (h : r.Sound) (rnd : MinstdRand) : (r.step (.flush, rnd)).Sound where
  urn := h.urn.discard
  grounds := h.grounds
  unused := rfl
  below _ hx := absurd hx (Multiset.notMem_zero _)
  set := Multiset.nodup_zero
  owed := le_rfl
  capacity := h.capacity
  inside _ := Nat.zero_le _
  fault := rfl

lemma Sound.nodup_left (h : r.Sound) : r.urn.left.Nodup :=
  Multiset.nodup_of_le (Multiset.le_add_left _ _) h.set

lemma step_begin (total selected : Nat) (rnd : MinstdRand) : r.step (.begin total selected, rnd) =
    { shuffler := r.shuffler.begin total selected
      urn := if r.Refills (.begin total selected, rnd) then r.urn.fill (.range total) else r.urn
      total := some total
      owed := selected } := rfl

lemma Sound.begin (h : r.Sound) {total selected : Nat} (hk : selected ≤ total)
    (hfixed : ∀ n ∈ r.total, n = total) (rnd : MinstdRand) : (r.step (.begin total selected, rnd)).Sound := by
  obtain ⟨hcapacity, hgrown, hroom, hfault⟩ := Shuffler.begin_room h.capacity total selected
  rw [decide_eq_true hk, Fault.note_true, h.fault] at hfault
  have hroomy : total ≤ 2 ^ 31 → r.Roomy := fun hle n hn => (hfixed n hn).trans_le hle
  have hsound : ∀ urn : Urn Nat, urn.Sound → (∀ round ∈ urn.rounds, round.ground.Nodup) →
      ((r.shuffler.begin total selected).unused : Multiset Nat) = urn.left → urn.left.Nodup →
      (∀ x ∈ urn.left, x < total) → selected ≤ (r.shuffler.begin total selected).entries →
      (total ≤ 2 ^ 31 →
        (r.shuffler.begin total selected).entries ≤ (r.shuffler.begin total selected).capacity) →
      Sound {
        shuffler := r.shuffler.begin total selected
        urn := urn
        total := some total
        owed := selected } := by
    intro urn hurn hgrounds hunused hnodup hbelow howed hinside
    have hfits : Roomy {
        shuffler := r.shuffler.begin total selected
        urn := urn
        total := some total
        owed := selected } ↔ total ≤ 2 ^ 31 :=
      ⟨fun hall => hall total rfl, fun hle n hn => (Option.some.inj hn).symm.trans_le hle⟩
    refine ⟨hurn, hgrounds, hunused, fun x hx => ⟨total, rfl, hbelow x hx⟩, ?_, howed, hcapacity,
      fun hall => hinside (hfits.1 hall), ?_⟩
    · exact (zero_add urn.left).symm ▸ hnodup
    · change (r.shuffler.begin total selected).fault = _
      rw [hfault]
      by_cases hle : total ≤ 2 ^ 31
      · rw [if_pos (hroomy hle), if_pos (hfits.2 hle), decide_eq_true hle, Fault.note_true]
      · rw [if_neg fun hall => hle (hfits.1 hall), decide_eq_false hle]
        split <;> rfl
  rw [step_begin]
  rcases lt_or_ge r.shuffler.entries selected with hfew | henough
  · obtain ⟨hunused, hentries⟩ := Shuffler.begin_of_few total hfew
    have hrefills : r.Refills (.begin total selected, rnd) := by
      change r.shuffler.entries < (r.shuffler.begin total selected).entries
      omega
    have hgrounds : ∀ round ∈ (r.urn.fill (.range total)).rounds, round.ground.Nodup := by
      intro round hround
      rcases List.mem_cons.1 hround with rfl | hround
      · exact Multiset.nodup_range total
      · exact h.grounds round hround
    rw [if_pos hrefills]
    exact hsound _ (h.urn.fill _) hgrounds (congrArg _ hunused) (Multiset.nodup_range total)
      (fun x hx => Multiset.mem_range.1 hx) (hk.trans hentries.ge)
      fun hle => hentries.trans_le (hroom hle)
  · obtain ⟨hunused, hentries⟩ := Shuffler.begin_of_enough total henough
    have hkeeps : ¬r.Refills (.begin total selected, rnd) := by
      change ¬r.shuffler.entries < (r.shuffler.begin total selected).entries
      omega
    have hbelow : ∀ x ∈ r.urn.left, x < total := by
      intro x hx
      obtain ⟨n, hn, hlt⟩ := h.below x hx
      exact hfixed n hn ▸ hlt
    rw [if_neg hkeeps]
    exact hsound _ h.urn h.grounds ((congrArg _ hunused).trans h.unused) h.nodup_left hbelow
      (henough.trans hentries.ge)
      fun hle => hentries.trans_le ((h.inside (hroomy hle)).trans hgrown)

lemma Sound.entries_ne_zero (h : r.Sound) (howed : 0 < r.owed) : r.shuffler.entries ≠ 0 :=
  (howed.trans_le h.owed).ne'

/-- What is picked was left in the urn. -/
lemma Sound.left_of_perm (h : r.Sound) {x : Nat} {s : Shuffler}
    (hperm : r.shuffler.unused.Perm (x :: s.unused)) : r.urn.left = x ::ₘ s.unused := by
  rw [← h.unused, Multiset.cons_coe]
  exact Multiset.coe_eq_coe.2 hperm

lemma Sound.pick (h : r.Sound) (howed : 0 < r.owed) (rnd : MinstdRand) : (r.step (.pick, rnd)).Sound := by
  obtain ⟨x, s, hcall, hperm, hentries, hcapacity, hfault⟩ :=
    Shuffler.call_pick rnd (h.entries_ne_zero howed)
  have hstep : r.step (.pick, rnd) =
      { r with shuffler := s, urn := r.urn.draw x, owed := r.owed - 1, set := x :: r.set } := by
    simp only [Sampling.step, hcall]
    rfl
  have hleft := h.left_of_perm hperm
  have hx : x ∈ r.urn.left := hleft ▸ Multiset.mem_cons_self x _
  have hunused : r.urn.left.erase x = s.unused := by rw [hleft, Multiset.erase_cons_head]
  rw [hstep]
  refine ⟨h.urn.draw hx, Urn.forall_ground_draw h.grounds x, hunused.symm,
    fun y hy => h.below y (Multiset.mem_of_mem_erase hy), ?_, ?_, ?_, fun hroomy => ?_, hfault.trans h.fault⟩
  · change (↑(x :: r.set) + r.urn.left.erase x : Multiset Nat).Nodup
    have hset := h.set
    rwa [← Multiset.cons_erase hx, Multiset.add_cons, ← Multiset.cons_add, Multiset.cons_coe] at hset
  · have howed := h.owed
    change r.owed - 1 ≤ s.entries
    omega
  · change IsCapacity 32 s.capacity
    rw [hcapacity]
    exact h.capacity
  · have hinside := h.inside hroomy
    change s.entries ≤ s.capacity
    omega

lemma Sound.step (h : r.Sound) {e : ShufflerCall × MinstdRand} (he : r.Legal e) : (r.step e).Sound := by
  obtain ⟨c, rnd⟩ := e
  cases c with
  | seed seed => exact ⟨h.urn, h.grounds, h.unused, h.below, h.set, h.owed, h.capacity, h.inside, h.fault⟩
  | flush => exact h.flush rnd
  | begin total selected => exact h.begin he.1 he.2 rnd
  | pick => exact h.pick he rnd

/-- What sampling without replacement asks of a call. The picks between two refills are a round of the urn,
and those since the last `begin` are its set. -/
structure Checks (r : Sampling) (e : ShufflerCall × MinstdRand) : Prop where
  below : ∀ x ∈ (r.shuffler.call e.2 e.1).1, ∃ total ∈ r.total, x < total
  rounds : ∀ round ∈ (r.step e).urn.rounds, round.drawn.Nodup
  set : (r.step e).set.Nodup
  refills : r.Refills e ↔ ∃ total selected, e.1 = .begin total selected ∧ r.urn.left.card < selected
  unused : ((r.step e).shuffler.unused : Multiset Nat) = (r.step e).urn.left
  grows : ∀ total, (r.shuffler.grow total).unused = r.shuffler.unused
  keeps : ∀ total selected, e.1 = .begin total selected → ¬r.Refills e →
    (r.step e).shuffler.unused = r.shuffler.unused
  fault : (r.step e).shuffler.fault = if (r.step e).Roomy then none else some .divergence

lemma Sound.refills_begin (h : r.Sound) {total selected : Nat} (hk : selected ≤ total) (rnd : MinstdRand) :
    r.Refills (.begin total selected, rnd) ↔ r.urn.left.card < selected := by
  rw [h.card_left]
  change r.shuffler.entries < (r.shuffler.begin total selected).entries ↔ _
  rcases lt_or_ge r.shuffler.entries selected with hfew | henough
  · rw [(Shuffler.begin_of_few total hfew).2]
    exact ⟨fun _ => hfew, fun _ => hfew.trans_le hk⟩
  · rw [(Shuffler.begin_of_enough total henough).2]
    exact ⟨fun hlt => absurd hlt (lt_irrefl _), fun hlt => absurd hlt (not_lt.2 henough)⟩

/-- Only a `begin` makes entries. -/
lemma Refills.exists_begin {e : ShufflerCall × MinstdRand} (h : r.Refills e) :
    ∃ total selected, e.1 = .begin total selected := by
  obtain ⟨c, rnd⟩ := e
  cases c with
  | seed seed => exact absurd h (lt_irrefl _)
  | flush => exact absurd h (Nat.not_lt_zero _)
  | begin total selected => exact ⟨total, selected, rfl⟩
  | pick =>
    change r.shuffler.entries < (({ r.shuffler with rnd := rnd }).pickAt rnd.state).2.entries at h
    rw [Shuffler.entries_pickAt] at h
    exact absurd h (not_lt.2 (Nat.sub_le _ _))

lemma Sound.checks (h : r.Sound) {e : ShufflerCall × MinstdRand} (he : r.Legal e) : r.Checks e := by
  have hstep := h.step he
  refine ⟨fun x hx => ?_, fun round hround => hstep.urn.nodup hround (hstep.grounds round hround), ?_, ?_,
    hstep.unused, fun total => Shuffler.unused_grow _ total, fun total selected hbegin hkeeps => ?_, hstep.fault⟩
  · obtain ⟨c, rnd⟩ := e
    cases c with
    | seed seed => cases hx
    | flush => cases hx
    | begin total selected => cases hx
    | pick =>
      obtain ⟨y, s, hcall, hperm, -⟩ := Shuffler.call_pick rnd (h.entries_ne_zero he)
      rw [hcall] at hx
      obtain rfl := Option.some.inj hx
      exact h.below y (h.left_of_perm hperm ▸ Multiset.mem_cons_self y _)
  · exact Multiset.coe_nodup.1 (Multiset.nodup_of_le (Multiset.le_add_right _ _) hstep.set)
  · constructor
    · intro hrefills
      obtain ⟨total, selected, hbegin⟩ := hrefills.exists_begin
      obtain ⟨c, rnd⟩ := e
      cases hbegin
      exact ⟨total, selected, rfl, (h.refills_begin he.1 rnd).1 hrefills⟩
    · rintro ⟨total, selected, hbegin, hfew⟩
      obtain ⟨c, rnd⟩ := e
      cases hbegin
      exact (h.refills_begin he.1 rnd).2 hfew
  · obtain ⟨c, rnd⟩ := e
    cases hbegin
    rw [h.refills_begin he.1 rnd, h.card_left] at hkeeps
    exact (Shuffler.begin_of_enough total (not_lt.1 hkeeps)).1

end Sampling

/-! ### What the picks depend on -/

/-- Whether all shufflers that make these calls are in one state of the generator, and whether the same
elements are unused in them. -/
def settle : Bool × Bool → ShufflerCall → Bool × Bool
  | (_, unused), .seed _ => (true, unused)
  | (rnd, _), .flush => (rnd, true)
  | known, .begin _ _ => known
  | (rnd, unused), .pick => (rnd, rnd && unused)

/-- The calls since the last `flush` and `seed`, with these two among them. Where the `flush` comes first,
nothing is picked until the `seed`. -/
def Settled (since : List ShufflerCall) : Prop := since.foldl settle (false, false) = (true, true)

instance (since : List ShufflerCall) : Decidable (Settled since) := inferInstanceAs (Decidable (_ = _))

namespace Shuffler

variable {s t : Shuffler}

/-- Two shufflers that are alike as far as it is known. -/
structure Known (known : Bool × Bool) (s t : Shuffler) : Prop where
  rnd : known.1 = true → s.rnd = t.rnd
  unused : known.2 = true → s.unused = t.unused ∧ s.fault = t.fault
  left : IsCapacity 32 s.capacity
  right : IsCapacity 32 t.capacity

variable {known : Bool × Bool}

lemma Known.next (h : Known known s t) (c : ShufflerCall) : Known (settle known c) (s.next c) (t.next c) := by
  refine ⟨fun hrnd => ?_, fun hunused => ?_, next_room h.left c, next_room h.right c⟩
  · cases c with
    | seed seed => rfl
    | flush => exact h.rnd hrnd
    | begin total selected => exact (begin_rnd s total selected).trans ((h.rnd hrnd).trans (begin_rnd t _ _).symm)
    | pick => exact (pick_rnd s).trans ((congrArg _ (h.rnd hrnd)).trans (pick_rnd t).symm)
  · cases c with
    | seed seed => exact h.unused hunused
    | flush => exact ⟨rfl, rfl⟩
    | begin total selected =>
      obtain ⟨hsame, hfault⟩ := h.unused hunused
      refine ⟨begin_unused hsame total selected, ?_⟩
      change (s.begin total selected).fault = (t.begin total selected).fault
      rw [(begin_room h.left total selected).2.2.2, (begin_room h.right total selected).2.2.2, hfault]
    | pick =>
      obtain ⟨hrnd, hknown⟩ := Bool.and_eq_true_iff.1 hunused
      obtain ⟨hsame, hfault⟩ := h.unused hknown
      refine ⟨(pick_congr (h.rnd hrnd) hsame).2, ?_⟩
      change s.pick.2.fault = t.pick.2.fault
      rw [pick_fault, pick_fault, hfault, entries_eq_of_unused hsame]

lemma Known.run (h : Known known s t) (calls : List ShufflerCall) :
    Known (calls.foldl settle known) (calls.foldl Shuffler.next s) (calls.foldl Shuffler.next t) := by
  induction calls generalizing known s t with
  | nil => exact h
  | cons c calls ih => exact ih (h.next c)

lemma settle_known (c : ShufflerCall) : settle (true, true) c = (true, true) := by
  cases c <;> rfl

lemma Known.run_known (h : Known (true, true) s t) (calls : List ShufflerCall) :
    Known (true, true) (calls.foldl Shuffler.next s) (calls.foldl Shuffler.next t) := by
  induction calls generalizing s t with
  | nil => exact h
  | cons c calls ih => exact ih (settle_known c ▸ h.next c)

lemma Known.observed (h : Known (true, true) s t) (calls : List ShufflerCall) :
    observed Shuffler.next picked s calls = observed Shuffler.next picked t calls := by
  induction calls generalizing s t with
  | nil => rfl
  | cons c calls ih =>
    have hpicked : s.picked c = t.picked c := by
      cases c with
      | seed seed => rfl
      | flush => rfl
      | begin total selected => rfl
      | pick => exact congrArg some (pick_congr (h.rnd rfl) (h.unused rfl).1).1
    have hrest := ih (settle_known c ▸ h.next c)
    rw [Runs.observed, Runs.observed, hpicked, hrest]

end Shuffler

/-- The same calls since the last `flush` and `seed`. Next to each other the two may stand in either order,
as they do in the encoder and in the decoder. -/
def SameSince (since since' : List ShufflerCall) : Prop :=
  since = since' ∧ Settled since ∨
    ∃ seed calls, since = .flush :: .seed seed :: calls ∧ since' = .seed seed :: .flush :: calls

lemma SameSince.known {since since' : List ShufflerCall} (h : SameSince since since') {s t : Shuffler}
    (hs : IsCapacity 32 s.capacity) (ht : IsCapacity 32 t.capacity) :
    Shuffler.Known (true, true) (since.foldl Shuffler.next s) (since'.foldl Shuffler.next t) := by
  rcases h with ⟨rfl, hsettled⟩ | ⟨seed, calls, rfl, rfl⟩
  · have hnothing : Shuffler.Known (false, false) s t :=
      ⟨fun hfalse => absurd hfalse Bool.false_ne_true, fun hfalse => absurd hfalse Bool.false_ne_true, hs, ht⟩
    have hrun := hnothing.run since
    rwa [hsettled] at hrun
  · have hreset : Shuffler.Known (true, true) (s.flush.seed seed) ((t.seed seed).flush) :=
      ⟨fun _ => rfl, fun _ => ⟨rfl, rfl⟩, hs, ht⟩
    exact hreset.run_known calls

/-- A shuffler samples without replacement: picks are below the number of elements, none is repeated before
the elements are written again, and this happens in a `begin` that finds too few of them left and nowhere
else. The picks after a `flush` and a `seed` do not depend on what came before. -/
theorem sampling_without_replacement {events : List (ShufflerCall × MinstdRand)}
    (hrun : Along Sampling.step Sampling.Legal {} events) {since since' : List ShufflerCall}
    (hsame : SameSince since since') (before before' calls : List ShufflerCall) :
    Along Sampling.step Sampling.Checks {} events ∧
      observed Shuffler.next Shuffler.picked ((before ++ since).foldl Shuffler.next {}) calls =
        observed Shuffler.next Shuffler.picked ((before' ++ since').foldl Shuffler.next {}) calls ∧
      (calls.foldl Shuffler.next ((before ++ since).foldl Shuffler.next {})).fault =
        (calls.foldl Shuffler.next ((before' ++ since').foldl Shuffler.next {})).fault := by
  have hchecks : Along Sampling.step Sampling.Checks {} events :=
    hrun.imp Sampling.sound_new (fun r e hr he => hr.step he) fun r e hr he => hr.checks he
  have hknown := hsame.known (Shuffler.room_of_history before) (Shuffler.room_of_history before')
  rw [List.foldl_append, List.foldl_append]
  exact ⟨hchecks, hknown.observed calls, ((hknown.run_known calls).unused rfl).2⟩

/-- Three picks of five and three more, for which the two that are left do not suffice. -/
def twoSets : List (ShufflerCall × MinstdRand) :=
  [(.flush, {}), (.begin 5 3, {}), (.pick, ⟨7⟩), (.pick, ⟨7⟩), (.pick, ⟨0⟩), (.begin 5 3, {}),
    (.pick, ⟨4⟩), (.pick, ⟨1⟩), (.pick, ⟨1⟩)]

theorem sampling_twoSets :
    Along Sampling.step Sampling.Legal {} twoSets ∧ Along Sampling.step Sampling.Checks {} twoSets ∧
      observed Shuffler.next Shuffler.picked
          ([.begin 9 4, .pick, .pick, .flush, .seed 7].foldl Shuffler.next {}) [.begin 5 2, .pick, .pick] =
        observed Shuffler.next Shuffler.picked
          ([.seed 3, .seed 7, .flush].foldl Shuffler.next {}) [.begin 5 2, .pick, .pick] := by
  have hrun : Along Sampling.step Sampling.Legal {} twoSets := by decide
  have hsame : SameSince [.flush, .seed 7] [.seed 7, .flush] := .inr ⟨7, [], rfl, rfl⟩
  obtain ⟨hchecks, hpicks, -⟩ :=
    sampling_without_replacement hrun hsame [.begin 9 4, .pick, .pick] [.seed 3] [.begin 5 2, .pick, .pick]
  exact ⟨hrun, hchecks, hpicks⟩

end PyroFling
