import PyroFling.Proofs.IndexUnwrapping
import PyroFling.Proofs.PacketRoundTrip

/-!
# What the FEC blocks cover

A block of an even index takes about half of the data blocks, and the next one takes the rest, whatever
the generator draws. So two of them make up for any data block that is lost.
-/

namespace PyroFling
open ByteMemory

/-! ### Draws -/

namespace Shuffler

variable {s : Shuffler}

/-- Picks with these outcomes of the generator. -/
def drawMany : List Nat → Shuffler → List Nat × Shuffler
  | [], s => ([], s)
  | draw :: draws, s =>
    let (x, s) := s.pickAt draw
    let (xs, s) := drawMany draws s
    (x :: xs, s)

/-- An index set with these outcomes. -/
def drawSet (s : Shuffler) (total : Nat) (draws : List Nat) : List Nat × Shuffler :=
  (s.begin total draws.length).drawMany draws

/-- The shuffler after the first `i` index sets. -/
def drawnAfter (s : Shuffler) (total : Nat) (draws : Nat → List Nat) : Nat → Shuffler
  | 0 => s
  | i + 1 => ((s.drawnAfter total draws i).drawSet total (draws i)).2

/-- The index set `i`. -/
def drawn (s : Shuffler) (total : Nat) (draws : Nat → List Nat) (i : Nat) : List Nat :=
  ((s.drawnAfter total draws i).drawSet total (draws i)).1

lemma drawMany_perm (draws : List Nat) (s : Shuffler) (h : draws.length ≤ s.entries) :
    s.unused.Perm ((s.drawMany draws).1 ++ (s.drawMany draws).2.unused) ∧
      (s.drawMany draws).2.entries = s.entries - draws.length := by
  induction draws generalizing s with
  | nil => exact ⟨.refl _, rfl⟩
  | cons draw draws ih =>
    rw [List.length_cons] at h ⊢
    have hentries := s.entries_pickAt draw
    obtain ⟨hperm, hleft⟩ := ih (s.pickAt draw).2 (by omega)
    refine ⟨(s.pickAt_perm draw (by omega)).trans (hperm.cons _), ?_⟩
    have hstep : (s.drawMany (draw :: draws)).2 = ((s.pickAt draw).2.drawMany draws).2 := rfl
    rw [hstep, hleft, hentries]
    omega

/-- Two sets that together are as large as the total cover everything once, and leave nothing. -/
lemma drawSet_pair (h : s.entries = 0) {total : Nat} {first second : List Nat} (hpos : 0 < first.length)
    (htotal : first.length + second.length = total) :
    ((s.drawSet total first).1 ++ ((s.drawSet total first).2.drawSet total second).1).Perm (List.range total) ∧
      ((s.drawSet total first).2.drawSet total second).2.entries = 0 := by
  obtain ⟨hrange, hentries⟩ := begin_of_few total (h.trans_lt hpos)
  obtain ⟨hfirst, hleft⟩ := drawMany_perm first (s.begin total first.length) (by omega)
  have hrest : second.length ≤ (s.drawSet total first).2.entries := by
    rw [drawSet, hleft]
    omega
  obtain ⟨hunused, hsame⟩ := begin_of_enough total hrest
  obtain ⟨hsecond, hnone⟩ := drawMany_perm second ((s.drawSet total first).2.begin total second.length)
    (hsame.symm ▸ hrest)
  have hempty : ((s.drawSet total first).2.drawSet total second).2.entries = 0 := by
    rw [drawSet, hnone, hsame, drawSet, hleft]
    omega
  refine ⟨?_, hempty⟩
  have hnothing : ((s.drawSet total first).2.drawSet total second).2.unused = [] := by
    rw [← List.length_eq_zero_iff, length_unused, hempty]
  rw [hunused] at hsecond
  rw [hrange] at hfirst
  have hall := hfirst.trans (hsecond.append_left _)
  change (List.range total).Perm (_ ++ (_ ++ ((s.drawSet total first).2.drawSet total second).2.unused)) at hall
  rw [hnothing, List.append_nil] at hall
  exact hall.symm

variable {total even odd : Nat} {draws : Nat → List Nat}

/-- The sets of a pair cover everything once, whatever is drawn. -/
lemma drawn_pair_perm (h : s.entries = 0) (hpos : 0 < even) (htotal : even + odd = total)
    (hdraws : ∀ i, (draws i).length = fecDegree even odd i) (k : Nat) :
    (s.drawn total draws (2 * k) ++ s.drawn total draws (2 * k + 1)).Perm (List.range total) := by
  have hfirst : ∀ k, (draws (2 * k)).length = even := fun k => by
    rw [hdraws, fecDegree, if_neg (by omega)]
  have hsecond : ∀ k, (draws (2 * k + 1)).length = odd := fun k => by
    rw [hdraws, fecDegree, if_pos (by omega)]
  have hlengths : ∀ k, 0 < (draws (2 * k)).length ∧
      (draws (2 * k)).length + (draws (2 * k + 1)).length = total := fun k => by
    rw [hfirst, hsecond]
    exact ⟨hpos, htotal⟩
  have hempty : (s.drawnAfter total draws (2 * k)).entries = 0 := by
    induction k with
    | zero => exact h
    | succ k ih => exact (drawSet_pair ih (hlengths k).1 (hlengths k).2).2
  exact (drawSet_pair hempty (hlengths k).1 (hlengths k).2).1

/-- A first set of all elements covers everything. -/
lemma drawn_zero_perm (h : s.entries = 0) (hpos : 0 < total) (hdraws : (draws 0).length = total) :
    (s.drawn total draws 0).Perm (List.range total) := by
  have hnone : ([] : List Nat).length + (draws 0).length = total := by
    rw [List.length_nil, Nat.zero_add, hdraws]
  have hdrawn : 0 < (draws 0).length := hdraws ▸ hpos
  obtain ⟨hrange, hentries⟩ := begin_of_few total (h.trans_lt hdrawn)
  obtain ⟨hperm, hleft⟩ := drawMany_perm (draws 0) (s.begin total (draws 0).length) (by omega)
  have hnothing : ((s.begin total (draws 0).length).drawMany (draws 0)).2.unused = [] := by
    rw [← List.length_eq_zero_iff, length_unused, hleft]
    omega
  rw [hrange, hnothing, List.append_nil] at hperm
  exact hperm.symm

/-! ### The generator's own outcomes -/

/-- The next outcomes of the generator. -/
def outcomes : Nat → MinstdRand → List Nat
  | 0, _ => []
  | k + 1, r => r.next.state :: outcomes k r.next

@[simp] lemma length_outcomes (k : Nat) (r : MinstdRand) : (outcomes k r).length = k := by
  induction k generalizing r with
  | zero => rfl
  | succ k ih => exact congrArg (· + 1) (ih r.next)

/-- The generator has no other influence on the picks. -/
structure SameEntries (s t : Shuffler) : Prop where
  data : s.data = t.data
  capacity : s.capacity = t.capacity
  entries : s.entries = t.entries

variable {t : Shuffler}

lemma SameEntries.pickAt (h : SameEntries s t) (draw : Nat) :
    (s.pickAt draw).1 = (t.pickAt draw).1 ∧ SameEntries (s.pickAt draw).2 (t.pickAt draw).2 := by
  obtain ⟨hdata, hcapacity, hentries⟩ := h
  unfold Shuffler.pickAt
  rw [hdata, hentries]
  split
  · exact ⟨rfl, hdata, hcapacity, hentries⟩
  · exact ⟨rfl, rfl, hcapacity, rfl⟩

lemma SameEntries.pickMany (h : SameEntries s t) (k : Nat) :
    (s.pickMany k).1 = (t.drawMany (outcomes k s.rnd)).1 ∧
      SameEntries (s.pickMany k).2 (t.drawMany (outcomes k s.rnd)).2 := by
  induction k generalizing s t with
  | zero => exact ⟨rfl, h⟩
  | succ k ih =>
    have hnext : SameEntries { s with rnd := s.rnd.next } t := ⟨h.data, h.capacity, h.entries⟩
    obtain ⟨hhead, hrest⟩ := hnext.pickAt s.rnd.next.state
    have hrnd : s.pick.2.rnd = s.rnd.next := s.pick_rnd
    obtain ⟨htail, hlast⟩ := ih hrest
    change s.pick.1 :: (s.pick.2.pickMany k).1 = _ ∧ SameEntries (s.pick.2.pickMany k).2 _
    change (s.pick.2.pickMany k).1 = ((t.pickAt s.rnd.next.state).2.drawMany (outcomes k s.pick.2.rnd)).1 at htail
    change SameEntries (s.pick.2.pickMany k).2
      ((t.pickAt s.rnd.next.state).2.drawMany (outcomes k s.pick.2.rnd)).2 at hlast
    rw [hrnd] at htail hlast
    exact ⟨congrArg₂ List.cons hhead htail, hlast⟩

lemma SameEntries.grow (h : SameEntries s t) (total : Nat) : SameEntries (s.grow total) (t.grow total) := by
  obtain ⟨hdata, hcapacity, hentries⟩ := h
  unfold Shuffler.grow
  rw [hcapacity]
  split
  · split
    · exact ⟨by rw [hdata, hentries], rfl, hentries⟩
    · exact ⟨hdata, hcapacity, hentries⟩
  · exact ⟨hdata, hcapacity, hentries⟩

lemma SameEntries.begin (h : SameEntries s t) (total selected : Nat) :
    SameEntries (s.begin total selected) (t.begin total selected) := by
  have hnoted : SameEntries (s.note (selected ≤ total) .assertion) (t.note (selected ≤ total) .assertion) :=
    ⟨h.data, h.capacity, h.entries⟩
  have hgrown := hnoted.grow total
  unfold Shuffler.begin
  dsimp only
  rw [hgrown.entries]
  split
  · exact ⟨by rw [refill, refill, hgrown.data], hgrown.capacity, rfl⟩
  · exact hgrown

lemma SameEntries.select (h : SameEntries s t) (total selected : Nat) :
    (s.select total selected).1 = (t.drawSet total (outcomes selected s.rnd)).1 ∧
      SameEntries (s.select total selected).2 (t.drawSet total (outcomes selected s.rnd)).2 := by
  have hpicked := (h.begin total selected).pickMany selected
  rw [s.begin_rnd] at hpicked
  rw [Shuffler.select, drawSet, length_outcomes]
  exact hpicked

/-- The index sets are those of the outcomes that the generator happens to have. -/
lemma indices_eq_drawn (s : Shuffler) (total even odd : Nat) :
    ∃ draws : Nat → List Nat, (∀ i, (draws i).length = fecDegree even odd i) ∧
      ∀ i, s.indices total even odd i = s.drawn total draws i := by
  let draws : Nat → List Nat := fun i => outcomes (fecDegree even odd i) (s.after total even odd i).rnd
  have hsame : ∀ i, SameEntries (s.after total even odd i) (s.drawnAfter total draws i) := by
    intro i
    induction i with
    | zero => exact ⟨rfl, rfl, rfl⟩
    | succ i ih => exact (ih.select total (fecDegree even odd i)).2
  exact ⟨draws, fun i => length_outcomes _ _, fun i => ((hsame i).select total (fecDegree even odd i)).1⟩

end Shuffler

namespace WrittenPacket

open PyroStreamConnection Shuffler

variable {w : WrittenPacket}

/-- The data blocks that go into FEC block `f`. -/
def fecMembers (w : WrittenPacket) (f : Nat) : Finset Nat :=
  (fecIndices w.header.ptsLo.toNat w.blocks w.layout.numXorBlocksEven w.layout.numXorBlocksOdd f).toFinset

/-- The packet has an FEC block `f`, and its payload is the XOR of these data blocks. -/
def SendsXor (w : WrittenPacket) (f : Nat) (members : Finset Nat) : Prop :=
  ∃ h : w.blocks + f < w.datagrams.length, ∀ j < maxPayloadSize,
    (w.datagrams.get ⟨w.blocks + f, h⟩).buffer j = blockXor (padded w.data w.size) maxPayloadSize members j

/-- Two index sets that split the data blocks. -/
def Partitions (blocks : Nat) (members members' : Finset Nat) : Prop :=
  Disjoint members members' ∧ members ∪ members' = Finset.range blocks

lemma partitions_of_perm {n : Nat} {l l' : List Nat} (h : (l ++ l').Perm (List.range n)) :
    Partitions n l.toFinset l'.toFinset := by
  have hnodup : (l ++ l').Nodup := h.nodup_iff.2 List.nodup_range
  refine ⟨List.disjoint_toFinset_iff_disjoint.2 (List.nodup_append'.1 hnodup).2.2, ?_⟩
  ext x
  rw [← List.toFinset_append, List.mem_toFinset, h.mem_iff, List.mem_range, Finset.mem_range]

/-- A packet of a size for which every data block is covered. -/
structure IsCovered (w : WrittenPacket) : Prop where
  usesFec : w.usesFec = true
  pos : 1 ≤ w.blocks
  le : w.blocks ≤ 128

lemma IsCovered.fits (h : w.IsCovered) : w.Fits := by
  have hle : (w.size + maxPayloadSize - 1) / maxPayloadSize ≤ 128 := h.le
  have hsize : w.size ≤ 131072 := by
    rw [show maxPayloadSize = 1024 from rfl] at hle
    omega
  exact ⟨hsize.trans (by decide), fun _ => h.le.trans_lt (by decide)⟩

lemma IsCovered.layout_small (h : w.IsCovered) (hsmall : w.blocks ≤ 8) : w.layout = ⟨1, w.blocks, w.blocks⟩ := by
  rw [layout, if_pos h.usesFec, h.fits.numDataBlocks_eq, fecLayout, if_pos hsmall]

/-- The halves are not cut off. -/
lemma IsCovered.layout_medium (h : w.IsCovered) (hmedium : 9 ≤ w.blocks) :
    w.layout = ⟨w.blocks / 4 + 1, w.blocks / 2, (w.blocks + 1) / 2⟩ := by
  have hle := h.le
  rw [layout, if_pos h.usesFec, h.fits.numDataBlocks_eq, fecLayout, if_neg (by omega),
    Nat.mod_eq_of_lt (by omega), Nat.min_eq_left (by omega), Nat.min_eq_left (by omega)]

lemma IsCovered.fecMembers_nonempty (h : w.IsCovered) (f : Nat) : (w.fecMembers f).Nonempty := by
  have hpos := h.pos
  have hdegree : 0 < fecDegree w.layout.numXorBlocksEven w.layout.numXorBlocksOdd f := by
    rcases Nat.lt_or_ge 8 w.blocks with hmedium | hsmall
    · rw [h.layout_medium hmedium, fecDegree]
      dsimp only
      split <;> omega
    · rw [h.layout_small hsmall, fecDegree]
      dsimp only
      split <;> omega
  rw [fecMembers, List.toFinset_nonempty_iff]
  apply List.ne_nil_of_length_pos
  rw [length_fecIndices]
  exact hdegree

lemma IsCovered.length_datagrams (h : w.IsCovered) : w.datagrams.length = w.blocks + w.layout.numFecBlocks := by
  rw [w.datagrams_spec.1, (fecData_spec h.fits).1]

/-- The FEC datagrams are what the encoder makes of the index sets. -/
lemma IsCovered.sendsXor (h : w.IsCovered) {f : Nat} (hf : f < w.layout.numFecBlocks) :
    w.SendsXor f (w.fecMembers f) := by
  have hlt : w.blocks + f < w.datagrams.length := by
    rw [h.length_datagrams]
    omega
  refine ⟨hlt, fun j hj => ?_⟩
  have hmembers : (code h.fits).members f = w.fecMembers f := code_members h.fits f hf
  have hblock := (w.datagrams_spec.2 (w.blocks + f) hlt).2 (Nat.le_add_right _ _)
  have hbuffer : (w.datagrams.get ⟨w.blocks + f, hlt⟩).buffer = w.fecData.getD f (fun _ => 0) := by
    rw [Nat.add_sub_cancel_left] at hblock
    exact hblock.buffer
  rw [hbuffer, ← hmembers]
  exact (fecData_spec h.fits).2 f hf (hmembers ▸ h.fecMembers_nonempty f) j hj

/-! ### Coverage -/

lemma fecMembers_eq (w : WrittenPacket) : ∃ (s : Shuffler) (draws : Nat → List Nat), s.entries = 0 ∧
    (∀ i, (draws i).length = fecDegree w.layout.numXorBlocksEven w.layout.numXorBlocksOdd i) ∧
      ∀ f, w.fecMembers f = (s.drawn w.blocks draws f).toFinset := by
  obtain ⟨draws, hlength, hindices⟩ := indices_eq_drawn
    ((({} : Shuffler).seed w.header.ptsLo.toNat).flush) w.blocks w.layout.numXorBlocksEven
    w.layout.numXorBlocksOdd
  exact ⟨_, draws, rfl, hlength, fun f => congrArg List.toFinset (hindices f)⟩

/-- What the generator may draw makes no difference for the blocks that are covered. -/
structure CoversAlways (w : WrittenPacket) (s : Shuffler) (draws : Nat → List Nat) : Prop where
  single : w.blocks ≤ 8 → (s.drawn w.blocks draws 0).Perm (List.range w.blocks)
  pairs : 9 ≤ w.blocks → ∀ k,
    (s.drawn w.blocks draws (2 * k) ++ s.drawn w.blocks draws (2 * k + 1)).Perm (List.range w.blocks)

lemma IsCovered.coversAlways (h : w.IsCovered) {s : Shuffler} (hempty : s.entries = 0) {draws : Nat → List Nat}
    (hdraws : ∀ i, (draws i).length = fecDegree w.layout.numXorBlocksEven w.layout.numXorBlocksOdd i) :
    w.CoversAlways s draws := by
  constructor
  · intro hsmall
    refine drawn_zero_perm hempty h.pos ?_
    rw [hdraws, h.layout_small hsmall]
    rfl
  · intro hmedium k
    rw [h.layout_medium hmedium] at hdraws
    dsimp only at hdraws
    have heven : 0 < w.blocks / 2 := by omega
    exact drawn_pair_perm hempty heven (by omega) hdraws k

lemma IsCovered.single (h : w.IsCovered) (hsmall : w.blocks ≤ 8) : w.fecMembers 0 = Finset.range w.blocks := by
  obtain ⟨s, draws, hempty, hdraws, hmembers⟩ := w.fecMembers_eq
  rw [hmembers]
  ext x
  rw [List.mem_toFinset, ((h.coversAlways hempty hdraws).single hsmall).mem_iff, List.mem_range, Finset.mem_range]

lemma IsCovered.pairs (h : w.IsCovered) (hmedium : 9 ≤ w.blocks) (k : Nat) :
    Partitions w.blocks (w.fecMembers (2 * k)) (w.fecMembers (2 * k + 1)) := by
  obtain ⟨s, draws, hempty, hdraws, hmembers⟩ := w.fecMembers_eq
  rw [hmembers, hmembers]
  exact partitions_of_perm ((h.coversAlways hempty hdraws).pairs hmedium k)

/-- One of the first two FEC blocks takes a data block. -/
lemma IsCovered.exists_member (h : w.IsCovered) {o : Nat} (ho : o < w.blocks) :
    ∃ f < w.layout.numFecBlocks, f ≤ 1 ∧ o ∈ w.fecMembers f := by
  rcases Nat.lt_or_ge 8 w.blocks with hmedium | hsmall
  · have hunion := (h.pairs hmedium 0).2
    have hmem : o ∈ w.fecMembers 0 ∪ w.fecMembers 1 := hunion.symm ▸ Finset.mem_range.2 ho
    rw [h.layout_medium hmedium]
    dsimp only
    rcases Finset.mem_union.1 hmem with hmem | hmem
    · exact ⟨0, by omega, by omega, hmem⟩
    · exact ⟨1, by omega, le_rfl, hmem⟩
  · refine ⟨0, ?_, by omega, ?_⟩
    · rw [h.layout_small hsmall]
      exact Nat.zero_lt_one
    · rw [h.single hsmall]
      exact Finset.mem_range.2 ho

/-! ### Recovery -/

/-- Everything that arrives, at most once: all data blocks but one, and the first two FEC blocks as far as
they exist. -/
structure SingleLoss (a : w.Arrivals) (lost : Nat) : Prop where
  nodup : a.Nodup
  data : ∀ k : Fin w.datagrams.length, k.val < w.blocks → k.val ≠ lost → k ∈ a
  fec : ∀ k : Fin w.datagrams.length, k.val = w.blocks ∨ k.val = w.blocks + 1 → k ∈ a

lemma copiesHarmless_of_nodup {a : w.Arrivals} (h : a.Nodup) : CopiesHarmless a := by
  intro i hi hmem
  obtain ⟨j, hj, hsame⟩ := List.mem_take_iff_getElem.1 hmem
  have hindex := (List.Nodup.getElem_inj_iff h).1 hsame
  omega

lemma IsCovered.reassembles (h : w.IsCovered) {a : w.Arrivals} {lost : Nat} (hloss : SingleLoss a lost) :
    (reassemble a).isComplete = true ∧ Delivered w (reassemble a) := by
  have hlength := h.length_datagrams
  have hfecPos : 0 < w.layout.numFecBlocks := by
    obtain ⟨f, hf, -⟩ := h.exists_member h.pos
    omega
  have hne : a ≠ [] := by
    rintro rfl
    exact absurd (hloss.fec ⟨w.blocks, by omega⟩ (.inl rfl)) List.not_mem_nil
  have hle := h.le
  obtain ⟨D, hr⟩ := reassembles_of_harmless h.fits h.pos a hne (inWindow_of_small fun k _ hk => by omega)
    (copiesHarmless_of_nodup hloss.nodup)
  have hkept : ∀ o < w.blocks, o ≠ lost → o ∈ D := by
    intro o ho hne
    apply Finset.mem_coe.1
    apply hr.least.1.1
    have hmem := hloss.data ⟨o, by omega⟩ ho hne
    exact List.mem_filter.2 ⟨List.mem_map_of_mem hmem, decide_eq_true ho⟩
  have hall : D = Finset.range w.blocks := by
    apply Finset.Subset.antisymm hr.quiet.sub
    intro o ho
    have ho := Finset.mem_range.1 ho
    by_cases hlost : o = lost
    · subst hlost
      obtain ⟨f, hf, hfirst, hmem⟩ := h.exists_member ho
      have hmembers : (code h.fits).members f = w.fecMembers f := code_members h.fits f hf
      have harrived : f ∈ fecSet a := by
        refine ⟨⟨w.blocks + f, by omega⟩, hloss.fec _ ?_, rfl⟩
        dsimp only
        omega
      apply Finset.mem_coe.1
      apply hr.least.1.2 f harrived o (hmembers.symm ▸ hmem)
      intro b hb hbne
      exact Finset.mem_coe.2 (hkept b ((code h.fits).members_lt f b hb) hbne)
    · exact hkept o ho hlost
  have hdone := hr.complete (.inl h.pos) hall
  exact ⟨hr.isComplete.trans hdone, hr.delivered hdone⟩

/-- A video packet of up to eight data blocks has one FEC block, the XOR of all of them. With up to 128 the
data blocks are split between the FEC blocks of every pair, whatever the generator draws. So if one data
block is lost, the client has the packet with the first two FEC blocks. -/
theorem single_loss_recovered (w : WrittenPacket) (h : w.IsCovered) :
    w.emitted = w.datagrams ∧
    (w.blocks ≤ 8 → w.datagrams.length = w.blocks + 1 ∧ w.SendsXor 0 (Finset.range w.blocks)) ∧
    (9 ≤ w.blocks → ∀ k, 2 * k + 1 < w.layout.numFecBlocks →
      w.SendsXor (2 * k) (w.fecMembers (2 * k)) ∧ w.SendsXor (2 * k + 1) (w.fecMembers (2 * k + 1)) ∧
        Partitions w.blocks (w.fecMembers (2 * k)) (w.fecMembers (2 * k + 1))) ∧
    (∀ (s : Shuffler) (draws : Nat → List Nat), s.entries = 0 →
      (∀ i, (draws i).length = fecDegree w.layout.numXorBlocksEven w.layout.numXorBlocksOdd i) →
        w.CoversAlways s draws) ∧
    ∀ (a : w.Arrivals) (lost : Nat), SingleLoss a lost →
      (reassemble a).isComplete = true ∧ Delivered w (reassemble a) := by
  refine ⟨w.emitted_eq_datagrams (h.le.trans (by decide)), fun hsmall => ?_, fun hmedium k hk => ?_,
    fun s draws hempty hdraws => h.coversAlways hempty hdraws, fun a lost => h.reassembles⟩
  · have hlayout := h.layout_small hsmall
    refine ⟨h.length_datagrams.trans (by rw [hlayout]), ?_⟩
    rw [← h.single hsmall]
    exact h.sendsXor (by rw [hlayout]; exact Nat.zero_lt_one)
  · exact ⟨h.sendsXor (Nat.lt_of_succ_lt hk), h.sendsXor hk, h.pairs hmedium k⟩

/-- The second of three data blocks is lost. -/
theorem single_loss_sample :
    (reassemble [sample.at 3, sample.at 0, sample.at 2]).isComplete = true ∧
      Delivered sample (reassemble [sample.at 3, sample.at 0, sample.at 2]) := by
  have hlength : sample.datagrams.length = 4 := length_sample.symm
  refine (single_loss_recovered sample ⟨rfl, by decide, by decide⟩).2.2.2.2 _ 1 ⟨by decide, ?_, ?_⟩
  · intro k (hk : k.val < 3) hne
    rcases (by omega : k.val = 0 ∨ k.val = 2) with hval | hval
    · obtain rfl : k = sample.at 0 := Fin.ext hval
      exact List.mem_cons_of_mem _ List.mem_cons_self
    · obtain rfl : k = sample.at 2 := Fin.ext hval
      exact List.mem_cons_of_mem _ (List.mem_cons_of_mem _ List.mem_cons_self)
  · intro k (hk : k.val = 3 ∨ k.val = 3 + 1)
    obtain rfl : k = sample.at 3 := Fin.ext (by change k.val = 3; omega)
    exact List.mem_cons_self

end WrittenPacket

end PyroFling
