import PyroFling.Proofs.DecodeBegin

/-!
# When the index arena is too small

`begin_decode` multiplies in `unsigned` to size the index arena. This file shows that a decode
whose sizes wrap does run into a fault on a new decoder: a pointer or a write past the end of
the arena, a reallocation loop that does not end, or a failed assertion.
-/

namespace PyroFling
open ByteMemory

/-! ### Faults stay -/

lemma Fault.note_none {old : Option Fault} {ok : Bool} {f : Fault}
    (h : Fault.note old ok f = none) : old = none := (Fault.note_eq_none.mp h).1

lemma Fault.foldl_note_none {l : List Nat} {ok : Nat → Bool} {e : Option Fault} {f : Fault}
    (h : l.foldl (fun e o => Fault.note e (ok o) f) e = none) : e = none := by
  induction l generalizing e with
  | nil => exact h
  | cons o l ih => exact Fault.note_none (ih h)

namespace Shuffler

lemma note_eq_none {s : Shuffler} {ok : Bool} {f : Fault} :
    (s.note ok f).fault = none ↔ s.fault = none ∧ ok = true := Fault.note_eq_none

lemma fault_of_pick {s : Shuffler} (h : s.pick.2.fault = none) : s.fault = none := by
  rw [pick_fault] at h
  exact Fault.note_none h

lemma fault_of_pickMany {k : Nat} {s : Shuffler} (h : (s.pickMany k).2.fault = none) :
    s.fault = none := by
  induction k generalizing s with
  | zero => exact h
  | succ k ih => exact fault_of_pick (ih h)

lemma fault_of_grow {s : Shuffler} {total : Nat} (h : (s.grow total).fault = none) :
    s.fault = none := by
  unfold grow at h
  split at h
  · split at h
    · exact h
    · exact (note_eq_none.mp h).1
  · exact h

lemma fault_of_begin {s : Shuffler} {total k : Nat} (h : (s.begin total k).fault = none) :
    s.fault = none ∧ k ≤ total ∧
      ((s.note (decide (k ≤ total)) .assertion).grow total).fault = none := by
  have hgrow : ((s.note (decide (k ≤ total)) .assertion).grow total).fault = none := by
    unfold begin at h
    simp only at h
    split at h
    · exact h
    · exact h
  obtain ⟨hold, hk⟩ := note_eq_none.mp (fault_of_grow hgrow)
  exact ⟨hold, by simpa using hk, hgrow⟩

end Shuffler

namespace Decoder

/-- Nothing undefined has happened and no assertion has failed. -/
def FaultFree (d : Decoder) : Prop := d.fault = none ∧ d.shuffler.fault = none

variable {d : Decoder}

lemma FaultFree.of_note {ok : Bool} {f : Fault} (h : (d.note ok f).FaultFree) :
    d.FaultFree ∧ ok = true :=
  ⟨⟨(Fault.note_eq_none.mp h.1).1, h.2⟩, (Fault.note_eq_none.mp h.1).2⟩

lemma FaultFree.of_seedBlock {f : Nat} (h : (d.seedBlock f).FaultFree) :
    d.FaultFree ∧ d.indexBufferOffset ≤ d.indexBufferCapacity ∧
      (d.shuffler.begin d.outputBlocks
        (fecDegree d.numXorBlocksEven d.numXorBlocksOdd f)).fault = none := by
  rw [seedBlock_eq] at h
  obtain ⟨hfault, hshuffler⟩ := h
  obtain ⟨hold, hpointer⟩ := Fault.note_eq_none.mp (Fault.foldl_note_none hfault)
  have hbegin := Shuffler.fault_of_pickMany hshuffler
  exact ⟨⟨hold, (Shuffler.fault_of_begin hbegin).1⟩, by simpa using hpointer, hbegin⟩

lemma FaultFree.of_resolveLink {o f : Nat} (h : (d.resolveLink o f).FaultFree) : d.FaultFree := by
  unfold resolveLink at h
  simp only at h
  split at h
  · split at h
    · exact h.of_note.1.of_note.1
    · exact h.of_note.1.of_note.1
  · exact FaultFree.of_note (d := _) h |>.1.of_note.1.of_note.1

lemma FaultFree.of_propagateWord {o i fuel : Nat} (h : (propagateWord o i fuel d).FaultFree) :
    d.FaultFree := by
  induction fuel generalizing d with
  | zero => exact h.of_note.1
  | succ fuel ih =>
    rw [propagateWord] at h
    simp only at h
    split at h
    · exact h
    · exact (ih h).of_resolveLink.of_note.1

lemma FaultFree.of_propagateDecodedBlock {o : Nat} (h : (d.propagateDecodedBlock o).FaultFree) :
    d.FaultFree := by
  unfold propagateDecodedBlock at h
  generalize List.range d.numU32MasksPerOutput = l at h
  induction l generalizing d with
  | nil => exact h
  | cons i l ih => exact (ih h).of_propagateWord.of_note.1

lemma FaultFree.of_markDecodedBlock {o : Nat} (h : (d.markDecodedBlock o).2.FaultFree) :
    d.FaultFree ∧ o < d.outputBlocks := by
  unfold markDecodedBlock at h
  have hnote : (d.note (o < d.outputBlocks) .outOfBounds).FaultFree := by
    simp only at h
    split at h <;> exact h
  exact ⟨hnote.of_note.1, by simpa using hnote.of_note.2⟩

lemma FaultFree.of_drainReadyBlock {f : Nat} (h : (d.drainReadyBlock f).FaultFree) :
    d.FaultFree := by
  unfold drainReadyBlock at h
  simp only at h
  split at h
  · exact h
  · split at h
    · rename_i e hmarked
      have hfree : e.FaultFree := h.of_propagateDecodedBlock
      rw [show e = ((true, e) : Bool × Decoder).2 from rfl, ← hmarked] at hfree
      exact hfree.of_markDecodedBlock.1.of_note.1.of_note.1.of_note.1
    · rename_i e hmarked
      rw [show e = ((false, e) : Bool × Decoder).2 from rfl, ← hmarked] at h
      exact h.of_markDecodedBlock.1.of_note.1.of_note.1.of_note.1

lemma FaultFree.of_drainReadyBlocks {fuel : Nat} (h : (drainReadyBlocks fuel d).FaultFree) :
    d.FaultFree := by
  induction fuel generalizing d with
  | zero => exact h.of_note.1
  | succ fuel ih =>
    rw [drainReadyBlocks] at h
    split at h
    · exact h
    · exact (ih h).of_drainReadyBlock

lemma FaultFree.of_finishPush (h : d.finishPush.2.FaultFree) : d.FaultFree :=
  h.of_note.1.of_drainReadyBlocks

lemma FaultFree.of_pushRawBlock {o : Nat} (h : (d.pushRawBlock o).2.FaultFree) :
    d.FaultFree ∧ o < d.outputBlocks := by
  unfold pushRawBlock at h
  split at h
  · rename_i e hmarked
    have hfree : e.FaultFree := h.of_finishPush.of_propagateDecodedBlock
    rw [show e = ((true, e) : Bool × Decoder).2 from rfl, ← hmarked] at hfree
    exact hfree.of_markDecodedBlock
  · rename_i e hmarked
    have hfree : e.FaultFree := h.of_finishPush
    rw [show e = ((false, e) : Bool × Decoder).2 from rfl, ← hmarked] at hfree
    exact hfree.of_markDecodedBlock

/-! ### What seeding leaves alone -/

/-- The arena after `i` FEC blocks have been seeded, whether or not it is large enough. -/
structure Laid (a : Decoder) (i : Nat) (d : Decoder) : Prop where
  outputBlocks : d.outputBlocks = a.outputBlocks
  capacity : d.indexBufferCapacity = a.indexBufferCapacity
  offset : d.indexBufferOffset = a.indexBufferOffset + i * a.outputBlocks
  masks : d.numU32MasksPerOutput = a.numU32MasksPerOutput
  degrees : d.numXorBlocksEven = a.numXorBlocksEven ∧ d.numXorBlocksOdd = a.numXorBlocksOdd
  encoded : d.numEncodedBlocks = a.numEncodedBlocks
  ready : d.readyEncodedLinks = a.readyEncodedLinks
  decoded : d.decodedBlockMask = a.decodedBlockMask ∧ d.decodedBlocks = a.decodedBlocks
  output : d.outputData = a.outputData
  unresolved : ∀ f < i, (d.encodedBlocks f).numUnresolvedIndices =
    fecDegree a.numXorBlocksEven a.numXorBlocksOdd f

lemma laid_foldl (a : Decoder) (i : Nat) : Laid a i ((List.range i).foldl seedBlock a) := by
  induction i with
  | zero => exact ⟨rfl, rfl, by simp, rfl, ⟨rfl, rfl⟩, rfl, rfl, ⟨rfl, rfl⟩, rfl, by simp⟩
  | succ i ih =>
    rw [List.range_succ, List.foldl_append, List.foldl_cons, List.foldl_nil, seedBlock_eq]
    refine ⟨ih.outputBlocks, ih.capacity, ?_, ih.masks, ih.degrees, ih.encoded, ih.ready,
      ih.decoded, ih.output, fun f hf => ?_⟩
    · simp only [ih.offset, ih.outputBlocks]
      ring
    · by_cases hfi : f = i
      · subst hfi
        simp [ih.degrees.1, ih.degrees.2]
      · simpa [hfi] using ih.unresolved f (by omega)

lemma FaultFree.of_foldl {a : Decoder} {i k : Nat} (hik : i ≤ k)
    (h : ((List.range k).foldl seedBlock a).FaultFree) :
    ((List.range i).foldl seedBlock a).FaultFree := by
  induction k, hik using Nat.le_induction with
  | base => exact h
  | succ k _ ih =>
    rw [List.range_succ, List.foldl_append, List.foldl_cons, List.foldl_nil] at h
    exact ih h.of_seedBlock.1

/-- Without a fault every slice starts inside the arena, and every index set was drawn. -/
lemma FaultFree.of_seeding {a : Decoder} {k f : Nat} (hf : f < k)
    (h : ((List.range k).foldl seedBlock a).FaultFree) :
    a.indexBufferOffset + f * a.outputBlocks ≤ a.indexBufferCapacity ∧
      (((List.range f).foldl seedBlock a).shuffler.begin a.outputBlocks
        (fecDegree a.numXorBlocksEven a.numXorBlocksOdd f)).fault = none := by
  have hnext := FaultFree.of_foldl (i := f + 1) hf h
  rw [List.range_succ, List.foldl_append, List.foldl_cons, List.foldl_nil] at hnext
  obtain ⟨-, hpointer, hbegin⟩ := hnext.of_seedBlock
  have hlaid := laid_foldl a f
  rw [hlaid.offset, hlaid.capacity] at hpointer
  rw [hlaid.outputBlocks, hlaid.degrees.1, hlaid.degrees.2] at hbegin
  exact ⟨hpointer, hbegin⟩

end Decoder

/-! ### Capacities -/

/-- Doubling stops as soon as it can. -/
lemma growCapacity_le {need capacity : Nat} (hneed : need < 2 ^ 32) :
    ∀ fuel k, k ≤ 32 → growCapacity 64 fuel (2 ^ k) need = some capacity →
      capacity ≤ 2 ^ 32 ∧ (capacity = 2 ^ k ∨ capacity < 2 * need) := by
  intro fuel
  induction fuel with
  | zero =>
    intro k hk h
    rw [growCapacity] at h
    split at h
    · exact absurd h (by simp)
    · obtain rfl := Option.some.inj h
      exact ⟨Nat.pow_le_pow_right (by norm_num) hk, Or.inl rfl⟩
  | succ fuel ih =>
    intro k hk h
    rw [growCapacity] at h
    split at h
    · rename_i hlt
      have hk' : k < 32 := by
        by_contra hge
        have : 2 ^ 32 ≤ 2 ^ k := Nat.pow_le_pow_right (by norm_num) (by omega)
        omega
      have hsmall : 2 ^ (k + 1) ≤ 2 ^ 32 := Nat.pow_le_pow_right (by norm_num) hk'
      rw [← Nat.pow_succ, Nat.mod_eq_of_lt (by omega)] at h
      obtain ⟨hle, heq | hlt'⟩ := ih (k + 1) hk' h
      · refine ⟨hle, Or.inr ?_⟩
        rw [heq, Nat.pow_succ]
        omega
      · exact ⟨hle, Or.inr hlt'⟩
    · obtain rfl := Option.some.inj h
      exact ⟨Nat.pow_le_pow_right (by norm_num) hk, Or.inl rfl⟩

namespace Decoder

lemma reservedCapacity_zero {need : Nat} (hneed : need < 2 ^ 32) :
    reservedCapacity 0 need ≤ 2 ^ 32 ∧ (reservedCapacity 0 need = 0 ∨ reservedCapacity 0 need < 2 * need) := by
  unfold reservedCapacity
  by_cases hpos : 0 < need
  · obtain ⟨capacity, hcapacity, -⟩ := growCapacity_spec 64 need (by norm_num; omega) (by norm_num)
      64 1 (by norm_num) (by omega)
    obtain ⟨hle, hless⟩ := growCapacity_le hneed 64 0 (by norm_num) hcapacity
    simp only [hpos, if_true, hcapacity, Option.getD_some]
    omega
  · simp [hpos]

/-- What `begin_decode` does before it seeds, on a decoder without an index buffer. -/
structure Arena (s : Shuffler) (data : Bytes) (blocks fecBlocks even odd : Nat) (a : Decoder) :
    Prop where
  outputBlocks : a.outputBlocks = blocks
  masks : a.numU32MasksPerOutput = maskWords fecBlocks
  offset : a.indexBufferOffset = maskWords fecBlocks * blocks % 2 ^ 32
  capacity_le : a.indexBufferCapacity ≤ 2 ^ 32
  capacity_lt : a.indexBufferCapacity = 0 ∨
    a.indexBufferCapacity < 2 * ((fecBlocks * blocks + maskWords fecBlocks * blocks) % 2 ^ 32)
  degrees : a.numXorBlocksEven = even ∧ a.numXorBlocksOdd = odd
  encoded : a.numEncodedBlocks = fecBlocks
  ready : a.readyEncodedLinks = []
  mask : a.decodedBlockMask = fun _ => false
  count : a.decodedBlocks = 0
  output : a.outputData = data
  shuffler : a.shuffler = s

lemma beginArena_arena {d : Decoder} (hd : d.indexBufferCapacity = 0) (hB : 0 < d.blockSize)
    (seed : Nat) (data : Bytes) (n fecBlocks even odd : Nat) :
    Arena (d.shuffler.seed seed).flush data (n % 2 ^ 32) fecBlocks even odd
      (d.beginArena seed data (n * d.blockSize) fecBlocks even odd) := by
  have hneed : (fecBlocks * (n % 2 ^ 32) + maskWords fecBlocks * (n % 2 ^ 32)) % 2 ^ 32 < 2 ^ 32 :=
    Nat.mod_lt _ (by norm_num)
  obtain ⟨hle, hless⟩ := reservedCapacity_zero hneed
  obtain ⟨buffer, -, harena⟩ := beginArena_eq hB seed data n fecBlocks even odd
  rw [hd] at harena
  rw [harena]
  exact ⟨rfl, rfl, rfl, hle, hless, ⟨rfl, rfl⟩, rfl, rfl, rfl, rfl, rfl, rfl⟩

/-- The last slice of an arena whose size has wrapped starts outside of it. -/
lemma capacity_lt_lastSlice {n fecBlocks capacity : Nat} (hn : n ≤ 2 ^ 31)
    (hwrap : 2 ^ 32 ≤ (maskWords fecBlocks + fecBlocks) * n) (hle : capacity ≤ 2 ^ 32)
    (hless : capacity = 0 ∨
      capacity < 2 * ((fecBlocks * n + maskWords fecBlocks * n) % 2 ^ 32)) :
    capacity < maskWords fecBlocks * n % 2 ^ 32 + (fecBlocks - 1) * n := by
  have hF : 1 ≤ fecBlocks := by
    rcases Nat.eq_zero_or_pos fecBlocks with rfl | hpos
    · simp [maskWords] at hwrap
    · exact hpos
  have hlast : (fecBlocks - 1) * n + n = fecBlocks * n := by
    rw [← Nat.succ_mul, Nat.succ_eq_add_one, Nat.sub_add_cancel hF]
  rw [Nat.add_mul] at hwrap
  by_cases htable : maskWords fecBlocks * n < 2 ^ 32
  · rw [Nat.mod_eq_of_lt htable]
    generalize fecBlocks * n = slices at *
    generalize maskWords fecBlocks * n = table at *
    omega
  · -- The mask table alone wraps, and the slices are thirty times as long.
    have hmasks : 32 * maskWords fecBlocks ≤ fecBlocks + 31 := by unfold maskWords; omega
    have hthirty : (32 * maskWords fecBlocks - 32) * n ≤ (fecBlocks - 1) * n :=
      Nat.mul_le_mul_right n (by omega)
    have hsplit : (32 * maskWords fecBlocks - 32) * n = 32 * (maskWords fecBlocks * n) - 32 * n := by
      rw [Nat.sub_mul, Nat.mul_assoc]
    omega

/-- Without a mask table a single raw block completes the message, but no link learns of it. -/
lemma unresolved_after_raw {s : Shuffler} {data : Bytes} {a d : Decoder} {fecBlocks even odd : Nat}
    (harena : Arena s data 1 fecBlocks even odd a) (h : Laid a fecBlocks d)
    (hmasks : maskWords fecBlocks = 0) (hdegree : ∃ f < fecBlocks, fecDegree even odd f ≠ 0) :
    ¬(d.pushRawBlock 0).2.FaultFree := by
  intro hfree
  obtain ⟨f, hf, hne⟩ := hdegree
  have hmasks' : d.numU32MasksPerOutput = 0 := (h.masks.trans harena.masks).trans hmasks
  have hready : d.readyEncodedLinks = [] := h.ready.trans harena.ready
  have hencoded : d.numEncodedBlocks = fecBlocks := h.encoded.trans harena.encoded
  obtain ⟨fuel, hfuel⟩ := Nat.exists_eq_succ_of_ne_zero (Nat.ne_zero_of_lt hf)
  let e : Decoder := { d.note (0 < d.outputBlocks) .outOfBounds with
    decodedBlockMask := Function.update d.decodedBlockMask 0 true
    decodedBlocks := d.decodedBlocks + 1 }
  have hpush : d.pushRawBlock 0 = e.finishPush := by
    simp only [pushRawBlock, markDecodedBlock, note, h.decoded.1, harena.mask, Bool.false_eq_true,
      if_false, propagateDecodedBlock, hmasks', List.range_zero, List.foldl_nil, e]
  have hdrain : drainReadyBlocks (e.readyEncodedLinks.length + e.numEncodedBlocks) e = e := by
    have hfuel' : e.numEncodedBlocks = fuel + 1 := hencoded.trans hfuel
    have hidle : e.readyEncodedLinks = [] := hready
    rw [hfuel', hidle, List.length_nil, Nat.zero_add, drainReadyBlocks]
    simp only [hidle]
  rw [hpush, finishPush, hdrain] at hfree
  have hcheck := hfree.of_note.2
  have hdone : e.decodedBlocks = e.outputBlocks := by
    change d.decodedBlocks + 1 = d.outputBlocks
    rw [h.decoded.2, harena.count, h.outputBlocks, harena.outputBlocks]
  simp only [hdone, decide_true, Bool.not_true, Bool.false_or, List.all_eq_true, List.mem_range,
    decide_eq_true_eq] at hcheck
  have hlink := hcheck f (hencoded.symm ▸ hf : f < d.numEncodedBlocks)
  rw [show e.encodedBlocks f = d.encodedBlocks f from rfl, h.unresolved f hf, harena.degrees.1,
    harena.degrees.2] at hlink
  exact hne hlink

/-- The shuffler cannot make room for more than `2 ^ 31` elements. -/
lemma grow_diverges {s : Shuffler} {n : Nat} (hs : s.capacity = 0) (hn : 2 ^ 31 < n) :
    (s.grow n).fault ≠ none := by
  have hnone : growCapacity 32 32 1 n = none :=
    growCapacity_eq_none hn 32 (.inr ⟨0, by norm_num, rfl⟩)
  have hpos : 0 < n := by omega
  simp only [Shuffler.grow, hs, hpos, if_true, hnone]
  intro h
  exact Bool.false_ne_true (Shuffler.note_eq_none.mp h).2

lemma beginDecode_outputData {d : Decoder} (hd : d.indexBufferCapacity = 0) (hB : 0 < d.blockSize)
    (seed : Nat) (data : Bytes) (n fecBlocks even odd : Nat) :
    (d.beginDecode seed data (n * d.blockSize) fecBlocks even odd).outputData = data :=
  (laid_foldl _ fecBlocks).output.trans (beginArena_arena hd hB seed data n fecBlocks even odd).output

/-- Seeding without a fault means that the arena is large enough, as far as its size is concerned,
and that the degrees do not exceed the number of blocks. -/
lemma fits_of_faultFree {s : Shuffler} {data : Bytes} {n fecBlocks even odd : Nat} {a : Decoder}
    (harena : Arena s data n fecBlocks even odd a) (hs : s.capacity = 0 ∨ n ≤ 2 ^ 31)
    (hfree : ((List.range fecBlocks).foldl seedBlock a).FaultFree) :
    (maskWords fecBlocks + fecBlocks) * n < 2 ^ 32 ∧
      ∀ f < fecBlocks, fecDegree even odd f ≤ n := by
  constructor
  · by_contra hsize
    have hF : 0 < fecBlocks := by
      rcases Nat.eq_zero_or_pos fecBlocks with rfl | hpos
      · simp [maskWords] at hsize
      · exact hpos
    by_cases hhalf : n ≤ 2 ^ 31
    · have hlast := (hfree.of_seeding (f := fecBlocks - 1) (by omega)).1
      have hout := capacity_lt_lastSlice hhalf (Nat.not_lt.mp hsize) harena.capacity_le
        harena.capacity_lt
      rw [harena.offset, harena.outputBlocks] at hlast
      exact absurd hlast (Nat.not_le.mpr hout)
    · have hgrow := (Shuffler.fault_of_begin (hfree.of_seeding hF).2).2.2
      rw [harena.outputBlocks, List.range_zero, List.foldl_nil, harena.shuffler] at hgrow
      exact grow_diverges (s := s.note _ _) (hs.resolve_right hhalf) (Nat.not_le.mp hhalf) hgrow
  · intro f hf
    have hdegree := (Shuffler.fault_of_begin (hfree.of_seeding hf).2).2.1
    rwa [harena.outputBlocks, harena.degrees.1, harena.degrees.2] at hdegree

/-- On a new decoder, a decode that does not fit ends in a fault after at most one raw block. -/
lemma fault_of_not_arenaFits (seed : Nat) (data : Bytes) {B : Nat} (hB : 0 < B)
    {n fecBlocks even odd : Nat} (hF : fecBlocks < 2 ^ 32) (heven : even ≤ n) (hodd : odd ≤ n)
    (hfits : ¬ArenaFits n fecBlocks even odd) :
    ∃ o < n, o < 2 ^ 32 ∧ ¬((({ blockSize := B } : Decoder).beginDecode seed data (n * B) fecBlocks
      even odd).pushRawBlock o).2.FaultFree := by
  let a := ({ blockSize := B } : Decoder).beginArena seed data (n * B) fecBlocks even odd
  have harena : Arena _ data (n % 2 ^ 32) fecBlocks even odd a :=
    beginArena_arena (d := { blockSize := B }) rfl hB seed data n fecBlocks even odd
  have hlaid := laid_foldl a fecBlocks
  have hpos : 0 < n := by
    by_contra hzero
    obtain rfl : n = 0 := by omega
    exact hfits ⟨by norm_num, by simp, Or.inr ⟨by omega, by omega⟩⟩
  by_cases hn : n < 2 ^ 32
  · refine ⟨0, hpos, by norm_num, fun hfree => ?_⟩
    rw [Nat.mod_eq_of_lt hn] at harena
    obtain ⟨hsize, -⟩ := fits_of_faultFree harena (Or.inl rfl) hfree.of_pushRawBlock.1
    -- The number of words of the mask table has wrapped to zero.
    have hmany : 2 ^ 32 ≤ fecBlocks + 31 := by
      by_contra hlt
      exact hfits ⟨hn, hsize, Or.inl (by omega)⟩
    have hone : n = 1 := by
      by_contra hne
      have : fecBlocks * 2 ≤ (maskWords fecBlocks + fecBlocks) * n :=
        Nat.mul_le_mul (by omega) (by omega)
      omega
    subst hone
    have hzero : maskWords fecBlocks = 0 := by unfold maskWords; omega
    have hdegree : ∃ f < fecBlocks, fecDegree even odd f ≠ 0 := by
      by_cases he : even = 0
      · refine ⟨1, by omega, ?_⟩
        have ho : odd ≠ 0 := fun ho => hfits ⟨hn, hsize, Or.inr ⟨he, ho⟩⟩
        simpa [fecDegree] using ho
      · exact ⟨0, by omega, by simpa [fecDegree] using he⟩
    exact unresolved_after_raw harena hlaid hzero hdegree hfree
  · refine ⟨n % 2 ^ 32, ?_, Nat.mod_lt _ (by norm_num), fun hfree => ?_⟩
    · have := Nat.mod_lt n (by norm_num : 0 < 2 ^ 32)
      omega
    · have hlt := hfree.of_pushRawBlock.2
      exact absurd (hlt.trans_eq (hlaid.outputBlocks.trans harena.outputBlocks)) (lt_irrefl _)

end Decoder

end PyroFling
