import PyroFling.Proofs.Codec

/-!
# The regions of the index arena

The mask table and the slices of resolved indices share one buffer. Its size is computed in
`unsigned`, the offsets in `size_t`; the regions lie side by side inside the buffer exactly when
the size has not wrapped. No FEC block ever resolves more indices than its slice has room for.
-/

namespace PyroFling
open ByteMemory

namespace Decoder

variable {c : FecCode} {d : Decoder} {D : Finset Nat}

/-- The words of the mask table, or of the slice of an FEC block. -/
def region (d : Decoder) : Option Nat → Set Nat
  | none => Set.Ico 0 (d.numU32MasksPerOutput * d.outputBlocks)
  | some f => Set.Ico (d.encodedBlocks f).resolvedIndices
      ((d.encodedBlocks f).resolvedIndices + d.outputBlocks)

/-- The mask table and the slices a message has. -/
def regions (d : Decoder) : Set (Option Nat) := {r | ∀ f ∈ r, f < d.numEncodedBlocks}

/-- The regions are inside the words allocated, and no two share a word. -/
structure Partitioned (d : Decoder) : Prop where
  inside : ∀ r ∈ d.regions, d.region r ⊆ Set.Iio d.indexBufferCapacity
  disjoint : d.regions.PairwiseDisjoint d.region

/-- Slices and table in one row: the table is as long as `masks` slices. -/
lemma Quiet.region_eq (h : Quiet c D d) {f : Nat} (hf : f < c.fecBlocks) :
    d.region (some f) = Set.Ico ((c.masks + f) * c.blocks) ((c.masks + f + 1) * c.blocks) := by
  rw [region, h.inv.slice f hf, h.inv.outputBlocks, FecCode.slice, Nat.add_one_mul]

lemma Quiet.region_none (h : Quiet c D d) : d.region none = Set.Ico 0 (c.masks * c.blocks) := by
  rw [region, h.inv.masks, h.inv.outputBlocks]

lemma disjoint_Ico_mul {a b k n : Nat} (hab : a ≤ b) (m : Nat) :
    Disjoint (Set.Ico k (a * n)) (Set.Ico (b * n) m) := by
  apply Set.disjoint_left.2
  intro x hx hx'
  have hle : a * n ≤ b * n := Nat.mul_le_mul_right n hab
  exact absurd (hx.2.trans_le (hle.trans hx'.1)) (lt_irrefl x)

lemma Quiet.partitioned (h : Quiet c D d) : d.Partitioned := by
  have hfec : ∀ f, some f ∈ d.regions → f < c.fecBlocks := by
    intro f hf
    rw [← h.inv.encoded]
    exact hf f rfl
  constructor
  · intro r hr x hx
    apply lt_of_lt_of_le _ h.inv.capacity
    cases r with
    | none =>
      rw [h.region_none] at hx
      exact hx.2.trans_le (Nat.mul_le_mul_right c.blocks (Nat.le_add_right _ _))
    | some f =>
      have hlt := hfec f hr
      rw [h.region_eq hlt] at hx
      exact hx.2.trans_le (Nat.mul_le_mul_right c.blocks (by omega))
  · intro r hr s hs hne
    cases r with
    | none =>
      cases s with
      | none => exact absurd rfl hne
      | some g =>
        rw [Function.onFun, h.region_none, h.region_eq (hfec g hs)]
        exact disjoint_Ico_mul (Nat.le_add_right _ _) _
    | some f =>
      rw [Function.onFun, h.region_eq (hfec f hr)]
      cases s with
      | none =>
        rw [h.region_none]
        exact (disjoint_Ico_mul (Nat.le_add_right _ _) _).symm
      | some g =>
        rw [h.region_eq (hfec g hs)]
        rcases Nat.lt_or_gt_of_ne fun hfg => hne (congrArg some hfg) with hlt | hgt
        · exact disjoint_Ico_mul (by omega) _
        · exact (disjoint_Ico_mul (by omega) _).symm

/-- The resolved indices are distinct members of the block. -/
lemma Quiet.numResolvedIndices_le (h : Quiet c D d) {f : Nat} (hf : f < c.fecBlocks) :
    (d.encodedBlocks f).numResolvedIndices ≤ d.outputBlocks := by
  cases hdata : (d.encodedBlocks f).data with
  | some payload =>
    rw [h.inv.received f hf (by rw [hdata]; rfl)]
    exact Nat.zero_le _
  | none =>
    obtain ⟨hnodup, hset⟩ := h.inv.resolved f hf hdata
    have hlength : (d.resolvedList f).length = (d.encodedBlocks f).numResolvedIndices := by
      simp [resolvedList]
    have hsub : (d.resolvedList f).toFinset ⊆ Finset.range c.blocks := by
      intro x hx
      rw [hset] at hx
      exact Finset.mem_range.2 (c.members_lt f x (Finset.mem_sdiff.1 hx).1)
    calc (d.encodedBlocks f).numResolvedIndices
        = (d.resolvedList f).toFinset.card := by
          rw [List.toFinset_card_of_nodup hnodup, hlength]
      _ ≤ c.blocks := by simpa using Finset.card_le_card hsub
      _ = d.outputBlocks := h.inv.outputBlocks.symm

/-- The slices start one after the other, wherever that leads. -/
lemma foldl_seedBlock_slice (a : Decoder) (i : Nat) : ∀ f < i,
    (((List.range i).foldl seedBlock a).encodedBlocks f).resolvedIndices =
      a.indexBufferOffset + f * a.outputBlocks := by
  induction i with
  | zero => exact fun f hf => absurd hf (Nat.not_lt_zero f)
  | succ i ih =>
    intro f hf
    rw [List.range_succ, List.foldl_append, List.foldl_cons, List.foldl_nil, seedBlock_eq]
    by_cases hfi : f = i
    · subst hfi
      simpa using (laid_foldl a f).offset
    · simpa [hfi] using ih f (by omega)

end Decoder

/-- After `begin_decode` with these numbers the regions of the arena are apart and inside it,
whatever the decoder did before, and the slices are long enough for every run of pushes. -/
def ArenaSuffices (B n seed fecBlocks even odd : Nat) : Prop :=
  ∀ (d : Decoder) (buffer : Bytes), d.blockSize = B →
    let start := d.beginDecode seed buffer (n * B) fecBlocks even odd
    start.Partitioned ∧ ∀ pushes, InRange n fecBlocks pushes → ∀ f < fecBlocks,
      ((Decoder.pushAll (false, start) pushes).2.encodedBlocks f).numResolvedIndices ≤
        (Decoder.pushAll (false, start) pushes).2.outputBlocks

variable {B n seed fecBlocks even odd : Nat}

lemma arenaSuffices_of_arenaFits (hB : 0 < B) (heven : even ≤ n) (hodd : odd ≤ n)
    (hfits : ArenaFits n fecBlocks even odd) : ArenaSuffices B n seed fecBlocks even odd := by
  intro d buffer hd start
  have hdegree : ∀ f < fecBlocks, fecDegree even odd f ≤ n := fun f _ => fecDegree_le heven hodd f
  have hstart := beginDecode_peeled seed hB hfits hdegree d buffer hd
  constructor
  · exact hstart.quiet.partitioned
  · intro pushes hrange f hf
    obtain ⟨D, hend⟩ := hstart.pushAll pushes hrange.1 hrange.2
    exact hend.quiet.numResolvedIndices_le hf

/-- On a new decoder the last slice of an arena whose size has wrapped is outside of it. -/
lemma not_arenaSuffices_of_wrap (hB : 0 < B) (hn : 0 < n) (hhalf : n ≤ 2 ^ 31)
    (hwrap : 2 ^ 32 ≤ (maskWords fecBlocks + fecBlocks) * n) :
    ¬ArenaSuffices B n seed fecBlocks even odd := by
  intro hsuffices
  obtain ⟨hparts, -⟩ := hsuffices { blockSize := B } (fun _ => 0) rfl
  let a := ({ blockSize := B } : Decoder).beginArena seed (fun _ => 0) (n * B) fecBlocks even odd
  have harena : Decoder.Arena _ _ (n % 2 ^ 32) fecBlocks even odd a :=
    Decoder.beginArena_arena (d := { blockSize := B }) rfl hB seed (fun _ => 0) n fecBlocks even odd
  rw [Nat.mod_eq_of_lt (by omega)] at harena
  have hlaid := Decoder.laid_foldl a fecBlocks
  have hpos : 0 < fecBlocks := by
    by_contra hzero
    obtain rfl : fecBlocks = 0 := by omega
    simp [maskWords] at hwrap
  have hlast := Decoder.foldl_seedBlock_slice a fecBlocks (fecBlocks - 1) (by omega)
  rw [harena.offset, harena.outputBlocks] at hlast
  have hout := Decoder.capacity_lt_lastSlice hhalf hwrap harena.capacity_le harena.capacity_lt
  have hmem : maskWords fecBlocks * n % 2 ^ 32 + (fecBlocks - 1) * n ∈
      ((List.range fecBlocks).foldl Decoder.seedBlock a).region (some (fecBlocks - 1)) := by
    rw [Decoder.region, hlast, hlaid.outputBlocks, harena.outputBlocks]
    exact ⟨le_rfl, by omega⟩
  have hinside := hparts.inside (some (fecBlocks - 1)) ?_ hmem
  · rw [Set.mem_Iio] at hinside
    have hcapacity : _ = a.indexBufferCapacity := hlaid.capacity
    exact absurd (hcapacity ▸ hinside) (Nat.not_lt.2 hout.le)
  · intro f hf
    obtain rfl := Option.mem_some_iff.1 hf
    have hencoded : _ = fecBlocks := hlaid.encoded.trans harena.encoded
    exact (Nat.sub_lt hpos (by norm_num)).trans_eq hencoded.symm

/-- The arena is large enough if and only if its size can be counted in 32 bits. -/
theorem arenaSuffices_iff (hB : 0 < B) (hn : n ≤ 131072) (hF : fecBlocks < 2 ^ 16) (heven : even ≤ n)
    (hodd : odd ≤ n) : ArenaSuffices B n seed fecBlocks even odd ↔
      (maskWords fecBlocks + fecBlocks) * n < 2 ^ 32 := by
  constructor
  · intro hsuffices
    by_contra hwrap
    have hpos : 0 < n := by
      by_contra hzero
      obtain rfl : n = 0 := by omega
      simp at hwrap
    exact not_arenaSuffices_of_wrap hB hpos (by omega) (Nat.not_lt.1 hwrap) hsuffices
  · intro hsize
    exact arenaSuffices_of_arenaFits hB heven hodd ⟨by omega, hsize, Or.inl (by omega)⟩

theorem arenaSuffices_small : ArenaSuffices 1024 3 7 2 2 3 :=
  (arenaSuffices_iff (by norm_num) (by norm_num) (by norm_num) (by decide) (by decide)).2 (by decide)

/-- A packet of 128 MiB with 31775 FEC blocks: the arena needs exactly `2 ^ 32` words, so that none
are reserved. -/
theorem arena_wraps : ¬ArenaSuffices 1024 131072 0 31775 1 1 :=
  not_arenaSuffices_of_wrap (by norm_num) (by norm_num) (by norm_num) (by decide)

end PyroFling
