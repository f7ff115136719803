import PyroFling.Lt.Decode
import PyroFling.Proofs.Encode

/-!
# The decoder's bookkeeping

The decoder keeps the same information several times over: as bits of the mask table, as the
count and the XOR of the unresolved indices of each FEC block, and as a list of resolved
indices for the blocks whose payload has not arrived. `Decoder.Inv` says that all of them
describe one family `U` of unresolved index sets, and `Decoder.ReadyAll` that the worklist
holds every FEC block that is ready. This file proves that propagating one decoded block keeps them in step.
-/

namespace PyroFling
open ByteMemory

/-! ### Words of the mask table -/

lemma exists_getLsbD_of_ne_zero {v : BitVec 32} (h : v ≠ 0) : ∃ i < 32, v.getLsbD i = true := by
  by_contra hnone
  push Not at hnone
  apply h
  apply BitVec.eq_of_getLsbD_eq
  intro i hi
  simpa using hnone i hi

lemma findLsb_spec {v : BitVec 32} (h : v ≠ 0) : findLsb v < 32 ∧ v.getLsbD (findLsb v) = true := by
  obtain ⟨i, hi, hbit⟩ := exists_getLsbD_of_ne_zero h
  cases hfind : (List.range 32).find? (fun i => v.getLsbD i) with
  | none =>
    have := List.find?_eq_none.mp hfind i (List.mem_range.mpr hi)
    exact absurd hbit this
  | some b =>
    have hb := List.mem_range.mp (List.mem_of_find?_eq_some hfind)
    have hset := List.find?_some hfind
    simp only [findLsb, hfind, Option.getD_some]
    exact ⟨hb, hset⟩

lemma getLsbD_clear (v : BitVec 32) {b k : Nat} (hk : k < 32) :
    (v &&& ~~~(1#32 <<< b)).getLsbD k = (v.getLsbD k && decide (k ≠ b)) := by
  simp only [BitVec.getLsbD_and, BitVec.getLsbD_not, BitVec.getLsbD_shiftLeft, hk,
    decide_true, Bool.true_and, BitVec.getLsbD_one]
  by_cases hkb : k = b
  · simp [hkb]
  · by_cases hlt : k < b
    · simp [hlt, hkb]
    · have : k - b ≠ 0 := by omega
      simp [hlt, hkb, this]

lemma getLsbD_set (v : BitVec 32) {b k : Nat} (hk : k < 32) :
    (v ||| 1#32 <<< b).getLsbD k = (v.getLsbD k || decide (k = b)) := by
  simp only [BitVec.getLsbD_or, BitVec.getLsbD_shiftLeft, hk, decide_true, Bool.true_and,
    BitVec.getLsbD_one]
  by_cases hkb : k = b
  · simp [hkb]
  · by_cases hlt : k < b
    · simp [hlt, hkb]
    · have : k - b ≠ 0 := by omega
      simp [hlt, hkb, this]

instance xor_commutative : Std.Commutative (fun a b : Nat => a ^^^ b) := ⟨Nat.xor_comm⟩

instance xor_associative : Std.Associative (fun a b : Nat => a ^^^ b) := ⟨Nat.xor_assoc⟩

/-- XOR of a set of indices. -/
def indexXor (s : Finset Nat) : Nat := s.fold (fun a b => a ^^^ b) 0 id

lemma indexXor_erase {s : Finset Nat} {i : Nat} (hi : i ∈ s) :
    indexXor s ^^^ i = indexXor (s.erase i) :=
  XorSum.fold_erase (fun a b : Nat => a ^^^ b) Nat.xor_self Nat.zero_xor id hi

@[simp] lemma indexXor_singleton (i : Nat) : indexXor {i} = i := by simp [indexXor]

/-! ### The index arena -/

/-- The geometry of a decode whose index arena fits into the 32 bits its size is computed in:
`blocks` output blocks and `fecBlocks` FEC blocks with the given index sets, and `masks` words of
the mask table for each output block. -/
structure FecCode where
  blocks : Nat
  fecBlocks : Nat
  masks : Nat
  members : Nat → Finset Nat
  members_lt : ∀ f, ∀ x ∈ members f, x < blocks
  members_out : ∀ f, fecBlocks ≤ f → members f = ∅
  members_word : ∀ f, (members f).Nonempty → f / 32 < masks
  blocks_lt : blocks < 2 ^ 32
  blocks_le : fecBlocks ≠ 0 → blocks ≤ 2 ^ 31
  fits : (masks + fecBlocks) * blocks < 2 ^ 32

namespace FecCode

variable (c : FecCode)

/-- Where the slice of resolved indices of an FEC block starts. -/
def slice (f : Nat) : Nat := (c.masks + f) * c.blocks

variable {c}

lemma fec_lt_of_mem {f x : Nat} (h : x ∈ c.members f) : f < c.fecBlocks := by
  by_contra hf
  rw [c.members_out f (by omega)] at h
  exact absurd h (Finset.notMem_empty x)

lemma maskTable_le_slice {o i : Nat} (ho : o < c.blocks) (hi : i < c.masks) (f : Nat) :
    o * c.masks + i < c.slice f := by
  have h1 : (o + 1) * c.masks ≤ c.blocks * c.masks := Nat.mul_le_mul_right _ ho
  have h2 : c.slice f = c.blocks * c.masks + f * c.blocks := by unfold slice; ring
  rw [Nat.add_mul, Nat.one_mul] at h1
  omega

lemma maskWord_lt {o i : Nat} (ho : o < c.blocks) (hi : i < c.masks) :
    o * c.masks + i < 2 ^ 32 := by
  have h := maskTable_le_slice ho hi 0
  have hfits := c.fits
  have h2 : c.slice 0 ≤ (c.masks + c.fecBlocks) * c.blocks := Nat.mul_le_mul_right _ (by omega)
  omega

lemma maskWord_inj {o o' i i' : Nat} (hi : i < c.masks) (hi' : i' < c.masks)
    (h : o * c.masks + i = o' * c.masks + i') : o = o' ∧ i = i' := by
  have ho : (o * c.masks + i) / c.masks = o := by
    rw [Nat.mul_comm, Nat.mul_add_div (by omega), Nat.div_eq_of_lt hi, Nat.add_zero]
  have ho' : (o' * c.masks + i') / c.masks = o' := by
    rw [Nat.mul_comm, Nat.mul_add_div (by omega), Nat.div_eq_of_lt hi', Nat.add_zero]
  have heq : o = o' := by rw [← ho, h, ho']
  exact ⟨heq, by subst heq; omega⟩

lemma slice_inj {f f' k k' : Nat} (hk : k < c.blocks) (hk' : k' < c.blocks)
    (h : c.slice f + k = c.slice f' + k') : f = f' ∧ k = k' := by
  have hf : (c.slice f + k) / c.blocks = c.masks + f := by
    unfold slice
    rw [Nat.mul_comm, Nat.mul_add_div (by omega), Nat.div_eq_of_lt hk, Nat.add_zero]
  have hf' : (c.slice f' + k') / c.blocks = c.masks + f' := by
    unfold slice
    rw [Nat.mul_comm, Nat.mul_add_div (by omega), Nat.div_eq_of_lt hk', Nat.add_zero]
  have heq : f = f' := by
    have : c.masks + f = c.masks + f' := by rw [← hf, h, hf']
    omega
  exact ⟨heq, by subst heq; omega⟩

lemma slice_end_le {f k : Nat} (hf : f < c.fecBlocks) (hk : k < c.blocks) :
    c.slice f + k < (c.masks + c.fecBlocks) * c.blocks := by
  have h : (c.masks + f + 1) * c.blocks ≤ (c.masks + c.fecBlocks) * c.blocks :=
    Nat.mul_le_mul_right _ (by omega)
  rw [Nat.add_mul (c.masks + f), Nat.one_mul] at h
  unfold slice
  omega

end FecCode

namespace Decoder

variable {c : FecCode} {d : Decoder} {U : Nat → Finset Nat}

/-- The indices a link has stored while its payload was missing. -/
def resolvedList (d : Decoder) (f : Nat) : List Nat :=
  (List.range (d.encodedBlocks f).numResolvedIndices).map
    (fun k => (d.indexBuffer ((d.encodedBlocks f).resolvedIndices + k)).toNat)

lemma resolvedList_congr {d d' : Decoder} {f : Nat} (hlink : d'.encodedBlocks f = d.encodedBlocks f)
    (hmem : ∀ k < (d.encodedBlocks f).numResolvedIndices,
      d'.indexBuffer ((d.encodedBlocks f).resolvedIndices + k) =
        d.indexBuffer ((d.encodedBlocks f).resolvedIndices + k)) :
    d'.resolvedList f = d.resolvedList f := by
  simp only [resolvedList, hlink]
  apply List.map_congr_left
  intro k hk
  rw [hmem k (List.mem_range.mp hk)]

lemma resolvedList_snoc {d d' : Decoder} {f o : Nat} (ho : o < 2 ^ 32)
    (hstart : (d'.encodedBlocks f).resolvedIndices = (d.encodedBlocks f).resolvedIndices)
    (hcount : (d'.encodedBlocks f).numResolvedIndices = (d.encodedBlocks f).numResolvedIndices + 1)
    (hold : ∀ k < (d.encodedBlocks f).numResolvedIndices,
      d'.indexBuffer ((d.encodedBlocks f).resolvedIndices + k) =
        d.indexBuffer ((d.encodedBlocks f).resolvedIndices + k))
    (hnew : d'.indexBuffer ((d.encodedBlocks f).resolvedIndices +
      (d.encodedBlocks f).numResolvedIndices) = BitVec.ofNat 32 o) :
    d'.resolvedList f = d.resolvedList f ++ [o] := by
  simp only [resolvedList, hstart, hcount, List.range_succ, List.map_append, List.map_singleton,
    hnew, BitVec.toNat_ofNat, Nat.mod_eq_of_lt ho]
  congr 1
  apply List.map_congr_left
  intro k hk
  rw [hold k (List.mem_range.mp hk)]

/-- All views of the decoder describe the family `U` of unresolved index sets. -/
structure Inv (c : FecCode) (U : Nat → Finset Nat) (d : Decoder) : Prop where
  outputBlocks : d.outputBlocks = c.blocks
  masks : d.numU32MasksPerOutput = c.masks
  encoded : d.numEncodedBlocks = c.fecBlocks
  capacity : (c.masks + c.fecBlocks) * c.blocks ≤ d.indexBufferCapacity
  fault : d.fault = none
  drawn : d.shuffler.fault = none
  sub : ∀ f, U f ⊆ c.members f
  mask : ∀ o < c.blocks, ∀ f < 32 * c.masks,
    (d.indexBuffer (o * c.masks + f / 32)).getLsbD (f % 32) = decide (o ∈ U f)
  slice : ∀ f < c.fecBlocks, (d.encodedBlocks f).resolvedIndices = c.slice f
  unresolved : ∀ f < c.fecBlocks, (d.encodedBlocks f).numUnresolvedIndices = (U f).card
  index : ∀ f < c.fecBlocks, (d.encodedBlocks f).outputIndex = indexXor (U f)
  received : ∀ f < c.fecBlocks, (d.encodedBlocks f).data.isSome →
    (d.encodedBlocks f).numResolvedIndices = 0
  resolved : ∀ f < c.fecBlocks, (d.encodedBlocks f).data = none →
    (d.resolvedList f).Nodup ∧ (d.resolvedList f).toFinset = c.members f \ U f
  ready : ∀ f ∈ d.readyEncodedLinks, f < c.fecBlocks ∧ (d.encodedBlocks f).data.isSome ∧
    (U f).card ≤ 1

/-- Every received link with one unresolved index is on the worklist, apart from those in `E`,
which the caller is about to handle. -/
def ReadyAll (c : FecCode) (E : Set Nat) (U : Nat → Finset Nat) (d : Decoder) : Prop :=
  ∀ f < c.fecBlocks, f ∉ E → (d.encodedBlocks f).data.isSome → (U f).card = 1 →
    f ∈ d.readyEncodedLinks

/-- The family after the link `f` has resolved the output block `o`. -/
def resolve (U : Nat → Finset Nat) (o f : Nat) : Nat → Finset Nat :=
  Function.update U f ((U f).erase o)

@[simp] lemma resolve_self (o f : Nat) : resolve U o f f = (U f).erase o := by simp [resolve]

lemma resolve_ne (o : Nat) {f g : Nat} (h : g ≠ f) : resolve U o f g = U g := by simp [resolve, h]

namespace Inv

lemma maskAddress_eq (h : Inv c U d) {o i : Nat} (ho : o < c.blocks) (hi : i < c.masks) :
    d.maskAddress o i = o * c.masks + i := by
  have hlt : o * c.masks < 2 ^ 32 := by have := FecCode.maskWord_lt ho hi; omega
  rw [maskAddress, h.masks, Nat.mod_eq_of_lt hlt]

lemma mem_of_bit (h : Inv c U d) {o i b : Nat} (ho : o < c.blocks) (hi : i < c.masks)
    (hb : b < 32) (hbit : (d.indexBuffer (o * c.masks + i)).getLsbD b = true) :
    o ∈ U (i * 32 + b) := by
  have hmask := h.mask o ho (i * 32 + b) (by omega)
  have hword : (i * 32 + b) / 32 = i := by omega
  have hrem : (i * 32 + b) % 32 = b := by omega
  rw [hword, hrem, hbit] at hmask
  simpa using hmask.symm

lemma fec_lt (h : Inv c U d) {o f : Nat} (ho : o ∈ U f) : f < c.fecBlocks :=
  FecCode.fec_lt_of_mem (h.sub f ho)

/-- Clearing one bit of the mask table is what `resolve` does to the sets. -/
lemma mask_clear (h : Inv c U d) {o i b : Nat} (hi : i < c.masks) (hb : b < 32) :
    ∀ o' < c.blocks, ∀ f < 32 * c.masks,
      ((Function.update d.indexBuffer (o * c.masks + i)
        (d.indexBuffer (o * c.masks + i) &&& ~~~(1#32 <<< b))) (o' * c.masks + f / 32)).getLsbD
          (f % 32) = decide (o' ∈ resolve U o (i * 32 + b) f) := by
  intro o' ho' f hf
  have hword : f / 32 < c.masks := by omega
  have hold := h.mask o' ho' f hf
  by_cases haddr : o' * c.masks + f / 32 = o * c.masks + i
  · obtain ⟨rfl, hfi⟩ := FecCode.maskWord_inj hword hi haddr
    rw [← hfi, Function.update_self, getLsbD_clear _ (Nat.mod_lt _ (by norm_num)), hold]
    by_cases hfb : f % 32 = b
    · have hf' : f = f / 32 * 32 + b := by omega
      rw [← hf', resolve_self]
      simp [hfb]
    · have hf' : f ≠ f / 32 * 32 + b := by omega
      rw [resolve_ne o' hf']
      simp [hfb]
  · rw [Function.update_of_ne haddr, hold]
    by_cases hf' : f = i * 32 + b
    · have hne : o' ≠ o := by
        rintro rfl
        apply haddr
        omega
      rw [hf', resolve_self]
      simp [hne]
    · rw [resolve_ne o hf']

/-- Writing to a slice of resolved indices leaves the mask table alone. -/
lemma mask_of_slice {m : Nat → BitVec 32} {f k : Nat} (v : BitVec 32) :
    ∀ o < c.blocks, ∀ i < c.masks,
      Function.update m (c.slice f + k) v (o * c.masks + i) = m (o * c.masks + i) := by
  intro o ho i hi
  have := FecCode.maskTable_le_slice ho hi f
  exact Function.update_of_ne (by omega) _ _

end Inv

/-- One round of the loop in `propagate_decoded_block`: the lowest bit `b` of word `i` is
cleared, and the link it stands for is resolved. -/
def round (d : Decoder) (outputIndex i b : Nat) : Decoder :=
  let address := d.maskAddress outputIndex i
  (d.storeIndex address (d.indexBuffer address &&& ~~~(1#32 <<< b))).resolveLink outputIndex
    (i * 32 + b)

/-- The fault record of a round before the payload is looked at. -/
def roundFault (d : Decoder) (o i b : Nat) : Option Fault :=
  Fault.note (Fault.note (Fault.note d.fault (d.maskAddress o i < d.indexBufferCapacity)
    .outOfBounds) (i * 32 + b < d.numEncodedBlocks) .outOfBounds)
    ((d.encodedBlocks (i * 32 + b)).numUnresolvedIndices ≠ 0) .assertion

lemma round_of_some {o i b f : Nat} (hf : f = i * 32 + b) {p : Bytes}
    (hdata : (d.encodedBlocks f).data = some p) :
    d.round o i b = { d with
      fault := d.roundFault o i b
      indexBuffer := Function.update d.indexBuffer (d.maskAddress o i)
        (d.indexBuffer (d.maskAddress o i) &&& ~~~(1#32 <<< b))
      encodedBlocks := Function.update d.encodedBlocks f { d.encodedBlocks f with
        data := some (p.xor (d.outputData.drop (d.blockSize * o)) d.blockSize)
        outputIndex := (d.encodedBlocks f).outputIndex ^^^ o
        numUnresolvedIndices := (d.encodedBlocks f).numUnresolvedIndices - 1 }
      readyEncodedLinks :=
        if (d.encodedBlocks f).numUnresolvedIndices - 1 = 1 then f :: d.readyEncodedLinks
        else d.readyEncodedLinks } := by
  subst hf
  by_cases hone : (d.encodedBlocks (i * 32 + b)).numUnresolvedIndices - 1 = 1 <;>
    · simp only [round, resolveLink, storeIndex, setLink, note, hdata, roundFault, hone, if_true,
        if_false]
      rfl

lemma round_of_none {o i b f : Nat} (hf : f = i * 32 + b)
    (hdata : (d.encodedBlocks f).data = none) :
    d.round o i b = { d with
      fault := Fault.note (d.roundFault o i b) ((d.encodedBlocks f).resolvedIndices +
        (d.encodedBlocks f).numResolvedIndices < d.indexBufferCapacity) .outOfBounds
      indexBuffer := Function.update (Function.update d.indexBuffer (d.maskAddress o i)
        (d.indexBuffer (d.maskAddress o i) &&& ~~~(1#32 <<< b)))
        ((d.encodedBlocks f).resolvedIndices + (d.encodedBlocks f).numResolvedIndices)
        (BitVec.ofNat 32 o)
      encodedBlocks := Function.update d.encodedBlocks f { d.encodedBlocks f with
        outputIndex := (d.encodedBlocks f).outputIndex ^^^ o
        numUnresolvedIndices := (d.encodedBlocks f).numUnresolvedIndices - 1
        numResolvedIndices := (d.encodedBlocks f).numResolvedIndices + 1 } } := by
  subst hf
  simp only [round, resolveLink, storeIndex, setLink, note, hdata, roundFault]
  rfl

namespace Inv

lemma roundFault_eq_none (h : Inv c U d) {o i b : Nat} (ho : o < c.blocks) (hi : i < c.masks)
    (hmem : o ∈ U (i * 32 + b)) : d.roundFault o i b = none := by
  have hf := h.fec_lt hmem
  have haddr : d.maskAddress o i < d.indexBufferCapacity := by
    rw [h.maskAddress_eq ho hi]
    have h1 := FecCode.maskTable_le_slice ho hi 0
    have h2 : c.slice 0 ≤ (c.masks + c.fecBlocks) * c.blocks :=
      Nat.mul_le_mul_right _ (by omega)
    exact (h1.trans_le h2).trans_le h.capacity
  have hunresolved : (d.encodedBlocks (i * 32 + b)).numUnresolvedIndices ≠ 0 := by
    rw [h.unresolved _ hf]
    exact Finset.card_ne_zero_of_mem hmem
  simp only [roundFault, Fault.note_eq_none, decide_eq_true_eq]
  exact ⟨⟨⟨h.fault, haddr⟩, h.encoded ▸ hf⟩, hunresolved⟩

lemma card_resolve (_ : Inv c U d) {o f : Nat} (hmem : o ∈ U f) :
    (resolve U o f f).card = (U f).card - 1 := by
  rw [resolve_self, Finset.card_erase_of_mem hmem]

lemma sub_resolve (h : Inv c U d) (o f : Nat) : ∀ g, resolve U o f g ⊆ c.members g := by
  intro g
  by_cases hg : g = f
  · subst hg
    rw [resolve_self]
    exact (Finset.erase_subset _ _).trans (h.sub g)
  · rw [resolve_ne o hg]
    exact h.sub g

/-- The stored indices of a link never outgrow its slice. -/
lemma numResolved_le (h : Inv c U d) {f : Nat} (hf : f < c.fecBlocks) :
    (d.encodedBlocks f).numResolvedIndices ≤ c.blocks := by
  cases hdata : (d.encodedBlocks f).data with
  | some p =>
    rw [h.received f hf (by simp [hdata])]
    exact Nat.zero_le _
  | none =>
    obtain ⟨hnodup, hset⟩ := h.resolved f hf hdata
    have hlen : (d.resolvedList f).length = (d.encodedBlocks f).numResolvedIndices := by
      simp [resolvedList]
    rw [← hlen, ← List.toFinset_card_of_nodup hnodup, hset, ← Finset.card_range c.blocks]
    refine Finset.card_le_card fun x hx => ?_
    exact Finset.mem_range.mpr (c.members_lt f x (Finset.mem_sdiff.mp hx).1)

/-- With an index still unresolved there is room for one more. -/
lemma numResolved_lt (h : Inv c U d) {o f : Nat} (hmem : o ∈ U f)
    (hdata : (d.encodedBlocks f).data = none) :
    (d.encodedBlocks f).numResolvedIndices < c.blocks := by
  obtain ⟨hnodup, hset⟩ := h.resolved f (h.fec_lt hmem) hdata
  have hlen : (d.resolvedList f).length = (d.encodedBlocks f).numResolvedIndices := by
    simp [resolvedList]
  have hcard : (d.resolvedList f).length = (c.members f \ U f).card := by
    rw [← hset, List.toFinset_card_of_nodup hnodup]
  have hsub : c.members f \ U f ⊂ Finset.range c.blocks := by
    refine Finset.ssubset_iff.mpr ⟨o, by simp [hmem], ?_⟩
    intro x hx
    rcases Finset.mem_insert.mp hx with rfl | hx
    · exact Finset.mem_range.mpr (c.members_lt f _ (h.sub f hmem))
    · exact Finset.mem_range.mpr (c.members_lt f x (Finset.mem_sdiff.mp hx).1)
  have := Finset.card_lt_card hsub
  rw [Finset.card_range] at this
  omega

/-- What a round does to the indices of a link is the same with and without its payload. -/
lemma indices_resolve (h : Inv c U d) {o f : Nat} (hmem : o ∈ U f) (link : EncodedLink)
    (hslice : link.resolvedIndices = (d.encodedBlocks f).resolvedIndices)
    (hunresolved : link.numUnresolvedIndices = (d.encodedBlocks f).numUnresolvedIndices - 1)
    (hindex : link.outputIndex = (d.encodedBlocks f).outputIndex ^^^ o) : ∀ g < c.fecBlocks,
      (Function.update d.encodedBlocks f link g).resolvedIndices = c.slice g ∧
      (Function.update d.encodedBlocks f link g).numUnresolvedIndices = (resolve U o f g).card ∧
      (Function.update d.encodedBlocks f link g).outputIndex = indexXor (resolve U o f g) := by
  intro g hg
  by_cases hgf : g = f
  · subst hgf
    rw [Function.update_self, hslice, hunresolved, hindex, h.slice g hg, h.unresolved g hg, h.index g hg,
      h.card_resolve hmem, resolve_self, indexXor_erase hmem]
    exact ⟨rfl, rfl, rfl⟩
  · rw [Function.update_of_ne hgf, resolve_ne o hgf]
    exact ⟨h.slice g hg, h.unresolved g hg, h.index g hg⟩

lemma round_received (h : Inv c U d) {o i b f : Nat} (ho : o < c.blocks) (hi : i < c.masks)
    (hb : b < 32) (hf : f = i * 32 + b) (hmem : o ∈ U f) {p : Bytes}
    (hdata : (d.encodedBlocks f).data = some p) : Inv c (resolve U o f) (d.round o i b) := by
  have hfec := h.fec_lt hmem
  have hcard := h.card_resolve hmem
  have hlinks := h.indices_resolve hmem { d.encodedBlocks f with
    data := some (p.xor (d.outputData.drop (d.blockSize * o)) d.blockSize)
    outputIndex := (d.encodedBlocks f).outputIndex ^^^ o
    numUnresolvedIndices := (d.encodedBlocks f).numUnresolvedIndices - 1 } rfl rfl rfl
  rw [round_of_some hf hdata, h.maskAddress_eq ho hi]
  refine
    { outputBlocks := h.outputBlocks, masks := h.masks, encoded := h.encoded
      capacity := h.capacity, fault := h.roundFault_eq_none ho hi (hf ▸ hmem), drawn := h.drawn
      sub := h.sub_resolve o f, mask := hf ▸ h.mask_clear hi hb
      slice := fun g hg => (hlinks g hg).1, unresolved := fun g hg => (hlinks g hg).2.1
      index := fun g hg => (hlinks g hg).2.2
      received := ?_, resolved := ?_, ready := ?_ }
  · intro g hg
    by_cases hgf : g = f
    · subst hgf
      have := h.received g hg (by simp [hdata])
      simpa using this
    · simpa [hgf] using h.received g hg
  · intro g hg hnone
    by_cases hgf : g = f
    · subst hgf; simp at hnone
    · -- The slice of another link is not touched by clearing a mask bit.
      simp only [hgf, ne_eq, not_false_eq_true, Function.update_of_ne] at hnone
      have hold := h.resolved g hg hnone
      rw [resolvedList_congr (d := d) (by simp [hgf]), resolve_ne o hgf]
      · exact h.resolved g hg hnone
      · intro k _
        have := FecCode.maskTable_le_slice ho hi g
        rw [h.slice g hg]
        exact Function.update_of_ne (by omega) _ _
  · intro g hg
    have hg' : g ∈ d.readyEncodedLinks ∨ g = f ∧ (d.encodedBlocks f).numUnresolvedIndices - 1 = 1 := by
      simp only at hg
      split at hg
      · rcases List.mem_cons.mp hg with rfl | hg
        · exact Or.inr ⟨rfl, by assumption⟩
        · exact Or.inl hg
      · exact Or.inl hg
    by_cases hgf : g = f
    · subst hgf
      refine ⟨hfec, by simp, ?_⟩
      rw [hcard]
      rcases hg' with hg' | ⟨_, hone⟩
      · exact (Nat.sub_le _ _).trans (h.ready g hg').2.2
      · rw [← h.unresolved g hfec, hone]
    · rcases hg' with hg' | ⟨hg', _⟩
      · simpa [hgf, resolve_ne o hgf] using h.ready g hg'
      · exact absurd hg' hgf

lemma round_missing (h : Inv c U d) {o i b f : Nat} (ho : o < c.blocks) (hi : i < c.masks)
    (hb : b < 32) (hf : f = i * 32 + b) (hmem : o ∈ U f)
    (hdata : (d.encodedBlocks f).data = none) : Inv c (resolve U o f) (d.round o i b) := by
  have hfec := h.fec_lt hmem
  have hroom := h.numResolved_lt hmem hdata
  have hlinks := h.indices_resolve hmem { d.encodedBlocks f with
    outputIndex := (d.encodedBlocks f).outputIndex ^^^ o
    numUnresolvedIndices := (d.encodedBlocks f).numUnresolvedIndices - 1
    numResolvedIndices := (d.encodedBlocks f).numResolvedIndices + 1 } rfl rfl rfl
  rw [round_of_none hf hdata, h.maskAddress_eq ho hi, h.slice f hfec]
  refine
    { outputBlocks := h.outputBlocks, masks := h.masks, encoded := h.encoded
      capacity := h.capacity, fault := ?_, drawn := h.drawn
      sub := h.sub_resolve o f, mask := ?_
      slice := fun g hg => (hlinks g hg).1, unresolved := fun g hg => (hlinks g hg).2.1
      index := fun g hg => (hlinks g hg).2.2
      received := ?_, resolved := ?_, ready := ?_ }
  · have := FecCode.slice_end_le hfec hroom
    rw [Fault.note_eq_none, decide_eq_true_eq]
    exact ⟨h.roundFault_eq_none ho hi (hf ▸ hmem), this.trans_le h.capacity⟩
  · intro o' ho' g hg
    have hword : g / 32 < c.masks := by omega
    have hclear := h.mask_clear (o := o) hi hb o' ho' g hg
    rw [← hf] at hclear
    rw [← hclear]
    exact congrArg (fun v : BitVec 32 => v.getLsbD (g % 32))
      (mask_of_slice (BitVec.ofNat 32 o) o' ho' (g / 32) hword)
  · intro g hg hsome
    by_cases hgf : g = f
    · subst hgf; simp [hdata] at hsome
    · simpa [hgf] using h.received g hg (by simpa [hgf] using hsome)
  · intro g hg hnone
    by_cases hgf : g = f
    · subst hgf
      obtain ⟨hnodup, hset⟩ := h.resolved g hg hdata
      have hfresh : o ∉ d.resolvedList g := by
        rw [← List.mem_toFinset, hset]
        simp [hmem]
      have ho32 : o < 2 ^ 32 := ho.trans c.blocks_lt
      rw [resolvedList_snoc (d := d) ho32 (by simp [h.slice g hg]) (by simp), resolve_self]
      · refine ⟨List.nodup_append.mpr ⟨hnodup, by simp, ?_⟩, ?_⟩
        · intro x hx y hy
          rw [List.mem_singleton.mp hy]
          rintro rfl
          exact hfresh hx
        · rw [List.toFinset_append, hset]
          ext x
          have := h.sub g hmem
          by_cases hx : x = o
          · subst hx; simp [this]
          · simp [hx]
      · intro k hk
        have h1 := FecCode.maskTable_le_slice ho hi g
        simp only [h.slice g hg]
        rw [Function.update_of_ne (by omega), Function.update_of_ne (by omega)]
      · simp [h.slice g hg]
    · simp only [hgf, ne_eq, not_false_eq_true, Function.update_of_ne] at hnone
      rw [resolvedList_congr (d := d) (by simp [hgf]), resolve_ne o hgf]
      · exact h.resolved g hg hnone
      · intro k hk
        rw [h.slice g hg]
        have hk' : k < c.blocks := hk.trans_le (h.numResolved_le hg)
        have h1 := FecCode.maskTable_le_slice ho hi g
        have h2 : c.slice g + k ≠ c.slice f + (d.encodedBlocks f).numResolvedIndices :=
          fun heq => hgf (FecCode.slice_inj hk' hroom heq).1
        simp only
        rw [Function.update_of_ne h2, Function.update_of_ne (by omega)]
  · intro g hg
    by_cases hgf : g = f
    · subst hgf
      have := (h.ready g hg).2.1
      simp [hdata] at this
    · simpa [hgf, resolve_ne o hgf] using h.ready g hg

lemma round (h : Inv c U d) {o i b : Nat} (ho : o < c.blocks) (hi : i < c.masks) (hb : b < 32)
    (hmem : o ∈ U (i * 32 + b)) : Inv c (resolve U o (i * 32 + b)) (d.round o i b) := by
  cases hdata : (d.encodedBlocks (i * 32 + b)).data with
  | some p => exact h.round_received ho hi hb rfl hmem hdata
  | none => exact h.round_missing ho hi hb rfl hmem hdata

end Inv

/-- A link that becomes ready in a round is put on the worklist. -/
lemma ReadyAll.round {E : Set Nat} (h : Inv c U d) (hready : ReadyAll c E U d) {o i b : Nat}
    (hmem : o ∈ U (i * 32 + b)) :
    ReadyAll c E (resolve U o (i * 32 + b)) (d.round o i b) := by
  intro g hg hE hsome hone
  cases hdata : (d.encodedBlocks (i * 32 + b)).data with
  | none =>
    rw [round_of_none rfl hdata] at hsome ⊢
    by_cases hgf : g = i * 32 + b
    · subst hgf; simp [hdata] at hsome
    · rw [resolve_ne o hgf] at hone
      exact hready g hg hE (by simpa [hgf] using hsome) hone
  | some p =>
    rw [round_of_some rfl hdata] at hsome ⊢
    by_cases hgf : g = i * 32 + b
    · subst hgf
      rw [h.card_resolve hmem, ← h.unresolved _ hg] at hone
      simp only [hone, if_true]
      exact List.mem_cons_self
    · rw [resolve_ne o hgf] at hone
      have hold := hready g hg hE (by simpa [hgf] using hsome) hone
      simp only
      split
      · exact List.mem_cons_of_mem _ hold
      · exact hold

/-! ### Propagating one decoded block -/

/-- Every received payload is the XOR of the blocks its link has not resolved yet. A link with
nothing left to resolve is not looked at again. -/
def Payloads (c : FecCode) (content : Bytes) (U : Nat → Finset Nat) (d : Decoder) : Prop :=
  ∀ f < c.fecBlocks, ∀ p, (d.encodedBlocks f).data = some p → (U f).Nonempty →
    ∀ j < d.blockSize, p j = blockXor content d.blockSize (U f) j

/-- A bound on the rounds the worklist loop still has to make: what is on the list, and the
received links that can still get there. -/
def work (c : FecCode) (U : Nat → Finset Nat) (d : Decoder) : Nat :=
  d.readyEncodedLinks.length +
    ((Finset.range c.fecBlocks).filter
      (fun f => (d.encodedBlocks f).data.isSome ∧ 2 ≤ (U f).card)).card

/-- What propagating the decoded block `o` does to a decoder that tracks `U`. -/
structure Progress (c : FecCode) (o : Nat) (U : Nat → Finset Nat) (d : Decoder)
    (U' : Nat → Finset Nat) (d' : Decoder) : Prop where
  inv : Inv c U' d'
  outputData : d'.outputData = d.outputData
  blockSize : d'.blockSize = d.blockSize
  decodedBlockMask : d'.decodedBlockMask = d.decodedBlockMask
  decodedBlocks : d'.decodedBlocks = d.decodedBlocks
  received : ∀ f, (d'.encodedBlocks f).data.isSome = (d.encodedBlocks f).data.isSome
  payloads : ∀ content, (∀ j < d.blockSize,
    d.outputData (d.blockSize * o + j) = content (d.blockSize * o + j)) →
    Payloads c content U d → Payloads c content U' d'
  readyAll : ∀ E, ReadyAll c E U d → ReadyAll c E U' d'
  work : work c U' d' ≤ work c U d

lemma Progress.refl {o : Nat} (h : Inv c U d) : Progress c o U d U d :=
  ⟨h, rfl, rfl, rfl, rfl, fun _ => rfl, fun _ _ hp => hp, fun _ hr => hr, le_rfl⟩

lemma Progress.trans {o : Nat} {U₁ U₂ U₃ : Nat → Finset Nat} {d₁ d₂ d₃ : Decoder}
    (h : Progress c o U₁ d₁ U₂ d₂) (h' : Progress c o U₂ d₂ U₃ d₃) :
    Progress c o U₁ d₁ U₃ d₃ where
  inv := h'.inv
  outputData := h'.outputData.trans h.outputData
  blockSize := h'.blockSize.trans h.blockSize
  decodedBlockMask := h'.decodedBlockMask.trans h.decodedBlockMask
  decodedBlocks := h'.decodedBlocks.trans h.decodedBlocks
  received f := (h'.received f).trans (h.received f)
  payloads content hblock hp := by
    refine h'.payloads content ?_ (h.payloads content hblock hp)
    rw [h.outputData, h.blockSize]
    exact hblock
  readyAll E hr := h'.readyAll E (h.readyAll E hr)
  work := h'.work.trans h.work

lemma Payloads.round {content : Bytes} (h : Inv c U d) (hp : Payloads c content U d) {o i b : Nat}
    (hmem : o ∈ U (i * 32 + b))
    (hblock : ∀ j < d.blockSize,
      d.outputData (d.blockSize * o + j) = content (d.blockSize * o + j)) :
    Payloads c content (resolve U o (i * 32 + b)) (d.round o i b) := by
  intro g hg q hq hne j hj
  cases hdata : (d.encodedBlocks (i * 32 + b)).data with
  | none =>
    rw [round_of_none rfl hdata] at hq hj ⊢
    by_cases hgf : g = i * 32 + b
    · subst hgf; simp [hdata] at hq
    · rw [resolve_ne o hgf] at hne ⊢
      exact hp g hg q (by simpa [hgf] using hq) hne j hj
  | some p =>
    rw [round_of_some rfl hdata] at hq hj ⊢
    by_cases hgf : g = i * 32 + b
    · subst hgf
      simp only [Function.update_self, Option.some.injEq] at hq
      subst hq
      simp only at hj
      rw [resolve_self]
      simp only [Bytes.xor, hj, if_true, Bytes.drop_apply]
      rw [hp _ (h.fec_lt hmem) p hdata ⟨o, hmem⟩ j hj, hblock j hj]
      exact blockXor_erase content d.blockSize j hmem
    · rw [resolve_ne o hgf] at hne ⊢
      exact hp g hg q (by simpa [hgf] using hq) hne j hj

lemma round_received_iff (o i b f : Nat) :
    ((d.round o i b).encodedBlocks f).data.isSome = (d.encodedBlocks f).data.isSome := by
  cases hdata : (d.encodedBlocks (i * 32 + b)).data with
  | none =>
    rw [round_of_none rfl hdata]
    by_cases hf : f = i * 32 + b
    · subst hf; simp
    · simp [hf]
  | some p =>
    rw [round_of_some rfl hdata]
    by_cases hf : f = i * 32 + b
    · subst hf; simp [hdata]
    · simp [hf]

/-- A link enters the worklist when it leaves the set of those that still can. -/
lemma work_round (h : Inv c U d) {o i b : Nat} (hmem : o ∈ U (i * 32 + b)) :
    work c (resolve U o (i * 32 + b)) (d.round o i b) ≤ work c U d := by
  have hf := h.fec_lt hmem
  have hcard := h.card_resolve hmem
  have hsub : ((Finset.range c.fecBlocks).filter (fun f =>
      ((d.round o i b).encodedBlocks f).data.isSome ∧ 2 ≤ (resolve U o (i * 32 + b) f).card)) ⊆
      (Finset.range c.fecBlocks).filter
        (fun f => (d.encodedBlocks f).data.isSome ∧ 2 ≤ (U f).card) := by
    intro f hmemf
    simp only [Finset.mem_filter, round_received_iff] at hmemf ⊢
    refine ⟨hmemf.1, hmemf.2.1, hmemf.2.2.trans ?_⟩
    by_cases hfe : f = i * 32 + b
    · rw [hfe, hcard]; exact Nat.sub_le _ _
    · rw [resolve_ne o hfe]
  unfold work
  cases hdata : (d.encodedBlocks (i * 32 + b)).data with
  | none =>
    refine Nat.add_le_add (le_of_eq ?_) (Finset.card_le_card hsub)
    rw [round_of_none rfl hdata]
  | some p =>
    by_cases hone : (d.encodedBlocks (i * 32 + b)).numUnresolvedIndices - 1 = 1
    · -- The link had two unresolved indices and has one now.
      have hready : (d.round o i b).readyEncodedLinks.length = d.readyEncodedLinks.length + 1 := by
        rw [round_of_some rfl hdata]; simp only [hone, if_true, List.length_cons]
      have hssub : ((Finset.range c.fecBlocks).filter (fun f =>
          ((d.round o i b).encodedBlocks f).data.isSome ∧
            2 ≤ (resolve U o (i * 32 + b) f).card)) ⊂
          (Finset.range c.fecBlocks).filter
            (fun f => (d.encodedBlocks f).data.isSome ∧ 2 ≤ (U f).card) := by
        refine (Finset.ssubset_iff_of_subset hsub).mpr ⟨i * 32 + b, ?_, ?_⟩
        · rw [h.unresolved _ hf] at hone
          simp [hf, hdata]
          omega
        · rw [h.unresolved _ hf, ← hcard] at hone
          rw [Finset.mem_filter, hone]
          rintro ⟨_, _, htwo⟩
          omega
      have := Finset.card_lt_card hssub
      omega
    · refine Nat.add_le_add (le_of_eq ?_) (Finset.card_le_card hsub)
      rw [round_of_some rfl hdata]
      simp [hone]

lemma progress_round (h : Inv c U d) {o i b : Nat} (ho : o < c.blocks) (hi : i < c.masks)
    (hb : b < 32) (hmem : o ∈ U (i * 32 + b)) :
    Progress c o U d (resolve U o (i * 32 + b)) (d.round o i b) := by
  have hfields : (d.round o i b).outputData = d.outputData ∧
      (d.round o i b).blockSize = d.blockSize ∧
      (d.round o i b).decodedBlockMask = d.decodedBlockMask ∧
      (d.round o i b).decodedBlocks = d.decodedBlocks := by
    cases hdata : (d.encodedBlocks (i * 32 + b)).data with
    | none => rw [round_of_none rfl hdata]; exact ⟨rfl, rfl, rfl, rfl⟩
    | some p => rw [round_of_some rfl hdata]; exact ⟨rfl, rfl, rfl, rfl⟩
  exact ⟨h.round ho hi hb hmem, hfields.1, hfields.2.1, hfields.2.2.1, hfields.2.2.2,
    round_received_iff o i b, fun content hblock hp => hp.round h hmem hblock,
    fun E hr => hr.round h hmem, work_round h hmem⟩

/-- The family after the links of word `i` have resolved the output block `o`. -/
def resolveWord (U : Nat → Finset Nat) (o i : Nat) : Nat → Finset Nat :=
  fun f => if f / 32 = i then (U f).erase o else U f

/-- The links of word `i` that still have to resolve `o`. -/
def pendingBits (U : Nat → Finset Nat) (o i : Nat) : Finset Nat :=
  (Finset.range 32).filter (fun b => o ∈ U (i * 32 + b))

lemma word_eq_zero_iff (h : Inv c U d) {o i : Nat} (ho : o < c.blocks) (hi : i < c.masks) :
    d.indexBuffer (o * c.masks + i) = 0 ↔ pendingBits U o i = ∅ := by
  constructor
  · intro hzero
    refine Finset.filter_eq_empty_iff.mpr fun b hb => ?_
    have hb := Finset.mem_range.mp hb
    have hmask := h.mask o ho (i * 32 + b) (by omega)
    have hword : (i * 32 + b) / 32 = i := by omega
    rw [hword, hzero] at hmask
    simpa using hmask.symm
  · intro hempty
    by_contra hne
    obtain ⟨b, hb, hbit⟩ := exists_getLsbD_of_ne_zero hne
    have hmem := h.mem_of_bit ho hi hb hbit
    exact Finset.filter_eq_empty_iff.mp hempty (Finset.mem_range.mpr hb) hmem

lemma pendingBits_resolve {o i b : Nat} (hb : b ∈ pendingBits U o i) :
    pendingBits (resolve U o (i * 32 + b)) o i = (pendingBits U o i).erase b := by
  ext k
  by_cases hk : k = b
  · subst hk; simp [pendingBits]
  · have hne : i * 32 + k ≠ i * 32 + b := by omega
    simp [pendingBits, resolve_ne o hne, hk]

lemma resolveWord_resolve {o i b : Nat} (hb : b < 32) :
    resolveWord (resolve U o (i * 32 + b)) o i = resolveWord U o i := by
  funext f
  simp only [resolveWord]
  by_cases hf : f = i * 32 + b
  · have hword : (i * 32 + b) / 32 = i := by omega
    subst hf
    simp [hword]
  · rw [resolve_ne o hf]

lemma resolveWord_of_none {o i : Nat} (h : pendingBits U o i = ∅) : resolveWord U o i = U := by
  funext f
  simp only [resolveWord]
  split
  · rename_i hf
    apply Finset.erase_eq_of_notMem
    have := Finset.filter_eq_empty_iff.mp h (Finset.mem_range.mpr (Nat.mod_lt f (by norm_num : 0 < 32)))
    have hsplit : i * 32 + f % 32 = f := by omega
    rwa [hsplit] at this
  · rfl

lemma note_true (d : Decoder) {ok : Bool} (hok : ok = true) (f : Fault) : d.note ok f = d := by
  subst hok
  rfl

/-- The loop over one mask word resolves `o` in every link the word names. -/
lemma progress_propagateWord {o i : Nat} (ho : o < c.blocks) (hi : i < c.masks) (fuel : Nat) :
    ∀ (U : Nat → Finset Nat) (d : Decoder), Inv c U d → (pendingBits U o i).card ≤ fuel →
      Progress c o U d (resolveWord U o i) (propagateWord o i fuel d) := by
  induction fuel with
  | zero =>
    intro U d h hcard
    have hempty : pendingBits U o i = ∅ := Finset.card_eq_zero.mp (by omega)
    have hzero := (word_eq_zero_iff h ho hi).mpr hempty
    rw [propagateWord, note_true _ (by rw [h.maskAddress_eq ho hi]; simpa using hzero),
      resolveWord_of_none hempty]
    exact Progress.refl h
  | succ fuel ih =>
    intro U d h hcard
    have haddr := h.maskAddress_eq ho hi
    rw [propagateWord]
    by_cases hzero : d.indexBuffer (d.maskAddress o i) = 0
    · have hempty := (word_eq_zero_iff h ho hi).mp (haddr ▸ hzero)
      simp only [hzero, if_true]
      rw [resolveWord_of_none hempty]
      exact Progress.refl h
    · simp only [hzero, if_false]
      obtain ⟨hb, hbit⟩ := findLsb_spec hzero
      let b := findLsb (d.indexBuffer (d.maskAddress o i))
      have hmem : o ∈ U (i * 32 + b) := h.mem_of_bit ho hi hb (haddr ▸ hbit)
      have hpending : b ∈ pendingBits U o i := by simp [pendingBits, b, hb, hmem]
      have hstep := progress_round h ho hi hb hmem
      have hrest := ih _ _ hstep.inv (by
        rw [pendingBits_resolve hpending, Finset.card_erase_of_mem hpending]; omega)
      rw [resolveWord_resolve hb] at hrest
      exact hstep.trans hrest

lemma progress_propagate {o : Nat} (h : Inv c U d) (ho : o < c.blocks) :
    Progress c o U d (fun f => (U f).erase o) (d.propagateDecodedBlock o) := by
  have hwords : ∀ k ≤ c.masks, Progress c o U d
      (fun f => if f / 32 < k then (U f).erase o else U f)
      ((List.range k).foldl (fun d i => propagateWord o i 32
        (d.note (d.maskAddress o i < d.indexBufferCapacity) .outOfBounds)) d) := by
    intro k
    induction k with
    | zero => exact fun _ => by simpa using Progress.refl h
    | succ k ih =>
      intro hk
      have hprev := ih (by omega)
      have hk' : k < c.masks := by omega
      rw [List.range_succ, List.foldl_append, List.foldl_cons, List.foldl_nil]
      have hbound : ∀ e : Decoder, Inv c (fun f => if f / 32 < k then (U f).erase o else U f) e →
          e.maskAddress o k < e.indexBufferCapacity := by
        intro e he
        rw [he.maskAddress_eq ho hk']
        have h1 := FecCode.maskTable_le_slice ho hk' 0
        have h2 : c.slice 0 ≤ (c.masks + c.fecBlocks) * c.blocks :=
          Nat.mul_le_mul_right _ (by omega)
        exact (h1.trans_le h2).trans_le he.capacity
      rw [note_true _ (by simpa using hbound _ hprev.inv)]
      have hcard : (pendingBits (fun f => if f / 32 < k then (U f).erase o else U f) o k).card ≤ 32 :=
        (Finset.card_filter_le _ _).trans (by simp)
      have hstep := hprev.trans (progress_propagateWord ho hk' 32 _ _ hprev.inv hcard)
      convert hstep using 1
      funext f
      simp only [resolveWord]
      by_cases h1 : f / 32 < k
      · have h2 : f / 32 ≠ k := by omega
        have h3 : f / 32 < k + 1 := by omega
        simp [h1, h2, h3]
      · by_cases h2 : f / 32 = k
        · simp [h2]
        · have h3 : ¬f / 32 < k + 1 := by omega
          simp [h1, h2, h3]
  have hall := hwords c.masks le_rfl
  rw [propagateDecodedBlock, h.masks]
  convert hall using 1
  funext f
  by_cases hf : f / 32 < c.masks
  · simp [hf]
  · have hempty : U f = ∅ := by
      by_contra hne
      exact hf (c.members_word f ((Finset.nonempty_iff_ne_empty.mpr hne).mono (h.sub f)))
    simp [hf, hempty]

end Decoder

end PyroFling
