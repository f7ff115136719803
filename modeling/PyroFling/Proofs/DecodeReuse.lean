import PyroFling.Proofs.DecodeOverflow

/-!
# A used decoder works like a new one

Between messages a decoder keeps its shuffler's storage and its index buffer, with whatever
they hold. This file runs two decoders with different leftovers side by side: as long as no
fault occurs they read only what they have written since `begin_decode`, and so they stay in
step.
-/

namespace PyroFling
open ByteMemory

namespace Decoder

/-- `d` with the storage of `e`. -/
def transplant (d e : Decoder) : Decoder :=
  { d with
    shuffler := e.shuffler
    indexBuffer := e.indexBuffer
    indexBufferCapacity := e.indexBufferCapacity
    fault := e.fault }

/-- The storage of `e` agrees with that of `d` wherever `d` will read before it writes. -/
structure Matches (d e : Decoder) : Prop where
  shuffler : Shuffler.Agree d.shuffler e.shuffler
  mask : ∀ o < d.outputBlocks, ∀ i < d.numU32MasksPerOutput,
    e.indexBuffer (d.maskAddress o i) = d.indexBuffer (d.maskAddress o i)
  resolved : ∀ f, ∀ k < (d.encodedBlocks f).numResolvedIndices,
    e.indexBuffer ((d.encodedBlocks f).resolvedIndices + k) =
      d.indexBuffer ((d.encodedBlocks f).resolvedIndices + k)

/-- Two decoders in step. -/
def InStep (d d' : Decoder) : Prop := ∃ e, d' = d.transplant e ∧ Matches d e

lemma update_congr {m m' : Nat → BitVec 32} {a : Nat} (h : m' a = m a) (x : Nat) (v : BitVec 32) :
    Function.update m' x v a = Function.update m x v a := by
  by_cases hax : a = x
  · subst hax; simp
  · simp [hax, h]

variable {d d' : Decoder}

lemma InStep.note (h : InStep d d') (ok ok' : Bool) (f : Fault) :
    InStep (d.note ok f) (d'.note ok' f) := by
  obtain ⟨e, rfl, hm⟩ := h
  exact ⟨e.note ok' f, rfl, hm.shuffler, hm.mask, hm.resolved⟩

lemma InStep.storeIndex (h : InStep d d') (a : Nat) (v : BitVec 32) :
    InStep (d.storeIndex a v) (d'.storeIndex a v) := by
  obtain ⟨e, rfl, hm⟩ := h
  exact ⟨e.storeIndex a v, rfl, hm.shuffler,
    fun o ho i hi => update_congr (hm.mask o ho i hi) a v,
    fun f k hk => update_congr (hm.resolved f k hk) a v⟩

lemma InStep.setLink (h : InStep d d') (f : Nat) (block : EncodedLink)
    (hblock : ∀ k < block.numResolvedIndices,
      d'.indexBuffer (block.resolvedIndices + k) = d.indexBuffer (block.resolvedIndices + k)) :
    InStep (d.setLink f block) (d'.setLink f block) := by
  obtain ⟨e, rfl, hm⟩ := h
  refine ⟨e, rfl, hm.shuffler, hm.mask, fun g k hk => ?_⟩
  by_cases hgf : g = f
  · subst hgf
    simp only [Decoder.setLink, Function.update_self] at hk ⊢
    exact hblock k hk
  · simp only [Decoder.setLink, Function.update_of_ne hgf] at hk ⊢
    exact hm.resolved g k hk

lemma InStep.ready (h : InStep d d') (l : List Nat) :
    InStep { d with readyEncodedLinks := l } { d' with readyEncodedLinks := l } := by
  obtain ⟨e, rfl, hm⟩ := h
  exact ⟨e, rfl, hm.shuffler, hm.mask, hm.resolved⟩

lemma InStep.push (h : InStep d d') (f : Nat) :
    InStep { d with readyEncodedLinks := f :: d.readyEncodedLinks }
      { d' with readyEncodedLinks := f :: d'.readyEncodedLinks } := by
  obtain ⟨e, rfl, hm⟩ := h
  exact ⟨e, rfl, hm.shuffler, hm.mask, hm.resolved⟩

lemma InStep.output (h : InStep d d') (data : Bytes) :
    InStep { d with outputData := data } { d' with outputData := data } := by
  obtain ⟨e, rfl, hm⟩ := h
  exact ⟨e, rfl, hm.shuffler, hm.mask, hm.resolved⟩

lemma InStep.store (h : InStep d d') (o : Nat) (block : Bytes) :
    InStep { d with outputData := d.outputData.store (d.blockSize * o) block d.blockSize }
      { d' with outputData := d'.outputData.store (d'.blockSize * o) block d'.blockSize } := by
  obtain ⟨e, rfl, hm⟩ := h
  exact ⟨e, rfl, hm.shuffler, hm.mask, hm.resolved⟩

lemma InStep.decoded (h : InStep d d') (mask : Nat → Bool) (count : Nat) :
    InStep { d with decodedBlockMask := mask, decodedBlocks := count }
      { d' with decodedBlockMask := mask, decodedBlocks := count } := by
  obtain ⟨e, rfl, hm⟩ := h
  exact ⟨e, rfl, hm.shuffler, hm.mask, hm.resolved⟩

lemma InStep.fields (h : InStep d d') : d'.encodedBlocks = d.encodedBlocks ∧
    d'.blockSize = d.blockSize ∧ d'.outputData = d.outputData ∧ d'.outputBlocks = d.outputBlocks ∧
    d'.decodedBlocks = d.decodedBlocks ∧ d'.decodedBlockMask = d.decodedBlockMask ∧
    d'.readyEncodedLinks = d.readyEncodedLinks ∧ d'.numEncodedBlocks = d.numEncodedBlocks ∧
    d'.numU32MasksPerOutput = d.numU32MasksPerOutput := by
  obtain ⟨e, rfl, -⟩ := h
  exact ⟨rfl, rfl, rfl, rfl, rfl, rfl, rfl, rfl, rfl⟩

lemma InStep.resolved (h : InStep d d') (f : Nat) :
    ∀ k < (d.encodedBlocks f).numResolvedIndices,
      d'.indexBuffer ((d.encodedBlocks f).resolvedIndices + k) =
        d.indexBuffer ((d.encodedBlocks f).resolvedIndices + k) := by
  obtain ⟨e, rfl, hm⟩ := h
  exact hm.resolved f

lemma InStep.resolveLink (h : InStep d d') (o f : Nat) :
    InStep (d.resolveLink o f) (d'.resolveLink o f) := by
  obtain ⟨hlinks, hsize, hdata, -, -, -, hready, -, -⟩ := h.fields
  unfold Decoder.resolveLink
  simp only [hlinks]
  have hnoted := (h.note (f < d.numEncodedBlocks) (f < d'.numEncodedBlocks) .outOfBounds).note
    ((d.encodedBlocks f).numUnresolvedIndices ≠ 0) ((d.encodedBlocks f).numUnresolvedIndices ≠ 0)
    .assertion
  cases hpayload : (d.encodedBlocks f).data with
  | some payload =>
    have hlink := hnoted.setLink f { d.encodedBlocks f with
      data := some (payload.xor (d.outputData.drop (d.blockSize * o)) d.blockSize)
      outputIndex := (d.encodedBlocks f).outputIndex ^^^ o
      numUnresolvedIndices := (d.encodedBlocks f).numUnresolvedIndices - 1 } (h.resolved f)
    by_cases hone : (d.encodedBlocks f).numUnresolvedIndices - 1 = 1
    · simp only [hone, if_true]
      have := hlink.ready (f :: d.readyEncodedLinks)
      convert this using 2 <;> simp [Decoder.note, Decoder.setLink, hone, hsize, hdata, hready]
    · simp only [hone, if_false]
      convert hlink using 2 <;> simp [Decoder.note, hsize, hdata]
  | none =>
    have hstored := hnoted.storeIndex ((d.encodedBlocks f).resolvedIndices +
      (d.encodedBlocks f).numResolvedIndices) (BitVec.ofNat 32 o)
    refine hstored.setLink f _ fun k hk => ?_
    simp only at hk ⊢
    by_cases hlast : k = (d.encodedBlocks f).numResolvedIndices
    · simp [Decoder.storeIndex, hlast]
    · exact update_congr (h.resolved f k (by omega)) _ _

lemma InStep.maskWord (h : InStep d d') {o i : Nat} (ho : o < d.outputBlocks)
    (hi : i < d.numU32MasksPerOutput) : d'.maskAddress o i = d.maskAddress o i ∧
      d'.indexBuffer (d.maskAddress o i) = d.indexBuffer (d.maskAddress o i) := by
  obtain ⟨e, rfl, hm⟩ := h
  exact ⟨rfl, hm.mask o ho i hi⟩

/-- Propagation does not change the geometry. -/
def SameShape (d e : Decoder) : Prop :=
  e.outputBlocks = d.outputBlocks ∧ e.numU32MasksPerOutput = d.numU32MasksPerOutput

lemma SameShape.trans {d₁ d₂ d₃ : Decoder} (h : SameShape d₁ d₂) (h' : SameShape d₂ d₃) :
    SameShape d₁ d₃ := ⟨h'.1.trans h.1, h'.2.trans h.2⟩

lemma sameShape_note (d : Decoder) (ok : Bool) (f : Fault) : SameShape d (d.note ok f) := ⟨rfl, rfl⟩

lemma sameShape_storeIndex (d : Decoder) (a : Nat) (v : BitVec 32) :
    SameShape d (d.storeIndex a v) := ⟨rfl, rfl⟩

lemma sameShape_setLink (d : Decoder) (f : Nat) (block : EncodedLink) :
    SameShape d (d.setLink f block) := ⟨rfl, rfl⟩

lemma sameShape_resolveLink (d : Decoder) (o f : Nat) : SameShape d (d.resolveLink o f) := by
  unfold Decoder.resolveLink
  simp only
  have hnoted : ∀ ok ok', SameShape d ((d.note ok .outOfBounds).note ok' .assertion) :=
    fun ok ok' => (sameShape_note d ok _).trans (sameShape_note _ ok' _)
  split
  · split <;> exact ⟨rfl, rfl⟩
  · exact ((hnoted _ _).trans (sameShape_setLink _ f _)).trans (sameShape_storeIndex _ _ _)

lemma sameShape_propagateWord (o i fuel : Nat) (d : Decoder) :
    SameShape d (Decoder.propagateWord o i fuel d) := by
  induction fuel generalizing d with
  | zero => exact sameShape_note d _ _
  | succ fuel ih =>
    rw [Decoder.propagateWord]
    simp only
    split
    · exact ⟨rfl, rfl⟩
    · refine ((sameShape_storeIndex d _ _).trans (sameShape_resolveLink _ o _)).trans (ih _)

/-- `propagate_decoded_block` for one word of the mask table. -/
lemma InStep.propagateWord {o i : Nat} (fuel : Nat) (h : InStep d d') (ho : o < d.outputBlocks)
    (hi : i < d.numU32MasksPerOutput) :
    InStep (Decoder.propagateWord o i fuel d) (Decoder.propagateWord o i fuel d') := by
  induction fuel generalizing d d' with
  | zero => exact h.note _ _ _
  | succ fuel ih =>
    obtain ⟨haddr, hword⟩ := h.maskWord ho hi
    rw [Decoder.propagateWord, Decoder.propagateWord]
    simp only [haddr, hword]
    split
    · exact h
    · have hstep := (h.storeIndex (d.maskAddress o i) (d.indexBuffer (d.maskAddress o i) &&&
        ~~~(1#32 <<< findLsb (d.indexBuffer (d.maskAddress o i))))).resolveLink o
          (i * 32 + findLsb (d.indexBuffer (d.maskAddress o i)))
      obtain ⟨hblocks, hmasks⟩ := sameShape_resolveLink (d.storeIndex (d.maskAddress o i)
        (d.indexBuffer (d.maskAddress o i) &&&
          ~~~(1#32 <<< findLsb (d.indexBuffer (d.maskAddress o i))))) o
          (i * 32 + findLsb (d.indexBuffer (d.maskAddress o i)))
      exact ih hstep (hblocks ▸ ho) (hmasks ▸ hi)

lemma InStep.propagateDecodedBlock {o : Nat} (h : InStep d d') (ho : o < d.outputBlocks) :
    InStep (d.propagateDecodedBlock o) (d'.propagateDecodedBlock o) := by
  have hwords : ∀ (l : List Nat) (d d' : Decoder), InStep d d' → o < d.outputBlocks →
      (∀ i ∈ l, i < d.numU32MasksPerOutput) →
      InStep (l.foldl (fun d i => Decoder.propagateWord o i 32
        (d.note (d.maskAddress o i < d.indexBufferCapacity) .outOfBounds)) d)
        (l.foldl (fun d i => Decoder.propagateWord o i 32
        (d.note (d.maskAddress o i < d.indexBufferCapacity) .outOfBounds)) d') := by
    intro l
    induction l with
    | nil => exact fun _ _ h _ _ => h
    | cons i l ih =>
      intro d d' h ho hl
      have hnote := h.note (d.maskAddress o i < d.indexBufferCapacity)
        (d'.maskAddress o i < d'.indexBufferCapacity) .outOfBounds
      obtain ⟨hblocks, hmasks⟩ := sameShape_propagateWord o i 32
        (d.note (d.maskAddress o i < d.indexBufferCapacity) .outOfBounds)
      refine ih _ _ (hnote.propagateWord 32 ho (hl i List.mem_cons_self)) (hblocks.symm ▸ ho) ?_
      intro j hj
      rw [hmasks]
      exact hl j (List.mem_cons_of_mem i hj)
  obtain ⟨-, -, -, -, -, -, -, -, hmasks⟩ := h.fields
  unfold Decoder.propagateDecodedBlock
  rw [hmasks]
  exact hwords _ d d' h ho fun i hi => List.mem_range.mp hi

lemma InStep.markDecodedBlock (h : InStep d d') (o : Nat) :
    (d'.markDecodedBlock o).1 = (d.markDecodedBlock o).1 ∧
      InStep (d.markDecodedBlock o).2 (d'.markDecodedBlock o).2 := by
  obtain ⟨-, -, -, hblocks, hcount, hmask, -, -, -⟩ := h.fields
  have hnote := h.note (o < d.outputBlocks) (o < d'.outputBlocks) .outOfBounds
  cases hdone : d.decodedBlockMask o with
  | true =>
    have hdone' : d'.decodedBlockMask o = true := by rw [hmask, hdone]
    simp only [Decoder.markDecodedBlock, Decoder.note, hdone, hdone', if_true]
    exact ⟨trivial, hnote⟩
  | false =>
    have hdone' : d'.decodedBlockMask o = false := by rw [hmask, hdone]
    simp only [Decoder.markDecodedBlock, Decoder.note, hdone, hdone', Bool.false_eq_true, if_false]
    refine ⟨trivial, ?_⟩
    rw [hmask, hcount]
    exact hnote.decoded _ _

lemma markDecodedBlock_outputBlocks (d : Decoder) (o : Nat) :
    (d.markDecodedBlock o).2.outputBlocks = d.outputBlocks := by
  unfold Decoder.markDecodedBlock
  simp only
  split <;> rfl

/-- A decoder ready to mark the last member of an FEC block, after its three assertions. -/
def checkReady (d : Decoder) (f : Nat) : Decoder :=
  ((d.note ((d.encodedBlocks f).numUnresolvedIndices = 1) .assertion).note
    (d.encodedBlocks f).data.isSome .assertion).note
    ((d.encodedBlocks f).outputIndex < d.outputBlocks) .assertion

lemma drainReadyBlock_eq (d : Decoder) {f : Nat}
    (h : (d.encodedBlocks f).numUnresolvedIndices ≠ 0) :
    d.drainReadyBlock f =
      let r := (d.checkReady f).markDecodedBlock (d.encodedBlocks f).outputIndex
      if r.1 then
        propagateDecodedBlock { r.2 with
          outputData := r.2.outputData.store (r.2.blockSize * (d.encodedBlocks f).outputIndex)
            ((d.encodedBlocks f).data.getD (fun _ => 0)) r.2.blockSize }
          (d.encodedBlocks f).outputIndex
      else r.2 := by
  have hblocks : ∀ (e : Decoder) ok fault, (e.note ok fault).outputBlocks = e.outputBlocks :=
    fun _ _ _ => rfl
  unfold Decoder.drainReadyBlock
  rw [if_neg h]
  rcases hmarked : (d.checkReady f).markDecodedBlock (d.encodedBlocks f).outputIndex with ⟨_ | _, e⟩ <;>
  · rw [checkReady] at hmarked
    simp only [hblocks, hmarked]
    rfl

lemma InStep.drainReadyBlock (h : InStep d d') {f : Nat} (hfree : (d.drainReadyBlock f).FaultFree) :
    InStep (d.drainReadyBlock f) (d'.drainReadyBlock f) := by
  have hlinks := h.fields.1
  by_cases hzero : (d.encodedBlocks f).numUnresolvedIndices = 0
  · simp only [Decoder.drainReadyBlock, hlinks, hzero, if_true]
    exact h
  · have hcheck : InStep (d.checkReady f) (d'.checkReady f) := by
      unfold checkReady
      rw [hlinks]
      exact ((h.note _ _ _).note _ _ _).note _ _ _
    obtain ⟨hsame, hmarked⟩ := hcheck.markDecodedBlock (d.encodedBlocks f).outputIndex
    have hblocks : ((d.checkReady f).markDecodedBlock (d.encodedBlocks f).outputIndex).2.outputBlocks =
        d.outputBlocks := markDecodedBlock_outputBlocks _ _
    rw [drainReadyBlock_eq d hzero] at hfree ⊢
    rw [drainReadyBlock_eq d' (by rwa [hlinks]), hlinks]
    simp only [hsame] at hfree ⊢
    split_ifs at hfree ⊢ with hnew
    · -- The assertions held, so the index is in range.
      have hchecked : (d.checkReady f).FaultFree := by
        have := hfree.of_propagateDecodedBlock
        exact (show ((d.checkReady f).markDecodedBlock _).2.FaultFree from this).of_markDecodedBlock.1
      have hindex : (d.encodedBlocks f).outputIndex < d.outputBlocks := by
        simpa using hchecked.of_note.2
      exact (hmarked.store _ _).propagateDecodedBlock (hblocks.symm ▸ hindex)
    · exact hmarked

lemma InStep.drainReadyBlocks {fuel : Nat} (h : InStep d d')
    (hfree : (Decoder.drainReadyBlocks fuel d).FaultFree) :
    InStep (Decoder.drainReadyBlocks fuel d) (Decoder.drainReadyBlocks fuel d') := by
  induction fuel generalizing d d' with
  | zero => exact h.note _ _ _
  | succ fuel ih =>
    have hready : d'.readyEncodedLinks = d.readyEncodedLinks := h.fields.2.2.2.2.2.2.1
    cases hlist : d.readyEncodedLinks with
    | nil =>
      simp only [Decoder.drainReadyBlocks, hready, hlist]
      exact h
    | cons f rest =>
      simp only [Decoder.drainReadyBlocks, hready, hlist] at hfree ⊢
      exact ih ((h.ready rest).drainReadyBlock hfree.of_drainReadyBlocks) hfree

lemma InStep.finishPush (h : InStep d d') (hfree : d.finishPush.2.FaultFree) :
    d'.finishPush.1 = d.finishPush.1 ∧ InStep d.finishPush.2 d'.finishPush.2 := by
  obtain ⟨-, -, -, -, -, -, hready, hencoded, -⟩ := h.fields
  have hdrain := h.drainReadyBlocks hfree.of_note.1
  obtain ⟨-, -, -, hblocks, hcount, -⟩ := hdrain.fields
  unfold Decoder.finishPush
  simp only [hready, hencoded]
  exact ⟨by rw [hblocks, hcount], hdrain.note _ _ _⟩

lemma InStep.pushRawBlock (h : InStep d d') {o : Nat} (hfree : (d.pushRawBlock o).2.FaultFree) :
    (d'.pushRawBlock o).1 = (d.pushRawBlock o).1 ∧
      InStep (d.pushRawBlock o).2 (d'.pushRawBlock o).2 := by
  have ho := hfree.of_pushRawBlock.2
  obtain ⟨hsame, hmarked⟩ := h.markDecodedBlock o
  have hblocks := markDecodedBlock_outputBlocks d o
  unfold Decoder.pushRawBlock at hfree ⊢
  rcases hmark : d.markDecodedBlock o with ⟨new, e⟩
  rcases hmark' : d'.markDecodedBlock o with ⟨new', e'⟩
  rw [hmark] at hsame hmarked hblocks hfree
  rw [hmark'] at hsame hmarked
  simp only at hsame hmarked hblocks
  subst hsame
  cases new' with
  | true => exact (hmarked.propagateDecodedBlock (hblocks.symm ▸ ho)).finishPush hfree
  | false => exact hmarked.finishPush hfree

lemma InStep.reducePayload (h : InStep d d') (f : Nat) (data : Bytes) :
    d'.reducePayload (d.encodedBlocks f) data = d.reducePayload (d.encodedBlocks f) data := by
  obtain ⟨-, hsize, hdata, -⟩ := h.fields
  unfold Decoder.reducePayload
  rw [hsize, hdata]
  apply List.foldl_ext
  intro acc k hk
  rw [h.resolved f k (List.mem_range.mp hk)]

lemma InStep.pushFecBlock (h : InStep d d') {f : Nat} {data : Bytes}
    (hfree : (d.pushFecBlock f data).2.FaultFree) :
    (d'.pushFecBlock f data).1 = (d.pushFecBlock f data).1 ∧
      InStep (d.pushFecBlock f data).2 (d'.pushFecBlock f data).2 := by
  have hlinks := h.fields.1
  have hlink := (h.note (f < d.numEncodedBlocks) (f < d'.numEncodedBlocks) .assertion).setLink f
    { d.encodedBlocks f with
      data := some (d.reducePayload (d.encodedBlocks f) data), numResolvedIndices := 0 }
    (fun k hk => absurd hk (Nat.not_lt_zero k))
  have hreduce : (d'.note (f < d'.numEncodedBlocks) .assertion).reducePayload (d.encodedBlocks f) data =
      d.reducePayload (d.encodedBlocks f) data := h.reducePayload f data
  unfold Decoder.pushFecBlock at hfree ⊢
  have hsame : (d.note (f < d.numEncodedBlocks) .assertion).encodedBlocks = d.encodedBlocks := rfl
  have hsame' : (d'.note (f < d'.numEncodedBlocks) .assertion).encodedBlocks = d.encodedBlocks := hlinks
  simp only [hsame, hsame', hreduce] at hfree ⊢
  split_ifs at hfree ⊢
  · exact (hlink.push f).finishPush hfree
  · exact hlink.finishPush hfree

/-! ### The start -/

/-- Two freshly seeded decoders are in step, whatever they held before. -/
lemma Seeded.inStep {c : FecCode} {even odd : Nat} {s s' : Shuffler} {output : Nat × Bytes}
    (h : Seeded c even odd s output c.fecBlocks d) (h' : Seeded c even odd s' output c.fecBlocks d')
    (hs : Shuffler.Agree s s') : InStep d d' := by
  have hoffset := h'.offset.trans h.offset.symm
  obtain ⟨hsize, hdata⟩ := Prod.mk.inj (h'.output.trans h.output.symm)
  have hlinks : d'.encodedBlocks = d.encodedBlocks := by
    funext f
    rcases Nat.lt_or_ge f c.fecBlocks with hf | hf
    · rw [h.drawn f hf, h'.drawn f hf]
    · rw [h.fresh f hf, h'.fresh f hf]
  refine ⟨d', ?_, ⟨?_, ?_, ?_⟩⟩
  · cases d
    cases d'
    simp only [transplant, Decoder.mk.injEq, true_and, and_true]
    exact ⟨hsize, hdata, h'.outputBlocks.trans h.outputBlocks.symm, h'.count.trans h.count.symm,
      h'.degrees.1.trans h.degrees.1.symm, h'.degrees.2.trans h.degrees.2.symm, hoffset,
      h'.masks.trans h.masks.symm, h'.idle.trans h.idle.symm, hlinks,
      h'.encoded.trans h.encoded.symm, h'.undecoded.trans h.undecoded.symm⟩
  · rw [h.shuffler, h'.shuffler]
    exact hs.after c.blocks even odd c.fecBlocks
  · intro o ho i hi
    rw [h.outputBlocks] at ho
    rw [h.masks] at hi
    rw [maskAddress_of_lt h.masks ho hi]
    -- The words agree bit by bit.
    refine BitVec.eq_of_getLsbD_eq fun j hj => ?_
    have hword : (32 * i + j) / 32 = i := by omega
    have hbit : (32 * i + j) % 32 = j := by omega
    have hmask := h.mask o ho (32 * i + j) (by omega)
    have hmask' := h'.mask o ho (32 * i + j) (by omega)
    rw [hword, hbit] at hmask hmask'
    rw [hmask, hmask']
  · intro f k hk
    rcases Nat.lt_or_ge f c.fecBlocks with hf | hf
    · rw [h.drawn f hf] at hk
      exact absurd hk (Nat.not_lt_zero k)
    · rw [h.fresh f hf] at hk
      exact absurd hk (Nat.not_lt_zero k)

/-- After `begin_decode` a used decoder is in step with any other, and both work. -/
lemma beginDecode_inStep {n fecBlocks even odd : Nat} (hfits : ArenaFits n fecBlocks even odd)
    (hdegree : ∀ f < fecBlocks, fecDegree even odd f ≤ n) (d d' : Decoder) (seed : Nat) (data : Bytes)
    (hB : 0 < d.blockSize) (hB' : d'.blockSize = d.blockSize) :
    let r := d.beginDecode seed data (n * d.blockSize) fecBlocks even odd
    let r' := d'.beginDecode seed data (n * d.blockSize) fecBlocks even odd
    InStep r r' ∧ Quiet (fecCode seed hfits hdegree) ∅ r ∧ Quiet (fecCode seed hfits hdegree) ∅ r' := by
  intro r r'
  let c := fecCode seed hfits hdegree
  have hmembers : ∀ f < c.fecBlocks, c.members f = (fecIndices seed c.blocks even odd f).toFinset :=
    fun f hf => if_pos hf
  have h := beginDecode_seeded (c := c) d seed data hB rfl hdegree hmembers
  have h' := beginDecode_seeded (c := c) d' seed data (hB' ▸ hB) rfl hdegree hmembers
  rw [hB'] at h'
  have hagree : Shuffler.Agree (d.shuffler.seed seed).flush (d'.shuffler.seed seed).flush :=
    (d.shuffler.seed_flush_agree d'.shuffler seed).trans
      (d'.shuffler.seed_flush_agree d'.shuffler seed).symm
  exact ⟨h.inStep h' hagree, h.quiet (Shuffler.valid_of_flush d.shuffler seed n) hdegree,
    h'.quiet (Shuffler.valid_of_flush d'.shuffler seed n) hdegree⟩

end Decoder

end PyroFling
