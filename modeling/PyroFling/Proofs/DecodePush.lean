import PyroFling.Library.Peeling
import PyroFling.Proofs.DecodeInvariant

/-!
# Pushing blocks

Between two pushes the unresolved indices of every FEC block are its members that are not
decoded. A push adds blocks to the decoded set by peeling steps only, and stops when no
received FEC block has exactly one undecoded member.
-/

namespace PyroFling
open ByteMemory Peeling

namespace Decoder

variable {c : FecCode} {d : Decoder} {D : Finset Nat}

/-- The unresolved index sets once the blocks in `D` are decoded. -/
def unresolved (c : FecCode) (D : Finset Nat) : Nat → Finset Nat := fun f => c.members f \ D

/-- The decoder has decoded exactly the blocks in `D` and all its views agree on that. -/
structure Settled (c : FecCode) (D : Finset Nat) (d : Decoder) : Prop where
  inv : Inv c (unresolved c D) d
  mask : ∀ o, d.decodedBlockMask o = decide (o ∈ D)
  count : d.decodedBlocks = D.card
  sub : D ⊆ Finset.range c.blocks

/-- The decoded blocks hold their part of `content`, and so do the payloads. -/
structure Sound (c : FecCode) (content : Bytes) (D : Finset Nat) (d : Decoder) : Prop where
  blocks : ∀ o ∈ D, ∀ j < d.blockSize,
    d.outputData (d.blockSize * o + j) = content (d.blockSize * o + j)
  payloads : Payloads c content (unresolved c D) d

/-- The FEC blocks whose payload has arrived. -/
def receivedSet (c : FecCode) (d : Decoder) : Set Nat :=
  {f | f < c.fecBlocks ∧ (d.encodedBlocks f).data.isSome}

/-- What a piece of decoding does: the decoded set grows by peeling steps. -/
structure Advance (c : FecCode) (D : Finset Nat) (d : Decoder) (D' : Finset Nat) (d' : Decoder) :
    Prop where
  settled : Settled c D' d'
  readyAll : ReadyAll c ∅ (unresolved c D') d'
  sub : D ⊆ D'
  blockSize : d'.blockSize = d.blockSize
  received : ∀ f, (d'.encodedBlocks f).data.isSome = (d.encodedBlocks f).data.isSome
  peeled : ∀ S, PeelClosed c.members (receivedSet c d) S → (D : Set Nat) ⊆ S → (D' : Set Nat) ⊆ S
  sound : ∀ content, Sound c content D d → Sound c content D' d'

lemma Advance.refl (h : Settled c D d) (hr : ReadyAll c ∅ (unresolved c D) d) :
    Advance c D d D d :=
  ⟨h, hr, subset_rfl, rfl, fun _ => rfl, fun _ _ hD => hD, fun _ hs => hs⟩

lemma Advance.trans {D₁ D₂ D₃ : Finset Nat} {d₁ d₂ d₃ : Decoder} (h : Advance c D₁ d₁ D₂ d₂)
    (h' : Advance c D₂ d₂ D₃ d₃) : Advance c D₁ d₁ D₃ d₃ where
  settled := h'.settled
  readyAll := h'.readyAll
  sub := h.sub.trans h'.sub
  blockSize := h'.blockSize.trans h.blockSize
  received f := (h'.received f).trans (h.received f)
  peeled S hS hD := by
    refine h'.peeled S ?_ (h.peeled S hS hD)
    have hsame : receivedSet c d₂ = receivedSet c d₁ := by
      ext f; simp [receivedSet, h.received f]
    rwa [hsame]
  sound content hs := h'.sound content (h.sound content hs)

lemma unresolved_insert (o : Nat) :
    (fun f => (unresolved c D f).erase o) = unresolved c (insert o D) := by
  funext f
  ext x
  simp [unresolved]
  tauto

lemma settled_propagate (h : Settled c D d) {o : Nat} (ho : o < c.blocks) (hoD : o ∉ D) :
    let d₁ : Decoder := { d with
      decodedBlockMask := Function.update d.decodedBlockMask o true
      decodedBlocks := d.decodedBlocks + 1 }
    Settled c (insert o D) (d₁.propagateDecodedBlock o) ∧
      Progress c o (unresolved c D) d₁ (unresolved c (insert o D)) (d₁.propagateDecodedBlock o) := by
  intro d₁
  have hinv : Inv c (unresolved c D) d₁ :=
    { h.inv with }
  have hp := progress_propagate hinv ho
  rw [unresolved_insert] at hp
  refine ⟨⟨hp.inv, fun x => ?_, ?_, ?_⟩, hp⟩
  · rw [hp.decodedBlockMask]
    by_cases hx : x = o
    · subst hx; simp [d₁]
    · simp [d₁, hx, h.mask x]
  · rw [hp.decodedBlocks, Finset.card_insert_of_notMem hoD, ← h.count]
  · exact Finset.insert_subset (Finset.mem_range.mpr ho) h.sub

lemma drain_step (h : Settled c D d) (hr : ReadyAll c ∅ (unresolved c D) d) {f : Nat}
    {rest : List Nat} (hlist : d.readyEncodedLinks = f :: rest) :
    ∃ D', Advance c D d D' ({ d with readyEncodedLinks := rest }.drainReadyBlock f) ∧
      work c (unresolved c D') ({ d with readyEncodedLinks := rest }.drainReadyBlock f) + 1 ≤
        work c (unresolved c D) d := by
  have hmem : f ∈ d.readyEncodedLinks := by simp [hlist]
  obtain ⟨hf, hsome, hcard⟩ := h.inv.ready f hmem
  have hunresolved := h.inv.unresolved f hf
  let e : Decoder := { d with readyEncodedLinks := rest }
  have hinv : Inv c (unresolved c D) e :=
    { h.inv with ready := fun g hg => h.inv.ready g (hlist ▸ List.mem_cons_of_mem f hg) }
  have hwork : work c (unresolved c D) e + 1 = work c (unresolved c D) d := by
    simp only [work, e, hlist, List.length_cons]
    omega
  rcases Nat.le_one_iff_eq_zero_or_eq_one.mp hcard with hzero | hone
  · -- Somebody else has decoded the last member already.
    have hsame : e.drainReadyBlock f = e := by
      simp only [drainReadyBlock, e, hunresolved, hzero, if_true]
    refine ⟨D, ?_, ?_⟩
    · rw [hsame]
      refine ⟨⟨hinv, h.mask, h.count, h.sub⟩, fun g hg _ hgs hgc => ?_, subset_rfl, rfl,
        fun _ => rfl, fun _ _ hD => hD, fun _ hs => ⟨hs.blocks, hs.payloads⟩⟩
      have hin := hr g hg (Set.notMem_empty g) hgs hgc
      rw [hlist] at hin
      rcases List.mem_cons.mp hin with rfl | hin
      · omega
      · exact hin
    · rw [hsame]
      exact hwork.le
  · obtain ⟨o, ho⟩ := Finset.card_eq_one.mp hone
    obtain ⟨p, hp⟩ := Option.isSome_iff_exists.mp hsome
    have hindex : (d.encodedBlocks f).outputIndex = o := by
      rw [h.inv.index f hf, ho, indexXor_singleton]
    have hmem' : o ∈ unresolved c D f := ho ▸ Finset.mem_singleton_self o
    have hoc : o < c.blocks := c.members_lt f o (Finset.mem_sdiff.mp hmem').1
    have hoD : o ∉ D := (Finset.mem_sdiff.mp hmem').2
    let e' : Decoder := { e with
      outputData := d.outputData.store (d.blockSize * o) p d.blockSize }
    have hsettled : Settled c D e' := ⟨{ hinv with }, h.mask, h.count, h.sub⟩
    obtain ⟨hnew, hprog⟩ := settled_propagate hsettled hoc hoD
    have hdrain : e.drainReadyBlock f = propagateDecodedBlock { e' with
        decodedBlockMask := Function.update e'.decodedBlockMask o true
        decodedBlocks := e'.decodedBlocks + 1 } o := by
      have hmask : d.decodedBlockMask o = false := by simp [h.mask o, hoD]
      simp only [drainReadyBlock, e, e', hunresolved, hone, one_ne_zero, if_false, hindex, hp,
        markDecodedBlock, note, h.inv.outputBlocks, hoc, hmask, Option.isSome_some, decide_true,
        Fault.note_true, Bool.false_eq_true, Option.getD_some]
    have hgone : (unresolved c (insert o D) f).card = 0 := by
      have : unresolved c (insert o D) f = (unresolved c D f).erase o :=
        (congrFun (unresolved_insert (c := c) (D := D) o) f).symm
      rw [this, ho]
      simp
    refine ⟨insert o D, ?_, ?_⟩
    · rw [hdrain]
      refine ⟨hnew, ?_, Finset.subset_insert o D, hprog.blockSize, hprog.received, ?_, ?_⟩
      · have hexcept : ReadyAll c {f} (unresolved c D) e' := by
          intro g hg hgf hgs hgc
          have hin := hr g hg (Set.notMem_empty g) hgs hgc
          rw [hlist] at hin
          rcases List.mem_cons.mp hin with rfl | hin
          · exact absurd rfl hgf
          · exact hin
        intro g hg _ hgs hgc
        by_cases hgf : g = f
        · subst hgf; omega
        · exact hprog.readyAll {f} hexcept g hg hgf hgs hgc
      · intro S hS hD
        exact hS.insert_subset hD ⟨hf, hsome⟩ ho
      · intro content hs
        have hblock : ∀ j < d.blockSize, e'.outputData (d.blockSize * o + j) =
            content (d.blockSize * o + j) := by
          intro j hj
          refine (Bytes.store_apply_inside _ _ hj).trans ?_
          rw [hs.payloads f hf p hp ⟨o, hmem'⟩ j hj, ho, blockXor_singleton]
        refine ⟨?_, hprog.payloads content hblock hs.payloads⟩
        intro o' ho' j hj
        rw [hprog.blockSize] at hj ⊢
        rw [hprog.outputData]
        rcases Finset.mem_insert.mp ho' with rfl | ho'
        · exact hblock j hj
        · have hne : o' ≠ o := fun heq => hoD (heq ▸ ho')
          exact (Bytes.store_apply_outside _ _ (slot_disjoint hne hj)).trans (hs.blocks o' ho' j hj)
    · rw [hdrain]
      exact (Nat.add_le_add_right hprog.work 1).trans hwork.le

/-- The worklist loop ends with an empty list once its fuel covers the work. -/
lemma drain_all (fuel : Nat) : ∀ (D : Finset Nat) (d : Decoder), Settled c D d →
    ReadyAll c ∅ (unresolved c D) d → work c (unresolved c D) d ≤ fuel →
    ∃ D', Advance c D d D' (drainReadyBlocks fuel d) ∧
      (drainReadyBlocks fuel d).readyEncodedLinks = [] := by
  induction fuel with
  | zero =>
    intro D d h hr hwork
    have hempty : d.readyEncodedLinks = [] := by
      apply List.eq_nil_of_length_eq_zero
      unfold work at hwork
      omega
    rw [drainReadyBlocks, note_true _ (by simp [hempty])]
    exact ⟨D, Advance.refl h hr, hempty⟩
  | succ fuel ih =>
    intro D d h hr hwork
    cases hlist : d.readyEncodedLinks with
    | nil =>
      have hsame : drainReadyBlocks (fuel + 1) d = d := by simp only [drainReadyBlocks, hlist]
      rw [hsame]
      exact ⟨D, Advance.refl h hr, hlist⟩
    | cons f rest =>
      simp only [drainReadyBlocks, hlist]
      obtain ⟨D₁, hstep, hless⟩ := drain_step h hr hlist
      obtain ⟨D₂, hrest, hdone⟩ := ih D₁ _ hstep.settled hstep.readyAll (by omega)
      exact ⟨D₂, hstep.trans hrest, hdone⟩

/-- The decoder between two pushes. -/
structure Quiet (c : FecCode) (D : Finset Nat) (d : Decoder) : Prop extends Settled c D d where
  idle : d.readyEncodedLinks = []
  solved : ∀ f < c.fecBlocks, (d.encodedBlocks f).data.isSome → (c.members f \ D).card ≠ 1

lemma Quiet.readyAll (h : Quiet c D d) : ReadyAll c ∅ (unresolved c D) d :=
  fun f hf _ hsome hone => absurd hone (h.solved f hf hsome)

/-- What a push comes to: starting from the decoded blocks `D₀` and the received FEC blocks `F`,
the decoder ends with the decoded blocks `D` that peeling gives. -/
structure PushOutcome (c : FecCode) (D₀ : Finset Nat) (F : Set Nat) (D : Finset Nat)
    (r : Bool × Decoder) : Prop where
  quiet : Quiet c D r.2
  sub : D₀ ⊆ D
  received : receivedSet c r.2 = F
  peeled : ∀ S, PeelClosed c.members F S → (D₀ : Set Nat) ⊆ S → (D : Set Nat) ⊆ S
  done : r.1 = true ↔ D = Finset.range c.blocks

lemma finishPush_spec (h : Settled c D d) (hr : ReadyAll c ∅ (unresolved c D) d) :
    ∃ D', PushOutcome c D (receivedSet c d) D' d.finishPush ∧
      d.finishPush.2.blockSize = d.blockSize ∧
      ∀ content, Sound c content D d → Sound c content D' d.finishPush.2 := by
  have hwork : work c (unresolved c D) d ≤ d.readyEncodedLinks.length + d.numEncodedBlocks := by
    rw [h.inv.encoded, work]
    have hcount := Finset.card_filter_le (Finset.range c.fecBlocks)
      (fun f => (d.encodedBlocks f).data.isSome ∧ 2 ≤ (unresolved c D f).card)
    rw [Finset.card_range] at hcount
    omega
  obtain ⟨D', hadv, hidle⟩ := drain_all _ D d h hr hwork
  let e := drainReadyBlocks (d.readyEncodedLinks.length + d.numEncodedBlocks) d
  have hret : (e.decodedBlocks = e.outputBlocks) ↔ D' = Finset.range c.blocks := by
    rw [hadv.settled.count, hadv.settled.inv.outputBlocks]
    constructor
    · intro hcard
      exact Finset.eq_of_subset_of_card_le hadv.settled.sub (by simp [hcard])
    · intro heq
      simp [heq]
  -- A complete message leaves no index unresolved, so the debug check holds.
  have hfinish : d.finishPush = (decide (e.decodedBlocks = e.outputBlocks), e) := by
    have hcheck : (!decide (e.decodedBlocks = e.outputBlocks) || (List.range e.numEncodedBlocks).all
        (fun i => (e.encodedBlocks i).numUnresolvedIndices = 0)) = true := by
      by_cases hall : e.decodedBlocks = e.outputBlocks
      · have hzero : ∀ i < e.numEncodedBlocks, (e.encodedBlocks i).numUnresolvedIndices = 0 := by
          intro i hi
          have hi' : i < c.fecBlocks := hadv.settled.inv.encoded ▸ hi
          rw [hadv.settled.inv.unresolved i hi', Finset.card_eq_zero, unresolved,
            Finset.sdiff_eq_empty_iff_subset, hret.mp hall]
          exact fun x hx => Finset.mem_range.mpr (c.members_lt i x hx)
        simpa [hall] using hzero
      · simp [hall]
    simp only [finishPush]
    rw [note_true _ hcheck]
  rw [hfinish]
  have hreceived : receivedSet c e = receivedSet c d := by
    ext f; simp [receivedSet, hadv.received f, e]
  refine ⟨D', ⟨⟨hadv.settled, hidle, ?_⟩, hadv.sub, hreceived, hadv.peeled, by simpa using hret⟩,
    hadv.blockSize, hadv.sound⟩
  intro f hf hsome hone
  have := hadv.readyAll f hf (Set.notMem_empty f) hsome hone
  simp [hidle] at this

lemma reducePayload_apply (d : Decoder) (f : Nat) (data : Bytes) {j : Nat} (hj : j < d.blockSize) :
    d.reducePayload (d.encodedBlocks f) data j = (d.resolvedList f).foldl
      (fun acc o => acc ^^^ d.outputData (d.blockSize * o + j)) (data j) := by
  unfold reducePayload resolvedList
  rw [List.foldl_map]
  generalize List.range (d.encodedBlocks f).numResolvedIndices = l
  induction l generalizing data with
  | nil => rfl
  | cons k l ih => simp only [List.foldl_cons, ih, Bytes.xor, hj, if_true, Bytes.drop_apply]

/-- Reducing a payload by the resolved indices leaves the XOR of the unresolved ones. -/
lemma reducePayload_eq {content : Bytes} {f : Nat} {data : Bytes}
    (hblocks : ∀ o ∈ D, ∀ j < d.blockSize,
      d.outputData (d.blockSize * o + j) = content (d.blockSize * o + j))
    (hnodup : (d.resolvedList f).Nodup)
    (hset : (d.resolvedList f).toFinset = c.members f \ unresolved c D f)
    {j : Nat} (hj : j < d.blockSize)
    (hdata : data j = blockXor content d.blockSize (c.members f) j) :
    d.reducePayload (d.encodedBlocks f) data j =
      blockXor content d.blockSize (unresolved c D f) j := by
  have hsub : ∀ o ∈ d.resolvedList f, o ∈ c.members f ∧ o ∈ D := by
    intro o ho
    have hmem : o ∈ c.members f \ unresolved c D f := hset ▸ List.mem_toFinset.mpr ho
    simpa [unresolved] using hmem
  have hpeel : ∀ (l : List Nat) (s : Finset Nat), l.Nodup → (∀ o ∈ l, o ∈ s ∧ o ∈ D) →
      l.foldl (fun acc o => acc ^^^ d.outputData (d.blockSize * o + j))
        (blockXor content d.blockSize s j) = blockXor content d.blockSize (s \ l.toFinset) j := by
    intro l
    induction l with
    | nil => intro s _ _; simp
    | cons o l ih =>
      intro s hl hin
      obtain ⟨hol, hl⟩ := List.nodup_cons.mp hl
      obtain ⟨hos, hoD⟩ := hin o List.mem_cons_self
      rw [List.foldl_cons, hblocks o hoD j hj, blockXor_erase _ _ _ hos, ih (s.erase o) hl]
      · congr 1
        ext x
        simp
        tauto
      · intro x hx
        have hxo : x ≠ o := fun heq => hol (heq ▸ hx)
        obtain ⟨hxs, hxD⟩ := hin x (List.mem_cons_of_mem _ hx)
        exact ⟨Finset.mem_erase.mpr ⟨hxo, hxs⟩, hxD⟩
  rw [reducePayload_apply d f data hj, hdata, hpeel _ _ hnodup hsub, hset]
  congr 1
  ext x
  simp [unresolved]

lemma pushRawBlock_spec (h : Quiet c D d) {o : Nat} (ho : o < c.blocks) :
    ∃ D', PushOutcome c (insert o D) (receivedSet c d) D' (d.pushRawBlock o) ∧
      (d.pushRawBlock o).2.blockSize = d.blockSize ∧
      ∀ content, Sound c content D d →
        (∀ j < d.blockSize, d.outputData (d.blockSize * o + j) = content (d.blockSize * o + j)) →
        Sound c content D' (d.pushRawBlock o).2 := by
  have hnote : d.note (o < d.outputBlocks) .outOfBounds = d :=
    note_true _ (by simpa [h.inv.outputBlocks] using ho) _
  by_cases hoD : o ∈ D
  · have hsame : d.pushRawBlock o = d.finishPush := by
      simp only [pushRawBlock, markDecodedBlock, hnote, h.mask o, hoD, decide_true, if_true]
    obtain ⟨D', hout, hsize, hsound⟩ := finishPush_spec h.toSettled h.readyAll
    rw [hsame, Finset.insert_eq_of_mem hoD]
    exact ⟨D', hout, hsize, fun content hs _ => hsound content hs⟩
  · obtain ⟨hsettled, hprog⟩ := settled_propagate h.toSettled ho hoD
    have heq : d.pushRawBlock o = finishPush (propagateDecodedBlock { d with
        decodedBlockMask := Function.update d.decodedBlockMask o true
        decodedBlocks := d.decodedBlocks + 1 } o) := by
      simp only [pushRawBlock, markDecodedBlock, hnote, h.mask o, hoD, decide_false,
        Bool.false_eq_true, if_false]
    obtain ⟨D', hout, hsize, hsound⟩ := finishPush_spec hsettled (hprog.readyAll ∅ h.readyAll)
    rw [heq]
    refine ⟨D', ?_, hsize.trans hprog.blockSize, fun content hs hblock => hsound content ?_⟩
    · convert hout using 1
      ext f
      simp [receivedSet, hprog.received f]
    · refine ⟨?_, hprog.payloads content hblock hs.payloads⟩
      rw [hprog.blockSize, hprog.outputData]
      intro o' ho'
      rcases Finset.mem_insert.mp ho' with rfl | ho'
      · exact hblock
      · exact hs.blocks o' ho'

/-- The decoder with a payload for the link `f`, before the worklist is drained. -/
def stored (c : FecCode) (D : Finset Nat) (d : Decoder) (f : Nat) (p : Bytes) : Decoder :=
  { d.setLink f { d.encodedBlocks f with data := some p, numResolvedIndices := 0 } with
    readyEncodedLinks := if (unresolved c D f).card = 1 then f :: d.readyEncodedLinks
      else d.readyEncodedLinks }

lemma stored_self (f : Nat) (p : Bytes) : (stored c D d f p).encodedBlocks f =
    { d.encodedBlocks f with data := some p, numResolvedIndices := 0 } := by
  simp [stored, setLink]

lemma stored_other {f g : Nat} (hg : g ≠ f) (p : Bytes) :
    (stored c D d f p).encodedBlocks g = d.encodedBlocks g := by
  simp [stored, setLink, hg]

/-- The payload leaves the indices of its link alone. -/
lemma stored_indices (f : Nat) (p : Bytes) (g : Nat) :
    ((stored c D d f p).encodedBlocks g).resolvedIndices = (d.encodedBlocks g).resolvedIndices ∧
      ((stored c D d f p).encodedBlocks g).numUnresolvedIndices =
        (d.encodedBlocks g).numUnresolvedIndices ∧
      ((stored c D d f p).encodedBlocks g).outputIndex = (d.encodedBlocks g).outputIndex := by
  rcases eq_or_ne g f with rfl | hg
  · rw [stored_self]
    exact ⟨rfl, rfl, rfl⟩
  · rw [stored_other hg]
    exact ⟨rfl, rfl, rfl⟩

lemma Quiet.stored_inv (h : Quiet c D d) {f : Nat} (hf : f < c.fecBlocks) (p : Bytes) :
    Inv c (unresolved c D) (stored c D d f p) := by
  refine { h.inv with
    slice := fun g hg => (stored_indices f p g).1.trans (h.inv.slice g hg)
    unresolved := fun g hg => (stored_indices f p g).2.1.trans (h.inv.unresolved g hg)
    index := fun g hg => (stored_indices f p g).2.2.trans (h.inv.index g hg)
    received := ?_, resolved := ?_, ready := ?_ } <;> intro g hg
  · rcases eq_or_ne g f with rfl | hgf
    · rw [stored_self]
      exact fun _ => rfl
    · rw [stored_other hgf]
      exact h.inv.received g hg
  · rcases eq_or_ne g f with rfl | hgf
    · rw [stored_self]
      exact fun hnone => absurd hnone (Option.some_ne_none p)
    · have hlist : (stored c D d f p).resolvedList g = d.resolvedList g :=
        resolvedList_congr (stored_other hgf p) (fun _ _ => rfl)
      rw [stored_other hgf, hlist]
      exact h.inv.resolved g hg
  · simp only [stored, h.idle] at hg
    split at hg
    · rename_i hone
      obtain rfl := List.mem_singleton.mp hg
      exact ⟨hf, by simp [stored_self], hone.le⟩
    · exact absurd hg List.not_mem_nil

lemma Quiet.stored_ready (h : Quiet c D d) (f : Nat) (p : Bytes) :
    ReadyAll c ∅ (unresolved c D) (stored c D d f p) := by
  intro g hg _ hsome hone
  rcases eq_or_ne g f with rfl | hgf
  · simp [stored, hone]
  · rw [stored_other hgf] at hsome
    exact absurd hone (h.solved g hg hsome)

/-- A second copy of a payload is taken as it is. This does no harm as long as nothing has been
taken out of the first copy, or nothing is left in it. -/
lemma pushFecBlock_spec (h : Quiet c D d) {f : Nat} (hf : f < c.fecBlocks) (data : Bytes) :
    ∃ D', PushOutcome c D (insert f (receivedSet c d)) D' (d.pushFecBlock f data) ∧
      (d.pushFecBlock f data).2.blockSize = d.blockSize ∧
      ∀ content, Sound c content D d →
        ((c.members f).Nonempty →
          ∀ j < d.blockSize, data j = blockXor content d.blockSize (c.members f) j) →
        ((d.encodedBlocks f).data = none ∨ unresolved c D f = c.members f ∨
          unresolved c D f = ∅) →
        Sound c content D' (d.pushFecBlock f data).2 := by
  have hnote : d.note (f < d.numEncodedBlocks) .assertion = d :=
    note_true _ (by simpa [h.inv.encoded] using hf) _
  let p := d.reducePayload (d.encodedBlocks f) data
  have heq : d.pushFecBlock f data = (stored c D d f p).finishPush := by
    by_cases hone : (unresolved c D f).card = 1 <;>
    · simp only [pushFecBlock, hnote, h.inv.unresolved f hf, hone, stored, if_true, if_false]
      rfl
  obtain ⟨D', hout, hsize, hsound⟩ :=
    finishPush_spec ⟨h.stored_inv hf p, h.mask, h.count, h.sub⟩ (h.stored_ready f p)
  rw [heq]
  refine ⟨D', ?_, hsize, fun content hs hdata hcopy => hsound content ⟨hs.blocks, ?_⟩⟩
  · convert hout using 1
    ext g
    by_cases hgf : g = f
    · subst hgf; simp [receivedSet, stored_self, hf]
    · simp [receivedSet, stored_other hgf, hgf]
  · intro g hg q hq hne j hj
    by_cases hgf : g = f
    · subst hgf
      rw [stored_self] at hq
      obtain rfl := Option.some.inj hq
      have hmembers : (c.members g).Nonempty := hne.mono Finset.sdiff_subset
      rcases hcopy with hnone | hall | hempty
      · obtain ⟨hnodup, hset⟩ := h.inv.resolved g hg hnone
        exact reducePayload_eq hs.blocks hnodup hset hj (hdata hmembers j hj)
      · -- Nothing is resolved yet, so there is nothing to take out.
        cases hold : (d.encodedBlocks g).data with
        | none =>
          obtain ⟨hnodup, hset⟩ := h.inv.resolved g hg hold
          exact reducePayload_eq hs.blocks hnodup hset hj (hdata hmembers j hj)
        | some q =>
          have hzero := h.inv.received g hg (by simp [hold])
          have hp : p = data := by simp [p, reducePayload, hzero]
          rw [hp, hdata hmembers j hj, hall]
          rfl
      · rw [hempty] at hne
        exact absurd hne Finset.not_nonempty_empty
    · rw [stored_other hgf] at hq
      exact hs.payloads g hg q hq hne j hj

end Decoder

end PyroFling
