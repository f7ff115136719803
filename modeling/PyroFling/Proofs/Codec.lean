import PyroFling.Proofs.DecodeOverflow

/-!
# Encoder against decoder

The two guarantees of the FEC codec. What the decoder recovers is right, for every order in
which raw and FEC blocks arrive and whichever of them are lost. And it recovers as much as
peeling can: the decoded blocks are the least set that contains the raw blocks and is closed
under solving FEC blocks with a single unknown member.

Both need the index arena to fit: `begin_decode` computes its size in `unsigned`, and a
product that wraps makes the arena too small for what is written to it.
-/

namespace PyroFling
open ByteMemory Peeling

namespace Decoder

variable {c : FecCode} {d : Decoder} {D : Finset Nat}

lemma Quiet.faultFree (h : Quiet c D d) : FaultFree d := ⟨h.inv.fault, h.inv.drawn⟩

lemma Quiet.fill (h : Quiet c D d) (data : Bytes) : Quiet c D { d with outputData := data } :=
  ⟨⟨{ h.inv with }, h.mask, h.count, h.sub⟩, h.idle, h.solved⟩

/-- The raw indices and the FEC indices of a sequence of pushes. -/
def rawIndices (pushes : List Push) : List Nat := pushes.filterMap Push.rawIndex

def fecArrivals (pushes : List Push) : List Nat := pushes.filterMap Push.fecIndex

/-! ### Decoding is peeling -/

/-- The decoder has received the FEC blocks in `F` and decoded what peeling gives from the raw
blocks in `R`. -/
structure Peeled (c : FecCode) (F R : Set Nat) (D : Finset Nat) (r : Bool × Decoder) : Prop where
  quiet : Quiet c D r.2
  received : receivedSet c r.2 = F
  least : IsLeast (closedSets c.members F R) (D : Set Nat)
  done : (F ∪ R).Nonempty → (r.1 = true ↔ D = Finset.range c.blocks)

lemma PushOutcome.closed {D₀ D : Finset Nat} {F : Set Nat} {r : Bool × Decoder}
    (h : PushOutcome c D₀ F D r) : PeelClosed c.members F (D : Set Nat) := by
  refine peelClosed_of_card fun f hf => ?_
  rw [← h.received] at hf
  exact h.quiet.solved f hf.1 hf.2

/-- A push leads from one least closed set to the next. -/
lemma PushOutcome.isLeast {D₀ D₁ D : Finset Nat} {F F' R R' : Set Nat} {r : Bool × Decoder}
    (h : PushOutcome c D₁ F' D r) (hleast : IsLeast (closedSets c.members F R) (D₀ : Set Nat))
    (hF : F ⊆ F') (hR : R ⊆ R') (hsub : R' ⊆ (D₁ : Set Nat))
    (hD : ∀ S, R' ⊆ S → (D₀ : Set Nat) ⊆ S → (D₁ : Set Nat) ⊆ S) :
    IsLeast (closedSets c.members F' R') (D : Set Nat) := by
  refine isLeast_closedSets_extend hleast hF hR (hsub.trans fun x hx => h.sub hx) h.closed ?_
  intro S hS hRS hDS
  exact h.peeled S hS (hD S hRS hDS)

lemma PushOutcome.isLeast_raw {D₀ D : Finset Nat} {F R : Set Nat} {r : Bool × Decoder} {o : Nat}
    (h : PushOutcome c (insert o D₀) F D r)
    (hleast : IsLeast (closedSets c.members F R) (D₀ : Set Nat)) :
    IsLeast (closedSets c.members F (R ∪ {o})) (D : Set Nat) := by
  refine h.isLeast hleast subset_rfl Set.subset_union_left ?_ ?_
  · rw [Finset.coe_insert, Set.union_singleton]
    exact Set.insert_subset_insert hleast.1.1
  · intro S hRS hDS
    rw [Finset.coe_insert, Set.insert_subset_iff]
    exact ⟨hRS (Or.inr rfl), hDS⟩

lemma PushOutcome.isLeast_fec {D₀ D : Finset Nat} {F R : Set Nat} {r : Bool × Decoder} {f : Nat}
    (h : PushOutcome c D₀ (insert f F) D r)
    (hleast : IsLeast (closedSets c.members F R) (D₀ : Set Nat)) :
    IsLeast (closedSets c.members (insert f F) R) (D : Set Nat) :=
  h.isLeast hleast (Set.subset_insert f F) subset_rfl hleast.1.1 fun _ _ hDS => hDS

lemma Peeled.push {F R : Set Nat} {r : Bool × Decoder} (h : Peeled c F R D r) (p : Push)
    (hraw : ∀ o, p.rawIndex = some o → o < c.blocks)
    (hfec : ∀ f, p.fecIndex = some f → f < c.fecBlocks) :
    ∃ D', Peeled c (F ∪ {f | p.fecIndex = some f}) (R ∪ {o | p.rawIndex = some o}) D'
      (Decoder.push r p) := by
  cases p with
  | raw o =>
    obtain ⟨D', hout, -, -⟩ := pushRawBlock_spec h.quiet (hraw o rfl)
    have hR : {x | (Push.raw o).rawIndex = some x} = {o} := by
      ext x; simp [Push.rawIndex, eq_comm]
    have hF : F ∪ {f | (Push.raw o).fecIndex = some f} = F := by simp [Push.fecIndex]
    rw [hR, hF]
    rw [h.received] at hout
    exact ⟨D', hout.quiet, hout.received, hout.isLeast_raw h.least, fun _ => hout.done⟩
  | fec f data =>
    obtain ⟨D', hout, -, -⟩ := pushFecBlock_spec h.quiet (hfec f rfl) data
    have hF : F ∪ {x | (Push.fec f data).fecIndex = some x} = insert f F := by
      ext x; simp [Push.fecIndex, eq_comm]
    have hR : R ∪ {o | (Push.fec f data).rawIndex = some o} = R := by simp [Push.rawIndex]
    rw [hR, hF]
    rw [h.received] at hout
    exact ⟨D', hout.quiet, hout.received, hout.isLeast_fec h.least, fun _ => hout.done⟩
  | fill data =>
    have hF : F ∪ {f | (Push.fill data).fecIndex = some f} = F := by simp [Push.fecIndex]
    have hR : R ∪ {o | (Push.fill data).rawIndex = some o} = R := by simp [Push.rawIndex]
    rw [hR, hF]
    exact ⟨D, h.quiet.fill data, h.received, h.least, h.done⟩

lemma Peeled.pushAll (pushes : List Push) (hraw : ∀ o ∈ rawIndices pushes, o < c.blocks)
    (hfec : ∀ f ∈ fecArrivals pushes, f < c.fecBlocks) {F R : Set Nat} {r : Bool × Decoder}
    (h : Peeled c F R D r) :
    ∃ D', Peeled c (F ∪ {f | f ∈ fecArrivals pushes}) (R ∪ {o | o ∈ rawIndices pushes}) D'
      (Decoder.pushAll r pushes) := by
  induction pushes generalizing F R D r with
  | nil => exact ⟨D, by simpa [fecArrivals, rawIndices, Decoder.pushAll] using h⟩
  | cons p pushes ih =>
    obtain ⟨D₁, h₁⟩ := h.push p
      (fun o ho => hraw o (List.mem_filterMap.mpr ⟨p, List.mem_cons_self, ho⟩))
      (fun f hf => hfec f (List.mem_filterMap.mpr ⟨p, List.mem_cons_self, hf⟩))
    obtain ⟨D₂, h₂⟩ := ih
      (fun o ho => hraw o (by
        obtain ⟨q, hq, hqo⟩ := List.mem_filterMap.mp ho
        exact List.mem_filterMap.mpr ⟨q, List.mem_cons_of_mem p hq, hqo⟩))
      (fun f hf => hfec f (by
        obtain ⟨q, hq, hqf⟩ := List.mem_filterMap.mp hf
        exact List.mem_filterMap.mpr ⟨q, List.mem_cons_of_mem p hq, hqf⟩)) h₁
    refine ⟨D₂, ?_⟩
    convert h₂ using 1
    · ext f
      simp [fecArrivals, List.mem_filterMap, or_assoc]
    · ext o
      simp [rawIndices, List.mem_filterMap, or_assoc]
    · rfl

/-! ### What is decoded is right -/

/-- A sequence of actions that a careful owner takes: a raw block is announced when it is in the
buffer, FEC payloads are intact, and the buffer is not changed where it is decoded. -/
def Admissible (n : Nat) (content : Bytes) (fecBlocks : List Bytes) :
    List Push → Bool × Decoder → Prop
  | [], _ => True
  | p :: pushes, r =>
    (match p with
      | .raw o => o < n ∧ ∀ j < r.2.blockSize,
          r.2.outputData (r.2.blockSize * o + j) = content (r.2.blockSize * o + j)
      | .fec f data => f < fecBlocks.length ∧
          ∀ j < r.2.blockSize, data j = fecBlocks.getD f (fun _ => 0) j
      | .fill data => ∀ o, r.2.decodedBlockMask o = true → ∀ j < r.2.blockSize,
          data (r.2.blockSize * o + j) = r.2.outputData (r.2.blockSize * o + j)) ∧
      Admissible n content fecBlocks pushes (push r p)

/-- The decoder with everything it has recovered in its place. -/
structure Recovered (c : FecCode) (content : Bytes) (B : Nat) (D : Finset Nat) (r : Bool × Decoder) :
    Prop where
  quiet : Quiet c D r.2
  blockSize : r.2.blockSize = B
  sound : Sound c content D r.2
  done : r.1 = true → D = Finset.range c.blocks

lemma Recovered.pushAll {content : Bytes} {B : Nat} {fecBlocks : List Bytes}
    (hlength : fecBlocks.length = c.fecBlocks)
    (hintact : ∀ f < c.fecBlocks, (c.members f).Nonempty → ∀ j < B,
      fecBlocks.getD f (fun _ => 0) j = blockXor content B (c.members f) j) :
    ∀ (pushes : List Push) (D : Finset Nat) (r : Bool × Decoder), Recovered c content B D r →
      Admissible c.blocks content fecBlocks pushes r → (fecArrivals pushes).Nodup →
      (∀ f ∈ fecArrivals pushes, f ∉ receivedSet c r.2) →
      ∃ D', Recovered c content B D' (Decoder.pushAll r pushes) := by
  intro pushes
  induction pushes with
  | nil => exact fun D r h _ _ _ => ⟨D, h⟩
  | cons p pushes ih =>
    intro D r h hadm hnodup hnew
    obtain ⟨hp, hrest⟩ := hadm
    cases p with
    | raw o =>
      obtain ⟨D', hout, hsize, hsound⟩ := pushRawBlock_spec h.quiet hp.1
      refine ih D' _ ⟨hout.quiet, hsize.trans h.blockSize, hsound content h.sound hp.2,
        hout.done.mp⟩ hrest hnodup ?_
      rw [show (Decoder.push r (.raw o)) = r.2.pushRawBlock o from rfl, hout.received]
      exact hnew
    | fec f data =>
      obtain ⟨hf, hdata⟩ := hp
      rw [hlength] at hf
      obtain ⟨D', hout, hsize, hsound⟩ := pushFecBlock_spec h.quiet hf data
      obtain ⟨hfresh, hnodup⟩ := List.nodup_cons.mp hnodup
      have hcopy : (r.2.encodedBlocks f).data = none := by
        by_contra hsome
        exact hnew f List.mem_cons_self ⟨hf, Option.isSome_iff_ne_none.mpr hsome⟩
      refine ih D' _ ⟨hout.quiet, hsize.trans h.blockSize, hsound content h.sound ?_ (Or.inl hcopy),
        hout.done.mp⟩ hrest hnodup ?_
      · intro hne j hj
        rw [hdata j hj, h.blockSize]
        exact hintact f hf hne j (h.blockSize ▸ hj)
      · rw [show (Decoder.push r (.fec f data)) = r.2.pushFecBlock f data from rfl, hout.received]
        rintro g hg (rfl | hold)
        · exact hfresh hg
        · exact hnew g (List.mem_cons_of_mem f hg) hold
    | fill data =>
      refine ih D _ ⟨h.quiet.fill data, h.blockSize, ⟨?_, h.sound.payloads⟩, h.done⟩ hrest hnodup hnew
      intro o ho j hj
      have hmask : r.2.decodedBlockMask o = true := by simp [h.quiet.mask o, ho]
      exact (hp o hmask j hj).trans (h.sound.blocks o ho j hj)

end Decoder

/-! ### The codec -/

/-- The number of blocks of a message. -/
def blockCount (size blockSize : Nat) : Nat := (size + blockSize - 1) / blockSize

/-- What the encoder produces is intact in the sense of the decoder's code. -/
lemma encode_intact (e : Encoder) (message xorData : Bytes) (size seed : Nat) {c : FecCode}
    {even odd : Nat} (hB : 0 < e.blockSize) (hn : c.blocks = blockCount size e.blockSize)
    (heven : even ≤ c.blocks) (hodd : odd ≤ c.blocks)
    (hmembers : ∀ f < c.fecBlocks,
      c.members f = (fecIndices seed c.blocks even odd f).toFinset) :
    (e.encode seed xorData message size c.fecBlocks even odd).1.length = c.fecBlocks ∧
      ∀ f < c.fecBlocks, (c.members f).Nonempty → ∀ j < e.blockSize,
        (e.encode seed xorData message size c.fecBlocks even odd).1.getD f (fun _ => 0) j =
          blockXor (padded message size) e.blockSize (c.members f) j := by
  rcases Nat.eq_zero_or_pos c.fecBlocks with hzero | hpos
  · rw [hzero]
    exact ⟨rfl, fun f hf => absurd hf (Nat.not_lt_zero f)⟩
  · obtain ⟨hlength, hblocks⟩ := e.encode_data message hn hB (c.blocks_le hpos.ne')
      heven hodd seed c.fecBlocks xorData
    refine ⟨hlength, fun f hf hne j hj => ?_⟩
    have hdegree : 0 < fecDegree even odd f := by
      rw [← length_fecIndices seed c.blocks even odd f, List.length_pos_iff]
      rintro hnil
      rw [hmembers f hf, hnil] at hne
      exact Finset.not_nonempty_empty hne
    rw [hblocks f j hf hj hdegree, hmembers f hf]

/-- Soundness of the codec for one message: every block marked as decoded holds the zero-padded
original block, and a push that returns true leaves the message in the buffer. -/
structure Restores (message : Bytes) (size blockSize : Nat) (r : Bool × Decoder) : Prop where
  faultFree : r.2.FaultFree
  blocks : ∀ o, r.2.decodedBlockMask o = true → ∀ j < blockSize,
    r.2.outputData (blockSize * o + j) = padded message size (blockSize * o + j)
  message : r.1 = true → ∀ a < size, r.2.outputData a = message a

/-- Whatever the encoder and the decoder did before, and in whichever order blocks arrive or get
lost, the decoder only ever recovers original blocks. -/
def CodecSound (B size seed fecBlocks even odd : Nat) : Prop :=
  ∀ (e : Encoder) (d : Decoder) (message xorData buffer : Bytes) (pushes : List Push),
    e.blockSize = B → d.blockSize = B →
    let n := blockCount size B
    let start := (false, d.beginDecode seed buffer (n * B) fecBlocks even odd)
    Decoder.Admissible n (padded message size)
      (e.encode seed xorData message size fecBlocks even odd).1 pushes start →
    (Decoder.fecArrivals pushes).Nodup → Restores message size B (Decoder.pushAll start pushes)

variable {B size seed n fecBlocks even odd : Nat}

lemma codecSound_of_arenaFits (hB : 0 < B) (heven : even ≤ blockCount size B)
    (hodd : odd ≤ blockCount size B) (hfits : ArenaFits (blockCount size B) fecBlocks even odd) :
    CodecSound B size seed fecBlocks even odd := by
  intro e d message xorData buffer pushes he hd n start hadm honce
  subst he
  have hdegree : ∀ f < fecBlocks, fecDegree even odd f ≤ _ := fun f _ => fecDegree_le heven hodd f
  let c := fecCode seed hfits hdegree
  have hmembers : ∀ f < c.fecBlocks, c.members f = (fecIndices seed c.blocks even odd f).toFinset :=
    fun f hf => if_pos hf
  obtain ⟨hquiet, hblock, -, hlinks⟩ :=
    Decoder.beginDecode_spec (c := c) d seed buffer (hd ▸ hB) rfl hdegree hmembers
  rw [hd] at hquiet hblock hlinks
  obtain ⟨hlength, hintact⟩ := encode_intact e message xorData size seed hB rfl heven hodd hmembers
  have hstart : Decoder.Recovered c (padded message size) e.blockSize ∅ start := by
    refine ⟨hquiet, hblock, ⟨fun o ho => absurd ho (Finset.notMem_empty o), ?_⟩, by simp [start]⟩
    intro f hf p hp
    exact absurd ((hlinks f hf).symm.trans hp) (Option.some_ne_none p).symm
  obtain ⟨D, hend⟩ := hstart.pushAll hlength hintact pushes ∅ _ hadm honce (by
    rintro f - ⟨hf, hsome⟩
    exact Option.isSome_iff_ne_none.mp hsome (hlinks f hf))
  have hdecoded := hend.sound.blocks
  rw [hend.blockSize] at hdecoded
  refine ⟨hend.quiet.faultFree, fun o ho => ?_, fun hdone a ha => ?_⟩
  · rw [hend.quiet.mask o, decide_eq_true_eq] at ho
    exact hdecoded o ho
  · -- Byte `a` lies in block `a / B`.
    have hblock : a / e.blockSize ∈ D := by
      rw [hend.done hdone]
      refine Finset.mem_range.mpr ((lt_blockCount_iff hB).mpr ?_)
      exact lt_of_le_of_lt (Nat.mul_div_le a e.blockSize) ha
    have hbyte := hdecoded _ hblock (a % e.blockSize) (Nat.mod_lt a hB)
    rw [Nat.div_add_mod] at hbyte
    rw [hbyte, padded, if_pos ha]

lemma not_codecSound_of_overflow (hB : 0 < B) (hF : fecBlocks < 2 ^ 32)
    (heven : even ≤ blockCount size B) (hodd : odd ≤ blockCount size B)
    (hfits : ¬ArenaFits (blockCount size B) fecBlocks even odd) :
    ¬CodecSound B size seed fecBlocks even odd := by
  intro hsound
  -- A message of zeros, which is in the buffer from the start.
  obtain ⟨o, ho, -, hfault⟩ :=
    Decoder.fault_of_not_arenaFits seed (fun _ => 0) hB hF heven hodd hfits
  refine hfault (hsound { blockSize := B } { blockSize := B } (fun _ => 0) (fun _ => 0) (fun _ => 0)
    [.raw o] rfl rfl ⟨⟨ho, fun j _ => ?_⟩, trivial⟩ List.nodup_nil).faultFree
  rw [Decoder.beginDecode_outputData (d := { blockSize := B }) rfl hB]
  simp [padded]

/-- The codec is sound for exactly the messages whose index arena can be counted in 32 bits. -/
theorem codecSound_iff_arenaFits (hB : 0 < B) (hF : fecBlocks < 2 ^ 32)
    (heven : even ≤ blockCount size B) (hodd : odd ≤ blockCount size B) :
    CodecSound B size seed fecBlocks even odd ↔
      ArenaFits (blockCount size B) fecBlocks even odd := by
  constructor
  · intro hsound
    by_contra hfits
    exact not_codecSound_of_overflow hB hF heven hodd hfits hsound
  · exact codecSound_of_arenaFits hB heven hodd

/-- Three blocks of two bytes with two FEC blocks. -/
theorem codecSound_small : CodecSound 2 5 7 2 2 3 :=
  (codecSound_iff_arenaFits (by norm_num) (by norm_num) (by decide) (by decide)).mpr (by decide)

/-- Two mebibytes in blocks of one byte with 1985 FEC blocks: the arena needs exactly `2 ^ 32`
words, so that none are reserved. -/
theorem codec_overflow : ¬CodecSound 1 (2 ^ 21) 0 1985 1 1 :=
  not_codecSound_of_overflow (by norm_num) (by norm_num) (by decide) (by decide) (by decide)

/-- What the decoder recovers is what peeling recovers: `r` is reached by `pushes`. -/
structure Peels (members : Nat → Finset Nat) (n : Nat) (pushes : List Push) (r : Bool × Decoder) :
    Prop where
  least : IsLeast (closedSets members {f | f ∈ Decoder.fecArrivals pushes}
    {o | o ∈ Decoder.rawIndices pushes}) {o | r.2.decodedBlockMask o = true}
  done : Decoder.rawIndices pushes ≠ [] ∨ Decoder.fecArrivals pushes ≠ [] →
    (r.1 = true ↔ ∀ o < n, r.2.decodedBlockMask o = true)
  idle : r.2.readyEncodedLinks = []
  faultFree : r.2.FaultFree

/-- Pushes with indices the message has. -/
def InRange (n fecBlocks : Nat) (pushes : List Push) : Prop :=
  (∀ o ∈ Decoder.rawIndices pushes, o < n) ∧ ∀ f ∈ Decoder.fecArrivals pushes, f < fecBlocks

/-- Decoding is peeling, for every sequence of pushes, and the order of the pushes does not
matter. -/
def DecodesByPeeling (B n seed fecBlocks even odd : Nat) : Prop :=
  ∀ (d : Decoder) (buffer : Bytes), d.blockSize = B →
    let start := (false, d.beginDecode seed buffer (n * B) fecBlocks even odd)
    ∀ pushes, InRange n fecBlocks pushes →
      Peels (fun f => (fecIndices seed n even odd f).toFinset) n pushes
        (Decoder.pushAll start pushes) ∧
      ∀ pushes', pushes.Perm pushes' →
        (Decoder.pushAll start pushes').2.decodedBlockMask =
          (Decoder.pushAll start pushes).2.decodedBlockMask ∧
        (Decoder.rawIndices pushes ≠ [] ∨ Decoder.fecArrivals pushes ≠ [] →
          (Decoder.pushAll start pushes').1 = (Decoder.pushAll start pushes).1)

/-- `begin_decode` starts with nothing received and nothing peeled. -/
lemma beginDecode_peeled (seed : Nat) (hB : 0 < B) (hfits : ArenaFits n fecBlocks even odd)
    (hdegree : ∀ f < fecBlocks, fecDegree even odd f ≤ n) (d : Decoder) (buffer : Bytes)
    (hd : d.blockSize = B) :
    Decoder.Peeled (fecCode seed hfits hdegree) ∅ ∅ ∅
      (false, d.beginDecode seed buffer (n * B) fecBlocks even odd) := by
  let c := fecCode seed hfits hdegree
  obtain ⟨hquiet, -, -, hlinks⟩ :=
    Decoder.beginDecode_spec (c := c) d seed buffer (hd ▸ hB) rfl hdegree fun f hf => if_pos hf
  rw [hd] at hquiet hlinks
  have hnone : Decoder.receivedSet c (d.beginDecode seed buffer (n * B) fecBlocks even odd) = ∅ := by
    ext f
    refine ⟨fun hf => ?_, fun hf => absurd hf (Set.notMem_empty f)⟩
    exact absurd (hlinks f hf.1) (Option.isSome_iff_ne_none.mp hf.2)
  refine ⟨hquiet, hnone, ⟨⟨by simp, fun f hf => absurd hf (Set.notMem_empty f)⟩, ?_⟩, by simp⟩
  intro S _
  simp

lemma peels_of_arenaFits (seed : Nat) (hB : 0 < B) (heven : even ≤ n) (hodd : odd ≤ n)
    (hfits : ArenaFits n fecBlocks even odd) (d : Decoder) (buffer : Bytes) (hd : d.blockSize = B)
    (pushes : List Push) (hrange : InRange n fecBlocks pushes) :
    Peels (fun f => (fecIndices seed n even odd f).toFinset) n pushes
      (Decoder.pushAll (false, d.beginDecode seed buffer (n * B) fecBlocks even odd) pushes) := by
  have hdegree : ∀ f < fecBlocks, fecDegree even odd f ≤ _ := fun f _ => fecDegree_le heven hodd f
  let c := fecCode seed hfits hdegree
  have hmembers : ∀ f < c.fecBlocks, c.members f = (fecIndices seed c.blocks even odd f).toFinset :=
    fun f hf => if_pos hf
  have hstart := beginDecode_peeled seed hB hfits hdegree d buffer hd
  obtain ⟨D, hend⟩ := hstart.pushAll pushes hrange.1 hrange.2
  simp only [Set.empty_union] at hend
  have hmask : {o | (Decoder.pushAll (false, d.beginDecode seed buffer (n * B) fecBlocks even odd)
      pushes).2.decodedBlockMask o = true} = (D : Set Nat) := by
    ext o
    simp [hend.quiet.mask o]
  have hsame : ∀ f ∈ {f | f ∈ Decoder.fecArrivals pushes},
      (fecIndices seed n even odd f).toFinset = c.members f :=
    fun f hf => (hmembers f (hrange.2 f hf)).symm
  refine ⟨?_, ?_, hend.quiet.idle, hend.quiet.faultFree⟩
  · rw [hmask, closedSets_congr hsame]
    exact hend.least
  · intro hsome
    have hne : ({f | f ∈ Decoder.fecArrivals pushes} ∪ {o | o ∈ Decoder.rawIndices pushes}).Nonempty := by
      rcases hsome with hraw | hfec
      · obtain ⟨o, ho⟩ := List.exists_mem_of_ne_nil _ hraw
        exact ⟨o, Or.inr ho⟩
      · obtain ⟨f, hf⟩ := List.exists_mem_of_ne_nil _ hfec
        exact ⟨f, Or.inl hf⟩
    rw [hend.done hne]
    constructor
    · intro hD o ho
      rw [hend.quiet.mask o, decide_eq_true_eq, hD]
      exact Finset.mem_range.mpr ho
    · intro hall
      refine Finset.Subset.antisymm hend.quiet.sub fun o ho => ?_
      have := hall o (Finset.mem_range.mp ho)
      rwa [hend.quiet.mask o, decide_eq_true_eq] at this

lemma decodesByPeeling_of_arenaFits (hB : 0 < B) (heven : even ≤ n) (hodd : odd ≤ n)
    (hfits : ArenaFits n fecBlocks even odd) : DecodesByPeeling B n seed fecBlocks even odd := by
  intro d buffer hd start pushes hrange
  have hpeels := peels_of_arenaFits seed hB heven hodd hfits d buffer hd
  refine ⟨hpeels pushes hrange, fun pushes' hperm => ?_⟩
  have hraw : (Decoder.rawIndices pushes').Perm (Decoder.rawIndices pushes) :=
    (hperm.filterMap _).symm
  have hfec : (Decoder.fecArrivals pushes').Perm (Decoder.fecArrivals pushes) :=
    (hperm.filterMap _).symm
  have hrange' : InRange n fecBlocks pushes' :=
    ⟨fun o ho => hrange.1 o (hraw.mem_iff.mp ho), fun f hf => hrange.2 f (hfec.mem_iff.mp hf)⟩
  have h := hpeels pushes hrange
  have h' := hpeels pushes' hrange'
  have hleast := h'.least
  simp only [hraw.mem_iff, hfec.mem_iff] at hleast
  have hmask : (Decoder.pushAll start pushes').2.decodedBlockMask =
      (Decoder.pushAll start pushes).2.decodedBlockMask := by
    funext o
    rw [Bool.eq_iff_iff]
    exact Set.ext_iff.mp (hleast.unique h.least) o
  refine ⟨hmask, fun hsome => ?_⟩
  have hsome' : Decoder.rawIndices pushes' ≠ [] ∨ Decoder.fecArrivals pushes' ≠ [] := by
    rcases hsome with hne | hne
    · exact Or.inl fun hnil => hne (List.perm_nil.mp (hnil ▸ hraw.symm))
    · exact Or.inr fun hnil => hne (List.perm_nil.mp (hnil ▸ hfec.symm))
  rw [Bool.eq_iff_iff, h.done hsome, h'.done hsome', hmask]

lemma not_decodesByPeeling_of_overflow (hB : 0 < B) (hF : fecBlocks < 2 ^ 32) (heven : even ≤ n)
    (hodd : odd ≤ n) (hfits : ¬ArenaFits n fecBlocks even odd) :
    ¬DecodesByPeeling B n seed fecBlocks even odd := by
  intro hpeels
  obtain ⟨o, ho, -, hfault⟩ :=
    Decoder.fault_of_not_arenaFits seed (fun _ => 0) hB hF heven hodd hfits
  have hrange : InRange n fecBlocks [.raw o] := by
    simp [InRange, Decoder.rawIndices, Decoder.fecArrivals, Push.rawIndex, Push.fecIndex, ho]
  exact hfault (hpeels { blockSize := B } (fun _ => 0) rfl [.raw o] hrange).1.faultFree

/-- Decoding is peeling for exactly the messages whose index arena can be counted in 32 bits. -/
theorem decodesByPeeling_iff_arenaFits (hB : 0 < B) (hF : fecBlocks < 2 ^ 32) (heven : even ≤ n)
    (hodd : odd ≤ n) :
    DecodesByPeeling B n seed fecBlocks even odd ↔ ArenaFits n fecBlocks even odd := by
  constructor
  · intro hpeels
    by_contra hfits
    exact not_decodesByPeeling_of_overflow hB hF heven hodd hfits hpeels
  · exact decodesByPeeling_of_arenaFits hB heven hodd

theorem decodesByPeeling_small : DecodesByPeeling 2 3 7 2 2 3 :=
  (decodesByPeeling_iff_arenaFits (by norm_num) (by norm_num) (by decide) (by decide)).mpr
    (by decide)

theorem peeling_overflow : ¬DecodesByPeeling 1 (2 ^ 21) 0 1985 1 1 :=
  not_decodesByPeeling_of_overflow (by norm_num) (by norm_num) (by decide) (by decide) (by decide)

end PyroFling
