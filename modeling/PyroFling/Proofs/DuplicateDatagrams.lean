import PyroFling.Proofs.Packetize
import PyroFling.Proofs.SlotReuse

/-!
# Duplicated datagrams

The datagrams of a packet arrive in any order, some of them never and some of them twice. As long
as the data blocks stay in the window of the subpacket sequence numbers, a reassembly slot keeps
the least set of blocks that the arrivals determine, so that an extra copy changes nothing. There
is one exception: the payload of an FEC block is replaced by a second copy, and if some but not
all of its data blocks have been taken out of the first copy by then, they are back in it.
-/

namespace PyroFling
open ByteMemory Peeling

namespace WrittenPacket

open PyroStreamConnection

variable {w : WrittenPacket}

/-- The packet fits the buffers of the client, and its FEC blocks their sequence numbers. -/
def Fits (w : WrittenPacket) : Prop :=
  w.size ≤ 128 * 1024 * maxPayloadSize ∧ (w.usesFec = true → w.blocks < 2 ^ 16)

instance (w : WrittenPacket) : Decidable w.Fits := inferInstanceAs (Decidable (_ ∧ _))

lemma Fits.blocks_le (h : w.Fits) : w.blocks ≤ 131072 := by
  have hsize : w.size ≤ 134217728 := h.1
  unfold blocks blockCount
  rw [show maxPayloadSize = 1024 from rfl]
  omega

lemma Fits.numDataBlocks_eq (h : w.Fits) : numDataBlocks w.size = w.blocks :=
  Nat.mod_eq_of_lt (lt_of_le_of_lt h.blocks_le (by norm_num))

/-- The numbers that go into the header. -/
structure LayoutBounds (w : WrittenPacket) : Prop where
  fecBlocks : w.layout.numFecBlocks ≤ 2 ^ 14
  even : w.layout.numXorBlocksEven ≤ 64 ∧ w.layout.numXorBlocksEven ≤ w.blocks
  odd : w.layout.numXorBlocksOdd ≤ 64 ∧ w.layout.numXorBlocksOdd ≤ w.blocks
  single : w.blocks = 0 → w.usesFec = true → w.layout.numFecBlocks = 1

lemma Fits.layoutBounds (h : w.Fits) : LayoutBounds w := by
  have hle := h.blocks_le
  by_cases hfec : w.usesFec = true
  · have hblocks := h.2 hfec
    have hlayout : w.layout = fecLayout w.blocks := by
      rw [layout, if_pos hfec, h.numDataBlocks_eq]
    have hodd : (w.blocks + 1) % 2 ^ 32 = w.blocks + 1 := Nat.mod_eq_of_lt (by omega)
    by_cases hsmall : w.blocks ≤ 8
    · rw [fecLayout, if_pos hsmall] at hlayout
      refine ⟨?_, ?_, ?_, ?_⟩ <;> rw [hlayout] <;> simp <;> omega
    · rw [fecLayout, if_neg hsmall, hodd] at hlayout
      refine ⟨?_, ?_, ?_, ?_⟩ <;> rw [hlayout] <;> simp <;> omega
  · have hlayout : w.layout = ⟨0, 0, 0⟩ := if_neg hfec
    refine ⟨?_, ?_, ?_, fun _ h => absurd h hfec⟩ <;> rw [hlayout] <;> simp

lemma Fits.arenaFits (h : w.Fits) : ArenaFits w.blocks w.layout.numFecBlocks
    w.layout.numXorBlocksEven w.layout.numXorBlocksOdd := by
  have hle := h.blocks_le
  have hF := h.layoutBounds.fecBlocks
  refine ⟨by omega, ?_, Or.inl (by omega)⟩
  by_cases hfec : w.usesFec = true
  · have hmasks : maskWords w.layout.numFecBlocks + w.layout.numFecBlocks ≤ 16896 := by
      unfold maskWords
      omega
    calc (maskWords w.layout.numFecBlocks + w.layout.numFecBlocks) * w.blocks
        ≤ 16896 * 2 ^ 16 := Nat.mul_le_mul hmasks (h.2 hfec).le
      _ < 2 ^ 32 := by norm_num
  · have hzero : w.layout.numFecBlocks = 0 := by rw [layout, if_neg hfec]
    simp [hzero, maskWords]

lemma Fits.header_spec (h : w.Fits) : w.header.payloadSize.toNat = w.size ∧
    w.header.numFecBlocks.toNat = w.layout.numFecBlocks ∧
    w.header.numXorBlocksEven.toNat = w.layout.numXorBlocksEven ∧
    w.header.numXorBlocksOdd.toNat = w.layout.numXorBlocksOdd := by
  have hsize : w.size ≤ 134217728 := h.1
  obtain ⟨hF, heven, hodd, -⟩ := h.layoutBounds
  by_cases hfec : w.usesFec = true
  · have hlayout : w.layout = fecLayout (numDataBlocks w.size) := if_pos hfec
    rw [hlayout] at hF heven hodd ⊢
    unfold header packetHeader
    simp only
    rw [if_pos (show (!w.isAudio && w.fec) = true from hfec)]
    simp only [BitVec.toNat_ofNat]
    omega
  · have hlayout : w.layout = ⟨0, 0, 0⟩ := if_neg hfec
    rw [hlayout]
    unfold header packetHeader
    simp only
    rw [if_neg (show ¬(!w.isAudio && w.fec) = true from hfec)]
    refine ⟨?_, rfl, rfl, rfl⟩
    rw [BitVec.toNat_ofNat]
    omega

lemma Fits.fecDegree_le (h : w.Fits) (f : Nat) (_ : f < w.layout.numFecBlocks) :
    fecDegree w.layout.numXorBlocksEven w.layout.numXorBlocksOdd f ≤ w.blocks :=
  PyroFling.fecDegree_le h.layoutBounds.even.2 h.layoutBounds.odd.2 f

/-- The code of the packet. -/
def code (h : w.Fits) : FecCode := fecCode w.header.ptsLo.toNat h.arenaFits h.fecDegree_le

lemma code_members (h : w.Fits) : ∀ f < (code h).fecBlocks, (code h).members f =
    (fecIndices w.header.ptsLo.toNat (code h).blocks w.layout.numXorBlocksEven
      w.layout.numXorBlocksOdd f).toFinset := fun _ hf => if_pos hf

lemma fecData_spec (h : w.Fits) : w.fecData.length = w.layout.numFecBlocks ∧
    ∀ f < w.layout.numFecBlocks, ((code h).members f).Nonempty → ∀ j < maxPayloadSize,
      w.fecData.getD f (fun _ => 0) j =
        blockXor (padded w.data w.size) maxPayloadSize ((code h).members f) j :=
  encode_intact (c := code h) (w.encoder.setBlockSize maxPayloadSize) w.data w.xorData w.size
    w.header.ptsLo.toNat (Nat.zero_lt_succ 1023) rfl h.layoutBounds.even.2 h.layoutBounds.odd.2
    (code_members h)

lemma roundedSize_header (h : w.Fits) : ReconstructedPacket.roundedSize w.header =
    w.blocks * maxPayloadSize := by
  have hsize : w.size ≤ 134217728 := h.1
  rw [ReconstructedPacket.roundedSize, ReconstructedPacket.toNat_and_not_1023, BitVec.toNat_add,
    h.header_spec.1]
  unfold blocks blockCount
  rw [show maxPayloadSize = 1024 from rfl, show (1023#32).toNat = 1023 from rfl]
  omega

/-! ### Arrivals -/

/-- An arrival is the position of a datagram among those of the packet. -/
abbrev Arrivals (w : WrittenPacket) := List (Fin w.datagrams.length)

/-- The data blocks among some arrivals. -/
def dataBlocks (a : w.Arrivals) : List Nat := (a.map Fin.val).filter (· < w.blocks)

/-- The data block that arrived last; reassembly starts as if this had been block zero. -/
def lastBlock (a : w.Arrivals) : Nat := (dataBlocks a).getLastD 0

def dataSet (a : w.Arrivals) : Set Nat := {o | o ∈ dataBlocks a}

def fecSet (a : w.Arrivals) : Set Nat := {f | ∃ k ∈ a, k.val = w.blocks + f}

/-- A slot that is fed these datagrams. -/
def reassemble (a : w.Arrivals) : ReconstructedPacket :=
  ReconstructedPacket.feedAll {} (a.map w.datagrams.get)

/-- Each data block is less than half the sequence space away from the one before it. -/
def InWindow (a : w.Arrivals) : Prop :=
  List.IsChain (fun i j => j < i + 2 ^ 13 ∧ i ≤ j + 2 ^ 13) (0 :: dataBlocks a)

lemma dataBlocks_of_range {a : w.Arrivals} {n : Nat} (h : a.map Fin.val = List.range n) (hn : n ≤ w.blocks) :
    dataBlocks a = List.range n := by
  rw [dataBlocks, h]
  refine List.filter_eq_self.2 fun i hi => decide_eq_true ?_
  exact (List.mem_range.1 hi).trans_le hn

lemma inWindow_of_range {a : w.Arrivals} {n : Nat} (h : a.map Fin.val = List.range n) (hn : n ≤ w.blocks) :
    InWindow a := by
  rw [InWindow, dataBlocks_of_range h hn, List.isChain_iff_getElem]
  intro i hi
  cases i with
  | zero => simp
  | succ i =>
    simp only [List.getElem_cons_succ, List.getElem_range]
    omega

/-- The payload of FEC block `f` has not been touched since it arrived, or is no longer needed. -/
def CopyHarmless (w : WrittenPacket) (p : ReconstructedPacket) (f : Nat) : Prop :=
  p.isDone = true ∨ (p.decoder.encodedBlocks f).numUnresolvedIndices = 0 ∨
    (p.decoder.encodedBlocks f).numUnresolvedIndices =
      fecDegree w.layout.numXorBlocksEven w.layout.numXorBlocksOdd f

instance (p : ReconstructedPacket) (f : Nat) : Decidable (w.CopyHarmless p f) :=
  inferInstanceAs (Decidable (_ ∨ _ ∨ _))

/-- This holds whenever an FEC block arrives again. -/
def CopiesHarmless (a : w.Arrivals) : Prop :=
  ∀ i (hi : i < a.length), a[i] ∈ a.take i → w.blocks ≤ a[i].val →
    w.CopyHarmless (reassemble (a.take i)) (a[i].val - w.blocks)

/-! ### Reassembly -/

/-- The state of a slot in which the datagrams in `a` have arrived. -/
structure Reassembles (h : w.Fits) (a : w.Arrivals) (D : Finset Nat) (p : ReconstructedPacket) :
    Prop where
  header : p.currentHeader.payloadSize = w.header.payloadSize
  buffer : p.bufferSize = w.blocks * maxPayloadSize
  fecBuffer : p.fecBufferSize = w.layout.numFecBlocks * maxPayloadSize
  noError : p.isError = false
  noFault : p.fault = none
  accum : p.subpacketSeqAccum = lastBlock a
  last : p.lastSubpacketRawSeq.toNat = lastBlock a % 2 ^ 14
  quiet : Decoder.Quiet (code h) D p.decoder
  blockSize : p.decoder.blockSize = maxPayloadSize
  sound : Decoder.Sound (code h) (padded w.data w.size) D p.decoder
  least : IsLeast (closedSets (code h).members (fecSet a) (dataSet a)) (D : Set Nat)
  done : p.isDone = true → D = Finset.range w.blocks
  /-- A packet without blocks is only found to be complete when something arrives. -/
  complete : 0 < w.blocks ∨ a ≠ [] → D = Finset.range w.blocks → p.isDone = true
  received : p.isDone = false → Decoder.receivedSet (code h) p.decoder = fecSet a

lemma reassembles_begin (h : w.Fits) {p : ReconstructedPacket} (herror : p.isError = false)
    {header : PayloadHeader} (hheader : header = { w.header with encoded := header.encoded }) :
    Reassembles h [] ∅ (p.beginPacket header) := by
  obtain ⟨-, hF, heven, hodd⟩ := h.header_spec
  have hsize : ReconstructedPacket.roundedSize header = w.blocks * maxPayloadSize := by
    rw [hheader]
    exact roundedSize_header h
  obtain ⟨hquiet, hblock, -, hlinks⟩ := Decoder.beginDecode_spec (c := code h)
    (p.decoder.setBlockSize maxPayloadSize) w.header.ptsLo.toNat (fun _ => 0) (Nat.zero_lt_succ 1023)
    rfl h.fecDegree_le (code_members h)
  have hdecoder : (p.beginPacket header).decoder =
      (p.decoder.setBlockSize maxPayloadSize).beginDecode w.header.ptsLo.toNat (fun _ => 0)
        (w.blocks * maxPayloadSize) w.layout.numFecBlocks w.layout.numXorBlocksEven
        w.layout.numXorBlocksOdd := by
    simp only [ReconstructedPacket.beginPacket, hsize]
    rw [hheader, hF, heven, hodd]
  have hnone : ∀ f < (code h).fecBlocks, ((p.beginPacket header).decoder.encodedBlocks f).data = none := by
    rw [hdecoder]
    exact hlinks
  refine { header := ?_, buffer := hsize, fecBuffer := ?_, noError := herror, noFault := rfl
           accum := rfl, last := rfl, quiet := hdecoder ▸ hquiet, blockSize := hdecoder ▸ hblock
           sound := ⟨fun o ho => absurd ho (Finset.notMem_empty o), ?_⟩, least := ?_
           done := fun hdone => Bool.noConfusion hdone, complete := fun hpos hempty => ?_
           received := fun _ => ?_ }
  · change header.payloadSize = _
    rw [hheader]
  · change header.numFecBlocks.toNat * maxPayloadSize = _
    rw [hheader, hF]
  · intro f hf payload hpayload
    rw [hnone f hf] at hpayload
    exact absurd hpayload (Option.some_ne_none payload).symm
  · refine ⟨⟨fun o ho => absurd ho (by simp [dataSet, dataBlocks]), ?_⟩, fun S _ => by simp⟩
    rintro f ⟨k, hk, -⟩
    exact absurd hk List.not_mem_nil
  · have hmem : (0 : Nat) ∈ (∅ : Finset Nat) :=
      hempty ▸ Finset.mem_range.mpr (hpos.resolve_right (fun hne => hne rfl))
    exact absurd hmem (Finset.notMem_empty 0)
  · ext f
    constructor
    · rintro ⟨hf, hsome⟩
      exact absurd (hnone f hf) (Option.isSome_iff_ne_none.mp hsome)
    · rintro ⟨k, hk, -⟩
      exact absurd hk List.not_mem_nil

/-! ### One more arrival -/

lemma dataBlocks_snoc_data (a : w.Arrivals) {k : Fin w.datagrams.length} (hk : k.val < w.blocks) :
    dataBlocks (a ++ [k]) = dataBlocks a ++ [k.val] := by
  simp [dataBlocks, List.filter_append, hk]

lemma dataBlocks_snoc_fec (a : w.Arrivals) {k : Fin w.datagrams.length} (hk : w.blocks ≤ k.val) :
    dataBlocks (a ++ [k]) = dataBlocks a := by
  simp [dataBlocks, List.filter_append, Nat.not_lt.mpr hk]

lemma lastBlock_snoc_data (a : w.Arrivals) {k : Fin w.datagrams.length} (hk : k.val < w.blocks) :
    lastBlock (a ++ [k]) = k.val := by
  rw [lastBlock, dataBlocks_snoc_data a hk, List.getLastD_concat]

lemma lastBlock_snoc_fec (a : w.Arrivals) {k : Fin w.datagrams.length} (hk : w.blocks ≤ k.val) :
    lastBlock (a ++ [k]) = lastBlock a := by
  rw [lastBlock, dataBlocks_snoc_fec a hk]
  rfl

lemma dataSet_snoc_data (a : w.Arrivals) {k : Fin w.datagrams.length} (hk : k.val < w.blocks) :
    dataSet (a ++ [k]) = dataSet a ∪ {k.val} := by
  ext o
  simp [dataSet, dataBlocks_snoc_data a hk, or_comm]

lemma dataSet_snoc_fec (a : w.Arrivals) {k : Fin w.datagrams.length} (hk : w.blocks ≤ k.val) :
    dataSet (a ++ [k]) = dataSet a := by
  simp [dataSet, dataBlocks_snoc_fec a hk]

lemma fecSet_snoc_data (a : w.Arrivals) {k : Fin w.datagrams.length} (hk : k.val < w.blocks) :
    fecSet (a ++ [k]) = fecSet a := by
  ext f
  simp only [fecSet, Set.mem_ofPred_eq, List.mem_append, List.mem_singleton, or_and_right, exists_or,
    exists_eq_left, or_iff_left_iff_imp]
  omega

lemma fecSet_snoc_fec (a : w.Arrivals) {k : Fin w.datagrams.length} (hk : w.blocks ≤ k.val) :
    fecSet (a ++ [k]) = insert (k.val - w.blocks) (fecSet a) := by
  ext f
  simp only [fecSet, Set.mem_ofPred_eq, List.mem_append, List.mem_singleton, or_and_right, exists_or,
    exists_eq_left, Set.mem_insert_iff]
  rw [or_comm]
  refine or_congr ?_ Iff.rfl
  omega

/-- Inside the window the index of a data block is recovered from its sequence number. -/
lemma advance_eq {p : ReconstructedPacket} {d : Datagram} {k last : Nat} (hle : k < 2 ^ 31)
    (hblock : IsDataBlock w.header w.data w.size k d) (haccum : p.subpacketSeqAccum = last)
    (hlast : p.lastSubpacketRawSeq.toNat = last % 2 ^ 14) (hwindow : k < last + 2 ^ 13 ∧ last ≤ k + 2 ^ 13) :
    p.advance d.header = { p with
      subpacketSeqAccum := k, lastSubpacketRawSeq := payloadGetSubpacketSeq d.header.encoded } := by
  have hdelta : payloadGetSubpacketSeqDelta (payloadGetSubpacketSeq d.header.encoded)
      p.lastSubpacketRawSeq = (k : Int) - last := by
    rw [payloadGetSubpacketSeqDelta, payloadGetSeqDelta_eq, hblock.subseq, hlast, Int.bmod]
    push_cast
    split <;> omega
  have hsum : p.subpacketSeqAccum + payloadGetSubpacketSeqDelta
      (payloadGetSubpacketSeq d.header.encoded) p.lastSubpacketRawSeq = k := by
    rw [haccum, hdelta]
    omega
  have hwide : (k : Int).bmod (2 ^ 32) = k := by
    rw [Int.bmod]
    omega
  have hok : ¬((k : Int) < 0 ∨ (k : Int) = 0 ∧ ReconstructedPacket.isBegin d.header = false ∨
      (k : Int) ≠ 0 ∧ ReconstructedPacket.isBegin d.header = true) := by
    rw [hblock.begins]
    simp only [decide_eq_false_iff_not, decide_eq_true_eq]
    omega
  unfold ReconstructedPacket.advance
  simp only [hsum, hwide]
  rw [if_neg hok]
  simp [ReconstructedPacket.note]

/-- When everything is recovered, more arrivals change nothing. -/
lemma isLeast_full (h : w.Fits) {F F' R R' : Set Nat}
    (hleast : IsLeast (closedSets (code h).members F R) (Finset.range w.blocks : Set Nat))
    (hF : F ⊆ F') (hR : R ⊆ R') (hlt : ∀ o ∈ R', o < w.blocks) :
    IsLeast (closedSets (code h).members F' R') (Finset.range w.blocks : Set Nat) := by
  refine isLeast_closedSets_extend hleast hF hR (fun o ho => ?_) (fun f _ o ho _ => ?_)
    (fun S _ _ hS => hS)
  · exact Finset.mem_coe.mpr (Finset.mem_range.mpr (hlt o ho))
  · exact Finset.mem_coe.mpr (Finset.mem_range.mpr ((code h).members_lt f o ho))

lemma dataSet_lt (a : w.Arrivals) : ∀ o ∈ dataSet a, o < w.blocks := by
  intro o ho
  simpa using (List.mem_filter.mp ho).2

lemma writeBlock_spec (data buffer : Bytes) (size k : Nat) {total : Nat}
    (hsize : total = min maxPayloadSize (size - k * maxPayloadSize)) :
    (∀ j < maxPayloadSize, ReconstructedPacket.writeBlock buffer (k * maxPayloadSize)
      (data.drop (k * maxPayloadSize)) total (maxPayloadSize * k + j) =
        padded data size (maxPayloadSize * k + j)) ∧
      ∀ o ≠ k, ∀ j < maxPayloadSize, ReconstructedPacket.writeBlock buffer (k * maxPayloadSize)
        (data.drop (k * maxPayloadSize)) total (maxPayloadSize * o + j) =
          buffer (maxPayloadSize * o + j) := by
  have hmul : k * maxPayloadSize = maxPayloadSize * k := Nat.mul_comm _ _
  rw [hmul] at hsize ⊢
  constructor
  · intro j hj
    unfold ReconstructedPacket.writeBlock padded
    by_cases hlt : j < total
    · have hin : maxPayloadSize * k + j < size := by omega
      rw [if_pos hin]
      split
      · rw [Bytes.zero, Bytes.store_apply_outside _ _ (by omega), Bytes.store_apply_inside _ _ hlt,
          Bytes.drop_apply]
      · rw [Bytes.store_apply_inside _ _ hlt, Bytes.drop_apply]
    · have hout : ¬maxPayloadSize * k + j < size := by omega
      rw [if_neg hout, if_pos (by omega), Bytes.zero,
        show maxPayloadSize * k + j = maxPayloadSize * k + total + (j - total) by omega,
        Bytes.store_apply_inside _ _ (by omega)]
  · intro o hne j hj
    have hslot := slot_disjoint hne hj
    unfold ReconstructedPacket.writeBlock
    split
    · rw [Bytes.zero, Bytes.store_apply_outside _ _ (by omega),
        Bytes.store_apply_outside _ _ (by omega)]
    · rw [Bytes.store_apply_outside _ _ (by omega)]

/-- The offset of a data block does not overflow. -/
lemma blockProduct {k : Nat} (hk : k < 2 ^ 17) :
    ((k : Int) * (maxPayloadSize : Nat)).bmod (2 ^ 32) = (k * maxPayloadSize : Nat) := by
  have hlt : k * maxPayloadSize < 2 ^ 27 := by
    calc k * maxPayloadSize < 2 ^ 17 * maxPayloadSize := Nat.mul_lt_mul_of_pos_right hk (by decide)
      _ = 2 ^ 27 := rfl
  rw [← Nat.cast_mul]
  generalize k * maxPayloadSize = x at hlt ⊢
  rw [Int.bmod]
  omega

/-- The offset of a data block, its index and the check of both. -/
lemma placed_at {q : ReconstructedPacket} {k : Nat} (hk : k < 2 ^ 17) (haccum : q.subpacketSeqAccum = k) :
    q.blockOffset = k * maxPayloadSize ∧ (q.subpacketSeqAccum % 2 ^ 32).toNat = k ∧
      q.offsetFault = q.fault := by
  have hproduct : (q.subpacketSeqAccum * (maxPayloadSize : Nat)).bmod (2 ^ 32) =
      (k * maxPayloadSize : Nat) := haccum ▸ blockProduct hk
  refine ⟨?_, by omega, ?_⟩
  · have hlt : k * maxPayloadSize < 2 ^ 64 := by
      calc k * maxPayloadSize < 2 ^ 17 * maxPayloadSize :=
            Nat.mul_lt_mul_of_pos_right (by omega) (by decide)
        _ ≤ 2 ^ 64 := by decide
    rw [ReconstructedPacket.blockOffset, hproduct]
    generalize k * maxPayloadSize = x at hlt ⊢
    omega
  · rw [ReconstructedPacket.offsetFault, hproduct, haccum, decide_eq_true (Nat.cast_mul k maxPayloadSize),
      Fault.note_true]

/-- When the packet is complete, an arrival changes nothing but the counters. -/
lemma Reassembles.finished {h : w.Fits} {a a' : w.Arrivals} {D : Finset Nat} {p : ReconstructedPacket}
    (hr : Reassembles h a D p) (hdone : p.isDone = true) {accum : Int} {last : BitVec 32}
    (haccum : accum = lastBlock a') (hlast : last.toNat = lastBlock a' % 2 ^ 14)
    (hfec : fecSet a ⊆ fecSet a') (hdata : dataSet a ⊆ dataSet a') :
    Reassembles h a' D { p with subpacketSeqAccum := accum, lastSubpacketRawSeq := last } := by
  refine { hr with accum := haccum, last := hlast, least := ?_, complete := fun _ _ => hdone,
                   received := fun hfalse => absurd (hdone.symm.trans hfalse) Bool.noConfusion }
  have hall := hr.done hdone
  subst hall
  exact isLeast_full h hr.least hfec hdata (dataSet_lt a')

lemma Reassembles.data {h : w.Fits} {a : w.Arrivals} {D : Finset Nat} {p : ReconstructedPacket}
    (hr : Reassembles h a D p) {k : Fin w.datagrams.length} (hk : k.val < w.blocks)
    (hwindow : k.val < lastBlock a + 2 ^ 13 ∧ lastBlock a ≤ k.val + 2 ^ 13) :
    ∃ D', Reassembles h (a ++ [k]) D' (p.feed (w.datagrams.get k)).2 := by
  have hblock := (w.datagrams_spec.2 k k.isLt).1 hk
  have hle := h.blocks_le
  have hsize : w.size ≤ 134217728 := h.1
  let d := w.datagrams.get k
  let q : ReconstructedPacket := { p with
    subpacketSeqAccum := k.val, lastSubpacketRawSeq := payloadGetSubpacketSeq d.header.encoded }
  have hbuffer : p.bufferSize ≠ 0 := by
    rw [hr.buffer]
    exact Nat.mul_ne_zero (by omega) (by decide)
  have hfeed : (p.feed d).2 = q.addPayloadData d.buffer (d.size - payloadHeaderSize) := by
    have hadvance := advance_eq (by omega) hblock hr.accum hr.last hwindow
    have hplain : ReconstructedPacket.isFec d.header = false := hblock.plain
    simp only [ReconstructedPacket.feed, ReconstructedPacket.prepareDecode, if_neg hbuffer, hplain,
      Bool.false_eq_true, if_false]
    exact congrArg (fun q => ReconstructedPacket.addPayloadData q d.buffer _) hadvance
  have hlast : q.lastSubpacketRawSeq.toNat = lastBlock (a ++ [k]) % 2 ^ 14 := by
    rw [lastBlock_snoc_data a hk]
    exact hblock.subseq
  have haccum : q.subpacketSeqAccum = lastBlock (a ++ [k]) := by
    rw [lastBlock_snoc_data a hk]
  rw [hfeed]
  cases hdone : p.isDone with
  | true =>
    have hsame : q.addPayloadData d.buffer (d.size - payloadHeaderSize) = q := by
      rw [ReconstructedPacket.addPayloadData]
      exact if_pos (by rw [show q.isDone = true from hdone]; rfl)
    rw [hsame]
    refine ⟨D, hr.finished hdone haccum hlast (fecSet_snoc_data a hk).ge ?_⟩
    rw [dataSet_snoc_data a hk]
    exact Set.subset_union_left
  | false =>
    have hopen : (q.isDone || q.isError) = false := by
      rw [show q.isDone = false from hdone, show q.isError = false from hr.noError]
      rfl
    obtain ⟨hoffset, hindex, hfault⟩ := placed_at (q := q) (by omega) rfl
    have hin : q.blockOffset < q.bufferSize := by
      rw [hoffset, show q.bufferSize = _ from hr.buffer]
      exact Nat.mul_lt_mul_of_pos_right hk (by decide)
    have hlength : d.size - payloadHeaderSize = min maxPayloadSize (w.size - k.val * maxPayloadSize) := by
      rw [show d.size = _ from hblock.size]
      omega
    obtain ⟨hplaced, hkept⟩ := writeBlock_spec w.data p.decoder.outputData w.size k.val hlength
    rw [ReconstructedPacket.addPayloadData_of_lt hopen hin, hfault, hoffset, hindex, show q.fault = none from hr.noFault,
      show d.buffer = _ from hblock.buffer]
    let block := ReconstructedPacket.writeBlock p.decoder.outputData (k.val * maxPayloadSize)
      (w.data.drop (k.val * maxPayloadSize)) (d.size - payloadHeaderSize)
    have hquiet := hr.quiet.fill block
    obtain ⟨D', hout, hsize', hsound⟩ := Decoder.pushRawBlock_spec hquiet hk
    have hreceived : Decoder.receivedSet (code h) { p.decoder with outputData := block } = fecSet a :=
      hr.received hdone
    rw [hreceived] at hout
    -- Decoded blocks keep their content, also if one of them is written again.
    have hfilled : Decoder.Sound (code h) (padded w.data w.size) D
        { p.decoder with outputData := block } := by
      refine ⟨fun o ho j hj => ?_, hr.sound.payloads⟩
      have hj' : j < maxPayloadSize := hr.blockSize ▸ hj
      have hold := hr.sound.blocks o ho j hj
      simp only [hr.blockSize] at hold ⊢
      by_cases hok : o = k.val
      · subst hok
        exact hplaced j hj'
      · exact (hkept o hok j hj').trans hold
    have hwritten : ∀ j < p.decoder.blockSize, block (p.decoder.blockSize * k.val + j) =
        padded w.data w.size (p.decoder.blockSize * k.val + j) := by
      rw [hr.blockSize]
      exact hplaced
    refine ⟨D', { header := hr.header, buffer := hr.buffer, fecBuffer := hr.fecBuffer
                  noError := hr.noError, noFault := rfl, accum := haccum, last := hlast
                  quiet := hout.quiet, blockSize := hsize'.trans hr.blockSize
                  sound := hsound _ hfilled hwritten, least := ?_, done := hout.done.mp
                  complete := fun _ => hout.done.mpr, received := fun _ => ?_ }⟩
    · rw [dataSet_snoc_data a hk, fecSet_snoc_data a hk]
      exact hout.isLeast_raw hr.least
    · rw [fecSet_snoc_data a hk]
      exact hout.received

lemma Reassembles.addFec {h : w.Fits} {a : w.Arrivals} {D : Finset Nat} {p : ReconstructedPacket}
    (hr : Reassembles h a D p) {k : Fin w.datagrams.length} (hk : w.blocks ≤ k.val)
    (hcopy : k ∈ a → w.CopyHarmless p (k.val - w.blocks)) :
    ∃ D', Reassembles h (a ++ [k]) D' (p.addFecData
      (payloadGetSubpacketSeq (w.datagrams.get k).header.encoded) (w.datagrams.get k).buffer) := by
  have hblock := (w.datagrams_spec.2 k k.isLt).2 hk
  obtain ⟨hlength, hintact⟩ := fecData_spec h
  have hF := h.layoutBounds.fecBlocks
  have hf : k.val - w.blocks < w.layout.numFecBlocks := by
    have hlt := k.isLt.trans_eq w.datagrams_spec.1
    omega
  generalize hfeq : k.val - w.blocks = f at *
  let d := w.datagrams.get k
  have hsubseq : (payloadGetSubpacketSeq d.header.encoded).toNat = f := by
    exact hblock.subseq.trans (Nat.mod_eq_of_lt (by omega))
  have haccum : p.subpacketSeqAccum = lastBlock (a ++ [k]) := by
    rw [lastBlock_snoc_fec a hk]
    exact hr.accum
  have hlast : p.lastSubpacketRawSeq.toNat = lastBlock (a ++ [k]) % 2 ^ 14 := by
    rw [lastBlock_snoc_fec a hk]
    exact hr.last
  change ∃ D', Reassembles h (a ++ [k]) D' (p.addFecData _ d.buffer)
  cases hdone : p.isDone with
  | true =>
    rw [ReconstructedPacket.addFecData, hdone, Bool.true_or, if_pos rfl]
    refine ⟨D, hr.finished hdone haccum hlast ?_ (dataSet_snoc_fec a hk).ge⟩
    rw [fecSet_snoc_fec a hk]
    exact Set.subset_insert _ _
  | false =>
    have hopen : (p.isDone || p.isError) = false := by rw [hdone, hr.noError]; rfl
    have hin : (payloadGetSubpacketSeq d.header.encoded * 1024#32).toNat < p.fecBufferSize := by
      rw [BitVec.toNat_mul, hsubseq, hr.fecBuffer, show maxPayloadSize = 1024 from rfl,
        show (1024#32).toNat = 1024 from rfl]
      omega
    rw [ReconstructedPacket.addFecData_of_lt hopen hin, hsubseq, show d.buffer = _ from hblock.buffer]
    obtain ⟨D', hout, hsize, hsound⟩ := Decoder.pushFecBlock_spec hr.quiet hf
      (w.fecData.getD f (fun _ => 0))
    rw [hr.received hdone] at hout
    have hdata : ((code h).members f).Nonempty → ∀ j < p.decoder.blockSize,
        w.fecData.getD f (fun _ => 0) j =
          blockXor (padded w.data w.size) p.decoder.blockSize ((code h).members f) j := by
      rw [hr.blockSize]
      exact hintact f hf
    have hcard : fecDegree w.layout.numXorBlocksEven w.layout.numXorBlocksOdd f =
        ((code h).members f).card := by
      rw [code_members h f hf, List.toFinset_card_of_nodup, length_fecIndices]
      exact (fecIndices_spec (h.blocks_le.trans (by norm_num))
        (fun j _ => PyroFling.fecDegree_le h.layoutBounds.even.2 h.layoutBounds.odd.2 j) _).1
    have hwhole : (p.decoder.encodedBlocks f).data = none ∨
        Decoder.unresolved (code h) D f = (code h).members f ∨ Decoder.unresolved (code h) D f = ∅ := by
      by_cases hagain : k ∈ a
      · have hunresolved := hr.quiet.inv.unresolved f hf
        rcases hcopy hagain with hfinished | hzero | hfull
        · exact absurd (hdone.symm.trans hfinished) Bool.noConfusion
        · exact Or.inr (Or.inr (Finset.card_eq_zero.mp (hunresolved.symm.trans hzero)))
        · refine Or.inr (Or.inl (Finset.eq_of_subset_of_card_le Finset.sdiff_subset ?_))
          rw [← hcard, ← hfull, hunresolved]
      · left
        by_contra hsome
        have hmem : f ∈ fecSet a := hr.received hdone ▸ ⟨hf, Option.isSome_iff_ne_none.mpr hsome⟩
        obtain ⟨k', hk', hval⟩ := hmem
        exact hagain ((Fin.ext (by omega) : k' = k) ▸ hk')
    refine ⟨D', { header := hr.header, buffer := hr.buffer, fecBuffer := hr.fecBuffer
                  noError := hr.noError, noFault := hr.noFault, accum := haccum, last := hlast
                  quiet := hout.quiet, blockSize := hsize.trans hr.blockSize
                  sound := hsound _ hr.sound hdata hwhole, least := ?_, done := hout.done.mp
                  complete := fun _ => hout.done.mpr, received := fun _ => ?_ }⟩
    · rw [dataSet_snoc_fec a hk, fecSet_snoc_fec a hk, hfeq]
      exact hout.isLeast_fec hr.least
    · rw [fecSet_snoc_fec a hk, hfeq]
      exact hout.received

lemma feed_fec {k : Fin w.datagrams.length} (hk : w.blocks ≤ k.val) (p : ReconstructedPacket) :
    (p.feed (w.datagrams.get k)).2 =
      (if p.bufferSize = 0 then p.beginPacket (w.datagrams.get k).header else p).addFecData
        (payloadGetSubpacketSeq (w.datagrams.get k).header.encoded) (w.datagrams.get k).buffer := by
  have hblock := (w.datagrams_spec.2 k k.isLt).2 hk
  have hflag : ReconstructedPacket.isFec (w.datagrams.get k).header = true := hblock.flagged
  have hwhole : (w.datagrams.get k).size - payloadHeaderSize = maxPayloadSize :=
    Nat.sub_eq_of_eq_add' hblock.size
  simp only [ReconstructedPacket.feed, ReconstructedPacket.prepareDecode, hflag, if_true, hwhole, ne_eq,
    not_true_eq_false, if_false]

lemma Reassembles.feed {h : w.Fits} {a : w.Arrivals} {D : Finset Nat} {p : ReconstructedPacket}
    (hr : Reassembles h a D p) (hpos : 0 < w.blocks) {k : Fin w.datagrams.length}
    (hwindow : k.val < w.blocks → k.val < lastBlock a + 2 ^ 13 ∧ lastBlock a ≤ k.val + 2 ^ 13)
    (hcopy : k ∈ a → w.blocks ≤ k.val → w.CopyHarmless p (k.val - w.blocks)) :
    ∃ D', Reassembles h (a ++ [k]) D' (p.feed (w.datagrams.get k)).2 := by
  rcases Nat.lt_or_ge k.val w.blocks with hk | hk
  · exact hr.data hk (hwindow hk)
  · have hbuffer : p.bufferSize ≠ 0 := by
      rw [hr.buffer]
      exact Nat.mul_ne_zero (by omega) (by decide)
    rw [feed_fec hk, if_neg hbuffer]
    exact hr.addFec hk fun hagain => hcopy hagain hk

/-! ### Whole arrival sequences -/

lemma InWindow.snoc {a : w.Arrivals} {k : Fin w.datagrams.length} (h : InWindow (a ++ [k])) :
    InWindow a ∧
      (k.val < w.blocks → k.val < lastBlock a + 2 ^ 13 ∧ lastBlock a ≤ k.val + 2 ^ 13) := by
  unfold InWindow at h ⊢
  rcases Nat.lt_or_ge k.val w.blocks with hk | hk
  · rw [dataBlocks_snoc_data a hk, ← List.cons_append, List.isChain_append] at h
    refine ⟨h.1, fun _ => h.2.2 (lastBlock a) ?_ k.val (by simp)⟩
    rw [List.getLast?_cons, lastBlock, List.getLastD_eq_getLast?]
    exact rfl
  · rw [dataBlocks_snoc_fec a hk] at h
    exact ⟨h, fun hlt => absurd hlt (Nat.not_lt.mpr hk)⟩

lemma CopiesHarmless.snoc {a : w.Arrivals} {k : Fin w.datagrams.length} (h : CopiesHarmless (a ++ [k])) :
    CopiesHarmless a ∧
      (k ∈ a → w.blocks ≤ k.val → w.CopyHarmless (reassemble a) (k.val - w.blocks)) := by
  constructor
  · intro i hi
    have hold := h i (by rw [List.length_append]; omega)
    rwa [List.getElem_append_left hi, List.take_append_of_le_length hi.le] at hold
  · have hnew := h a.length (by simp)
    rwa [List.getElem_concat_length, List.take_left] at hnew
    rfl

lemma reassemble_snoc (a : w.Arrivals) (k : Fin w.datagrams.length) :
    reassemble (a ++ [k]) = ((reassemble a).feed (w.datagrams.get k)).2 := by
  simp [reassemble, ReconstructedPacket.feedAll]

lemma datagrams_header (k : Fin w.datagrams.length) :
    (w.datagrams.get k).header = { w.header with encoded := (w.datagrams.get k).header.encoded } := by
  rcases Nat.lt_or_ge k.val w.blocks with hk | hk
  · exact ((w.datagrams_spec.2 k k.isLt).1 hk).header
  · exact ((w.datagrams_spec.2 k k.isLt).2 hk).header

/-- Every sequence of arrivals leads to the blocks it determines. -/
lemma reassembles_of_harmless (h : w.Fits) (hpos : 0 < w.blocks) (a : w.Arrivals) (hne : a ≠ [])
    (hwindow : InWindow a) (hcopies : CopiesHarmless a) : ∃ D, Reassembles h a D (reassemble a) := by
  induction a using List.reverseRecOn with
  | nil => exact absurd rfl hne
  | append_singleton a k ih =>
    obtain ⟨hwindow, hnext⟩ := hwindow.snoc
    obtain ⟨hcopies, hcopy⟩ := hcopies.snoc
    rw [reassemble_snoc]
    by_cases hfirst : a = []
    · -- The first datagram starts the packet and is then treated like any other.
      subst hfirst
      have hbegun := reassembles_begin h (p := {}) rfl (datagrams_header k)
      have hfeed : (reassemble ([] : w.Arrivals)).feed (w.datagrams.get k) =
          (ReconstructedPacket.beginPacket {} (w.datagrams.get k).header).feed (w.datagrams.get k) := by
        have hbuffer : (ReconstructedPacket.beginPacket {} (w.datagrams.get k).header).bufferSize ≠ 0 := by
          rw [hbegun.buffer]
          exact Nat.mul_ne_zero (by omega) (by decide)
        unfold ReconstructedPacket.feed ReconstructedPacket.prepareDecode
        rw [if_neg hbuffer]
        rfl
      rw [hfeed]
      exact hbegun.feed hpos hnext fun hmem => absurd hmem List.not_mem_nil
    · obtain ⟨D, hr⟩ := ih hfirst hwindow hcopies
      exact hr.feed hpos hnext hcopy

/-- A packet without data is complete with its first FEC block, and starts over with every other. -/
lemma reassemble_empty (h : w.Fits) (hzero : w.blocks = 0) (a : w.Arrivals) (hne : a ≠ []) :
    ∃ k D, Reassembles h [k] D (reassemble a) := by
  induction a using List.reverseRecOn with
  | nil => exact absurd rfl hne
  | append_singleton a k ih =>
    have hclear : (reassemble a).bufferSize = 0 ∧ (reassemble a).isError = false := by
      by_cases hfirst : a = []
      · subst hfirst
        exact ⟨rfl, rfl⟩
      · obtain ⟨k', D, hr⟩ := ih hfirst
        exact ⟨by rw [hr.buffer, hzero, Nat.zero_mul], hr.noError⟩
    rw [reassemble_snoc, feed_fec (by omega), if_pos hclear.1]
    obtain ⟨D, hr⟩ := (reassembles_begin h hclear.2 (datagrams_header k)).addFec (k := k) (by omega)
      fun hmem => absurd hmem List.not_mem_nil
    exact ⟨k, D, hr⟩

/-- The slot holds the packet as it was written. -/
def Delivered (w : WrittenPacket) (p : ReconstructedPacket) : Prop :=
  p.getPacketSize = w.size ∧ ∀ i < w.size, p.getPacketData i = w.data i

lemma Reassembles.delivered {h : w.Fits} {a : w.Arrivals} {D : Finset Nat} {p : ReconstructedPacket}
    (hr : Reassembles h a D p) (hdone : p.isDone = true) : Delivered w p := by
  have hB : 0 < maxPayloadSize := by decide
  refine ⟨?_, fun i hi => ?_⟩
  · rw [ReconstructedPacket.getPacketSize, hr.header]
    exact h.header_spec.1
  · have hmem : i / maxPayloadSize ∈ D := by
      rw [hr.done hdone]
      refine Finset.mem_range.mpr ((lt_blockCount_iff hB).mpr ?_)
      exact lt_of_le_of_lt (Nat.mul_div_le i maxPayloadSize) hi
    have hblocks := hr.sound.blocks _ hmem (i % maxPayloadSize)
    rw [hr.blockSize] at hblocks
    have hbyte := hblocks (Nat.mod_lt i hB)
    rw [Nat.div_add_mod] at hbyte
    rw [ReconstructedPacket.getPacketData, hbyte, padded, if_pos hi]

/-- Two slots deliver the same packet, or neither delivers one. -/
structure SameDelivery (w : WrittenPacket) (p q : ReconstructedPacket) : Prop where
  isComplete : q.isComplete = p.isComplete
  delivered : p.isComplete = true → Delivered w p ∧ Delivered w q
  faultFree : p.FaultFree ∧ q.FaultFree

/-- Nothing about these arrivals is beyond what reassembly can tell apart. -/
def Undisturbed (a : w.Arrivals) : Prop := InWindow a ∧ CopiesHarmless a

instance (a : w.Arrivals) : Decidable (Undisturbed a) := by
  unfold Undisturbed InWindow CopiesHarmless
  infer_instance

lemma Reassembles.faultFree {h : w.Fits} {a : w.Arrivals} {D : Finset Nat} {p : ReconstructedPacket}
    (hr : Reassembles h a D p) : p.FaultFree := ⟨hr.noFault, hr.quiet.faultFree⟩

lemma Reassembles.isComplete {h : w.Fits} {a : w.Arrivals} {D : Finset Nat} {p : ReconstructedPacket}
    (hr : Reassembles h a D p) : p.isComplete = p.isDone := by
  rw [ReconstructedPacket.isComplete, hr.noError, Bool.not_false, Bool.and_true]

lemma sameDelivery_of_isDone {h : w.Fits} {a a' : w.Arrivals} {D D' : Finset Nat}
    {p q : ReconstructedPacket} (hp : Reassembles h a D p) (hq : Reassembles h a' D' q)
    (hdone : q.isDone = p.isDone) : SameDelivery w p q := by
  refine ⟨by rw [hp.isComplete, hq.isComplete, hdone], fun hcomplete => ?_, hp.faultFree, hq.faultFree⟩
  rw [hp.isComplete] at hcomplete
  exact ⟨hp.delivered hcomplete, hq.delivered (hdone.trans hcomplete)⟩

/-- An extra copy adds nothing to the sets of blocks that have arrived. -/
lemma sets_of_copy {s₁ : w.Arrivals} (s₂ : w.Arrivals) {k : Fin w.datagrams.length} (hk : k ∈ s₁) :
    dataSet (s₁ ++ k :: s₂) = dataSet (s₁ ++ s₂) ∧ fecSet (s₁ ++ k :: s₂) = fecSet (s₁ ++ s₂) := by
  have hmem : ∀ x, x ∈ s₁ ++ k :: s₂ ↔ x ∈ s₁ ++ s₂ := by
    intro x
    simp only [List.mem_append, List.mem_cons]
    constructor
    · rintro (hx | rfl | hx)
      exacts [Or.inl hx, Or.inl hk, Or.inr hx]
    · rintro (hx | hx)
      exacts [Or.inl hx, Or.inr (Or.inr hx)]
  constructor
  · ext o
    simp only [dataSet, dataBlocks, Set.mem_ofPred_eq, List.mem_filter, List.mem_map, hmem]
  · ext f
    simp only [fecSet, Set.mem_ofPred_eq, hmem]

lemma sameDelivery_of_copy (h : w.Fits) {s₁ s₂ : w.Arrivals} {k : Fin w.datagrams.length} (hk : k ∈ s₁)
    (hs : Undisturbed (s₁ ++ s₂)) (hs' : Undisturbed (s₁ ++ k :: s₂)) :
    SameDelivery w (reassemble (s₁ ++ s₂)) (reassemble (s₁ ++ k :: s₂)) := by
  have hne : s₁ ++ s₂ ≠ [] := List.append_ne_nil_of_left_ne_nil (List.ne_nil_of_mem hk) s₂
  have hne' : s₁ ++ k :: s₂ ≠ [] :=
    List.append_ne_nil_of_left_ne_nil (List.ne_nil_of_mem hk) (k :: s₂)
  rcases Nat.eq_zero_or_pos w.blocks with hzero | hpos
  · -- Without data blocks both runs are complete.
    have hempty : ∀ {k D p}, Reassembles h [k] D p → p.isDone = true := by
      intro k D p hr
      refine hr.complete (Or.inr (List.cons_ne_nil k [])) ?_
      have hsub : D ⊆ Finset.range w.blocks := hr.quiet.sub
      rw [hzero, Finset.range_zero] at hsub ⊢
      exact Finset.subset_empty.mp hsub
    obtain ⟨k₁, D, hp⟩ := reassemble_empty h hzero _ hne
    obtain ⟨k₂, D', hq⟩ := reassemble_empty h hzero _ hne'
    exact sameDelivery_of_isDone hp hq ((hempty hq).trans (hempty hp).symm)
  · obtain ⟨D, hp⟩ := reassembles_of_harmless h hpos _ hne hs.1 hs.2
    obtain ⟨D', hq⟩ := reassembles_of_harmless h hpos _ hne' hs'.1 hs'.2
    obtain ⟨hdata, hfec⟩ := sets_of_copy s₂ hk
    have hleast := hq.least
    rw [hdata, hfec] at hleast
    have hsame : D' = D := Finset.coe_injective (hleast.unique hp.least)
    subst hsame
    refine sameDelivery_of_isDone hp hq (Bool.eq_iff_iff.mpr ⟨fun hdone => ?_, fun hdone => ?_⟩)
    · exact hp.complete (Or.inl hpos) (hq.done hdone)
    · exact hq.complete (Or.inl hpos) (hp.done hdone)

/-- An extra copy of any datagram of the packet is harmless wherever it arrives. -/
def DuplicatesHarmless (w : WrittenPacket) : Prop :=
  ∀ (s₁ s₂ : w.Arrivals) (k : Fin w.datagrams.length), k ∈ s₁ →
    SameDelivery w (reassemble (s₁ ++ s₂)) (reassemble (s₁ ++ k :: s₂))

end WrittenPacket

/-- The packet that a call of `write_packet` sends. -/
def PyroStreamConnection.written (c : PyroStreamConnection) (pts dts : BitVec 64) (data : Bytes)
    (size : Nat) (isAudio isKeyFrame : Bool) (xorData : Bytes) : WrittenPacket :=
  { encoder := c.encoder, seq := if isAudio then c.packetSeqAudio else c.packetSeqVideo
    fec := c.fec, pts, dts, data, size, isAudio, isKeyFrame, xorData }

namespace WrittenPacket

/-- An extra copy does not change the outcome of reassembly, unless data blocks leave the window
of the sequence numbers or a copy of an FEC block finds the first one partly resolved. This would even hold
if all datagrams of the packet were sent. -/
theorem duplicate_harmless (c : PyroStreamConnection) (pts dts : BitVec 64) (data : Bytes) (size : Nat)
    (isAudio isKeyFrame : Bool) (xorData : Bytes)
    (hemitted : (c.writePacket pts dts data size isAudio isKeyFrame xorData).1 ≠ [])
    (hfits : (c.written pts dts data size isAudio isKeyFrame xorData).Fits) :
    let w := c.written pts dts data size isAudio isKeyFrame xorData
    (c.writePacket pts dts data size isAudio isKeyFrame xorData).1 = w.emitted ∧
      w.emitted ⊆ w.datagrams ∧
      ∀ (s₁ s₂ : w.Arrivals) (k : Fin w.datagrams.length), k ∈ s₁ → Undisturbed (s₁ ++ s₂) →
        Undisturbed (s₁ ++ k :: s₂) →
        SameDelivery w (reassemble (s₁ ++ s₂)) (reassemble (s₁ ++ k :: s₂)) := by
  intro w
  exact ⟨emitted_of_writePacket c pts dts data size isAudio isKeyFrame xorData hemitted, w.emitted_subset,
    fun s₁ s₂ k hk hs hs' => sameDelivery_of_copy hfits hk hs hs'⟩

/-- A connection that sends video with FEC. -/
def sampleConnection : PyroStreamConnection :=
  { udpRemote := ⟨[1]⟩, kicked := true, kickFlags := kickStateVideoBit, fec := true }

def sampleData : Bytes := fun i => if i < 1024 then 1 else 0

/-- A packet of three data blocks and one FEC block. -/
def sample : WrittenPacket := sampleConnection.written 0 0 sampleData 3072 false false (fun _ => 0)

lemma length_sample : 4 = sample.datagrams.length := by decide +kernel

/-- Position `k` among the four datagrams. -/
def sample.at (k : Fin 4) : Fin sample.datagrams.length := Fin.cast length_sample k

/-- The FEC block arrives twice before any data, and then stands in for the last block. -/
theorem duplicate_harmless_sample :
    SameDelivery sample (reassemble ([sample.at 3] ++ [sample.at 0, sample.at 1]))
      (reassemble ([sample.at 3] ++ sample.at 3 :: [sample.at 0, sample.at 1])) := by
  have hemitted : (sampleConnection.writePacket 0 0 sampleData 3072 false false (fun _ => 0)).1 ≠ [] :=
    List.ne_nil_of_length_pos (by decide +kernel)
  have hfits : (sampleConnection.written 0 0 sampleData 3072 false false (fun _ => 0)).Fits := by decide
  have hs : Undisturbed ([sample.at 3] ++ [sample.at 0, sample.at 1]) := by decide +kernel
  have hs' : Undisturbed ([sample.at 3] ++ sample.at 3 :: [sample.at 0, sample.at 1]) := by
    decide +kernel
  exact (duplicate_harmless sampleConnection 0 0 sampleData 3072 false false (fun _ => 0) hemitted
    hfits).2.2 _ _ _ List.mem_cons_self hs hs'

/-- The second copy arrives when the first data block is already taken out of the first copy. The
packet is reported as complete with a wrong last block. -/
theorem duplicate_corrupts : ¬DuplicatesHarmless sample := by
  intro h
  have hsame := h [sample.at 0, sample.at 3] [sample.at 1] (sample.at 3)
    (List.mem_cons_of_mem _ List.mem_cons_self)
  have hbyte := (hsame.delivered (by decide +kernel)).2.2 2048 (by decide)
  revert hbyte
  decide +kernel

end WrittenPacket

end PyroFling
