import PyroFling.Client
import PyroFling.Proofs.Codec
import PyroFling.Proofs.DecodeReuse

/-!
# Reusing a reassembly slot

A slot is cleared partly by `reset` and partly by `prepare_decode` when the first datagram of
the next packet arrives. This file runs a reused slot next to a new one on the same datagrams.
Everything but the error flag is started over; the flag is never cleared.
-/

namespace PyroFling
open ByteMemory

namespace Decoder

variable {d : Decoder}

lemma FaultFree.of_pushFecBlock {f : Nat} {data : Bytes} (h : (d.pushFecBlock f data).2.FaultFree) :
    d.FaultFree ∧ f < d.numEncodedBlocks := by
  have hentry := FaultFree.of_finishPush h
  have hnote : (d.note (f < d.numEncodedBlocks) .assertion).FaultFree := by
    split at hentry <;> exact hentry
  exact ⟨hnote.of_note.1, by simpa using hnote.of_note.2⟩

lemma beginDecode_capacity (hd : d.indexBufferCapacity = 0) (hB : 0 < d.blockSize) (seed : Nat)
    (data : Bytes) (fecBlocks even odd : Nat) :
    (d.beginDecode seed data 0 fecBlocks even odd).indexBufferCapacity = 0 := by
  have harena := beginArena_arena hd hB seed data 0 fecBlocks even odd
  rw [Nat.zero_mul] at harena
  have hcapacity := harena.capacity_lt
  simp only [Nat.zero_mod, Nat.mul_zero, Nat.add_zero, Nat.not_lt_zero, or_false] at hcapacity
  exact (laid_foldl _ fecBlocks).capacity.trans hcapacity

/-- An FEC block that completes nothing leaves the index arena alone. -/
lemma pushFecBlock_capacity {f : Nat} (hidle : d.readyEncodedLinks = [])
    (hlink : (d.encodedBlocks f).numUnresolvedIndices ≠ 1) (data : Bytes) :
    (d.pushFecBlock f data).2.indexBufferCapacity = d.indexBufferCapacity := by
  have hdrain : ∀ (e : Decoder) (fuel : Nat), e.readyEncodedLinks = [] →
      (drainReadyBlocks fuel e).indexBufferCapacity = e.indexBufferCapacity := by
    intro e fuel he
    cases fuel with
    | zero => rfl
    | succ fuel => simp only [drainReadyBlocks, he]
  have hlink' : ((d.note (f < d.numEncodedBlocks) .assertion).encodedBlocks f).numUnresolvedIndices ≠ 1 :=
    hlink
  simp only [pushFecBlock, hlink', if_false, finishPush]
  exact hdrain _ _ hidle

end Decoder

namespace ReconstructedPacket

/-- Nothing undefined has happened in this slot since its packet was started. -/
def FaultFree (p : ReconstructedPacket) : Prop := p.fault = none ∧ p.decoder.FaultFree

def feedAll (p : ReconstructedPacket) (ds : List Datagram) : ReconstructedPacket :=
  ds.foldl (fun p d => (p.feed d).2) p

/-- No datagram of a sequence leads to undefined behaviour. -/
def RunsClean : ReconstructedPacket → List Datagram → Prop
  | _, [] => True
  | p, d :: ds => (p.feed d).2.FaultFree ∧ RunsClean (p.feed d).2 ds

/-- What the client can see of a slot. -/
structure SameOutcome (p q : ReconstructedPacket) : Prop where
  isComplete : q.isComplete = p.isComplete
  fecRecovered : q.fecRecovered = p.fecRecovered
  packetData : q.getPacketData = p.getPacketData
  packetSize : q.getPacketSize = p.getPacketSize
  header : q.currentHeader = p.currentHeader

/-- After `reset`, the slot treats every sequence of datagrams as a new slot does. -/
def ReusedLikeNew (p : ReconstructedPacket) : Prop :=
  ∀ ds ≠ [], RunsClean {} ds →
    RunsClean p.reset ds ∧ SameOutcome (feedAll {} ds) (feedAll p.reset ds)

/-! ### Two slots side by side -/

/-- Neither slot holds a packet, and the first has never held one with any data. -/
structure Blank (p q : ReconstructedPacket) : Prop where
  left : p.bufferSize = 0
  right : q.bufferSize = 0
  error : q.isError = p.isError
  capacity : p.decoder.indexBufferCapacity = 0

/-- Both decoders work on a message with the sizes of the slot. -/
def Working (p : ReconstructedPacket) (d : Decoder) : Prop :=
  ∃ c D, Decoder.Quiet c D d ∧ c.blocks * maxPayloadSize = p.bufferSize ∧
    c.fecBlocks * maxPayloadSize = p.fecBufferSize

/-- The two slots hold the same packet in the same stage of reassembly. -/
structure Twin (p q : ReconstructedPacket) : Prop where
  same : q = { p with packetSeq := q.packetSeq, number := q.number, decoder := q.decoder }
  inStep : Decoder.InStep p.decoder q.decoder
  left : Working p p.decoder
  right : Working p q.decoder
  capacity : p.bufferSize = 0 → p.decoder.indexBufferCapacity = 0

/-- Rounding down to whole blocks. -/
lemma toNat_and_not_1023 (v : BitVec 32) : (v &&& ~~~1023#32).toNat = v.toNat / 1024 * 1024 := by
  have hmask : v &&& ~~~1023#32 = (v >>> 10) <<< 10 := by
    ext i hi
    interval_cases i <;> simp
  have := v.isLt
  rw [hmask, BitVec.toNat_shiftLeft, BitVec.toNat_ushiftRight, Nat.shiftLeft_eq,
    Nat.shiftRight_eq_div_pow]
  omega

lemma roundedSize_eq (header : PayloadHeader) :
    ∃ n ≤ 131072, roundedSize header = n * maxPayloadSize := by
  refine ⟨min ((header.payloadSize + 1023#32).toNat / 1024) 131072, Nat.min_le_right _ _, ?_⟩
  rw [roundedSize, toNat_and_not_1023, maxPayloadSize]
  omega

lemma Blank.beginPacket {p q : ReconstructedPacket} (h : Blank p q) (header : PayloadHeader)
    (hfree : (p.beginPacket header).decoder.FaultFree) :
    Twin (p.beginPacket header) (q.beginPacket header) := by
  obtain ⟨n, hn, hsize⟩ := roundedSize_eq header
  let d := p.decoder.setBlockSize maxPayloadSize
  let d' := q.decoder.setBlockSize maxPayloadSize
  have hB : 0 < d.blockSize := Nat.zero_lt_succ 1023
  have hF := header.numFecBlocks.isLt
  have harena := Decoder.beginArena_arena (d := d) h.capacity hB header.ptsLo.toNat (fun _ => 0) n
    header.numFecBlocks.toNat header.numXorBlocksEven.toNat header.numXorBlocksOdd.toNat
  rw [Nat.mod_eq_of_lt (by omega)] at harena
  have hbegin : (p.beginPacket header).decoder = d.beginDecode header.ptsLo.toNat (fun _ => 0)
      (n * d.blockSize) header.numFecBlocks.toNat header.numXorBlocksEven.toNat
      header.numXorBlocksOdd.toNat := by
    simp only [ReconstructedPacket.beginPacket, hsize]
    rfl
  rw [hbegin] at hfree
  obtain ⟨harea, hdegree⟩ := Decoder.fits_of_faultFree harena (Or.inr (by omega)) hfree
  have hfits : ArenaFits n header.numFecBlocks.toNat header.numXorBlocksEven.toNat
      header.numXorBlocksOdd.toNat := ⟨by omega, harea, Or.inl (by omega)⟩
  let c := fecCode header.ptsLo.toNat hfits hdegree
  obtain ⟨hstep, hquiet, hquiet'⟩ := Decoder.beginDecode_inStep hfits hdegree d d' header.ptsLo.toNat
    (fun _ => 0) hB rfl
  have hbegin' : (q.beginPacket header).decoder = d'.beginDecode header.ptsLo.toNat (fun _ => 0)
      (n * d.blockSize) header.numFecBlocks.toNat header.numXorBlocksEven.toNat
      header.numXorBlocksOdd.toNat := by
    simp only [ReconstructedPacket.beginPacket, hsize]
    rfl
  refine ⟨?_, ?_, ?_, ?_, ?_⟩
  · simp only [ReconstructedPacket.beginPacket, h.error]
  · rwa [hbegin, hbegin']
  · exact ⟨c, ∅, hbegin ▸ hquiet, hsize.symm, rfl⟩
  · exact ⟨c, ∅, hbegin' ▸ hquiet', hsize.symm, rfl⟩
  · intro hzero
    have hn0 : n = 0 := by
      have : n * 1024 = 0 := hsize.symm.trans hzero
      omega
    rw [hbegin, hn0, Nat.zero_mul]
    exact Decoder.beginDecode_capacity (d := d) h.capacity hB _ _ _ _ _

lemma advance_decoder (p : ReconstructedPacket) (header : PayloadHeader) :
    (p.advance header).decoder = p.decoder ∧ (p.advance header).bufferSize = p.bufferSize ∧
      (p.advance header).fecBufferSize = p.fecBufferSize := by
  unfold advance
  simp only
  split <;> exact ⟨rfl, rfl, rfl⟩

lemma Twin.advance {p q : ReconstructedPacket} (h : Twin p q) (header : PayloadHeader) :
    Twin (p.advance header) (q.advance header) := by
  obtain ⟨hdecoder, hsize, hfec⟩ := advance_decoder p header
  obtain ⟨hdecoder', -, -⟩ := advance_decoder q header
  refine ⟨?_, ?_, ?_, ?_, ?_⟩
  · rw [h.same]
    simp only [ReconstructedPacket.advance, note]
    split <;> rfl
  · rw [hdecoder, hdecoder']
    exact h.inStep
  · rw [hdecoder, Working, hsize, hfec]
    exact h.left
  · rw [hdecoder', Working, hsize, hfec]
    exact h.right
  · rw [hdecoder, hsize]
    exact h.capacity

lemma Working.pushRawBlock {p : ReconstructedPacket} {d : Decoder} (h : Working p d) {o : Nat}
    (ho : o < d.outputBlocks) : Working p (d.pushRawBlock o).2 := by
  obtain ⟨c, D, hquiet, hsize, hfec⟩ := h
  obtain ⟨D', hout, -, -⟩ := Decoder.pushRawBlock_spec hquiet (hquiet.inv.outputBlocks ▸ ho)
  exact ⟨c, D', hout.quiet, hsize, hfec⟩

lemma Working.pushFecBlock {p : ReconstructedPacket} {d : Decoder} (h : Working p d) {f : Nat}
    (hf : f < d.numEncodedBlocks) (data : Bytes) : Working p (d.pushFecBlock f data).2 := by
  obtain ⟨c, D, hquiet, hsize, hfec⟩ := h
  obtain ⟨D', hout, -, -⟩ := Decoder.pushFecBlock_spec hquiet (hquiet.inv.encoded ▸ hf) data
  exact ⟨c, D', hout.quiet, hsize, hfec⟩

lemma Working.fill {p : ReconstructedPacket} {d : Decoder} (h : Working p d) (data : Bytes) :
    Working p { d with outputData := data } := by
  obtain ⟨c, D, hquiet, hsize, hfec⟩ := h
  exact ⟨c, D, hquiet.fill data, hsize, hfec⟩

lemma Twin.fields {p q : ReconstructedPacket} (h : Twin p q) : q.bufferSize = p.bufferSize ∧
    q.fecBufferSize = p.fecBufferSize ∧ q.isDone = p.isDone ∧ q.isError = p.isError ∧
    q.fecRecovered = p.fecRecovered ∧ q.subpacketSeqAccum = p.subpacketSeqAccum ∧
    q.currentHeader = p.currentHeader ∧ q.fault = p.fault := by
  rw [h.same]
  exact ⟨rfl, rfl, rfl, rfl, rfl, rfl, rfl, rfl⟩

lemma Twin.step {p q p' q' : ReconstructedPacket} {d d' : Decoder} (h : Twin p q)
    {done recovered : Bool} {fault : Option Fault}
    (hp : p' = { p with decoder := d, isDone := done, fecRecovered := recovered, fault := fault })
    (hq : q' = { q with decoder := d', isDone := done, fecRecovered := recovered, fault := fault })
    (hstep : Decoder.InStep d d') (hleft : Working p d) (hright : Working p d')
    (hcapacity : p.bufferSize = 0 → d.indexBufferCapacity = 0) : Twin p' q' := by
  subst hp hq
  refine ⟨?_, hstep, hleft, hright, hcapacity⟩
  rw [h.same]

/-- The fault record after the offset of a raw block has been computed. -/
def offsetFault (p : ReconstructedPacket) : Option Fault :=
  Fault.note p.fault
    ((p.subpacketSeqAccum * maxPayloadSize).bmod (2 ^ 32) = p.subpacketSeqAccum * maxPayloadSize)
    .signedOverflow

lemma addPayloadData_of_lt {p : ReconstructedPacket} (hopen : (p.isDone || p.isError) = false)
    (hin : p.blockOffset < p.bufferSize) (data : Bytes) (size : Nat) :
    let r := { p.decoder with
      outputData := writeBlock p.decoder.outputData p.blockOffset data size }.pushRawBlock
        (p.subpacketSeqAccum % 2 ^ 32).toNat
    p.addPayloadData data size =
      { p with decoder := r.2, isDone := r.1, fecRecovered := p.fecRecovered, fault := p.offsetFault } := by
  intro r
  rw [addPayloadData, hopen, if_neg Bool.false_ne_true]
  exact if_pos hin

lemma addPayloadData_of_le {p : ReconstructedPacket} (hopen : (p.isDone || p.isError) = false)
    (hout : p.bufferSize ≤ p.blockOffset) (data : Bytes) (size : Nat) :
    p.addPayloadData data size = { p with fault := p.offsetFault } := by
  rw [addPayloadData, hopen, if_neg Bool.false_ne_true]
  exact if_neg (Nat.not_lt.mpr hout)

lemma addFecData_of_lt {p : ReconstructedPacket} (hopen : (p.isDone || p.isError) = false)
    {subseq : BitVec 32} (hin : (subseq * 1024#32).toNat < p.fecBufferSize) (data : Bytes) :
    let r := p.decoder.pushFecBlock subseq.toNat data
    p.addFecData subseq data = { p with
      decoder := r.2, isDone := r.1, fecRecovered := r.1 || p.fecRecovered, fault := p.fault } := by
  intro r
  rw [addFecData, hopen, if_neg Bool.false_ne_true]
  simp only [hin, if_true]
  cases hr : (p.decoder.pushFecBlock subseq.toNat data).1 with
  | true => simp [r]
  | false => simp [r]

lemma addFecData_of_le {p : ReconstructedPacket} (hopen : (p.isDone || p.isError) = false)
    {subseq : BitVec 32} (hout : p.fecBufferSize ≤ (subseq * 1024#32).toNat) (data : Bytes) :
    p.addFecData subseq data = p := by
  rw [addFecData, hopen, if_neg Bool.false_ne_true]
  exact if_neg (Nat.not_lt.mpr hout)

lemma Twin.addPayloadData {p q : ReconstructedPacket} (h : Twin p q) (data : Bytes) (size : Nat)
    (hfree : (p.addPayloadData data size).FaultFree) :
    Twin (p.addPayloadData data size) (q.addPayloadData data size) := by
  obtain ⟨hbuffer, -, hdone, herror, hrecovered, haccum, -, hfault⟩ := h.fields
  have houtput := h.inStep.fields.2.2.1
  have hoffset : q.blockOffset = p.blockOffset := by rw [blockOffset, haccum]; rfl
  have hnoted : q.offsetFault = p.offsetFault := by rw [offsetFault, haccum, hfault]; rfl
  cases hopen : (p.isDone || p.isError) with
  | true =>
    rw [ReconstructedPacket.addPayloadData, if_pos hopen, ReconstructedPacket.addPayloadData,
      if_pos (by rwa [hdone, herror])]
    exact h
  | false =>
    have hopen' : (q.isDone || q.isError) = false := by rwa [hdone, herror]
    rcases Nat.lt_or_ge p.blockOffset p.bufferSize with hin | hout
    · have hp := addPayloadData_of_lt hopen hin data size
      have hq := addPayloadData_of_lt hopen' (by rwa [hoffset, hbuffer]) data size
      have hfilled := h.inStep.output (writeBlock p.decoder.outputData p.blockOffset data size)
      rw [hp] at hfree
      have ho := hfree.2.of_pushRawBlock.2
      have ho' := ho.trans_eq hfilled.fields.2.2.2.1.symm
      obtain ⟨hresult, hstep⟩ := hfilled.pushRawBlock hfree.2
      simp only [hoffset, houtput] at hq
      rw [haccum, hresult, hrecovered, hnoted] at hq
      refine h.step hp ?_ hstep ((h.left.fill _).pushRawBlock ho) ((h.right.fill _).pushRawBlock ho')
        (fun hzero => ?_)
      · rw [hq]
        simp only [haccum]
      · rw [hzero] at hin
        exact absurd hin (Nat.not_lt_zero _)
    · rw [addPayloadData_of_le hopen hout, addPayloadData_of_le hopen' (by rwa [hoffset, hbuffer]),
        hnoted]
      refine ⟨?_, h.inStep, h.left, h.right, h.capacity⟩
      rw [h.same]

lemma Twin.addFecData {p q : ReconstructedPacket} (h : Twin p q) (subseq : BitVec 32) (data : Bytes)
    (hfree : (p.addFecData subseq data).FaultFree) :
    Twin (p.addFecData subseq data) (q.addFecData subseq data) := by
  obtain ⟨hbuffer, hfec, hdone, herror, hrecovered, -, -, hfault⟩ := h.fields
  cases hopen : (p.isDone || p.isError) with
  | true =>
    rw [ReconstructedPacket.addFecData, if_pos hopen, ReconstructedPacket.addFecData,
      if_pos (by rwa [hdone, herror])]
    exact h
  | false =>
    have hopen' : (q.isDone || q.isError) = false := by rwa [hdone, herror]
    rcases Nat.lt_or_ge (subseq * 1024#32).toNat p.fecBufferSize with hin | hout
    · have hp := addFecData_of_lt hopen hin data
      have hq := addFecData_of_lt hopen' (by rwa [hfec]) data
      rw [hp] at hfree
      have hf := hfree.2.of_pushFecBlock.2
      have hf' := hf.trans_eq h.inStep.fields.2.2.2.2.2.2.2.1.symm
      obtain ⟨hresult, hstep⟩ := h.inStep.pushFecBlock hfree.2
      simp only [hresult, hrecovered, hfault] at hq
      refine h.step hp hq hstep (h.left.pushFecBlock hf data) (h.right.pushFecBlock hf' data)
        (fun hzero => ?_)
      -- A packet without blocks has no members to resolve.
      obtain ⟨c, D, hquiet, hsize, -⟩ := h.left
      have hblocks : c.blocks = 0 := by
        have : c.blocks * 1024 = 0 := hsize.trans hzero
        omega
      have hempty : (c.members subseq.toNat) = ∅ :=
        Finset.eq_empty_of_forall_notMem fun x hx =>
          absurd (c.members_lt _ x hx) (by omega)
      rw [Decoder.pushFecBlock_capacity hquiet.idle ?_, h.capacity hzero]
      rw [hquiet.inv.unresolved _ (hquiet.inv.encoded ▸ hf), Decoder.unresolved, hempty]
      simp
    · rw [addFecData_of_le hopen hout, addFecData_of_le hopen' (by rwa [hfec])]
      exact h

lemma FaultFree.of_addPayloadData {p : ReconstructedPacket} {data : Bytes} {size : Nat}
    (h : (p.addPayloadData data size).FaultFree) : p.decoder.FaultFree := by
  cases hopen : (p.isDone || p.isError) with
  | true =>
    rw [addPayloadData, if_pos hopen] at h
    exact h.2
  | false =>
    rcases Nat.lt_or_ge p.blockOffset p.bufferSize with hin | hout
    · rw [addPayloadData_of_lt hopen hin] at h
      exact h.2.of_pushRawBlock.1
    · rw [addPayloadData_of_le hopen hout] at h
      exact h.2

lemma FaultFree.of_addFecData {p : ReconstructedPacket} {subseq : BitVec 32} {data : Bytes}
    (h : (p.addFecData subseq data).FaultFree) : p.decoder.FaultFree := by
  cases hopen : (p.isDone || p.isError) with
  | true =>
    rw [addFecData, if_pos hopen] at h
    exact h.2
  | false =>
    rcases Nat.lt_or_ge (subseq * 1024#32).toNat p.fecBufferSize with hin | hout
    · rw [addFecData_of_lt hopen hin] at h
      exact h.2.of_pushFecBlock.1
    · rw [addFecData_of_le hopen hout] at h
      exact h.2

lemma prepareDecode_twin {p q : ReconstructedPacket} (h : Blank p q ∨ p.bufferSize ≠ 0 ∧ Twin p q)
    (header : PayloadHeader) (hfree : (p.prepareDecode header).decoder.FaultFree) :
    Twin (p.prepareDecode header) (q.prepareDecode header) := by
  have hbegun : Twin (if p.bufferSize = 0 then p.beginPacket header else p)
      (if q.bufferSize = 0 then q.beginPacket header else q) := by
    rcases h with hblank | ⟨hne, htwin⟩
    · rw [if_pos hblank.left, if_pos hblank.right]
      refine hblank.beginPacket header ?_
      unfold prepareDecode at hfree
      simp only [hblank.left, if_true] at hfree
      split at hfree
      · exact hfree
      · rwa [(advance_decoder _ _).1] at hfree
    · rw [if_neg hne, if_neg (htwin.fields.1 ▸ hne)]
      exact htwin
  unfold prepareDecode
  by_cases hfec : isFec header = true
  · simp only [hfec, if_true]
    exact hbegun
  · simp only [hfec]
    exact hbegun.advance header

/-- A datagram that does not fault in the first slot does the same in both. -/
lemma feed_twin {p q : ReconstructedPacket} (h : Blank p q ∨ p.bufferSize ≠ 0 ∧ Twin p q)
    (d : Datagram) (hfree : (p.feed d).2.FaultFree) : Twin (p.feed d).2 (q.feed d).2 := by
  unfold feed at hfree ⊢
  simp only at hfree ⊢
  split_ifs at hfree ⊢ with hfec hsize
  · exact prepareDecode_twin h d.header hfree.2
  · exact (prepareDecode_twin h d.header hfree.of_addFecData).addFecData _ _ hfree
  · exact (prepareDecode_twin h d.header hfree.of_addPayloadData).addPayloadData _ _ hfree

lemma Twin.faultFree {p q : ReconstructedPacket} (h : Twin p q) (hfree : p.FaultFree) :
    q.FaultFree := by
  obtain ⟨c, D, hquiet, -⟩ := h.right
  exact ⟨h.fields.2.2.2.2.2.2.2.trans hfree.1, hquiet.faultFree⟩

lemma Twin.outcome {p q : ReconstructedPacket} (h : Twin p q) : SameOutcome p q := by
  obtain ⟨-, -, hdone, herror, hrecovered, -, hheader, -⟩ := h.fields
  refine ⟨?_, hrecovered, h.inStep.fields.2.2.1, ?_, hheader⟩
  · rw [ReconstructedPacket.isComplete, hdone, herror]
    rfl
  · rw [getPacketSize, hheader]
    rfl

lemma Twin.next {p q : ReconstructedPacket} (h : Twin p q) :
    Blank p q ∨ p.bufferSize ≠ 0 ∧ Twin p q := by
  by_cases hzero : p.bufferSize = 0
  · exact Or.inl ⟨hzero, h.fields.1.trans hzero, h.fields.2.2.2.1, h.capacity hzero⟩
  · exact Or.inr ⟨hzero, h⟩

lemma feedAll_twin (ds : List Datagram) : ∀ {p q : ReconstructedPacket},
    (Blank p q ∨ p.bufferSize ≠ 0 ∧ Twin p q) → RunsClean p ds →
    RunsClean q ds ∧ (ds ≠ [] → Twin (feedAll p ds) (feedAll q ds)) := by
  induction ds with
  | nil => exact fun _ _ => ⟨trivial, fun h => absurd rfl h⟩
  | cons d ds ih =>
    intro p q h hclean
    have htwin := feed_twin h d hclean.1
    obtain ⟨hrest, hend⟩ := ih htwin.next hclean.2
    refine ⟨⟨htwin.faultFree hclean.1, hrest⟩, fun _ => ?_⟩
    cases ds with
    | nil => exact htwin
    | cons d' ds => exact hend (List.cons_ne_nil d' ds)

/-! ### The error flag -/

lemma advance_isError {p : ReconstructedPacket} (h : p.isError = true) (header : PayloadHeader) :
    (p.advance header).isError = true := by
  unfold advance
  simp only
  split
  · rfl
  · exact h

lemma prepareDecode_isError {p : ReconstructedPacket} (h : p.isError = true) (header : PayloadHeader) :
    (p.prepareDecode header).isError = true := by
  have hbegun : (if p.bufferSize = 0 then p.beginPacket header else p).isError = true := by
    split
    · exact h
    · exact h
  unfold prepareDecode
  simp only
  split
  · exact hbegun
  · exact advance_isError hbegun header

lemma feed_isError {p : ReconstructedPacket} (h : p.isError = true) (d : Datagram) :
    (p.feed d).2.isError = true := by
  have hprepared := prepareDecode_isError h d.header
  have hstop : ((p.prepareDecode d.header).isDone || (p.prepareDecode d.header).isError) = true := by
    rw [hprepared, Bool.or_true]
  unfold feed
  simp only [addFecData, addPayloadData, hstop, if_true]
  split
  · split <;> exact hprepared
  · exact hprepared

/-- A packet of one byte. -/
def oneByte : Datagram where
  size := payloadHeaderSize + 1
  header := { payloadSize := 1, encoded := payloadPacketBeginBit }
  buffer := fun _ => 0

/-- A slot with its error flag set does not complete even the smallest packet. -/
lemma not_reusedLikeNew {p : ReconstructedPacket} (herror : p.isError = true) : ¬ReusedLikeNew p := by
  intro h
  have hclean : RunsClean {} [oneByte] := ⟨⟨by decide, by decide, by decide⟩, trivial⟩
  have hsame := (h [oneByte] (List.cons_ne_nil _ _) hclean).2.isComplete
  have hnew : (feedAll {} [oneByte]).isComplete = true := by decide
  have hflag : (feedAll p.reset [oneByte]).isError = true := feed_isError (p := p.reset) herror oneByte
  have hused : (feedAll p.reset [oneByte]).isComplete = false := by
    rw [isComplete, hflag, Bool.not_true, Bool.and_false]
  rw [hnew, hused] at hsame
  exact Bool.false_ne_true hsame

/-- A slot is as good as new after `reset` exactly if no datagram has ever set its error flag. -/
theorem reusedLikeNew_iff (p : ReconstructedPacket) : ReusedLikeNew p ↔ p.isError = false := by
  constructor
  · intro h
    by_contra herror
    exact not_reusedLikeNew (by simpa using herror) h
  · intro herror ds hne hclean
    obtain ⟨hused, htwin⟩ := feedAll_twin ds (p := {}) (q := p.reset)
      (Or.inl ⟨rfl, rfl, herror, rfl⟩) hclean
    exact ⟨hused, (htwin hne).outcome⟩

/-- The second block of a packet, but with a BEGIN flag. -/
def bogus : Datagram where
  size := payloadHeaderSize + 1
  header := { payloadSize := 1, encoded := payloadPacketBeginBit ||| 1#32 <<< payloadSubpacketSeqOffset }
  buffer := fun _ => 0

/-- Once it has seen a bogus datagram, a slot never completes a packet again. -/
theorem poisoned_slot : ¬ReusedLikeNew (feedAll {} [bogus]) := not_reusedLikeNew (by decide)

end ReconstructedPacket

end PyroFling
