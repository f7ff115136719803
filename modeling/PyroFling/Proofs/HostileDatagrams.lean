import PyroFling.Library.Runs
import PyroFling.Proofs.SlotOrder
import PyroFling.Proofs.SlotReuse

/-!
# Headers nobody checks

The header of a datagram is not authenticated, and `prepare_decode` takes its numbers as they are.
This file says which headers the shuffler survives, which sizes a completed packet may be asked
for, and how far the accumulated sequence numbers can carry a raw block away from its place.
-/

namespace PyroFling
open ByteMemory

/-! ### Degrees -/

namespace Shuffler

/-- The draws of the first `i` FEC blocks run without a fault if and only if no block asks for more
elements than there are. -/
lemma after_fault_iff {s : Shuffler} {total even odd : Nat} (h : s.Valid total)
    (htotal : total ≤ 2 ^ 31) (i : Nat) :
    (s.after total even odd i).fault = none ↔ ∀ f < i, fecDegree even odd f ≤ total := by
  constructor
  · induction i with
    | zero => exact fun _ f hf => absurd hf (Nat.not_lt_zero f)
    | succ i ih =>
      intro hfault f hf
      have hbegin := fault_of_begin (fault_of_pickMany hfault)
      rcases Nat.lt_succ_iff_lt_or_eq.1 hf with hlt | rfl
      · exact ih hbegin.1 f hlt
      · exact hbegin.2.1
  · intro hdegree
    exact (after_valid h htotal hdegree).fault

end Shuffler

namespace Decoder

/-- Whatever the arena looks like, the shuffler draws the index sets one after the other. -/
lemma foldl_seedBlock_shuffler (a : Decoder) (i : Nat) :
    ((List.range i).foldl seedBlock a).shuffler =
      a.shuffler.after a.outputBlocks a.numXorBlocksEven a.numXorBlocksOdd i := by
  induction i with
  | zero => rfl
  | succ i ih =>
    have hlaid := laid_foldl a i
    rw [List.range_succ, List.foldl_append, List.foldl_cons, List.foldl_nil, seedBlock_eq]
    simp only [hlaid.outputBlocks, hlaid.degrees.1, hlaid.degrees.2, ih]
    rfl

/-- Only accesses past the end of the arena are on record. -/
def OnlyBounds (d : Decoder) : Prop := d.fault = none ∨ d.fault = some .outOfBounds

lemma onlyBounds_note {d : Decoder} (h : d.OnlyBounds) (ok : Bool) :
    (d.note ok .outOfBounds).OnlyBounds := by
  unfold OnlyBounds at *
  cases ok <;> rcases h with h | h <;> simp [note, Fault.note, h]

lemma foldl_note_bounds {l : List Nat} {ok : Nat → Bool} {e : Option Fault}
    (h : e = none ∨ e = some .outOfBounds) :
    l.foldl (fun e o => Fault.note e (ok o) .outOfBounds) e = none ∨
      l.foldl (fun e o => Fault.note e (ok o) .outOfBounds) e = some .outOfBounds := by
  induction l generalizing e with
  | nil => exact h
  | cons o l ih =>
    apply ih
    cases ok o <;> rcases h with h | h <;> simp [Fault.note, h]

lemma foldl_seedBlock_onlyBounds {a : Decoder} (h : a.OnlyBounds) (i : Nat) :
    ((List.range i).foldl seedBlock a).OnlyBounds := by
  induction i with
  | zero => exact h
  | succ i ih =>
    rw [List.range_succ, List.foldl_append, List.foldl_cons, List.foldl_nil, seedBlock_eq]
    apply foldl_note_bounds
    exact onlyBounds_note ih _

lemma sameShape_propagateDecodedBlock (d : Decoder) (o : Nat) :
    SameShape d (d.propagateDecodedBlock o) := by
  unfold propagateDecodedBlock
  generalize List.range d.numU32MasksPerOutput = l
  induction l generalizing d with
  | nil => exact ⟨rfl, rfl⟩
  | cons i l ih => exact ((sameShape_note d _ _).trans (sameShape_propagateWord o i 32 _)).trans (ih _)

lemma sameShape_markDecodedBlock (d : Decoder) (o : Nat) : SameShape d (d.markDecodedBlock o).2 := by
  unfold markDecodedBlock
  simp only
  split <;> exact ⟨rfl, rfl⟩

lemma sameShape_drainReadyBlock (d : Decoder) (f : Nat) : SameShape d (d.drainReadyBlock f) := by
  by_cases hzero : (d.encodedBlocks f).numUnresolvedIndices = 0
  · simp only [drainReadyBlock, hzero, if_true]
    exact ⟨rfl, rfl⟩
  · rw [drainReadyBlock_eq d hzero]
    have hmarked : SameShape d
        ((d.checkReady f).markDecodedBlock (d.encodedBlocks f).outputIndex).2 :=
      sameShape_markDecodedBlock (d.checkReady f) _
    simp only
    split
    · exact SameShape.trans hmarked (sameShape_propagateDecodedBlock _ _)
    · exact hmarked

lemma sameShape_drainReadyBlocks (fuel : Nat) (d : Decoder) :
    SameShape d (drainReadyBlocks fuel d) := by
  induction fuel generalizing d with
  | zero => exact sameShape_note d _ _
  | succ fuel ih =>
    rw [drainReadyBlocks]
    split
    · exact ⟨rfl, rfl⟩
    · rename_i f rest _
      exact (sameShape_drainReadyBlock { d with readyEncodedLinks := rest } f).trans (ih _)

lemma sameShape_finishPush (d : Decoder) : SameShape d d.finishPush.2 :=
  (sameShape_drainReadyBlocks _ d).trans (sameShape_note _ _ _)

lemma sameShape_pushRawBlock (d : Decoder) (o : Nat) : SameShape d (d.pushRawBlock o).2 := by
  have hmarked := sameShape_markDecodedBlock d o
  unfold pushRawBlock
  split
  · rename_i e hmark
    rw [hmark] at hmarked
    exact (hmarked.trans (sameShape_propagateDecodedBlock e o)).trans (sameShape_finishPush _)
  · rename_i e hmark
    rw [hmark] at hmarked
    exact hmarked.trans (sameShape_finishPush e)

end Decoder

namespace ReconstructedPacket

/-- The seeding of the decoder went through: no assertion has failed, every loop has ended and
nothing was divided by zero. -/
structure Seeds (d : Decoder) : Prop where
  shuffler : d.shuffler.fault = none
  decoder : d.OnlyBounds

/-- No FEC block is the sum of more blocks than the buffer has. -/
def DegreesFit (header : PayloadHeader) : Prop :=
  ∀ f < header.numFecBlocks.toNat, fecDegree header.numXorBlocksEven.toNat
    header.numXorBlocksOdd.toNat f ≤ roundedSize header / maxPayloadSize

instance (header : PayloadHeader) : Decidable (DegreesFit header) :=
  inferInstanceAs (Decidable (∀ f < _, _))

/-- What the decoder of a slot is after `begin_decode`, before the FEC blocks are seeded. -/
def arena (p : ReconstructedPacket) (header : PayloadHeader) : Decoder :=
  (p.decoder.setBlockSize maxPayloadSize).beginArena header.ptsLo.toNat (fun _ => 0)
    (roundedSize header) header.numFecBlocks.toNat header.numXorBlocksEven.toNat
    header.numXorBlocksOdd.toNat

lemma beginPacket_seeds_iff (p : ReconstructedPacket) (header : PayloadHeader) :
    Seeds (p.beginPacket header).decoder ↔ DegreesFit header := by
  obtain ⟨n, hn, hsize⟩ := roundedSize_eq header
  have hblocks : roundedSize header / maxPayloadSize = n := by
    rw [hsize, maxPayloadSize, Nat.mul_div_cancel _ (by norm_num)]
  obtain ⟨buffer, -, harena⟩ := Decoder.beginArena_eq (d := p.decoder.setBlockSize maxPayloadSize)
    (Nat.zero_lt_succ 1023) header.ptsLo.toNat (fun _ => 0) n header.numFecBlocks.toNat
    header.numXorBlocksEven.toNat header.numXorBlocksOdd.toNat
  have hbegun : (p.beginPacket header).decoder =
      (List.range header.numFecBlocks.toNat).foldl Decoder.seedBlock (p.arena header) := rfl
  have hstart : p.arena header = _ := (congrArg (fun size => Decoder.beginArena _ _ _ size _ _ _)
    hsize).trans harena
  have hbounds : (p.arena header).OnlyBounds := by
    rw [hstart]
    exact Decoder.onlyBounds_note (d := {}) (Or.inl rfl) _
  have hmod : n % 2 ^ 32 = n := Nat.mod_eq_of_lt (by omega)
  have hfault : (p.beginPacket header).decoder.shuffler.fault = none ↔ DegreesFit header := by
    rw [hbegun, Decoder.foldl_seedBlock_shuffler, hstart, DegreesFit, hblocks]
    simp only [hmod]
    exact Shuffler.after_fault_iff (Shuffler.valid_of_flush _ _ _) (by omega) _
  constructor
  · intro h
    exact hfault.1 h.shuffler
  · intro h
    refine ⟨hfault.2 h, ?_⟩
    rw [hbegun]
    exact Decoder.foldl_seedBlock_onlyBounds hbounds _

/-- The first datagram of a packet gets through `prepare_decode` if and only if the degrees in its
header do not exceed the number of blocks. -/
theorem prepareDecode_seeds_iff (p : ReconstructedPacket) (hreset : p.isReset = true)
    (header : PayloadHeader) : Seeds (p.prepareDecode header).decoder ↔ DegreesFit header := by
  have hempty : p.bufferSize = 0 := by simpa [isReset] using hreset
  have hdecoder : (p.prepareDecode header).decoder = (p.beginPacket header).decoder := by
    simp only [prepareDecode, hempty, if_true]
    split
    · rfl
    · exact (advance_decoder _ _).1
  rw [hdecoder]
  exact beginPacket_seeds_iff p header

/-- A raw datagram of a packet with one block and one FEC block, the sum of `degree` blocks. -/
def oneBlock (degree : BitVec 8) : Datagram where
  size := payloadHeaderSize + maxPayloadSize
  header := { payloadSize := 1024, numFecBlocks := 1, numXorBlocksEven := degree,
              encoded := payloadPacketBeginBit }
  buffer := fun _ => 0

theorem oneBlock_seeds : ({} : ReconstructedPacket).isReset = true ∧
    Seeds (({} : ReconstructedPacket).prepareDecode (oneBlock 1).header).decoder :=
  ⟨rfl, (prepareDecode_seeds_iff {} rfl (oneBlock 1).header).2 (by decide)⟩

/-- A new client accepts a datagram with an FEC block of degree two for a single block, and the
shuffler runs dry. -/
theorem oneBlock_exhausts : (({} : PyroStreamClient).iterate { datagram := oneBlock 2 }).1 = .ok ∧
    (({} : PyroStreamClient).iterate { datagram := oneBlock 2 }).2.video.first.decoder.shuffler.fault =
      some .assertion ∧
    ¬Seeds (({} : ReconstructedPacket).prepareDecode (oneBlock 2).header).decoder := by
  refine ⟨by decide, by decide, fun h => ?_⟩
  have hfault : (({} : ReconstructedPacket).prepareDecode (oneBlock 2).header).decoder.shuffler.fault =
      some .assertion := by decide
  rw [h.shuffler] at hfault
  exact absurd hfault (by decide)

/-! ### Sizes -/

/-- The first datagram of a packet announces no more than the 128 MiB a buffer may have. -/
def ModestSize (p : ReconstructedPacket) (d : Datagram) : Prop :=
  p.isReset = true → d.header.payloadSize.toNat ≤ 2 ^ 27

lemma le_roundedSize {header : PayloadHeader} (h : header.payloadSize.toNat ≤ 2 ^ 27) :
    header.payloadSize.toNat ≤ roundedSize header := by
  have hsum : (header.payloadSize + 1023#32).toNat = header.payloadSize.toNat + 1023 := by
    rw [BitVec.toNat_add]
    simp only [BitVec.toNat_ofNat]
    omega
  rw [roundedSize, toNat_and_not_1023, hsum, maxPayloadSize]
  omega

lemma advance_currentHeader (p : ReconstructedPacket) (header : PayloadHeader) :
    (p.advance header).currentHeader = p.currentHeader := by
  unfold advance
  simp only
  split <;> rfl

lemma prepareDecode_currentHeader (p : ReconstructedPacket) (header : PayloadHeader) :
    (p.prepareDecode header).currentHeader =
      if p.bufferSize = 0 then header else p.currentHeader := by
  have hbegun : (if p.bufferSize = 0 then p.beginPacket header else p).currentHeader =
      if p.bufferSize = 0 then header else p.currentHeader := by
    split <;> rfl
  rw [← hbegun]
  unfold prepareDecode
  simp only
  split
  · rfl
  · exact advance_currentHeader _ header

lemma addPayloadData_currentHeader (p : ReconstructedPacket) (data : Bytes) (size : Nat) :
    (p.addPayloadData data size).currentHeader = p.currentHeader := by
  unfold addPayloadData
  simp only
  split
  · rfl
  · split <;> rfl

lemma addFecData_currentHeader (p : ReconstructedPacket) (subseq : BitVec 32) (data : Bytes) :
    (p.addFecData subseq data).currentHeader = p.currentHeader := by
  unfold addFecData
  simp only
  split
  · rfl
  · split
    · split <;> rfl
    · rfl

lemma feed_currentHeader (p : ReconstructedPacket) (d : Datagram) : (p.feed d).2.currentHeader =
    if p.bufferSize = 0 then d.header else p.currentHeader := by
  rw [← prepareDecode_currentHeader]
  unfold feed
  simp only
  split
  · split
    · rfl
    · exact addFecData_currentHeader _ _ _
  · exact addPayloadData_currentHeader _ _ _

lemma feed_packetSize_le {p : ReconstructedPacket} (h : p.bufferSize ≠ 0 → p.getPacketSize ≤ p.bufferSize)
    {d : Datagram} (hmodest : ModestSize p d) :
    (p.feed d).2.getPacketSize ≤ (p.feed d).2.bufferSize := by
  rw [getPacketSize, feed_currentHeader, feed_bufferSize]
  by_cases hempty : p.bufferSize = 0
  · rw [if_pos hempty, if_pos hempty]
    exact le_roundedSize (hmodest (by simp [isReset, hempty]))
  · rw [if_neg hempty, if_neg hempty]
    exact h hempty

/-- A run in which every packet announces a modest size never hands out more than it holds. -/
theorem completed_size_fits (p : ReconstructedPacket) (hreset : p.isReset = true) (ds : List Datagram)
    (hne : ds ≠ []) (hmodest : Runs.Along (fun p d => (p.feed d).2) ModestSize p ds) :
    (feedAll p ds).isComplete = true →
      (feedAll p ds).getPacketSize ≤ (feedAll p ds).bufferSize := by
  intro _
  have hsized : Runs.Along (fun p d => (p.feed d).2) (fun p d =>
      (p.feed d).2.getPacketSize ≤ (p.feed d).2.bufferSize) p ds := by
    apply hmodest.imp (I := fun p => p.bufferSize ≠ 0 → p.getPacketSize ≤ p.bufferSize)
    · intro hbuffer
      exact absurd (by simpa [isReset] using hreset) hbuffer
    · exact fun p d h hd _ => feed_packetSize_le h hd
    · exact fun p d h hd => feed_packetSize_le h hd
  exact Runs.Along.last (J := fun q : ReconstructedPacket => q.getPacketSize ≤ q.bufferSize) hsized hne

/-- The two raw datagrams of a packet of 1500 bytes, all of them 7. -/
def twoBlocks : List Datagram :=
  [{ size := payloadHeaderSize + maxPayloadSize
     header := { payloadSize := 1500, encoded := payloadPacketBeginBit }
     buffer := fun _ => 7 },
   { size := payloadHeaderSize + 476
     header := { payloadSize := 1500, encoded := 1 <<< payloadSubpacketSeqOffset }
     buffer := fun _ => 7 }]

theorem twoBlocks_modest : ({} : ReconstructedPacket).isReset = true ∧ twoBlocks ≠ [] ∧
    Runs.Along (fun p d => (p.feed d).2) ModestSize {} twoBlocks ∧
    (feedAll {} twoBlocks).isComplete = true ∧ (feedAll {} twoBlocks).getPacketSize = 1500 ∧
    (feedAll {} twoBlocks).getPacketSize ≤ (feedAll {} twoBlocks).bufferSize := by
  have hmodest : Runs.Along (fun p d => (ReconstructedPacket.feed p d).2) ModestSize {} twoBlocks :=
    ⟨fun _ => by decide, fun _ => by decide, trivial⟩
  have hcomplete : (feedAll {} twoBlocks).isComplete = true := by decide +kernel
  exact ⟨rfl, List.cons_ne_nil _ _, hmodest, hcomplete, by decide +kernel,
    completed_size_fits {} rfl _ (List.cons_ne_nil _ _) hmodest hcomplete⟩

/-- A datagram with the only FEC block of a packet of `payloadSize` bytes, the sum of no blocks. -/
def emptyFec (payloadSize : BitVec 32) : Datagram where
  size := payloadHeaderSize + maxPayloadSize
  header := { payloadSize := payloadSize, numFecBlocks := 1, encoded := payloadPacketFecBit }
  buffer := fun _ => 0

/-- The rounded size of the largest packet wraps to zero, and one FEC block completes it: the client
hands out four gigabytes behind an empty buffer. -/
theorem emptyFec_oversized :
    let c := (({} : PyroStreamClient).iterate { datagram := emptyFec 0xffffffff }).2
    c.current = some .video ∧ c.video.first = feedAll {} [emptyFec 0xffffffff] ∧
    (feedAll {} [emptyFec 0xffffffff]).isComplete = true ∧
    ¬(feedAll {} [emptyFec 0xffffffff]).getPacketSize ≤
      (feedAll {} [emptyFec 0xffffffff]).bufferSize := by
  refine ⟨by decide, rfl, by decide, by decide⟩

/-! ### Places -/

/-- The slot a datagram finds, or the one it starts. -/
def started (p : ReconstructedPacket) (header : PayloadHeader) : ReconstructedPacket :=
  if p.bufferSize = 0 then p.beginPacket header else p

/-- What the accumulator should be after a raw datagram. -/
def nextAccum (p : ReconstructedPacket) (header : PayloadHeader) : Int :=
  p.subpacketSeqAccum +
    payloadGetSubpacketSeqDelta (payloadGetSubpacketSeq header.encoded) p.lastSubpacketRawSeq

/-- A slot, with the memory of whether its accumulator has overflowed since its packet was started. -/
structure Tracked where
  slot : ReconstructedPacket := {}
  overflowed : Bool := false

/-- Whether the accumulator overflows with a datagram, or has overflowed before. -/
def Tracked.overflows (t : Tracked) (header : PayloadHeader) : Bool :=
  let next := (t.slot.started header).nextAccum header
  (t.slot.bufferSize ≠ 0 && t.overflowed) || next.bmod (2 ^ 32) ≠ next

def Tracked.feed (t : Tracked) (d : Datagram) : Tracked :=
  { slot := (t.slot.feed d).2, overflowed := t.overflows d.header }

/-- `add_payload_data` copies the datagram to the buffer. -/
def Writes (p : ReconstructedPacket) : Prop :=
  (p.isDone || p.isError) = false ∧ p.blockOffset < p.bufferSize

/-- The integers that lead to the place of a block are the intended ones, and the place is in the
buffer. -/
structure InPlace (p : ReconstructedPacket) (overflowed : Bool) : Prop where
  accum : overflowed = false
  product : (p.subpacketSeqAccum * maxPayloadSize).bmod (2 ^ 32) = p.subpacketSeqAccum * maxPayloadSize
  range : p.blockOffset + maxPayloadSize ≤ p.bufferSize
  index : (p.subpacketSeqAccum % 2 ^ 32).toNat < p.decoder.outputBlocks

def Tracked.Safe (t : Tracked) (d : Datagram) : Prop :=
  Writes (t.slot.prepareDecode d.header) →
    InPlace (t.slot.prepareDecode d.header) (t.overflows d.header)

/-- The datagram takes the accumulator of an open packet to a multiple of `2 ^ 22`, plus the number of
a block. -/
def GoesAround (p : ReconstructedPacket) (header : PayloadHeader) : Prop :=
  p.bufferSize ≠ 0 ∧ p.isDone = false ∧ p.isError = false ∧ isBegin header = false ∧
    2 ^ 22 ≤ p.nextAccum header ∧ p.nextAccum header < 2 ^ 31 ∧
    p.nextAccum header % 2 ^ 22 < (p.bufferSize / maxPayloadSize : Nat)

instance (p : ReconstructedPacket) (header : PayloadHeader) : Decidable (GoesAround p header) :=
  inferInstanceAs (Decidable (_ ∧ _))

/-- The buffer has whole blocks, as many as the decoder knows of; an accumulator that has overflowed
is an error. -/
structure Tracked.Regular (t : Tracked) : Prop where
  blocks : ∃ n ≤ 131072, t.slot.bufferSize = n * maxPayloadSize ∧
    (n ≠ 0 → t.slot.decoder.outputBlocks = n)
  accum : -2 ^ 31 ≤ t.slot.subpacketSeqAccum ∧ t.slot.subpacketSeqAccum < 2 ^ 31
  error : t.slot.bufferSize ≠ 0 → t.slot.subpacketSeqAccum < 0 ∨ t.overflowed = true →
    t.slot.isError = true

lemma advance_fields (p : ReconstructedPacket) (header : PayloadHeader) :
    (p.advance header).subpacketSeqAccum = (p.nextAccum header).bmod (2 ^ 32) ∧
      (p.advance header).isDone = p.isDone ∧
      ((p.advance header).isError = false ↔ p.isError = false ∧
        0 ≤ (p.nextAccum header).bmod (2 ^ 32) ∧
        ((p.nextAccum header).bmod (2 ^ 32) = 0 ↔ isBegin header = true)) := by
  unfold advance
  simp only [← nextAccum.eq_1]
  split
  · rename_i h
    refine ⟨rfl, rfl, ?_⟩
    cases hbegin : isBegin header <;> simp only [hbegin] at h ⊢ <;> simp at h ⊢ <;> omega
  · rename_i h
    refine ⟨rfl, rfl, ?_⟩
    cases hbegin : isBegin header <;> simp only [hbegin] at h ⊢ <;> simp [note] at h ⊢ <;> omega

/-- Offsets that have wrapped are inside the buffer only if they come out at the place of another
block. -/
lemma blockOffset_lt_iff {p : ReconstructedPacket} {n : Nat} (hn : n ≤ 131072) :
    p.blockOffset < n * maxPayloadSize ↔ p.subpacketSeqAccum % 2 ^ 22 < n := by
  rw [blockOffset, maxPayloadSize, Int.bmod]
  omega

lemma payloadGetSubpacketSeqDelta_bounds (a b : BitVec 32) :
    -2 ^ 13 ≤ payloadGetSubpacketSeqDelta a b ∧ payloadGetSubpacketSeqDelta a b < 2 ^ 13 := by
  rw [payloadGetSubpacketSeqDelta, payloadGetSeqDelta_eq, Int.bmod]
  omega

variable {t : Tracked} {header : PayloadHeader}

/-- The slot is as regular with the datagram's packet started. -/
lemma Tracked.Regular.started (h : t.Regular) (header : PayloadHeader) :
    Tracked.Regular { slot := t.slot.started header,
                      overflowed := t.slot.bufferSize ≠ 0 && t.overflowed } := by
  by_cases hempty : t.slot.bufferSize = 0
  · obtain ⟨n, hn, hsize⟩ := roundedSize_eq header
    have hblocks : (t.slot.beginPacket header).decoder.outputBlocks = n := by
      obtain ⟨buffer, -, harena⟩ := Decoder.beginArena_eq
        (d := t.slot.decoder.setBlockSize maxPayloadSize) (Nat.zero_lt_succ 1023)
        header.ptsLo.toNat (fun _ => 0) n header.numFecBlocks.toNat header.numXorBlocksEven.toNat
        header.numXorBlocksOdd.toNat
      rw [beginPacket, hsize]
      refine (Decoder.laid_foldl _ _).outputBlocks.trans ?_
      refine (congrArg Decoder.outputBlocks harena).trans ?_
      exact Nat.mod_eq_of_lt (by omega)
    rw [ReconstructedPacket.started, if_pos hempty]
    refine ⟨⟨n, hn, hsize, fun _ => hblocks⟩, by simp [beginPacket], ?_⟩
    intro _ hbad
    simp [beginPacket, hempty] at hbad
  · rw [ReconstructedPacket.started, if_neg hempty]
    refine ⟨h.blocks, h.accum, fun hsize hbad => h.error hsize ?_⟩
    simpa [hempty] using hbad

/-- An accumulator that overflows, or that is negative, is an error. -/
lemma Tracked.Regular.advance (h : t.Regular) (header : PayloadHeader) :
    Tracked.Regular { slot := t.slot.advance header,
                      overflowed := t.overflowed ||
                        (t.slot.nextAccum header).bmod (2 ^ 32) ≠ t.slot.nextAccum header } := by
  obtain ⟨hdecoder, hbuffer, -⟩ := advance_decoder t.slot header
  obtain ⟨haccum, -, herror⟩ := advance_fields t.slot header
  have hdelta := payloadGetSubpacketSeqDelta_bounds (payloadGetSubpacketSeq header.encoded)
    t.slot.lastSubpacketRawSeq
  have hrange := h.accum
  refine ⟨?_, ?_, ?_⟩
  · simp only [hdecoder, hbuffer]
    exact h.blocks
  · simp only [haccum, Int.bmod]
    omega
  · intro hsize hbad
    simp only [hbuffer] at hsize
    simp only [haccum] at hbad
    by_contra hopen
    obtain ⟨hold, hnonneg, -⟩ := herror.1 (by simpa using hopen)
    have hclean : ¬(t.slot.subpacketSeqAccum < 0 ∨ t.overflowed = true) := by
      intro hbad
      rw [h.error hsize hbad] at hold
      exact Bool.noConfusion hold
    rw [not_or] at hclean
    rcases hbad with hneg | hover
    · omega
    · simp only [hclean.2, Bool.false_or, decide_eq_true_eq] at hover
      apply hover
      have hnext : t.slot.nextAccum header = t.slot.subpacketSeqAccum + _ := rfl
      rw [Int.bmod] at hnonneg ⊢
      omega

lemma prepareDecode_raw (p : ReconstructedPacket) (hraw : isFec header = false) :
    p.prepareDecode header = (p.started header).advance header := by
  simp only [prepareDecode, hraw, Bool.false_eq_true, if_false, ReconstructedPacket.started]

lemma Tracked.Regular.prepareDecode (h : t.Regular) (hraw : isFec header = false) :
    Tracked.Regular { slot := t.slot.prepareDecode header, overflowed := t.overflows header } := by
  rw [prepareDecode_raw t.slot hraw]
  exact (h.started header).advance header

/-- What a raw block does not change. -/
lemma addPayloadData_frame (p : ReconstructedPacket) (data : Bytes) (size : Nat) :
    let q := p.addPayloadData data size
    q.bufferSize = p.bufferSize ∧ q.subpacketSeqAccum = p.subpacketSeqAccum ∧
      q.isError = p.isError ∧ q.decoder.outputBlocks = p.decoder.outputBlocks := by
  unfold addPayloadData
  simp only
  split
  · exact ⟨rfl, rfl, rfl, rfl⟩
  · split
    · exact ⟨rfl, rfl, rfl, (Decoder.sameShape_pushRawBlock _ _).1⟩
    · exact ⟨rfl, rfl, rfl, rfl⟩

lemma Tracked.Regular.feed (h : t.Regular) {d : Datagram} (hraw : isFec d.header = false) :
    (t.feed d).Regular := by
  have hprepared := h.prepareDecode hraw
  obtain ⟨hbuffer, haccum, herror, hblocks⟩ :=
    addPayloadData_frame (t.slot.prepareDecode d.header) d.buffer (d.size - payloadHeaderSize)
  have hslot : (t.feed d).slot = (t.slot.prepareDecode d.header).addPayloadData d.buffer
      (d.size - payloadHeaderSize) := by
    simp only [Tracked.feed, ReconstructedPacket.feed, hraw, Bool.false_eq_true, if_false]
  refine ⟨?_, ?_, ?_⟩
  · rw [hslot, hbuffer, hblocks]
    exact hprepared.blocks
  · rw [hslot, haccum]
    exact hprepared.accum
  · rw [hslot, hbuffer, haccum, herror]
    exact hprepared.error

/-- The first raw datagram of a packet does not get far. -/
lemma nextAccum_beginPacket_lt (p : ReconstructedPacket) (header : PayloadHeader) :
    (p.beginPacket header).nextAccum header < 2 ^ 13 := by
  have hdelta := payloadGetSubpacketSeqDelta_bounds (payloadGetSubpacketSeq header.encoded) 0
  simp only [nextAccum, beginPacket]
  omega

/-- An accumulator that has gone around leads to a write at the place of another block, with an index
that is no block's. -/
lemma Tracked.Regular.not_safe (h : t.Regular) {d : Datagram} (hraw : isFec d.header = false)
    (hgoes : GoesAround t.slot d.header) : ¬t.Safe d := by
  intro hsafe
  obtain ⟨hopen, hidone, hierror, hbegin, hlow, hhigh, hplace⟩ := hgoes
  obtain ⟨⟨n, hn, hsize, hblocks⟩, -, -⟩ := h.prepareDecode hraw
  obtain ⟨haccum, hdone, herror⟩ := advance_fields t.slot d.header
  have hprepared : t.slot.prepareDecode d.header = t.slot.advance d.header := by
    rw [prepareDecode_raw t.slot hraw, ReconstructedPacket.started, if_neg hopen]
  have hnext : (t.slot.nextAccum d.header).bmod (2 ^ 32) = t.slot.nextAccum d.header := by
    rw [Int.bmod]
    omega
  rw [hnext] at haccum herror
  rw [hprepared] at hsize hblocks
  have hcount : t.slot.bufferSize / maxPayloadSize = n := by
    rw [← (advance_decoder t.slot d.header).2.1, hsize, maxPayloadSize,
      Nat.mul_div_cancel _ (by norm_num)]
  rw [hcount] at hplace
  have hclean : (t.slot.advance d.header).isError = false := by
    refine herror.2 ⟨hierror, by omega, ?_⟩
    rw [hbegin]
    exact ⟨fun hzero => by omega, fun hfalse => Bool.noConfusion hfalse⟩
  have hwrites : Writes (t.slot.prepareDecode d.header) := by
    rw [hprepared]
    constructor
    · rw [hdone, hidone, hclean]
      rfl
    · rw [hsize, blockOffset_lt_iff hn, haccum]
      exact hplace
  have hindex := (hsafe hwrites).index
  rw [hprepared, haccum, hblocks (by omega)] at hindex
  omega

/-- A write uses the exact sum, and the flags have let it pass. -/
lemma Tracked.Regular.exact_of_writes (h : t.Regular) {d : Datagram} (hraw : isFec d.header = false)
    (hwrites : Writes (t.slot.prepareDecode d.header)) :
    t.overflows d.header = false ∧ 0 ≤ (t.slot.prepareDecode d.header).subpacketSeqAccum ∧
      (t.slot.prepareDecode d.header).subpacketSeqAccum =
        (t.slot.started d.header).nextAccum d.header := by
  obtain ⟨hopen, hin⟩ := hwrites
  rw [Bool.or_eq_false_iff] at hopen
  have hgood : ¬((t.slot.prepareDecode d.header).subpacketSeqAccum < 0 ∨
      t.overflows d.header = true) := by
    intro hbad
    rw [(h.prepareDecode hraw).error (Nat.ne_zero_of_lt hin) hbad] at hopen
    exact Bool.noConfusion hopen.2
  rw [not_or, Bool.not_eq_true] at hgood
  refine ⟨hgood.2, by omega, ?_⟩
  have hlast := (Bool.or_eq_false_iff.1 hgood.2).2
  rw [prepareDecode_raw t.slot hraw, (advance_fields _ d.header).1]
  simpa using hlast

/-- A write whose accumulator has not gone around is at the place of its own block. -/
lemma Tracked.Regular.inPlace (h : t.Regular) {d : Datagram} (hraw : isFec d.header = false)
    (hgoes : ¬GoesAround t.slot d.header) : t.Safe d := by
  intro hwrites
  obtain ⟨hover, hnonneg, hexact⟩ := h.exact_of_writes hraw hwrites
  obtain ⟨⟨n, hn, hsize, hblocks⟩, hrange, -⟩ := h.prepareDecode hraw
  simp only at hsize hblocks hrange
  have hplace : (t.slot.prepareDecode d.header).subpacketSeqAccum % 2 ^ 22 < n := by
    rw [← blockOffset_lt_iff hn, ← hsize]
    exact hwrites.2
  have hsmall : (t.slot.prepareDecode d.header).subpacketSeqAccum < 2 ^ 22 := by
    by_contra hlarge
    by_cases hempty : t.slot.bufferSize = 0
    · rw [hexact, ReconstructedPacket.started, if_pos hempty] at hlarge
      have := nextAccum_beginPacket_lt t.slot d.header
      omega
    · rw [hexact, ReconstructedPacket.started, if_neg hempty] at hlarge hrange hplace
      have hprepared : t.slot.prepareDecode d.header = t.slot.advance d.header := by
        rw [prepareDecode_raw t.slot hraw, ReconstructedPacket.started, if_neg hempty]
      obtain ⟨-, hdone, herror⟩ := advance_fields t.slot d.header
      have hcount : t.slot.bufferSize / maxPayloadSize = n := by
        rw [← (advance_decoder t.slot d.header).2.1, ← hprepared, hsize, maxPayloadSize,
          Nat.mul_div_cancel _ (by norm_num)]
      obtain ⟨hidone, hierror⟩ := Bool.or_eq_false_iff.1 hwrites.1
      rw [hprepared] at hidone hierror
      obtain ⟨hold, hpos, hbegin⟩ := herror.1 hierror
      have hraised : isBegin d.header = false := by
        rw [← Bool.not_eq_true, ← hbegin, Int.bmod]
        omega
      refine hgoes ⟨hempty, hdone ▸ hidone, hold, hraised, by omega, hrange.2, ?_⟩
      rw [hcount]
      exact hplace
  refine ⟨hover, ?_, ?_, ?_⟩
  · rw [maxPayloadSize, Int.bmod]
    omega
  · rw [hsize, blockOffset, maxPayloadSize, Int.bmod]
    omega
  · rw [hblocks (by omega)]
    omega

lemma regular_new (p : ReconstructedPacket) : Tracked.Regular { slot := p.reset } := by
  refine ⟨⟨0, by norm_num, by simp [reset], fun h => absurd rfl h⟩, by simp [reset], ?_⟩
  intro hsize
  exact absurd rfl hsize

/-- The raw blocks of a run are all in place if and only if no accumulator goes around. -/
theorem raw_blocks_in_place_iff (p : ReconstructedPacket) (ds : List Datagram)
    (hraw : ∀ d ∈ ds, isFec d.header = false) :
    Runs.Along Tracked.feed Tracked.Safe { slot := p.reset } ds ↔
      Runs.Along Tracked.feed (fun t d => ¬GoesAround t.slot d.header) { slot := p.reset } ds := by
  apply (Runs.Along.of_forall hraw).congr (regular_new p)
  · exact fun t d h hd => h.feed hd
  · intro t d h hd
    constructor
    · exact fun hsafe hgoes => h.not_safe hd hgoes hsafe
    · exact fun hgoes => h.inPlace hd hgoes

theorem twoBlocks_in_place : (∀ d ∈ twoBlocks, isFec d.header = false) ∧
    Runs.Along Tracked.feed Tracked.Safe { slot := ({} : ReconstructedPacket).reset } twoBlocks := by
  have hraw : ∀ d ∈ twoBlocks, isFec d.header = false := by decide
  exact ⟨hraw, (raw_blocks_in_place_iff {} twoBlocks hraw).2 ⟨by decide, by decide +kernel, trivial⟩⟩

/-- A raw datagram that claims a place far behind the single block of its packet. -/
def raised (place : Nat) : Datagram where
  size := payloadHeaderSize + maxPayloadSize
  header := { payloadSize := 1024, encoded := BitVec.ofNat 32 place <<< payloadSubpacketSeqOffset }
  buffer := fun _ => 0

lemma raised_flags (place : Nat) :
    isFec (raised place).header = false ∧ isBegin (raised place).header = false := by
  have hlow : ∀ x : BitVec 32, x <<< 18 &&& 4#32 = 0 ∧ x <<< 18 &&& 8#32 = 0 := by
    intro x
    constructor
    · ext j hj
      interval_cases j <;> simp
    · ext j hj
      interval_cases j <;> simp
  constructor
  · exact decide_eq_false (not_not.2 (hlow (BitVec.ofNat 32 place)).1)
  · exact decide_eq_false (not_not.2 (hlow (BitVec.ofNat 32 place)).2)

lemma raised_subseq (place : Nat) :
    (payloadGetSubpacketSeq (raised place).header.encoded).toNat = place % 2 ^ 14 := by
  rw [payloadGetSubpacketSeq, toNat_and_payloadSeqMask, BitVec.toNat_ushiftRight]
  simp only [raised, payloadSubpacketSeqOffset, BitVec.toNat_shiftLeft, BitVec.toNat_ofNat,
    Nat.shiftLeft_eq, Nat.shiftRight_eq_div_pow]
  omega

/-- The slot of a packet with one block that is still open although its accumulator is at `place`. -/
structure Climbing (place : Nat) (p : ReconstructedPacket) : Prop where
  size : p.bufferSize = 1024
  isOpen : p.isDone = false ∧ p.isError = false
  accum : p.subpacketSeqAccum = place
  last : p.lastSubpacketRawSeq.toNat = place % 2 ^ 14

lemma Climbing.nextAccum {place next : Nat} {p : ReconstructedPacket} (h : Climbing place p)
    (hgt : place < next) (hstep : next ≤ place + 8191) :
    p.nextAccum (raised next).header = next := by
  rw [ReconstructedPacket.nextAccum, payloadGetSubpacketSeqDelta, payloadGetSeqDelta_eq, h.accum, h.last, raised_subseq,
    Int.bmod]
  omega

/-- A step up, not too large and not all around, writes nothing and is no error. -/
lemma Climbing.feed {place next : Nat} {p : ReconstructedPacket}
    (h : Climbing place (p.started (raised next).header)) (hgt : place < next)
    (hstep : next ≤ place + 8191) (haround : next < 2 ^ 22) :
    Climbing next (p.feed (raised next)).2 := by
  obtain ⟨hraw, hbegin⟩ := raised_flags next
  obtain ⟨haccum, hdone, herror⟩ := advance_fields (p.started (raised next).header) (raised next).header
  have hnext := h.nextAccum hgt hstep
  have hexact : (next : Int).bmod (2 ^ 32) = next := by
    rw [Int.bmod]
    omega
  rw [hnext, hexact] at haccum herror
  let q := (p.started (raised next).header).advance (raised next).header
  have hclean : q.isError = false := by
    refine herror.2 ⟨h.isOpen.2, by omega, ?_⟩
    rw [hbegin]
    exact ⟨fun hzero => by omega, fun hfalse => Bool.noConfusion hfalse⟩
  have hsize : q.bufferSize = 1 * maxPayloadSize :=
    (advance_decoder _ _).2.1.trans h.size
  have hopen : (q.isDone || q.isError) = false := by
    rw [hdone, h.isOpen.1, hclean]
    rfl
  have hout : q.bufferSize ≤ q.blockOffset := by
    rw [← Nat.not_lt, hsize, blockOffset_lt_iff (by norm_num), haccum]
    omega
  have hfed : (p.feed (raised next)).2 = { q with fault := q.offsetFault } := by
    rw [← addPayloadData_of_le hopen hout (raised next).buffer maxPayloadSize]
    simp only [ReconstructedPacket.feed, hraw, Bool.false_eq_true, if_false, prepareDecode_raw p hraw]
    rfl
  rw [hfed]
  refine ⟨hsize, ⟨hdone.trans h.isOpen.1, hclean⟩, haccum, ?_⟩
  rw [← raised_subseq]
  simp only [q, advance]
  split <;> rfl

/-- As many steps up as there are, each as large as the sequence numbers allow. -/
def climb (k : Nat) : List Datagram := (List.range k).map fun i => raised (8191 * (i + 1))

/-- The slot after `k` steps up. -/
def climbed (k : Nat) : Tracked :=
  (climb k).foldl Tracked.feed { slot := ({} : ReconstructedPacket).reset }

lemma climbed_succ (k : Nat) : climbed (k + 1) = (climbed k).feed (raised (8191 * (k + 1))) := by
  simp only [climbed, climb, List.range_succ, List.map_append, List.foldl_append]
  rfl

lemma climb_isFec {k : Nat} : ∀ d ∈ climb k, isFec d.header = false := by
  intro d hd
  obtain ⟨i, -, rfl⟩ := List.mem_map.1 hd
  exact (raised_flags _).1

lemma climbing_climbed {k : Nat} (hk : k ≤ 512) {header : PayloadHeader}
    (hsize : header.payloadSize = 1024) : Climbing (8191 * k) ((climbed k).slot.started header) := by
  induction k generalizing header with
  | zero =>
    refine ⟨?_, ⟨rfl, rfl⟩, rfl, rfl⟩
    change roundedSize header = 1024
    rw [roundedSize, hsize]
    rfl
  | succ k ih =>
    have hlast : Climbing (8191 * k) ((climbed k).slot.started (raised (8191 * (k + 1))).header) :=
      ih (by omega) rfl
    have hfed := hlast.feed (by omega) (by omega) (by omega)
    have hopen : ((climbed k).slot.feed (raised (8191 * (k + 1)))).2.bufferSize ≠ 0 := by
      rw [hfed.size]
      norm_num
    rw [climbed_succ, Tracked.feed, ReconstructedPacket.started, if_neg hopen]
    exact hfed

lemma climb_unsafe {k : Nat} (hlow : 8191 * k < 2 ^ 22) (hhigh : 2 ^ 22 ≤ 8191 * k + 8191)
    (hk : k ≤ 512) :
    (∀ d ∈ climb k ++ [raised (2 ^ 22)], isFec d.header = false) ∧
    ¬Runs.Along Tracked.feed Tracked.Safe { slot := ({} : ReconstructedPacket).reset }
      (climb k ++ [raised (2 ^ 22)]) := by
  obtain ⟨hraw, hbegin⟩ := raised_flags (2 ^ 22)
  constructor
  · intro d hd
    rcases List.mem_append.1 hd with hd | hd
    · exact climb_isFec d hd
    · rw [List.mem_singleton.1 hd]
      exact hraw
  · intro hsafe
    have hregular : (climbed k).Regular :=
      (Runs.Along.of_forall climb_isFec).invariant (regular_new {}) fun t d h hd => h.feed hd
    have hclimbing : Climbing (8191 * k) ((climbed k).slot.started (raised (2 ^ 22)).header) :=
      climbing_climbed hk rfl
    have hopen : (climbed k).slot.bufferSize ≠ 0 := by
      intro hempty
      have hplace := hclimbing.accum
      rw [started, if_pos hempty] at hplace
      simp only [beginPacket] at hplace
      omega
    rw [started, if_neg hopen] at hclimbing
    have hnext := hclimbing.nextAccum hlow hhigh
    refine hregular.not_safe hraw ?_ hsafe.right.1
    refine ⟨hopen, hclimbing.isOpen.1, hclimbing.isOpen.2, hbegin, ?_⟩
    rw [hnext, hclimbing.size]
    norm_num [maxPayloadSize]

/-- Five hundred and twelve steps up and one around: the last datagram overwrites the first block,
under an index that the decoder does not have. -/
theorem climb_goes_around :
    (∀ d ∈ climb 512 ++ [raised (2 ^ 22)], isFec d.header = false) ∧
    ¬Runs.Along Tracked.feed Tracked.Safe { slot := ({} : ReconstructedPacket).reset }
      (climb 512 ++ [raised (2 ^ 22)]) :=
  climb_unsafe (by norm_num) (by norm_num) le_rfl

end ReconstructedPacket

end PyroFling
