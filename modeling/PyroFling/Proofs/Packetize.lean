import PyroFling.Client
import PyroFling.Server
import PyroFling.Proofs.Codec

/-!
# What a packet looks like on the wire

The datagrams of `write_packet` one by one: their headers differ in the FEC flag, the BEGIN flag
and the subpacket sequence number only.
-/

namespace PyroFling
open ByteMemory

namespace PyroStreamConnection

/-! ### Header bits -/

lemma subseq_setSubseq (encoded : BitVec 32) {subseq : BitVec 32} (h : subseq &&& payloadSeqMask = subseq) :
    payloadGetSubpacketSeq (setSubseq encoded subseq) = subseq := by
  rw [← h]
  ext i hi
  simp only [payloadGetSubpacketSeq, setSubseq, payloadSeqMask, payloadSubpacketSeqOffset]
  interval_cases i <;> simp

lemma setSubseq_and {flag : BitVec 32} (encoded subseq : BitVec 32) (h : flag <<< 14 >>> 14 = flag) :
    setSubseq encoded subseq &&& flag = encoded &&& flag := by
  rw [← h]
  ext i hi
  simp only [setSubseq, payloadSeqMask, payloadSubpacketSeqOffset]
  interval_cases i <;> simp

open ReconstructedPacket in
lemma isFec_setSubseq (header : PayloadHeader) (encoded subseq : BitVec 32) :
    isFec { header with encoded := setSubseq encoded subseq } =
      isFec { header with encoded := encoded } := by
  simp only [isFec]
  rw [setSubseq_and encoded subseq (by decide)]

open ReconstructedPacket in
lemma isBegin_setSubseq (header : PayloadHeader) (encoded subseq : BitVec 32) :
    isBegin { header with encoded := setSubseq encoded subseq } =
      isBegin { header with encoded := encoded } := by
  simp only [isBegin]
  rw [setSubseq_and encoded subseq (by decide)]

/-- The flags of data block `i`, before its sequence number is put in. -/
def dataFlags (encoded : BitVec 32) (i : Nat) : BitVec 32 :=
  if i = 0 then encoded &&& ~~~payloadPacketBeginBit ||| payloadPacketBeginBit
  else encoded &&& ~~~payloadPacketBeginBit

lemma dataFlags_begin (encoded : BitVec 32) (i : Nat) :
    dataFlags encoded i &&& payloadPacketBeginBit = if i = 0 then payloadPacketBeginBit else 0 := by
  unfold dataFlags
  split
  · ext j hj
    simp only [payloadPacketBeginBit]
    interval_cases j <;> simp
  · ext j hj
    simp only [payloadPacketBeginBit]
    interval_cases j <;> simp

lemma dataFlags_fec (encoded : BitVec 32) (i : Nat) :
    dataFlags encoded i &&& payloadPacketFecBit = encoded &&& payloadPacketFecBit := by
  unfold dataFlags
  split
  · ext j hj
    simp only [payloadPacketBeginBit, payloadPacketFecBit]
    interval_cases j <;> simp
  · ext j hj
    simp only [payloadPacketBeginBit, payloadPacketFecBit]
    interval_cases j <;> simp

/-! ### Data blocks -/

/-- Datagram `d` carries data block `i` of a packet with the given header. -/
structure IsDataBlock (header : PayloadHeader) (data : Bytes) (size i : Nat) (d : Datagram) : Prop where
  header : d.header = { header with encoded := d.header.encoded }
  plain : ReconstructedPacket.isFec d.header = false
  begins : ReconstructedPacket.isBegin d.header = decide (i = 0)
  subseq : (payloadGetSubpacketSeq d.header.encoded).toNat = i % 2 ^ 14
  size : d.size = payloadHeaderSize + min maxPayloadSize ((size - i * maxPayloadSize) % 2 ^ 32)
  buffer : d.buffer = data.drop (i * maxPayloadSize)

lemma and_payloadSeqMask_self (v : BitVec 32) :
    (v &&& payloadSeqMask) &&& payloadSeqMask = v &&& payloadSeqMask := by
  rw [BitVec.and_assoc, BitVec.and_self]

lemma writeData_spec (data : Bytes) (size : Nat) (k : Nat) :
    ∀ (i : Nat) (header : PayloadHeader) (subseq : BitVec 32),
      subseq &&& payloadSeqMask = subseq → subseq.toNat = i % 2 ^ 14 →
      ReconstructedPacket.isFec header = false →
      (writeData data size k i header subseq).1.length = k ∧
      (∀ j (hj : j < (writeData data size k i header subseq).1.length),
        IsDataBlock header data size (i + j) (writeData data size k i header subseq).1[j]) ∧
      ∃ encoded, (writeData data size k i header subseq).2 = { header with encoded := encoded } ∧
        ReconstructedPacket.isFec { header with encoded := encoded } = false := by
  induction k with
  | zero =>
    intro i header subseq _ _ hplain
    exact ⟨rfl, fun j hj => absurd hj (Nat.not_lt_zero j), header.encoded, rfl, hplain⟩
  | succ k ih =>
    intro i header subseq hmask hseq hplain
    let next : PayloadHeader := { header with encoded := setSubseq (dataFlags header.encoded i) subseq }
    have hnext : ReconstructedPacket.isFec next = false := by
      rw [isFec_setSubseq]
      simp only [ReconstructedPacket.isFec, dataFlags_fec]
      exact hplain
    have hseq' : ((subseq + 1) &&& payloadSeqMask).toNat = (i + 1) % 2 ^ 14 := by
      rw [toNat_and_payloadSeqMask, BitVec.toNat_add, hseq]
      simp
    obtain ⟨hlength, hblocks, encoded, hlast, hlastPlain⟩ := ih (i + 1) next
      ((subseq + 1) &&& payloadSeqMask) (and_payloadSeqMask_self _) hseq' hnext
    refine ⟨congrArg (· + 1) hlength, ?_, encoded, hlast, hlastPlain⟩
    intro j hj
    cases j with
    | zero =>
      refine ⟨rfl, hnext, ?_, ?_, rfl, rfl⟩
      · change ReconstructedPacket.isBegin next = _
        rw [isBegin_setSubseq]
        simp only [ReconstructedPacket.isBegin, dataFlags_begin]
        by_cases hi : i = 0 <;> simp [hi, payloadPacketBeginBit]
      · change (payloadGetSubpacketSeq next.encoded).toNat = i % 2 ^ 14
        rw [subseq_setSubseq _ hmask, hseq]
    | succ j =>
      have hblock := hblocks j (Nat.lt_of_succ_lt_succ hj)
      rw [show i + 1 + j = i + (j + 1) by omega] at hblock
      exact ⟨hblock.header, hblock.plain, hblock.begins, hblock.subseq, hblock.size, hblock.buffer⟩

/-! ### FEC blocks -/

/-- Datagram `d` carries FEC block `f`. -/
structure IsFecBlock (header : PayloadHeader) (block : Bytes) (f : Nat) (d : Datagram) : Prop where
  header : d.header = { header with encoded := d.header.encoded }
  flagged : ReconstructedPacket.isFec d.header = true
  subseq : (payloadGetSubpacketSeq d.header.encoded).toNat = f % 2 ^ 14
  size : d.size = payloadHeaderSize + maxPayloadSize
  buffer : d.buffer = block

lemma setSubseq_trunc (encoded subseq : BitVec 32) :
    setSubseq encoded subseq = setSubseq encoded (subseq &&& payloadSeqMask) := by
  ext i hi
  simp only [setSubseq, payloadSeqMask, payloadSubpacketSeqOffset]
  interval_cases i <;> simp

lemma writeFec_spec (blocks : List Bytes) : ∀ (i : Nat) (header : PayloadHeader),
    ReconstructedPacket.isFec header = true →
    (writeFec blocks i header).length = blocks.length ∧
      ∀ j (hj : j < (writeFec blocks i header).length),
        IsFecBlock header (blocks.getD j (fun _ => 0)) (i + j) (writeFec blocks i header)[j] := by
  induction blocks with
  | nil => exact fun _ _ _ => ⟨rfl, fun j hj => absurd hj (Nat.not_lt_zero j)⟩
  | cons block blocks ih =>
    intro i header hfec
    let next : PayloadHeader :=
      { header with encoded := setSubseq header.encoded (BitVec.ofNat 32 i) }
    have hnext : ReconstructedPacket.isFec next = true := by
      rw [isFec_setSubseq]
      exact hfec
    obtain ⟨hlength, hblocks⟩ := ih (i + 1) next hnext
    refine ⟨congrArg (· + 1) hlength, ?_⟩
    intro j hj
    cases j with
    | zero =>
      refine ⟨rfl, hnext, ?_, rfl, rfl⟩
      change (payloadGetSubpacketSeq (setSubseq header.encoded (BitVec.ofNat 32 i))).toNat = i % 2 ^ 14
      rw [setSubseq_trunc, subseq_setSubseq _ (and_payloadSeqMask_self _), toNat_and_payloadSeqMask,
        BitVec.toNat_ofNat]
      omega
    | succ j =>
      have hblock := hblocks j (Nat.lt_of_succ_lt_succ hj)
      rw [show i + 1 + j = i + (j + 1) by omega] at hblock
      exact ⟨hblock.header, hblock.flagged, hblock.subseq, hblock.size, hblock.buffer⟩

/-! ### The packet -/

lemma packetHeader_plain (seq : BitVec 32) (fec : Bool) (pts dts : BitVec 64) (size : Nat)
    (isAudio isKeyFrame : Bool) :
    ReconstructedPacket.isFec (packetHeader seq fec pts dts size isAudio isKeyFrame) = false := by
  have hbits : ((if isAudio then payloadStreamTypeBit else 0) |||
      (if isKeyFrame then payloadKeyFrameBit else 0) ||| seq <<< payloadPacketSeqOffset) &&&
        payloadPacketFecBit = 0 := by
    ext i hi
    cases isAudio <;> cases isKeyFrame <;>
      simp only [payloadStreamTypeBit, payloadKeyFrameBit, payloadPacketSeqOffset,
        payloadPacketFecBit] <;>
      interval_cases i <;> simp
  unfold packetHeader ReconstructedPacket.isFec
  simp only
  split
  · exact decide_eq_false (not_not.mpr hbits)
  · exact decide_eq_false (not_not.mpr hbits)

end PyroStreamConnection

/-- The arguments of a call of `write_packet`, with the part of the connection's state it reads. -/
structure WrittenPacket where
  encoder : Encoder
  seq : BitVec 32
  fec : Bool
  pts : BitVec 64
  dts : BitVec 64
  data : Bytes
  size : Nat
  isAudio : Bool
  isKeyFrame : Bool
  xorData : Bytes

namespace WrittenPacket

open PyroStreamConnection

variable (w : WrittenPacket)

def dataDatagrams : List Datagram :=
  (packetDatagrams w.encoder w.seq w.fec w.pts w.dts w.data w.size w.isAudio w.isKeyFrame w.xorData).1

def fecDatagrams : List Datagram :=
  (packetDatagrams w.encoder w.seq w.fec w.pts w.dts w.data w.size w.isAudio w.isKeyFrame w.xorData).2.1

def datagrams : List Datagram := w.dataDatagrams ++ w.fecDatagrams

/-- The datagrams that are sent. -/
def emitted : List Datagram := writeUdpDatagrams w.dataDatagrams ++ w.fecDatagrams

def header : PayloadHeader := packetHeader w.seq w.fec w.pts w.dts w.size w.isAudio w.isKeyFrame

/-- The number of data blocks. -/
def blocks : Nat := blockCount w.size maxPayloadSize

def usesFec : Bool := !w.isAudio && w.fec

def layout : FecLayout := if w.usesFec then fecLayout (numDataBlocks w.size) else ⟨0, 0, 0⟩

def fecData : List Bytes := ((w.encoder.setBlockSize maxPayloadSize).encode w.header.ptsLo.toNat
  w.xorData w.data w.size w.layout.numFecBlocks w.layout.numXorBlocksEven w.layout.numXorBlocksOdd).1

/-- The header of the FEC blocks, from that of the last data block. -/
def fecHeader (last : PayloadHeader) : PayloadHeader :=
  { last with encoded := last.encoded &&& ~~~payloadPacketBeginBit ||| payloadPacketFecBit }

lemma fecData_of_not_usesFec (hfec : ¬w.usesFec = true) : w.fecData = [] := by
  have hlayout : w.layout = ⟨0, 0, 0⟩ := if_neg hfec
  simp only [fecData, hlayout]
  rfl

lemma dataDatagrams_eq : w.dataDatagrams = (writeData w.data w.size w.blocks 0 w.header 0).1 := by
  rw [dataDatagrams, packetDatagrams]
  dsimp only
  split <;> rfl

lemma length_dataDatagrams : w.dataDatagrams.length = w.blocks := by
  rw [dataDatagrams_eq]
  exact (writeData_spec w.data w.size w.blocks 0 w.header 0 (by decide) rfl (packetHeader_plain ..)).1

lemma fecDatagrams_eq : w.fecDatagrams =
    writeFec w.fecData 0 (fecHeader (writeData w.data w.size w.blocks 0 w.header 0).2) := by
  obtain ⟨-, -, encoded, hlast, -⟩ := writeData_spec w.data w.size w.blocks 0 w.header 0
    (by decide) rfl (packetHeader_plain ..)
  by_cases hfec : w.usesFec = true
  · have hlayout : w.layout = fecLayout (numDataBlocks w.size) := if_pos hfec
    have hlast' := hlast
    unfold blocks blockCount header at hlast'
    rw [hlast]
    simp only [fecDatagrams, packetDatagrams, fecData, hlayout]
    rw [if_pos (show (!w.isAudio && w.fec) = true from hfec), hlast']
    rfl
  · rw [w.fecData_of_not_usesFec hfec, writeFec]
    simp only [fecDatagrams, packetDatagrams]
    rw [if_neg (show ¬(!w.isAudio && w.fec) = true from hfec)]

/-- The data blocks come first, then the FEC blocks. -/
lemma datagrams_eq : w.datagrams = (writeData w.data w.size w.blocks 0 w.header 0).1 ++
    writeFec w.fecData 0 (fecHeader (writeData w.data w.size w.blocks 0 w.header 0).2) := by
  rw [datagrams, dataDatagrams_eq, fecDatagrams_eq]

lemma datagrams_spec : w.datagrams.length = w.blocks + w.fecData.length ∧
    ∀ k (hk : k < w.datagrams.length),
      (k < w.blocks → IsDataBlock w.header w.data w.size k w.datagrams[k]) ∧
      (w.blocks ≤ k → IsFecBlock w.header (w.fecData.getD (k - w.blocks) (fun _ => 0)) (k - w.blocks)
        w.datagrams[k]) := by
  obtain ⟨hlength, hdata, encoded, hlast, -⟩ := writeData_spec w.data w.size w.blocks 0 w.header 0
    (by decide) rfl (packetHeader_plain ..)
  let last : PayloadHeader := { w.header with
    encoded := encoded &&& ~~~payloadPacketBeginBit ||| payloadPacketFecBit }
  have hflag : ReconstructedPacket.isFec last = true := by
    have hbit : (encoded &&& ~~~payloadPacketBeginBit ||| payloadPacketFecBit) &&&
        payloadPacketFecBit = payloadPacketFecBit := by
      ext i hi
      simp only [payloadPacketBeginBit, payloadPacketFecBit]
      interval_cases i <;> simp
    simp only [ReconstructedPacket.isFec, last, hbit]
    decide
  have hsent : w.datagrams = (writeData w.data w.size w.blocks 0 w.header 0).1 ++ writeFec w.fecData 0 last := by
    rw [datagrams_eq, hlast]
    rfl
  obtain ⟨hfecLength, hfecBlocks⟩ := writeFec_spec w.fecData 0 last hflag
  rw [hsent]
  refine ⟨by rw [List.length_append, hlength, hfecLength], fun k hk => ⟨fun hlt => ?_, fun hge => ?_⟩⟩
  · have hk' : k < (writeData w.data w.size w.blocks 0 w.header 0).1.length := by rwa [hlength]
    rw [List.getElem_append_left hk']
    simpa using hdata k hk'
  · rw [List.getElem_append_right (by rwa [hlength])]
    have hblock := hfecBlocks (k - w.blocks) (by
      rw [List.length_append, hlength] at hk
      omega)
    simp only [hlength]
    rw [Nat.zero_add] at hblock
    exact ⟨hblock.header, hblock.flagged, hblock.subseq, hblock.size, hblock.buffer⟩

/-! ### What is sent -/

/-- So many data blocks are sent. -/
def sentBlocks : Nat := min sendmmsgMaximum (w.blocks % 2 ^ 32)

lemma sentBlocks_le : w.sentBlocks ≤ w.blocks := (Nat.min_le_right _ _).trans (Nat.mod_le _ _)

lemma sentBlocks_le_maximum : w.sentBlocks ≤ sendmmsgMaximum := Nat.min_le_left _ _

lemma sentBlocks_eq (h : w.blocks ≤ sendmmsgMaximum) : w.sentBlocks = w.blocks := by
  have hlt : w.blocks % 2 ^ 32 = w.blocks := Nat.mod_eq_of_lt (h.trans_lt (by decide))
  rw [sentBlocks, hlt, Nat.min_eq_right h]

lemma emitted_eq : w.emitted = w.datagrams.take w.sentBlocks ++ w.fecDatagrams := by
  have htake : w.datagrams.take w.sentBlocks = w.dataDatagrams.take w.sentBlocks :=
    List.take_append_of_le_length (w.length_dataDatagrams.symm ▸ w.sentBlocks_le)
  rw [emitted, writeUdpDatagrams, htake, List.take_take, length_dataDatagrams, sentBlocks]

lemma length_take_sentBlocks : (w.datagrams.take w.sentBlocks).length = w.sentBlocks := by
  rw [List.length_take, Nat.min_eq_left]
  rw [datagrams, List.length_append, length_dataDatagrams]
  exact w.sentBlocks_le.trans (Nat.le_add_right _ _)

lemma emitted_data {k : Nat} (hk : k < w.sentBlocks) : w.emitted[k]? = w.datagrams[k]? := by
  rw [emitted_eq, List.getElem?_append_left (by rwa [length_take_sentBlocks]), List.getElem?_take, if_pos hk]

lemma emitted_fec (f : Nat) : w.emitted[w.sentBlocks + f]? = w.datagrams[w.blocks + f]? := by
  have hsent := w.length_take_sentBlocks
  have hdata := w.length_dataDatagrams
  have hfec : w.datagrams[w.blocks + f]? = w.fecDatagrams[f]? := by
    rw [datagrams, List.getElem?_append_right (by omega), hdata, Nat.add_sub_cancel_left]
  rw [hfec, emitted_eq, List.getElem?_append_right (by omega), hsent, Nat.add_sub_cancel_left]

lemma emitted_eq_datagrams (h : w.blocks ≤ sendmmsgMaximum) : w.emitted = w.datagrams := by
  rw [emitted_eq, w.sentBlocks_eq h, datagrams, ← length_dataDatagrams, List.take_left]

/-- Datagram `k` is one that is sent. -/
def Emits (k : Nat) : Prop := k < w.sentBlocks ∨ w.blocks ≤ k

instance (k : Nat) : Decidable (w.Emits k) := inferInstanceAs (Decidable (_ ∨ _))

lemma mem_emitted {d : Datagram} :
    d ∈ w.emitted ↔ ∃ (k : Nat) (hk : k < w.datagrams.length), w.Emits k ∧ w.datagrams[k] = d := by
  rw [List.mem_iff_getElem?]
  constructor
  · rintro ⟨k, hk⟩
    rcases Nat.lt_or_ge k w.sentBlocks with hlt | hge
    · rw [emitted_data w hlt] at hk
      obtain ⟨hk, hd⟩ := List.getElem?_eq_some_iff.1 hk
      exact ⟨k, hk, .inl hlt, hd⟩
    · rw [← Nat.add_sub_cancel' hge, emitted_fec] at hk
      obtain ⟨hk, hd⟩ := List.getElem?_eq_some_iff.1 hk
      exact ⟨_, hk, .inr (Nat.le_add_right _ _), hd⟩
  · rintro ⟨k, hk, hlt | hge, hd⟩
    · refine ⟨k, ?_⟩
      rw [emitted_data w hlt]
      exact List.getElem?_eq_some_iff.2 ⟨hk, hd⟩
    · refine ⟨w.sentBlocks + (k - w.blocks), ?_⟩
      rw [emitted_fec, Nat.add_sub_cancel' hge]
      exact List.getElem?_eq_some_iff.2 ⟨hk, hd⟩

lemma emitted_subset : w.emitted ⊆ w.datagrams := by
  intro d hd
  obtain ⟨k, hk, -, rfl⟩ := w.mem_emitted.1 hd
  exact List.getElem_mem hk

lemma emitted_of_writePacket (c : PyroStreamConnection) (pts dts : BitVec 64) (data : Bytes) (size : Nat)
    (isAudio isKeyFrame : Bool) (xorData : Bytes)
    (hne : (c.writePacket pts dts data size isAudio isKeyFrame xorData).1 ≠ []) :
    (c.writePacket pts dts data size isAudio isKeyFrame xorData).1 =
      emitted { encoder := c.encoder, seq := if isAudio then c.packetSeqAudio else c.packetSeqVideo
                fec := c.fec, pts, dts, data, size, isAudio, isKeyFrame, xorData } := by
  unfold writePacket at hne ⊢
  split at hne
  · exact absurd rfl hne
  · rename_i hready
    rw [if_neg hready]
    split at hne
    · exact absurd rfl hne
    · rename_i haudio
      rw [if_neg haudio]
      split at hne
      · exact absurd rfl hne
      · rename_i hvideo
        rw [if_neg hvideo]
        rfl

end WrittenPacket

end PyroFling
