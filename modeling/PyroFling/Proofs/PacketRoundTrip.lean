import PyroFling.Proofs.DuplicateDatagrams

/-!
# From a packet to datagrams and back

What the client reads in the headers of a packet's datagrams is what the server has put there, and
the data blocks in order make the packet again as long as all of them are sent: one call of `sendmmsg` sends
1024 at most. The widths of the header's fields are enough for every packet that the client has room for,
with one exception: the sequence number of an FEC block has 14 bits, and a packet of 65536 blocks has more
FEC blocks than that.
-/

namespace PyroFling
open ByteMemory

namespace PyroStreamConnection

/-! ### Bits that all datagrams of a packet share -/

/-- The key frame flag, the stream type and the packet sequence number. -/
def sharedBits : BitVec 32 :=
  payloadKeyFrameBit ||| payloadStreamTypeBit ||| payloadSeqMask <<< payloadPacketSeqOffset

lemma dataFlags_and {flag : BitVec 32} (encoded : BitVec 32) (i : Nat)
    (h : flag &&& payloadPacketBeginBit = 0#32) : dataFlags encoded i &&& flag = encoded &&& flag := by
  have hclear : encoded &&& ~~~payloadPacketBeginBit &&& flag = encoded &&& flag := by
    have hflag : ~~~payloadPacketBeginBit &&& flag = flag := by
      rw [BitVec.and_comm] at h
      have hones : ~~~payloadPacketBeginBit ||| payloadPacketBeginBit = BitVec.allOnes 32 := by decide
      calc ~~~payloadPacketBeginBit &&& flag
          = ~~~payloadPacketBeginBit &&& flag ||| payloadPacketBeginBit &&& flag := by
            rw [h, BitVec.or_zero]
        _ = (~~~payloadPacketBeginBit ||| payloadPacketBeginBit) &&& flag := by
          rw [BitVec.and_or_distrib_right]
        _ = flag := by rw [hones, BitVec.allOnes_and]
    rw [BitVec.and_assoc, hflag]
  unfold dataFlags
  split
  · rw [BitVec.and_or_distrib_right, hclear, BitVec.and_comm payloadPacketBeginBit flag, h,
      BitVec.or_zero]
  · exact hclear

lemma writeData_flags {flag : BitVec 32} (hbegin : flag &&& payloadPacketBeginBit = 0#32)
    (hlow : flag <<< 14 >>> 14 = flag) (data : Bytes) (size : Nat) (k : Nat) :
    ∀ (i : Nat) (header : PayloadHeader) (subseq : BitVec 32),
      (∀ d ∈ (writeData data size k i header subseq).1,
        d.header.encoded &&& flag = header.encoded &&& flag) ∧
      (writeData data size k i header subseq).2.encoded &&& flag = header.encoded &&& flag := by
  induction k with
  | zero => exact fun i header subseq => ⟨fun d hd => absurd hd List.not_mem_nil, rfl⟩
  | succ k ih =>
    intro i header subseq
    let next : PayloadHeader := { header with encoded := setSubseq (dataFlags header.encoded i) subseq }
    have hnext : next.encoded &&& flag = header.encoded &&& flag := by
      change setSubseq (dataFlags header.encoded i) subseq &&& flag = _
      rw [setSubseq_and _ _ hlow, dataFlags_and _ _ hbegin]
    obtain ⟨hblocks, hlast⟩ := ih (i + 1) next ((subseq + 1) &&& payloadSeqMask)
    refine ⟨fun d hd => ?_, hlast.trans hnext⟩
    rcases List.mem_cons.1 hd with rfl | hd
    · exact hnext
    · exact (hblocks d hd).trans hnext

lemma writeFec_flags {flag : BitVec 32} (hlow : flag <<< 14 >>> 14 = flag) (blocks : List Bytes) :
    ∀ (i : Nat) (header : PayloadHeader), ∀ d ∈ writeFec blocks i header,
      d.header.encoded &&& flag = header.encoded &&& flag := by
  induction blocks with
  | nil => exact fun i header d hd => absurd hd List.not_mem_nil
  | cons block blocks ih =>
    intro i header d hd
    have hnext := setSubseq_and header.encoded (BitVec.ofNat 32 i) hlow
    rcases List.mem_cons.1 hd with rfl | hd
    · exact hnext
    · exact (ih (i + 1) _ d hd).trans hnext

end PyroStreamConnection

namespace WrittenPacket

open PyroStreamConnection

variable (w : WrittenPacket)

lemma datagrams_sharedBits : ∀ d ∈ w.datagrams,
    d.header.encoded &&& sharedBits = w.header.encoded &&& sharedBits := by
  have hbegin : sharedBits &&& payloadPacketBeginBit = 0#32 := by decide
  obtain ⟨hdata, hlast⟩ := writeData_flags hbegin (by decide) w.data w.size w.blocks 0 w.header 0
  have hfec : (fecHeader (writeData w.data w.size w.blocks 0 w.header 0).2).encoded &&& sharedBits =
      w.header.encoded &&& sharedBits := by
    rw [← hlast]
    ext i hi
    simp only [fecHeader, payloadPacketBeginBit, payloadPacketFecBit, sharedBits, payloadKeyFrameBit,
      payloadStreamTypeBit, payloadSeqMask, payloadPacketSeqOffset]
    interval_cases i <;> simp
  intro d hd
  rw [datagrams_eq] at hd
  rcases List.mem_append.1 hd with hd | hd
  · exact hdata d hd
  · exact (writeFec_flags (by decide) w.fecData 0 _ d hd).trans hfec

lemma datagrams_begins (k : Nat) (hk : k < w.datagrams.length) (hpos : 0 < w.blocks) :
    ReconstructedPacket.isBegin w.datagrams[k].header = decide (k = 0) := by
  rcases Nat.lt_or_ge k w.blocks with hlt | hge
  · exact ((w.datagrams_spec.2 k hk).1 hlt).begins
  · have hlength := (writeData_spec w.data w.size w.blocks 0 w.header 0 (by decide) rfl
      (packetHeader_plain ..)).1
    have hmem : w.datagrams[k] ∈ writeFec w.fecData 0
        (fecHeader (writeData w.data w.size w.blocks 0 w.header 0).2) := by
      simp only [datagrams_eq] at hk ⊢
      rw [List.getElem_append_right (by rwa [hlength])]
      exact List.getElem_mem _
    have hlow : payloadPacketBeginBit <<< 14 >>> 14 = payloadPacketBeginBit := by decide
    have hbit := writeFec_flags hlow w.fecData 0 _ _ hmem
    have hclear : (fecHeader (writeData w.data w.size w.blocks 0 w.header 0).2).encoded &&&
        payloadPacketBeginBit = 0 := by
      ext i hi
      simp only [fecHeader, payloadPacketBeginBit, payloadPacketFecBit]
      interval_cases i <;> simp
    rw [ReconstructedPacket.isBegin, hbit, hclear]
    have hne : k ≠ 0 := by omega
    simp [hne]

/-! ### What the client reads -/

/-- The fields of the header of a datagram are those of the packet. -/
structure Describes (d : Datagram) : Prop where
  packetSeq : payloadGetPacketSeq d.header.encoded = w.seq
  pts : d.header.ptsHi ++ d.header.ptsLo = w.pts
  dts : d.header.ptsHi ++ d.header.ptsLo - d.header.dtsDelta.setWidth 64 = w.dts
  size : d.header.payloadSize.toNat = w.size
  keyFrame : decide (d.header.encoded &&& payloadKeyFrameBit ≠ 0) = w.isKeyFrame
  audio : PyroStreamClient.isAudio d.header = w.isAudio
  fecBlocks : d.header.numFecBlocks.toNat = w.layout.numFecBlocks
  even : d.header.numXorBlocksEven.toNat = w.layout.numXorBlocksEven
  odd : d.header.numXorBlocksOdd.toNat = w.layout.numXorBlocksOdd

variable {w}

/-- What the shared bits say. -/
lemma shared_packetSeq (encoded : BitVec 32) :
    payloadGetPacketSeq encoded = payloadGetPacketSeq (encoded &&& sharedBits) := by
  ext i hi
  simp only [payloadGetPacketSeq, sharedBits, payloadKeyFrameBit, payloadStreamTypeBit, payloadSeqMask,
    payloadPacketSeqOffset]
  interval_cases i <;> simp

lemma shared_and {flag : BitVec 32} (h : sharedBits &&& flag = flag) (encoded : BitVec 32) :
    encoded &&& flag = encoded &&& sharedBits &&& flag := by
  rw [BitVec.and_assoc, h]

lemma header_encoded : w.header.encoded = (if w.isAudio then payloadStreamTypeBit else 0) |||
    (if w.isKeyFrame then payloadKeyFrameBit else 0) ||| w.seq <<< payloadPacketSeqOffset := by
  unfold header packetHeader
  dsimp only
  split <;> rfl

lemma header_packetSeq (hseq : w.seq &&& payloadSeqMask = w.seq) :
    payloadGetPacketSeq w.header.encoded = w.seq := by
  rw [header_encoded]
  nth_rewrite 2 [← hseq]
  ext i hi
  cases w.isAudio <;> cases w.isKeyFrame <;>
    simp only [payloadGetPacketSeq, payloadStreamTypeBit, payloadKeyFrameBit, payloadSeqMask,
      payloadPacketSeqOffset] <;>
    interval_cases i <;> simp

lemma header_keyFrame : w.header.encoded &&& payloadKeyFrameBit =
    if w.isKeyFrame then payloadKeyFrameBit else 0 := by
  rw [header_encoded]
  ext i hi
  cases w.isAudio <;> cases w.isKeyFrame <;>
    simp only [payloadStreamTypeBit, payloadKeyFrameBit, payloadPacketSeqOffset] <;>
    interval_cases i <;> simp

lemma header_audio : w.header.encoded &&& payloadStreamTypeBit =
    if w.isAudio then payloadStreamTypeBit else 0 := by
  rw [header_encoded]
  ext i hi
  cases w.isAudio <;> cases w.isKeyFrame <;>
    simp only [payloadStreamTypeBit, payloadKeyFrameBit, payloadPacketSeqOffset] <;>
    interval_cases i <;> simp

lemma header_times : w.header.ptsHi ++ w.header.ptsLo = w.pts ∧
    w.header.dtsDelta = (w.pts - w.dts).setWidth 32 := by
  have hfields : w.header.ptsHi = (w.pts >>> 32).setWidth 32 ∧ w.header.ptsLo = w.pts.setWidth 32 ∧
      w.header.dtsDelta = (w.pts - w.dts).setWidth 32 := by
    unfold header packetHeader
    dsimp only
    split <;> exact ⟨rfl, rfl, rfl⟩
  refine ⟨?_, hfields.2.2⟩
  rw [hfields.1, hfields.2.1]
  ext i hi
  simp only [BitVec.getElem_append, BitVec.getElem_setWidth, BitVec.getLsbD_ushiftRight]
  split
  · rw [BitVec.getLsbD_eq_getElem hi]
  · rw [show 32 + (i - 32) = i by omega, BitVec.getLsbD_eq_getElem hi]

/-- The difference of the time stamps survives if it is one of 32 bits. -/
lemma dts_recovered {pts dts : BitVec 64} (hle : dts.toInt ≤ pts.toInt)
    (hlt : pts.toInt - dts.toInt < 2 ^ 32) :
    pts - ((pts - dts).setWidth 32).setWidth 64 = dts := by
  have hdelta : (pts - dts).toNat < 2 ^ 32 := by
    have hp := BitVec.toInt_eq_toNat_cond pts
    have hd := BitVec.toInt_eq_toNat_cond dts
    have hpos := pts.isLt
    have hdos := dts.isLt
    rw [BitVec.toNat_sub]
    split at hp <;> split at hd <;> omega
  have hwidth : ((pts - dts).setWidth 32).setWidth 64 = pts - dts := by
    apply BitVec.eq_of_toNat_eq
    rw [BitVec.toNat_setWidth, BitVec.toNat_setWidth]
    omega
  rw [hwidth]
  bv_omega

/-- The client has room for the packet. -/
def HasRoom (w : WrittenPacket) : Prop := 0 < w.size ∧ w.size ≤ 2 ^ 27

lemma HasRoom.blocks_le (h : w.HasRoom) : 0 < w.blocks ∧ w.blocks ≤ 131072 := by
  obtain ⟨hpos, hle⟩ := h
  unfold blocks blockCount
  rw [show maxPayloadSize = 1024 from rfl]
  omega

lemma HasRoom.numDataBlocks_eq (h : w.HasRoom) : numDataBlocks w.size = w.blocks :=
  Nat.mod_eq_of_lt (lt_of_le_of_lt h.blocks_le.2 (by norm_num))

lemma HasRoom.fits (h : w.HasRoom) (hfec : w.usesFec = true → w.blocks < 2 ^ 16) : w.Fits :=
  ⟨le_of_le_of_eq h.2 (by decide), hfec⟩

/-- The numbers of the layout fit their fields even where the sequence numbers do not. -/
lemma HasRoom.header_spec (h : w.HasRoom) : w.header.payloadSize.toNat = w.size ∧
    w.header.numFecBlocks.toNat = w.layout.numFecBlocks ∧
    w.header.numXorBlocksEven.toNat = w.layout.numXorBlocksEven ∧
    w.header.numXorBlocksOdd.toNat = w.layout.numXorBlocksOdd := by
  obtain ⟨-, hblocks⟩ := h.blocks_le
  have hsize := h.2
  by_cases hfits : w.usesFec = true → w.blocks < 2 ^ 16
  · exact (h.fits hfits).header_spec
  · obtain ⟨hfec, hmany⟩ := Classical.not_imp.1 hfits
    have hlayout : w.layout = fecLayout w.blocks := by rw [layout, if_pos hfec, h.numDataBlocks_eq]
    have hlarge : ¬w.blocks ≤ 8 := by omega
    unfold header packetHeader
    dsimp only
    rw [if_pos (show (!w.isAudio && w.fec) = true from hfec), h.numDataBlocks_eq, hlayout, fecLayout,
      if_neg hlarge]
    simp only [BitVec.toNat_ofNat]
    omega

lemma HasRoom.describes (h : w.HasRoom) (hseq : w.seq &&& payloadSeqMask = w.seq)
    (hle : w.dts.toInt ≤ w.pts.toInt) (hlt : w.pts.toInt - w.dts.toInt < 2 ^ 32) {d : Datagram}
    (hd : d ∈ w.datagrams) : w.Describes d := by
  obtain ⟨k, hk⟩ := List.mem_iff_get.1 hd
  have hheader : d.header = { w.header with encoded := d.header.encoded } := hk ▸ datagrams_header k
  have hshared := w.datagrams_sharedBits d hd
  obtain ⟨hpts, hdelta⟩ := header_times (w := w)
  obtain ⟨hsize, hfec, heven, hodd⟩ := h.header_spec
  have hkey : d.header.encoded &&& payloadKeyFrameBit = w.header.encoded &&& payloadKeyFrameBit := by
    rw [shared_and (by decide), hshared, ← shared_and (by decide)]
  have haudio : d.header.encoded &&& payloadStreamTypeBit =
      w.header.encoded &&& payloadStreamTypeBit := by
    rw [shared_and (by decide), hshared, ← shared_and (by decide)]
  constructor
  · rw [shared_packetSeq, hshared, ← shared_packetSeq, header_packetSeq hseq]
  · rw [hheader]
    exact hpts
  · rw [hheader]
    change w.header.ptsHi ++ w.header.ptsLo - w.header.dtsDelta.setWidth 64 = w.dts
    rw [hpts, hdelta]
    exact dts_recovered hle hlt
  · rw [hheader]
    exact hsize
  · rw [hkey, header_keyFrame]
    cases w.isKeyFrame <;> decide
  · rw [PyroStreamClient.isAudio, haudio, header_audio]
    cases w.isAudio <;> decide
  · rw [hheader]
    exact hfec
  · rw [hheader]
    exact heven
  · rw [hheader]
    exact hodd

/-- A datagram looks like the reply to a ping if the packet is an audio key frame. -/
lemma datagrams_isPing {d : Datagram} (hd : d ∈ w.datagrams) :
    PyroStreamClient.isPing d.header = (w.isAudio && w.isKeyFrame) := by
  have hbits : d.header.encoded &&& (payloadKeyFrameBit ||| payloadStreamTypeBit) =
      (if w.isKeyFrame then payloadKeyFrameBit else 0) |||
        (if w.isAudio then payloadStreamTypeBit else 0) := by
    rw [shared_and (by decide), w.datagrams_sharedBits d hd, ← shared_and (by decide),
      BitVec.and_or_distrib_left, header_keyFrame, header_audio]
  rw [PyroStreamClient.isPing, hbits]
  cases w.isAudio <;> cases w.isKeyFrame <;> decide

/-! ### Reassembly -/

/-- The data datagrams that are sent, in order. -/
def inOrder (w : WrittenPacket) : w.Arrivals := (List.finRange w.datagrams.length).take w.sentBlocks

/-- A fresh slot that is fed these. -/
def received (w : WrittenPacket) : ReconstructedPacket :=
  ReconstructedPacket.feedAll {} (w.emitted.take w.sentBlocks)

lemma blocks_le_length : w.blocks ≤ w.datagrams.length := by
  rw [w.datagrams_spec.1]
  exact Nat.le_add_right _ _

lemma map_val_inOrder : w.inOrder.map Fin.val = List.range w.sentBlocks := by
  rw [inOrder, List.map_take, List.map_coe_finRange_eq_range, List.take_range,
    Nat.min_eq_left (w.sentBlocks_le.trans blocks_le_length)]

lemma dataBlocks_inOrder : dataBlocks w.inOrder = List.range w.sentBlocks :=
  dataBlocks_of_range map_val_inOrder w.sentBlocks_le

lemma received_eq : w.received = reassemble w.inOrder := by
  have hall : (List.finRange w.datagrams.length).map w.datagrams.get = w.datagrams := by
    rw [← List.ofFn_eq_map]
    exact List.ofFn_get _
  have hsent : w.emitted.take w.sentBlocks = w.datagrams.take w.sentBlocks := by
    rw [emitted_eq]
    exact List.take_left' w.length_take_sentBlocks
  rw [received, reassemble, inOrder, List.map_take, hall, hsent]

/-- The data datagrams that are sent lead to a slot with just their blocks. -/
lemma reassembles_inOrder (h : w.Fits) (hpos : 0 < w.sentBlocks) :
    ∃ D, Reassembles h w.inOrder D w.received ∧ D = Finset.range w.sentBlocks := by
  have hlength : w.inOrder.length = w.sentBlocks := by
    have hlen := congrArg List.length (map_val_inOrder (w := w))
    simpa using hlen
  have hne : w.inOrder ≠ [] := List.ne_nil_of_length_pos (hlength ▸ hpos)
  have hwindow : InWindow w.inOrder := inWindow_of_range map_val_inOrder w.sentBlocks_le
  have hdata : ∀ k ∈ w.inOrder, k.val < w.blocks := by
    intro k hk
    have hmem : k.val ∈ w.inOrder.map Fin.val := List.mem_map_of_mem hk
    rw [map_val_inOrder, List.mem_range] at hmem
    exact hmem.trans_le w.sentBlocks_le
  have hcopies : CopiesHarmless w.inOrder := by
    intro i hi _ hfec
    exact absurd (hdata _ (List.getElem_mem hi)) (Nat.not_lt.2 hfec)
  obtain ⟨D, hr⟩ := reassembles_of_harmless h (hpos.trans_le w.sentBlocks_le) w.inOrder hne hwindow hcopies
  refine ⟨D, received_eq ▸ hr, Finset.coe_injective (Set.Subset.antisymm ?_ fun o ho => ?_)⟩
  · -- No FEC block adds to them.
    apply hr.least.2
    refine ⟨fun o ho => ?_, ?_⟩
    · rw [dataSet, dataBlocks_inOrder] at ho
      exact Finset.mem_coe.2 (Finset.mem_range.2 (List.mem_range.1 ho))
    · rintro f ⟨k, hk, hfec⟩
      have hlt := hdata k hk
      omega
  · apply hr.least.1.1
    rw [dataSet, dataBlocks_inOrder]
    exact List.mem_range.2 (Finset.mem_range.1 (Finset.mem_coe.1 ho))

/-! ### Main result -/

/-- Server and client are inverse for this packet. -/
structure Inverse (w : WrittenPacket) : Prop where
  describes : ∀ d ∈ w.emitted, w.Describes d
  data : ∀ k d, w.emitted[k]? = some d → k < w.sentBlocks →
    ReconstructedPacket.isFec d.header = false ∧
      (payloadGetSubpacketSeq d.header.encoded).toNat = k % 2 ^ 14
  fec : ∀ f d, w.emitted[w.sentBlocks + f]? = some d →
    ReconstructedPacket.isFec d.header = true ∧ (payloadGetSubpacketSeq d.header.encoded).toNat = f
  begins : ∀ k d, w.emitted[k]? = some d → ReconstructedPacket.isBegin d.header = decide (k = 0)
  noPing : ∀ d ∈ w.emitted, PyroStreamClient.isPing d.header = false
  complete : w.received.isComplete = true
  delivered : Delivered w w.received
  faultFree : w.received.FaultFree

lemma length_fecData : w.fecData.length = w.layout.numFecBlocks := Encoder.length_generateFrom ..

lemma HasRoom.sentBlocks_pos (h : w.HasRoom) : 0 < w.sentBlocks := by
  obtain ⟨hpos, hle⟩ := h.blocks_le
  rw [sentBlocks, sendmmsgMaximum]
  omega

/-- From 65536 data blocks on there is an FEC block that is sent with the index of another one. -/
lemma fec_index_wraps (hfec : w.usesFec = true) (hmany : 2 ^ 16 ≤ w.blocks) (h : w.HasRoom) :
    ∃ d, w.emitted[w.sentBlocks + 2 ^ 14]? = some d ∧
      (payloadGetSubpacketSeq d.header.encoded).toNat = 0 := by
  obtain ⟨-, hblocks⟩ := h.blocks_le
  have hlayout : w.layout.numFecBlocks = w.blocks / 4 + 1 := by
    rw [layout, if_pos hfec, h.numDataBlocks_eq, fecLayout, if_neg (by omega)]
  have hlength := w.datagrams_spec.1
  rw [length_fecData, hlayout] at hlength
  have hlt : w.blocks + 2 ^ 14 < w.datagrams.length := by omega
  have hblock := (w.datagrams_spec.2 _ hlt).2 (Nat.le_add_right _ _)
  refine ⟨w.datagrams[w.blocks + 2 ^ 14], ?_, ?_⟩
  · rw [emitted_fec]
    exact List.getElem?_eq_getElem hlt
  · rw [hblock.subseq]
    omega

/-- A packet of which not all data blocks are sent. -/
lemma not_inverse_of_long (hlong : sendmmsgMaximum < w.blocks) (h : w.HasRoom) : ¬w.Inverse := by
  intro hinverse
  by_cases hfits : w.Fits
  · obtain ⟨D, hr, hD⟩ := reassembles_inOrder hfits h.sentBlocks_pos
    have hall := hr.done (hr.isComplete.symm.trans hinverse.complete)
    rw [hD] at hall
    have hcard := congrArg Finset.card hall
    rw [Finset.card_range, Finset.card_range] at hcard
    exact absurd (hcard ▸ w.sentBlocks_le_maximum) (Nat.not_le.2 hlong)
  · have hmany : w.usesFec = true ∧ 2 ^ 16 ≤ w.blocks := by
      by_contra hnot
      exact hfits (h.fits fun hfec => Nat.lt_of_not_le fun hle => hnot ⟨hfec, hle⟩)
    obtain ⟨d, hd, hzero⟩ := fec_index_wraps hmany.1 hmany.2 h
    rw [(hinverse.fec _ d hd).2] at hzero
    exact absurd hzero (by decide)

lemma not_inverse_of_ping (haudio : w.isAudio = true) (hkey : w.isKeyFrame = true) (h : w.HasRoom) :
    ¬w.Inverse := by
  intro hinverse
  have hfirst : 0 < w.datagrams.length := Nat.lt_of_lt_of_le h.blocks_le.1 blocks_le_length
  have hmem : w.datagrams[0] ∈ w.emitted := w.mem_emitted.2 ⟨0, hfirst, .inl h.sentBlocks_pos, rfl⟩
  have hping := hinverse.noPing _ hmem
  rw [datagrams_isPing (List.getElem_mem hfirst), haudio, hkey] at hping
  exact Bool.noConfusion hping

lemma inverse_of_short (h : w.HasRoom) (hseq : w.seq &&& payloadSeqMask = w.seq)
    (hle : w.dts.toInt ≤ w.pts.toInt) (hlt : w.pts.toInt - w.dts.toInt < 2 ^ 32)
    (hping : (w.isAudio && w.isKeyFrame) = false) (hshort : w.blocks ≤ sendmmsgMaximum) : w.Inverse := by
  have hfits : w.Fits := h.fits fun _ => hshort.trans_lt (by decide)
  have hall := w.sentBlocks_eq hshort
  have hindex : ∀ {k d}, w.emitted[k]? = some d → ∃ hk : k < w.datagrams.length, w.datagrams[k] = d := by
    intro k d hd
    rw [w.emitted_eq_datagrams hshort] at hd
    exact List.getElem?_eq_some_iff.1 hd
  obtain ⟨D, hr, hD⟩ := reassembles_inOrder hfits h.sentBlocks_pos
  rw [hall] at hD
  have hdone := hr.complete (.inl h.blocks_le.1) hD
  constructor
  · exact fun d hd => h.describes hseq hle hlt (w.emitted_subset hd)
  · intro k d hd hdata
    obtain ⟨hk, rfl⟩ := hindex hd
    have hblock := (w.datagrams_spec.2 k hk).1 (hall ▸ hdata)
    exact ⟨hblock.plain, hblock.subseq⟩
  · intro f d hd
    rw [hall] at hd
    obtain ⟨hf, rfl⟩ := hindex hd
    have hblock := (w.datagrams_spec.2 _ hf).2 (Nat.le_add_right _ _)
    have hbound := hfits.layoutBounds.fecBlocks
    rw [w.datagrams_spec.1, length_fecData] at hf
    refine ⟨hblock.flagged, ?_⟩
    rw [hblock.subseq]
    omega
  · intro k d hd
    obtain ⟨hk, rfl⟩ := hindex hd
    exact w.datagrams_begins k hk h.blocks_le.1
  · exact fun d hd => (datagrams_isPing (w.emitted_subset hd)).trans hping
  · exact hr.isComplete.trans hdone
  · exact hr.delivered hdone
  · exact hr.faultFree

end WrittenPacket

namespace PyroStreamConnection

open WrittenPacket

/-! ### Connections -/

/-- The connections that the server can have. -/
inductive Reachable : PyroStreamConnection → Prop
  | new (cookie : BitVec 64) (fec : Bool) : Reachable ((new cookie).setForwardErrorCorrection fec)
  | handle {c : PyroStreamConnection} (codec : CodecParameters) (id : Nat) (received : List UInt8) :
    Reachable c → Reachable (c.handle codec id received).2.1
  | handleUdpDatagram {c : PyroStreamConnection} (pts : BitVec 64) (remote : RemoteAddress)
    (msg : List UInt8) : Reachable c → Reachable (c.handleUdpDatagram pts remote msg).1
  | writePacket {c : PyroStreamConnection} (pts dts : BitVec 64) (data : Bytes) (size : Nat)
    (isAudio isKeyFrame : Bool) (xorData : Bytes) :
    Reachable c → Reachable (c.writePacket pts dts data size isAudio isKeyFrame xorData).2
  | getAndClearPendingVideoPacketLoss {c : PyroStreamConnection} :
    Reachable c → Reachable c.getAndClearPendingVideoPacketLoss.2

/-- The sequence number that the next packet of a stream gets. -/
def streamSeq (c : PyroStreamConnection) (isAudio : Bool) : BitVec 32 :=
  if isAudio then c.packetSeqAudio else c.packetSeqVideo

lemma streamSeq_handle (c : PyroStreamConnection) (codec : CodecParameters) (id : Nat)
    (received : List UInt8) : (c.handle codec id received).2.1.streamSeq = c.streamSeq := by
  apply handle_keeps
  · exact fun c tcp => rfl
  · intro c codec type payload
    unfold handleMessage handleHello handleKick handleProgress
    dsimp only
    split_ifs <;> rfl

lemma streamSeq_handleUdpDatagram (c : PyroStreamConnection) (pts : BitVec 64) (remote : RemoteAddress)
    (msg : List UInt8) : (c.handleUdpDatagram pts remote msg).1.streamSeq = c.streamSeq := by
  unfold handleUdpDatagram handleCookie handleGamepadState
  dsimp only
  split_ifs <;> rfl

lemma streamSeq_writePacket (c : PyroStreamConnection) (pts dts : BitVec 64) (data : Bytes) (size : Nat)
    (isAudio isKeyFrame : Bool) (xorData : Bytes) :
    let r := c.writePacket pts dts data size isAudio isKeyFrame xorData
    (r.2 = c ∧ r.1 = []) ∨ (r.2.streamSeq isAudio = (c.streamSeq isAudio + 1) &&& payloadSeqMask ∧
      r.2.streamSeq (!isAudio) = c.streamSeq (!isAudio)) := by
  unfold writePacket
  dsimp only
  split_ifs with hready haudio hvideo hstream
  · exact .inl ⟨rfl, rfl⟩
  · exact .inl ⟨rfl, rfl⟩
  · exact .inl ⟨rfl, rfl⟩
  · subst hstream
    exact .inr ⟨rfl, rfl⟩
  · rw [Bool.not_eq_true] at hstream
    subst hstream
    exact .inr ⟨rfl, rfl⟩

/-- Sequence numbers have 14 bits. -/
lemma Reachable.streamSeq_masked {c : PyroStreamConnection} (h : Reachable c) (isAudio : Bool) :
    c.streamSeq isAudio &&& payloadSeqMask = c.streamSeq isAudio := by
  induction h generalizing isAudio with
  | new cookie fec => cases isAudio <;> exact and_payloadSeqMask_self _
  | handle codec id received _ ih => rw [streamSeq_handle, ih]
  | handleUdpDatagram pts remote msg _ ih => rw [streamSeq_handleUdpDatagram, ih]
  | @writePacket c pts dts data size audio isKeyFrame xorData _ ih =>
    rcases c.streamSeq_writePacket pts dts data size audio isKeyFrame xorData with
      ⟨hsame, -⟩ | ⟨hnext, hother⟩
    · rw [hsame, ih]
    · by_cases haudio : isAudio = audio
      · rw [haudio, hnext, and_payloadSeqMask_self]
      · rw [Bool.eq_not.2 haudio, hother, ih]
  | getAndClearPendingVideoPacketLoss _ ih => exact ih isAudio

/-- Server and client are inverse for this packet, and the next one gets the next number. -/
structure RoundTrip (c : PyroStreamConnection) (pts dts : BitVec 64) (data : Bytes) (size : Nat)
    (isAudio isKeyFrame : Bool) (xorData : Bytes) : Prop where
  emitted : (c.writePacket pts dts data size isAudio isKeyFrame xorData).1 =
    (c.written pts dts data size isAudio isKeyFrame xorData).emitted
  inverse : (c.written pts dts data size isAudio isKeyFrame xorData).Inverse
  next : ((c.writePacket pts dts data size isAudio isKeyFrame xorData).2.streamSeq isAudio).toNat =
    ((c.streamSeq isAudio).toNat + 1) % 2 ^ 14

/-- The client gets back what the server puts in if the datagrams do not look like replies to a ping, and if
there are no more data blocks than one call of `sendmmsg` sends. -/
theorem roundTrip_iff {c : PyroStreamConnection} (hc : Reachable c) (pts dts : BitVec 64) (data : Bytes)
    (size : Nat) (isAudio isKeyFrame : Bool) (xorData : Bytes)
    (hemitted : (c.writePacket pts dts data size isAudio isKeyFrame xorData).1 ≠ [])
    (hpos : 1 ≤ size) (hsize : size ≤ 2 ^ 27) (hle : dts.toInt ≤ pts.toInt)
    (hlt : pts.toInt - dts.toInt < 2 ^ 32) :
    c.RoundTrip pts dts data size isAudio isKeyFrame xorData ↔
      ¬(isAudio = true ∧ isKeyFrame = true) ∧ size ≤ sendmmsgMaximum * maxPayloadSize := by
  let w := c.written pts dts data size isAudio isKeyFrame xorData
  have hroom : w.HasRoom := ⟨hpos, hsize⟩
  have hblocks : w.blocks ≤ sendmmsgMaximum ↔ size ≤ sendmmsgMaximum * maxPayloadSize := by
    change (size + maxPayloadSize - 1) / maxPayloadSize ≤ sendmmsgMaximum ↔ _
    rw [show maxPayloadSize = 1024 from rfl, sendmmsgMaximum]
    omega
  constructor
  · intro h
    constructor
    · rintro ⟨haudio, hkey⟩
      exact not_inverse_of_ping haudio hkey hroom h.inverse
    · by_contra hlarge
      apply not_inverse_of_long _ hroom h.inverse
      rwa [← not_le, hblocks]
  · rintro ⟨hping, hshort⟩
    have hping' : (w.isAudio && w.isKeyFrame) = false := by
      change (isAudio && isKeyFrame) = false
      rwa [← Bool.not_eq_true, Bool.and_eq_true]
    constructor
    · exact emitted_of_writePacket c pts dts data size isAudio isKeyFrame xorData hemitted
    · exact inverse_of_short hroom (hc.streamSeq_masked isAudio) hle hlt hping' (hblocks.2 hshort)
    · rcases c.streamSeq_writePacket pts dts data size isAudio isKeyFrame xorData with
        ⟨-, hnone⟩ | ⟨hnext, -⟩
      · exact absurd hnone hemitted
      · rw [hnext, toNat_and_payloadSeqMask, BitVec.toNat_add]
        simp

/-- A connection after the handshake of a client that wants video. -/
def established : PyroStreamConnection :=
  let known := ((new 1001).setForwardErrorCorrection true).handleUdpDatagram 0 ⟨[1]⟩
    (typeBytes messageCookie ++ toLittleEndian 8 1001)
  (known.1.handle { videoCodec := 1 } 0
    (typeBytes messageKick ++ toLittleEndian 4 kickStateVideoBit.toNat)).2.1

lemma reachable_established : Reachable established := by
  apply Reachable.handle
  apply Reachable.handleUdpDatagram
  apply Reachable.new

lemma writePacket_established (data : Bytes) (size : Nat) (xorData : Bytes) :
    (established.writePacket 0 0 data size false true xorData).1 =
      (established.written 0 0 data size false true xorData).emitted := by
  have hready : ¬(!established.udpRemote.isSet || !established.kicked) = true := by decide +kernel
  have haudio : ¬(false && decide (established.kickFlags &&& kickStateAudioBit = 0)) = true :=
    Bool.false_ne_true
  have hvideo : ¬(!false && decide (established.kickFlags &&& kickStateVideoBit = 0)) = true := by
    decide +kernel
  unfold writePacket
  rw [if_neg hready, if_neg haudio, if_neg hvideo]
  rfl

/-- A packet of three blocks. -/
theorem roundTrip_small : established.RoundTrip 0 0 sampleData 3072 false true (fun _ => 0) := by
  have hemitted : (established.writePacket 0 0 sampleData 3072 false true (fun _ => 0)).1 ≠ [] := by
    apply List.ne_nil_of_length_pos
    decide +kernel
  exact (roundTrip_iff reachable_established 0 0 sampleData 3072 false true (fun _ => 0)
    hemitted (by decide) (by decide) (by decide) (by decide)).2 (by decide)

/-- The last block of a packet of one byte more than 1 MiB is not sent. -/
theorem roundTrip_large : Reachable established ∧
    (established.writePacket 0 0 sampleData (2 ^ 20 + 1) false true (fun _ => 0)).1 ≠ [] ∧
      ¬established.RoundTrip 0 0 sampleData (2 ^ 20 + 1) false true (fun _ => 0) := by
  let w := established.written 0 0 sampleData (2 ^ 20 + 1) false true (fun _ => 0)
  have hroom : w.HasRoom := by
    constructor
    · decide
    · decide
  refine ⟨reachable_established, ?_, ?_⟩
  · rw [writePacket_established]
    have hfirst : 0 < w.datagrams.length := Nat.lt_of_lt_of_le hroom.blocks_le.1 blocks_le_length
    exact List.ne_nil_of_mem (w.mem_emitted.2 ⟨0, hfirst, .inl hroom.sentBlocks_pos, rfl⟩)
  · exact fun h => not_inverse_of_long (by decide +kernel) hroom h.inverse

end PyroStreamConnection

end PyroFling
