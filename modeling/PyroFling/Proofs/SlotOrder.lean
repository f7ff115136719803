import PyroFling.Library.Runs
import PyroFling.Proofs.StreamDelivery

/-!
# The order of the slots

Whenever a client looks for a datagram, the slots of a stream are filled from the front, in the
order of their packets, with packets that are newer than the last completed one. A packet that is
put in front of another one upsets this if it has no bytes, because a slot with an empty buffer
counts as reset, and if it is exactly half of the sequence range away, because the distance is then
negative both ways. A completed packet also stays in its slot when the progress report cannot be
sent.
-/

namespace PyroFling

lemma payloadGetPacketSeqDelta_flip {a b : BitVec 32} (hlt : payloadGetPacketSeqDelta a b < 0)
    (hhalf : payloadGetPacketSeqDelta a b ≠ -2 ^ 13) : 0 < payloadGetPacketSeqDelta b a := by
  rw [payloadGetPacketSeqDelta, payloadGetSeqDelta_eq] at *
  rw [Int.bmod] at *
  split_ifs at * <;> omega

lemma payloadGetPacketSeqDelta_pos {a b : BitVec 32} (ha : a.toNat < 2 ^ 14) (hb : b.toNat < 2 ^ 14)
    (hne : b ≠ a) (hle : ¬payloadGetPacketSeqDelta a b < 0) : 0 < payloadGetPacketSeqDelta a b := by
  have hne' : b.toNat ≠ a.toNat := fun h => hne (BitVec.eq_of_toNat_eq h)
  rw [payloadGetPacketSeqDelta, payloadGetSeqDelta_eq, Int.bmod] at *
  split_ifs at * <;> omega

lemma payloadGetPacketSeq_lt (flags : BitVec 32) : (payloadGetPacketSeq flags).toNat < 2 ^ 14 := by
  rw [payloadGetPacketSeq, toNat_and_payloadSeqMask]
  exact Nat.mod_lt _ (by norm_num)

namespace ReconstructedPacket

/-- A slot that is fed keeps its buffer, or gets the one of the datagram. -/
lemma feed_bufferSize (p : ReconstructedPacket) (d : Datagram) : (p.feed d).2.bufferSize =
    if p.bufferSize = 0 then roundedSize d.header else p.bufferSize := by
  have hadvance : ∀ q : ReconstructedPacket, (q.advance d.header).bufferSize = q.bufferSize := by
    intro q
    unfold advance
    simp only
    split <;> rfl
  have hprepare : (p.prepareDecode d.header).bufferSize =
      if p.bufferSize = 0 then roundedSize d.header else p.bufferSize := by
    unfold prepareDecode
    split_ifs <;> simp [hadvance, beginPacket]
  have hfec : ∀ (q : ReconstructedPacket) seq data, (q.addFecData seq data).bufferSize = q.bufferSize := by
    intro q seq data
    unfold addFecData
    simp only
    split_ifs <;> rfl
  have hpayload : ∀ (q : ReconstructedPacket) data n, (q.addPayloadData data n).bufferSize = q.bufferSize := by
    intro q data n
    unfold addPayloadData
    simp only
    split_ifs <;> rfl
  rw [← hprepare]
  unfold feed
  simp only
  split_ifs <;> simp [hfec, hpayload]

end ReconstructedPacket

namespace Stream

variable {s : Stream} {seq : BitVec 32} {header : PayloadHeader} {p : ReconstructedPacket}

/-- What holds of the slots whenever a datagram is looked for. -/
structure InOrder (s : Stream) : Prop where
  front : s.first.isReset = true → s.second.isReset = true
  order : s.first.isReset = false → s.second.isReset = false →
    0 < payloadGetPacketSeqDelta s.second.packetSeq s.first.packetSeq
  newer : s.hasCompleted → ∀ i, (s.get i).isReset = false →
    0 < payloadGetPacketSeqDelta (s.get i).packetSeq s.lastCompletedSeq

/-- The packet that a new one is put in front of by `get_stream_packet`. -/
def overtaken (s : Stream) (packetSeq : BitVec 32) : Option ReconstructedPacket :=
  if s.first.isReset ∨ s.first.packetSeq = packetSeq then none
  else if s.second.isReset then
    if payloadGetPacketSeqDelta packetSeq s.first.packetSeq < 0 then some s.first else none
  else if s.second.packetSeq = packetSeq ∨
      payloadGetPacketSeqDelta packetSeq s.first.packetSeq < 0 then none
  else if payloadGetPacketSeqDelta packetSeq s.second.packetSeq < 0 then some s.second
  else none

/-- A packet that overtakes another one has bytes, and is not half of the sequence range away. -/
def Overtakes (s : Stream) (packetSeq : BitVec 32) (header : PayloadHeader) : Prop :=
  ∀ p ∈ s.overtaken packetSeq, ReconstructedPacket.roundedSize header ≠ 0 ∧
    payloadGetPacketSeqDelta packetSeq p.packetSeq ≠ -2 ^ 13

instance : Decidable (s.Overtakes seq header) :=
  inferInstanceAs (Decidable (∀ p ∈ s.overtaken seq, _))

/-- Sequence numbers of slots in use have 14 bits. -/
def Narrow (s : Stream) : Prop := ∀ i, (s.get i).isReset = false → (s.get i).packetSeq.toNat < 2 ^ 14

/-- The slots are in order even if slot `i` is fed with a datagram. -/
def Ready (s : Stream) (header : PayloadHeader) (i : SlotIndex) : Prop :=
  ∀ p : ReconstructedPacket, p.packetSeq = (s.get i).packetSeq →
    (p.bufferSize = if (s.get i).bufferSize = 0 then ReconstructedPacket.roundedSize header
      else (s.get i).bufferSize) → (s.set i p).InOrder ∧ (s.set i p).Narrow

lemma ready_first (n : Nat) (hseq : seq.toNat < 2 ^ 14)
    (hlast : s.hasCompleted → 0 < payloadGetPacketSeqDelta seq s.lastCompletedSeq)
    (hsecond : s.second.isReset = false → ReconstructedPacket.roundedSize header ≠ 0 ∧
      0 < payloadGetPacketSeqDelta s.second.packetSeq seq ∧ s.second.packetSeq.toNat < 2 ^ 14 ∧
      (s.hasCompleted → 0 < payloadGetPacketSeqDelta s.second.packetSeq s.lastCompletedSeq)) :
    (s.start .first seq n).Ready header .first := by
  intro p hp hsize
  have hp' : p.packetSeq = seq := hp
  have hsize' : p.bufferSize = ReconstructedPacket.roundedSize header := hsize
  refine ⟨⟨?_, ?_, ?_⟩, ?_⟩
  · intro hfirst
    by_contra hactive
    have hempty : p.bufferSize = 0 := of_decide_eq_true hfirst
    exact (hsecond (by simpa [set, start] using hactive)).1 (hsize'.symm.trans hempty)
  · intro _ hactive
    have hdelta := (hsecond hactive).2.1
    simpa [set, start, hp'] using hdelta
  · intro hseen i hi
    cases i with
    | first => simpa [set, start, get, hp'] using hlast hseen
    | second => exact (hsecond hi).2.2.2 hseen
  · intro i hi
    cases i with
    | first => simpa [set, get, hp'] using hseq
    | second => exact (hsecond hi).2.2.1

lemma ready_second (n : Nat) (hseq : seq.toNat < 2 ^ 14)
    (hlast : s.hasCompleted → 0 < payloadGetPacketSeqDelta seq s.lastCompletedSeq)
    (hfirst : s.first.isReset = false ∧ 0 < payloadGetPacketSeqDelta seq s.first.packetSeq ∧
      s.first.packetSeq.toNat < 2 ^ 14 ∧
      (s.hasCompleted → 0 < payloadGetPacketSeqDelta s.first.packetSeq s.lastCompletedSeq)) :
    (s.start .second seq n).Ready header .second := by
  intro p hp _
  have hp' : p.packetSeq = seq := hp
  obtain ⟨hactive, hdelta, hnarrow, hnewer⟩ := hfirst
  refine ⟨⟨?_, ?_, ?_⟩, ?_⟩
  · intro hreset
    have hreset' : s.first.isReset = true := hreset
    rw [hactive] at hreset'
    cases hreset'
  · intro _ _
    simpa [set, start, hp'] using hdelta
  · intro hseen i _
    cases i with
    | first => exact hnewer hseen
    | second => simpa [set, start, get, hp'] using hlast hseen
  · intro i _
    cases i with
    | first => exact hnarrow
    | second => simpa [set, get, hp'] using hseq

lemma ready_found (h : s.InOrder) (hnarrow : s.Narrow) {i : SlotIndex} (hi : (s.get i).isReset = false) :
    s.Ready header i := by
  intro p hp hsize
  have hused : (s.get i).bufferSize ≠ 0 := by simpa [ReconstructedPacket.isReset] using hi
  rw [if_neg hused] at hsize
  have hreset : ∀ j, ((s.set i p).get j).isReset = (s.get j).isReset ∧
      ((s.set i p).get j).packetSeq = (s.get j).packetSeq := by
    intro j
    by_cases hj : j = i
    · subst hj
      rw [get_set_self]
      exact ⟨by simp [ReconstructedPacket.isReset, hsize], hp⟩
    · rw [get_set_ne s p hj]
      exact ⟨rfl, rfl⟩
  have hlast : (s.set i p).lastCompletedSeq = s.lastCompletedSeq := by cases i <;> rfl
  obtain ⟨hfirst, hfirst'⟩ := hreset .first
  obtain ⟨hsecond, hsecond'⟩ := hreset .second
  simp only [get] at hfirst hfirst' hsecond hsecond'
  refine ⟨⟨?_, ?_, ?_⟩, ?_⟩
  · rw [hfirst, hsecond]
    exact h.front
  · rw [hfirst, hsecond, hfirst', hsecond']
    exact h.order
  · intro hseen j hj
    rw [(hreset j).1] at hj
    rw [(hreset j).2, hlast]
    rw [hasCompleted, hlast] at hseen
    exact h.newer hseen j hj
  · intro j hj
    rw [(hreset j).1] at hj
    rw [(hreset j).2]
    exact hnarrow j hj

/-- The slot that `get_stream_packet` finds for a new enough packet can be fed. -/
lemma InOrder.getStreamPacket (h : s.InOrder) (hnarrow : s.Narrow) (hseq : seq.toNat < 2 ^ 14) (n : Nat)
    (hlast : s.hasCompleted → 0 < payloadGetPacketSeqDelta seq s.lastCompletedSeq)
    (hovertakes : s.Overtakes seq header) :
    ((s.getStreamPacket seq n).1 = none → (s.getStreamPacket seq n).2 = s) ∧
      (s.getStreamPacket seq n).2.fault = s.fault ∧
      ∀ i, (s.getStreamPacket seq n).1 = some i → (s.getStreamPacket seq n).2.Ready header i := by
  have hfirst := hnarrow .first
  have hsecond := hnarrow .second
  simp only [get] at hfirst hsecond
  unfold Overtakes overtaken at hovertakes
  unfold Stream.getStreamPacket
  split_ifs with hreset hfound hreset' hbefore hfound' hold hbefore'
  · have hreset' := h.front hreset
    refine ⟨by simp, by simp [start, set, Fault.note, hreset'], ?_⟩
    rintro i hi
    obtain rfl := Option.some.inj hi
    exact ready_first n hseq hlast fun hactive => by simp_all
  · refine ⟨by simp, rfl, fun i hi => ?_⟩
    obtain rfl := Option.some.inj hi
    exact ready_found h hnarrow (by simpa [get] using hreset)
  · have hactive : s.first.isReset = false := by simpa using hreset
    rw [if_neg (by simp [hactive, hfound]), if_pos hreset', if_pos hbefore] at hovertakes
    obtain ⟨hsize, hhalf⟩ := hovertakes s.first rfl
    refine ⟨by simp, rfl, fun i hi => ?_⟩
    obtain rfl := Option.some.inj hi
    refine ready_first (s := s.swap) n hseq hlast fun _ => ⟨hsize, ?_, hfirst hactive, ?_⟩
    · exact payloadGetPacketSeqDelta_flip hbefore hhalf
    · exact fun hseen => h.newer hseen .first hactive
  · have hactive : s.first.isReset = false := by simpa using hreset
    refine ⟨by simp, rfl, fun i hi => ?_⟩
    obtain rfl := Option.some.inj hi
    refine ready_second n hseq hlast ⟨hactive, ?_, hfirst hactive, ?_⟩
    · exact payloadGetPacketSeqDelta_pos hseq (hfirst hactive) hfound hbefore
    · exact fun hseen => h.newer hseen .first hactive
  · refine ⟨by simp, rfl, fun i hi => ?_⟩
    obtain rfl := Option.some.inj hi
    exact ready_found h hnarrow (by simpa [get] using hreset')
  · exact ⟨fun _ => rfl, rfl, fun i hi => absurd hi (by simp)⟩
  · have hactive' : s.second.isReset = false := by simpa using hreset'
    rw [if_neg (by simp [hreset, hfound]), if_neg hreset', if_neg (by simp [hfound', hold]),
      if_pos hbefore'] at hovertakes
    obtain ⟨hsize, hhalf⟩ := hovertakes s.second rfl
    refine ⟨by simp, rfl, fun i hi => ?_⟩
    obtain rfl := Option.some.inj hi
    refine ready_first n hseq hlast fun _ => ⟨hsize, ?_, hsecond hactive', ?_⟩
    · exact payloadGetPacketSeqDelta_flip hbefore' hhalf
    · exact fun hseen => h.newer hseen .second hactive'
  · have hactive' : s.second.isReset = false := by simpa using hreset'
    refine ⟨by simp, rfl, fun i hi => ?_⟩
    obtain rfl := Option.some.inj hi
    refine ready_second (s := s.swap) n hseq hlast ⟨hactive', ?_, hsecond hactive', ?_⟩
    · exact payloadGetPacketSeqDelta_pos hseq (hsecond hactive') hfound' hbefore'
    · exact fun hseen => h.newer hseen .second hactive'

/-- The first slot holds the last completed packet, which has been handed out. -/
def Handed (s : Stream) : Prop := s.second.isReset = false →
  0 < payloadGetPacketSeqDelta s.second.packetSeq s.lastCompletedSeq

end Stream

namespace PyroStreamClient

variable {c : PyroStreamClient} {t : StreamType} {a : Arrival}

/-- What happens to a client: `wait_next_packet` is called, and a datagram is read inside of it. -/
inductive ClientEvent
  | waitNextPacket
  | datagram (a : Arrival)

def step (c : PyroStreamClient) : ClientEvent → PyroStreamClient
  | .waitNextPacket => c.releaseCurrent
  | .datagram a => (c.iterate a).2

/-- `wait_next_packet` calls `iterate` until there is a packet. -/
def Legal (c : PyroStreamClient) : ClientEvent → Prop
  | .waitNextPacket => True
  | .datagram _ => c.current = none

/-- A datagram that is looked at beyond its flags. -/
def isMedia (d : Datagram) : Bool :=
  payloadHeaderSize ≤ d.size && d.size ≤ maxUdpDatagramSize && !isPing d.header &&
    !(ReconstructedPacket.isFec d.header && isAudio d.header)

/-- The progress report can be sent if it is due, and a datagram that is not too old may be put in
front of the packet that is next. -/
def Orderly (c : PyroStreamClient) : ClientEvent → Prop
  | .waitNextPacket => True
  | .datagram a => a.reportSent = true ∧
    (isMedia a.datagram = true → c.Fresh (streamOf a.datagram.header) a →
      (c.stream (streamOf a.datagram.header)).Overtakes
        (payloadGetPacketSeq a.datagram.header.encoded) a.datagram.header)

instance : Decidable (c.Fresh t a) := inferInstanceAs (Decidable (¬_))

instance (c : PyroStreamClient) : (e : ClientEvent) → Decidable (c.Legal e)
  | .waitNextPacket => inferInstanceAs (Decidable True)
  | .datagram _ => inferInstanceAs (Decidable (_ = _))

instance (c : PyroStreamClient) : (e : ClientEvent) → Decidable (c.Orderly e)
  | .waitNextPacket => inferInstanceAs (Decidable True)
  | .datagram _ => inferInstanceAs (Decidable (_ ∧ _))

/-- The state of a stream: in order, unless its first packet has just been handed out. -/
structure Tidy (t : StreamType) (c : PyroStreamClient) : Prop where
  narrow : (c.stream t).Narrow
  fault : (c.stream t).fault = none
  handed : c.current = some t → (c.stream t).Handed
  inOrder : c.current ≠ some t → (c.stream t).InOrder

lemma iterate_cases (c : PyroStreamClient) (a : Arrival) : (c.iterate a).2 = c ∨
    isMedia a.datagram = true ∧ c.iterate a = c.receiveStream (streamOf a.datagram.header) a := by
  unfold iterate
  simp only
  split_ifs with hsize hping hfec
  · exact .inl rfl
  · exact .inl rfl
  · exact .inl rfl
  · refine .inr ⟨?_, rfl⟩
    simp only [isMedia, Bool.and_eq_true, decide_eq_true_eq, Bool.not_eq_true', Bool.and_eq_false_iff]
    simp only [Bool.not_eq_true] at hping
    refine ⟨⟨⟨by omega, by omega⟩, hping⟩, ?_⟩
    by_contra hboth
    push Not at hboth
    exact hfec ⟨by simpa using hboth.1, by simpa using hboth.2⟩

/-- If the report can be sent, a completed packet is handed out. -/
lemma completePacket_ne_reportFailed (c : PyroStreamClient) (t : StreamType) (h : a.reportSent = true) :
    (c.completePacket t a).1 ≠ .reportFailed := by
  have hsend : ∀ d : PyroStreamClient, (d.checkSendProgress a.reportDue a.reportSent).1 = true := by
    intro d
    unfold checkSendProgress
    split_ifs <;> simp_all
  unfold completePacket
  split_ifs
  · simp
  · have hsent := hsend (((c.countDropped t).countReceived t).countKeyFrame a.datagram.header)
    split
    next heq => simp [heq] at hsent
    next => simp

lemma receiveStream_ne_reportFailed (c : PyroStreamClient) (t : StreamType) (h : a.reportSent = true) :
    (c.receiveStream t a).1 ≠ .reportFailed := by
  rcases c.receiveStream_cases t a with heq | ⟨-, ⟨-, heq⟩ | ⟨i, -, ⟨out, hout, heq⟩ | heq⟩⟩
  · simp [heq]
  · simp [heq]
  · rw [heq]
    rcases hout with rfl | rfl <;> simp
  · rw [heq]
    exact completePacket_ne_reportFailed _ t h

/-- A completed packet moves to the front and becomes the last one. -/
lemma handed_placed {s : Stream} {i : SlotIndex} {p : ReconstructedPacket} (h : (s.set i p).InOrder)
    (hnarrow : (s.set i p).Narrow) (n : Nat) :
    Stream.Narrow { placed s i p with lastCompletedSeq := p.packetSeq, lastCompletedNumber := n } ∧
      Stream.Handed { placed s i p with lastCompletedSeq := p.packetSeq, lastCompletedNumber := n } := by
  cases i with
  | first =>
    refine ⟨hnarrow, fun hactive => ?_⟩
    refine h.order ?_ hactive
    by_contra hreset
    have hempty := h.front (by simpa using hreset)
    rw [show (s.set .first p).second.isReset = false from hactive] at hempty
    cases hempty
  | second =>
    refine ⟨?_, fun hactive => ?_⟩
    · intro j hj
      cases j with
      | first => exact hnarrow .second hj
      | second => cases hj
    · cases hactive

lemma Tidy.receiveStream (h : Tidy t c) (hcurrent : c.current = none) (hsent : a.reportSent = true)
    (hovertakes : c.Fresh t a → (c.stream t).Overtakes
      (payloadGetPacketSeq a.datagram.header.encoded) a.datagram.header) :
    Tidy t (c.receiveStream t a).2 := by
  have hinOrder := h.inOrder (by simp [hcurrent])
  have hnone : ∀ s, (c.setStream t s).current ≠ some t := fun s => by simp [hcurrent]
  rcases c.receiveStream_cases t a with heq | ⟨hfresh, hcases⟩
  · rw [heq]
    exact h
  have hlast : (c.stream t).hasCompleted → 0 < payloadGetPacketSeqDelta
      (payloadGetPacketSeq a.datagram.header.encoded) (c.stream t).lastCompletedSeq := by
    intro hseen
    by_contra hle
    exact hfresh ⟨hseen, not_lt.1 hle⟩
  obtain ⟨hold, hfault, hready⟩ := hinOrder.getStreamPacket h.narrow (payloadGetPacketSeq_lt _) a.number
    hlast (hovertakes hfresh)
  rcases hcases with ⟨hclaimed, heq⟩ | ⟨i, hi, hfed⟩
  · have hsame : (c.claimed t a).2 = c.stream t := hold hclaimed
    rw [heq, hsame]
    refine ⟨by simpa using h.narrow, by simpa using h.fault, fun hc => absurd hc (hnone _), ?_⟩
    exact fun _ => by simpa using hinOrder
  · obtain ⟨horder, hnarrow⟩ : ((c.claimed t a).2.set i (c.fed t a i)).InOrder ∧
        ((c.claimed t a).2.set i (c.fed t a i)).Narrow := by
      apply hready i hi
      · exact (ReconstructedPacket.feed_packetSeq _ _).1
      · exact ReconstructedPacket.feed_bufferSize _ _
    have hfault' : (c.claimed t a).2.fault = none := hfault.trans h.fault
    rcases hfed with ⟨out, -, heq⟩ | heq
    · rw [heq]
      refine ⟨by simpa using hnarrow, ?_, fun hc => absurd hc (hnone _), fun _ => by simpa using horder⟩
      rw [stream_setStream_self]
      cases i <;> exact hfault'
    · have hdelta := lastDelta_placed hfresh hi
      have hdone := completePacket_spec (c := c.setStream t (placed (c.claimed t a).2 i (c.fed t a i)))
        t a (by simpa using hdelta)
      have hcur := hdone.current (hdone.outcome.resolve_right (completePacket_ne_reportFailed _ t hsent))
      have hstream := hdone.stream
      rw [stream_setStream_self, (placed_spec _ i _).1] at hstream
      obtain ⟨hnarrow', hhanded⟩ := handed_placed horder hnarrow (c.fed t a i).number
      rw [heq]
      refine ⟨hstream ▸ hnarrow', ?_, fun _ => hstream ▸ hhanded, fun hc => absurd hcur hc⟩
      rw [hstream]
      cases i <;> exact hfault'

lemma Tidy.iterate (h : Tidy t c) (hcurrent : c.current = none) (horderly : c.Orderly (.datagram a)) :
    Tidy t (c.iterate a).2 := by
  obtain ⟨hsent, hovertakes⟩ := horderly
  rcases c.iterate_cases a with heq | ⟨hmedia, heq⟩
  · rw [heq]
    exact h
  rw [heq]
  by_cases ht : t = streamOf a.datagram.header
  · subst ht
    exact h.receiveStream hcurrent hsent (hovertakes hmedia)
  · have hstream := (c.receiveStream_other a ht).1
    have hcur : (c.receiveStream (streamOf a.datagram.header) a).2.current ≠ some t := by
      intro hc
      rcases c.receiveStream_current _ a hcurrent (c.receiveStream_ne_reportFailed _ hsent) with h' | h'
      · rw [h'] at hc
        cases hc
      · rw [h'] at hc
        exact ht (Option.some.inj hc).symm
    refine ⟨hstream ▸ h.narrow, hstream ▸ h.fault, fun hc => absurd hc hcur, fun _ => ?_⟩
    rw [hstream]
    exact h.inOrder (by simp [hcurrent])

lemma Tidy.releaseCurrent (h : Tidy t c) : Tidy t c.releaseCurrent := by
  unfold PyroStreamClient.releaseCurrent
  cases hcurrent : c.current with
  | none => exact h
  | some u =>
    simp only
    by_cases ht : t = u
    · subst ht
      have hhanded := h.handed hcurrent
      have hstream : ({ c.setStream t { (c.stream t).swap with
          second := (c.stream t).swap.second.reset } with current := none }).stream t =
          { (c.stream t).swap with second := (c.stream t).swap.second.reset } := by
        cases t <;> rfl
      refine ⟨?_, ?_, fun hc => by simp at hc, fun _ => ?_⟩
      · rw [hstream]
        intro j hj
        cases j with
        | first => exact h.narrow .second hj
        | second => cases hj
      · rw [hstream]
        exact h.fault
      · rw [hstream]
        refine ⟨fun _ => rfl, ?_, ?_⟩
        · intro _ hactive
          cases hactive
        · intro _ j hj
          cases j with
          | first => exact hhanded hj
          | second => cases hj
    · have hstream : ({ c.setStream u { (c.stream u).swap with
          second := (c.stream u).swap.second.reset } with current := none }).stream t = c.stream t := by
        cases t <;> cases u <;> simp_all [setStream, stream]
      refine ⟨hstream ▸ h.narrow, hstream ▸ h.fault, fun hc => by simp at hc, fun _ => ?_⟩
      rw [hstream]
      exact h.inOrder (by simpa [hcurrent] using Ne.symm ht)

lemma Tidy.step (h : Tidy t c) {e : ClientEvent} (hlegal : c.Legal e) (horderly : c.Orderly e) :
    Tidy t (c.step e) := by
  cases e with
  | waitNextPacket => exact h.releaseCurrent
  | datagram a => exact h.iterate hlegal horderly

lemma tidy_new (t : StreamType) (selfRecovering : Bool) :
    Tidy t { selfRecovering := selfRecovering } := by
  have hreset : ∀ i, (({ selfRecovering := selfRecovering : PyroStreamClient }.stream t).get i).isReset =
      true := by
    intro i
    cases t <;> cases i <;> rfl
  refine ⟨fun i hi => ?_, by cases t <;> rfl, fun hc => by simp at hc, fun _ => ⟨fun _ => hreset .second, ?_, ?_⟩⟩
  · rw [hreset] at hi
    cases hi
  · intro hi
    have hfirst := hreset .first
    simp only [Stream.get] at hfirst
    rw [hfirst] at hi
    cases hi
  · intro _ i hi
    rw [hreset] at hi
    cases hi

/-- In every run in which the progress reports get through, and no packet is put in front of
another one that is empty or half of the sequence range away, both streams have their slots in
order whenever `iterate` starts, and the assertion of `get_stream_packet` holds. -/
theorem slots_in_order (selfRecovering : Bool) (events : List ClientEvent)
    (hlegal : Runs.Along step Legal { selfRecovering := selfRecovering } events)
    (horderly : Runs.Along step Orderly { selfRecovering := selfRecovering } events) :
    let c := events.foldl step { selfRecovering := selfRecovering }
    c.current = none → ∀ t, (c.stream t).InOrder ∧ (c.stream t).fault = none := by
  intro c hnone t
  have htidy : Tidy t c := (hlegal.and horderly).invariant (tidy_new t selfRecovering)
    (fun _ _ h he => h.step he.1 he.2)
  exact ⟨htidy.inOrder (by rw [hnone]; simp), htidy.fault⟩

/-- The first datagram of a video packet. -/
def firstDatagram (number : Nat) (payloadSize : BitVec 32) : Arrival where
  datagram :=
    { size := payloadHeaderSize + 1
      header := {
        payloadSize := payloadSize
        encoded := BitVec.ofNat 32 (number * 16) ||| payloadPacketBeginBit }
      buffer := fun _ => 0 }
  number := number

/-- Packet 4 is put in front of packet 5, completes and is released. -/
theorem slots_in_order_overtaken :
    let events := [ClientEvent.datagram (firstDatagram 5 2000), .datagram (firstDatagram 4 1), .waitNextPacket]
    ((events.foldl step {}).stream .video).InOrder ∧ ((events.foldl step {}).stream .video).fault = none := by
  intro events
  exact slots_in_order false events (by decide) (by decide) (by decide) .video

/-- An empty packet 4 in front of packet 5 fails the assertion; packet 8192 in front of packet 0
is not older than it; and a packet stays in its slot when the progress report cannot be sent. -/
theorem slots_out_of_order :
    let empty := [ClientEvent.datagram (firstDatagram 5 2000), .datagram (firstDatagram 4 0)]
    let half := [ClientEvent.datagram (firstDatagram 0 2000), .datagram (firstDatagram 8192 2000)]
    let unsent := [ClientEvent.datagram { firstDatagram 5 1 with reportDue := true, reportSent := false },
      .waitNextPacket]
    (Runs.Along step Legal {} empty ∧ (empty.foldl step {}).current = none ∧
        ¬((empty.foldl step {}).stream .video).InOrder ∧
        (((empty ++ [ClientEvent.datagram (firstDatagram 6 1)]).foldl step {}).stream .video).fault =
          some .assertion) ∧
      (Runs.Along step Legal {} half ∧ (half.foldl step {}).current = none ∧
        ¬((half.foldl step {}).stream .video).InOrder) ∧
      Runs.Along step Legal {} unsent ∧ (unsent.foldl step {}).current = none ∧
        ¬((unsent.foldl step {}).stream .video).InOrder := by
  intro empty half unsent
  refine ⟨⟨by decide, by decide, ?_, by decide⟩, ⟨by decide, by decide, ?_⟩, by decide, by decide, ?_⟩
  · intro h
    exact absurd (h.front (by decide)) (by decide)
  · intro h
    exact absurd (h.order (by decide) (by decide)) (by decide)
  · intro h
    exact absurd (h.newer (by decide) .first (by decide)) (by decide)

end PyroStreamClient

end PyroFling
