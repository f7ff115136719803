import PyroFling.Client

/-!
# Delivery of a stream

A client hands out the packets of a stream one by one, whatever the network does to the
datagrams: in the order of their numbers, none of them twice, and with every packet in between
counted as dropped. The sequence numbers on the wire have 14 bits only, so that datagrams must
not be older or newer than half of that range. A packet that completes when a progress report is due
that cannot be sent is counted, but not handed out.
-/

namespace PyroFling

namespace ReconstructedPacket

@[simp] lemma advance_packetSeq (p : ReconstructedPacket) (header : PayloadHeader) :
    (p.advance header).packetSeq = p.packetSeq ∧ (p.advance header).number = p.number := by
  unfold advance
  simp only
  split <;> exact ⟨rfl, rfl⟩

@[simp] lemma prepareDecode_packetSeq (p : ReconstructedPacket) (header : PayloadHeader) :
    (p.prepareDecode header).packetSeq = p.packetSeq ∧
      (p.prepareDecode header).number = p.number := by
  unfold prepareDecode
  split <;> split <;> simp [beginPacket]

@[simp] lemma addPayloadData_packetSeq (p : ReconstructedPacket) (data : ByteMemory.Bytes)
    (size : Nat) :
    (p.addPayloadData data size).packetSeq = p.packetSeq ∧
      (p.addPayloadData data size).number = p.number := by
  unfold addPayloadData
  split
  · exact ⟨rfl, rfl⟩
  · simp only
    split <;> exact ⟨rfl, rfl⟩

@[simp] lemma addFecData_packetSeq (p : ReconstructedPacket) (subseq : BitVec 32)
    (data : ByteMemory.Bytes) :
    (p.addFecData subseq data).packetSeq = p.packetSeq ∧
      (p.addFecData subseq data).number = p.number := by
  unfold addFecData
  split
  · exact ⟨rfl, rfl⟩
  · simp only
    split
    · split <;> exact ⟨rfl, rfl⟩
    · exact ⟨rfl, rfl⟩

lemma feed_packetSeq (p : ReconstructedPacket) (d : Datagram) :
    (p.feed d).2.packetSeq = p.packetSeq ∧ (p.feed d).2.number = p.number := by
  unfold feed
  simp only
  split
  · split <;> simp
  · simp

end ReconstructedPacket

namespace Stream

variable {s : Stream} {start : BitVec 32}

/-- Every slot in use carries the sequence number of its packet. -/
def Numbered (start : BitVec 32) (s : Stream) : Prop :=
  ∀ i, (s.get i).isReset = false → (s.get i).packetSeq = wireSeq start (s.get i).number

/-- The packet number `p` is less than half of the sequence range away from the slots in use. -/
def Near (s : Stream) (p : Nat) : Prop :=
  ∀ i, (s.get i).isReset = false → p < (s.get i).number + 2 ^ 13 ∧ (s.get i).number < p + 2 ^ 13

@[simp] lemma get_set_self (s : Stream) (i : SlotIndex) (p : ReconstructedPacket) :
    (s.set i p).get i = p := by cases i <;> rfl

lemma get_set_ne (s : Stream) {i j : SlotIndex} (p : ReconstructedPacket) (h : j ≠ i) :
    (s.set i p).get j = s.get j := by cases i <;> cases j <;> simp_all [set, get]

lemma Numbered.set (h : Numbered start s) (i : SlotIndex) {p : ReconstructedPacket}
    (hp : p.packetSeq = wireSeq start p.number) : Numbered start (s.set i p) := by
  intro j hj
  by_cases hji : j = i
  · subst hji
    rwa [get_set_self]
  · rw [get_set_ne s p hji] at hj ⊢
    exact h j hj

lemma Numbered.swap (h : Numbered start s) : Numbered start s.swap
  | .first => h .second
  | .second => h .first

/-- Two packets close enough to each other have the same sequence number only if they are the
same. -/
lemma Numbered.eq_of_packetSeq (h : Numbered start s) {i : SlotIndex}
    (hi : (s.get i).isReset = false) {p : Nat} (hnear : Near s p)
    (hseq : (s.get i).packetSeq = wireSeq start p) : (s.get i).number = p := by
  obtain ⟨hlt, hgt⟩ := hnear i hi
  have hdelta := payloadGetPacketSeqDelta_wireSeq start hlt hgt
  rw [← hseq, h i hi] at hdelta
  have hself : payloadGetPacketSeqDelta (wireSeq start (s.get i).number)
      (wireSeq start (s.get i).number) = 0 := by
    have := payloadGetPacketSeqDelta_wireSeq start (p := (s.get i).number) (q := (s.get i).number)
      (by omega) (by omega)
    simpa using this
  omega

/-- The slot that `get_stream_packet` returns carries the sequence number it was asked for. -/
lemma getStreamPacket_packetSeq (s : Stream) (packetSeq : BitVec 32) (number : Nat) :
    (s.getStreamPacket packetSeq number).2.lastCompletedSeq = s.lastCompletedSeq ∧
      ∀ i, (s.getStreamPacket packetSeq number).1 = some i →
        ((s.getStreamPacket packetSeq number).2.get i).packetSeq = packetSeq := by
  unfold getStreamPacket
  split_ifs with hfirst hfound hsecond holder hfound' hold haged <;>
    refine ⟨rfl, fun i hi => ?_⟩ <;> cases hi
  all_goals first
    | rfl
    | exact hfound
    | exact hfound'

/-- What `get_stream_packet` promises about the slot it returns for packet `p`. -/
structure Claims (start : BitVec 32) (p : Nat) (s : Stream) (r : Option SlotIndex × Stream) :
    Prop where
  last : r.2.lastCompletedSeq = s.lastCompletedSeq ∧
    r.2.lastCompletedNumber = s.lastCompletedNumber
  numbered : Numbered start r.2
  slot : ∀ i, r.1 = some i → (r.2.get i).packetSeq = wireSeq start p ∧ (r.2.get i).number = p

lemma Numbered.claims_start {s' : Stream} (h : Numbered start s') (i : SlotIndex) (p : Nat)
    (hlast : s'.lastCompletedSeq = s.lastCompletedSeq ∧
      s'.lastCompletedNumber = s.lastCompletedNumber) :
    Claims start p s (some i, s'.start i (wireSeq start p) p) := by
  refine ⟨?_, h.set i rfl, fun j hj => ?_⟩
  · cases i <;> exact hlast
  · obtain rfl := Option.some.inj hj
    simp [Stream.start]

lemma Numbered.claims_found (h : Numbered start s) {i : SlotIndex}
    (hi : (s.get i).isReset = false) {p : Nat} (hnear : Near s p)
    (hseq : (s.get i).packetSeq = wireSeq start p) : Claims start p s (some i, s) := by
  refine ⟨⟨rfl, rfl⟩, h, fun j hj => ?_⟩
  obtain rfl := Option.some.inj hj
  exact ⟨hseq, h.eq_of_packetSeq hi hnear hseq⟩

lemma getStreamPacket_spec (h : Numbered start s) {p : Nat} (hnear : Near s p) :
    Claims start p s (s.getStreamPacket (wireSeq start p) p) := by
  unfold getStreamPacket
  split_ifs with hfirst hfound hsecond holder hfound' hold haged
  · have hfault : ∀ f, Numbered start { s with fault := f } := fun _ i hi => h i hi
    exact (hfault _).claims_start .first p ⟨rfl, rfl⟩
  · exact h.claims_found (i := .first) (by simpa [get] using hfirst) hnear hfound
  · exact h.swap.claims_start .first p ⟨rfl, rfl⟩
  · exact h.claims_start .second p ⟨rfl, rfl⟩
  · exact h.claims_found (i := .second) (by simpa [get] using hsecond) hnear hfound'
  · exact ⟨⟨rfl, rfl⟩, h, fun i hi => absurd hi (by simp)⟩
  · exact h.claims_start .first p ⟨rfl, rfl⟩
  · exact h.swap.claims_start .second p ⟨rfl, rfl⟩

end Stream

namespace PyroStreamClient

variable {c : PyroStreamClient} {t : StreamType}

@[simp] lemma stream_setStream_self (c : PyroStreamClient) (t : StreamType) (s : Stream) :
    (c.setStream t s).stream t = s := by cases t <;> rfl

lemma stream_setStream_ne (c : PyroStreamClient) {t u : StreamType} (s : Stream) (h : u ≠ t) :
    (c.setStream t s).stream u = c.stream u := by
  cases t <;> cases u <;> simp_all [setStream, stream]

@[simp] lemma totalDropped_setStream (c : PyroStreamClient) (t u : StreamType) (s : Stream) :
    (c.setStream t s).totalDropped u = c.totalDropped u := by cases t <;> cases u <;> rfl

@[simp] lemma current_setStream (c : PyroStreamClient) (t : StreamType) (s : Stream) :
    (c.setStream t s).current = c.current := by cases t <;> rfl

/-- Completing a packet counts what was dropped since the last one, and hands the packet out if
the progress report does not fail. -/
structure Completes (c : PyroStreamClient) (t : StreamType) (r : Iteration × PyroStreamClient) :
    Prop where
  outcome : r.1 = .ok ∨ r.1 = .reportFailed
  current : r.1 = .ok → r.2.current = some t
  stream : r.2.stream t = { c.stream t with
    lastCompletedSeq := (c.stream t).first.packetSeq
    lastCompletedNumber := (c.stream t).first.number }
  dropped : r.2.totalDropped t =
    c.totalDropped t + if (c.stream t).hasCompleted then ((c.stream t).lastDelta - 1).toNat else 0
  other : ∀ u, u ≠ t → r.2.stream u = c.stream u ∧ r.2.totalDropped u = c.totalDropped u

/-- The streams and their counters are the same. -/
def Keeps (c c' : PyroStreamClient) : Prop :=
  ∀ u, c'.stream u = c.stream u ∧ c'.totalDropped u = c.totalDropped u

lemma Keeps.trans {c₁ c₂ c₃ : PyroStreamClient} (h : Keeps c₁ c₂) (h' : Keeps c₂ c₃) :
    Keeps c₁ c₃ := fun u => ⟨(h' u).1.trans (h u).1, (h' u).2.trans (h u).2⟩

lemma keeps_countKeyFrame (c : PyroStreamClient) (header : PayloadHeader) :
    Keeps c (c.countKeyFrame header) := by
  intro u
  unfold countKeyFrame
  split_ifs <;> cases u <;> exact ⟨rfl, rfl⟩

lemma keeps_checkSendProgress (c : PyroStreamClient) (due sent : Bool) :
    Keeps c (c.checkSendProgress due sent).2 := by
  intro u
  unfold checkSendProgress
  split_ifs <;> cases u <;> exact ⟨rfl, rfl⟩

lemma countDropped_spec (c : PyroStreamClient) (t u : StreamType) :
    (c.countDropped t).stream u = c.stream u ∧ (c.countDropped t).totalDropped u =
      c.totalDropped u +
        if u = t ∧ (c.stream t).hasCompleted then ((c.stream t).lastDelta - 1).toNat else 0 := by
  unfold countDropped
  simp only
  split_ifs <;> cases u <;> cases t <;> simp_all [addDropped, stream, totalDropped]

lemma countReceived_stream (c : PyroStreamClient) (t : StreamType) :
    (c.countReceived t).stream t = { c.stream t with
      lastCompletedSeq := (c.stream t).first.packetSeq
      lastCompletedNumber := (c.stream t).first.number } := by
  cases t <;> rfl

lemma countReceived_other (c : PyroStreamClient) {t u : StreamType} (h : u ≠ t) :
    (c.countReceived t).stream u = c.stream u := by
  cases t <;> cases u <;> simp_all [countReceived, setStream, stream]

lemma countReceived_totalDropped (c : PyroStreamClient) (t u : StreamType) :
    (c.countReceived t).totalDropped u = c.totalDropped u := by
  cases t <;> cases u <;> rfl

lemma completePacket_spec (t : StreamType) (a : Arrival)
    (h : ¬((c.stream t).hasCompleted ∧ (c.stream t).lastDelta < 1)) :
    Completes c t (c.completePacket t a) := by
  have hkeeps := (keeps_countKeyFrame ((c.countDropped t).countReceived t) a.datagram.header).trans
    (keeps_checkSendProgress _ a.reportDue a.reportSent)
  rw [completePacket, if_neg h]
  rcases hsend : (((c.countDropped t).countReceived t).countKeyFrame
    a.datagram.header).checkSendProgress a.reportDue a.reportSent with ⟨ok, c'⟩
  rw [hsend] at hkeeps
  have hstream : c'.stream t = { c.stream t with
      lastCompletedSeq := (c.stream t).first.packetSeq
      lastCompletedNumber := (c.stream t).first.number } := by
    rw [(hkeeps t).1, countReceived_stream, (countDropped_spec c t t).1]
  have hdropped : c'.totalDropped t = c.totalDropped t +
      if (c.stream t).hasCompleted then ((c.stream t).lastDelta - 1).toNat else 0 := by
    rw [(hkeeps t).2, countReceived_totalDropped, (countDropped_spec c t t).2]
    simp
  have hother : ∀ u, u ≠ t → c'.stream u = c.stream u ∧ c'.totalDropped u = c.totalDropped u := by
    intro u hu
    rw [(hkeeps u).1, (hkeeps u).2, countReceived_other _ hu, countReceived_totalDropped,
      (countDropped_spec c t u).1, (countDropped_spec c t u).2]
    simp [hu]
  cases ok with
  | false => exact ⟨Or.inr rfl, by simp, hstream, hdropped, hother⟩
  | true =>
    have hsame : Keeps c' { c' with current := some t } := by intro u; cases u <;> exact ⟨rfl, rfl⟩
    exact ⟨Or.inl rfl, fun _ => rfl, (hsame t).1.trans hstream, (hsame t).2.trans hdropped,
      fun u hu => ⟨(hsame u).1.trans (hother u hu).1, (hsame u).2.trans (hother u hu).2⟩⟩

/-- The slots after a packet has been fed, and moved to the front if it is complete. -/
def placed (s : Stream) (i : SlotIndex) (p : ReconstructedPacket) : Stream :=
  if i = .second then { s.set i p with first := (s.set i p).first.reset }.swap else s.set i p

lemma placed_spec (s : Stream) (i : SlotIndex) (p : ReconstructedPacket) :
    (placed s i p).first = p ∧ (placed s i p).lastCompletedSeq = s.lastCompletedSeq ∧
      (placed s i p).lastCompletedNumber = s.lastCompletedNumber := by
  cases i <;> exact ⟨rfl, rfl, rfl⟩

lemma placed_numbered {s : Stream} {start : BitVec 32} (h : s.Numbered start) (i : SlotIndex)
    {p : ReconstructedPacket} (hp : p.packetSeq = wireSeq start p.number) :
    (placed s i p).Numbered start := by
  have hset := h.set i hp
  cases i with
  | first => exact hset
  | second =>
    intro j hj
    cases j with
    | first => exact hp
    | second => exact absurd hj (by simp [placed, Stream.swap, Stream.get,
        ReconstructedPacket.reset, ReconstructedPacket.isReset])

/-- The slot that a datagram goes to, and the slots once it has been claimed. -/
def claimed (c : PyroStreamClient) (t : StreamType) (a : Arrival) : Option SlotIndex × Stream :=
  (c.stream t).getStreamPacket (payloadGetPacketSeq a.datagram.header.encoded) a.number

/-- A claimed slot with the datagram. -/
def fed (c : PyroStreamClient) (t : StreamType) (a : Arrival) (i : SlotIndex) :
    ReconstructedPacket := (((c.claimed t a).2.get i).feed a.datagram).2

/-- A datagram that is neither a duplicate nor very old. -/
def Fresh (c : PyroStreamClient) (t : StreamType) (a : Arrival) : Prop :=
  ¬((c.stream t).hasCompleted ∧ payloadGetPacketSeqDelta
    (payloadGetPacketSeq a.datagram.header.encoded) (c.stream t).lastCompletedSeq ≤ 0)

lemma receiveStream_cases (c : PyroStreamClient) (t : StreamType) (a : Arrival) :
    c.receiveStream t a = (.ok, c) ∨ c.Fresh t a ∧
      (((c.claimed t a).1 = none ∧ c.receiveStream t a = (.ok, c.setStream t (c.claimed t a).2)) ∨
      ∃ i, (c.claimed t a).1 = some i ∧
        ((∃ out, (out = .ok ∨ out = .invalidFecSize) ∧
          c.receiveStream t a = (out, c.setStream t ((c.claimed t a).2.set i (c.fed t a i)))) ∨
        c.receiveStream t a =
          (c.setStream t (placed (c.claimed t a).2 i (c.fed t a i))).completePacket t a)) := by
  by_cases hold : (c.stream t).hasCompleted ∧ payloadGetPacketSeqDelta
      (payloadGetPacketSeq a.datagram.header.encoded) (c.stream t).lastCompletedSeq ≤ 0
  · left
    simp only [receiveStream] at hold ⊢
    rw [if_pos hold]
  · refine Or.inr ⟨hold, ?_⟩
    unfold fed
    rcases hclaimed : c.claimed t a with ⟨_ | i, s⟩
    · rw [claimed] at hclaimed
      refine Or.inl ⟨rfl, ?_⟩
      simp only [receiveStream] at hold ⊢
      rw [if_neg hold, hclaimed]
    · rw [claimed] at hclaimed
      refine Or.inr ⟨i, rfl, ?_⟩
      simp only [receiveStream] at hold ⊢
      rw [if_neg hold, hclaimed]
      rcases hfeed : (s.get i).feed a.datagram with ⟨ok, p⟩
      cases ok with
      | false => exact Or.inl ⟨_, Or.inr rfl, by simp only [hfeed]⟩
      | true =>
        by_cases hcomplete : p.isComplete
        · exact Or.inr (by simp only [hfeed, hcomplete, if_true, placed])
        · exact Or.inl ⟨_, Or.inl rfl, by simp only [hfeed, hcomplete]; rfl⟩

/-- The packet that completes is newer than the last one. -/
lemma lastDelta_placed {a : Arrival} {i : SlotIndex} (hfresh : c.Fresh t a)
    (hclaimed : (c.claimed t a).1 = some i) :
    ¬((placed (c.claimed t a).2 i (c.fed t a i)).hasCompleted ∧
      (placed (c.claimed t a).2 i (c.fed t a i)).lastDelta < 1) := by
  rintro ⟨hseen, hdelta⟩
  obtain ⟨hlast, hseq⟩ := (c.stream t).getStreamPacket_packetSeq
    (payloadGetPacketSeq a.datagram.header.encoded) a.number
  obtain ⟨hfirst, hlast', -⟩ := placed_spec (c.claimed t a).2 i (c.fed t a i)
  have hsame : (placed (c.claimed t a).2 i (c.fed t a i)).lastCompletedSeq =
      (c.stream t).lastCompletedSeq := hlast'.trans hlast
  apply hfresh
  simp only [Stream.hasCompleted, hsame] at hseen
  refine ⟨by simpa [Stream.hasCompleted] using hseen, ?_⟩
  have hslot : (c.fed t a i).packetSeq = payloadGetPacketSeq a.datagram.header.encoded :=
    (ReconstructedPacket.feed_packetSeq _ _).1.trans (hseq i hclaimed)
  rw [Stream.lastDelta, hsame, hfirst, hslot] at hdelta
  omega

/-- The branch for a completed packet that is not newer than the last one is never taken. -/
lemma receiveStream_ne_invalidDelta (c : PyroStreamClient) (t : StreamType) (a : Arrival) :
    (c.receiveStream t a).1 ≠ .invalidDelta := by
  rcases c.receiveStream_cases t a with heq | ⟨hfresh, ⟨-, heq⟩ | ⟨i, hi, ⟨out, hout, heq⟩ | heq⟩⟩
  · simp [heq]
  · simp [heq]
  · rw [heq]
    rcases hout with rfl | rfl <;> simp
  · rw [heq]
    have hdelta := lastDelta_placed hfresh hi
    rcases (completePacket_spec (c := c.setStream t _) t a (by simpa using hdelta)).outcome with h | h
    · simp [h]
    · simp [h]

lemma receiveStream_other (c : PyroStreamClient) {t u : StreamType} (a : Arrival) (h : u ≠ t) :
    (c.receiveStream t a).2.stream u = c.stream u ∧
      (c.receiveStream t a).2.totalDropped u = c.totalDropped u := by
  rcases c.receiveStream_cases t a with heq | ⟨hfresh, ⟨-, heq⟩ | ⟨i, hi, ⟨out, -, heq⟩ | heq⟩⟩ <;>
    rw [heq]
  · exact ⟨rfl, rfl⟩
  · exact ⟨stream_setStream_ne c _ h, totalDropped_setStream c t u _⟩
  · exact ⟨stream_setStream_ne c _ h, totalDropped_setStream c t u _⟩
  · have hdelta := lastDelta_placed hfresh hi
    obtain ⟨hstream, hdropped⟩ :=
      (completePacket_spec (c := c.setStream t _) t a (by simpa using hdelta)).other u h
    exact ⟨hstream.trans (stream_setStream_ne c _ h),
      hdropped.trans (totalDropped_setStream c t u _)⟩

/-- Only a completed packet is handed out, and it is one of the stream of the datagram. -/
lemma receiveStream_current (c : PyroStreamClient) (t : StreamType) (a : Arrival)
    (h : c.current = none) (hok : (c.receiveStream t a).1 ≠ .reportFailed) :
    (c.receiveStream t a).2.current = none ∨ (c.receiveStream t a).2.current = some t := by
  rcases c.receiveStream_cases t a with heq | ⟨hfresh, ⟨-, heq⟩ | ⟨i, hi, ⟨out, -, heq⟩ | heq⟩⟩ <;>
    rw [heq] at hok ⊢
  · exact Or.inl h
  · exact Or.inl (by simpa using h)
  · exact Or.inl (by simpa using h)
  · have hdelta := lastDelta_placed hfresh hi
    have hdone := completePacket_spec (c := c.setStream t _) t a (by simpa using hdelta)
    exact Or.inr (hdone.current (hdone.outcome.resolve_right hok))

/-! ### Sessions -/

/-- What the network may do to stream `t`, whose first packet has sequence number `start`: a
datagram that arrives belongs to packet `a.number`, which is less than half of the sequence range
away from the packets in the slots and from the last completed one. Ping replies and the
datagrams of the other stream are arbitrary. -/
def Plausible (t : StreamType) (start : BitVec 32) (c : PyroStreamClient) (a : Arrival) : Prop :=
  isPing a.datagram.header = false → streamOf a.datagram.header = t →
    payloadGetPacketSeq a.datagram.header.encoded = wireSeq start a.number ∧
    (c.stream t).Near a.number ∧
    ((c.stream t).hasCompleted → a.number < (c.stream t).lastCompletedNumber + 2 ^ 13 ∧
      (c.stream t).lastCompletedNumber < a.number + 2 ^ 13)

/-- A packet that has completed, and whether it was handed out. -/
structure Completed where
  stream : StreamType
  number : Nat
  handedOut : Bool
  deriving DecidableEq

/-- The packet that an arrival completes, if it does. -/
def completion (c : PyroStreamClient) (a : Arrival) : List Completed :=
  let r := c.iterate a
  let t := streamOf a.datagram.header
  if r.1 = .reportFailed then [⟨t, (r.2.stream t).first.number, false⟩]
  else
    match r.2.current with
    | some t => [⟨t, (r.2.stream t).first.number, true⟩]
    | none => []

/-- A client that calls `wait_next_packet` over and over, with the packets that have completed, the
latest first. It may go on after any error. -/
inductive Session (t : StreamType) (start : BitVec 32) : PyroStreamClient → List Completed → Prop
  | begin (selfRecovering : Bool) : Session t start { selfRecovering := selfRecovering } []
  | wait {c log} : Session t start c log → c.current ≠ none → Session t start c.releaseCurrent log
  | receive {c log a} : Session t start c log → c.current = none → Plausible t start c a →
      Session t start (c.iterate a).2 (c.completion a ++ log)

/-- The numbers of the packets that have completed on a stream, the latest first. -/
def completedNumbers (t : StreamType) (log : List Completed) : List Nat :=
  (log.filter fun d => d.stream = t).map Completed.number

/-- Those of the packets that were handed out. -/
def numbers (t : StreamType) (log : List Completed) : List Nat :=
  (log.filter fun d => d.stream = t ∧ d.handedOut = true).map Completed.number

lemma numbers_sublist (t : StreamType) (log : List Completed) :
    List.Sublist (numbers t log) (completedNumbers t log) := by
  apply List.Sublist.map
  apply List.monotone_filter_right
  intro d hd
  simp only [decide_eq_true_eq] at hd ⊢
  exact hd.1

lemma numbers_eq {log : List Completed} (h : ∀ d ∈ log, d.stream = t → d.handedOut = true) :
    numbers t log = completedNumbers t log := by
  rw [numbers, completedNumbers]
  congr 1
  apply List.filter_congr
  intro d hd
  rw [decide_eq_decide]
  exact and_iff_left_of_imp (h d hd)

/-- The state of one stream after the packets in `l` have completed. -/
structure Delivered (start : BitVec 32) (t : StreamType) (c : PyroStreamClient) (l : List Nat) :
    Prop where
  numbered : (c.stream t).Numbered start
  fresh : l = [] → (c.stream t).hasCompleted = false ∧ c.totalDropped t = 0
  last : ∀ h : l ≠ [], (c.stream t).lastCompletedSeq = wireSeq start (l.head h) ∧
    (c.stream t).lastCompletedNumber = l.head h ∧
    l.length + c.totalDropped t + l.getLast h = l.head h + 1
  sorted : l.Pairwise (· > ·)

lemma wireSeq_ne_allOnes (start : BitVec 32) (p : Nat) : wireSeq start p ≠ BitVec.allOnes 32 := by
  intro h
  have hlt : (wireSeq start p).toNat < 2 ^ 14 := by
    rw [wireSeq, toNat_and_payloadSeqMask]
    exact Nat.mod_lt _ (by norm_num)
  rw [h] at hlt
  revert hlt
  decide

variable {start : BitVec 32} {l : List Nat}

lemma Delivered.congr {c' : PyroStreamClient} (h : Delivered start t c l)
    (hlast : (c'.stream t).lastCompletedSeq = (c.stream t).lastCompletedSeq ∧
      (c'.stream t).lastCompletedNumber = (c.stream t).lastCompletedNumber)
    (hdropped : c'.totalDropped t = c.totalDropped t)
    (hnumbered : (c'.stream t).Numbered start) : Delivered start t c' l := by
  refine ⟨hnumbered, ?_, ?_, h.sorted⟩
  · intro hl
    rw [Stream.hasCompleted, hlast.1, hdropped]
    exact h.fresh hl
  · intro hl
    rw [hlast.1, hlast.2, hdropped]
    exact h.last hl

/-- A newer packet completes, and the gap is counted. -/
lemma Delivered.cons {c' : PyroStreamClient} {a : Arrival} (h : Delivered start t c l)
    (hnumbered : (c'.stream t).Numbered start)
    (hstream : (c'.stream t).lastCompletedSeq = wireSeq start a.number ∧
      (c'.stream t).lastCompletedNumber = a.number)
    (hdropped : c'.totalDropped t = c.totalDropped t +
      if decide ((c.stream t).lastCompletedSeq ≠ BitVec.allOnes 32) = true then
        (payloadGetPacketSeqDelta (wireSeq start a.number) (c.stream t).lastCompletedSeq - 1).toNat
      else 0)
    (hlast : (c.stream t).hasCompleted → a.number < (c.stream t).lastCompletedNumber + 2 ^ 13 ∧
      (c.stream t).lastCompletedNumber < a.number + 2 ^ 13)
    (hfresh : c.Fresh t a)
    (hseq : payloadGetPacketSeq a.datagram.header.encoded = wireSeq start a.number) :
    Delivered start t c' (a.number :: l) := by
  by_cases hl : l = []
  · obtain ⟨hnone, hzero⟩ := h.fresh hl
    have hnone' : decide ((c.stream t).lastCompletedSeq ≠ BitVec.allOnes 32) = false := hnone
    rw [hnone', hzero] at hdropped
    subst hl
    refine ⟨hnumbered, by simp, fun _ => ⟨hstream.1, hstream.2, ?_⟩, by simp⟩
    simp [hdropped]
    omega
  · obtain ⟨hseq', hnumber, hcount⟩ := h.last hl
    have hseen : (c.stream t).hasCompleted = true := by
      rw [Stream.hasCompleted, hseq', decide_eq_true_eq]
      exact wireSeq_ne_allOnes start _
    obtain ⟨hlt, hgt⟩ := hlast hseen
    rw [hnumber] at hlt hgt
    have hdelta := payloadGetPacketSeqDelta_wireSeq start hlt hgt
    -- The datagram was not taken for an old one.
    have hnew : l.head hl < a.number := by
      by_contra hle
      apply hfresh
      rw [hseq, hseq', hdelta]
      exact ⟨hseen, by omega⟩
    have hseen' : decide ((c.stream t).lastCompletedSeq ≠ BitVec.allOnes 32) = true := hseen
    rw [hseen', if_pos rfl, hseq', hdelta] at hdropped
    refine ⟨hnumbered, by simp, fun _ => ⟨hstream.1, hstream.2, ?_⟩, ?_⟩
    · rw [List.getLast_cons hl, List.length_cons, List.head_cons, hdropped]
      omega
    · refine List.pairwise_cons.mpr ⟨fun x hx => ?_, h.sorted⟩
      obtain ⟨y, l', rfl⟩ := List.exists_cons_of_ne_nil hl
      rcases List.mem_cons.mp hx with rfl | hx
      · exact hnew
      · exact lt_trans ((List.pairwise_cons.mp h.sorted).1 x hx) hnew

/-- Nothing completes, or the packet of the datagram does. -/
lemma Delivered.receiveStream {a : Arrival} (h : Delivered start t c l)
    (hseq : payloadGetPacketSeq a.datagram.header.encoded = wireSeq start a.number)
    (hnear : (c.stream t).Near a.number)
    (hlast : (c.stream t).hasCompleted → a.number < (c.stream t).lastCompletedNumber + 2 ^ 13 ∧
      (c.stream t).lastCompletedNumber < a.number + 2 ^ 13)
    (hcurrent : c.current = none) :
    ((c.receiveStream t a).1 ≠ .reportFailed ∧ (c.receiveStream t a).2.current = none ∧
        Delivered start t (c.receiveStream t a).2 l) ∨
      (((c.receiveStream t a).1 = .ok → (c.receiveStream t a).2.current = some t) ∧
        ((c.receiveStream t a).1 = .ok ∨ (c.receiveStream t a).1 = .reportFailed) ∧
        Delivered start t (c.receiveStream t a).2
          (((c.receiveStream t a).2.stream t).first.number :: l)) := by
  have hclaims : Stream.Claims start a.number (c.stream t) (c.claimed t a) := by
    unfold claimed
    rw [hseq]
    exact Stream.getStreamPacket_spec h.numbered hnear
  rcases c.receiveStream_cases t a with heq | ⟨hfresh, ⟨-, heq⟩ | ⟨i, hi, ⟨out, hout, heq⟩ | heq⟩⟩ <;>
    rw [heq]
  · exact Or.inl ⟨by simp, hcurrent, h⟩
  · refine Or.inl ⟨by simp, by simpa using hcurrent, h.congr ?_ (by simp) ?_⟩
    · simpa using hclaims.last
    · simpa using hclaims.numbered
  · have hslot : (c.fed t a i).packetSeq = wireSeq start (c.fed t a i).number := by
      rw [fed, (ReconstructedPacket.feed_packetSeq _ _).1, (ReconstructedPacket.feed_packetSeq _ _).2,
        (hclaims.slot i hi).1, (hclaims.slot i hi).2]
    refine Or.inl ⟨by rcases hout with rfl | rfl <;> simp, by simpa using hcurrent, h.congr ?_ (by simp) ?_⟩
    · rw [stream_setStream_self]
      cases i <;> exact hclaims.last
    · rw [stream_setStream_self]
      exact hclaims.numbered.set i hslot
  · -- The packet is complete and newer than the last one.
    have hdelta := lastDelta_placed hfresh hi
    have hdone := completePacket_spec (c := c.setStream t (placed (c.claimed t a).2 i (c.fed t a i)))
      t a (by simpa using hdelta)
    obtain ⟨hfirst, hplaced, -⟩ := placed_spec (c.claimed t a).2 i (c.fed t a i)
    have hnumber : (c.fed t a i).number = a.number :=
      (ReconstructedPacket.feed_packetSeq _ _).2.trans (hclaims.slot i hi).2
    have hpacket : (c.fed t a i).packetSeq = wireSeq start a.number :=
      (ReconstructedPacket.feed_packetSeq _ _).1.trans (hclaims.slot i hi).1
    have hnumbered := placed_numbered hclaims.numbered i (hpacket.trans (by rw [hnumber]))
    have hold : (placed (c.claimed t a).2 i (c.fed t a i)).lastCompletedSeq =
        (c.stream t).lastCompletedSeq := hplaced.trans hclaims.last.1
    have hstream := hdone.stream
    have hdropped := hdone.dropped
    simp only [stream_setStream_self, totalDropped_setStream, hfirst, hnumber, hpacket,
      Stream.lastDelta, Stream.hasCompleted, hold] at hstream hdropped
    refine Or.inr ⟨hdone.current, hdone.outcome, ?_⟩
    rw [show ((_ : Stream).first.number) = a.number by rw [hstream, hnumber]]
    refine h.cons ?_ ⟨by rw [hstream], by rw [hstream]⟩ hdropped hlast hfresh hseq
    rw [hdone.stream, stream_setStream_self]
    intro j hj
    cases j with
    | first => exact hnumbered .first hj
    | second => exact hnumbered .second hj

lemma Delivered.releaseCurrent (h : Delivered start t c l) : Delivered start t c.releaseCurrent l := by
  unfold PyroStreamClient.releaseCurrent
  cases hcurrent : c.current with
  | none => exact h
  | some u =>
    simp only
    by_cases hut : t = u
    · subst hut
      refine h.congr ?_ ?_ ?_
      · cases t <;> exact ⟨rfl, rfl⟩
      · cases t <;> rfl
      · have hswap := h.numbered.swap
        intro j hj
        cases j with
        | first => cases t <;> exact hswap .first hj
        | second =>
          exfalso
          cases t <;> simp [setStream, stream, Stream.get, ReconstructedPacket.reset,
            ReconstructedPacket.isReset] at hj
    · have hstream : ({ c.setStream u { (c.stream u).swap with
          second := (c.stream u).swap.second.reset } with current := none }).stream t = c.stream t := by
        cases t <;> cases u <;> simp_all [setStream, stream]
      refine h.congr ?_ ?_ ?_
      · rw [hstream]; exact ⟨rfl, rfl⟩
      · cases t <;> cases u <;> rfl
      · rw [hstream]; exact h.numbered

/-- A datagram of another stream completes nothing on this one. -/
lemma completedNumbers_other (c : PyroStreamClient) {a : Arrival} (log : List Completed)
    (hiterate : c.iterate a = c.receiveStream (streamOf a.datagram.header) a)
    (ht : t ≠ streamOf a.datagram.header) (hnone : c.current = none) :
    completedNumbers t (c.completion a ++ log) = completedNumbers t log := by
  have hother : ¬streamOf a.datagram.header = t := Ne.symm ht
  rw [completion, hiterate]
  split_ifs with hfailed
  · simp [completedNumbers, hother]
  · rcases c.receiveStream_current _ a hnone hfailed with hcur | hcur
    · simp [hcur]
    · simp [hcur, completedNumbers, hother]

/-- Every session keeps the books of the stream in order. -/
lemma Session.delivered {log : List Completed} (h : Session t start c log) :
    Delivered start t c (completedNumbers t log) := by
  induction h with
  | begin selfRecovering =>
    refine ⟨fun i hi => absurd hi ?_, fun _ => ?_, by simp [completedNumbers], by simp [completedNumbers]⟩
    · cases t <;> cases i <;> simp [stream, Stream.get, ReconstructedPacket.isReset]
    · cases t <;> simp [stream, totalDropped, Stream.hasCompleted]
  | wait _ _ ih => exact ih.releaseCurrent
  | @receive c log a _ hnone hplausible ih =>
    have hkeep : ∀ out, c.iterate a = (out, c) → out ≠ .reportFailed →
        Delivered start t (c.iterate a).2 (completedNumbers t (c.completion a ++ log)) := by
      intro out heq hout
      have hnothing : c.completion a = [] := by
        rw [completion, heq]
        dsimp only
        rw [if_neg hout, hnone]
      rw [hnothing, heq]
      exact ih
    by_cases hsize : a.datagram.size < payloadHeaderSize ∨ a.datagram.size > maxUdpDatagramSize
    · exact hkeep .invalidSize (by rw [iterate, if_pos hsize]) (by simp)
    by_cases hping : isPing a.datagram.header = true
    · exact hkeep .ok (by rw [iterate, if_neg hsize, if_pos hping]) (by simp)
    by_cases haudio : ReconstructedPacket.isFec a.datagram.header = true ∧ isAudio a.datagram.header = true
    · exact hkeep .ok (by rw [iterate, if_neg hsize, if_neg hping, if_pos haudio]) (by simp)
    have hiterate : c.iterate a = c.receiveStream (streamOf a.datagram.header) a := by
      rw [iterate, if_neg hsize, if_neg hping, if_neg haudio]
    by_cases ht : t = streamOf a.datagram.header
    · obtain ⟨hseq, hnear, hlast⟩ := hplausible (by simpa using hping) ht.symm
      rw [completion, hiterate, ← ht]
      rcases ih.receiveStream hseq hnear hlast hnone with ⟨hok, hcur, hdel⟩ | ⟨hcur, hout, hdel⟩
      · rw [if_neg hok, hcur]
        exact hdel
      · rcases hout with hok | hfailed
        · rw [hok, if_neg (by simp), hcur hok]
          simpa [completedNumbers] using hdel
        · rw [if_pos hfailed]
          simpa [completedNumbers] using hdel
    · obtain ⟨hstream, hdropped⟩ := c.receiveStream_other a ht
      rw [completedNumbers_other c log hiterate ht hnone, hiterate]
      exact ih.congr (by rw [hstream]; exact ⟨rfl, rfl⟩) hdropped (hstream ▸ ih.numbered)

/-- In every session the packets of a stream are handed out with strictly increasing numbers, the
branch for an invalid packet delta is not taken, and what has completed and what was dropped add
up to the span of the numbers. If a progress report that was due could always be sent, what was handed
out is what has completed. -/
theorem stream_delivery {log : List Completed} (h : Session t start c log) :
    (numbers t log).reverse.Pairwise (· < ·) ∧
      (∀ a, (c.iterate a).1 ≠ .invalidDelta) ∧
      (∀ hne : completedNumbers t log ≠ [], (completedNumbers t log).length + c.totalDropped t =
        (completedNumbers t log).head hne - (completedNumbers t log).getLast hne + 1) ∧
      ((∀ d ∈ log, d.stream = t → d.handedOut = true) →
        ∀ hne : numbers t log ≠ [], (numbers t log).length + c.totalDropped t =
          (numbers t log).head hne - (numbers t log).getLast hne + 1) := by
  have hdelivered := h.delivered
  have hspan : ∀ hne : completedNumbers t log ≠ [], (completedNumbers t log).length + c.totalDropped t =
      (completedNumbers t log).head hne - (completedNumbers t log).getLast hne + 1 := by
    intro hne
    obtain ⟨-, -, hcount⟩ := hdelivered.last hne
    have hpos : 0 < (completedNumbers t log).length := List.length_pos_iff.mpr hne
    omega
  refine ⟨List.pairwise_reverse.mpr (hdelivered.sorted.sublist (numbers_sublist t log)), fun a => ?_, hspan,
    fun hall => ?_⟩
  · unfold iterate
    simp only
    split_ifs
    · simp
    · simp
    · simp
    · exact c.receiveStream_ne_invalidDelta _ a
  · rw [numbers_eq hall]
    exact hspan

/-- The only datagram of the one-byte video packet with a given number. -/
def tinyArrival (number : Nat) : Arrival where
  datagram :=
    { size := 25
      header := { payloadSize := 1, encoded := BitVec.ofNat 32 (number * 16) ||| payloadPacketBeginBit }
      buffer := fun _ => 0 }
  number := number

/-- Packets 3, 4 and 6 arrive, and the progress report that is due with packet 4 cannot be sent. -/
lemma session_unreported : ∃ c, Session .video 0 c
      [⟨.video, 6, true⟩, ⟨.video, 4, false⟩, ⟨.video, 3, true⟩] ∧ c.totalDropped .video = 1 := by
  let unsent : Arrival := { tinyArrival 4 with reportDue := true, reportSent := false }
  let c₁ := (({} : PyroStreamClient).iterate (tinyArrival 3)).2
  let c₂ := (c₁.releaseCurrent.iterate unsent).2
  let c₃ := (c₂.iterate (tinyArrival 6)).2
  let log₁ := ({} : PyroStreamClient).completion (tinyArrival 3) ++ []
  let log₂ := c₁.releaseCurrent.completion unsent ++ log₁
  let log₃ := c₂.completion (tinyArrival 6) ++ log₂
  have h₁ : Session .video 0 c₁ log₁ := by
    refine .receive (a := tinyArrival 3) (.begin false) rfl fun _ _ => ⟨by decide, ?_, by decide⟩
    intro i hi
    cases i <;> exact absurd hi (by decide)
  have h₂ : Session .video 0 c₂ log₂ := by
    refine .receive (a := unsent) (.wait h₁ (by decide)) (by decide) fun _ _ => ⟨by decide, ?_, by decide⟩
    intro i hi
    cases i <;> exact absurd hi (by decide)
  have h₃ : Session .video 0 c₃ log₃ := by
    refine .receive (a := tinyArrival 6) h₂ (by decide) fun _ _ => ⟨by decide, ?_, by decide⟩
    intro i hi
    cases i
    · exact ⟨by decide, by decide⟩
    · exact absurd hi (by decide)
  have hlog : log₃ = [⟨.video, 6, true⟩, ⟨.video, 4, false⟩, ⟨.video, 3, true⟩] := by decide
  exact ⟨c₃, hlog ▸ h₃, by decide⟩

/-- Packet 4 of that session is neither handed out nor counted as dropped. -/
theorem unreported_not_counted : ¬∀ (c : PyroStreamClient) (log : List Completed), Session .video 0 c log →
    ∀ hne : numbers .video log ≠ [], (numbers .video log).length + c.totalDropped .video =
      (numbers .video log).head hne - (numbers .video log).getLast hne + 1 := by
  intro h
  obtain ⟨c, hsession, hdropped⟩ := session_unreported
  have hspan := h c _ hsession (by decide)
  rw [hdropped] at hspan
  exact absurd hspan (by decide)

/-- The three packets of that session that complete, and the one that is dropped. -/
theorem stream_delivery_unreported : ∃ c log, Session .video 0 c log ∧ numbers .video log = [6, 3] ∧
    completedNumbers .video log = [6, 4, 3] ∧ 3 + c.totalDropped .video = 6 - 3 + 1 := by
  obtain ⟨c, hsession, -⟩ := session_unreported
  exact ⟨c, _, hsession, rfl, rfl, (stream_delivery hsession).2.2.1 (by decide)⟩

end PyroStreamClient

end PyroFling
