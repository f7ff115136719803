import PyroFling.PingReplies
import PyroFling.Proofs.GamepadOrder

/-!
# The clock estimate

What the client takes for the offset between its clock and that of the server, and how far that is off. The
time at which an answer was received is paired with the estimated time at which the ping was sent, so that the
estimate is late by the way back of the answer and half of the measured delay.
-/

namespace PyroFling

/-! ### Pings on the wire -/

/-- The datagram of a ping. -/
def pingMessage (seq : Nat) : List UInt8 := typeBytes messagePing ++ toLittleEndian 2 seq

/-- A ping uses up its number even if it cannot be written. -/
lemma sendGamepadState_ping (c : GamepadSender) (state : GamepadState) (gamepadWritten pingWritten : Bool) :
    let r := c.sendGamepadState state gamepadWritten pingWritten
    r.ping = none ∧ r.sender.pingSeq = c.pingSeq ∨
      r.ping = some (pingMessage (c.pingSeq.toNat % 256)) ∧ r.sender.pingSeq = c.pingSeq + 1 := by
  rw [GamepadSender.sendGamepadState]
  dsimp only
  split_ifs
  · exact Or.inl ⟨rfl, rfl⟩
  · exact Or.inr ⟨rfl, rfl⟩
  · exact Or.inl ⟨rfl, rfl⟩

namespace PyroStreamConnection

lemma handleUdpDatagram_ping (c : PyroStreamConnection) (pts : BitVec 64) (remote : RemoteAddress) (seq : Nat) :
    c.handleUdpDatagram pts remote (pingMessage seq) =
      (c, if c.udpRemote = remote ∧ c.kicked then [.replyToPing (pingReply (toLittleEndian 2 seq)) pts]
        else []) := by
  have hlength : (pingMessage seq).length = 10 := by
    rw [pingMessage, List.length_append, length_typeBytes, length_toLittleEndian]
    rfl
  have htype : messageType (pingMessage seq) = messagePing := messageType_typeBytes _ _
  have hpayload : (pingMessage seq).drop messageTypeSize = toLittleEndian 2 seq :=
    List.drop_left' (length_typeBytes _)
  rw [handleUdpDatagram, htype, hlength, hpayload]
  rfl

lemma packetSeq_ping (v : BitVec 32) :
    payloadGetPacketSeq (payloadKeyFrameBit ||| payloadStreamTypeBit |||
      (v &&& payloadSeqMask) <<< payloadPacketSeqOffset) = v &&& payloadSeqMask := by
  ext i hi
  simp only [payloadGetPacketSeq, payloadStreamTypeBit, payloadKeyFrameBit, payloadSeqMask,
    payloadPacketSeqOffset]
  interval_cases i <;> simp

lemma packetSeq_pingReply {seq : Nat} (h : seq < 256) :
    (payloadGetPacketSeq (pingReply (toLittleEndian 2 seq)).encoded).toNat = seq := by
  rw [pingReply, packetSeq_ping, List.take_of_length_le (length_toLittleEndian _ _).le,
    littleEndian_toLittleEndian, toNat_and_payloadSeqMask, BitVec.toNat_ofNat]
  omega

lemma isPing_pingReply (payload : List UInt8) : PyroStreamClient.isPing (pingReply payload) = true := by
  rw [PyroStreamClient.isPing, pingReply, decide_eq_true_iff]
  ext i hi
  simp only [payloadStreamTypeBit, payloadKeyFrameBit, payloadSeqMask, payloadPacketSeqOffset]
  interval_cases i <;> simp

/-- The time arrives as it was sent. -/
lemma referencePts_pingDatagram (header : PayloadHeader) (pts : BitVec 64) :
    PingClock.referencePts (pingDatagram header pts) = pts.toInt := by
  have hlo : (List.range 4).map (fun i => (pingDatagram header pts).buffer (0 + i)) =
      toLittleEndian 4 (pts.setWidth 32).toNat := by
    simp [pingDatagram, List.range_succ, toLittleEndian]
  have hhi : (List.range 4).map (fun i => (pingDatagram header pts).buffer (4 + i)) =
      toLittleEndian 4 ((pts >>> 32).setWidth 32).toNat := by
    simp [pingDatagram, List.range_succ, toLittleEndian]
  have hword : ∀ v : BitVec 32, BitVec.ofNat 64 (v.toNat % 256 ^ 4) = v.setWidth 64 := by
    intro v
    apply BitVec.eq_of_toNat_eq
    have hv := v.isLt
    rw [BitVec.toNat_ofNat, BitVec.toNat_setWidth]
    omega
  rw [PingClock.referencePts]
  dsimp only
  rw [hlo, hhi, littleEndian_toLittleEndian, littleEndian_toLittleEndian, hword, hword]
  congr 1
  ext i hi
  rw [BitVec.getElem_or, BitVec.getElem_setWidth, BitVec.getElem_shiftLeft, BitVec.getLsbD_setWidth,
    BitVec.getLsbD_eq_getElem hi]
  by_cases hlow : i < 32
  · simp [hlow]
  · have hadd : 32 + (i - 32) = i := by omega
    have hhigh : i - 32 < 32 := by omega
    simp [hlow, hadd, hhigh, hi]

end PyroStreamConnection

lemma sampleReferencePts_toInt {ns : Int} (hnonneg : 0 ≤ ns) (hlt : ns < 2 ^ 63) :
    (PyroStreamServer.sampleReferencePts ns).toInt = ns / 1000 := by
  rw [PyroStreamServer.sampleReferencePts, Int.tdiv_eq_ediv_of_nonneg hnonneg, BitVec.toInt_ofInt]
  apply Int.bmod_eq_of_le <;> omega

namespace PingClock

lemma iterate_pingDatagram (c : PingClock) (now : Int) {seq : Nat} (hseq : seq < 256) (pts : BitVec 64) :
    c.iterate now (PyroStreamConnection.pingDatagram
        (PyroStreamConnection.pingReply (toLittleEndian 2 seq)) pts) =
      { c with
        lastPingDelay := now - c.pingTimes seq
        lastReferencePts := pts.toInt - (now - c.pingTimes seq).tdiv 2000
        lastLocalPts := now.tdiv 1000 } := by
  have hmod : seq % 256 = seq := Nat.mod_eq_of_lt hseq
  have hsize : ∀ header : PayloadHeader,
      ¬((PyroStreamConnection.pingDatagram header pts).size < payloadHeaderSize ∨
        (PyroStreamConnection.pingDatagram header pts).size > maxUdpDatagramSize) := by
    intro header
    change ¬(payloadHeaderSize + pingStateExtendedSize < payloadHeaderSize ∨
      payloadHeaderSize + pingStateExtendedSize > maxUdpDatagramSize)
    decide
  rw [iterate, if_neg (hsize _), PyroStreamConnection.referencePts_pingDatagram]
  simp only [PyroStreamConnection.pingDatagram, PyroStreamConnection.isPing_pingReply,
    PyroStreamConnection.packetSeq_pingReply hseq, hmod, if_true, Nat.add_sub_cancel_left]

lemma iterate_other (c : PingClock) (now : Int) {d : Datagram} (h : PyroStreamClient.isPing d.header = false) :
    c.iterate now d = c := by
  rw [iterate, if_neg (Bool.eq_false_iff.1 h), ite_self]

end PingClock

/-! ### The exchange behind the estimate -/

namespace PingSession

open PyroStreamConnection (pingReply pingDatagram)

variable {s : PingSession}

/-- When the answer arrived, the time of its ping was stored and had not been overwritten. -/
def InTime (x : PingExchange) (storedAt : Int) : Prop := x.storedAt = some storedAt ∧ x.later < 256

instance (x : PingExchange) (storedAt : Int) : Decidable (InTime x storedAt) :=
  inferInstanceAs (Decidable (_ ∧ _))

/-- What the client knows comes from this exchange. -/
def Measured (s : PingSession) (x : PingExchange) (storedAt : Int) : Prop :=
  x.sentAt ≤ storedAt ∧ storedAt ≤ x.receivedAt ∧ s.client.lastPingDelay = x.receivedAt - storedAt ∧
    s.client.lastReferencePts = (x.servedAt + s.skew) / 1000 - (x.receivedAt - storedAt) / 2000 ∧
    s.client.lastLocalPts = x.receivedAt / 1000

/-- The client has no answer yet, or its last one came in time for this or not. -/
def Estimated (s : PingSession) : Option PingExchange → Prop
  | none => s.client.lastReferencePts = 0 ∧ s.client.lastLocalPts = 0
  | some x => x.sentAt ≤ x.servedAt ∧ x.servedAt ≤ x.receivedAt ∧
    ∀ storedAt, InTime x storedAt → s.Measured x storedAt

/-- What an answer on its way says. -/
structure Answers (s : PingSession) (r : PingReply) : Prop where
  number : r.number < s.pings.length
  sent : s.sentAt r.number ≤ r.servedAt
  served : r.servedAt ≤ s.now
  nonneg : 0 ≤ r.servedAt + s.skew
  fits : r.servedAt + s.skew < 2 ^ 63
  datagram : r.datagram = pingDatagram (pingReply (toLittleEndian 2 (r.number % 256)))
    (PyroStreamServer.sampleReferencePts (r.servedAt + s.skew))

/-- A time that has been stored is found under the number of its ping until 256 pings later. -/
structure Sound (s : PingSession) : Prop where
  pingSeq : s.client.sender.pingSeq = BitVec.ofNat 16 s.pings.length
  pings : ∀ n msg, s.pings[n]? = some (some msg) → msg = pingMessage (n % 256)
  sent : ∀ n < s.pings.length, s.sentAt n ≤ s.now
  stored : ∀ n t, s.storedAt n = some t → n < s.pings.length ∧ s.sentAt n ≤ t ∧ t ≤ s.now
  times : ∀ n t, s.storedAt n = some t → s.pings.length ≤ n + 256 → s.client.pingTimes (n % 256) = t
  storing : s.storing = true → 0 < s.pings.length
  replies : ∀ r ∈ s.replies, s.Answers r
  estimate : s.Estimated s.exchange
  clocks : s.ClocksFit

/-- The client has not sent anything yet. -/
def initial (now skew : Int) : PingSession := { now := now, skew := skew }

lemma Sound.initial {now skew : Int} (h : (initial now skew).ClocksFit) : Sound (initial now skew) where
  pingSeq := rfl
  pings n msg hmsg := by cases hmsg
  sent n hn := absurd hn (Nat.not_lt_zero n)
  stored n t ht := by cases ht
  times n t ht := by cases ht
  storing hs := by cases hs
  replies r hr := by cases hr
  estimate := ⟨rfl, rfl⟩
  clocks := h

lemma Sound.tick (h : Sound s) {ns : Nat} (hfit : s.Enabled (.tick ns)) : Sound (s.step (.tick ns)) where
  pingSeq := h.pingSeq
  pings := h.pings
  sent n hn := by
    have hsent := h.sent n hn
    rw [step]
    dsimp only
    omega
  stored n t ht := by
    obtain ⟨hn, hsent, hle⟩ := h.stored n t ht
    refine ⟨hn, hsent, ?_⟩
    rw [step]
    dsimp only
    omega
  times := h.times
  storing := h.storing
  replies r hr := by
    have hserved := (h.replies r hr).served
    refine { h.replies r hr with served := ?_ }
    rw [step]
    dsimp only
    omega
  estimate := h.estimate
  clocks := hfit

lemma Sound.sendGamepadState (h : Sound s) (state : GamepadState) (gamepadWritten pingWritten : Bool) :
    Sound (s.sendGamepadState state gamepadWritten pingWritten) := by
  rw [PingSession.sendGamepadState]
  rcases sendGamepadState_ping s.client.sender state gamepadWritten pingWritten with
    ⟨hping, hseq⟩ | ⟨hping, hseq⟩
  · rw [hping]
    exact { h with pingSeq := hseq.trans h.pingSeq, replies := fun r hr => { h.replies r hr with } }
  · have hnumber : s.client.sender.pingSeq.toNat % 256 = s.pings.length % 256 := by
      rw [h.pingSeq, BitVec.toNat_ofNat]
      omega
    rw [hping, hnumber]
    dsimp only
    have hkeep : ∀ n < s.pings.length, Function.update s.sentAt s.pings.length s.now n = s.sentAt n :=
      fun n hn => Function.update_of_ne hn.ne _ _
    constructor
    · dsimp only
      rw [hseq, h.pingSeq, List.length_append, BitVec.ofNat_add]
      rfl
    · intro n msg hmsg
      rw [List.getElem?_append] at hmsg
      split at hmsg
      · exact h.pings n msg hmsg
      · rw [List.getElem?_singleton] at hmsg
        split at hmsg
        · have hn : n = s.pings.length := by omega
          split at hmsg
          · rw [hn, Option.some.inj (Option.some.inj hmsg)]
          · cases hmsg
        · cases hmsg
    · intro n hn
      rw [List.length_append, List.length_singleton] at hn
      rcases (Nat.lt_succ_iff.1 hn).lt_or_eq with hlt | rfl
      · exact (hkeep n hlt).le.trans (h.sent n hlt)
      · exact (Function.update_self _ _ _).le
    · intro n t ht
      obtain ⟨hn, hsent, hle⟩ := h.stored n t ht
      refine ⟨?_, (hkeep n hn).le.trans hsent, hle⟩
      rw [List.length_append]
      omega
    · intro n t ht hle
      rw [List.length_append] at hle
      exact h.times n t ht (by omega)
    · intro _
      rw [List.length_append, List.length_singleton]
      exact Nat.succ_pos _
    · intro r hr
      have hanswers := h.replies r hr
      refine { hanswers with
        number := ?_
        sent := (hkeep _ hanswers.number).le.trans hanswers.sent }
      rw [List.length_append]
      exact Nat.lt_add_right _ hanswers.number
    · exact h.estimate
    · exact h.clocks

lemma Sound.storePingTime (h : Sound s) (hstoring : s.storing = true) : Sound s.storePingTime := by
  have hpos := h.storing hstoring
  have hslot : (s.client.sender.pingSeq - 1).toNat % 256 = (s.pings.length - 1) % 256 := by
    have hone : (1 : BitVec 16).toNat = 1 := rfl
    rw [h.pingSeq, BitVec.toNat_sub, BitVec.toNat_ofNat, hone]
    omega
  have hlast : s.pings.length - 1 < s.pings.length := by omega
  have hstored : ∀ n t, Function.update s.storedAt (s.pings.length - 1) (some s.now) n = some t →
      n = s.pings.length - 1 ∧ t = s.now ∨ n ≠ s.pings.length - 1 ∧ s.storedAt n = some t := by
    intro n t ht
    rcases eq_or_ne n (s.pings.length - 1) with rfl | hne
    · rw [Function.update_self] at ht
      exact Or.inl ⟨rfl, (Option.some.inj ht).symm⟩
    · rw [Function.update_of_ne hne] at ht
      exact Or.inr ⟨hne, ht⟩
  refine { h with stored := ?_, times := ?_, storing := fun hs => (by cases hs), replies := fun r hr => ?_ }
  · intro n t ht
    rcases hstored n t ht with ⟨rfl, rfl⟩ | ⟨-, hold⟩
    · exact ⟨hlast, h.sent _ hlast, le_rfl⟩
    · exact h.stored n t hold
  · intro n t ht hle
    rw [PingSession.storePingTime, PingClock.storePingTime] at *
    dsimp only at *
    rw [hslot]
    rcases hstored n t ht with ⟨rfl, rfl⟩ | ⟨hne, hold⟩
    · exact Function.update_self _ _ _
    · have hn := (h.stored n t hold).1
      have hother : n % 256 ≠ (s.pings.length - 1) % 256 := by omega
      rw [Function.update_of_ne hother]
      exact h.times n t hold hle
  · exact { h.replies r hr with }

lemma Sound.serve (h : Sound s) (n : Nat) (connection : PyroStreamConnection) (remote : RemoteAddress) :
    Sound (s.step (.serve n connection remote)) := by
  rw [step]
  cases hjoin : s.pings[n]?.join with
  | none => exact h
  | some msg =>
    have hmsg := Option.join_eq_some_iff.1 hjoin
    have hn : n < s.pings.length := (List.getElem?_eq_some_iff.1 hmsg).1
    refine { h with replies := fun r hr => ?_ }
    dsimp only at hr
    rcases List.mem_append.1 hr with hr | hr
    · exact { h.replies r hr with }
    · rw [answers, h.pings n msg hmsg, PyroStreamConnection.handleUdpDatagram_ping] at hr
      dsimp only at hr
      split_ifs at hr
      · rw [List.filterMap_cons, List.filterMap_nil, List.mem_singleton] at hr
        subst hr
        exact {
          number := hn, sent := h.sent n hn, served := le_rfl, nonneg := h.clocks.2.2.1
          fits := h.clocks.2.2.2, datagram := rfl }
      · cases hr

lemma Sound.receive (h : Sound s) (m : Nat) : Sound (s.step (.receive m)) := by
  rw [step]
  cases hr : s.replies[m]? with
  | none => exact h
  | some r =>
    have hanswers := h.replies r (List.mem_of_getElem? hr)
    have hseq : r.number % 256 < 256 := Nat.mod_lt _ (by decide)
    have hclient := s.client.iterate_pingDatagram s.now hseq
      (PyroStreamServer.sampleReferencePts (r.servedAt + s.skew))
    rw [sampleReferencePts_toInt hanswers.nonneg hanswers.fits, ← hanswers.datagram,
      Int.tdiv_eq_ediv_of_nonneg h.clocks.1] at hclient
    dsimp only
    rw [PingSession.receive, hclient]
    refine { h with replies := fun r hr => { h.replies r hr with }, estimate := ?_ }
    refine ⟨hanswers.sent, hanswers.served, fun storedAt htime => ?_⟩
    obtain ⟨hstored, hlater⟩ := htime
    obtain ⟨-, hsent, hnow⟩ := h.stored _ storedAt hstored
    have htimes := h.times _ storedAt hstored (by dsimp only at hlater; omega)
    refine ⟨hsent, hnow, ?_, ?_, rfl⟩
    · dsimp only
      rw [htimes]
    · dsimp only
      rw [htimes, Int.tdiv_eq_ediv_of_nonneg (by omega)]

lemma Sound.step (h : Sound s) {a : Action} (henabled : s.Enabled a) : Sound (s.step a) := by
  cases a with
  | tick ns => exact h.tick henabled
  | sendGamepadState state gamepadWritten pingWritten =>
    exact h.sendGamepadState state gamepadWritten pingWritten
  | storePingTime => exact h.storePingTime henabled
  | serve n connection remote => exact h.serve n connection remote
  | receive m => exact h.receive m
  | receiveOther d =>
    have hsame := s.client.iterate_other s.now henabled
    rw [PingSession.step, hsame]
    exact h

/-- By how many nanoseconds an estimate is late. -/
def late (s : PingSession) (remotePts localPts : Int) : Int := 1000 * (localPts - remotePts) + s.skew

end PingSession

end PyroFling
