import PyroFling.Library.Runs
import PyroFling.Proofs.HostileDatagrams
import PyroFling.Proofs.PacketRoundTrip
import PyroFling.Proofs.SlotOrder
import PyroFling.Proofs.StreamDelivery
import PyroFling.StreamSession

/-!
# What the client hands out is what the server has written

A run of the server, the network and a client. Every slot in use holds the datagrams of one written packet
that have arrived since it was started, so a packet that is handed out has the bytes and the header that
were written under its number, and one that could be handed out is not held back.
-/

namespace PyroFling
open ByteMemory Peeling

/-! ### One slot -/

namespace WrittenPacket

variable {w : WrittenPacket} {slot : ReconstructedPacket} {k : Nat}

/-- A slot can tell which block datagram `k` carries, and a repeated FEC block is harmless to it. -/
def Distinguishable (w : WrittenPacket) (slot : ReconstructedPacket) (k : Nat) : Prop :=
  (k < w.blocks → (k : Int) < (if slot.isReset then 0 else slot.subpacketSeqAccum) + 2 ^ 13 ∧
    (if slot.isReset then 0 else slot.subpacketSeqAccum) ≤ k + 2 ^ 13) ∧
  (w.blocks ≤ k → slot.isReset = true ∨ (slot.decoder.encodedBlocks (k - w.blocks)).data = none ∨
    w.CopyHarmless slot (k - w.blocks))

/-- The slot has been fed the datagrams in `ks`, and no others. -/
structure Holding (w : WrittenPacket) (ks : List Nat) (slot : ReconstructedPacket) : Prop where
  header : ∃ d ∈ w.datagrams, slot.currentHeader = d.header
  reassembles : ∃ (h : w.Fits) (a : w.Arrivals) (D : Finset Nat),
    a.map Fin.val = ks ∧ Reassembles h a D slot

/-- A datagram of the server never has the wrong size for an FEC block. -/
lemma feed_accepted (hk : k < w.datagrams.length) (slot : ReconstructedPacket) :
    (slot.feed w.datagrams[k]).1 = true := by
  unfold ReconstructedPacket.feed
  dsimp only
  rcases Nat.lt_or_ge k w.blocks with hdata | hfec
  · have hplain := ((w.datagrams_spec.2 k hk).1 hdata).plain
    rw [if_neg (by rw [hplain]; exact Bool.false_ne_true)]
  · have hsize := ((w.datagrams_spec.2 k hk).2 hfec).size
    have hwhole : w.datagrams[k].size - payloadHeaderSize = maxPayloadSize := Nat.sub_eq_of_eq_add' hsize
    split
    · rw [if_neg (not_not.2 hwhole)]
    · rfl

/-- The first datagram starts the packet and is then treated like any other. -/
lemma feed_begin (h : w.Fits) (hpos : 0 < w.blocks) (hreset : slot.isReset = true)
    (herror : slot.isError = false) (k : Fin w.datagrams.length) :
    slot.feed (w.datagrams.get k) = (slot.beginPacket (w.datagrams.get k).header).feed (w.datagrams.get k) := by
  have hbegun := reassembles_begin h herror (datagrams_header k)
  have hbuffer : (slot.beginPacket (w.datagrams.get k).header).bufferSize ≠ 0 := by
    rw [hbegun.buffer]
    exact Nat.mul_ne_zero (by omega) (by decide)
  have hempty : slot.bufferSize = 0 := of_decide_eq_true hreset
  unfold ReconstructedPacket.feed ReconstructedPacket.prepareDecode
  rw [if_neg hbuffer, if_pos hempty]

lemma Holding.feed (h : w.Fits) (hpos : 0 < w.blocks) (herror : slot.isError = false) {before : List Nat}
    (hbefore : slot.isReset = false → w.Holding before slot) (hk : k < w.datagrams.length)
    (hdist : w.Distinguishable slot k) :
    w.Holding ((if slot.isReset then [] else before) ++ [k]) (slot.feed w.datagrams[k]).2 := by
  obtain ⟨hwindow, hcopy⟩ := hdist
  have hmem : w.datagrams[k] ∈ w.datagrams := List.getElem_mem hk
  cases hreset : slot.isReset with
  | true =>
    have hempty : slot.bufferSize = 0 := of_decide_eq_true hreset
    refine ⟨⟨_, hmem, by rw [ReconstructedPacket.feed_currentHeader, if_pos hempty]⟩, h, [⟨k, hk⟩], ?_⟩
    have hbegun := reassembles_begin h herror (datagrams_header ⟨k, hk⟩)
    rw [hreset] at hwindow
    have hzero : lastBlock ([] : w.Arrivals) = 0 := rfl
    obtain ⟨D, hr⟩ := hbegun.feed hpos (k := ⟨k, hk⟩)
      (fun hlt => by
        have hbounds := hwindow hlt
        simp only [if_true] at hbounds
        rw [hzero]
        dsimp only
        omega) fun hmem => absurd hmem List.not_mem_nil
    rw [← feed_begin h hpos hreset herror ⟨k, hk⟩] at hr
    exact ⟨D, rfl, hr⟩
  | false =>
    obtain ⟨hheader, h, a, D, rfl, hr⟩ := hbefore hreset
    have hused : slot.bufferSize ≠ 0 := of_decide_eq_false hreset
    refine ⟨?_, h, a ++ [⟨k, hk⟩], ?_⟩
    · rw [ReconstructedPacket.feed_currentHeader, if_neg hused]
      exact hheader
    · rw [hreset, hr.accum] at hwindow
      have hharmless : (⟨k, hk⟩ : Fin w.datagrams.length) ∈ a → w.blocks ≤ k →
          w.CopyHarmless slot (k - w.blocks) := by
        intro hagain hfec
        by_cases hdone : slot.isDone = true
        · exact .inl hdone
        rcases hcopy hfec with hclear | hnone | hharmless
        · rw [hreset] at hclear
          cases hclear
        · -- A block that has arrived has a payload.
          have hseen : k - w.blocks ∈ fecSet a := ⟨_, hagain, by dsimp only; omega⟩
          rw [← hr.received (Bool.eq_false_of_not_eq_true hdone)] at hseen
          exact absurd hnone (Option.isSome_iff_ne_none.1 hseen.2)
        · exact hharmless
      obtain ⟨D', hr'⟩ := hr.feed hpos (k := ⟨k, hk⟩)
        (fun hlt => by
          have hbounds := hwindow hlt
          simp only [Bool.false_eq_true, if_false] at hbounds
          dsimp only
          omega) hharmless
      exact ⟨D', by simp, hr'⟩

end WrittenPacket

/-! ### The slots of a stream -/

section Slots

open ReconstructedPacket

variable {ws : List WrittenPacket} {arrived : Nat → List Nat} {start : BitVec 32}

/-- A slot in use holds what has arrived of the packet with its number. -/
structure SlotSound (ws : List WrittenPacket) (arrived : Nat → List Nat) (slot : ReconstructedPacket) :
    Prop where
  noError : slot.isError = false
  holding : slot.isReset = false → ∃ w, ws[slot.number]? = some w ∧ w.Holding (arrived slot.number) slot

/-- The slots of a stream. The first one is complete only while it is handed out. -/
structure SlotsSound (ws : List WrittenPacket) (arrived : Nat → List Nat) (handed : Bool) (s : Stream) :
    Prop where
  slot : ∀ i, SlotSound ws arrived (s.get i)
  ordered : s.first.isReset = true → s.second.isReset = true
  distinct : s.first.isReset = false → s.second.isReset = false → s.first.number ≠ s.second.number
  waiting : s.second.isReset = false → s.second.isDone = false
  incomplete : handed = false → s.first.isReset = false → s.first.isDone = false
  noFault : s.fault = none

lemma SlotSound.of_reset {slot : ReconstructedPacket} (herror : slot.isError = false)
    (hreset : slot.isReset = true) : SlotSound ws arrived slot where
  noError := herror
  holding hused := by
    rw [hreset] at hused
    cases hused

lemma SlotSound.congr {slot : ReconstructedPacket} {ws' : List WrittenPacket} {arrived' : Nat → List Nat}
    (h : SlotSound ws arrived slot) (hws : ws <+: ws')
    (harrived : slot.isReset = false → arrived' slot.number = arrived slot.number) :
    SlotSound ws' arrived' slot where
  noError := h.noError
  holding hused := by
    obtain ⟨w, hw, hholding⟩ := h.holding hused
    obtain ⟨hlt, -⟩ := List.getElem?_eq_some_iff.1 hw
    obtain ⟨rest, rfl⟩ := hws
    refine ⟨w, ?_, harrived hused ▸ hholding⟩
    rw [List.getElem?_append_left hlt]
    exact hw

/-- A slot of the stream that is about to be fed packet `p`, and the other one. -/
structure Claimed (ws : List WrittenPacket) (arrived : Nat → List Nat) (p : Nat) (i : SlotIndex)
    (s : Stream) : Prop where
  slot : ∀ j, SlotSound ws arrived (s.get j)
  number : (s.get i).number = p
  other : ∀ j ≠ i, (s.get j).isReset = false → (s.get j).number ≠ p ∧ (s.get j).isDone = false
  ordered : i = .second → s.first.isReset = false
  noFault : s.fault = none

lemma claimed_start {s : Stream} (hslot : ∀ j, SlotSound ws arrived (s.get j)) (i : SlotIndex)
    (packetSeq : BitVec 32) (p : Nat)
    (hother : ∀ j ≠ i, (s.get j).isReset = false → (s.get j).number ≠ p ∧ (s.get j).isDone = false)
    (hordered : i = .second → s.first.isReset = false) (hfault : s.fault = none) :
    Claimed ws arrived p i (s.start i packetSeq p) := by
  have hget : ∀ j ≠ i, (s.start i packetSeq p).get j = s.get j := fun j hne => Stream.get_set_ne s _ hne
  refine ⟨fun j => ?_, ?_, fun j hne => ?_, fun hsecond => ?_, ?_⟩
  · by_cases hj : j = i
    · subst hj
      rw [Stream.start, Stream.get_set_self]
      exact SlotSound.of_reset (hslot j).noError rfl
    · rw [hget j hj]
      exact hslot j
  · rw [Stream.start, Stream.get_set_self]
  · rw [hget j hne]
    exact hother j hne
  · subst hsecond
    exact hordered rfl
  · cases i <;> exact hfault

/-- A slot that holds another packet has another number. -/
lemma Stream.Numbered.number_ne {s : Stream} (h : s.Numbered start) {i : SlotIndex}
    (hi : (s.get i).isReset = false) {p : Nat} (hseq : (s.get i).packetSeq ≠ wireSeq start p) :
    (s.get i).number ≠ p := by
  rintro rfl
  exact hseq (h i hi)

lemma SlotsSound.getStreamPacket {s : Stream} (h : SlotsSound ws arrived false s) (hnumbered : s.Numbered start)
    {p : Nat} (hnear : s.Near p) :
    ((s.getStreamPacket (wireSeq start p) p).1 = none →
        (s.getStreamPacket (wireSeq start p) p).2 = s) ∧
      ∀ i, (s.getStreamPacket (wireSeq start p) p).1 = some i →
        Claimed ws arrived p i (s.getStreamPacket (wireSeq start p) p).2 := by
  have hswap : ∀ j, SlotSound ws arrived (s.swap.get j) := by
    intro j
    cases j with
    | first => exact h.slot .second
    | second => exact h.slot .first
  unfold Stream.getStreamPacket
  split_ifs with hfirst hfound hsecond holder hfound' hold haged
  · refine ⟨fun hnone => (by cases hnone), fun i hi => ?_⟩
    cases hi
    have hsecond := h.ordered hfirst
    apply claimed_start
    · intro j
      cases j with
      | first => exact h.slot .first
      | second => exact h.slot .second
    · intro j hne hused
      cases j with
      | first => exact absurd rfl hne
      | second =>
        change s.second.isReset = false at hused
        rw [hsecond] at hused
        cases hused
    · intro hi
      cases hi
    · rw [hsecond, Fault.note_true]
      exact h.noFault
  · refine ⟨fun hnone => (by cases hnone), fun i hi => ?_⟩
    cases hi
    have hused : (s.get .first).isReset = false := Bool.eq_false_of_not_eq_true hfirst
    have hnumber := hnumbered.eq_of_packetSeq hused hnear hfound
    refine ⟨h.slot, hnumber, fun j hne hj => ?_, fun hi => (by cases hi), h.noFault⟩
    cases j with
    | first => exact absurd rfl hne
    | second => exact ⟨fun heq => h.distinct hused hj (hnumber.trans heq.symm), h.waiting hj⟩
  · refine ⟨fun hnone => (by cases hnone), fun i hi => ?_⟩
    cases hi
    have hused : (s.get .first).isReset = false := Bool.eq_false_of_not_eq_true hfirst
    refine claimed_start hswap .first _ p (fun j hne _ => ?_) (fun hi => (by cases hi)) h.noFault
    cases j with
    | first => exact absurd rfl hne
    | second => exact ⟨hnumbered.number_ne hused hfound, h.incomplete rfl hused⟩
  · refine ⟨fun hnone => (by cases hnone), fun i hi => ?_⟩
    cases hi
    have hused : (s.get .first).isReset = false := Bool.eq_false_of_not_eq_true hfirst
    refine claimed_start h.slot .second _ p (fun j hne _ => ?_) (fun _ => hused) h.noFault
    cases j with
    | first => exact ⟨hnumbered.number_ne hused hfound, h.incomplete rfl hused⟩
    | second => exact absurd rfl hne
  · refine ⟨fun hnone => (by cases hnone), fun i hi => ?_⟩
    cases hi
    have hused : (s.get .first).isReset = false := Bool.eq_false_of_not_eq_true hfirst
    have hnumber := hnumbered.eq_of_packetSeq (i := .second) (Bool.eq_false_of_not_eq_true hsecond) hnear
      hfound'
    refine ⟨h.slot, hnumber, fun j hne _ => ?_, fun _ => hused, h.noFault⟩
    cases j with
    | first => exact ⟨hnumbered.number_ne hused hfound, h.incomplete rfl hused⟩
    | second => exact absurd rfl hne
  · exact ⟨fun _ => rfl, fun i hi => (by cases hi)⟩
  · refine ⟨fun hnone => (by cases hnone), fun i hi => ?_⟩
    cases hi
    have hused : (s.get .second).isReset = false := Bool.eq_false_of_not_eq_true hsecond
    refine claimed_start h.slot .first _ p (fun j hne _ => ?_) (fun hi => (by cases hi)) h.noFault
    cases j with
    | first => exact absurd rfl hne
    | second => exact ⟨hnumbered.number_ne hused hfound', h.waiting hused⟩
  · refine ⟨fun hnone => (by cases hnone), fun i hi => ?_⟩
    cases hi
    have hused : (s.get .second).isReset = false := Bool.eq_false_of_not_eq_true hsecond
    refine claimed_start hswap .second _ p (fun j hne _ => ?_) (fun _ => hused) h.noFault
    cases j with
    | first => exact ⟨hnumbered.number_ne hused hfound', h.waiting hused⟩
    | second => exact absurd rfl hne

/-- The other slot keeps what has arrived for it. -/
lemma Claimed.other_sound {p : Nat} {i : SlotIndex} {s : Stream} (h : Claimed ws arrived p i s)
    (ks : List Nat) {j : SlotIndex} (hne : j ≠ i) : SlotSound ws (Function.update arrived p ks) (s.get j) :=
  (h.slot j).congr (List.prefix_refl ws) fun hused => Function.update_of_ne (h.other j hne hused).1 ks arrived

/-- A claimed slot has been fed, and its packet is not complete. -/
lemma Claimed.set {p : Nat} {i : SlotIndex} {s : Stream} (h : Claimed ws arrived p i s) {ks : List Nat}
    {slot : ReconstructedPacket} (hslot : SlotSound ws (Function.update arrived p ks) slot)
    (hused : slot.isReset = false) (hnumber : slot.number = p) (hdone : slot.isDone = false) :
    SlotsSound ws (Function.update arrived p ks) false (s.set i slot) := by
  cases i with
  | first =>
    have hother := h.other .second (by decide)
    refine ⟨fun j => ?_, fun hreset => ?_, fun _ hj => ?_, fun hj => (hother hj).2, fun _ _ => hdone, h.noFault⟩
    · cases j with
      | first => exact hslot
      | second => exact h.other_sound ks (j := .second) (by decide)
    · change slot.isReset = true at hreset
      rw [hused] at hreset
      cases hreset
    · exact fun heq => (hother hj).1 (heq.symm.trans hnumber)
  | second =>
    have hother := h.other .first (by decide)
    have hfirst := h.ordered rfl
    refine ⟨fun j => ?_, fun hreset => ?_, fun hj _ => ?_, fun _ => hdone, fun _ hj => (hother hj).2, h.noFault⟩
    · cases j with
      | first => exact h.other_sound ks (j := .first) (by decide)
      | second => exact hslot
    · change s.first.isReset = true at hreset
      rw [hfirst] at hreset
      cases hreset
    · exact fun heq => (hother hj).1 (heq.trans hnumber)

/-- A claimed slot has been fed, and its packet moves to the front. -/
lemma Claimed.placed {p : Nat} {i : SlotIndex} {s : Stream} (h : Claimed ws arrived p i s) {ks : List Nat}
    {slot : ReconstructedPacket} (hslot : SlotSound ws (Function.update arrived p ks) slot)
    (hused : slot.isReset = false) (hnumber : slot.number = p) (packetSeq : BitVec 32) (number : Nat) :
    SlotsSound ws (Function.update arrived p ks) true { PyroStreamClient.placed s i slot with
      lastCompletedSeq := packetSeq, lastCompletedNumber := number } := by
  cases i with
  | first =>
    have hother := h.other .second (by decide)
    refine ⟨fun j => ?_, fun hreset => ?_, fun _ hj => ?_, fun hj => (hother hj).2, fun hf => (by cases hf),
      h.noFault⟩
    · cases j with
      | first => exact hslot
      | second => exact h.other_sound ks (j := .second) (by decide)
    · change slot.isReset = true at hreset
      rw [hused] at hreset
      cases hreset
    · exact fun heq => (hother hj).1 (heq.symm.trans hnumber)
  | second =>
    -- The first slot is reset and changes places with the complete one.
    refine ⟨fun j => ?_, fun _ => rfl, fun _ hj => ?_, fun hj => ?_, fun hf => (by cases hf), h.noFault⟩
    · cases j with
      | first => exact hslot
      | second => exact SlotSound.of_reset (h.slot .first).noError rfl
    · cases hj
    · cases hj

/-- The packet that was handed out is released. -/
lemma SlotsSound.release {s : Stream} {handed : Bool} (h : SlotsSound ws arrived handed s) :
    SlotsSound ws arrived false { s.swap with second := s.swap.second.reset } := by
  refine ⟨fun j => ?_, fun _ => rfl, fun _ hj => ?_, fun hj => ?_, fun _ hj => h.waiting hj, h.noFault⟩
  · cases j with
    | first => exact h.slot .second
    | second => exact SlotSound.of_reset (h.slot .first).noError rfl
  · cases hj
  · cases hj

lemma SlotsSound.congr {s : Stream} {handed : Bool} {ws' : List WrittenPacket} (h : SlotsSound ws arrived handed s)
    (hws : ws <+: ws') : SlotsSound ws' arrived handed s where
  slot i := (h.slot i).congr hws fun _ => rfl
  ordered := h.ordered
  distinct := h.distinct
  waiting := h.waiting
  incomplete := h.incomplete
  noFault := h.noFault

end Slots

/-! ### Datagrams -/

namespace PyroStreamClient

variable {c : PyroStreamClient} {t : StreamType} {a : Arrival}

lemma slotFor_eq (c : PyroStreamClient) (t : StreamType) (a : Arrival) :
    c.slotFor t a = none ∧ (c.receiveStream t a = (.ok, c) ∨
        (c.claimed t a).1 = none ∧ c.receiveStream t a = (.ok, c.setStream t (c.claimed t a).2)) ∨
      c.Fresh t a ∧ ∃ i, (c.claimed t a).1 = some i ∧ c.slotFor t a = some ((c.claimed t a).2.get i) := by
  unfold slotFor
  dsimp only
  by_cases hold : (c.stream t).hasCompleted ∧ payloadGetPacketSeqDelta
      (payloadGetPacketSeq a.datagram.header.encoded) (c.stream t).lastCompletedSeq ≤ 0
  · left
    refine ⟨if_pos hold, .inl ?_⟩
    simp only [receiveStream] at hold ⊢
    rw [if_pos hold]
  · rw [if_neg hold]
    rcases hclaimed : c.claimed t a with ⟨_ | i, s⟩
    · rw [claimed] at hclaimed
      refine .inl ⟨by rw [hclaimed]; rfl, .inr ⟨rfl, ?_⟩⟩
      simp only [receiveStream] at hold ⊢
      rw [if_neg hold, hclaimed]
    · rw [claimed] at hclaimed
      exact .inr ⟨hold, i, rfl, by rw [hclaimed]; rfl⟩

/-- A datagram that is fed to a slot and accepted completes the packet or not. -/
lemma receiveStream_eq (hfresh : c.Fresh t a) {i : SlotIndex} (hi : (c.claimed t a).1 = some i)
    (haccepted : (((c.claimed t a).2.get i).feed a.datagram).1 = true) :
    c.receiveStream t a =
      if (c.fed t a i).isComplete then
        (c.setStream t (placed (c.claimed t a).2 i (c.fed t a i))).completePacket t a
      else (.ok, c.setStream t ((c.claimed t a).2.set i (c.fed t a i))) := by
  unfold fed
  rcases hclaimed : c.claimed t a with ⟨o, s⟩
  rw [hclaimed] at hi haccepted
  cases hi
  rw [claimed] at hclaimed
  unfold Fresh at hfresh
  simp only [receiveStream] at hfresh ⊢
  rw [if_neg hfresh, hclaimed]
  rcases hfeed : (s.get i).feed a.datagram with ⟨ok, p⟩
  have hok : ok = true := by
    rw [hfeed] at haccepted
    exact haccepted
  subst hok
  simp only [hfeed, placed]

end PyroStreamClient

namespace WrittenPacket

variable {w : WrittenPacket}

/-- The header has room for everything about the packet. -/
structure Carriable (w : WrittenPacket) : Prop where
  fits : w.Fits
  pos : 0 < w.size
  ordered : w.dts.toInt ≤ w.pts.toInt
  close : w.pts.toInt - w.dts.toInt < 2 ^ 32
  /-- It does not look like the reply to a ping. -/
  media : (w.isAudio && w.isKeyFrame) = false

/-- The slot has the packet with its time stamps. -/
structure Intact (w : WrittenPacket) (slot : ReconstructedPacket) : Prop where
  delivered : Delivered w slot
  pts : slot.currentHeader.ptsHi ++ slot.currentHeader.ptsLo = w.pts
  dts : slot.currentHeader.ptsHi ++ slot.currentHeader.ptsLo - slot.currentHeader.dtsDelta.setWidth 64 = w.dts
  keyFrame : decide (slot.currentHeader.encoded &&& payloadKeyFrameBit ≠ 0) = w.isKeyFrame
  faultFree : slot.FaultFree

lemma Carriable.hasRoom (h : w.Carriable) : w.HasRoom :=
  ⟨h.pos, h.fits.1.trans_eq (by decide)⟩

lemma Carriable.describes (h : w.Carriable) (hseq : w.seq &&& payloadSeqMask = w.seq) {d : Datagram}
    (hd : d ∈ w.datagrams) : w.Describes d := h.hasRoom.describes hseq h.ordered h.close hd

/-- A complete packet is the one that was written. -/
lemma Holding.intact {ks : List Nat} {slot : ReconstructedPacket} (h : w.Holding ks slot) (hc : w.Carriable)
    (hseq : w.seq &&& payloadSeqMask = w.seq) (hdone : slot.isDone = true) : w.Intact slot := by
  obtain ⟨⟨d, hd, hheader⟩, hfits, a, D, -, hr⟩ := h
  have hdescribes := hc.describes hseq hd
  refine ⟨hr.delivered hdone, ?_, ?_, ?_, hr.faultFree⟩
  · rw [hheader]
    exact hdescribes.pts
  · rw [hheader]
    exact hdescribes.dts
  · rw [hheader]
    exact hdescribes.keyFrame

/-- The client takes a datagram for one of its stream. -/
lemma Carriable.iterate (hc : w.Carriable) (hseq : w.seq &&& payloadSeqMask = w.seq) {t : StreamType}
    (haudio : w.isAudio = decide (t = .audio)) {k : Nat} (hk : k < w.datagrams.length) (c : PyroStreamClient)
    {a : Arrival} (ha : a.datagram = w.datagrams[k]) :
    PyroStreamClient.isPing a.datagram.header = false ∧
      PyroStreamClient.streamOf a.datagram.header = t ∧ c.iterate a = c.receiveStream t a := by
  have hmem : w.datagrams[k] ∈ w.datagrams := List.getElem_mem hk
  have hdescribes := hc.describes hseq hmem
  have hping : PyroStreamClient.isPing a.datagram.header = false := by
    rw [ha, datagrams_isPing hmem]
    exact hc.media
  have hstream : PyroStreamClient.streamOf a.datagram.header = t := by
    rw [PyroStreamClient.streamOf, ha, hdescribes.audio, haudio]
    cases t <;> rfl
  have hsize : payloadHeaderSize ≤ a.datagram.size ∧ a.datagram.size ≤ maxUdpDatagramSize := by
    rw [ha]
    rcases Nat.lt_or_ge k w.blocks with hdata | hfec
    · rw [((w.datagrams_spec.2 k hk).1 hdata).size, maxUdpDatagramSize]
      omega
    · rw [((w.datagrams_spec.2 k hk).2 hfec).size, maxUdpDatagramSize]
      omega
  have hplain : ¬(ReconstructedPacket.isFec a.datagram.header = true ∧
      PyroStreamClient.isAudio a.datagram.header = true) := by
    rintro ⟨hfec, haudio'⟩
    rw [ha, hdescribes.audio] at haudio'
    rw [ha] at hfec
    -- Audio packets have no FEC blocks.
    have hnone : ¬w.usesFec = true := by
      rw [usesFec, haudio']
      exact Bool.false_ne_true
    have hlength := w.datagrams_spec.1
    rw [w.fecData_of_not_usesFec hnone, List.length_nil] at hlength
    have hdata := ((w.datagrams_spec.2 k hk).1 (by omega)).plain
    rw [hdata] at hfec
    cases hfec
  refine ⟨hping, hstream, ?_⟩
  rw [PyroStreamClient.iterate, if_neg (by omega), if_neg (by rw [hping]; exact Bool.false_ne_true),
    if_neg hplain, hstream]

end WrittenPacket

/-- A packet that was handed out, as one that has completed. -/
def HandedOut.completed (h : HandedOut) : PyroStreamClient.Completed := ⟨h.stream, h.number, true⟩

namespace StreamSession

open PyroStreamClient PyroStreamConnection

variable {s : StreamSession} {start : StreamType → BitVec 32} {t : StreamType}

/-- What the server writes fits the headers, and the datagrams that arrive are not further away from the
packets in the slots and the last completed one than their sequence numbers can tell, nor from the last data
block of their packet; an FEC block that arrives again finds its payload untouched. -/
def Legal (s : StreamSession) : Action → Prop
  | .writePacket pts dts data size isAudio isKeyFrame xorData => s.server.sends isAudio = true →
      (s.server.written pts dts data size isAudio isKeyFrame xorData).Carriable
  | .deliver t p k reportDue => s.client.current = none → ∀ w ∈ (s.written t)[p]?,
      ∀ a ∈ s.sent? t p k reportDue,
        (s.client.stream t).Near p ∧
        ((s.client.stream t).hasCompleted = true → p < (s.client.stream t).lastCompletedNumber + 2 ^ 13 ∧
          (s.client.stream t).lastCompletedNumber < p + 2 ^ 13) ∧
        ∀ slot ∈ s.client.slotFor t a, w.Distinguishable slot k
  | _ => True

/-- The packets of a stream have consecutive numbers, and the client has nothing but what was written. -/
structure Sound (start : StreamType → BitVec 32) (s : StreamSession) : Prop where
  next : ∀ t, s.server.streamSeq (decide (t = .audio)) = wireSeq (start t) (s.written t).length
  packets : ∀ t p w, (s.written t)[p]? = some w →
    w.Carriable ∧ w.isAudio = decide (t = .audio) ∧ w.seq = wireSeq (start t) p
  session : ∀ t, PyroStreamClient.Session t (start t) s.client (s.handedOut.map HandedOut.completed)
  slots : ∀ t, SlotsSound (s.written t) (s.arrived t) (decide (s.client.current = some t)) (s.client.stream t)
  intact : ∀ h ∈ s.handedOut, ∃ w, (s.written h.stream)[h.number]? = some w ∧ w.Intact h.packet

lemma wireSeq_masked (start : BitVec 32) (p : Nat) : wireSeq start p &&& payloadSeqMask = wireSeq start p :=
  and_payloadSeqMask_self _

lemma setStream_stream (c : PyroStreamClient) (t : StreamType) : c.setStream t (c.stream t) = c := by
  cases t <;> rfl

/-- A datagram of a written packet is received. -/
lemma Sound.receive (h : Sound start s) {p k : Nat} {w : WrittenPacket} {a : Arrival}
    (hnone : s.client.current = none) (hw : (s.written t)[p]? = some w) (hk : k < w.datagrams.length)
    (hdatagram : a.datagram = w.datagrams[k]) (hnumber : a.number = p) (hsent : a.reportSent = true)
    (hnear : (s.client.stream t).Near p)
    (hdist : ∀ slot, s.client.slotFor t a = some slot → w.Distinguishable slot k) :
    SlotsSound (s.written t) (s.record t p k a t) (decide ((s.client.receiveStream t a).2.current = some t))
        ((s.client.receiveStream t a).2.stream t) ∧
      ((s.client.receiveStream t a).2.current = none ∨ (s.client.receiveStream t a).2.current = some t ∧
        ((s.client.receiveStream t a).2.stream t).first.number = p ∧
        w.Intact ((s.client.receiveStream t a).2.stream t).first) := by
  obtain ⟨hcarriable, -, hseq⟩ := h.packets t p w hw
  have hmasked : w.seq &&& payloadSeqMask = w.seq := by
    rw [hseq]
    exact wireSeq_masked _ p
  have hwire : payloadGetPacketSeq a.datagram.header.encoded = wireSeq (start t) p := by
    rw [hdatagram, ← hseq]
    exact (hcarriable.describes hmasked (List.getElem_mem hk)).packetSeq
  have hslots := h.slots t
  rw [hnone, decide_eq_false (by simp)] at hslots
  have hclaimed := hslots.getStreamPacket (h.session t).delivered.numbered hnear
  have hclaim : s.client.claimed t a = (s.client.stream t).getStreamPacket (wireSeq (start t) p) p := by
    rw [PyroStreamClient.claimed, hwire, hnumber]
  rw [← hclaim] at hclaimed
  rcases s.client.slotFor_eq t a with ⟨hslot, hreceive⟩ | ⟨hfresh, i, hi, hslot⟩
  · -- The datagram is too old, and nothing happens.
    have hsame : s.client.receiveStream t a = (.ok, s.client) := by
      rcases hreceive with hreceive | ⟨hfull, hreceive⟩
      · exact hreceive
      · rw [hreceive, hclaimed.1 hfull, setStream_stream]
    have hrecord : s.record t p k a = s.arrived := by rw [record, hslot]
    rw [hsame, hrecord, hnone]
    exact ⟨by simpa using hslots, .inl rfl⟩
  · have hclaims := hclaimed.2 i hi
    have hrecord : s.record t p k a t = Function.update (s.arrived t) p
        ((if ((s.client.claimed t a).2.get i).isReset then [] else s.arrived t p) ++ [k]) := by
      rw [record, hslot]
      exact Function.update_self _ _ _
    have hbefore : ((s.client.claimed t a).2.get i).isReset = false →
        w.Holding (s.arrived t p) ((s.client.claimed t a).2.get i) := by
      intro hused
      obtain ⟨w', hw', hholding⟩ := (hclaims.slot i).holding hused
      rw [hclaims.number, hw] at hw'
      rw [hclaims.number] at hholding
      cases hw'
      exact hholding
    have hholding := WrittenPacket.Holding.feed hcarriable.fits hcarriable.hasRoom.blocks_le.1
      (hclaims.slot i).noError hbefore hk (hdist _ hslot)
    have hfed : s.client.fed t a i = (((s.client.claimed t a).2.get i).feed w.datagrams[k]).2 := by
      rw [PyroStreamClient.fed, hdatagram]
    rw [← hfed] at hholding
    have hfedNumber : (s.client.fed t a i).number = p := by
      rw [PyroStreamClient.fed, (ReconstructedPacket.feed_packetSeq _ _).2, hclaims.number]
    have hused : (s.client.fed t a i).isReset = false ∧ (s.client.fed t a i).isError = false ∧
        (s.client.fed t a i).isComplete = (s.client.fed t a i).isDone := by
      obtain ⟨-, hfits, arrivals, D, -, hr⟩ := hholding
      refine ⟨?_, hr.noError, hr.isComplete⟩
      rw [ReconstructedPacket.isReset, hr.buffer]
      exact decide_eq_false (Nat.mul_ne_zero hcarriable.hasRoom.blocks_le.1.ne' (by decide))
    obtain ⟨hused, herror, hcomplete⟩ := hused
    have hsound : SlotSound (s.written t) (s.record t p k a t) (s.client.fed t a i) := by
      refine ⟨herror, fun _ => ⟨w, ?_, ?_⟩⟩
      · rw [hfedNumber]
        exact hw
      · rw [hfedNumber, hrecord, Function.update_self]
        exact hholding
    rw [hrecord] at hsound ⊢
    have haccepted : (((s.client.claimed t a).2.get i).feed a.datagram).1 = true := by
      rw [hdatagram]
      exact WrittenPacket.feed_accepted hk _
    have hreceive := receiveStream_eq hfresh hi haccepted
    rw [hcomplete] at hreceive
    cases hdone : (s.client.fed t a i).isDone with
    | false =>
      rw [hdone, if_neg Bool.false_ne_true] at hreceive
      rw [hreceive, current_setStream, hnone, stream_setStream_self]
      exact ⟨hclaims.set hsound hused hfedNumber hdone, .inl rfl⟩
    | true =>
      rw [hdone, if_pos rfl] at hreceive
      have hdelta := lastDelta_placed hfresh hi
      have hspec := completePacket_spec (c := s.client.setStream t
        (placed (s.client.claimed t a).2 i (s.client.fed t a i))) t a (by simpa using hdelta)
      have hok := hspec.outcome.resolve_right (completePacket_ne_reportFailed _ t hsent)
      rw [hreceive, hspec.current hok, hspec.stream, stream_setStream_self]
      refine ⟨?_, .inr ⟨rfl, ?_⟩⟩
      · rw [decide_eq_true rfl]
        exact hclaims.placed hsound hused hfedNumber _ _
      · obtain ⟨hfirst, -, -⟩ := placed_spec (s.client.claimed t a).2 i (s.client.fed t a i)
        dsimp only
        rw [hfirst]
        exact ⟨hfedNumber, hholding.intact hcarriable hmasked hdone⟩

lemma takeCurrent_map (c : PyroStreamClient) {a : Arrival} (h : (c.iterate a).1 ≠ .reportFailed) :
    (c.iterate a).2.takeCurrent.map HandedOut.completed = c.completion a := by
  rw [takeCurrent, completion, if_neg h]
  cases (c.iterate a).2.current <;> rfl

lemma numbers_handedOut (t : StreamType) (l : List HandedOut) :
    numbers t (l.map HandedOut.completed) = completedNumbers t (l.map HandedOut.completed) := by
  apply numbers_eq
  intro d hd _
  obtain ⟨h, -, rfl⟩ := List.mem_map.1 hd
  rfl

lemma Sound.deliver (h : Sound start s) {p k : Nat} {reportDue : Bool}
    (hlegal : s.Legal (.deliver t p k reportDue)) : Sound start (s.step (.deliver t p k reportDue)) := by
  rw [step]
  split
  case h_2 => exact h
  case h_1 a hnone harrival =>
    obtain ⟨w, hw, hmap⟩ := Option.bind_eq_some_iff.1 harrival
    obtain ⟨d, hd, ha⟩ := Option.map_eq_some_iff.1 hmap
    rw [Option.ite_none_right_eq_some] at hd
    obtain ⟨hk, rfl⟩ := List.getElem?_eq_some_iff.1 hd.2
    have hdatagram : a.datagram = w.datagrams[k] := by rw [← ha]
    have hnumber : a.number = p := by rw [← ha]
    have hreport : a.reportSent = true := by rw [← ha]
    obtain ⟨hnear, hlast, hdist⟩ := hlegal hnone w hw a harrival
    obtain ⟨hcarriable, haudio, hseq⟩ := h.packets t p w hw
    have hmasked : w.seq &&& payloadSeqMask = w.seq := by
      rw [hseq]
      exact wireSeq_masked _ p
    obtain ⟨hping, hstream, hiterate⟩ := hcarriable.iterate hmasked haudio hk s.client hdatagram
    obtain ⟨hslots, hcurrent⟩ := h.receive hnone hw hk hdatagram hnumber hreport hnear hdist
    have hother : ∀ u ≠ t, (s.client.receiveStream t a).2.stream u = s.client.stream u :=
      fun u hu => (s.client.receiveStream_other a hu).1
    rw [← hiterate] at hslots hcurrent hother
    have hsent : (s.client.iterate a).1 ≠ .reportFailed := by
      rw [hiterate]
      exact receiveStream_ne_reportFailed s.client t hreport
    refine ⟨h.next, h.packets, fun u => ?_, fun u => ?_, fun out hout => ?_⟩
    · rw [List.map_append, takeCurrent_map s.client hsent]
      refine .receive (h.session u) hnone fun _ hu => ?_
      rw [hstream] at hu
      subst hu
      rw [hnumber]
      refine ⟨?_, hnear, hlast⟩
      rw [hdatagram, ← hseq]
      exact (hcarriable.describes hmasked (List.getElem_mem hk)).packetSeq
    · dsimp only
      by_cases hu : u = t
      · rw [hu]
        exact hslots
      · have hfree : decide ((s.client.iterate a).2.current = some u) = false := by
          rcases hcurrent with hcurrent | ⟨hcurrent, -⟩ <;> rw [hcurrent]
          · rfl
          · exact decide_eq_false fun heq => hu (Option.some.inj heq).symm
        have hkept : s.record t p k a u = s.arrived u := by
          rw [record]
          cases s.client.slotFor t a with
          | none => rfl
          | some slot => exact Function.update_of_ne hu _ _
        have hold := h.slots u
        rw [hnone, decide_eq_false (by simp)] at hold
        rw [hfree, hother u hu, hkept]
        exact hold
    · rcases List.mem_append.1 hout with hnew | hold
      · rw [takeCurrent] at hnew
        rcases hcurrent with hcurrent | ⟨hcurrent, hfirst, hintact⟩ <;> rw [hcurrent] at hnew
        · cases hnew
        · rw [List.mem_singleton.1 hnew]
          refine ⟨w, ?_, hintact⟩
          dsimp only
          rw [hfirst]
          exact hw
      · exact h.intact out hold

section Writing

variable (c : PyroStreamConnection) (pts dts : BitVec 64) (data : Bytes) (size : Nat) {isAudio : Bool}
  (isKeyFrame : Bool) (xorData : Bytes)

lemma writePacket_of_not_sends (h : c.sends isAudio = false) :
    (c.writePacket pts dts data size isAudio isKeyFrame xorData).2 = c := by
  rw [PyroStreamConnection.sends] at h
  rw [PyroStreamConnection.writePacket]
  cases isAudio <;> split_ifs <;> simp_all

/-- A packet that is sent takes a sequence number. -/
lemma streamSeq_of_sends (h : c.sends isAudio = true) :
    (c.writePacket pts dts data size isAudio isKeyFrame xorData).2.streamSeq isAudio =
        (c.streamSeq isAudio + 1) &&& payloadSeqMask ∧
      (c.writePacket pts dts data size isAudio isKeyFrame xorData).2.streamSeq (!isAudio) =
        c.streamSeq (!isAudio) := by
  rw [PyroStreamConnection.sends] at h
  rw [PyroStreamConnection.writePacket]
  cases isAudio <;> split_ifs <;> simp_all [streamSeq]

end Writing

lemma wireSeq_succ (start : BitVec 32) (p : Nat) :
    (wireSeq start p + 1) &&& payloadSeqMask = wireSeq start (p + 1) := by
  apply BitVec.eq_of_toNat_eq
  rw [toNat_and_payloadSeqMask, BitVec.toNat_add, wireSeq, wireSeq, toNat_and_payloadSeqMask,
    toNat_and_payloadSeqMask, BitVec.toNat_add, BitVec.toNat_add, BitVec.toNat_ofNat, BitVec.toNat_ofNat,
    show BitVec.toNat (1 : BitVec 32) = 1 from rfl]
  omega

lemma Sound.server (h : Sound start s) {server : PyroStreamConnection}
    (hseq : server.streamSeq = s.server.streamSeq) : Sound start { s with server := server } where
  next t := by
    rw [hseq]
    exact h.next t
  packets := h.packets
  session := h.session
  slots := h.slots
  intact := h.intact

lemma Sound.writePacket (h : Sound start s) (pts dts : BitVec 64) (data : Bytes) (size : Nat)
    (isAudio isKeyFrame : Bool) (xorData : Bytes)
    (hlegal : s.Legal (.writePacket pts dts data size isAudio isKeyFrame xorData)) :
    Sound start (s.step (.writePacket pts dts data size isAudio isKeyFrame xorData)) := by
  rw [step]
  cases hsends : s.server.sends isAudio with
  | false =>
    rw [writePacket_of_not_sends s.server pts dts data size isKeyFrame xorData hsends, if_neg Bool.false_ne_true]
    exact h
  | true =>
    have hcarriable := hlegal hsends
    obtain ⟨hnext, hother⟩ := streamSeq_of_sends s.server pts dts data size isKeyFrame xorData hsends
    rw [if_pos rfl]
    generalize htype : (if isAudio then StreamType.audio else StreamType.video) = t
    have haudio : isAudio = decide (t = .audio) := by
      rw [← htype]
      cases isAudio <;> rfl
    have hseq := h.next t
    rw [← haudio] at hseq
    -- The packet gets the number after the last one of its stream.
    have hgrows : ∀ u, s.written u <+: Function.update s.written t (s.written t ++
        [s.server.written pts dts data size isAudio isKeyFrame xorData]) u := by
      intro u
      rcases eq_or_ne u t with rfl | hu
      · rw [Function.update_self]
        exact List.prefix_append _ _
      · rw [Function.update_of_ne hu]
    refine ⟨fun u => ?_, fun u p w hw => ?_, h.session, fun u => (h.slots u).congr (hgrows u), fun out hout => ?_⟩
    · dsimp only
      rcases eq_or_ne u t with rfl | hu
      · rw [← haudio, hnext, Function.update_self, List.length_append, List.length_singleton, hseq]
        exact wireSeq_succ _ _
      · have hu' : decide (u = .audio) = !isAudio := by
          rw [haudio]
          cases u <;> cases t <;> simp_all
        rw [hu', hother, Function.update_of_ne hu, ← hu']
        exact h.next u
    · dsimp only at hw
      rcases eq_or_ne u t with rfl | hu
      · rw [Function.update_self] at hw
        rcases Nat.lt_or_ge p (s.written u).length with hlt | hge
        · rw [List.getElem?_append_left hlt] at hw
          exact h.packets u p w hw
        · rw [List.getElem?_append_right hge] at hw
          obtain ⟨hlast, hnew⟩ := List.getElem?_eq_some_iff.1 hw
          rw [List.length_singleton] at hlast
          have hp : p = (s.written u).length := by omega
          subst hp
          simp only [Nat.sub_self, List.getElem_cons_zero] at hnew
          subst hnew
          exact ⟨hcarriable, haudio, hseq⟩
      · rw [Function.update_of_ne hu] at hw
        exact h.packets u p w hw
    · obtain ⟨w, hw, hintact⟩ := h.intact out hout
      obtain ⟨hlt, -⟩ := List.getElem?_eq_some_iff.1 hw
      obtain ⟨rest, hrest⟩ := hgrows out.stream
      refine ⟨w, ?_, hintact⟩
      dsimp only
      rw [← hrest, List.getElem?_append_left hlt]
      exact hw

lemma Sound.waitNextPacket (h : Sound start s) : Sound start (s.step .waitNextPacket) := by
  rw [step]
  cases hcurrent : s.client.current with
  | none =>
    have hsame : s.client.releaseCurrent = s.client := by rw [releaseCurrent, hcurrent]
    rw [hsame]
    exact h
  | some t =>
    refine ⟨h.next, h.packets, fun u => ?_, fun u => ?_, h.intact⟩
    · exact .wait (h.session u) (by rw [hcurrent]; exact Option.some_ne_none t)
    · have hslots := h.slots u
      dsimp only
      rw [releaseCurrent, hcurrent]
      dsimp only
      rcases eq_or_ne u t with rfl | hu
      · cases u <;> exact hslots.release
      · have hfree : decide (s.client.current = some u) = false := by
          rw [hcurrent]
          exact decide_eq_false fun heq => hu (Option.some.inj heq).symm
        rw [hfree] at hslots
        cases u <;> cases t <;> first | exact absurd rfl hu | exact hslots

lemma Sound.step (h : Sound start s) (a : Action) (hlegal : s.Legal a) : Sound start (s.step a) := by
  cases a with
  | writePacket pts dts data size isAudio isKeyFrame xorData =>
    exact h.writePacket pts dts data size isAudio isKeyFrame xorData hlegal
  | handle codec id received => exact h.server (streamSeq_handle s.server codec id received)
  | handleUdpDatagram pts remote msg => exact h.server (streamSeq_handleUdpDatagram s.server pts remote msg)
  | getAndClearPendingVideoPacketLoss => exact h.server rfl
  | deliver t p k reportDue => exact h.deliver hlegal
  | waitNextPacket => exact h.waitNextPacket

lemma Sound.initial (cookie : BitVec 64) (fec selfRecovering : Bool) :
    Sound (fun t => (new cookie).streamSeq (decide (t = .audio))) (initial cookie fec selfRecovering) where
  next t := by
    cases t <;> simp [StreamSession.initial, setForwardErrorCorrection, new, streamSeq, wireSeq,
      and_payloadSeqMask_self]
  packets t p w hw := by cases hw
  session t := .begin selfRecovering
  slots t := by
    cases t <;> exact ⟨fun i => (by cases i <;> exact SlotSound.of_reset rfl rfl), fun _ => rfl,
      fun hused => (by cases hused), fun hused => (by cases hused), fun _ hused => (by cases hused), rfl⟩
  intact out hout := by cases hout

/-- The datagrams `ks` do not determine the packet: some blocks are not among those that follow from the
data and FEC blocks among them. -/
def Undetermined (w : WrittenPacket) (ks : List Nat) : Prop :=
  ∃ (h : w.Fits) (known : Set Nat),
    known ∈ closedSets (w.code h).members {f | w.blocks + f ∈ ks} {o | o ∈ ks ∧ o < w.blocks} ∧
      ∃ o < w.blocks, o ∉ known

lemma undetermined_of_holding {w : WrittenPacket} {ks : List Nat} {slot : ReconstructedPacket}
    (h : w.Holding ks slot) (hpos : 0 < w.blocks) (hdone : slot.isDone = false) : Undetermined w ks := by
  obtain ⟨-, hfits, a, D, rfl, hr⟩ := h
  have hdata : WrittenPacket.dataSet a = {o | o ∈ a.map Fin.val ∧ o < w.blocks} := by
    ext o
    simp [WrittenPacket.dataSet, WrittenPacket.dataBlocks]
  have hfec : WrittenPacket.fecSet a = {f | w.blocks + f ∈ a.map Fin.val} := by
    ext f
    simp [WrittenPacket.fecSet]
  refine ⟨hfits, D, ?_, ?_⟩
  · rw [← hdata, ← hfec]
    exact hr.least.1
  · by_contra hall
    push Not at hall
    have hrange : D = Finset.range w.blocks := by
      apply Finset.Subset.antisymm hr.quiet.sub
      intro o ho
      exact hall o (Finset.mem_range.1 ho)
    have htrue := hr.complete (.inl hpos) hrange
    rw [hdone] at htrue
    cases htrue

/-- In every run, what the client hands out is what the server has written: the packet with this number,
with its bytes and time stamps. On each stream the packets come in the order in which they were written,
none of them twice, and those in between are counted as dropped. A packet that is being put together is not
determined by what has arrived, so no packet is held back. -/
theorem stream_intact (cookie : BitVec 64) (fec selfRecovering : Bool) (as : List Action)
    (hrun : Runs.Along step Legal (initial cookie fec selfRecovering) as) :
    let s := as.foldl step (initial cookie fec selfRecovering)
    (∀ out ∈ s.handedOut, ∃ w, (s.written out.stream)[out.number]? = some w ∧ w.Intact out.packet) ∧
      ∀ t, let handed := numbers t (s.handedOut.map HandedOut.completed)
        handed.Pairwise (· > ·) ∧
        (∀ hne : handed ≠ [], handed.length + s.client.totalDropped t =
          handed.head hne - handed.getLast hne + 1) ∧
        (s.client.stream t).fault = none ∧
        (s.client.current = none → ∀ i, ((s.client.stream t).get i).isReset = false →
          ∃ w, (s.written t)[((s.client.stream t).get i).number]? = some w ∧
            Undetermined w (s.arrived t ((s.client.stream t).get i).number)) := by
  intro s
  have h : Sound (fun t => (new cookie).streamSeq (decide (t = .audio))) s :=
    hrun.invariant (Sound.initial cookie fec selfRecovering) fun s a hs ha => hs.step a ha
  refine ⟨h.intact, fun t => ?_⟩
  have hdelivered := (h.session t).delivered
  have hslots := h.slots t
  rw [← numbers_handedOut] at hdelivered
  refine ⟨hdelivered.sorted, fun hne => ?_, hslots.noFault, fun hnone i hused => ?_⟩
  · obtain ⟨-, -, hcount⟩ := hdelivered.last hne
    have hpos : 0 < (numbers t (s.handedOut.map HandedOut.completed)).length := List.length_pos_iff.2 hne
    omega
  · obtain ⟨w, hw, hholding⟩ := (hslots.slot i).holding hused
    have hpos := (h.packets t _ w hw).1.hasRoom.blocks_le.1
    refine ⟨w, hw, undetermined_of_holding hholding hpos ?_⟩
    cases i with
    | first => exact hslots.incomplete (by rw [hnone]; rfl) hused
    | second => exact hslots.waiting hused

instance (s : Stream) (p : Nat) : Decidable (s.Near p) :=
  decidable_of_iff (((s.get .first).isReset = false →
      p < (s.get .first).number + 2 ^ 13 ∧ (s.get .first).number < p + 2 ^ 13) ∧
    ((s.get .second).isReset = false →
      p < (s.get .second).number + 2 ^ 13 ∧ (s.get .second).number < p + 2 ^ 13))
    ⟨fun h i => (by cases i; exacts [h.1, h.2]), fun h => ⟨h .first, h .second⟩⟩

instance (w : WrittenPacket) : Decidable w.Carriable :=
  decidable_of_iff (w.Fits ∧ 0 < w.size ∧ w.dts.toInt ≤ w.pts.toInt ∧ w.pts.toInt - w.dts.toInt < 2 ^ 32 ∧
    (w.isAudio && w.isKeyFrame) = false)
    ⟨fun h => ⟨h.1, h.2.1, h.2.2.1, h.2.2.2.1, h.2.2.2.2⟩,
      fun h => ⟨h.fits, h.pos, h.ordered, h.close, h.media⟩⟩

instance (w : WrittenPacket) (slot : ReconstructedPacket) (k : Nat) : Decidable (w.Distinguishable slot k) :=
  inferInstanceAs (Decidable (_ ∧ _))

instance decidableLegal (s : StreamSession) : (a : Action) → Decidable (s.Legal a)
  | .writePacket .. => inferInstanceAs (Decidable (_ → _))
  | .deliver .. => inferInstanceAs (Decidable (_ → ∀ w ∈ _, ∀ a ∈ _, _ ∧ _ ∧ ∀ slot ∈ _, _))
  | .handle .. | .handleUdpDatagram .. | .getAndClearPendingVideoPacketLoss | .waitNextPacket => .isTrue trivial

/-- A client says hello and gets two packets of three blocks each. The first one is lost, and of the second
one the FEC block arrives before two of the data blocks. -/
def lossyRun : List Action :=
  [.handleUdpDatagram 0 ⟨[1]⟩ (typeBytes messageCookie ++ toLittleEndian 8 1001),
    .handle { videoCodec := 1 } 0
      (typeBytes messageKick ++ toLittleEndian 4 kickStateVideoBit.toNat),
    .writePacket 0 0 WrittenPacket.sampleData 3072 false true (fun _ => 0),
    .writePacket 7 3 WrittenPacket.sampleData 3072 false false (fun _ => 0),
    .deliver .video 1 3 false, .deliver .video 1 0 false, .deliver .video 1 1 false]

/-- The second packet is handed out with the block that did not arrive. -/
theorem lossyRun_intact : ∃ w, ((lossyRun.foldl step (initial 1001 true false)).written .video)[1]? = some w ∧
    ∃ out ∈ (lossyRun.foldl step (initial 1001 true false)).handedOut, w.Intact out.packet := by
  have hrun : Runs.Along step Legal (initial 1001 true false) lossyRun := by decide +kernel
  have hhanded : ((lossyRun.foldl step (initial 1001 true false)).handedOut.head?.map fun out =>
      (out.stream, out.number)) = some (.video, 1) := by decide +kernel
  obtain ⟨out, hhead, hout⟩ := Option.map_eq_some_iff.1 hhanded
  obtain ⟨hstream, hnumber⟩ := Prod.mk.inj hout
  have hmem := List.mem_of_mem_head? hhead
  obtain ⟨w, hw, hintact⟩ := (stream_intact 1001 true false lossyRun hrun).1 out hmem
  rw [hstream, hnumber] at hw
  exact ⟨w, hw, out, hmem, hintact⟩

end StreamSession

end PyroFling
