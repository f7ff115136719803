import PyroFling.Library.Ring
import PyroFling.ReceiveRing

/-!
# The receive ring is a queue

With the counters as unbounded numbers `r` and `w` of packets read and written, the packets between
them are in their slots, the receiving thread works behind them while there is room, and the reading
thread works at the first of them. So no packet is read before it is complete or overwritten before
it has been read, and the wrapping of the 32-bit counters does not matter for rings of up to
`2 ^ 31` packets.
-/

namespace PyroFling
open ByteMemory Ring

/-- A slot holds a packet. -/
structure Packet.Holds (p : Packet) (bytes : List UInt8) : Prop where
  size : p.size = bytes.length
  data : ∀ i (hi : i < bytes.length), p.data i = bytes.get ⟨i, hi⟩

/-- The call has returned this packet, cut off at the size it asked for. -/
def Delivery.IsCopyOf (d : Delivery) (bytes : List UInt8) : Prop :=
  d.size = min d.call.size bytes.length ∧ d.copied = if d.call.hasData then bytes.take d.size else []

/-- The receiving thread is at work on a slot. -/
def Receiver.IsFilling : Receiver → Prop
  | .receiving | .received _ | .counting => True
  | _ => False

/-- The packets that have arrived and are not counted. -/
def Receiver.pending : Receiver → Nat
  | .received _ | .counting => 1
  | _ => 0

/-- What the receiving thread has done to the slot behind the newest packet. -/
def Receiver.Progress (p : Packet) (next : Option (List UInt8)) : Receiver → Prop
  | .received ret => ∃ bytes, next = some bytes ∧ ret = bytes.length ∧
      ∀ i (hi : i < bytes.length), p.data i = bytes.get ⟨i, hi⟩
  | .counting => ∃ bytes, next = some bytes ∧ p.Holds bytes
  | _ => True

/-- The reading thread is at work on a slot. -/
def Reader.IsReading : Reader → Prop
  | .found _ | .copying .. | .counting .. => True
  | _ => False

/-- What the reading thread has done with the oldest packet. -/
def Reader.Progress (first : Option (List UInt8)) : Reader → Prop
  | .copying call size copied => ∃ bytes, first = some bytes ∧ call.hasData = true ∧
      size = min call.size bytes.length ∧ copied.length ≤ size ∧ copied = bytes.take copied.length
  | .counting call size copied => ∃ bytes, first = some bytes ∧
      Delivery.IsCopyOf ⟨call, size, copied⟩ bytes
  | _ => True

namespace ReceiveRing

variable {k r w : Nat} {s : ReceiveRing}

/-- `r` packets have been read and `w` written. -/
structure Sound (k r w : Nat) (s : ReceiveRing) : Prop where
  numPackets : s.numPackets = 2 ^ k
  writeCount : s.writeCount = BitVec.ofNat 32 w
  readCount : s.readCount = BitVec.ofNat 32 r
  order : r ≤ w
  lap : w ≤ r + 2 ^ k
  length : s.arrived.length = w + s.receiver.pending
  held : Holds Packet.Holds s.packets (2 ^ k) s.arrived r w
  room : s.receiver.IsFilling → w < r + 2 ^ k
  filling : s.receiver.Progress (s.packets (w % 2 ^ k)) s.arrived[w]?
  first : s.reader.IsReading → r < w
  reading : s.reader.Progress s.arrived[r]?
  returned : List.Forall₂ Delivery.IsCopyOf s.returned (s.arrived.take r)

/-! ### Counters and slots -/

lemma Sound.writeSlot_eq (h : Sound k r w s) (hk : k ≤ 31) : s.writeSlot = w % 2 ^ k := by
  have hmask : (2 ^ k - 1) % 2 ^ 32 = 2 ^ k - 1 := by
    apply Nat.mod_eq_of_lt
    have : 2 ^ k ≤ 2 ^ 31 := Nat.pow_le_pow_right (by norm_num) hk
    omega
  rw [writeSlot, h.numPackets, h.writeCount, hmask]
  exact toNat_ofNat_and_mask (by omega) w

lemma Sound.readSlot_eq (h : Sound k r w s) (hk : k ≤ 31) : s.readSlot = r % 2 ^ k := by
  rw [readSlot, h.numPackets, h.readCount]
  exact toNat_ofNat_and_mask (by omega) r

lemma Sound.queued_eq (h : Sound k r w s) (hk : k ≤ 31) : s.queued = w - r := by
  have hsize : 2 ^ k ≤ 2 ^ 31 := Nat.pow_le_pow_right (by norm_num) hk
  have hlap := h.lap
  rw [queued, h.writeCount, h.readCount]
  exact toNat_ofNat_sub h.order (by omega)

lemma Sound.empty_iff (h : Sound k r w s) (hk : k ≤ 31) : s.writeCount = s.readCount ↔ w = r := by
  have hqueued := h.queued_eq hk
  constructor
  · intro heq
    rw [queued, heq, sub_self] at hqueued
    have := h.order
    have hzero : (0 : BitVec 32).toNat = 0 := rfl
    omega
  · rintro rfl
    rw [h.writeCount, h.readCount]

lemma Sound.room_of_queued (h : Sound k r w s) (hk : k ≤ 31) (hroom : s.queued < s.numPackets) :
    w < r + 2 ^ k := by
  rw [h.queued_eq hk, h.numPackets] at hroom
  omega

/-! ### The receiving thread -/

lemma Sound.checkRoom (h : Sound k r w s) (hk : k ≤ 31) : Sound k r w (s.step .checkRoom) := by
  rw [step]
  split
  · rename_i hwaiting
    have hlength := h.length
    rw [hwaiting] at hlength
    split
    · exact { h with length := hlength, room := False.elim, filling := trivial }
    · split
      · rename_i hroom
        exact { h with
          length := hlength, room := fun _ => h.room_of_queued hk hroom, filling := trivial }
      · exact h
  · exact h

lemma Sound.scribble (h : Sound k r w s) (hk : k ≤ 31) (data : Bytes) :
    Sound k r w (s.step (.scribble data)) := by
  rw [step]
  split
  · rename_i hreceiving
    have hroom := h.room (by rw [hreceiving]; trivial)
    refine { h with held := ?_, filling := ?_ }
    · rw [h.writeSlot_eq hk]
      exact h.held.update hroom _
    · change s.receiver.Progress _ _
      rw [hreceiving]
      trivial
  · exact h

lemma Sound.endReceiver (h : Sound k r w s) : Sound k r w (s.step .endReceiver) := by
  rw [step]
  split
  · rename_i hending
    have hlength := h.length
    rw [hending] at hlength
    exact { h with length := hlength, room := False.elim, filling := trivial }
  · exact h

lemma setPacket_self (s : ReceiveRing) (i : Nat) (p : Packet) : (s.setPacket i p).packets i = p := by
  simp [setPacket]

lemma fill_of_lt {data : Bytes} {bytes : List UInt8} {i : Nat} (hi : i < bytes.length) :
    fill data bytes i = bytes.get ⟨i, hi⟩ := by
  rw [fill, List.getD_eq_getElem _ _ hi]
  rfl

/-- A packet that arrives is behind those that were counted. -/
lemma Sound.recv (h : Sound k r w s) (hk : k ≤ 31) (packet : Option (List UInt8)) :
    Sound k r w (s.step (.recv packet)) := by
  rw [step]
  split
  · rename_i hreceiving
    have hlength := h.length
    have hroom := h.room (by rw [hreceiving]; trivial)
    rw [hreceiving] at hlength
    have hend : Sound k r w { s with receiver := .ending } :=
      { h with length := hlength, room := False.elim, filling := trivial }
    cases packet with
    | none => exact hend
    | some bytes =>
      rw [receive]
      dsimp only
      split
      · exact hend
      · have hwritten : w = s.arrived.length := by simpa [Receiver.pending] using hlength.symm
        have hle : r ≤ s.arrived.length := hwritten ▸ h.order
        have hnext : (s.arrived ++ [bytes.take s.maxPacketSize])[w]? =
            some (bytes.take s.maxPacketSize) := by
          rw [hwritten, List.getElem?_concat_length]
        rw [h.writeSlot_eq hk]
        refine { h with length := ?_, held := ?_, room := fun _ => hroom, filling := ?_,
                        reading := ?_, returned := ?_ }
        · rw [List.length_append, hwritten]
          rfl
        · exact (h.held.arrive hwritten.le _).update hroom _
        · refine ⟨_, hnext, rfl, fun i hi => ?_⟩
          change ((s.setPacket (w % 2 ^ k) _).packets (w % 2 ^ k)).data i = _
          rw [setPacket_self]
          exact fill_of_lt hi
        · change s.reader.Progress (s.arrived ++ [bytes.take s.maxPacketSize])[r]?
          cases hreader : s.reader with
          | idle => trivial
          | waiting call => trivial
          | found call => trivial
          | copying call size copied =>
            have hfirst := h.first (by rw [hreader]; trivial)
            rw [List.getElem?_append_left (hwritten ▸ hfirst), ← hreader]
            exact h.reading
          | counting call size copied =>
            have hfirst := h.first (by rw [hreader]; trivial)
            rw [List.getElem?_append_left (hwritten ▸ hfirst), ← hreader]
            exact h.reading
        · change List.Forall₂ _ s.returned _
          rw [List.take_append_of_le_length hle]
          exact h.returned
  · exact h

lemma Sound.setSize (h : Sound k r w s) (hk : k ≤ 31) : Sound k r w (s.step .setSize) := by
  rw [step]
  split
  · rename_i ret hreceived
    have hlength := h.length
    have hroom := h.room (by rw [hreceived]; trivial)
    have hfilling := h.filling
    rw [hreceived] at hlength hfilling
    obtain ⟨bytes, hnext, hret, hdata⟩ := hfilling
    rw [h.writeSlot_eq hk]
    refine { h with length := hlength, held := h.held.update hroom _, room := fun _ => hroom,
                    filling := ⟨bytes, hnext, ?_⟩ }
    change ((s.setPacket (w % 2 ^ k) _).packets (w % 2 ^ k)).Holds bytes
    rw [setPacket_self]
    exact ⟨hret, hdata⟩
  · exact h

lemma Sound.countWrite (h : Sound k r w s) :
    ∃ w', Sound k r w' (s.step .countWrite) := by
  rw [step]
  split
  · rename_i hcounting
    have hlength := h.length
    have hroom := h.room (by rw [hcounting]; trivial)
    have hfilling := h.filling
    rw [hcounting] at hlength hfilling
    obtain ⟨bytes, hnext, hpacket⟩ := hfilling
    refine ⟨w + 1, { h with
      writeCount := ?_, order := h.order.trans (Nat.le_succ w), lap := hroom, length := hlength,
      held := h.held.push ?_, room := False.elim, filling := trivial,
      first := fun hreading => (h.first hreading).trans (Nat.lt_succ_self w) }⟩
    · rw [BitVec.ofNat_add, ← h.writeCount]
      rfl
    · intro a ha
      rw [hnext] at ha
      exact Option.some.inj ha ▸ hpacket
  · exact ⟨w, h⟩

/-! ### The reading thread -/

lemma Sound.call (h : Sound k r w s) (call : ReadCall) : Sound k r w (s.step (.call call)) := by
  rw [step]
  split
  · exact { h with first := False.elim, reading := trivial }
  · exact h

lemma Sound.checkPacket (h : Sound k r w s) (hk : k ≤ 31) (timeout : Bool) :
    Sound k r w (s.step (.checkPacket timeout)) := by
  rw [step]
  split
  · rename_i call hwaiting
    rw [ReceiveRing.checkPacket]
    split
    · split
      · exact { h with first := False.elim, reading := trivial }
      · exact h
    · rename_i hne
      have hlt : r < w := by
        rw [h.empty_iff hk] at hne
        have := h.order
        omega
      exact { h with first := fun _ => hlt, reading := trivial }
  · exact h

/-- There is a packet for the reading thread, and its slot holds it. -/
lemma Sound.first_held (h : Sound k r w s) (hk : k ≤ 31) (hreading : s.reader.IsReading) :
    ∃ bytes, s.arrived[r]? = some bytes ∧ (s.packets s.readSlot).Holds bytes := by
  have hlt := h.first hreading
  have hr : r < s.arrived.length := hlt.trans_le (h.length ▸ Nat.le_add_right w _)
  refine ⟨s.arrived.get ⟨r, hr⟩, List.getElem?_eq_getElem hr, ?_⟩
  rw [h.readSlot_eq hk]
  exact h.held.get hlt (List.getElem?_eq_getElem hr)

lemma Sound.measure (h : Sound k r w s) (hk : k ≤ 31) : Sound k r w (s.step .measure) := by
  rw [step]
  split
  · rename_i call hfound
    have hreading : s.reader.IsReading := by rw [hfound]; trivial
    obtain ⟨bytes, hfirst, hpacket⟩ := h.first_held hk hreading
    have hlt := h.first hreading
    rw [hpacket.size]
    cases hdata : call.hasData with
    | true =>
      exact { h with first := fun _ => hlt,
                     reading := ⟨bytes, hfirst, hdata, rfl, Nat.zero_le _, rfl⟩ }
    | false =>
      exact { h with first := fun _ => hlt,
                     reading := ⟨bytes, hfirst, rfl, (if_neg (by simp [hdata])).symm⟩ }
  · exact h

lemma Sound.copyByte (h : Sound k r w s) (hk : k ≤ 31) : Sound k r w (s.step .copyByte) := by
  rw [step]
  split
  · rename_i call size copied hcopying
    have hreading : s.reader.IsReading := by rw [hcopying]; trivial
    obtain ⟨bytes, hfirst, hpacket⟩ := h.first_held hk hreading
    have hlt := h.first hreading
    have hprogress := h.reading
    rw [hcopying] at hprogress
    obtain ⟨bytes', hfirst', hdata, hsize, hle, hcopied⟩ := hprogress
    obtain rfl : bytes = bytes' := Option.some.inj (hfirst.symm.trans hfirst')
    split
    · rename_i hmore
      have hi : copied.length < bytes.length := by omega
      refine { h with first := fun _ => hlt, reading := ⟨bytes, hfirst, hdata, hsize, ?_, ?_⟩ }
      · rw [List.length_append]
        exact hmore
      · rw [hpacket.data _ hi, List.length_append, List.length_singleton,
          List.take_succ_eq_append_getElem hi, ← hcopied]
        rfl
    · rename_i hdone
      refine { h with first := fun _ => hlt, reading := ⟨bytes, hfirst, hsize, ?_⟩ }
      have hall : copied.length = size := by omega
      rw [if_pos hdata]
      exact hall ▸ hcopied
  · exact h

lemma Sound.countRead (h : Sound k r w s) :
    ∃ r', Sound k r' w (s.step .countRead) := by
  rw [step]
  split
  · rename_i call size copied hcounting
    have hreading : s.reader.IsReading := by rw [hcounting]; trivial
    have hlt := h.first hreading
    have hprogress := h.reading
    rw [hcounting] at hprogress
    obtain ⟨bytes, hfirst, hcopy⟩ := hprogress
    refine ⟨r + 1, { h with
      readCount := ?_, order := hlt, lap := ?_, held := h.held.pop, room := ?_, first := False.elim,
      reading := trivial, returned := ?_ }⟩
    · rw [BitVec.ofNat_add, ← h.readCount]
      rfl
    · have := h.lap
      omega
    · intro hfilling
      have := h.room hfilling
      omega
    · change List.Forall₂ _ (s.returned ++ [_]) (s.arrived.take (r + 1))
      obtain ⟨hr, rfl⟩ := List.getElem?_eq_some_iff.1 hfirst
      rw [List.take_succ_eq_append_getElem hr]
      exact List.rel_append h.returned (List.Forall₂.cons hcopy List.Forall₂.nil)
  · exact ⟨r, h⟩

/-! ### Runs -/

lemma Sound.step (h : Sound k r w s) (hk : k ≤ 31) (e : RingEvent) :
    ∃ r' w', Sound k r' w' (s.step e) := by
  cases e with
  | checkRoom => exact ⟨r, w, h.checkRoom hk⟩
  | scribble data => exact ⟨r, w, h.scribble hk data⟩
  | recv packet => exact ⟨r, w, h.recv hk packet⟩
  | setSize => exact ⟨r, w, h.setSize hk⟩
  | countWrite => exact ⟨r, h.countWrite⟩
  | endReceiver => exact ⟨r, w, h.endReceiver⟩
  | call call => exact ⟨r, w, h.call call⟩
  | checkPacket timeout => exact ⟨r, w, h.checkPacket hk timeout⟩
  | measure => exact ⟨r, w, h.measure hk⟩
  | copyByte => exact ⟨r, w, h.copyByte hk⟩
  | countRead =>
    obtain ⟨r', h'⟩ := h.countRead
    exact ⟨r', w, h'⟩

/-- The packets are returned in order, each once, and those that have not been returned are still
in the ring. The threads never work on the same slot. -/
structure IsQueue (s : ReceiveRing) : Prop where
  returned : List.Forall₂ Delivery.IsCopyOf s.returned (s.arrived.take s.returned.length)
  accounted : s.arrived.length = s.returned.length + s.queued + s.receiver.pending
  bounded : s.queued ≤ s.numPackets
  apart : s.receiver.IsFilling → s.reader.IsReading → s.writeSlot ≠ s.readSlot

lemma Sound.isQueue (h : Sound k r w s) (hk : k ≤ 31) : s.IsQueue := by
  have horder := h.order
  have hcounted : r ≤ s.arrived.length := horder.trans (h.length ▸ Nat.le_add_right w _)
  have hreturned : s.returned.length = r := by
    rw [h.returned.length_eq, List.length_take_of_le hcounted]
  constructor
  · rw [hreturned]
    exact h.returned
  · rw [hreturned, h.queued_eq hk, h.length]
    omega
  · rw [h.queued_eq hk, h.numPackets]
    have := h.lap
    omega
  · intro hfilling hreading
    rw [h.writeSlot_eq hk, h.readSlot_eq hk]
    exact slot_ne (h.first hreading) (h.room hfilling)

lemma sound_init (maxPacketSize k : Nat) :
    Sound k 0 0 { maxPacketSize := maxPacketSize, numPackets := 2 ^ k } where
  numPackets := rfl
  writeCount := rfl
  readCount := rfl
  order := le_rfl
  lap := Nat.zero_le _
  length := rfl
  held := Holds.empty
  room := False.elim
  filling := trivial
  first := False.elim
  reading := trivial
  returned := List.Forall₂.nil

lemma init_two_pow (maxPacketSize k : Nat) : init maxPacketSize (2 ^ k) =
    some { maxPacketSize := maxPacketSize, numPackets := 2 ^ k } := by
  have hpow : 2 ^ k &&& (2 ^ k - 1) = 0 := by
    rw [Nat.and_two_pow_sub_one_eq_mod, Nat.mod_self]
  simp [init, hpow]

/-- A ring of up to `2 ^ 31` packets is a queue, however long it runs. -/
theorem ring_isQueue (hk : k ≤ 31) (maxPacketSize : Nat) (events : List RingEvent) :
    ∃ ring, init maxPacketSize (2 ^ k) = some ring ∧ (events.foldl step ring).IsQueue := by
  refine ⟨_, init_two_pow maxPacketSize k, ?_⟩
  have hrun : ∃ r w, Sound k r w (events.foldl ReceiveRing.step
      { maxPacketSize := maxPacketSize, numPackets := 2 ^ k }) := by
    refine List.foldlRecOn (motive := fun s => ∃ r w, Sound k r w s) events ReceiveRing.step
      ⟨0, 0, sound_init maxPacketSize k⟩ ?_
    rintro s ⟨r, w, h⟩ e -
    exact h.step hk e
  obtain ⟨r, w, h⟩ := hrun
  exact h.isQueue hk

/-- The ring of the client for video and audio datagrams. -/
theorem ring_isQueue_client :
    ∃ ring, init 1024 (2 ^ 10) = some ring ∧
      (([.checkRoom, .recv (some [7]), .setSize, .countWrite, .call ⟨true, 1⟩,
        .checkPacket false] : List RingEvent).foldl step ring).IsQueue :=
  ring_isQueue (by norm_num) 1024 _

/-! ### A ring as large as the range of its counters -/

/-- A packet arrives and is counted. -/
def arrival (byte : UInt8) : List RingEvent :=
  [.checkRoom, .recv (some [byte]), .setSize, .countWrite]

/-- `n` packets have arrived and none has been read. -/
structure Unread (n : Nat) (s : ReceiveRing) : Prop where
  maxPacketSize : s.maxPacketSize = 1
  numPackets : s.numPackets = 2 ^ 32
  writeCount : s.writeCount = BitVec.ofNat 32 n
  readCount : s.readCount = 0
  dead : s.dead = false
  receiver : s.receiver = .waiting
  reader : s.reader = .idle
  returned : s.returned = []

/-- There is room for another packet whatever the counters are. -/
lemma Unread.foldl_arrival {n : Nat} (h : Unread n s) (byte : UInt8) :
    (arrival byte).foldl step s =
      { s.setPacket s.writeSlot { data := fill (s.packets s.writeSlot).data [byte], size := 1 } with
        writeCount := s.writeCount + 1
        receiver := .waiting
        arrived := s.arrived ++ [[byte]] } := by
  have hroom : s.queued < s.numPackets := h.numPackets ▸ BitVec.isLt _
  have hcheck : s.step .checkRoom = { s with receiver := .receiving } := by
    rw [step, if_pos h.receiver, if_neg (by simp [h.dead]), if_pos hroom]
  have hrecv : ({ s with receiver := .receiving } : ReceiveRing).step (.recv (some [byte])) =
      { s.setPacket s.writeSlot { s.packets s.writeSlot with
          data := fill (s.packets s.writeSlot).data [byte] } with
        receiver := .received 1
        arrived := s.arrived ++ [[byte]] } := by
    have htake : [byte].take s.maxPacketSize = [byte] := by
      rw [h.maxPacketSize]
      rfl
    rw [step, if_pos rfl, receive]
    dsimp only
    rw [htake, if_neg (List.cons_ne_nil _ _)]
    rfl
  rw [arrival, List.foldl_cons, hcheck, List.foldl_cons, hrecv]
  simp [step, setPacket, writeSlot]

lemma Unread.succ {n : Nat} (h : Unread n s) (byte : UInt8) :
    Unread (n + 1) ((arrival byte).foldl step s) := by
  rw [h.foldl_arrival]
  exact { h with
    writeCount := by rw [BitVec.ofNat_add, ← h.writeCount]; rfl
    receiver := rfl }

lemma unread_arrivals (n : Nat) :
    Unread n ((List.replicate n (arrival 7)).flatten.foldl step
      { maxPacketSize := 1, numPackets := 2 ^ 32 }) ∧
    ((List.replicate n (arrival 7)).flatten.foldl step
      { maxPacketSize := 1, numPackets := 2 ^ 32 }).arrived = List.replicate n [7] := by
  induction n with
  | zero => exact ⟨by constructor <;> rfl, rfl⟩
  | succ n ih =>
    obtain ⟨hunread, harrived⟩ := ih
    rw [List.replicate_succ', List.flatten_append, List.foldl_append, List.flatten_singleton]
    refine ⟨hunread.succ 7, ?_⟩
    rw [hunread.foldl_arrival]
    change _ ++ [[7]] = _
    rw [harrived, List.replicate_succ']

/-- One call for a packet of one byte. -/
def readOne : List RingEvent :=
  [.call ⟨true, 1⟩, .checkPacket false, .measure, .copyByte, .copyByte, .countRead]

lemma foldl_readOne (hidle : s.reader = .idle) (hne : s.writeCount ≠ s.readCount)
    (hsize : (s.packets s.readSlot).size = 1) :
    (readOne.foldl step s).returned =
        s.returned ++ [⟨⟨true, 1⟩, 1, [(s.packets s.readSlot).data 0]⟩] ∧
      (readOne.foldl step s).arrived = s.arrived := by
  have hcheck : (s.step (.call ⟨true, 1⟩)).step (.checkPacket false) =
      { s with reader := .found ⟨true, 1⟩ } := by
    rw [step, if_pos hidle]
    exact if_neg hne
  have hmeasure : ({ s with reader := .found ⟨true, 1⟩ } : ReceiveRing).step .measure =
      { s with reader := .copying ⟨true, 1⟩ 1 [] } := by
    have hmin : min 1 (s.packets s.readSlot).size = 1 := by rw [hsize, min_self]
    simp only [step, readSlot, ite_true] at hmin ⊢
    rw [hmin]
  rw [readOne, List.foldl_cons, List.foldl_cons, hcheck, List.foldl_cons, hmeasure]
  exact ⟨rfl, rfl⟩

/-- The packet that arrives after `2 ^ 32` packets takes the place of the first. -/
lemma Unread.overtaken (h : Unread (2 ^ 32) s) (hfirst : s.arrived.head? = some [7]) :
    ¬((arrival 8 ++ readOne).foldl step s).IsQueue := by
  have hslot : s.writeSlot = 0 := by
    have hwrite : s.writeCount = 0 := h.writeCount
    rw [writeSlot, hwrite]
    exact Nat.zero_and _
  have hafter := h.foldl_arrival 8
  have hunread := h.succ 8
  rw [hslot] at hafter
  rw [List.foldl_append]
  generalize (arrival 8).foldl step s = t at hafter hunread
  have harrived : t.arrived = s.arrived ++ [[8]] := by rw [hafter]
  have hpacket : t.packets t.readSlot = { data := fill (s.packets 0).data [8], size := 1 } := by
    have hread : t.readSlot = 0 := by
      rw [readSlot, hunread.readCount]
      exact Nat.zero_and _
    rw [hread, hafter]
    exact setPacket_self s 0 _
  have hcounts : t.writeCount ≠ t.readCount := by
    rw [hunread.writeCount, hunread.readCount]
    decide
  obtain ⟨hreturned, hkept⟩ := foldl_readOne hunread.reader hcounts (by rw [hpacket])
  intro hqueue
  have hcopies := hqueue.returned
  obtain ⟨rest, hrest⟩ := List.head?_eq_some_iff.1 hfirst
  rw [hkept, hreturned, hunread.returned, harrived, hrest, hpacket] at hcopies
  obtain ⟨-, hcopied⟩ := (List.forall₂_cons.1 hcopies).1
  have hbytes : [(8 : UInt8)] = [7] := hcopied
  exact absurd hbytes (by decide)

/-- A ring of `2 ^ 32` packets has room for ever. Its first packet is overwritten before it has been
read. -/
theorem full_range_overwrites :
    ∃ ring, init 1 (2 ^ 32) = some ring ∧
      ¬(((List.replicate (2 ^ 32) (arrival 7)).flatten ++ (arrival 8 ++ readOne)).foldl
        step ring).IsQueue := by
  refine ⟨_, init_two_pow 1 32, ?_⟩
  obtain ⟨hunread, harrived⟩ := unread_arrivals (2 ^ 32)
  rw [List.foldl_append]
  refine hunread.overtaken ?_
  rw [harrived, List.head?_replicate, if_neg (by norm_num)]

/-! ### Flushing -/

/-- Without a buffer there is nothing to copy, so that a call always returns zero. -/
lemma flushPacket_eq (hidle : s.reader = .idle) : s.flushPacket.1 = 0 ∧
    s.flushPacket.2.writeCount = s.writeCount ∧
    s.flushPacket.2.readCount = if s.writeCount = s.readCount then s.readCount else s.readCount + 1 := by
  have hcall : s.step (.call { hasData := false, size := 0 }) =
      { s with reader := .waiting { hasData := false, size := 0 } } := if_pos hidle
  rw [flushPacket, hcall]
  by_cases hempty : s.writeCount = s.readCount
  · simp [step, checkPacket, hempty]
  · simp [step, checkPacket, hempty]

/-- Flushing leaves an empty ring if and only if there was at most one packet in it. -/
theorem flush_empties_iff (hidle : s.reader = .idle) :
    (∃ s', s.flushPacketQueue = some s' ∧ s'.readCount = s'.writeCount) ↔ s.queued ≤ 1 := by
  obtain ⟨hsize, hwrite, hread⟩ := flushPacket_eq hidle
  have hflush : s.flushPacketQueue = some s.flushPacket.2 := by
    rw [flushPacketQueue, flushLoop]
    dsimp only
    rw [hsize, if_neg (not_not.2 rfl)]
  have hone : (1 : BitVec 32).toNat = 1 := rfl
  constructor
  · rintro ⟨s', hs', hempty⟩
    obtain rfl := Option.some.inj (hflush.symm.trans hs')
    rw [hread, hwrite] at hempty
    rw [queued]
    split at hempty
    · rw [hempty, BitVec.sub_self]
      exact Nat.zero_le 1
    · rw [← hempty, BitVec.add_comm, BitVec.add_sub_cancel, hone]
  · intro hle
    refine ⟨_, hflush, ?_⟩
    rw [hread, hwrite]
    split
    · rename_i hequal
      exact hequal.symm
    · rename_i hne
      have hdistance : s.writeCount - s.readCount = 1 := by
        apply BitVec.eq_of_toNat_eq
        have hpos : (s.writeCount - s.readCount).toNat ≠ 0 := by
          intro hzero
          apply hne
          bv_omega
        rw [queued] at hle
        omega
      rw [← hdistance, BitVec.add_comm, BitVec.sub_add_cancel]

/-- A ring of four packets. -/
def fourPackets : ReceiveRing := { maxPacketSize := 1, numPackets := 4 }

theorem flush_empties_one :
    (∃ s', ((arrival 7).foldl step fourPackets).flushPacketQueue = some s' ∧
      s'.readCount = s'.writeCount) ∧ ((arrival 7).foldl step fourPackets).queued = 1 :=
  ⟨(flush_empties_iff rfl).2 (by decide +kernel), by decide +kernel⟩

/-- Of two packets the second stays. -/
theorem flush_leaves_packet :
    (((arrival 7 ++ arrival 8).foldl step fourPackets).flushPacketQueue.map fun s' =>
      (s'.readCount, s'.writeCount)) = some (1, 2) := by
  decide +kernel

end ReceiveRing

end PyroFling
