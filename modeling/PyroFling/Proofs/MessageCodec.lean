import PyroFling.Messages

/-!
# What `parse_message` accepts

A message comes out as it was sent, if it was sent with as many descriptors as its type has room
for. In the other direction the constructors of messages check different things: the length of a
plain reply or of a message with descriptors is not compared with anything, and descriptors that
come with other messages are dropped in silence.
-/

namespace PyroFling

namespace MessageType

/-- The numbers of descriptors that a message of this type can hold. -/
def allowsFds : MessageType → Nat → Bool
  | .void, _ => false
  | .echoPayload, n => n = 1
  | .imageGroup, n => n ≤ maxSockets
  | .presentImage, n | .acquireImage, n => n ≤ 1
  | _, n => n = 0

/-- The messages that are built without a look at the length of the payload. -/
def lengthUnchecked : MessageType → Bool
  | .ok | .errorProtocol | .error | .errorParameter | .imageGroup | .presentImage | .acquireImage => true
  | _ => false

/-- The messages whose descriptors are not counted because they have none. -/
def fdsUnchecked : MessageType → Bool
  | .ok | .errorProtocol | .error | .errorParameter | .clientHello | .serverHello | .device
  | .frameComplete | .retireImage => true
  | _ => false

lemma ofValue_value (t : MessageType) : ofValue t.value = some t := by cases t <;> decide

lemma wireSize_le (t : MessageType) : t.wireSize ≤ rawMessagePayloadSize - rawMessageHeaderSize := by
  cases t <;> decide

end MessageType

namespace RawMessageHeader

lemma length_toBytes (h : RawMessageHeader) : h.toBytes.length = rawMessageHeaderSize := by
  simp [toBytes, rawMessageHeaderSize]

lemma ofBytes_toBytes (h : RawMessageHeader) (hmagic : h.magic < 256 ^ 8) (hlen : h.payloadLen < 256 ^ 4)
    (after : List UInt8) : ofBytes (h.toBytes ++ after) = h := by
  have hserial : h.serial.toNat < 256 ^ 8 := h.serial.isLt.trans_eq (by norm_num)
  have htype : h.type.toNat < 256 ^ 4 := h.type.isLt.trans_eq (by norm_num)
  have hmagic' : wordAt (h.toBytes ++ after) 0 8 = h.magic := by
    have hword := wordAt_append [] 8 h.magic (toLittleEndian 8 h.serial.toNat ++
      (toLittleEndian 4 h.type.toNat ++ (toLittleEndian 4 h.payloadLen ++ toLittleEndian 8 0)) ++ after)
    rw [Nat.mod_eq_of_lt hmagic] at hword
    simpa [toBytes] using hword
  have hserial' : wordAt (h.toBytes ++ after) 8 8 = h.serial.toNat := by
    have hword := wordAt_append (toLittleEndian 8 h.magic) 8 h.serial.toNat
      (toLittleEndian 4 h.type.toNat ++ (toLittleEndian 4 h.payloadLen ++ toLittleEndian 8 0) ++ after)
    rw [Nat.mod_eq_of_lt hserial] at hword
    simpa [toBytes] using hword
  have htype' : wordAt (h.toBytes ++ after) 16 4 = h.type.toNat := by
    have hword := wordAt_append (toLittleEndian 8 h.magic ++ toLittleEndian 8 h.serial.toNat) 4 h.type.toNat
      (toLittleEndian 4 h.payloadLen ++ toLittleEndian 8 0 ++ after)
    rw [Nat.mod_eq_of_lt htype] at hword
    simpa [toBytes] using hword
  have hlen' : wordAt (h.toBytes ++ after) 20 4 = h.payloadLen := by
    have hword := wordAt_append (toLittleEndian 8 h.magic ++ toLittleEndian 8 h.serial.toNat ++
      toLittleEndian 4 h.type.toNat) 4 h.payloadLen (toLittleEndian 8 0 ++ after)
    rw [Nat.mod_eq_of_lt hlen] at hword
    simpa [toBytes] using hword
  simp [ofBytes, hmagic', hserial', htype', hlen']

end RawMessageHeader

namespace SocketPacket

/-- The header as it ends up in the zeroed buffer. -/
def header (packet : SocketPacket) : RawMessageHeader :=
  RawMessageHeader.ofBytes (packet.bytes.take (min packet.bytes.length rawMessagePayloadSize) ++
    List.replicate (rawMessagePayloadSize - min packet.bytes.length rawMessagePayloadSize) 0)

/-- What is checked of every message: it fits, and declares its own magic and length. -/
def HeaderChecked (packet : SocketPacket) : Prop :=
  packet.bytes ≠ [] ∧ packet.bytes.length ≤ rawMessagePayloadSize ∧ packet.fds.length ≤ maxSockets ∧
    packet.header.magic = messageMagic ∧
    packet.bytes.length = rawMessageHeaderSize + packet.header.payloadLen

/-- A packet that holds exactly a message of a type. -/
def Holds (packet : SocketPacket) (t : MessageType) : Prop :=
  packet.header.magic = messageMagic ∧
    packet.bytes.length = rawMessageHeaderSize + packet.header.payloadLen ∧
    packet.header.payloadLen = t.wireSize ∧ t.allowsFds packet.fds.length = true

/-- The packets that pass for a message of a type although their payload has another length, or that
carry descriptors which the type has no room for. -/
def Unchecked (packet : SocketPacket) : Prop :=
  packet.HeaderChecked ∧ ∃ t, MessageType.ofValue packet.header.type = some t ∧
    ((t.lengthUnchecked ∧ packet.header.payloadLen ≠ t.wireSize ∧
        (t.fdsUnchecked = false → t.allowsFds packet.fds.length)) ∨
      (t.fdsUnchecked ∧ packet.fds ≠ [] ∧
        (t.lengthUnchecked = false → packet.header.payloadLen = t.wireSize)))

end SocketPacket

/-- The payload, filled up with zeros. -/
def SocketPacket.data (packet : SocketPacket) : List UInt8 :=
  packet.bytes.drop rawMessageHeaderSize ++ List.replicate (rawMessagePayloadSize - packet.bytes.length) 0

instance (packet : SocketPacket) : Decidable packet.HeaderChecked := inferInstanceAs (Decidable (_ ∧ _))

/-- Only what has passed the checks of the header is decoded. -/
lemma parseMessage_eq (packet : SocketPacket) : parseMessage packet =
    if packet.HeaderChecked then decodeMessage packet.header packet.data packet.fds else none := by
  by_cases hfits : packet.bytes.length ≤ rawMessagePayloadSize
  · have hmin : min packet.bytes.length rawMessagePayloadSize = packet.bytes.length := min_eq_left hfits
    have hheader : packet.header = RawMessageHeader.ofBytes (packet.bytes ++
        List.replicate (rawMessagePayloadSize - packet.bytes.length) 0) := by
      rw [SocketPacket.header, hmin, List.take_length]
    simp only [parseMessage, hmin, List.take_length, ← hheader, List.length_eq_zero_iff,
      Nat.not_lt.2 hfits, false_or]
    by_cases hchecked : packet.HeaderChecked
    · obtain ⟨hempty, -, hfds, hmagic, hlength⟩ := hchecked
      have hlong : rawMessageHeaderSize ≤ packet.bytes.length := by omega
      rw [if_neg hempty, if_neg (not_not.2 hmagic), if_neg (not_not.2 hlength), if_neg (Nat.not_lt.2 hfds),
        if_pos ⟨hempty, hfits, hfds, hmagic, hlength⟩, SocketPacket.data,
        List.drop_append_of_le_length hlong, List.take_of_length_le hfds]
    · rw [if_neg hchecked]
      split_ifs with hempty hmagic hlength hfds
      · rfl
      · rfl
      · rfl
      · rfl
      · exact absurd ⟨hempty, hfits, Nat.not_lt.1 hfds, not_not.1 hmagic, not_not.1 hlength⟩ hchecked
  · have hnot : ¬packet.HeaderChecked := fun h => hfits h.2.1
    rw [if_neg hnot]
    unfold parseMessage
    simp only
    split_ifs with _ _ _ htrunc
    · rfl
    · rfl
    · rfl
    · rfl
    · exact absurd (.inl (Nat.not_le.1 hfits)) htrunc

/-! ### Messages that were sent -/

/-- The packet of a message. -/
def messagePacket (type : MessageType) (serial : BitVec 64) (payload : List UInt8) (fds : List Nat) :
    SocketPacket where
  bytes := RawMessageHeader.toBytes {
    magic := messageMagic, serial := serial, type := type.value, payloadLen := payload.length } ++ payload
  fds := fds

section Sent

variable {type : MessageType} {payload : List UInt8} {fds : List Nat}

lemma sendMessage_eq (serial : BitVec 64) (hpayload : payload.length = type.wireSize)
    (hfds : fds.length ≤ maxSockets) :
    sendMessage type serial payload fds = some (messagePacket type serial payload fds) := by
  have hsize := type.wireSize_le
  rw [sendMessage, if_neg (Nat.not_lt.2 hfds), if_neg (by omega)]
  rfl

lemma messagePacket_spec (serial : BitVec 64) (hpayload : payload.length = type.wireSize)
    (hfds : fds.length ≤ maxSockets) :
    let packet := messagePacket type serial payload fds
    packet.HeaderChecked ∧ packet.header =
        { magic := messageMagic, serial := serial, type := type.value, payloadLen := payload.length } ∧
      packet.data.take type.wireSize = payload := by
  intro packet
  have hsize := type.wireSize_le
  have hlength : packet.bytes.length = rawMessageHeaderSize + payload.length := by
    simp [packet, messagePacket, RawMessageHeader.length_toBytes]
  have hfits : packet.bytes.length ≤ rawMessagePayloadSize := by
    simp only [rawMessagePayloadSize, rawMessageHeaderSize] at *
    omega
  have hheader : packet.header =
      { magic := messageMagic, serial := serial, type := type.value, payloadLen := payload.length } := by
    rw [SocketPacket.header, min_eq_left hfits, List.take_length]
    simp only [packet, messagePacket, List.append_assoc]
    apply RawMessageHeader.ofBytes_toBytes
    · exact show messageMagic < 256 ^ 8 by decide
    · simp only [rawMessagePayloadSize, rawMessageHeaderSize] at hsize
      exact show payload.length < 256 ^ 4 by omega
  refine ⟨⟨?_, hfits, hfds, by rw [hheader], by rw [hheader, hlength]⟩, hheader, ?_⟩
  · intro hempty
    simp only [hempty, List.length_nil, rawMessageHeaderSize] at hlength
    omega
  · have hdrop : packet.bytes.drop rawMessageHeaderSize = payload :=
      List.drop_left' (RawMessageHeader.length_toBytes _)
    rw [SocketPacket.data, hdrop]
    exact List.take_left' hpayload

/-- A message comes out as it was sent if and only if its type has room for its descriptors. -/
lemma parseMessage_messagePacket (serial : BitVec 64) (hpayload : payload.length = type.wireSize)
    (hfds : fds.length ≤ maxSockets) :
    parseMessage (messagePacket type serial payload fds) =
        some { type := type, serial := serial, wire := payload, fds := fds } ↔
      type.allowsFds fds.length = true := by
  obtain ⟨hchecked, hheader, hdata⟩ := messagePacket_spec serial hpayload hfds
  have hfds' : (messagePacket type serial payload fds).fds = fds := rfl
  have hnil : ∀ l : List UInt8, l.length = 0 → l = [] := fun l => List.length_eq_zero_iff.1
  rw [parseMessage_eq, if_pos hchecked, decodeMessage, hheader, type.ofValue_value, hfds']
  -- Each type has its own constructor, which counts the descriptors or drops them.
  cases type <;> simp_all [createSingleFileHandleMessage, createFileHandlesWireFormatMessage,
    createFileHandleWireFormatMessage, createWireFormatMessage, MessageType.allowsFds, MessageType.wireSize]

end Sent

/-! ### Packets that are accepted -/

section Accepted

variable {h : RawMessageHeader} {data : List UInt8} {fds : List Nat} {t : MessageType}

lemma decodeMessage_type (ht : MessageType.ofValue h.type = some t) {m : Message}
    (hm : decodeMessage h data fds = some m) : m.type = t := by
  rw [decodeMessage, ht] at hm
  cases t <;> simp only [createSingleFileHandleMessage, createFileHandlesWireFormatMessage,
    createFileHandleWireFormatMessage, createWireFormatMessage] at hm <;> grind

/-- What is left of the checks for each type. -/
lemma decodeMessage_isSome (ht : MessageType.ofValue h.type = some t) (hfds : fds.length ≤ maxSockets) :
    (decodeMessage h data fds).isSome ↔ t ≠ .void ∧
      (t.lengthUnchecked ∨ h.payloadLen = t.wireSize) ∧ (t.fdsUnchecked ∨ t.allowsFds fds.length) := by
  rw [decodeMessage, ht]
  cases t <;> simp [createSingleFileHandleMessage, createFileHandlesWireFormatMessage,
    createFileHandleWireFormatMessage, createWireFormatMessage, MessageType.lengthUnchecked,
    MessageType.fdsUnchecked, MessageType.allowsFds, hfds]
  grind [MessageType.wireSize]

/-- Whatever is not counted may be wrong. -/
lemma allowsFds_of_fdsUnchecked (ht : t.fdsUnchecked = true) : t.allowsFds fds.length = true ↔ fds = [] := by
  cases t <;> simp [MessageType.fdsUnchecked, MessageType.allowsFds] at *

lemma unchecked_ne_void (ht : t.lengthUnchecked = true ∨ t.fdsUnchecked = true) : t ≠ .void := by
  rintro rfl
  simp [MessageType.lengthUnchecked, MessageType.fdsUnchecked] at ht

end Accepted

/-- A packet is taken for a message that it does not hold exactly if it is one of those that are not
checked. -/
lemma holds_iff (packet : SocketPacket) :
    (∀ m, parseMessage packet = some m → packet.Holds m.type) ↔ ¬packet.Unchecked := by
  rw [parseMessage_eq]
  by_cases hchecked : packet.HeaderChecked
  · rw [if_pos hchecked]
    obtain ⟨-, -, hfds, hmagic, hlength⟩ := id hchecked
    constructor
    · rintro hholds ⟨-, t, ht, hunchecked⟩
      obtain ⟨m, hm⟩ : ∃ m, decodeMessage packet.header packet.data packet.fds = some m := by
        rw [← Option.isSome_iff_exists, decodeMessage_isSome ht hfds]
        rcases hunchecked with ⟨hlen, -, hrest⟩ | ⟨hun, -, hrest⟩
        · refine ⟨unchecked_ne_void (.inl hlen), .inl hlen, ?_⟩
          cases hun : t.fdsUnchecked with
          | true => exact .inl rfl
          | false => exact .inr (hrest hun)
        · refine ⟨unchecked_ne_void (.inr hun), ?_, .inl hun⟩
          cases hlen : t.lengthUnchecked with
          | true => exact .inl rfl
          | false => exact .inr (hrest hlen)
      obtain ⟨-, -, hsize, hallowed⟩ := hholds m hm
      rw [decodeMessage_type ht hm] at hsize hallowed
      rcases hunchecked with ⟨-, hne, -⟩ | ⟨hun, hne, -⟩
      · exact hne hsize
      · exact hne ((allowsFds_of_fdsUnchecked hun).1 hallowed)
    · intro hnot m hm
      have hsome := Option.isSome_of_eq_some hm
      cases ht : MessageType.ofValue packet.header.type with
      | none =>
        rw [decodeMessage, ht] at hm
        cases hm
      | some t =>
        obtain ⟨-, hlen, hcount⟩ := (decodeMessage_isSome ht hfds).1 hsome
        rw [decodeMessage_type ht hm]
        refine ⟨hmagic, hlength, ?_, ?_⟩
        · refine hlen.elim (fun hun => ?_) id
          by_contra hne
          refine hnot ⟨hchecked, t, ht, .inl ⟨hun, hne, fun hcounted => ?_⟩⟩
          exact hcount.resolve_left (by simp [hcounted])
        · refine hcount.elim (fun hun => ?_) id
          rw [allowsFds_of_fdsUnchecked hun]
          by_contra hne
          refine hnot ⟨hchecked, t, ht, .inr ⟨hun, hne, fun hmeasured => ?_⟩⟩
          exact hlen.resolve_left (by simp [hmeasured])
  · rw [if_neg hchecked]
    exact ⟨fun _ h => hchecked h.1, fun _ m hm => by cases hm⟩

instance (packet : SocketPacket) (t : MessageType) : Decidable (packet.Holds t) :=
  inferInstanceAs (Decidable (_ ∧ _))

/-- For every type, serial, payload of the size of its wire format and descriptors that
`send_message` sends, the message is parsed back exactly if the type has room for the descriptors.
And a packet is only ever parsed as a message that it holds, with the right length and number of
descriptors, unless it is one of the `Unchecked` ones. -/
theorem message_codec (type : MessageType) (serial : BitVec 64) (payload : List UInt8) (fds : List Nat)
    (hpayload : payload.length = type.wireSize) (hfds : fds.length ≤ maxSockets)
    (received : SocketPacket) :
    (∃ packet, sendMessage type serial payload fds = some packet ∧
      (parseMessage packet = some { type := type, serial := serial, wire := payload, fds := fds } ↔
        type.allowsFds fds.length = true)) ∧
      ((∀ m, parseMessage received = some m → received.Holds m.type) ↔ ¬received.Unchecked) := by
  refine ⟨⟨_, sendMessage_eq serial hpayload hfds, ?_⟩, holds_iff received⟩
  exact parseMessage_messagePacket serial hpayload hfds

/-- A present with a semaphore. -/
theorem message_codec_present : ∃ packet,
    sendMessage .presentImage 9 (List.replicate 32 1) [5] = some packet ∧
      parseMessage packet =
        some { type := .presentImage, serial := 9, wire := List.replicate 32 1, fds := [5] } := by
  obtain ⟨packet, hsend, hparse⟩ := (message_codec .presentImage 9 (List.replicate 32 1) [5] (by decide)
    (by decide) ⟨[], []⟩).1
  exact ⟨packet, hsend, hparse.2 (by decide)⟩

/-- A `PresentImage` message with an empty payload is parsed, with zeros for all of its fields, and so
is a reply with a payload. -/
theorem truncated_present_accepted :
    let present := messagePacket .presentImage 1 [] []
    let reply := messagePacket .ok 1 [7] []
    (parseMessage present = some { type := .presentImage, serial := 1, wire := List.replicate 32 0 } ∧
        ¬present.Holds .presentImage) ∧
      parseMessage reply = some { type := .ok, serial := 1 } ∧ ¬reply.Holds .ok := by
  intro present reply
  decide +kernel

end PyroFling
