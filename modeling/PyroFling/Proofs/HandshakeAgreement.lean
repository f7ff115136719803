import PyroFling.Handshake
import PyroFling.Proofs.TcpFraming

/-!
# Agreement after the handshake

A client asks one question at a time, so that the bytes of a TCP connection that nobody has read yet
are the current question or its answer. Cookies tell the clients apart as long as the 64-bit counter of
the server does not come around.
-/

namespace PyroFling

/-! ### Bytes on the wire -/

lemma wordAt_head (width v : Nat) (after : List UInt8) :
    wordAt (toLittleEndian width v ++ after) 0 width = v % 256 ^ width :=
  wordAt_append [] width v after

lemma wordAt_skip (before after : List UInt8) {offset : Nat} (width : Nat) (h : before.length ≤ offset) :
    wordAt (before ++ after) offset width = wordAt after (offset - before.length) width := by
  rw [wordAt, List.drop_append, List.drop_eq_nil_of_le h, List.nil_append, wordAt]

lemma ofNat_toNat_mod {width n : Nat} (v : BitVec width) (h : n = 2 ^ width) :
    BitVec.ofNat width (v.toNat % n) = v := by
  rw [h, Nat.mod_eq_of_lt v.isLt, BitVec.ofNat_toNat, BitVec.setWidth_eq]

lemma CodecParameters.length_toBytes (codec : CodecParameters) : codec.toBytes.length = size := by
  simp [toBytes, size]

lemma CodecParameters.ofBytes_toBytes (codec : CodecParameters) : ofBytes codec.toBytes = codec := by
  have hlast : toLittleEndian 4 codec.rate.toNat = toLittleEndian 4 codec.rate.toNat ++ [] :=
    (List.append_nil _).symm
  unfold ofBytes toBytes
  rw [hlast]
  simp (disch := simp) only [wordAt_skip, length_toLittleEndian, Nat.reduceSub, Nat.sub_self, wordAt_head,
    ofNat_toNat_mod]

lemma length_typeBytes (type : BitVec 64) : (typeBytes type).length = messageTypeSize :=
  length_toLittleEndian _ _

lemma messageType_typeBytes (type : BitVec 64) (after : List UInt8) :
    PyroStreamConnection.messageType (typeBytes type ++ after) = type := by
  have htake : (typeBytes type ++ after).take messageTypeSize = typeBytes type :=
    List.take_left' (length_typeBytes type)
  rw [PyroStreamConnection.messageType, htake, typeBytes, littleEndian_toLittleEndian]
  exact ofNat_toNat_mod type (by decide)

/-- The message that makes the address of a client known. -/
def cookieMessage (cookie : BitVec 64) : List UInt8 :=
  typeBytes messageCookie ++ toLittleEndian 8 cookie.toNat

def kickMessage (flags : BitVec 32) : List UInt8 := typeBytes messageKick ++ toLittleEndian 4 flags.toNat

lemma toLittleEndian_cookie_inj {a b : BitVec 64}
    (h : toLittleEndian 8 a.toNat = toLittleEndian 8 b.toNat) : a = b := by
  have hvalue := congrArg littleEndian h
  rw [littleEndian_toLittleEndian, littleEndian_toLittleEndian] at hvalue
  apply BitVec.eq_of_toNat_eq
  omega

namespace PyroStreamConnection

/-! ### The answers of a connection -/

lemma handle_of_none (c : PyroStreamConnection) (codec : CodecParameters) (id : Nat)
    (received : List UInt8) (h : id ≠ 0 ∨ received = []) :
    ∃ events, c.handle codec id received = (false, c, events) ∧
      (events = [] ∨ events = [.cancelConnection]) := by
  unfold handle
  by_cases hid : id = 0
  · have hempty : received.isEmpty = true := by simpa [hid] using h
    rw [if_neg (not_not.2 hid)]
    refine ⟨[], ?_, .inl rfl⟩
    split_ifs <;> rfl
  · rw [if_pos hid]
    exact ⟨_, rfl, .inr rfl⟩

lemma handle_eq_loop (c : PyroStreamConnection) (codec : CodecParameters) {received : List UInt8}
    (hne : received ≠ []) (hroom : received.length ≤ maxMessageBufferLength - c.tcp.length) :
    c.handle codec 0 received =
      handleLoop codec (c.tcp ++ received).length { c with tcp := c.tcp ++ received } := by
  have hpos := List.length_pos_of_ne_nil hne
  have hempty : received.isEmpty = false := by simpa using hne
  unfold handle
  rw [if_neg (not_not.2 rfl), if_neg (by omega), if_neg (by simp [hempty])]

/-- The beginning of a message has to wait for the rest. -/
lemma handle_incomplete (c : PyroStreamConnection) (codec : CodecParameters) {received : List UInt8}
    (hne : received ≠ []) (hroom : received.length ≤ maxMessageBufferLength - c.tcp.length)
    (hincomplete : holdsMessage (c.tcp ++ received) = false) :
    c.handle codec 0 received = (true, { c with tcp := c.tcp ++ received }, []) := by
  rw [c.handle_eq_loop codec hne hroom]
  cases (c.tcp ++ received).length with
  | zero => rfl
  | succ fuel =>
    unfold handleLoop
    rw [if_neg (by simpa using hincomplete)]

lemma handle_single (c : PyroStreamConnection) (codec : CodecParameters) {received m : List UInt8}
    (hne : received ≠ []) (hroom : received.length ≤ maxMessageBufferLength - c.tcp.length)
    (hm : c.tcp ++ received = m) (hlength : m.length = messageGetLength (messageType m) + messageTypeSize)
    (hmagic : messageValidateMagic (messageType m) = true)
    (hconsumed : (c.handleMessage codec (messageType m) (m.drop messageTypeSize)).consumed = true) :
    c.handle codec 0 received =
      (true, { (c.handleMessage codec (messageType m) (m.drop messageTypeSize)).connection with tcp := [] },
        .message (messageType m) (m.drop messageTypeSize) ::
          (c.handleMessage codec (messageType m) (m.drop messageTypeSize)).events) := by
  rw [c.handle_eq_loop codec hne hroom, hm]
  have hholds : holdsMessage m = true := holdsMessage_iff.2 ⟨by omega, by omega⟩
  have hpayload : (m.drop messageTypeSize).take (messageGetLength (messageType m)) =
      m.drop messageTypeSize := by
    apply List.take_of_length_le
    rw [List.length_drop]
    omega
  obtain ⟨fuel, hfuel⟩ := Nat.exists_eq_add_one_of_ne_zero
    (show m.length ≠ 0 by rw [hlength]; exact Nat.succ_ne_zero _)
  have hdone : ∀ fuel (c : PyroStreamConnection), c.tcp = [] → handleLoop codec fuel c = (true, c, []) := by
    intro fuel c htcp
    cases fuel with
    | zero => rfl
    | succ fuel =>
      unfold handleLoop
      rw [htcp]
      rfl
  rw [hfuel, handleLoop]
  dsimp only
  rw [if_pos hholds, if_pos hmagic, hpayload, handleMessage_tcp]
  dsimp only
  rw [if_pos hconsumed, hdone _ _ (List.drop_eq_nil_of_le hlength.le)]
  dsimp only
  rw [List.drop_eq_nil_of_le hlength.le, List.append_nil]

/-- No proper beginning of a message is a message. -/
lemma eq_of_holdsMessage {m s : List UInt8}
    (hm : m.length = messageGetLength (messageType m) + messageTypeSize) (hs : s <+: m)
    (hholds : holdsMessage s = true) : s = m := by
  obtain ⟨htype, hlength⟩ := holdsMessage_iff.1 hholds
  obtain ⟨after, rfl⟩ := hs
  rw [messageType_append htype] at hm
  apply List.IsPrefix.eq_of_length_le (List.prefix_append s after)
  omega

end PyroStreamConnection

namespace Link

open PyroStreamConnection

/-! ### Where a client and its connection stand -/

def cookie (l : Link) : Option (BitVec 64) := l.connection.map PyroStreamConnection.cookie

def kicked (l : Link) : Bool := l.connection.any PyroStreamConnection.kicked

/-- The connection has the UDP address of its client. -/
def known (l : Link) : Bool := l.connection.any fun c => c.udpRemote.isSet

/-- What the client has written and the server has not handled. -/
def pending (l : Link) : List UInt8 := l.connection.elim [] PyroStreamConnection.tcp ++ l.upstream

/-- The client has no codec parameters yet. -/
structure Unanswered (l : Link) : Prop where
  notKicked : l.kicked = false
  noCodec : l.client.codec.videoCodec = videoCodecNone
  notRedundant : l.redundantKick = false

/-- The server has sent these codec parameters. -/
structure Served (l : Link) (codec : CodecParameters) : Prop where
  kicked : l.kicked = true
  known : l.known = true
  answer : l.answer = some codec
  hasCodec : codec.videoCodec ≠ videoCodecNone
  notRedundant : l.redundantKick = false

/-- Nothing is on its way. -/
structure Quiet (l : Link) : Prop where
  pending : l.pending = []
  downstream : l.downstream = []

/-- What has been written and not been read yet when the client is at a statement. -/
def At (l : Link) : HandshakeStatement → Prop
  | .writeHello => l.Quiet ∧ l.Unanswered
  | .readCookieType => l.Unanswered ∧ ((l.pending = typeBytes messageHello ∧ l.downstream = []) ∨
    (l.pending = [] ∧ ∃ v, l.cookie = some v ∧ l.downstream = cookieMessage v))
  | .readCookie => l.Unanswered ∧ l.pending = [] ∧
    ∃ v, l.cookie = some v ∧ l.downstream = toLittleEndian 8 v.toNat
  | .loop _ => l.cookie = some l.client.cookie ∧ l.Quiet ∧ (l.Unanswered ∨ l.Served l.client.codec)
  | .writeKick _ => l.cookie = some l.client.cookie ∧ l.Quiet ∧ l.Unanswered
  | .writeFlags _ => l.cookie = some l.client.cookie ∧ l.Unanswered ∧
    l.pending = typeBytes messageKick ∧ l.downstream = []
  | .readReply _ => l.cookie = some l.client.cookie ∧
    ((l.Unanswered ∧ l.pending = kickMessage l.client.flags ∧ l.downstream = []) ∨
      (l.Unanswered ∧ l.pending = [] ∧
        (l.downstream = typeBytes messageNak ∨ l.downstream = typeBytes messageAgain)) ∨
      (l.pending = [] ∧ ∃ codec, l.Served codec ∧
        l.downstream = typeBytes messageCodecParameters ++ codec.toBytes))
  | .readCodec _ => l.cookie = some l.client.cookie ∧ l.pending = [] ∧
    ∃ codec, l.Served codec ∧ l.downstream = codec.toBytes
  | .returned true => l.Quiet ∧ l.Served l.client.codec
  | .returned false => True

def Phase (l : Link) : Prop := l.At l.client.next

/-- A client and its connection, whose client has the given address. -/
structure Sound (address : RemoteAddress) (l : Link) : Prop where
  remote : ∀ c, l.connection = some c → c.udpRemote.isSet = true → c.udpRemote = address
  stream : l.consumed ++ l.downstream = l.replied
  phase : l.Phase

/-- What a step that the client does not notice may change. -/
structure Unnoticed (l l' : Link) : Prop where
  client : l'.client = l.client
  downstream : l'.downstream = l.downstream
  answer : l'.answer = l.answer
  redundantKick : l'.redundantKick = l.redundantKick
  pending : l'.pending = l.pending
  kicked : l'.kicked = l.kicked
  known : l.known = true → l'.known = true
  cookie : ∀ v, l.cookie = some v → l'.cookie = some v

lemma Unnoticed.unanswered {l l' : Link} (h : Unnoticed l l') (hl : l.Unanswered) : l'.Unanswered := by
  constructor
  · rw [h.kicked, hl.notKicked]
  · rw [h.client, hl.noCodec]
  · rw [h.redundantKick, hl.notRedundant]

lemma Unnoticed.served {l l' : Link} (h : Unnoticed l l') {codec : CodecParameters}
    (hl : l.Served codec) : l'.Served codec := by
  constructor
  · rw [h.kicked, hl.kicked]
  · exact h.known hl.known
  · rw [h.answer, hl.answer]
  · exact hl.hasCodec
  · rw [h.redundantKick, hl.notRedundant]

lemma Unnoticed.hasCookie {l l' : Link} (h : Unnoticed l l') (hl : l.cookie = some l.client.cookie) :
    l'.cookie = some l'.client.cookie := by
  rw [h.client]
  exact h.cookie _ hl

lemma Unnoticed.quiet {l l' : Link} (h : Unnoticed l l') (hl : l.Quiet) : l'.Quiet :=
  ⟨h.pending.trans hl.pending, h.downstream.trans hl.downstream⟩

lemma Unnoticed.phase {l l' : Link} (h : Unnoticed l l') (hl : l.Phase) : l'.Phase := by
  unfold Phase at hl ⊢
  rw [h.client]
  cases hnext : l.client.next with
  | writeHello =>
    rw [hnext] at hl
    exact ⟨h.quiet hl.1, h.unanswered hl.2⟩
  | readCookieType =>
    rw [hnext] at hl
    obtain ⟨hl, hasked | ⟨hnone, v, hv, hreply⟩⟩ := hl
    · exact ⟨h.unanswered hl, .inl ⟨h.pending.trans hasked.1, h.downstream.trans hasked.2⟩⟩
    · exact ⟨h.unanswered hl, .inr ⟨h.pending.trans hnone, v, h.cookie v hv, h.downstream.trans hreply⟩⟩
  | readCookie =>
    rw [hnext] at hl
    obtain ⟨hl, hnone, v, hv, hreply⟩ := hl
    exact ⟨h.unanswered hl, h.pending.trans hnone, v, h.cookie v hv, h.downstream.trans hreply⟩
  | loop i =>
    rw [hnext] at hl
    obtain ⟨hcookie, hquiet, hl⟩ := hl
    refine ⟨h.hasCookie hcookie, h.quiet hquiet, hl.imp h.unanswered fun hl => ?_⟩
    rw [h.client]
    exact h.served hl
  | writeKick i =>
    rw [hnext] at hl
    exact ⟨h.hasCookie hl.1, h.quiet hl.2.1, h.unanswered hl.2.2⟩
  | writeFlags i =>
    rw [hnext] at hl
    obtain ⟨hcookie, hl, hasked, hnone⟩ := hl
    exact ⟨h.hasCookie hcookie, h.unanswered hl, h.pending.trans hasked, h.downstream.trans hnone⟩
  | readReply i =>
    rw [hnext] at hl
    obtain ⟨hcookie, ⟨hl, hasked, hnone⟩ | ⟨hl, hnone, hrefused⟩ | ⟨hnone, codec, hl, hreply⟩⟩ := hl
    · refine ⟨h.hasCookie hcookie, .inl ⟨h.unanswered hl, ?_, h.downstream.trans hnone⟩⟩
      rw [h.pending, hasked, h.client]
    · refine ⟨h.hasCookie hcookie, .inr (.inl ⟨h.unanswered hl, h.pending.trans hnone, ?_⟩)⟩
      rwa [h.downstream]
    · exact ⟨h.hasCookie hcookie,
        .inr (.inr ⟨h.pending.trans hnone, codec, h.served hl, h.downstream.trans hreply⟩)⟩
  | readCodec i =>
    rw [hnext] at hl
    obtain ⟨hcookie, hnone, codec, hl, hreply⟩ := hl
    exact ⟨h.hasCookie hcookie, h.pending.trans hnone, codec, h.served hl, h.downstream.trans hreply⟩
  | returned ok =>
    rw [hnext] at hl
    cases ok with
    | false => trivial
    | true =>
      refine ⟨h.quiet hl.1, ?_⟩
      rw [h.client]
      exact h.served hl.2

/-! ### Statements of the client -/

/-- What a statement of the client does to the connection. -/
structure Advanced (l l' : Link) (o : Handshake.Outcome) : Prop where
  client : l'.client = o.client
  downstream : l'.downstream = l.downstream.drop o.consumed
  pending : l'.pending = l.pending ++ o.written
  answer : l'.answer = l.answer
  redundantKick : l'.redundantKick = l.redundantKick
  connection : l'.connection = l.connection

lemma execute_advanced {l : Link} {o : Handshake.Outcome} (h : l.client.execute l.downstream = some o) :
    Advanced l l.execute o := by
  unfold execute
  rw [h]
  exact ⟨rfl, rfl, (List.append_assoc _ _ _).symm, rfl, rfl, rfl⟩

lemma execute_of_none {l : Link} (h : l.client.execute l.downstream = none) : l.execute = l := by
  unfold execute
  rw [h]

variable {l l' : Link} {o : Handshake.Outcome}

lemma Advanced.unanswered (h : Advanced l l' o) (hl : l.Unanswered)
    (hcodec : o.client.codec = l.client.codec) : l'.Unanswered := by
  constructor
  · rw [kicked, h.connection]
    exact hl.notKicked
  · rw [h.client, hcodec, hl.noCodec]
  · rw [h.redundantKick, hl.notRedundant]

lemma Advanced.served {codec : CodecParameters} (h : Advanced l l' o) (hl : l.Served codec) :
    l'.Served codec := by
  constructor
  · rw [Link.kicked, h.connection]
    exact hl.kicked
  · rw [Link.known, h.connection]
    exact hl.known
  · rw [h.answer, hl.answer]
  · exact hl.hasCodec
  · rw [h.redundantKick, hl.notRedundant]

lemma Advanced.cookie (h : Advanced l l' o) : l'.cookie = l.cookie := by
  rw [Link.cookie, h.connection, Link.cookie]

lemma Advanced.quiet (h : Advanced l l' o) (hl : l.Quiet) (hwritten : o.written = []) : l'.Quiet := by
  constructor
  · rw [h.pending, hl.pending, hwritten, List.append_nil]
  · rw [h.downstream, hl.downstream, List.drop_nil]

lemma read_append {bytes after : List UInt8} {size : Nat} (body : List UInt8 → Handshake)
    (h : bytes.length = size) :
    Handshake.read (bytes ++ after) size body = some { client := body bytes, consumed := size } := by
  have hle : size ≤ (bytes ++ after).length := by
    rw [List.length_append]
    omega
  rw [Handshake.read, if_pos hle, List.take_left' h]

lemma read_nil {size : Nat} (body : List UInt8 → Handshake) (h : size ≠ 0) :
    Handshake.read [] size body = none := if_neg (by simpa using h)

lemma littleEndian_cookie (v : BitVec 64) : BitVec.ofNat 64 (littleEndian (toLittleEndian 8 v.toNat)) = v := by
  rw [littleEndian_toLittleEndian]
  exact ofNat_toNat_mod v (by decide)

lemma messageType_typeBytes_self (type : BitVec 64) : messageType (typeBytes type) = type := by
  have htype := messageType_typeBytes type []
  rwa [List.append_nil] at htype

lemma Advanced.phase (h : Advanced l l' o) (hat : l'.At o.client.next) : l'.Phase := by
  unfold Phase
  rwa [h.client]

lemma execute_writeHello (hnext : l.client.next = .writeHello) (h : l.At .writeHello) :
    l.execute.Phase := by
  obtain ⟨hquiet, hl⟩ := h
  have hadv := execute_advanced (l := l) (by rw [Handshake.execute, hnext])
  apply hadv.phase
  refine ⟨hadv.unanswered hl rfl, .inl ⟨?_, ?_⟩⟩
  · rw [hadv.pending, hquiet.pending, List.nil_append]
  · rw [hadv.downstream, hquiet.downstream, List.drop_nil]

lemma execute_readCookieType (hnext : l.client.next = .readCookieType) (h : l.At .readCookieType) :
    l.execute.Phase := by
  obtain ⟨hl, ⟨hasked, hnone⟩ | ⟨hpending, v, hv, hreply⟩⟩ := id h
  · have hwait : l.client.execute l.downstream = none := by
      rw [Handshake.execute, hnext, hnone]
      exact read_nil _ (by decide)
    rw [execute_of_none hwait]
    unfold Phase
    rwa [hnext]
  · have hexec : l.client.execute l.downstream =
        some { client := { l.client with next := .readCookie }, consumed := messageTypeSize } := by
      rw [Handshake.execute, hnext, hreply, cookieMessage]
      simp only [read_append _ (length_typeBytes _), messageType_typeBytes_self]
      rfl
    have hadv := execute_advanced hexec
    apply hadv.phase
    refine ⟨hadv.unanswered hl rfl, ?_, v, ?_, ?_⟩
    · rw [hadv.pending, hpending, List.append_nil]
    · rw [hadv.cookie, hv]
    · rw [hadv.downstream, hreply, cookieMessage, List.drop_left' (length_typeBytes _)]

lemma execute_readCookie (hnext : l.client.next = .readCookie) (h : l.At .readCookie) :
    l.execute.Phase := by
  obtain ⟨hl, hpending, v, hv, hreply⟩ := h
  have hexec : l.client.execute l.downstream =
      some { client := { l.client with cookie := v, next := .loop 0 }, consumed := 8 } := by
    rw [Handshake.execute, hnext, hreply, ← List.append_nil (toLittleEndian 8 v.toNat)]
    simp only [read_append _ (length_toLittleEndian _ _), littleEndian_cookie]
  have hadv := execute_advanced hexec
  apply hadv.phase
  refine ⟨?_, ⟨?_, ?_⟩, .inl (hadv.unanswered hl rfl)⟩
  · rw [hadv.cookie, hv, hadv.client]
  · rw [hadv.pending, hpending, List.append_nil]
  · rw [hadv.downstream, hreply, List.drop_eq_nil_of_le (length_toLittleEndian _ _).le]

/-- The loop ends with success only after an answer. -/
lemma execute_loop {i : Nat} (hnext : l.client.next = .loop i) (h : l.At (.loop i)) : l.execute.Phase := by
  obtain ⟨hcookie, hquiet, hl⟩ := h
  have hexec : l.client.execute l.downstream =
      if i < 64 ∧ l.client.codec.videoCodec = videoCodecNone then
        some { client := { l.client with next := .writeKick i }
               datagram := some (typeBytes messageCookie ++ toLittleEndian 8 l.client.cookie.toNat) }
      else some { client := { l.client with
        next := .returned (l.client.codec.videoCodec ≠ videoCodecNone) } } := by
    rw [Handshake.execute, hnext]
  split_ifs at hexec with hagain
  · have hadv := execute_advanced hexec
    apply hadv.phase
    refine ⟨?_, hadv.quiet hquiet rfl, ?_⟩
    · rw [hadv.cookie, hcookie, hadv.client]
    · rcases hl with hl | hl
      · exact hadv.unanswered hl rfl
      · exact absurd hagain.2 hl.hasCodec
  · have hadv := execute_advanced hexec
    apply hadv.phase
    rcases hl with hl | hl
    · have hfalse : decide (l.client.codec.videoCodec ≠ videoCodecNone) = false :=
        decide_eq_false (not_not.2 hl.noCodec)
      rw [hfalse]
      trivial
    · have htrue : decide (l.client.codec.videoCodec ≠ videoCodecNone) = true :=
        decide_eq_true hl.hasCodec
      rw [htrue]
      refine ⟨hadv.quiet hquiet rfl, ?_⟩
      rw [hadv.client]
      exact hadv.served hl

lemma execute_writeKick {i : Nat} (hnext : l.client.next = .writeKick i) (h : l.At (.writeKick i)) :
    l.execute.Phase := by
  obtain ⟨hcookie, hquiet, hl⟩ := h
  have hadv := execute_advanced (l := l) (by rw [Handshake.execute, hnext])
  apply hadv.phase
  refine ⟨?_, hadv.unanswered hl rfl, ?_, ?_⟩
  · rw [hadv.cookie, hcookie, hadv.client]
  · rw [hadv.pending, hquiet.pending, List.nil_append]
  · rw [hadv.downstream, hquiet.downstream, List.drop_nil]

lemma execute_writeFlags {i : Nat} (hnext : l.client.next = .writeFlags i) (h : l.At (.writeFlags i)) :
    l.execute.Phase := by
  obtain ⟨hcookie, hl, hpending, hnone⟩ := h
  have hadv := execute_advanced (l := l) (by rw [Handshake.execute, hnext])
  apply hadv.phase
  refine ⟨?_, .inl ⟨hadv.unanswered hl rfl, ?_, ?_⟩⟩
  · rw [hadv.cookie, hcookie, hadv.client]
  · rw [hadv.pending, hpending, hadv.client, kickMessage]
  · rw [hadv.downstream, hnone, List.drop_nil]

lemma execute_readReply {i : Nat} (hnext : l.client.next = .readReply i) (h : l.At (.readReply i)) :
    l.execute.Phase := by
  have hexec : ∀ {type after}, l.downstream = typeBytes type ++ after →
      l.client.execute l.downstream = some {
        client := if type ≠ messageCodecParameters then { l.client with next := .loop (i + 1) }
          else { l.client with next := .readCodec i }
        consumed := messageTypeSize } := by
    intro type after hreply
    rw [Handshake.execute, hnext, hreply]
    simp only [read_append _ (length_typeBytes _), messageType_typeBytes_self]
  -- Both refusals lead to another round.
  have hrefusal : ∀ {type}, type ≠ messageCodecParameters → l.cookie = some l.client.cookie →
      l.Unanswered → l.pending = [] → l.downstream = typeBytes type → l.execute.Phase := by
    intro type htype hcookie hl hpending hreply
    have hexec' := hexec (hreply.trans (List.append_nil _).symm)
    rw [if_pos htype] at hexec'
    have hadv := execute_advanced hexec'
    apply hadv.phase
    refine ⟨?_, ⟨?_, ?_⟩, .inl (hadv.unanswered hl rfl)⟩
    · rw [hadv.cookie, hcookie, hadv.client]
    · rw [hadv.pending, hpending, List.append_nil]
    · rw [hadv.downstream, hreply, List.drop_eq_nil_of_le (length_typeBytes _).le]
  obtain ⟨hcookie, ⟨hl, hpending, hnone⟩ | ⟨hl, hpending, hnak | hagain⟩ | ⟨hpending, codec, hl, hreply⟩⟩ := id h
  · have hwait : l.client.execute l.downstream = none := by
      rw [Handshake.execute, hnext, hnone]
      exact read_nil _ (by decide)
    rw [execute_of_none hwait]
    unfold Phase
    rwa [hnext]
  · exact hrefusal (by decide) hcookie hl hpending hnak
  · exact hrefusal (by decide) hcookie hl hpending hagain
  · have hexec' := hexec hreply
    rw [if_neg (not_not.2 rfl)] at hexec'
    have hadv := execute_advanced hexec'
    apply hadv.phase
    refine ⟨?_, ?_, codec, hadv.served hl, ?_⟩
    · rw [hadv.cookie, hcookie, hadv.client]
    · rw [hadv.pending, hpending, List.append_nil]
    · rw [hadv.downstream, hreply, List.drop_left' (length_typeBytes _)]

lemma execute_readCodec {i : Nat} (hnext : l.client.next = .readCodec i) (h : l.At (.readCodec i)) :
    l.execute.Phase := by
  obtain ⟨hcookie, hpending, codec, hl, hreply⟩ := h
  have hexec : l.client.execute l.downstream =
      some { client := { l.client with codec := codec, next := .loop (i + 1) }
             consumed := CodecParameters.size } := by
    rw [Handshake.execute, hnext, hreply, ← List.append_nil codec.toBytes]
    simp only [read_append _ codec.length_toBytes, CodecParameters.ofBytes_toBytes]
  have hadv := execute_advanced hexec
  apply hadv.phase
  refine ⟨?_, ⟨?_, ?_⟩, .inr ?_⟩
  · rw [hadv.cookie, hcookie, hadv.client]
  · rw [hadv.pending, hpending, List.append_nil]
  · rw [hadv.downstream, hreply, List.drop_eq_nil_of_le codec.length_toBytes.le]
  · rw [hadv.client]
    exact hadv.served hl

lemma Sound.execute {address : RemoteAddress} (h : l.Sound address) : l.execute.Sound address := by
  have hphase := h.phase
  unfold Phase at hphase
  constructor
  · unfold Link.execute
    split <;> exact h.remote
  · unfold Link.execute
    split
    · exact h.stream
    · rw [← h.stream]
      dsimp only
      rw [List.append_assoc, List.take_append_drop]
  · cases hnext : l.client.next with
    | writeHello => exact execute_writeHello hnext (hnext ▸ hphase)
    | readCookieType => exact execute_readCookieType hnext (hnext ▸ hphase)
    | readCookie => exact execute_readCookie hnext (hnext ▸ hphase)
    | loop i => exact execute_loop hnext (hnext ▸ hphase)
    | writeKick i => exact execute_writeKick hnext (hnext ▸ hphase)
    | writeFlags i => exact execute_writeFlags hnext (hnext ▸ hphase)
    | readReply i => exact execute_readReply hnext (hnext ▸ hphase)
    | readCodec i => exact execute_readCodec hnext (hnext ▸ hphase)
    | returned ok =>
      have hwait : l.client.execute l.downstream = none := by rw [Handshake.execute, hnext]
      rw [execute_of_none hwait]
      exact h.phase

/-! ### Handlers of the server -/

lemma length_kickMessage (flags : BitVec 32) : (kickMessage flags).length = 12 := by
  rw [kickMessage, List.length_append, length_typeBytes, length_toLittleEndian]
  rfl

lemma hello_complete : (typeBytes messageHello).length =
    messageGetLength (messageType (typeBytes messageHello)) + messageTypeSize := by
  rw [messageType_typeBytes_self]
  rfl

lemma kickMessage_complete (flags : BitVec 32) : (kickMessage flags).length =
    messageGetLength (messageType (kickMessage flags)) + messageTypeSize := by
  rw [length_kickMessage, kickMessage, messageType_typeBytes]
  rfl

lemma handle_hello (c : PyroStreamConnection) (codec : CodecParameters) {received : List UInt8}
    (hne : received ≠ []) (hroom : received.length ≤ maxMessageBufferLength - c.tcp.length)
    (hm : c.tcp ++ received = typeBytes messageHello) :
    c.handle codec 0 received =
      (true, { c with tcp := [] }, [.message messageHello [], .sendCookie c.cookie]) := by
  have htype := messageType_typeBytes_self messageHello
  rw [c.handle_single codec hne hroom hm hello_complete (by rw [htype]; rfl) (by rw [htype]; rfl), htype]
  rfl

lemma toBytes_hello (v : BitVec 64) :
    [Event.message messageHello [], .sendCookie v].flatMap Event.toBytes = cookieMessage v := by
  rw [List.flatMap_cons, List.flatMap_cons, List.flatMap_nil, List.append_nil]
  exact List.nil_append _

/-- The answer to the first KICKs. -/
structure KickAnswer (c : PyroStreamConnection) (codec : CodecParameters) (c' : PyroStreamConnection)
    (events : List Event) : Prop where
  tcp : c'.tcp = []
  cookie : c'.cookie = c.cookie
  udpRemote : c'.udpRemote = c.udpRemote
  notRedundant : isRedundantKick events = false
  reply : (c'.kicked = true ∧ c.udpRemote.isSet = true ∧ codec.videoCodec ≠ videoCodecNone ∧
      events.any isAnswer = true ∧
      events.flatMap Event.toBytes = typeBytes messageCodecParameters ++ codec.toBytes) ∨
    (c'.kicked = false ∧ events.any isAnswer = false ∧
      (events.flatMap Event.toBytes = typeBytes messageNak ∨
        events.flatMap Event.toBytes = typeBytes messageAgain))

lemma handle_kick (c : PyroStreamConnection) (codec : CodecParameters) {received : List UInt8}
    {flags : BitVec 32} (hne : received ≠ [])
    (hroom : received.length ≤ maxMessageBufferLength - c.tcp.length)
    (hm : c.tcp ++ received = kickMessage flags) (hkicked : c.kicked = false) :
    ∃ c' events, c.handle codec 0 received = (true, c', events) ∧ KickAnswer c codec c' events := by
  have htype : messageType (kickMessage flags) = messageKick := messageType_typeBytes _ _
  let payload := (kickMessage flags).drop messageTypeSize
  let c₁ := { c with kickFlags := BitVec.ofNat 32 (littleEndian (payload.take 4)) }
  let tail := (if c₁.kickFlags &&& kickStateGamepadBit ≠ 0 then [Event.resetGamepadOwnership] else []) ++
    [.startTimeout]
  have hcase : c.handleMessage codec messageKick payload =
      if c.udpRemote.isSet && codec.videoCodec ≠ videoCodecNone then
        ⟨true, { c₁ with kicked := true, needsKeyFrame := true }, .sendCodecParameters codec :: tail⟩
      else if c.udpRemote.isSet then ⟨true, c₁, .sendAgain :: tail⟩
      else ⟨true, c₁, .sendNak :: tail⟩ := by
    have hfirst : ¬c₁.kicked = true := by
      change ¬c.kicked = true
      rw [hkicked]
      exact Bool.false_ne_true
    exact if_neg hfirst
  have hconsumed : (c.handleMessage codec messageKick payload).consumed = true := by
    rw [hcase]
    split_ifs <;> rfl
  have hhandle := c.handle_single codec hne hroom hm (kickMessage_complete flags)
    (by rw [htype]; rfl) (by rw [htype]; exact hconsumed)
  rw [htype] at hhandle
  refine ⟨_, _, hhandle, ?_⟩
  change KickAnswer c codec { (c.handleMessage codec messageKick payload).connection with tcp := [] }
    (.message messageKick payload :: (c.handleMessage codec messageKick payload).events)
  have hevents : ∀ answer : Event, isRedundantKick (.message messageKick payload :: answer :: tail) = false ∧
      (Event.message messageKick payload :: answer :: tail).any isAnswer = isAnswer answer ∧
      (Event.message messageKick payload :: answer :: tail).flatMap Event.toBytes = answer.toBytes := by
    intro answer
    unfold tail
    split_ifs
    · exact ⟨rfl, Bool.or_false _, List.append_nil _⟩
    · exact ⟨rfl, Bool.or_false _, List.append_nil _⟩
  rw [hcase]
  split_ifs with hready hknown
  · obtain ⟨hlast, hany, hbytes⟩ := hevents (.sendCodecParameters codec)
    rw [Bool.and_eq_true, decide_eq_true_iff] at hready
    exact ⟨rfl, rfl, rfl, hlast, .inl ⟨rfl, hready.1, hready.2, hany, hbytes⟩⟩
  · obtain ⟨hlast, hany, hbytes⟩ := hevents .sendAgain
    exact ⟨rfl, rfl, rfl, hlast, .inr ⟨hkicked, hany, .inr hbytes⟩⟩
  · obtain ⟨hlast, hany, hbytes⟩ := hevents .sendNak
    exact ⟨rfl, rfl, rfl, hlast, .inr ⟨hkicked, hany, .inl hbytes⟩⟩

lemma handle_some {c : PyroStreamConnection} {codec : CodecParameters} {id n : Nat}
    (hc : l.connection = some c) :
    let r := c.handle codec id (l.upstream.take n)
    l.handle codec id n = { l with
      connection := some r.2.1
      registered := r.1
      upstream := l.upstream.drop n
      downstream := l.downstream ++ r.2.2.flatMap Event.toBytes
      replied := l.replied ++ r.2.2.flatMap Event.toBytes
      answer := if r.2.2.any isAnswer then some codec else l.answer
      redundantKick := l.redundantKick || isRedundantKick r.2.2 } := by
  unfold handle
  rw [hc]

lemma handle_eq {c c' : PyroStreamConnection} {codec : CodecParameters} {id n : Nat} {ok : Bool}
    {events : List Event} (hc : l.connection = some c)
    (h : c.handle codec id (l.upstream.take n) = (ok, c', events)) :
    l.handle codec id n = { l with
      connection := some c'
      registered := ok
      upstream := l.upstream.drop n
      downstream := l.downstream ++ events.flatMap Event.toBytes
      replied := l.replied ++ events.flatMap Event.toBytes
      answer := if events.any isAnswer then some codec else l.answer
      redundantKick := l.redundantKick || isRedundantKick events } := by
  rw [handle_some hc, h]

/-- A handler that says nothing and only moves bytes into the buffer. -/
lemma handle_unnoticed {c : PyroStreamConnection} {codec : CodecParameters} {id n : Nat} {ok : Bool}
    {tcp : List UInt8} {events : List Event} (hc : l.connection = some c)
    (h : c.handle codec id (l.upstream.take n) = (ok, { c with tcp := tcp }, events))
    (hevents : events = [] ∨ events = [.cancelConnection])
    (htcp : tcp ++ l.upstream.drop n = c.tcp ++ l.upstream) : Unnoticed l (l.handle codec id n) := by
  have hsilent : events.flatMap Event.toBytes = [] ∧ events.any isAnswer = false ∧
      isRedundantKick events = false := by
    rcases hevents with rfl | rfl
    · exact ⟨rfl, rfl, rfl⟩
    · exact ⟨rfl, rfl, rfl⟩
  rw [handle_eq hc h, hsilent.1, hsilent.2.1, hsilent.2.2]
  constructor
  · rfl
  · exact List.append_nil _
  · rfl
  · exact Bool.or_false _
  · simpa only [pending, hc, Option.elim_some] using htcp
  · simp only [kicked, hc, Option.any_some]
  · simp only [known, hc, Option.any_some, imp_self]
  · simp only [cookie, hc, Option.map_some, imp_self, implies_true]

/-- A question that has come in completely, or else nobody notices. -/
lemma handle_cases {c : PyroStreamConnection} (codec : CodecParameters) {id n : Nat} {m : List UInt8}
    (hc : l.connection = some c) (hn : n ≤ l.upstream.length) (hroom : n ≤ Network.room c id)
    (hpending : l.pending <+: m)
    (hm : m.length = messageGetLength (messageType m) + messageTypeSize) :
    Unnoticed l (l.handle codec id n) ∨ (id = 0 ∧ l.upstream.take n ≠ [] ∧ l.upstream.drop n = [] ∧
      (l.upstream.take n).length ≤ maxMessageBufferLength - c.tcp.length ∧
      c.tcp ++ l.upstream.take n = m) := by
  have hstream : c.tcp ++ l.upstream.take n ++ l.upstream.drop n = l.pending := by
    rw [List.append_assoc, List.take_append_drop, pending, hc]
    rfl
  by_cases hquiet : id ≠ 0 ∨ n = 0
  · -- The timer, or the end of the stream.
    have hzero : n = 0 := by
      rcases hquiet with hid | hzero
      · rw [Network.room, if_neg hid] at hroom
        exact Nat.le_zero.1 hroom
      · exact hzero
    subst hzero
    obtain ⟨events, hhandle, hevents⟩ := c.handle_of_none codec id (l.upstream.take 0) (.inr rfl)
    exact .inl (handle_unnoticed hc hhandle hevents rfl)
  · obtain ⟨hid, hpos⟩ := not_or.1 hquiet
    rw [not_not] at hid
    subst hid
    have hne : l.upstream.take n ≠ [] := by
      apply List.ne_nil_of_length_pos
      rw [List.length_take]
      omega
    have hlength : (l.upstream.take n).length ≤ maxMessageBufferLength - c.tcp.length := by
      rw [Network.room, if_pos rfl] at hroom
      exact (List.length_take_le _ _).trans hroom
    by_cases hholds : holdsMessage (c.tcp ++ l.upstream.take n) = true
    · have hprefix : c.tcp ++ l.upstream.take n <+: m := List.IsPrefix.trans ⟨_, hstream⟩ hpending
      have hall := eq_of_holdsMessage hm hprefix hholds
      refine .inr ⟨rfl, hne, ?_, hlength, hall⟩
      obtain ⟨after, hafter⟩ := hpending
      rw [← hstream, hall, List.append_assoc] at hafter
      exact (List.append_eq_nil_iff.1 (List.append_right_eq_self.1 hafter)).1
    · rw [Bool.not_eq_true] at hholds
      have hhandle := c.handle_incomplete codec hne hlength hholds
      refine .inl (handle_unnoticed hc hhandle (.inl rfl) ?_)
      rw [List.append_assoc, List.take_append_drop]

lemma handle_quiet {c : PyroStreamConnection} (codec : CodecParameters) {id n : Nat}
    (hc : l.connection = some c) (hn : n ≤ l.upstream.length) (hroom : n ≤ Network.room c id)
    (hpending : l.pending = []) : Unnoticed l (l.handle codec id n) := by
  have hprefix : l.pending <+: typeBytes messageHello := by
    rw [hpending]
    exact List.nil_prefix
  rcases handle_cases codec hc hn hroom hprefix hello_complete with hsame | ⟨-, hne, -, -, -⟩
  · exact hsame
  · have hnone : l.upstream = [] := (List.append_eq_nil_iff.1 hpending).2
    rw [hnone, List.take_nil] at hne
    exact absurd rfl hne

lemma handle_readCookieType {c : PyroStreamConnection} (codec : CodecParameters) {id n : Nat}
    (hc : l.connection = some c) (hn : n ≤ l.upstream.length) (hroom : n ≤ Network.room c id)
    (hnext : l.client.next = .readCookieType) (h : l.At .readCookieType) :
    (l.handle codec id n).Phase := by
  have hphase : l.Phase := by
    unfold Phase
    rwa [hnext]
  obtain ⟨hl, ⟨hasked, hnone⟩ | ⟨hpending, -⟩⟩ := h
  · rcases handle_cases codec hc hn hroom (hasked ▸ List.prefix_rfl) hello_complete with
      hsame | ⟨rfl, hne, hdrop, hlength, hall⟩
    · exact hsame.phase hphase
    · have hhandle := handle_eq hc (handle_hello c codec hne hlength hall)
      rw [hhandle]
      unfold Phase
      dsimp only
      rw [hnext]
      have hkicked : c.kicked = false := by simpa only [kicked, hc, Option.any_some] using hl.notKicked
      refine ⟨⟨hkicked, hl.noCodec, ?_⟩, .inr ⟨?_, c.cookie, rfl, ?_⟩⟩
      · change (l.redundantKick || false) = false
        rw [hl.notRedundant]
        rfl
      · exact hdrop
      · rw [hnone, List.nil_append, toBytes_hello]
  · exact (handle_quiet codec hc hn hroom hpending).phase hphase

lemma handle_readReply {c : PyroStreamConnection} (codec : CodecParameters) {id n i : Nat}
    (hc : l.connection = some c) (hn : n ≤ l.upstream.length) (hroom : n ≤ Network.room c id)
    (hnext : l.client.next = .readReply i) (h : l.At (.readReply i)) :
    (l.handle codec id n).Phase := by
  have hphase : l.Phase := by
    unfold Phase
    rwa [hnext]
  obtain ⟨hcookie, ⟨hl, hasked, hnone⟩ | ⟨-, hpending, -⟩ | ⟨hpending, -⟩⟩ := h
  · have hprefix : l.pending <+: kickMessage l.client.flags := by
      rw [hasked]
    rcases handle_cases codec hc hn hroom hprefix (kickMessage_complete _) with
      hsame | ⟨rfl, hne, hdrop, hlength, hall⟩
    · exact hsame.phase hphase
    · have hkicked : c.kicked = false := by simpa only [kicked, hc, Option.any_some] using hl.notKicked
      obtain ⟨c', events, hhandle, hanswer⟩ := handle_kick c codec hne hlength hall hkicked
      have hredundant : (l.redundantKick || isRedundantKick events) = false := by
        rw [hl.notRedundant, hanswer.notRedundant]
        rfl
      have hcookie' : some c'.cookie = some l.client.cookie := by
        rw [hanswer.cookie, ← hcookie, cookie, hc]
        rfl
      have hpending' : c'.tcp ++ l.upstream.drop n = [] := by rw [hanswer.tcp, hdrop, List.append_nil]
      rw [handle_eq hc hhandle]
      unfold Phase
      dsimp only
      rw [hnext]
      refine ⟨hcookie', ?_⟩
      rw [hnone, List.nil_append]
      rcases hanswer.reply with ⟨hnow, hknown, hcodec, hany, hbytes⟩ | ⟨hnot, hany, hbytes⟩
      · rw [hbytes, hany, if_pos rfl]
        refine .inr (.inr ⟨hpending', codec, ⟨hnow, ?_, rfl, hcodec, hredundant⟩, rfl⟩)
        change c'.udpRemote.isSet = true
        rw [hanswer.udpRemote, hknown]
      · exact .inr (.inl ⟨⟨hnot, hl.noCodec, hredundant⟩, hpending', hbytes⟩)
  · exact (handle_quiet codec hc hn hroom hpending).phase hphase
  · exact (handle_quiet codec hc hn hroom hpending).phase hphase

lemma handle_writeFlags {c : PyroStreamConnection} (codec : CodecParameters) {id n i : Nat}
    (hc : l.connection = some c) (hn : n ≤ l.upstream.length) (hroom : n ≤ Network.room c id)
    (h : l.At (.writeFlags i)) : Unnoticed l (l.handle codec id n) := by
  obtain ⟨-, -, hpending, -⟩ := h
  have hprefix : l.pending <+: kickMessage l.client.flags := by
    rw [hpending]
    exact List.prefix_append _ _
  rcases handle_cases codec hc hn hroom hprefix (kickMessage_complete _) with
    hsame | ⟨-, -, hdrop, -, hall⟩
  · exact hsame
  · have hlength := congrArg List.length hpending
    rw [pending, hc, Option.elim_some, ← List.take_append_drop n l.upstream, hdrop, List.append_nil, hall,
      length_kickMessage, length_typeBytes] at hlength
    exact absurd hlength (by decide)

lemma udpRemote_handle (c : PyroStreamConnection) (codec : CodecParameters) (id : Nat)
    (received : List UInt8) : (c.handle codec id received).2.1.udpRemote = c.udpRemote := by
  apply handle_keeps
  · exact fun c tcp => rfl
  · exact fun c codec type payload => (handleMessage_spec codec c type payload).2.1

lemma cookie_connection_handle (c : PyroStreamConnection) (codec : CodecParameters) (id : Nat)
    (received : List UInt8) : (c.handle codec id received).2.1.cookie = c.cookie := by
  apply handle_keeps
  · exact fun c tcp => rfl
  · intro c codec type payload
    unfold handleMessage handleHello handleKick handleProgress
    dsimp only
    split_ifs <;> rfl

lemma cookie_handle (l : Link) (codec : CodecParameters) (id n : Nat) :
    (l.handle codec id n).cookie = l.cookie := by
  unfold handle
  split
  · rfl
  · rename_i c hc
    simp only [cookie, hc, Option.map_some, cookie_connection_handle]

lemma Sound.handle {address : RemoteAddress} (h : l.Sound address) (codec : CodecParameters) {id n : Nat}
    (hn : n ≤ l.upstream.length)
    (hroom : l.connection.all (fun c => n ≤ Network.room c id) = true) :
    (l.handle codec id n).Sound address := by
  cases hc : l.connection with
  | none =>
    unfold Link.handle
    rw [hc]
    exact h
  | some c =>
    have hroom' : n ≤ Network.room c id := by simpa only [hc, Option.all_some, decide_eq_true_iff] using hroom
    have hat := h.phase
    unfold Phase at hat
    constructor
    · intro c' hc'
      rw [handle_some hc] at hc'
      rw [← Option.some.inj hc', udpRemote_handle]
      exact h.remote c hc
    · rw [handle_some hc, ← h.stream]
      exact (List.append_assoc _ _ _).symm
    · have hquiet : l.pending = [] → (l.handle codec id n).Phase :=
        fun hpending => (handle_quiet codec hc hn hroom' hpending).phase h.phase
      cases hnext : l.client.next with
      | writeHello =>
        rw [hnext] at hat
        exact hquiet hat.1.pending
      | readCookieType =>
        rw [hnext] at hat
        exact handle_readCookieType codec hc hn hroom' hnext hat
      | readCookie =>
        rw [hnext] at hat
        exact hquiet hat.2.1
      | loop i =>
        rw [hnext] at hat
        exact hquiet hat.2.1.pending
      | writeKick i =>
        rw [hnext] at hat
        exact hquiet hat.2.1.pending
      | writeFlags i =>
        rw [hnext] at hat
        exact (handle_writeFlags codec hc hn hroom' hat).phase h.phase
      | readReply i =>
        rw [hnext] at hat
        exact handle_readReply codec hc hn hroom' hnext hat
      | readCodec i =>
        rw [hnext] at hat
        exact hquiet hat.2.1
      | returned ok =>
        rw [hnext] at hat
        cases ok with
        | true => exact hquiet hat.1.pending
        | false =>
          unfold Phase
          rw [handle_some hc]
          dsimp only
          rw [hnext]
          trivial

/-! ### The other steps -/

/-- The cookie of a connection in a datagram from its client. -/
lemma handleUdpDatagram_cookieMessage (c : PyroStreamConnection) (pts : BitVec 64) (remote : RemoteAddress)
    (v : BitVec 64) : (c.handleUdpDatagram pts remote (cookieMessage v)).1 =
      if v = c.cookie ∧ c.udpRemote.isSet = false then { c with udpRemote := remote } else c := by
  have htype : messageType (cookieMessage v) = messageCookie := messageType_typeBytes _ _
  have hlength : (cookieMessage v).length = 16 := by
    rw [cookieMessage, List.length_append, length_typeBytes, length_toLittleEndian]
    rfl
  have hpayload : (cookieMessage v).drop messageTypeSize = toLittleEndian 8 v.toNat :=
    List.drop_left' (length_typeBytes _)
  have htake : (toLittleEndian 8 v.toNat).take 8 = toLittleEndian 8 v.toNat :=
    List.take_of_length_le (length_toLittleEndian _ _).le
  have hequal : toLittleEndian 8 v.toNat = toLittleEndian 8 c.cookie.toNat ↔ v = c.cookie :=
    ⟨toLittleEndian_cookie_inj, fun h => h ▸ rfl⟩
  unfold PyroStreamConnection.handleUdpDatagram
  rw [htype, hlength, if_neg (by decide), if_neg (by decide), if_neg (by decide)]
  dsimp only
  rw [if_pos rfl, hpayload, handleCookie, htake]
  simp only [hequal]

lemma Sound.handleUdpDatagram {address remote : RemoteAddress} (h : l.Sound address) (pts : BitVec 64)
    {v : BitVec 64} (hremote : l.cookie = some v → remote = address) :
    (l.handleUdpDatagram pts remote (cookieMessage v)).Sound address := by
  unfold Link.handleUdpDatagram
  split_ifs with hregistered
  · cases hc : l.connection with
    | none =>
      have hsame : Unnoticed l { l with connection := Option.map (fun c : PyroStreamConnection =>
          (c.handleUdpDatagram pts remote (cookieMessage v)).1) none } := by
        constructor <;> simp [pending, kicked, known, cookie, hc]
      refine ⟨fun c hc' => ?_, h.stream, hsame.phase h.phase⟩
      cases hc'
    | some c =>
      rw [Option.map_some, handleUdpDatagram_cookieMessage]
      split_ifs with hmatch
      · have hsame : Unnoticed l { l with connection := some { c with udpRemote := remote } } := by
          constructor
          · rfl
          · rfl
          · rfl
          · rfl
          · simp only [pending, hc, Option.elim_some]
          · simp only [kicked, hc, Option.any_some]
          · simp [known, hc, hmatch.2]
          · simp only [cookie, hc, Option.map_some, imp_self, implies_true]
        have hcookie : l.cookie = some v := by rw [cookie, hc, Option.map_some, hmatch.1]
        refine ⟨fun c' hc' _ => ?_, h.stream, hsame.phase h.phase⟩
        rw [← Option.some.inj hc']
        exact hremote hcookie
      · have hl : { l with connection := some c } = l := by rw [← hc]
        rw [hl]
        exact h
  · exact h

lemma Sound.fail {address : RemoteAddress} (h : l.Sound address) : l.fail.Sound address :=
  ⟨h.remote, h.stream, trivial⟩

lemma Sound.register {address : RemoteAddress} (h : l.Sound address) (hnone : l.connection.isNone = true)
    (v : BitVec 64) (fec : Bool) : Sound address { l with
      connection := some ((PyroStreamConnection.new v).setForwardErrorCorrection fec), registered := true } := by
  have hc : l.connection = none := Option.isNone_iff_eq_none.1 hnone
  have hsame : Unnoticed l { l with
      connection := some ((PyroStreamConnection.new v).setForwardErrorCorrection fec), registered := true } := by
    constructor
    · rfl
    · rfl
    · rfl
    · rfl
    · simp only [pending, hc]
      rfl
    · simp only [kicked, hc]
      rfl
    · simp [known, hc]
    · simp [cookie, hc]
  refine ⟨fun c hc' hset => ?_, h.stream, hsame.phase h.phase⟩
  rw [← Option.some.inj hc'] at hset
  exact absurd hset Bool.false_ne_true

lemma sound_initial (address : RemoteAddress) (flags : BitVec 32) :
    Sound address { client := { flags := flags } } := by
  refine ⟨fun c hc => ?_, rfl, ⟨rfl, rfl⟩, ⟨rfl, rfl, rfl⟩⟩
  cases hc

/-- What the server and a client have agreed on once its handshake has succeeded. -/
structure Agreement (address : RemoteAddress) (l : Link) : Prop where
  connection : ∃ c, l.connection = some c ∧ c.kicked = true ∧ c.udpRemote = address
  codec : l.answer = some l.client.codec
  consumed : l.consumed = l.replied
  downstream : l.downstream = []
  notRedundant : l.redundantKick = false

lemma Sound.agreement {address : RemoteAddress} (h : l.Sound address)
    (hreturned : l.client.next = .returned true) : Agreement address l := by
  have hphase := h.phase
  unfold Phase at hphase
  rw [hreturned] at hphase
  obtain ⟨hquiet, hserved⟩ := hphase
  obtain ⟨c, hc, hkicked⟩ := (Option.any_eq_true _ _).1 hserved.kicked
  have hknown := hserved.known
  rw [known, hc, Option.any_some] at hknown
  have hstream := h.stream
  rw [hquiet.downstream, List.append_nil] at hstream
  exact ⟨⟨c, hc, hkicked, h.remote c hc hknown⟩, hserved.answer, hstream, hquiet.downstream,
    hserved.notRedundant⟩

/-- The only datagrams are those with the cookie of the connection. -/
lemma Phase.datagram (h : l.Phase) {msg : List UInt8}
    (hmsg : (l.client.execute l.downstream).bind Handshake.Outcome.datagram = some msg) :
    ∃ v, l.cookie = some v ∧ msg = cookieMessage v := by
  unfold Phase at h
  cases hnext : l.client.next with
  | loop i =>
    rw [hnext] at h
    rw [Handshake.execute, hnext] at hmsg
    dsimp only at hmsg
    split_ifs at hmsg
    · exact ⟨l.client.cookie, h.1, (Option.some.inj hmsg).symm⟩
    · cases hmsg
  | _ =>
    rw [Handshake.execute, hnext] at hmsg
    simp only [Handshake.read, Option.bind_some] at hmsg
    first
    | cases hmsg
    | split_ifs at hmsg <;> cases hmsg

lemma cookie_execute (l : Link) : l.execute.cookie = l.cookie := by
  unfold execute
  split <;> rfl

lemma cookie_handleUdpDatagram (l : Link) (pts : BitVec 64) (remote : RemoteAddress) (v : BitVec 64) :
    (l.handleUdpDatagram pts remote (cookieMessage v)).cookie = l.cookie := by
  unfold handleUdpDatagram
  split_ifs
  · cases hc : l.connection with
    | none => simp only [cookie, hc, Option.map_none]
    | some c =>
      simp only [cookie, hc, Option.map_some, handleUdpDatagram_cookieMessage]
      split_ifs <;> rfl
  · rfl

end Link

namespace Network

open Link

variable {ι : Type*} {address : ι → RemoteAddress} {s : Network ι}

/-! ### All clients -/

/-- The invariant of the network. -/
structure Sound (address : ι → RemoteAddress) (s : Network ι) : Prop where
  cookie : s.cookie = BitVec.ofNat 64 (1000 + s.accepted.length)
  numbered : ∀ i v, (s.link i).cookie = some v →
    ∃ k, s.accepted[k]? = some i ∧ v = BitVec.ofNat 64 (1001 + k)
  sent : ∀ d ∈ s.datagrams, ∃ i v, (s.link i).cookie = some v ∧ d = (address i, cookieMessage v)
  links : ∀ i, (s.link i).Sound (address i)

lemma sound_initial (flags : ι → BitVec 32) : Sound address (initial flags) := by
  constructor
  · rfl
  · intro i v hv
    cases hv
  · intro d hd
    cases hd
  · exact fun i => Link.sound_initial (address i) (flags i)

/-- Cookies are unique as long as the counter does not come around. -/
lemma Sound.cookie_unique (h : s.Sound address) (hfew : s.accepted.length ≤ 2 ^ 64) {i j : ι} {v : BitVec 64}
    (hi : (s.link i).cookie = some v) (hj : (s.link j).cookie = some v) : i = j := by
  obtain ⟨k, hk, hvk⟩ := h.numbered i v hi
  obtain ⟨k', hk', hvk'⟩ := h.numbered j v hj
  obtain ⟨hlt, -⟩ := List.getElem?_eq_some_iff.1 hk
  obtain ⟨hlt', -⟩ := List.getElem?_eq_some_iff.1 hk'
  have hsame : k = k' := by
    have hvalue := congrArg BitVec.toNat (hvk.symm.trans hvk')
    rw [BitVec.toNat_ofNat, BitVec.toNat_ofNat] at hvalue
    omega
  rw [hsame, hk'] at hk
  exact (Option.some.inj hk).symm

variable [DecidableEq ι]

lemma link_update_self (s : Network ι) (i : ι) (l : Link) : (s.update i l).link i = l :=
  Function.update_self _ _ _

lemma link_update_of_ne (s : Network ι) {i j : ι} (hj : j ≠ i) (l : Link) :
    (s.update i l).link j = s.link j := Function.update_of_ne hj _ _

lemma Sound.update (h : s.Sound address) {i : ι} {l : Link} (hl : l.Sound (address i))
    (hcookie : l.cookie = (s.link i).cookie) : (s.update i l).Sound address := by
  have hcookies : ∀ j, ((s.update i l).link j).cookie = (s.link j).cookie := by
    intro j
    by_cases hj : j = i
    · subst hj
      rw [link_update_self, hcookie]
    · rw [link_update_of_ne s hj]
  constructor
  · exact h.cookie
  · intro j v hv
    rw [hcookies] at hv
    exact h.numbered j v hv
  · intro d hd
    obtain ⟨j, v, hv, rfl⟩ := h.sent d hd
    exact ⟨j, v, (hcookies j).trans hv, rfl⟩
  · intro j
    by_cases hj : j = i
    · subst hj
      rwa [link_update_self]
    · rw [link_update_of_ne s hj]
      exact h.links j

lemma Sound.registerTcpHandler (h : s.Sound address) {i : ι}
    (hnone : (s.link i).connection.isNone = true) : (s.registerTcpHandler i).Sound address := by
  have hother : ∀ j, j ≠ i → (s.registerTcpHandler i).link j = s.link j :=
    fun j hj => Function.update_of_ne hj _ _
  have hnew : (s.registerTcpHandler i).link i = { s.link i with
      connection := some ((PyroStreamConnection.new (s.cookie + 1)).setForwardErrorCorrection s.fec)
      registered := true } := Function.update_self _ _ _
  have hfresh : (s.link i).cookie = none := by
    rw [Link.cookie, Option.isNone_iff_eq_none.1 hnone, Option.map_none]
  have hnext : s.cookie + 1 = BitVec.ofNat 64 (1001 + s.accepted.length) := by
    rw [h.cookie]
    apply BitVec.eq_of_toNat_eq
    rw [BitVec.toNat_add, BitVec.toNat_ofNat, BitVec.toNat_ofNat]
    change ((1000 + s.accepted.length) % 2 ^ 64 + 1) % 2 ^ 64 = (1001 + s.accepted.length) % 2 ^ 64
    omega
  constructor
  · change s.cookie + 1 = BitVec.ofNat 64 (1000 + (s.accepted ++ [i]).length)
    rw [hnext, List.length_append]
    congr 1
    simp
    omega
  · intro j v hv
    by_cases hj : j = i
    · subst hj
      rw [hnew] at hv
      refine ⟨s.accepted.length, ?_, ?_⟩
      · exact List.getElem?_concat_length
      · exact (Option.some.inj hv).symm.trans hnext
    · rw [hother j hj] at hv
      obtain ⟨k, hk, hvk⟩ := h.numbered j v hv
      exact ⟨k, (List.getElem?_append_left (List.getElem?_eq_some_iff.1 hk).1).trans hk, hvk⟩
  · intro d hd
    obtain ⟨j, v, hv, rfl⟩ := h.sent d hd
    have hj : j ≠ i := by
      rintro rfl
      rw [hfresh] at hv
      cases hv
    exact ⟨j, v, by rw [hother j hj, hv], rfl⟩
  · intro j
    by_cases hj : j = i
    · subst hj
      rw [hnew]
      exact (h.links j).register hnone _ _
    · rw [hother j hj]
      exact h.links j

lemma Sound.handleUdpDatagram (h : s.Sound address) (hfew : s.accepted.length ≤ 2 ^ 64) (pts : BitVec 64)
    {remote : RemoteAddress} {msg : List UInt8} (hmem : (remote, msg) ∈ s.datagrams) :
    (s.step address (.handleUdpDatagram pts remote msg)).Sound address := by
  obtain ⟨i, v, hv, hd⟩ := h.sent _ hmem
  obtain ⟨rfl, rfl⟩ := Prod.mk.inj hd
  constructor
  · exact h.cookie
  · intro j v' hv'
    exact h.numbered j v' (((s.link j).cookie_handleUdpDatagram pts _ v).symm.trans hv')
  · intro d hd
    obtain ⟨j, v', hv', rfl⟩ := h.sent d hd
    exact ⟨j, v', ((s.link j).cookie_handleUdpDatagram pts _ v).trans hv', rfl⟩
  · intro j
    apply (h.links j).handleUdpDatagram pts
    intro hj
    rw [h.cookie_unique hfew hv hj]

lemma Sound.execute (h : s.Sound address) (i : ι) : (s.step address (.execute i)).Sound address := by
  have hupdate := h.update (h.links i).execute (s.link i).cookie_execute
  refine ⟨hupdate.cookie, hupdate.numbered, ?_, hupdate.links⟩
  intro d hd
  rcases List.mem_append.1 hd with hd | hd
  · exact hupdate.sent d hd
  · obtain ⟨msg, hmsg, rfl⟩ := List.mem_map.1 hd
    obtain ⟨v, hv, rfl⟩ := (h.links i).phase.datagram (Option.mem_toList.1 hmsg)
    refine ⟨i, v, ?_, rfl⟩
    change ((s.update i (s.link i).execute).link i).cookie = some v
    rw [link_update_self, cookie_execute, hv]

lemma Sound.step (h : s.Sound address) (hfew : s.accepted.length ≤ 2 ^ 64) {a : Action ι}
    (henabled : s.Enabled a) : (s.step address a).Sound address := by
  cases a with
  | setCodecParameters codec => exact ⟨h.cookie, h.numbered, h.sent, h.links⟩
  | setForwardErrorCorrection enable => exact ⟨h.cookie, h.numbered, h.sent, h.links⟩
  | registerTcpHandler i => exact h.registerTcpHandler henabled
  | handle i id n =>
    obtain ⟨-, hn, hroom⟩ := henabled
    exact h.update ((h.links i).handle s.codec hn hroom) (cookie_handle ..)
  | handleUdpDatagram pts remote msg => exact h.handleUdpDatagram hfew pts henabled
  | execute i => exact h.execute i
  | fail i => exact h.update (h.links i).fail rfl

lemma length_accepted_step (s : Network ι) (a : Action ι) :
    s.accepted.length ≤ (s.step address a).accepted.length := by
  cases a with
  | registerTcpHandler i =>
    change s.accepted.length ≤ (s.accepted ++ [i]).length
    rw [List.length_append]
    exact Nat.le_add_right _ _
  | _ => exact le_rfl

/-- A client whose handshake succeeds has got the codec parameters and nothing else, and the server sends
to the address of this client, unless more than `2 ^ 64` connections have been accepted. -/
theorem handshake_agreement (address : ι → RemoteAddress) (flags : ι → BitVec 32) (actions : List (Action ι))
    (hrun : Runs.Along (step address) Enabled (initial flags) actions)
    (hfew : (actions.foldl (step address) (initial flags)).accepted.length ≤ 2 ^ 64) (i : ι)
    (hreturned : ((actions.foldl (step address) (initial flags)).link i).client.next = .returned true) :
    Agreement (address i) ((actions.foldl (step address) (initial flags)).link i) := by
  have hsound := hrun.invariant (I := fun s => s.accepted.length ≤ 2 ^ 64 → s.Sound address)
    (fun _ => sound_initial flags) (fun s a h henabled hle => by
      have hle' := (length_accepted_step s a).trans hle
      exact (h hle').step hle' henabled)
  exact ((hsound hfew).links i).agreement hreturned

/-- The first client has an address of its own. -/
def twoAddresses (i : Nat) : RemoteAddress := if i = 0 then ⟨[1]⟩ else ⟨[2]⟩

/-- A handshake whose first attempt is refused because the datagram is late. -/
def secondAttempt : List (Action Nat) :=
  [.registerTcpHandler 0, .execute 0, .handle 0 0 3, .handle 0 0 5, .execute 0, .execute 0, .execute 0,
    .execute 0, .execute 0, .handle 0 0 12, .execute 0,
    .handleUdpDatagram 0 ⟨[1]⟩ (cookieMessage 1001), .setCodecParameters { videoCodec := 1 },
    .execute 0, .execute 0, .execute 0, .handle 0 0 12, .execute 0, .execute 0, .execute 0]

theorem handshake_second_attempt :
    Agreement ⟨[1]⟩ ((secondAttempt.foldl (step twoAddresses) (initial fun _ => 0)).link 0) :=
  handshake_agreement twoAddresses (fun _ => 0) secondAttempt (by decide +kernel) (by decide +kernel) 0
    (by decide +kernel)

/-! ### Cookies that come around -/

/-- `n` clients connect. -/
def crowded (n : Nat) : Network Nat where
  cookie := BitVec.ofNat 64 (1000 + n)
  link i := if i < n then { client := {}, registered := true
                            connection := some (PyroStreamConnection.new (BitVec.ofNat 64 (1001 + i))) }
    else { client := {} }
  accepted := List.range n

lemma crowded_succ (n : Nat) : (crowded n).registerTcpHandler n = crowded (n + 1) := by
  have hcookie : BitVec.ofNat 64 (1000 + n) + 1 = BitVec.ofNat 64 (1001 + n) := by
    apply BitVec.eq_of_toNat_eq
    rw [BitVec.toNat_add, BitVec.toNat_ofNat, BitVec.toNat_ofNat]
    change ((1000 + n) % 2 ^ 64 + 1) % 2 ^ 64 = (1001 + n) % 2 ^ 64
    omega
  unfold registerTcpHandler crowded
  simp only [hcookie, List.range_succ, mk.injEq, true_and, and_true]
  refine ⟨by congr 1; omega, ?_⟩
  funext i
  by_cases hi : i = n
  · subst hi
    simp [PyroStreamConnection.setForwardErrorCorrection, PyroStreamConnection.new]
  · rw [Function.update_of_ne hi]
    have hlt : i < n + 1 ↔ i < n := by omega
    simp only [hlt]

lemma foldl_register (n : Nat) : ((List.range n).map Action.registerTcpHandler).foldl (step twoAddresses)
    (initial fun _ => 0) = crowded n := by
  induction n with
  | zero => rfl
  | succ n ih =>
    rw [List.range_succ, List.map_append, List.foldl_append, ih]
    exact crowded_succ n

lemma along_register (n : Nat) : Runs.Along (step twoAddresses) Enabled (initial fun _ => 0)
    ((List.range n).map Action.registerTcpHandler) := by
  induction n with
  | zero => trivial
  | succ n ih =>
    rw [List.range_succ, List.map_append]
    apply ih.append
    rw [foldl_register]
    refine ⟨?_, trivial⟩
    change ((crowded n).link n).connection.isNone = true
    simp [crowded]

/-- The first client sends its cookie. The datagram is late, and arrives when the last client has got the
same cookie. -/
def lateCookie : List (Action Nat) :=
  let last := 2 ^ 64
  [.setCodecParameters { videoCodec := 1 },
    .execute 0, .handle 0 0 8, .execute 0, .execute 0, .execute 0,
    .execute last, .handle last 0 8, .execute last, .execute last, .execute last,
    .handleUdpDatagram 0 ⟨[1]⟩ (cookieMessage 1001),
    .execute last, .execute last, .handle last 0 12, .execute last, .execute last, .execute last]

/-- The last of `2 ^ 64 + 1` clients succeeds, and the server sends its packets to the first one. -/
theorem handshake_disagreement :
    ¬∀ (address : Nat → RemoteAddress) (flags : Nat → BitVec 32) (actions : List (Action Nat)),
      Runs.Along (step address) Enabled (initial flags) actions →
        ∀ i, ((actions.foldl (step address) (initial flags)).link i).client.next = .returned true →
          Agreement (address i) ((actions.foldl (step address) (initial flags)).link i) := by
  intro h
  have hrun : Runs.Along (step twoAddresses) Enabled (crowded (2 ^ 64 + 1)) lateCookie := by decide +kernel
  have hlast := h twoAddresses (fun _ => 0)
    ((List.range (2 ^ 64 + 1)).map Action.registerTcpHandler ++ lateCookie)
    ((along_register _).append (by rwa [foldl_register])) (2 ^ 64)
  rw [List.foldl_append, foldl_register] at hlast
  obtain ⟨c, hc, -, hremote⟩ := (hlast (by decide +kernel)).connection
  have hother : ((lateCookie.foldl (step twoAddresses) (crowded (2 ^ 64 + 1))).link (2 ^ 64)).connection.map
      PyroStreamConnection.udpRemote = some ⟨[1]⟩ := by decide +kernel
  rw [hc, Option.map_some, hremote] at hother
  exact absurd hother (by decide)

end Network

end PyroFling
