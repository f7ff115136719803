import PyroFling.Protocol
import PyroFling.Lt.Encode

/-!
# A stream connection of the server

`pyro-server/pyro_server.cpp`: the control messages of one TCP client, the packets sent to it over
UDP and the datagrams that come back. The receive buffer is the list of the bytes in it; what the
array holds behind them is never read. Logging is left out, and messages sent over TCP are taken to
get through.
-/

namespace PyroFling
open ByteMemory

/-- The `addr_size` bytes of a socket address. -/
structure RemoteAddress where
  addr : List UInt8 := []
  deriving DecidableEq

/-- `operator bool`. -/
def RemoteAddress.isSet (r : RemoteAddress) : Bool := !r.addr.isEmpty

structure PyroStreamConnection where
  cookie : BitVec 64 := 0
  udpRemote : RemoteAddress := {}
  packetSeqVideo : BitVec 32 := 0
  packetSeqAudio : BitVec 32 := 0
  kickFlags : BitVec 32 := 0
  fec : Bool := false
  kicked : Bool := false
  needsKeyFrame : Bool := false
  hasPendingVideoPacketLoss : Bool := false
  totalDroppedVideoPackets : Nat := 0
  /-- The last progress report, as it came. -/
  progress : List UInt8 := []
  encoder : Encoder := {}
  /-- The first `tcp_length` bytes of the receive buffer. -/
  tcp : List UInt8 := []
  lastGamepadSeq : BitVec 16 := 0
  validGamepadSeq : Bool := false

namespace PyroStreamConnection

/-- The constructor; a connection is known by its cookie. -/
def new (cookie : BitVec 64) : PyroStreamConnection where
  cookie := cookie
  packetSeqVideo := cookie.setWidth 32 &&& payloadSeqMask
  packetSeqAudio := (~~~cookie).setWidth 32 &&& payloadSeqMask

def setForwardErrorCorrection (c : PyroStreamConnection) (enable : Bool) : PyroStreamConnection :=
  { c with fec := enable }

def getAndClearPendingVideoPacketLoss (c : PyroStreamConnection) : Bool × PyroStreamConnection :=
  (c.hasPendingVideoPacketLoss, { c with hasPendingVideoPacketLoss := false })

/-! ### Packets -/

/-- How many FEC blocks a packet gets, and how many data blocks go into each of them. -/
structure FecLayout where
  numFecBlocks : Nat
  numXorBlocksEven : Nat
  numXorBlocksOdd : Nat

/-- About a quarter of overhead; small packets get a single block that covers all of them. -/
def fecLayout (numDataBlocks : Nat) : FecLayout :=
  if numDataBlocks ≤ 8 then ⟨1, numDataBlocks, numDataBlocks⟩
  else ⟨numDataBlocks / 4 + 1, min (numDataBlocks / 2) 64,
    min ((numDataBlocks + 1) % 2 ^ 32 / 2) 64⟩

def numDataBlocks (size : Nat) : Nat := (size + maxPayloadSize - 1) / maxPayloadSize % 2 ^ 32

def packetHeader (seq : BitVec 32) (fec : Bool) (pts dts : BitVec 64) (size : Nat)
    (isAudio isKeyFrame : Bool) : PayloadHeader :=
  let layout := fecLayout (numDataBlocks size)
  let header : PayloadHeader := {
    ptsLo := pts.setWidth 32
    ptsHi := (pts >>> 32).setWidth 32
    dtsDelta := (pts - dts).setWidth 32
    payloadSize := BitVec.ofNat 32 size
    encoded := (if isAudio then payloadStreamTypeBit else 0) |||
      (if isKeyFrame then payloadKeyFrameBit else 0) ||| seq <<< payloadPacketSeqOffset }
  if !isAudio && fec then
    { header with
      numXorBlocksEven := BitVec.ofNat 8 layout.numXorBlocksEven
      numXorBlocksOdd := BitVec.ofNat 8 layout.numXorBlocksOdd
      numFecBlocks := BitVec.ofNat 16 layout.numFecBlocks }
  else header

/-- Replaces the subpacket sequence number. -/
def setSubseq (encoded subseq : BitVec 32) : BitVec 32 :=
  encoded &&& ~~~(payloadSeqMask <<< payloadSubpacketSeqOffset) ||| subseq <<< payloadSubpacketSeqOffset

/-- The loop over the data blocks from block `i` on, with `k` blocks to go. -/
def writeData (data : Bytes) (size : Nat) :
    Nat → Nat → PayloadHeader → BitVec 32 → List Datagram × PayloadHeader
  | 0, _, header, _ => ([], header)
  | k + 1, i, header, subseq =>
    let encoded := header.encoded &&& ~~~payloadPacketBeginBit
    let encoded := if i = 0 then encoded ||| payloadPacketBeginBit else encoded
    let header := { header with encoded := setSubseq encoded subseq }
    let rest := writeData data size k (i + 1) header ((subseq + 1) &&& payloadSeqMask)
    ({ size := payloadHeaderSize + min maxPayloadSize ((size - i * maxPayloadSize) % 2 ^ 32)
       header := header
       buffer := data.drop (i * maxPayloadSize) } :: rest.1, rest.2)

/-- The loop over the FEC blocks. -/
def writeFec : List Bytes → Nat → PayloadHeader → List Datagram
  | [], _, _ => []
  | block :: blocks, i, header =>
    let header := { header with encoded := setSubseq header.encoded (BitVec.ofNat 32 i) }
    { size := payloadHeaderSize + maxPayloadSize, header := header, buffer := block } ::
      writeFec blocks (i + 1) header

/-- The data datagrams and the FEC datagrams that `write_packet` puts together, and the encoder behind
them. -/
def packetDatagrams (encoder : Encoder) (seq : BitVec 32) (fec : Bool) (pts dts : BitVec 64)
    (data : Bytes) (size : Nat) (isAudio isKeyFrame : Bool) (xorData : Bytes) :
    List Datagram × List Datagram × Encoder :=
  let layout := fecLayout (numDataBlocks size)
  let header := packetHeader seq fec pts dts size isAudio isKeyFrame
  let (raw, header) := writeData data size ((size + maxPayloadSize - 1) / maxPayloadSize) 0 header 0
  if !isAudio && fec then
    let header := { header with
      encoded := header.encoded &&& ~~~payloadPacketBeginBit ||| payloadPacketFecBit }
    let (blocks, encoder) := (encoder.setBlockSize maxPayloadSize).encode header.ptsLo.toNat xorData
      data size layout.numFecBlocks layout.numXorBlocksEven layout.numXorBlocksOdd
    (raw, writeFec blocks 0 header, encoder)
  else (raw, [], encoder)

/-- `UIO_MAXIOV`: one call of `sendmmsg` sends at most so many messages, and returns how many it has sent. -/
def sendmmsgMaximum : Nat := 1024

/-- `Dispatcher::write_udp_datagrams`, a single call of `sendmmsg` with a number of messages that is
`unsigned`. -/
def writeUdpDatagrams (datagrams : List Datagram) : List Datagram :=
  (datagrams.take (datagrams.length % 2 ^ 32)).take sendmmsgMaximum

/-- The datagrams that are sent. A short count is not looked at: the data datagrams beyond it are not sent,
while every FEC datagram is sent by a call of its own. `xorData` is what the stack holds where the FEC
blocks are put together. -/
def writePacket (c : PyroStreamConnection) (pts dts : BitVec 64) (data : Bytes) (size : Nat)
    (isAudio isKeyFrame : Bool) (xorData : Bytes) : List Datagram × PyroStreamConnection :=
  if !c.udpRemote.isSet || !c.kicked then ([], c)
  else if isAudio && c.kickFlags &&& kickStateAudioBit = 0 then ([], c)
  else if !isAudio && c.kickFlags &&& kickStateVideoBit = 0 then ([], c)
  else
    let seq := if isAudio then c.packetSeqAudio else c.packetSeqVideo
    let (raw, blocks, encoder) :=
      packetDatagrams c.encoder seq c.fec pts dts data size isAudio isKeyFrame xorData
    let next := (seq + 1) &&& payloadSeqMask
    (writeUdpDatagrams raw ++ blocks, if isAudio then { c with encoder := encoder, packetSeqAudio := next }
      else { c with encoder := encoder, packetSeqVideo := next })

/-! ### Control messages -/

/-- What a connection does for its client, with the control messages it does it for. -/
inductive Event
  | message (type : BitVec 64) (payload : List UInt8)
  | sendCookie (cookie : BitVec 64)
  | sendCodecParameters (codec : CodecParameters)
  | sendAgain
  | sendNak
  | resetGamepadOwnership
  | startTimeout
  | cancelConnection
  deriving DecidableEq

/-- The result of a case of the `switch`: whether it ends with `break`, so that the message is
taken out of the buffer. -/
structure Handled where
  consumed : Bool
  connection : PyroStreamConnection
  events : List Event

def handleHello (c : PyroStreamConnection) : Handled := ⟨true, c, [.sendCookie c.cookie]⟩

/-- A redundant KICK makes `handle` return. -/
def handleKick (codec : CodecParameters) (c : PyroStreamConnection) (payload : List UInt8) : Handled :=
  let c := { c with kickFlags := BitVec.ofNat 32 (littleEndian (payload.take 4)) }
  if c.kicked then ⟨false, c, []⟩
  else
    let tail := (if c.kickFlags &&& kickStateGamepadBit ≠ 0 then [Event.resetGamepadOwnership] else []) ++
      [.startTimeout]
    if c.udpRemote.isSet && codec.videoCodec ≠ videoCodecNone then
      ⟨true, { c with kicked := true, needsKeyFrame := true }, .sendCodecParameters codec :: tail⟩
    else if c.udpRemote.isSet then ⟨true, c, .sendAgain :: tail⟩
    else ⟨true, c, .sendNak :: tail⟩

/-- The counters of a progress report are 64-bit words. -/
def progressField (report : List UInt8) (i : Nat) : Nat := littleEndian ((report.drop (8 * i)).take 8)

def handleProgress (c : PyroStreamConnection) (payload : List UInt8) : Handled :=
  let progress := payload.take 40
  let dropped := progressField progress 2
  ⟨true, { c with
    progress := progress
    needsKeyFrame := progressField progress 4 = 0
    hasPendingVideoPacketLoss := c.hasPendingVideoPacketLoss || c.totalDroppedVideoPackets ≠ dropped
    totalDroppedVideoPackets := dropped }, [.startTimeout]⟩

/-- The `switch` over the type of the message. -/
def handleMessage (codec : CodecParameters) (c : PyroStreamConnection) (type : BitVec 64)
    (payload : List UInt8) : Handled :=
  if type = messageHello then c.handleHello
  else if type = messageKick then c.handleKick codec payload
  else if type = messageProgress then c.handleProgress payload
  else ⟨true, c, [.sendNak]⟩

/-- `tcp.split.type`, once there are enough bytes for it. -/
def messageType (tcp : List UInt8) : BitVec 64 := BitVec.ofNat 64 (littleEndian (tcp.take messageTypeSize))

/-- The condition of the loop: the buffer starts with a whole message. -/
def holdsMessage (tcp : List UInt8) : Bool :=
  messageTypeSize ≤ tcp.length && messageGetLength (messageType tcp) + messageTypeSize ≤ tcp.length

/-- The loop of `handle`. Every round takes at least the bytes of a type out of the buffer. -/
def handleLoop (codec : CodecParameters) :
    Nat → PyroStreamConnection → Bool × PyroStreamConnection × List Event
  | 0, c => (true, c, [])
  | fuel + 1, c =>
    if holdsMessage c.tcp then
      let type := messageType c.tcp
      let length := messageGetLength type
      if messageValidateMagic type then
        let payload := (c.tcp.drop messageTypeSize).take length
        let handled := c.handleMessage codec type payload
        if handled.consumed then
          let r := handleLoop codec fuel { handled.connection with
            tcp := handled.connection.tcp.drop (length + messageTypeSize) }
          (r.1, r.2.1, .message type payload :: handled.events ++ r.2.2)
        else (true, handled.connection, .message type payload :: handled.events)
      else (false, c, [])
    else (true, c, [])

/-- `received` is what `recv` delivers; nothing means that the client is gone. The descriptor with a
nonzero `id` is the keep-alive timer. -/
def handle (c : PyroStreamConnection) (codec : CodecParameters) (id : Nat) (received : List UInt8) :
    Bool × PyroStreamConnection × List Event :=
  if id ≠ 0 then (false, c, [.cancelConnection])
  -- We've exhausted the buffer.
  else if c.tcp.length ≥ maxMessageBufferLength then (false, c, [])
  else if received.isEmpty then (false, c, [])
  else
    let c := { c with tcp := c.tcp ++ received }
    handleLoop codec c.tcp.length c

/-- What no message changes stays as it is. -/
lemma handle_keeps {α : Type*} (f : PyroStreamConnection → α) (hbuffer : ∀ c tcp, f { c with tcp := tcp } = f c)
    (hmessage : ∀ (c : PyroStreamConnection) codec type payload,
      f (c.handleMessage codec type payload).connection = f c)
    (c : PyroStreamConnection) (codec : CodecParameters) (id : Nat) (received : List UInt8) :
    f (c.handle codec id received).2.1 = f c := by
  have hloop : ∀ fuel c, f (handleLoop codec fuel c).2.1 = f c := by
    intro fuel
    induction fuel with
    | zero => exact fun c => rfl
    | succ fuel ih =>
      intro c
      simp only [handleLoop]
      split_ifs
      · rw [ih, hbuffer, hmessage]
      · exact hmessage _ _ _ _
      · rfl
      · rfl
  unfold handle
  split_ifs
  · rfl
  · rfl
  · rfl
  · exact (hloop _ _).trans (hbuffer _ _)

/-! ### Datagrams from the clients -/

/-- What a connection does for a datagram. -/
inductive UdpEvent
  | setPhaseOffset (idealPhaseOffsetUs : BitVec 32)
  /-- The state as it came; its first two bytes are the sequence number. -/
  | setGamepadState (remote : RemoteAddress) (state : List UInt8)
  | replyToPing (header : PayloadHeader) (ptsReference : BitVec 64)
  deriving DecidableEq

def handleCookie (c : PyroStreamConnection) (remote : RemoteAddress) (payload : List UInt8) :
    PyroStreamConnection :=
  if payload.take 8 = toLittleEndian 8 c.cookie.toNat ∧ c.udpRemote.isSet = false then
    { c with udpRemote := remote }
  else c

/-- Only accept monotonic gamepad updates. -/
def handleGamepadState (c : PyroStreamConnection) (payload : List UInt8) :
    PyroStreamConnection × List UdpEvent :=
  let state := payload.take 16
  let seq := BitVec.ofNat 16 (littleEndian (state.take 2))
  if (seq - c.lastGamepadSeq) &&& 0x8000#16 = 0 ∨ c.validGamepadSeq = false then
    ({ c with lastGamepadSeq := seq, validGamepadSeq := true }, [.setGamepadState c.udpRemote state])
  else ({ c with validGamepadSeq := true }, [])

/-- The reply has the flags that no media packet has. -/
def pingReply (payload : List UInt8) : PayloadHeader :=
  let seq := BitVec.ofNat 32 (littleEndian (payload.take 2)) &&& payloadSeqMask
  { encoded := payloadKeyFrameBit ||| payloadStreamTypeBit ||| seq <<< payloadPacketSeqOffset }

/-- Every connection sees every datagram. `pts` is the reference clock of the server. -/
def handleUdpDatagram (c : PyroStreamConnection) (pts : BitVec 64) (remote : RemoteAddress)
    (msg : List UInt8) : PyroStreamConnection × List UdpEvent :=
  if msg.length < messageTypeSize then (c, [])
  else if !messageValidateMagic (messageType msg) then (c, [])
  else if messageGetLength (messageType msg) + messageTypeSize ≠ msg.length then (c, [])
  else
    let type := messageType msg
    let payload := msg.drop messageTypeSize
    if type = messageCookie then (c.handleCookie remote payload, [])
    else if type = messagePhaseOffset then
      (c, if c.udpRemote = remote then [.setPhaseOffset (BitVec.ofNat 32 (littleEndian (payload.take 4)))]
        else [])
    else if type = messageGamepadState then
      if c.udpRemote = remote ∧ c.kickFlags &&& kickStateGamepadBit ≠ 0 then c.handleGamepadState payload
      else (c, [])
    else if type = messagePing then
      (c, if c.udpRemote = remote ∧ c.kicked then [.replyToPing (pingReply payload) pts] else [])
    else (c, [])

end PyroStreamConnection

end PyroFling
