import PyroFling.Protocol
import PyroFling.Lt.Decode

/-!
# The streaming client

`pyro-client/pyro_client.cpp`. A stream of packets is reassembled in two slots of type
`ReconstructedPacket`; the decoder of a slot works on the slot's own buffer, whose bytes are
therefore the decoder's `outputData`. Logging, the statistics of received sizes and the timing
of ping replies do not take part in reassembly and are left out.
-/

namespace PyroFling
open ByteMemory

structure ReconstructedPacket where
  packetSeq : BitVec 32 := 0
  /-- The number of the packet this slot was last started for. It is not part of the source and
  nothing reads it. -/
  number : Nat := 0
  bufferSize : Nat := 0
  fecBufferSize : Nat := 0
  decoder : Decoder := {}
  isDone : Bool := false
  isError : Bool := false
  fecRecovered : Bool := false
  subpacketSeqAccum : Int := 0
  lastSubpacketRawSeq : BitVec 32 := 0
  currentHeader : PayloadHeader := {}
  fault : Option Fault := none

namespace ReconstructedPacket

def note (p : ReconstructedPacket) (ok : Bool) (f : Fault) : ReconstructedPacket :=
  { p with fault := Fault.note p.fault ok f }

def reset (p : ReconstructedPacket) : ReconstructedPacket :=
  { p with bufferSize := 0, lastSubpacketRawSeq := 0, subpacketSeqAccum := 0, packetSeq := 0 }

def isReset (p : ReconstructedPacket) : Bool := p.bufferSize = 0

def isComplete (p : ReconstructedPacket) : Bool := p.isDone && !p.isError

/-- The bytes of the packet; there are `getPacketSize` of them. -/
def getPacketData (p : ReconstructedPacket) : Bytes := p.decoder.outputData

def getPacketSize (p : ReconstructedPacket) : Nat := p.currentHeader.payloadSize.toNat

/-- The size of the buffer for a packet: whole blocks, with a reasonable upper bound. -/
def roundedSize (header : PayloadHeader) : Nat :=
  min ((header.payloadSize + 1023#32) &&& ~~~1023#32).toNat (128 * 1024 * maxPayloadSize)

/-- The first datagram of a packet sets up the buffers and the decoder. Faults are recorded per
packet. -/
def beginPacket (p : ReconstructedPacket) (header : PayloadHeader) : ReconstructedPacket :=
  { p with
    currentHeader := header
    isDone := false
    bufferSize := roundedSize header
    fecBufferSize := header.numFecBlocks.toNat * maxPayloadSize
    decoder := (p.decoder.setBlockSize maxPayloadSize).beginDecode header.ptsLo.toNat (fun _ => 0)
      (roundedSize header) header.numFecBlocks.toNat header.numXorBlocksEven.toNat
      header.numXorBlocksOdd.toNat
    subpacketSeqAccum := 0
    lastSubpacketRawSeq := 0
    fecRecovered := false
    fault := none }

def isFec (header : PayloadHeader) : Bool := header.encoded &&& payloadPacketFecBit ≠ 0

def isBegin (header : PayloadHeader) : Bool := header.encoded &&& payloadPacketBeginBit ≠ 0

/-- Unwraps the sequence number of a raw block. The accumulator is an `int`. -/
def advance (p : ReconstructedPacket) (header : PayloadHeader) : ReconstructedPacket :=
  let subpacketSeq := payloadGetSubpacketSeq header.encoded
  let sum := p.subpacketSeqAccum + payloadGetSubpacketSeqDelta subpacketSeq p.lastSubpacketRawSeq
  let accum := sum.bmod (2 ^ 32)
  let p := { p.note (accum = sum) .signedOverflow with
    subpacketSeqAccum := accum
    lastSubpacketRawSeq := subpacketSeq }
  -- Subsequence 0, and no other, must have a BEGIN flag.
  if accum < 0 ∨ (accum = 0 ∧ isBegin header = false) ∨ (accum ≠ 0 ∧ isBegin header = true) then
    { p with isError := true }
  else p

def prepareDecode (p : ReconstructedPacket) (header : PayloadHeader) : ReconstructedPacket :=
  let p := if p.bufferSize = 0 then p.beginPacket header else p
  if isFec header then p else p.advance header

/-- Where the current raw block belongs. The offset is computed in `int` and then converted to
`size_t`. -/
def blockOffset (p : ReconstructedPacket) : Nat :=
  ((p.subpacketSeqAccum * maxPayloadSize).bmod (2 ^ 32) % 2 ^ 64).toNat

/-- Copies a raw block to its place; a short block is filled up with zeros. -/
def writeBlock (buffer : Bytes) (offset : Nat) (data : Bytes) (size : Nat) : Bytes :=
  if size ≠ maxPayloadSize then
    (buffer.store offset data size).zero (offset + size) (maxPayloadSize - size)
  else buffer.store offset data size

def addPayloadData (p : ReconstructedPacket) (data : Bytes) (size : Nat) : ReconstructedPacket :=
  if p.isDone || p.isError then p
  else
    let product := p.subpacketSeqAccum * maxPayloadSize
    let p := p.note (product.bmod (2 ^ 32) = product) .signedOverflow
    if p.blockOffset < p.bufferSize then
      let (done, decoder) := { p.decoder with
        outputData := writeBlock p.decoder.outputData p.blockOffset data size }.pushRawBlock
          (p.subpacketSeqAccum % 2 ^ 32).toNat
      { p with decoder := decoder, isDone := done }
    else p

/-- `iterate` passes a whole block of `maxPayloadSize` bytes, which replaces whatever the FEC
buffer held at this place. -/
def addFecData (p : ReconstructedPacket) (subseq : BitVec 32) (data : Bytes) : ReconstructedPacket :=
  if p.isDone || p.isError then p
  else
    let offset := (subseq * 1024#32).toNat
    if offset < p.fecBufferSize then
      let (done, decoder) := p.decoder.pushFecBlock subseq.toNat data
      let p := { p with decoder := decoder, isDone := done }
      if done then { p with fecRecovered := true } else p
    else p

/-- What `iterate` does to a slot for a datagram that belongs to it. The result is false if the
datagram is an FEC block of the wrong size. -/
def feed (p : ReconstructedPacket) (d : Datagram) : Bool × ReconstructedPacket :=
  let size := d.size - payloadHeaderSize
  let p := p.prepareDecode d.header
  if isFec d.header then
    if size ≠ maxPayloadSize then (false, p)
    else (true, p.addFecData (payloadGetSubpacketSeq d.header.encoded) d.buffer)
  else (true, p.addPayloadData d.buffer size)

end ReconstructedPacket

/-! ### The client -/

inductive StreamType
  | video
  | audio
  deriving DecidableEq

/-- A position in the pair of slots of a stream. -/
inductive SlotIndex
  | first
  | second
  deriving DecidableEq

/-- The slots of one stream, with the sequence number of the last completed packet. -/
structure Stream where
  first : ReconstructedPacket := {}
  second : ReconstructedPacket := {}
  lastCompletedSeq : BitVec 32 := BitVec.allOnes 32
  /-- The number of the last completed packet. It is not part of the source and nothing reads
  it. -/
  lastCompletedNumber : Nat := 0
  fault : Option Fault := none

namespace Stream

def get (s : Stream) : SlotIndex → ReconstructedPacket
  | .first => s.first
  | .second => s.second

def set (s : Stream) (i : SlotIndex) (p : ReconstructedPacket) : Stream :=
  match i with
  | .first => { s with first := p }
  | .second => { s with second := p }

/-- `UINT32_MAX` stands for no packet at all. -/
def hasCompleted (s : Stream) : Bool := s.lastCompletedSeq ≠ BitVec.allOnes 32

/-- The distance of the packet in the first slot from the last completed one. -/
def lastDelta (s : Stream) : Int := payloadGetPacketSeqDelta s.first.packetSeq s.lastCompletedSeq

def swap (s : Stream) : Stream := { s with first := s.second, second := s.first }

/-- `reset` a slot and claim it for a packet. -/
def start (s : Stream) (i : SlotIndex) (packetSeq : BitVec 32) (number : Nat) : Stream :=
  s.set i { (s.get i).reset with packetSeq := packetSeq, number := number }

/-- `get_stream_packet`: the slot for a packet, if there is one. -/
def getStreamPacket (s : Stream) (packetSeq : BitVec 32) (number : Nat) : Option SlotIndex × Stream :=
  if s.first.isReset then
    -- Trivial case, start a new packet.
    let s := { s with fault := Fault.note s.fault s.second.isReset .assertion }
    (some .first, s.start .first packetSeq number)
  else if s.first.packetSeq = packetSeq then (some .first, s)
  else if s.second.isReset then
    if payloadGetPacketSeqDelta packetSeq s.first.packetSeq < 0 then
      (some .first, s.swap.start .first packetSeq number)
    else (some .second, s.start .second packetSeq number)
  else if s.second.packetSeq = packetSeq then (some .second, s)
  else if payloadGetPacketSeqDelta packetSeq s.first.packetSeq < 0 then (none, s)
  else if payloadGetPacketSeqDelta packetSeq s.second.packetSeq < 0 then
    -- Age out the first packet.
    (some .first, s.start .first packetSeq number)
  else (some .second, s.swap.start .second packetSeq number)

end Stream

structure ProgressReport where
  totalReceivedPackets : Nat := 0
  totalRecoveredPackets : Nat := 0
  totalDroppedVideoPackets : Nat := 0
  totalDroppedAudioPackets : Nat := 0
  totalReceivedKeyFrames : Nat := 0
  deriving DecidableEq

structure PyroStreamClient where
  video : Stream := {}
  audio : Stream := {}
  progress : ProgressReport := {}
  requestImmediateFeedback : Bool := false
  /-- Whether the video codec recovers from packet loss by itself. -/
  selfRecovering : Bool := false
  /-- A packet is always handed out from the first slot of its stream. -/
  current : Option StreamType := none

/-- What one call of `iterate` works on: a datagram with the number of the packet it belongs to,
whether a progress report is due, and whether it could be sent. -/
structure Arrival where
  datagram : Datagram
  number : Nat := 0
  reportDue : Bool := false
  reportSent : Bool := true

/-- How `iterate` ends; all but the first make it return false. -/
inductive Iteration
  | ok
  | invalidSize
  | invalidFecSize
  | invalidDelta
  | reportFailed
  deriving DecidableEq

namespace PyroStreamClient

def stream (c : PyroStreamClient) : StreamType → Stream
  | .video => c.video
  | .audio => c.audio

def setStream (c : PyroStreamClient) (t : StreamType) (s : Stream) : PyroStreamClient :=
  match t with
  | .video => { c with video := s }
  | .audio => { c with audio := s }

def totalDropped (c : PyroStreamClient) : StreamType → Nat
  | .video => c.progress.totalDroppedVideoPackets
  | .audio => c.progress.totalDroppedAudioPackets

def addDropped (c : PyroStreamClient) (t : StreamType) (n : Nat) : PyroStreamClient :=
  match t with
  | .video => { c with progress := { c.progress with
      totalDroppedVideoPackets := c.progress.totalDroppedVideoPackets + n } }
  | .audio => { c with progress := { c.progress with
      totalDroppedAudioPackets := c.progress.totalDroppedAudioPackets + n } }

/-- `check_send_progress`. -/
def checkSendProgress (c : PyroStreamClient) (due sent : Bool) : Bool × PyroStreamClient :=
  if due || c.requestImmediateFeedback then
    if sent then (true, { c with requestImmediateFeedback := false }) else (false, c)
  else (true, c)

/-- The gap between the last completed packet and the one in the first slot. -/
def countDropped (c : PyroStreamClient) (t : StreamType) : PyroStreamClient :=
  let delta := (c.stream t).lastDelta
  if (c.stream t).hasCompleted then
    let c := c.addDropped t (delta - 1).toNat
    if t = .video ∧ delta > 1 ∧ !c.selfRecovering then { c with requestImmediateFeedback := true }
    else c
  else c

def countReceived (c : PyroStreamClient) (t : StreamType) : PyroStreamClient :=
  let s := c.stream t
  let c := c.setStream t { s with
    lastCompletedSeq := s.first.packetSeq, lastCompletedNumber := s.first.number }
  { c with progress := { c.progress with
    totalReceivedPackets := c.progress.totalReceivedPackets + 1
    totalRecoveredPackets := c.progress.totalRecoveredPackets +
      (if s.first.fecRecovered then 1 else 0) } }

def countKeyFrame (c : PyroStreamClient) (header : PayloadHeader) : PyroStreamClient :=
  if header.encoded &&& payloadKeyFrameBit ≠ 0 then
    { c with
      requestImmediateFeedback :=
        c.requestImmediateFeedback || c.progress.totalReceivedKeyFrames = 0
      progress := { c.progress with
        totalReceivedKeyFrames := c.progress.totalReceivedKeyFrames + 1 } }
  else c

/-- The part of `iterate` that accounts for a completed packet and hands it out. The first slot
of the stream holds it. -/
def completePacket (c : PyroStreamClient) (t : StreamType) (a : Arrival) :
    Iteration × PyroStreamClient :=
  if (c.stream t).hasCompleted ∧ (c.stream t).lastDelta < 1 then (.invalidDelta, c)
  else
    match (((c.countDropped t).countReceived t).countKeyFrame a.datagram.header).checkSendProgress
      a.reportDue a.reportSent with
    | (false, c) => (.reportFailed, c)
    | (true, c) => (.ok, { c with current := some t })

/-- `iterate` for a datagram of a stream. -/
def receiveStream (c : PyroStreamClient) (t : StreamType) (a : Arrival) :
    Iteration × PyroStreamClient :=
  let header := a.datagram.header
  let packetSeq := payloadGetPacketSeq header.encoded
  let s := c.stream t
  if s.hasCompleted ∧ payloadGetPacketSeqDelta packetSeq s.lastCompletedSeq ≤ 0 then (.ok, c)
  else
    match s.getStreamPacket packetSeq a.number with
    | (none, s) => (.ok, c.setStream t s)
    | (some i, s) =>
      match (s.get i).feed a.datagram with
      | (false, p) => (.invalidFecSize, c.setStream t (s.set i p))
      | (true, p) =>
        let s := s.set i p
        if p.isComplete then
          -- A packet that completes in the second slot makes the first one out of date.
          let s := if i = .second then { s with first := s.first.reset }.swap else s
          (c.setStream t s).completePacket t a
        else (.ok, c.setStream t s)

def isAudio (header : PayloadHeader) : Bool := header.encoded &&& payloadStreamTypeBit ≠ 0

/-- A reply to a ping is marked as an audio key frame. -/
def isPing (header : PayloadHeader) : Bool :=
  header.encoded &&& (payloadKeyFrameBit ||| payloadStreamTypeBit) =
    (payloadKeyFrameBit ||| payloadStreamTypeBit)

def streamOf (header : PayloadHeader) : StreamType := if isAudio header then .audio else .video

def iterate (c : PyroStreamClient) (a : Arrival) : Iteration × PyroStreamClient :=
  let header := a.datagram.header
  if a.datagram.size < payloadHeaderSize ∨ a.datagram.size > maxUdpDatagramSize then
    (.invalidSize, c)
  else if isPing header then (.ok, c)
  else if ReconstructedPacket.isFec header ∧ isAudio header then (.ok, c)
  else c.receiveStream (streamOf header) a

/-- The beginning of `wait_next_packet`: the packet that was handed out last is released. -/
def releaseCurrent (c : PyroStreamClient) : PyroStreamClient :=
  match c.current with
  | some t =>
    let s := (c.stream t).swap
    { c.setStream t { s with second := s.second.reset } with current := none }
  | none => c

end PyroStreamClient

end PyroFling
