import PyroFling.Library.Memory

/-!
# The receive ring

`Socket::recv_thread` and `Socket::read_thread_packet` in `simple_socket.cpp`: a thread fills a ring
of packets which another thread reads. The counters are 32-bit words and change under a lock; the
packets are filled and copied outside of it. A step is a section under the lock, or one access
outside of it. The destructor, which runs after the last read, is left out.
-/

namespace PyroFling
open ByteMemory

structure Packet where
  data : Bytes := fun _ => 0
  size : Nat := 0

/-- Where the receiving thread is in its loop. -/
inductive Receiver
  | waiting
  | receiving
  | received (ret : Nat)
  | counting
  | ending
  | finished
  deriving DecidableEq

/-- The arguments of `read_thread_packet`. Without data it flushes a packet. -/
structure ReadCall where
  hasData : Bool
  size : Nat
  deriving DecidableEq

/-- Where the reading thread is in `read_thread_packet`. -/
inductive Reader
  | idle
  | waiting (call : ReadCall)
  | found (call : ReadCall)
  | copying (call : ReadCall) (size : Nat) (copied : List UInt8)
  | counting (call : ReadCall) (size : Nat) (copied : List UInt8)
  deriving DecidableEq

structure Delivery where
  call : ReadCall
  size : Nat
  copied : List UInt8
  deriving DecidableEq

structure ReceiveRing where
  maxPacketSize : Nat
  numPackets : Nat
  packets : Nat → Packet := fun _ => {}
  writeCount : BitVec 32 := 0
  readCount : BitVec 32 := 0
  dead : Bool := false
  receiver : Receiver := .waiting
  reader : Reader := .idle
  /-- What `recv` and `read_thread_packet` have returned. Nothing reads it. -/
  arrived : List (List UInt8) := []
  returned : List Delivery := []

/-- What happens outside of the program, or which thread goes on. -/
inductive RingEvent
  | checkRoom
  /-- `recv` writes to the packet before it returns. -/
  | scribble (data : Bytes)
  | recv (packet : Option (List UInt8))
  | setSize
  | countWrite
  | endReceiver
  | call (call : ReadCall)
  /-- The reading thread takes the lock and checks whether there is a packet; or it does so because
  it has waited for too long. -/
  | checkPacket (timeout : Bool)
  | measure
  | copyByte
  | countRead

namespace ReceiveRing

/-- `init_recv_thread`. The number of packets must be a power of two. -/
def init (maxPacketSize numPackets : Nat) : Option ReceiveRing :=
  if numPackets &&& (numPackets - 1) ≠ 0 then none
  else some { maxPacketSize := maxPacketSize, numPackets := numPackets }

/-- The receiving thread stores its mask in a `uint32_t`. -/
def writeSlot (s : ReceiveRing) : Nat := s.writeCount.toNat &&& ((s.numPackets - 1) % 2 ^ 32)

def readSlot (s : ReceiveRing) : Nat := s.readCount.toNat &&& (s.numPackets - 1)

def queued (s : ReceiveRing) : Nat := (s.writeCount - s.readCount).toNat

def setPacket (s : ReceiveRing) (i : Nat) (p : Packet) : ReceiveRing :=
  { s with packets := Function.update s.packets i p }

def fill (data : Bytes) (bytes : List UInt8) : Bytes := fun i => bytes.getD i (data i)

/-- `recv` cuts a packet off at the end of the buffer; an empty one ends the thread. The size of a
datagram fits an `int`. -/
def receive (s : ReceiveRing) (packet : Option (List UInt8)) : ReceiveRing :=
  match packet with
  | none => { s with receiver := .ending }
  | some bytes =>
    let bytes := bytes.take s.maxPacketSize
    if bytes = [] then { s with receiver := .ending }
    else
      { s.setPacket s.writeSlot { s.packets s.writeSlot with
          data := fill (s.packets s.writeSlot).data bytes } with
        receiver := .received bytes.length
        arrived := s.arrived ++ [bytes] }

def checkPacket (s : ReceiveRing) (call : ReadCall) (timeout : Bool) : ReceiveRing :=
  if s.writeCount = s.readCount then
    if !call.hasData || s.dead || timeout then { s with reader := .idle } else s
  else { s with reader := .found call }

/-- A thread that is not where an event belongs does nothing. -/
def step (s : ReceiveRing) : RingEvent → ReceiveRing
  | .checkRoom =>
    if s.receiver = .waiting then
      if s.dead then { s with receiver := .ending }
      else if s.queued < s.numPackets then { s with receiver := .receiving }
      else s
    else s
  | .scribble data =>
    if s.receiver = .receiving then
      s.setPacket s.writeSlot { s.packets s.writeSlot with data := data }
    else s
  | .recv packet => if s.receiver = .receiving then s.receive packet else s
  | .setSize =>
    match s.receiver with
    | .received ret =>
      { s.setPacket s.writeSlot { s.packets s.writeSlot with size := ret } with receiver := .counting }
    | _ => s
  | .countWrite =>
    if s.receiver = .counting then
      { s with writeCount := s.writeCount + 1, receiver := .waiting }
    else s
  | .endReceiver =>
    if s.receiver = .ending then { s with dead := true, receiver := .finished } else s
  | .call call => if s.reader = .idle then { s with reader := .waiting call } else s
  | .checkPacket timeout =>
    match s.reader with
    | .waiting call => s.checkPacket call timeout
    | _ => s
  | .measure =>
    match s.reader with
    | .found call =>
      let size := min call.size (s.packets s.readSlot).size
      { s with reader := if call.hasData then .copying call size [] else .counting call size [] }
    | _ => s
  | .copyByte =>
    match s.reader with
    | .copying call size copied =>
      if copied.length < size then
        let byte := (s.packets s.readSlot).data copied.length
        { s with reader := .copying call size (copied ++ [byte]) }
      else { s with reader := .counting call size copied }
    | _ => s
  | .countRead =>
    match s.reader with
    | .counting call size copied =>
      { s with
        readCount := s.readCount + 1, reader := .idle
        returned := s.returned ++ [{ call := call, size := size, copied := copied }] }
    | _ => s

/-! ### Flushing -/

/-- `read_thread_packet` without data, step by step, while no other thread goes on. -/
def flushPacket (s : ReceiveRing) : Nat × ReceiveRing :=
  let s := (s.step (.call { hasData := false, size := 0 })).step (.checkPacket false)
  match s.reader with
  | .found _ =>
    let s := s.step .measure
    match s.reader with
    | .counting _ size _ => (size, s.step .countRead)
    | _ => (0, s)
  | _ => (0, s)

def flushLoop : Nat → ReceiveRing → Option ReceiveRing
  | 0, _ => none
  | fuel + 1, s =>
    let (size, s) := s.flushPacket
    if size ≠ 0 then flushLoop fuel s else some s

/-- `PyroStreamClient::flush_packet_queue`. Every round but the last takes a packet. -/
def flushPacketQueue (s : ReceiveRing) : Option ReceiveRing := flushLoop (s.queued + 1) s

end ReceiveRing

end PyroFling
