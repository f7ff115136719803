import PyroFling.Server
import PyroFling.Library.Runs

/-!
# The handshake between clients and the server

`PyroStreamClient::handshake` of `pyro-client/pyro_client.cpp` and the part of `PyroStreamServer` that
accepts connections and hands datagrams on to them. A client asks for a cookie over TCP, sends it over
UDP to make its address known, and then asks for the codec parameters until it gets them.

TCP delivers bytes in order and in pieces of any size. A datagram that was sent may arrive any number of
times at any later moment, or never. The handlers of the server run one after the other.
-/

namespace PyroFling

/-! ### Bytes on the wire -/

namespace CodecParameters

/-- The memory of the C structure, which has no padding. -/
def toBytes (codec : CodecParameters) : List UInt8 :=
  toLittleEndian 4 codec.videoCodec.toNat ++ (toLittleEndian 4 codec.videoColorProfile.toNat ++
    (toLittleEndian 4 codec.audioCodec.toNat ++ (toLittleEndian 2 codec.frameRateNum.toNat ++
      (toLittleEndian 2 codec.frameRateDen.toNat ++ (toLittleEndian 2 codec.width.toNat ++
        (toLittleEndian 2 codec.height.toNat ++ (toLittleEndian 4 codec.channels.toNat ++
          toLittleEndian 4 codec.rate.toNat)))))))

def ofBytes (bytes : List UInt8) : CodecParameters where
  videoCodec := BitVec.ofNat 32 (wordAt bytes 0 4)
  videoColorProfile := BitVec.ofNat 32 (wordAt bytes 4 4)
  audioCodec := BitVec.ofNat 32 (wordAt bytes 8 4)
  frameRateNum := BitVec.ofNat 16 (wordAt bytes 12 2)
  frameRateDen := BitVec.ofNat 16 (wordAt bytes 14 2)
  width := BitVec.ofNat 16 (wordAt bytes 16 2)
  height := BitVec.ofNat 16 (wordAt bytes 18 2)
  channels := BitVec.ofNat 32 (wordAt bytes 20 4)
  rate := BitVec.ofNat 32 (wordAt bytes 24 4)

def size : Nat := 28

end CodecParameters

def PyroStreamConnection.Event.toBytes : PyroStreamConnection.Event → List UInt8
  | .sendCookie cookie => typeBytes messageCookie ++ toLittleEndian 8 cookie.toNat
  | .sendCodecParameters codec => typeBytes messageCodecParameters ++ codec.toBytes
  | .sendAgain => typeBytes messageAgain
  | .sendNak => typeBytes messageNak
  | _ => []

/-! ### The client -/

/-- The next statement of `handshake`; `i` is the counter of its loop. -/
inductive HandshakeStatement
  | writeHello
  | readCookieType
  | readCookie
  /-- The condition of the loop, and the datagram if it holds. -/
  | loop (i : Nat)
  | writeKick (i : Nat)
  | writeFlags (i : Nat)
  | readReply (i : Nat)
  | readCodec (i : Nat)
  | returned (ok : Bool)
  deriving DecidableEq

structure Handshake where
  next : HandshakeStatement := .writeHello
  flags : BitVec 32 := 0
  cookie : BitVec 64 := 0
  codec : CodecParameters := {}

namespace Handshake

structure Outcome where
  client : Handshake
  consumed : Nat := 0
  written : List UInt8 := []
  datagram : Option (List UInt8) := none

/-- A statement that reads waits until there are enough bytes in `incoming`. -/
def read (incoming : List UInt8) (size : Nat) (body : List UInt8 → Handshake) : Option Outcome :=
  if size ≤ incoming.length then some { client := body (incoming.take size), consumed := size } else none

/-- One statement, if it neither waits nor has the function returned. -/
def execute (h : Handshake) (incoming : List UInt8) : Option Outcome :=
  match h.next with
  | .writeHello => some { client := { h with next := .readCookieType }, written := typeBytes messageHello }
  | .readCookieType => read incoming messageTypeSize fun bytes =>
    if PyroStreamConnection.messageType bytes ≠ messageCookie then { h with next := .returned false }
    else { h with next := .readCookie }
  | .readCookie => read incoming 8 fun bytes =>
    { h with cookie := BitVec.ofNat 64 (littleEndian bytes), next := .loop 0 }
  | .loop i =>
    if i < 64 ∧ h.codec.videoCodec = videoCodecNone then
      some { client := { h with next := .writeKick i }
             datagram := some (typeBytes messageCookie ++ toLittleEndian 8 h.cookie.toNat) }
    else some { client := { h with next := .returned (h.codec.videoCodec ≠ videoCodecNone) } }
  | .writeKick i =>
    some { client := { h with next := .writeFlags i }, written := typeBytes messageKick }
  | .writeFlags i =>
    some { client := { h with next := .readReply i }, written := toLittleEndian 4 h.flags.toNat }
  | .readReply i => read incoming messageTypeSize fun bytes =>
    if PyroStreamConnection.messageType bytes ≠ messageCodecParameters then { h with next := .loop (i + 1) }
    else { h with next := .readCodec i }
  | .readCodec i => read incoming CodecParameters.size fun bytes =>
    { h with codec := CodecParameters.ofBytes bytes, next := .loop (i + 1) }
  | .returned _ => none

end Handshake

/-! ### One client and its connection -/

structure Link where
  client : Handshake
  upstream : List UInt8 := []
  downstream : List UInt8 := []
  connection : Option PyroStreamConnection := none
  /-- The server knows the connection; it forgets it once a handler fails. -/
  registered : Bool := false
  /-- All that the server has written and the client has read. -/
  replied : List UInt8 := []
  consumed : List UInt8 := []
  /-- What the parameters of the server were when it last answered with parameters. -/
  answer : Option CodecParameters := none
  redundantKick : Bool := false

namespace Link

open PyroStreamConnection (Event)

def isRedundantKick (events : List Event) : Bool :=
  match events.getLast? with
  | some (.message type _) => type = messageKick
  | _ => false

def isAnswer : Event → Bool
  | .sendCodecParameters _ => true
  | _ => false

/-- The handler of the server runs for descriptor `id`; `n` bytes can be received. -/
def handle (l : Link) (codec : CodecParameters) (id n : Nat) : Link :=
  match l.connection with
  | none => l
  | some c =>
    let r := c.handle codec id (l.upstream.take n)
    let reply := r.2.2.flatMap Event.toBytes
    { l with
      connection := some r.2.1
      registered := r.1
      upstream := l.upstream.drop n
      downstream := l.downstream ++ reply
      replied := l.replied ++ reply
      answer := if r.2.2.any isAnswer then some codec else l.answer
      redundantKick := l.redundantKick || isRedundantKick r.2.2 }

def handleUdpDatagram (l : Link) (pts : BitVec 64) (remote : RemoteAddress) (msg : List UInt8) : Link :=
  if l.registered then
    { l with connection := l.connection.map fun c => (c.handleUdpDatagram pts remote msg).1 }
  else l

def execute (l : Link) : Link :=
  match l.client.execute l.downstream with
  | none => l
  | some o =>
    { l with
      client := o.client
      downstream := l.downstream.drop o.consumed
      consumed := l.consumed ++ l.downstream.take o.consumed
      upstream := l.upstream ++ o.written }

def fail (l : Link) : Link := { l with client := { l.client with next := .returned false } }

end Link

/-! ### All clients -/

/-- The server and its clients, which are named by `ι`. -/
structure Network (ι : Type*) where
  cookie : BitVec 64 := 1000
  codec : CodecParameters := {}
  fec : Bool := false
  link : ι → Link
  /-- The datagrams ever sent, with the address of the sender. -/
  datagrams : List (RemoteAddress × List UInt8) := []
  /-- The clients whose connections have been accepted, in this order. -/
  accepted : List ι := []

namespace Network

variable {ι : Type*} [DecidableEq ι]

inductive Action (ι : Type*)
  | setCodecParameters (codec : CodecParameters)
  | setForwardErrorCorrection (enable : Bool)
  | registerTcpHandler (i : ι)
  | handle (i : ι) (id n : Nat)
  | handleUdpDatagram (pts : BitVec 64) (remote : RemoteAddress) (msg : List UInt8)
  | execute (i : ι)
  | fail (i : ι)

def initial (flags : ι → BitVec 32) : Network ι where
  link i := { client := { flags := flags i } }

def update (s : Network ι) (i : ι) (l : Link) : Network ι := { s with link := Function.update s.link i l }

def registerTcpHandler (s : Network ι) (i : ι) : Network ι :=
  let cookie := s.cookie + 1
  let c := (PyroStreamConnection.new cookie).setForwardErrorCorrection s.fec
  { s with
    cookie := cookie
    link := Function.update s.link i { s.link i with connection := some c, registered := true }
    accepted := s.accepted ++ [i] }

def step (address : ι → RemoteAddress) (s : Network ι) : Action ι → Network ι
  | .setCodecParameters codec => { s with codec := codec }
  | .setForwardErrorCorrection enable => { s with fec := enable }
  | .registerTcpHandler i => s.registerTcpHandler i
  | .handle i id n => s.update i ((s.link i).handle s.codec id n)
  | .handleUdpDatagram pts remote msg =>
    { s with link := fun i => (s.link i).handleUdpDatagram pts remote msg }
  | .execute i =>
    let sent := ((s.link i).client.execute (s.link i).downstream).bind Handshake.Outcome.datagram
    { s.update i (s.link i).execute with
      datagrams := s.datagrams ++ sent.toList.map fun msg => (address i, msg) }
  | .fail i => s.update i (s.link i).fail

/-- How many bytes a handler can receive: the timer has none. -/
def room (c : PyroStreamConnection) (id : Nat) : Nat :=
  if id = 0 then maxMessageBufferLength - c.tcp.length else 0

def Enabled (s : Network ι) : Action ι → Prop
  | .registerTcpHandler i => (s.link i).connection.isNone = true
  | .handle i id n => (s.link i).registered = true ∧ n ≤ (s.link i).upstream.length ∧
    (s.link i).connection.all (fun c => n ≤ room c id) = true
  | .handleUdpDatagram _ remote msg => (remote, msg) ∈ s.datagrams
  | .fail i => ∀ ok, (s.link i).client.next ≠ .returned ok
  | _ => True

instance (s : Network ι) (a : Action ι) : Decidable (s.Enabled a) :=
  match a with
  | .setCodecParameters _ => .isTrue trivial
  | .setForwardErrorCorrection _ => .isTrue trivial
  | .registerTcpHandler _ => inferInstanceAs (Decidable (_ = true))
  | .handle _ _ _ => inferInstanceAs (Decidable (_ ∧ _ ∧ _))
  | .handleUdpDatagram _ _ _ => inferInstanceAs (Decidable (_ ∈ _))
  | .execute _ => .isTrue trivial
  | .fail _ => inferInstanceAs (Decidable (∀ _, _))

end Network

end PyroFling
