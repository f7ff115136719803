import PyroFling.Client
import PyroFling.Gamepad

/-!
# Pings

The clock that `PyroStreamClient` of `pyro-client/pyro_client.cpp` keeps of its server:
`send_gamepad_state` sends a ping with every sixteenth state, the server answers with the time of its own
clock, and `iterate` takes the answers. The thread that sends and the thread that receives are different
ones: an answer may arrive before the time of its ping is stored, or when that time has been overwritten.
Clocks count nanoseconds and do not wrap; the two run at the same speed.
-/

namespace PyroFling

def pingStateExtendedSize : Nat := 8

/-- `Util::get_current_time_nsecs() / 1000`. -/
def PyroStreamServer.sampleReferencePts (currentNs : Int) : BitVec 64 := BitVec.ofInt 64 (currentNs.tdiv 1000)

/-- The datagram that answers a ping: the header, and `pyro_ping_state_extended` with the two halves of
the time. -/
def PyroStreamConnection.pingDatagram (header : PayloadHeader) (pts : BitVec 64) : Datagram where
  size := payloadHeaderSize + pingStateExtendedSize
  header := header
  buffer i := (toLittleEndian 4 (pts.setWidth 32).toNat ++
    toLittleEndian 4 ((pts >>> 32).setWidth 32).toNat).getD i 0

/-! ### The client -/

/-- What the client knows of its pings. The source keeps the delay in seconds. -/
structure PingClock where
  sender : GamepadSender := {}
  pingTimes : Nat → Int := fun _ => 0
  lastPingDelay : Int := 0
  lastReferencePts : Int := 0
  lastLocalPts : Int := 0

namespace PingClock

/-- `ping_times[ping_state.seq] = ...`, for the ping that was sent last. -/
def storePingTime (c : PingClock) (currentNs : Int) : PingClock :=
  { c with pingTimes := Function.update c.pingTimes ((c.sender.pingSeq - 1).toNat % 256) currentNs }

def referencePts (d : Datagram) : Int :=
  let word (offset : Nat) := littleEndian ((List.range 4).map fun i => d.buffer (offset + i))
  (BitVec.ofNat 64 (word 0) ||| BitVec.ofNat 64 (word 4) <<< 32).toInt

def iterate (c : PingClock) (currentNs : Int) (d : Datagram) : PingClock :=
  if d.size < payloadHeaderSize ∨ d.size > maxUdpDatagramSize then c
  else if PyroStreamClient.isPing d.header then
    let pingNs := currentNs - c.pingTimes ((payloadGetPacketSeq d.header.encoded).toNat % 256)
    let c := { c with lastPingDelay := pingNs }
    if d.size - payloadHeaderSize = pingStateExtendedSize then
      { c with
        -- Half the delay is taken off, for the time at the server when the ping was sent.
        lastReferencePts := referencePts d - pingNs.tdiv 2000
        lastLocalPts := currentNs.tdiv 1000 }
    else c
  else c

end PingClock

/-! ### The client and its server -/

structure PingReply where
  number : Nat
  servedAt : Int
  datagram : Datagram

structure PingExchange where
  sentAt : Int
  /-- When the time of the ping was stored, if it was before the answer arrived. -/
  storedAt : Option Int
  servedAt : Int
  receivedAt : Int
  /-- How many pings had been sent since. -/
  later : Nat
  deriving DecidableEq

/-- A client, its pings and the answers to them. A ping is known by its number. -/
structure PingSession where
  client : PingClock := {}
  now : Int := 0
  skew : Int := 0
  /-- Nothing stands for a ping whose write has failed. -/
  pings : List (Option (List UInt8)) := []
  storing : Bool := false
  replies : List PingReply := []
  /-- When the pings were sent and when these times were stored. Nothing reads it. -/
  sentAt : Nat → Int := fun _ => 0
  storedAt : Nat → Option Int := fun _ => none
  /-- The one that the last answer belongs to. Nothing reads it. -/
  exchange : Option PingExchange := none

namespace PingSession

inductive Action
  | tick (ns : Nat)
  | sendGamepadState (state : GamepadState) (gamepadWritten pingWritten : Bool)
  | storePingTime
  /-- The `n`th ping arrives at the server, where a connection has this state. -/
  | serve (n : Nat) (connection : PyroStreamConnection) (remote : RemoteAddress)
  | receive (m : Nat)
  | receiveOther (d : Datagram)

def sendGamepadState (s : PingSession) (state : GamepadState) (gamepadWritten pingWritten : Bool) :
    PingSession :=
  let r := s.client.sender.sendGamepadState state gamepadWritten pingWritten
  let s := { s with client := { s.client with sender := r.sender } }
  match r.ping with
  | none => s
  | some ping =>
    { s with
      pings := s.pings ++ [if r.ok then some ping else none]
      sentAt := Function.update s.sentAt s.pings.length s.now
      storing := r.ok }

def storePingTime (s : PingSession) : PingSession :=
  { s with
    client := s.client.storePingTime s.now
    storedAt := Function.update s.storedAt (s.pings.length - 1) (some s.now)
    storing := false }

def answers (s : PingSession) (n : Nat) (msg : List UInt8) (connection : PyroStreamConnection)
    (remote : RemoteAddress) : List PingReply :=
  (connection.handleUdpDatagram (PyroStreamServer.sampleReferencePts (s.now + s.skew)) remote msg).2.filterMap
    fun
    | .replyToPing header pts =>
      some { number := n, servedAt := s.now, datagram := PyroStreamConnection.pingDatagram header pts }
    | _ => none

def receive (s : PingSession) (reply : PingReply) : PingSession :=
  { s with
    client := s.client.iterate s.now reply.datagram
    exchange := some {
      sentAt := s.sentAt reply.number
      storedAt := s.storedAt reply.number
      servedAt := reply.servedAt
      receivedAt := s.now
      later := s.pings.length - 1 - reply.number } }

def step (s : PingSession) : Action → PingSession
  | .tick ns => { s with now := s.now + ns }
  | .sendGamepadState state gamepadWritten pingWritten =>
    s.sendGamepadState state gamepadWritten pingWritten
  | .storePingTime => s.storePingTime
  | .serve n connection remote =>
    match s.pings[n]?.join with
    | none => s
    | some msg => { s with replies := s.replies ++ s.answers n msg connection remote }
  | .receive m =>
    match s.replies[m]? with
    | none => s
    | some reply => s.receive reply
  | .receiveOther d => { s with client := s.client.iterate s.now d }

def ClocksFit (s : PingSession) : Prop :=
  0 ≤ s.now ∧ s.now < 2 ^ 63 ∧ 0 ≤ s.now + s.skew ∧ s.now + s.skew < 2 ^ 63

instance (s : PingSession) : Decidable s.ClocksFit := inferInstanceAs (Decidable (_ ∧ _))

/-- One thread sends the pings. Whatever else arrives is no answer to a ping. -/
def Enabled (s : PingSession) : Action → Prop
  | .tick ns => { s with now := s.now + ns }.ClocksFit
  | .sendGamepadState _ _ _ => s.storing = false
  | .storePingTime => s.storing = true
  | .receiveOther d => PyroStreamClient.isPing d.header = false
  | _ => True

instance (s : PingSession) (a : Action) : Decidable (s.Enabled a) :=
  match a with
  | .tick _ => inferInstanceAs (Decidable (_ ∧ _))
  | .sendGamepadState _ _ _ => inferInstanceAs (Decidable (_ = _))
  | .storePingTime => inferInstanceAs (Decidable (_ = _))
  | .serve _ _ _ => .isTrue trivial
  | .receive _ => .isTrue trivial
  | .receiveOther _ => inferInstanceAs (Decidable (_ = _))

end PingSession

end PyroFling
