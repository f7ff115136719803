import PyroFling.Gamepad
import PyroFling.Library.RefCount
import PyroFling.Listener

/-!
# Stream connections in the dispatcher

How `PyroStreamConnection` of `pyro-server/pyro_server.cpp` lives in the dispatcher of `ipc/listener.cpp`:
its TCP connection and its keep-alive timer are connections of the dispatcher, and the server has a list
of all that have a TCP connection. Each of the three holds a reference. The iterations of the dispatcher
are cut into their events and the clean-up at their end. Clients that connect over the local socket are
left out.
-/

namespace PyroFling
open RefCount

/-! ### Answers that cannot be sent -/

namespace PyroStreamConnection

/-- An answer to the client. -/
def Event.isAnswer : Event → Bool
  | .sendCookie _ | .sendCodecParameters _ | .sendAgain | .sendNak => true
  | _ => false

/-- The loop of `handle` when only `sends` more answers get through. Nothing looks at the connection
after an answer that does not. -/
def handleLoopSending (codec : CodecParameters) :
    Nat → Nat → PyroStreamConnection → Bool × PyroStreamConnection × List Event
  | 0, _, c => (true, c, [])
  | fuel + 1, sends, c =>
    if holdsMessage c.tcp then
      let type := messageType c.tcp
      let length := messageGetLength type
      if messageValidateMagic type then
        let payload := (c.tcp.drop messageTypeSize).take length
        let handled := c.handleMessage codec type payload
        let answers := handled.events.countP Event.isAnswer
        if sends < answers then (false, c, [])
        else if handled.consumed then
          let r := handleLoopSending codec fuel (sends - answers) { handled.connection with
            tcp := handled.connection.tcp.drop (length + messageTypeSize) }
          (r.1, r.2.1, .message type payload :: handled.events ++ r.2.2)
        else (true, handled.connection, .message type payload :: handled.events)
      else (false, c, [])
    else (true, c, [])

/-- `handle` when only `sends` answers get through. -/
def handleSending (c : PyroStreamConnection) (codec : CodecParameters) (id : Nat) (received : List UInt8)
    (sends : Nat) : Bool × PyroStreamConnection × List Event :=
  if id ≠ 0 then (false, c, [.cancelConnection])
  else if c.tcp.length ≥ maxMessageBufferLength then (false, c, [])
  else if received.isEmpty then (false, c, [])
  else
    let c := { c with tcp := c.tcp ++ received }
    handleLoopSending codec c.tcp.length sends c

end PyroStreamConnection

/-! ### Handlers -/

/-- The handler of a stream connection. The sentinels of the dispatcher come before. -/
def streamHandler (i : Nat) : Handler := { ref := i + 2 }

/-- The stream connection behind a handler. -/
def Handler.stream? (h : Handler) : Option Nat := if h.ref < 2 then none else some (h.ref - 2)

/-- The stream connection that a connection belongs to, with its role. -/
def Connection.stream? (c : Connection) : Option (Nat × Nat) :=
  c.handler.bind fun h => h.stream?.map fun i => (i, c.id)

/-- All connections are dropped. -/
def Dispatcher.shutDown (d : Dispatcher) : Dispatcher :=
  { d with
    isOpen := false, connections := [], cancellations := [], registered := []
    removed := d.live.map Connection.key ++ d.removed }

/-! ### The server in its dispatcher -/

structure StreamServer (R : Counting) where
  dispatcher : Dispatcher
  server : PyroStreamServer := {}
  pool : Pool R := {}
  /-- The timers that have been started. -/
  armed : Nat → Bool := fun _ => false
  /-- The types of the messages that a connection has handled. Nothing reads it. -/
  handled : Nat → List (BitVec 64) := fun _ => []

/-- What surrounds a call to a handler: the timer for a new client, or what the client has sent and how
many answers get through to it. -/
structure Surroundings where
  timerFd : Nat := 0
  timerAccepted : Bool := true
  received : List UInt8 := []
  sends : Nat := 0

namespace StreamServer

open PyroStreamConnection (Event)

variable {R : Counting}

/-- Takes the connection out of the list of the server, with the reference. -/
def releaseConnection (s : StreamServer R) (i : Nat) : StreamServer R :=
  if i ∈ s.server.connections then
    { s with server := s.server.releaseConnection i, pool := s.pool.releaseReference i }
  else s

def releaseId (s : StreamServer R) (i id : Nat) : StreamServer R :=
  let s := if id = 0 then s.releaseConnection i else s
  { s with pool := s.pool.releaseReference i }

/-- The destructor of a connection. -/
def destroy (s : StreamServer R) (c : Connection) : StreamServer R :=
  match c.stream? with
  | some (i, id) => s.releaseId i id
  | none => s

/-- The timer can be registered with the dispatcher. -/
def AcceptsTimer (s : StreamServer R) (x : Surroundings) : Prop :=
  x.timerAccepted = true ∧ x.timerFd ∉ s.dispatcher.registered

instance (s : StreamServer R) (x : Surroundings) : Decidable (s.AcceptsTimer x) :=
  inferInstanceAs (Decidable (_ ∧ _))

/-- A new object with references of the server, its timer and its TCP connection. A timer that is not
accepted is destroyed at once. -/
def registerTcpHandler (s : StreamServer R) (x : Surroundings) : StreamServer R :=
  let i := s.server.accepted
  let timed : StreamServer R := { s with pool := s.pool.make.addReference i }
  let s := if s.AcceptsTimer x then timed else timed.releaseId i 1
  { s with server := s.server.registerTcpHandler, pool := s.pool.addReference i }

/-- What a call to a handler asks of the dispatcher, its result and the state behind it. -/
structure Call (R : Counting) where
  registering : List Action := []
  assigned : Option Handler := none
  actions : List Action := []
  result : Bool
  after : StreamServer R

/-- What a connection asks of the dispatcher. -/
def onEvent (i : Nat) : Event → Option Action
  | .cancelConnection => some (.cancel (streamHandler i).ref 0)
  | _ => none

def messageType? : Event → Option (BitVec 64)
  | .message type _ => some type
  | _ => none

def handle (s : StreamServer R) (i id : Nat) (x : Surroundings) : Call R :=
  let r := (s.server.connection i).handleSending s.server.codec id x.received x.sends
  let server := { s.server with connection := Function.update s.server.connection i r.2.1 }
  { actions := r.2.2.filterMap (onEvent i)
    result := r.1
    after := { s with
      server := r.2.2.foldl PyroStreamServer.onEvent server
      armed := if .startTimeout ∈ r.2.2 then Function.update s.armed i true else s.armed
      handled := Function.update s.handled i (s.handled i ++ r.2.2.filterMap messageType?) } }

/-- A connection without a handler gets one; a sentinel returns false. -/
def call (s : StreamServer R) (c : Connection) (x : Surroundings) : Call R :=
  match c.handler with
  | none =>
    let handler := streamHandler s.server.accepted
    { registering := [.add x.timerFd handler 1 x.timerAccepted]
      assigned := some handler
      result := true
      after := s.registerTcpHandler x }
  | some h =>
    match h.stream? with
    | none => { result := false, after := s }
    | some i => s.handle i c.id x

/-- The dispatcher goes on, and the connections that are gone are destroyed. -/
def proceed (s : StreamServer R) (d : Dispatcher) : StreamServer R :=
  let gone := s.dispatcher.live.filter fun c => c.key ∉ d.live.map Connection.key
  gone.foldl destroy { s with dispatcher := d }

/-- When the loop is left all connections are dropped. -/
def leave (s : StreamServer R) (r : Exit × Dispatcher) : StreamServer R :=
  s.proceed (if r.1 = .goesOn then r.2 else r.2.shutDown)

inductive StreamEvent
  | datagram (pts : BitVec 64) (remote : RemoteAddress) (msg : List UInt8)
  /-- A TCP client connects; there is no descriptor if `accept` fails. -/
  | client (fd : Option Nat) (accepted : Bool)
  | ready (key : Nat) (hup : Bool) (x : Surroundings)
  /-- The end of an iteration. -/
  | cleanUp
  | setCodecParameters (codec : CodecParameters)

/-- An event of the dispatcher. -/
def iterate (s : StreamServer R) : StreamEvent → StreamServer R
  | .datagram pts remote msg => { s with server := s.server.handleUdpDatagram pts remote msg }
  | .client fd accepted => s.leave (s.dispatcher.handleEvent (.client fd accepted))
  | .ready key hup x =>
    match s.dispatcher.live.find? fun c => c.key = key with
    | none => s.leave (.danglingPointer, s.dispatcher)
    | some c =>
      if hup then s.leave (s.dispatcher.handleEvent (.ready key true [] none [] false))
      else
        let r := s.call c x
        r.after.leave (s.dispatcher.handleEvent
          (.ready key false r.registering r.assigned r.actions r.result))
  | .cleanUp => s.leave (Dispatcher.cleanUp s.dispatcher.cancellations false s.dispatcher)
  | .setCodecParameters codec => { s with server := { s.server with codec := codec } }

def step (s : StreamServer R) (e : StreamEvent) : StreamServer R :=
  if s.dispatcher.isOpen then s.iterate e else s

/-- The dispatcher has just been made. -/
def initial (R : Counting) (signalfd eventfd : Nat) : StreamServer R :=
  { dispatcher := Dispatcher.new signalfd eventfd }

end StreamServer

end PyroFling
