import PyroFling.Handshake
import PyroFling.Library.SerialNumber

/-!
# Gamepads

`PyroStreamServer` of `pyro-server/pyro_server.cpp` with the gamepad that its clients share, and
`PyroStreamClient::send_gamepad_state` of `pyro-client/pyro_client.cpp`. The datagrams of a client may
arrive in any order, any number of times, or never. Pings are sent but not answered here; the progress
reports of a client that only has a gamepad are among the messages of its TCP connection.
-/

namespace PyroFling

/-! ### The state of a gamepad -/

def padTlBit : BitVec 16 := 1#16 <<< 4

def padTrBit : BitVec 16 := 1#16 <<< 5

def padStartBit : BitVec 16 := 1#16 <<< 8

def padSelectBit : BitVec 16 := 1#16 <<< 9

def padModeBit : BitVec 16 := 1#16 <<< 10

/-- `pyro_gamepad_state`. -/
structure GamepadState where
  seq : BitVec 16 := 0
  buttons : BitVec 16 := 0
  axisLx : BitVec 16 := 0
  axisLy : BitVec 16 := 0
  axisRx : BitVec 16 := 0
  axisRy : BitVec 16 := 0
  lz : BitVec 8 := 0
  rz : BitVec 8 := 0
  hatX : BitVec 8 := 0
  hatY : BitVec 8 := 0
  deriving DecidableEq

namespace GamepadState

/-- The memory of the C structure, which has no padding. -/
def toBytes (state : GamepadState) : List UInt8 :=
  toLittleEndian 2 state.seq.toNat ++ (toLittleEndian 2 state.buttons.toNat ++
    (toLittleEndian 2 state.axisLx.toNat ++ (toLittleEndian 2 state.axisLy.toNat ++
      (toLittleEndian 2 state.axisRx.toNat ++ (toLittleEndian 2 state.axisRy.toNat ++
        (toLittleEndian 1 state.lz.toNat ++ (toLittleEndian 1 state.rz.toNat ++
          (toLittleEndian 1 state.hatX.toNat ++ toLittleEndian 1 state.hatY.toNat))))))))

def ofBytes (bytes : List UInt8) : GamepadState where
  seq := BitVec.ofNat 16 (wordAt bytes 0 2)
  buttons := BitVec.ofNat 16 (wordAt bytes 2 2)
  axisLx := BitVec.ofNat 16 (wordAt bytes 4 2)
  axisLy := BitVec.ofNat 16 (wordAt bytes 6 2)
  axisRx := BitVec.ofNat 16 (wordAt bytes 8 2)
  axisRy := BitVec.ofNat 16 (wordAt bytes 10 2)
  lz := BitVec.ofNat 8 (wordAt bytes 12 1)
  rz := BitVec.ofNat 8 (wordAt bytes 13 1)
  hatX := BitVec.ofNat 8 (wordAt bytes 14 1)
  hatY := BitVec.ofNat 8 (wordAt bytes 15 1)

/-- Use mode bit to take control of session, or a combination of buttons. -/
def buttonComboTakesControl (state : GamepadState) : Bool :=
  let buttonCombo := padStartBit ||| padSelectBit ||| padTlBit ||| padTrBit
  state.buttons &&& padModeBit ≠ 0 || state.buttons &&& buttonCombo = buttonCombo

end GamepadState

/-! ### The client -/

/-- The counters of a client for what it sends. -/
structure GamepadSender where
  gamepadSeq : BitVec 16 := 0
  pingSeq : BitVec 16 := 0

namespace GamepadSender

/-- The datagrams that `send_gamepad_state` writes, and its result. -/
structure Sent where
  gamepad : List UInt8
  ping : Option (List UInt8)
  sender : GamepadSender
  ok : Bool

/-- `gamepadWritten` and `pingWritten` are the results of the two writes. -/
def sendGamepadState (c : GamepadSender) (state : GamepadState) (gamepadWritten pingWritten : Bool) : Sent :=
  let gamepad := typeBytes messageGamepadState ++ { state with seq := c.gamepadSeq }.toBytes
  let c := { c with gamepadSeq := c.gamepadSeq + 1 }
  if !gamepadWritten then { gamepad := gamepad, ping := none, sender := c, ok := false }
  -- Send regular ping requests to measure round-trip delay.
  else if c.gamepadSeq &&& 15 = 0 then
    { gamepad := gamepad
      ping := some (typeBytes messagePing ++ toLittleEndian 2 (c.pingSeq.toNat % 256))
      sender := { c with pingSeq := c.pingSeq + 1 }
      ok := pingWritten }
  else { gamepad := gamepad, ping := none, sender := c, ok := true }

end GamepadSender

/-! ### The server -/

structure PyroStreamServer where
  cookie : BitVec 64 := 1000
  /-- The connections, as the numbers of the objects below. -/
  connections : List Nat := []
  connection : Nat → PyroStreamConnection := fun _ => {}
  /-- How many connections there have been. Nothing reads it but `register_tcp_handler`. -/
  accepted : Nat := 0
  codec : CodecParameters := {}
  phaseOffsetUs : BitVec 32 := 0
  bitrateChangeRequest : Int := 0
  currentGamepadRemote : RemoteAddress := {}
  currentGamepadState : GamepadState := {}
  newGamepadState : Bool := false
  fec : Bool := false

namespace PyroStreamServer

open PyroStreamConnection (Event UdpEvent)

def registerTcpHandler (s : PyroStreamServer) : PyroStreamServer :=
  let cookie := s.cookie + 1
  let c := (PyroStreamConnection.new cookie).setForwardErrorCorrection s.fec
  { s with
    cookie := cookie
    connections := s.connections ++ [s.accepted]
    connection := Function.update s.connection s.accepted c
    accepted := s.accepted + 1 }

def releaseConnection (s : PyroStreamServer) (i : Nat) : PyroStreamServer :=
  { s with connections := s.connections.erase i }

def setPhaseOffset (s : PyroStreamServer) (phaseOffsetUs : BitVec 32) : PyroStreamServer :=
  { s with phaseOffsetUs := s.phaseOffsetUs + phaseOffsetUs }

def resetGamepadOwnership (s : PyroStreamServer) : PyroStreamServer := { s with currentGamepadRemote := {} }

/-- The current state is handed out once. -/
def getUpdatedGamepadState (s : PyroStreamServer) : Option GamepadState × PyroStreamServer :=
  (if s.newGamepadState then some s.currentGamepadState else none, { s with newGamepadState := false })

def consumeBitrateChangeRequest (s : PyroStreamServer) : Int × PyroStreamServer :=
  (s.bitrateChangeRequest, { s with bitrateChangeRequest := 0 })

def setGamepadState (s : PyroStreamServer) (remote : RemoteAddress) (state : GamepadState) :
    PyroStreamServer :=
  let takesControl := state.buttonComboTakesControl
  if remote = s.currentGamepadRemote ∨ !s.currentGamepadRemote.isSet ∨ takesControl then
    -- Experimental change bitrate on the fly.
    let request :=
      if takesControl ∧ state.hatY = -1 ∧ s.currentGamepadState.hatY = 0 then 1
      else if takesControl ∧ state.hatY = 1 ∧ s.currentGamepadState.hatY = 0 then -1
      else s.bitrateChangeRequest
    { s with
      bitrateChangeRequest := request
      currentGamepadState := state
      currentGamepadRemote := remote
      newGamepadState := true }
  else s

/-- What a connection asks of the server for a control message. -/
def onEvent (s : PyroStreamServer) : Event → PyroStreamServer
  | .resetGamepadOwnership => s.resetGamepadOwnership
  | _ => s

/-- What a connection asks of the server for a datagram. -/
def onUdpEvent (s : PyroStreamServer) : UdpEvent → PyroStreamServer
  | .setPhaseOffset phaseOffsetUs => s.setPhaseOffset phaseOffsetUs
  | .setGamepadState remote state => s.setGamepadState remote (.ofBytes state)
  | .replyToPing _ _ => s

/-- The dispatcher calls the handler of a connection; `received` is what `recv` delivers. -/
def handle (s : PyroStreamServer) (i id : Nat) (received : List UInt8) : PyroStreamServer :=
  if i ∈ s.connections then
    let r := (s.connection i).handle s.codec id received
    r.2.2.foldl onEvent { s with connection := Function.update s.connection i r.2.1 }
  else s

/-- No connection looks at what the others ask of the server. -/
def handleUdpDatagram (s : PyroStreamServer) (pts : BitVec 64) (remote : RemoteAddress)
    (msg : List UInt8) : PyroStreamServer :=
  let events := s.connections.flatMap fun i => ((s.connection i).handleUdpDatagram pts remote msg).2
  events.foldl onUdpEvent { s with
    connection := fun i =>
      if i ∈ s.connections then ((s.connection i).handleUdpDatagram pts remote msg).1
      else s.connection i }

end PyroStreamServer

/-! ### Clients and server -/

/-- The server and its clients, which are known by their addresses. -/
structure GamepadSession where
  server : PyroStreamServer := {}
  sender : RemoteAddress → GamepadSender := fun _ => {}
  /-- The gamepad datagrams that a client has sent. One whose write has failed is among them, as one that
  is lost. -/
  sent : RemoteAddress → List (List UInt8) := fun _ => []
  /-- Which datagrams of its client a connection has taken for an update. Nothing reads it. -/
  received : Nat → List Nat := fun _ => []
  /-- Which of them it has forwarded, with their sequence numbers. Nothing reads it. -/
  forwarded : Nat → List (Nat × BitVec 16) := fun _ => []

/-- The connection lets its client have a gamepad. -/
def PyroStreamConnection.TakesGamepad (c : PyroStreamConnection) (remote : RemoteAddress) : Prop :=
  c.udpRemote = remote ∧ c.kickFlags &&& kickStateGamepadBit ≠ 0

instance (c : PyroStreamConnection) (remote : RemoteAddress) : Decidable (c.TakesGamepad remote) :=
  inferInstanceAs (Decidable (_ ∧ _))

/-- The sequence number of an update. -/
def PyroStreamConnection.UdpEvent.gamepadSeq? : PyroStreamConnection.UdpEvent → Option (BitVec 16)
  | .setGamepadState _ state => some (GamepadState.ofBytes state).seq
  | _ => none

namespace GamepadSession

inductive Action
  | sendGamepadState (remote : RemoteAddress) (state : GamepadState) (gamepadWritten pingWritten : Bool)
  /-- The `n`th gamepad datagram of a client arrives. -/
  | deliver (pts : BitVec 64) (remote : RemoteAddress) (n : Nat)
  /-- Another datagram arrives. -/
  | handleUdpDatagram (pts : BitVec 64) (remote : RemoteAddress) (msg : List UInt8)
  | registerTcpHandler
  | releaseConnection (i : Nat)
  | handle (i id : Nat) (received : List UInt8)
  | setCodecParameters (codec : CodecParameters)
  | setForwardErrorCorrection (enable : Bool)
  | getUpdatedGamepadState
  | consumeBitrateChangeRequest

/-- The connections for which a gamepad datagram from `remote` is an update. -/
def receivers (s : GamepadSession) (remote : RemoteAddress) : List Nat :=
  s.server.connections.filter fun i => (s.server.connection i).TakesGamepad remote

def sendGamepadState (s : GamepadSession) (remote : RemoteAddress) (state : GamepadState)
    (gamepadWritten pingWritten : Bool) : GamepadSession :=
  let r := (s.sender remote).sendGamepadState state gamepadWritten pingWritten
  { s with
    sender := Function.update s.sender remote r.sender
    sent := Function.update s.sent remote (s.sent remote ++ [r.gamepad]) }

/-- The sequence numbers that a connection forwards of a datagram. -/
def forwards (s : GamepadSession) (pts : BitVec 64) (remote : RemoteAddress) (msg : List UInt8) (i : Nat) :
    List (BitVec 16) :=
  if i ∈ s.server.connections then
    ((s.server.connection i).handleUdpDatagram pts remote msg).2.filterMap
      PyroStreamConnection.UdpEvent.gamepadSeq?
  else []

def deliver (s : GamepadSession) (pts : BitVec 64) (remote : RemoteAddress) (n : Nat)
    (msg : List UInt8) : GamepadSession :=
  { s with
    server := s.server.handleUdpDatagram pts remote msg
    received := fun i => if i ∈ s.receivers remote then s.received i ++ [n] else s.received i
    forwarded := fun i => s.forwarded i ++ (s.forwards pts remote msg i).map fun seq => (n, seq) }

def step (s : GamepadSession) : Action → GamepadSession
  | .sendGamepadState remote state gamepadWritten pingWritten =>
    s.sendGamepadState remote state gamepadWritten pingWritten
  | .deliver pts remote n =>
    match (s.sent remote)[n]? with
    | none => s
    | some msg => s.deliver pts remote n msg
  | .handleUdpDatagram pts remote msg => { s with server := s.server.handleUdpDatagram pts remote msg }
  | .registerTcpHandler => { s with server := s.server.registerTcpHandler }
  | .releaseConnection i => { s with server := s.server.releaseConnection i }
  | .handle i id received => { s with server := s.server.handle i id received }
  | .setCodecParameters codec => { s with server := { s.server with codec := codec } }
  | .setForwardErrorCorrection enable => { s with server := { s.server with fec := enable } }
  | .getUpdatedGamepadState => { s with server := s.server.getUpdatedGamepadState.2 }
  | .consumeBitrateChangeRequest => { s with server := s.server.consumeBitrateChangeRequest.2 }

/-- Gamepad datagrams come from the clients and are not too far from the newest that a connection has
received. -/
def Enabled (s : GamepadSession) : Action → Prop
  | .deliver _ remote n => n < (s.sent remote).length ∧
    ∀ i ∈ s.receivers remote, SerialNumber.InWindow 15 (s.received i) n
  | .handleUdpDatagram _ _ msg => PyroStreamConnection.messageType msg ≠ messageGamepadState
  | _ => True

instance (s : GamepadSession) (a : Action) : Decidable (s.Enabled a) :=
  match a with
  | .sendGamepadState _ _ _ _ => .isTrue trivial
  | .deliver _ _ _ => inferInstanceAs (Decidable (_ ∧ ∀ i ∈ _, _))
  | .handleUdpDatagram _ _ _ => inferInstanceAs (Decidable (_ ≠ _))
  | .registerTcpHandler => .isTrue trivial
  | .releaseConnection _ => .isTrue trivial
  | .handle _ _ _ => .isTrue trivial
  | .setCodecParameters _ => .isTrue trivial
  | .setForwardErrorCorrection _ => .isTrue trivial
  | .getUpdatedGamepadState => .isTrue trivial
  | .consumeBitrateChangeRequest => .isTrue trivial

end GamepadSession

end PyroFling
