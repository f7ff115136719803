import PyroFling.Gamepad

/-!
# The virtual gamepad

`virtual_gamepad.cpp`: what is written to `/dev/uinput` for the states of a gamepad, and
`SwapchainServer::handle_udp_datagram` of `pyrofling.cpp`, which reports the state of the server to the
device. The device is one of the kernel, of which only what its input core documents is used. Events are taken
to be written; the set-up of the device is left out.
-/

namespace PyroFling

/-! ### Events -/

/-- The fields of `input_event` that are set. -/
structure InputEvent where
  type : Nat
  code : Nat
  value : Int
  deriving DecidableEq

def evSyn : Nat := 0

def evKey : Nat := 1

def evRel : Nat := 2

def evAbs : Nat := 3

/-- `SYN_REPORT`, the end of a frame. -/
def synReport : Nat := 0

/-- The codes of `BTN_A`, `BTN_B`, `BTN_X`, `BTN_Y`, `BTN_TL`, `BTN_TR`, `BTN_THUMBL`, `BTN_THUMBR`,
`BTN_START` and `BTN_SELECT`, at the bits of the buttons. The mode button is not passed on. -/
def buttonMapping : List Nat := [0x130, 0x131, 0x133, 0x134, 0x136, 0x137, 0x13d, 0x13e, 0x13b, 0x13a]

/-- The axes in the order in which they are compared, with the codes of `ABS_X`, `ABS_Y`, `ABS_RX`, `ABS_RY`,
`ABS_Z`, `ABS_RZ`, `ABS_HAT0X` and `ABS_HAT0Y`. -/
def axisMapping : List (Nat × (GamepadState → Int)) :=
  [(0x00, fun state => state.axisLx.toInt), (0x01, fun state => state.axisLy.toInt),
    (0x03, fun state => state.axisRx.toInt), (0x04, fun state => state.axisRy.toInt),
    (0x02, fun state => state.lz.toNat), (0x05, fun state => state.rz.toNat),
    (0x10, fun state => state.hatX.toInt), (0x11, fun state => state.hatY.toInt)]

def relX : Nat := 0

def relY : Nat := 1

/-! ### The gamepad -/

inductive DebugMode
  | none
  | rightAnalogToMouse
  deriving DecidableEq

structure VirtualGamepad where
  debugMode : DebugMode := .none
  lastState : GamepadState := {}

namespace VirtualGamepad

/-- The bits that are different, from the lowest on. -/
def deltaBits (delta : BitVec 16) : List Nat := (List.range 16).filter fun bit => delta.getLsbD bit

def buttonEvents (g : VirtualGamepad) (state : GamepadState) : List InputEvent :=
  (deltaBits (state.buttons ^^^ g.lastState.buttons)).flatMap fun bit =>
    match buttonMapping[bit]? with
    | some code => [{ type := evKey, code := code, value := if state.buttons.getLsbD bit then 1 else 0 }]
    | none => []

def axisEvents (g : VirtualGamepad) (state : GamepadState) : List InputEvent :=
  axisMapping.flatMap fun axis =>
    if axis.2 state ≠ axis.2 g.lastState then [{ type := evAbs, code := axis.1, value := axis.2 state }]
    else []

/-- The motion of the mouse for one axis of the stick, if there is one. -/
def mouseEvent (code : Nat) (axis lastAxis : BitVec 16) : Option InputEvent :=
  if axis ≠ 0 ∧ axis ≠ lastAxis then
    some { type := evRel, code := code, value := (axis.toInt - lastAxis.toInt).tdiv 3000 }
  else none

def syn : InputEvent := { type := evSyn, code := synReport, value := 0 }

/-- The events that are written for a state. -/
def reportState (g : VirtualGamepad) (state : GamepadState) : List InputEvent × VirtualGamepad :=
  let events :=
    match g.debugMode with
    | .rightAnalogToMouse =>
      let motion := (mouseEvent relX state.axisRx g.lastState.axisRx).toList ++
        (mouseEvent relY state.axisRy g.lastState.axisRy).toList
      if motion.isEmpty then [] else motion ++ [syn]
    | .none => g.buttonEvents state ++ (g.axisEvents state ++ [syn])
  (events, { g with lastState := state })

end VirtualGamepad

/-! ### The device -/

/-- The keys and axes that the device is set up with, in the order in which they are compared, with their
values in a state. -/
def controls : List ((Nat × Nat) × (GamepadState → Int)) :=
  (buttonMapping.zipIdx.map fun button =>
    ((evKey, button.1), fun state : GamepadState => if state.buttons.getLsbD button.2 then 1 else 0)) ++
  axisMapping.map fun axis => ((evAbs, axis.1), axis.2)

def controlKeys : List (Nat × Nat) := controls.map Prod.fst

/-- The values of all keys and axes in a state. -/
def GamepadState.shown (state : GamepadState) (k : Nat × Nat) : Int :=
  ((controls.find? fun control => control.1 = k).map fun control => control.2 state).getD 0

/-- The event for a change. -/
def changeEvent (change : (Nat × Nat) × Int) : InputEvent :=
  { type := change.1.1, code := change.1.2, value := change.2 }

/-- A device of the kernel, which is not part of the program. -/
structure InputDevice where
  State : Type
  created : State
  value : State → Nat × Nat → Int
  /-- How many values have changed since the last packet. -/
  pending : State → Nat
  /-- How many changes a packet is sure to hold. -/
  packetSize : Nat
  write : State → InputEvent → State
  /-- Whether a reader gets a packet now. -/
  packet : State → InputEvent → Bool

/-- What the input core does with the events that are written here. A key or an axis takes its value, and an
event that changes nothing is dropped. `SYN_REPORT` hands out what has changed since the last packet, and is
dropped if that is nothing. -/
structure InputDevice.Documented (dev : InputDevice) : Prop where
  value_created : ∀ k ∈ controlKeys, dev.value dev.created k = 0
  pending_created : dev.pending dev.created = 0
  value_write : ∀ d, ∀ k ∈ controlKeys, ∀ state : GamepadState, ∀ k' ∈ controlKeys,
    dev.value (dev.write d (changeEvent (k, state.shown k))) k' =
      Function.update (dev.value d) k (state.shown k) k'
  pending_write : ∀ d, ∀ k ∈ controlKeys, ∀ state : GamepadState, dev.pending d < dev.packetSize →
    dev.pending (dev.write d (changeEvent (k, state.shown k))) =
      if state.shown k = dev.value d k then dev.pending d else dev.pending d + 1
  packet_write : ∀ d, ∀ k ∈ controlKeys, ∀ state : GamepadState, dev.pending d < dev.packetSize →
    dev.packet d (changeEvent (k, state.shown k)) = false
  value_syn : ∀ d, ∀ k ∈ controlKeys, dev.value (dev.write d VirtualGamepad.syn) k = dev.value d k
  pending_syn : ∀ d, dev.pending (dev.write d VirtualGamepad.syn) = 0
  packet_syn : ∀ d, dev.packet d VirtualGamepad.syn = decide (0 < dev.pending d)

/-- The values that a reader has at the end of a packet. -/
def InputDevice.frame (dev : InputDevice) (d : dev.State) (e : InputEvent) : Option (List Int) :=
  if dev.packet d e then some (controlKeys.map (dev.value (dev.write d e))) else none

/-! ### The server -/

/-- The server with its device. -/
structure GamepadHost where
  pyro : PyroStreamServer := {}
  uinput : VirtualGamepad := {}
  /-- What has been written to the device. -/
  events : List InputEvent := []
  /-- The states that were reported. Nothing reads it. -/
  reported : List GamepadState := []

namespace GamepadHost

inductive Action
  | handleUdpDatagram (pts : BitVec 64) (remote : RemoteAddress) (msg : List UInt8)
  | registerTcpHandler
  | releaseConnection (i : Nat)
  | handle (i id : Nat) (received : List UInt8)
  | setCodecParameters (codec : CodecParameters)
  | consumeBitrateChangeRequest

/-- `SwapchainServer::handle_udp_datagram`. -/
def handleUdpDatagram (s : GamepadHost) (pts : BitVec 64) (remote : RemoteAddress) (msg : List UInt8) :
    GamepadHost :=
  let r := (s.pyro.handleUdpDatagram pts remote msg).getUpdatedGamepadState
  let s := { s with pyro := r.2 }
  match r.1 with
  | none => s
  | some state =>
    let r := s.uinput.reportState state
    { s with uinput := r.2, events := s.events ++ r.1, reported := s.reported ++ [state] }

def step (s : GamepadHost) : Action → GamepadHost
  | .handleUdpDatagram pts remote msg => s.handleUdpDatagram pts remote msg
  | .registerTcpHandler => { s with pyro := s.pyro.registerTcpHandler }
  | .releaseConnection i => { s with pyro := s.pyro.releaseConnection i }
  | .handle i id received => { s with pyro := s.pyro.handle i id received }
  | .setCodecParameters codec => { s with pyro := { s.pyro with codec := codec } }
  | .consumeBitrateChangeRequest => { s with pyro := s.pyro.consumeBitrateChangeRequest.2 }

end GamepadHost

end PyroFling
