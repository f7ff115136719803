import PyroFling.StreamServer

/-!
# Forced key frames

`PyroStreamServer::should_force_idr` of `pyro-server/pyro_server.cpp`. The encoder's thread looks at one
connection after the other while messages of the clients are handled; the lock of the server is held, so
that no connection comes or goes in the meantime.
-/

namespace PyroFling

open PyroStreamConnection (Event)

/-! ### Reports of the clients -/

/-- What the progress reports of a client have said. Nothing but the ghost state of the calls reads it. -/
structure LossReport where
  dropped : Nat := 0
  -- since the last forced key frame
  changed : Bool := false
  noKeyFrame : Bool := false
  deriving DecidableEq

def LossReport.next (r : LossReport) : Event → LossReport
  | .message type payload =>
    if type = messageProgress then
      let progress := payload.take 40
      { dropped := PyroStreamConnection.progressField progress 2
        changed := r.changed || r.dropped ≠ PyroStreamConnection.progressField progress 2
        noKeyFrame := PyroStreamConnection.progressField progress 4 = 0 }
    else r
  | _ => r

/-! ### The server -/

namespace PyroStreamConnection

def requiresIdr (c : PyroStreamConnection) : Bool := c.kickFlags &&& kickStateVideoBit ≠ 0 && c.needsKeyFrame

end PyroStreamConnection

/-- A call in its loop over the connections. Nothing reads its last two fields: a connection had reported a
loss when the call began, and the video connections that have been without a key frame ever since. -/
structure IdrCall where
  remaining : List Nat
  requiresIdr : Bool := false
  lossReported : Bool := false
  withoutKeyFrame : List Nat := []

structure IdrReturn where
  -- returned before the loop
  limited : Bool
  due : Bool := false
  result : Bool
  deriving DecidableEq

/-- How many calls have returned false since the last that returned true. -/
def sinceForced (results : List Bool) : Nat := results.foldl (fun n result => if result then 0 else n + 1) 0

structure IdrSession where
  server : PyroStreamServer := {}
  idrCounter : BitVec 64 := 0
  idrOnPacketLoss : Bool
  call : Option IdrCall := none
  -- Nothing in the source reads the reports of the clients and the calls so far.
  report : Nat → LossReport := fun _ => {}
  returns : List IdrReturn := []

namespace IdrSession

/-- A video connection whose client has reported that it has no key frame. -/
def LacksKeyFrame (s : IdrSession) (i : Nat) : Prop :=
  (s.report i).noKeyFrame = true ∧ (s.server.connection i).kickFlags &&& kickStateVideoBit ≠ 0

instance (s : IdrSession) (i : Nat) : Decidable (s.LacksKeyFrame i) := inferInstanceAs (Decidable (_ ∧ _))

/-- The bytes that a client sends; `sends` answers get through. -/
def handle (s : IdrSession) (i : Nat) (received : List UInt8) (sends : Nat) : IdrSession :=
  if i ∈ s.server.connections then
    let r := (s.server.connection i).handleSending s.server.codec 0 received sends
    let server := { s.server with connection := Function.update s.server.connection i r.2.1 }
    let s := { s with
      server := r.2.2.foldl PyroStreamServer.onEvent server
      report := Function.update s.report i (r.2.2.foldl LossReport.next (s.report i)) }
    { s with call := s.call.map fun c =>
        { c with withoutKeyFrame := c.withoutKeyFrame.filter fun j => s.LacksKeyFrame j } }
  else s

/-- The beginning of `should_force_idr`, up to the loop. -/
def shouldForceIdr (s : IdrSession) : IdrSession :=
  let limited := s.idrCounter.toNat < 60
  let s := { s with idrCounter := s.idrCounter + 1 }
  if limited then { s with returns := s.returns ++ [{ limited := true, result := false }] }
  else
    { s with call := some {
        remaining := s.server.connections
        lossReported := s.idrOnPacketLoss && s.server.connections.any fun i => (s.report i).changed
        withoutKeyFrame := s.server.connections.filter fun i => s.LacksKeyFrame i } }

/-- One round of the loop, or what comes after it. -/
def sample (s : IdrSession) (c : IdrCall) : IdrSession :=
  match c.remaining with
  | i :: remaining =>
    let (pending, connection) := (s.server.connection i).getAndClearPendingVideoPacketLoss
    { s with
      server := { s.server with connection := Function.update s.server.connection i connection }
      call := some { c with
        remaining := remaining
        requiresIdr := c.requiresIdr || (pending && s.idrOnPacketLoss) || connection.requiresIdr } }
  | [] =>
    { s with
      idrCounter := if c.requiresIdr then 0 else s.idrCounter
      call := none
      report := if c.requiresIdr then fun i => { s.report i with changed := false } else s.report
      returns := s.returns ++ [{
        limited := false, due := c.lossReported || c.withoutKeyFrame ≠ [], result := c.requiresIdr }] }

end IdrSession

inductive IdrEvent
  | registerTcpHandler
  | releaseConnection (i : Nat)
  | handle (i : Nat) (received : List UInt8) (sends : Nat)
  | handleUdpDatagram (pts : BitVec 64) (remote : RemoteAddress) (msg : List UInt8)
  | setCodecParameters (codec : CodecParameters)
  /-- The encoder's thread calls the function, or goes on in it. -/
  | shouldForceIdr

namespace IdrSession

/-- The lock keeps the list of connections as it is during a call. -/
def step (s : IdrSession) : IdrEvent → IdrSession
  | .registerTcpHandler =>
    if s.call.isNone then { s with
      server := s.server.registerTcpHandler
      report := Function.update s.report s.server.accepted {} } else s
  | .releaseConnection i =>
    if s.call.isNone then { s with server := s.server.releaseConnection i } else s
  | .handle i received sends => s.handle i received sends
  | .handleUdpDatagram pts remote msg => { s with server := s.server.handleUdpDatagram pts remote msg }
  | .setCodecParameters codec => { s with server := { s.server with codec := codec } }
  | .shouldForceIdr =>
    match s.call with
    | none => s.shouldForceIdr
    | some c => s.sample c

end IdrSession

end PyroFling
