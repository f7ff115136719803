import PyroFling.Proofs.DuplicateDatagrams

/-!
# A stream from the server to a client

One connection of `pyro-server/pyro_server.cpp`, the network, and a client of `pyro-client/pyro_client.cpp`
that calls `wait_next_packet` over and over. At any time the network delivers any datagram that has been
sent, of any packet: it loses, repeats and reorders them as it likes. Progress reports get through; the
client gives up when one does not.
-/

namespace PyroFling
open ByteMemory

def PyroStreamConnection.sends (c : PyroStreamConnection) (isAudio : Bool) : Bool :=
  c.udpRemote.isSet && c.kicked &&
    decide (c.kickFlags &&& (if isAudio then kickStateAudioBit else kickStateVideoBit) ≠ 0)

/-- The slot that `iterate` will feed a datagram to. -/
def PyroStreamClient.slotFor (c : PyroStreamClient) (t : StreamType) (a : Arrival) :
    Option ReconstructedPacket :=
  let packetSeq := payloadGetPacketSeq a.datagram.header.encoded
  if (c.stream t).hasCompleted ∧ payloadGetPacketSeqDelta packetSeq (c.stream t).lastCompletedSeq ≤ 0 then
    none
  else
    let r := (c.stream t).getStreamPacket packetSeq a.number
    r.1.map r.2.get

/-- A packet as the client hands it out. -/
structure HandedOut where
  stream : StreamType
  number : Nat
  packet : ReconstructedPacket

def PyroStreamClient.takeCurrent (c : PyroStreamClient) : List HandedOut :=
  match c.current with
  | some t => [{ stream := t, number := (c.stream t).first.number, packet := (c.stream t).first }]
  | none => []

structure StreamSession where
  server : PyroStreamConnection
  client : PyroStreamClient
  written : StreamType → List WrittenPacket := fun _ => []
  /-- The datagrams of a packet that have arrived since a slot was started for it. Nothing reads it. -/
  arrived : StreamType → Nat → List Nat := fun _ _ => []
  handedOut : List HandedOut := []

namespace StreamSession

inductive Action
  | writePacket (pts dts : BitVec 64) (data : Bytes) (size : Nat) (isAudio isKeyFrame : Bool) (xorData : Bytes)
  | handle (codec : CodecParameters) (id : Nat) (received : List UInt8)
  | handleUdpDatagram (pts : BitVec 64) (remote : RemoteAddress) (msg : List UInt8)
  | getAndClearPendingVideoPacketLoss
  /-- The network delivers datagram `k` of packet `p` to a client that waits for it. -/
  | deliver (t : StreamType) (p k : Nat) (reportDue : Bool)
  | waitNextPacket

def initial (cookie : BitVec 64) (fec selfRecovering : Bool) : StreamSession :=
  { server := (PyroStreamConnection.new cookie).setForwardErrorCorrection fec
    client := { selfRecovering := selfRecovering } }

/-- Datagram `k` of packet `p`, if it has been sent. -/
def sent? (s : StreamSession) (t : StreamType) (p k : Nat) (reportDue : Bool) : Option Arrival :=
  (s.written t)[p]?.bind fun w => (if w.Emits k then w.datagrams[k]? else none).map fun d =>
    { datagram := d, number := p, reportDue := reportDue }

def record (s : StreamSession) (t : StreamType) (p k : Nat) (a : Arrival) :
    StreamType → Nat → List Nat :=
  match s.client.slotFor t a with
  | none => s.arrived
  | some slot =>
    let before := if slot.isReset then [] else s.arrived t p
    Function.update s.arrived t (Function.update (s.arrived t) p (before ++ [k]))

def step (s : StreamSession) : Action → StreamSession
  | .writePacket pts dts data size isAudio isKeyFrame xorData =>
    let t := if isAudio then .audio else .video
    { s with
      server := (s.server.writePacket pts dts data size isAudio isKeyFrame xorData).2
      written :=
        if s.server.sends isAudio then
          Function.update s.written t
            (s.written t ++ [s.server.written pts dts data size isAudio isKeyFrame xorData])
        else s.written }
  | .handle codec id received => { s with server := (s.server.handle codec id received).2.1 }
  | .handleUdpDatagram pts remote msg => { s with server := (s.server.handleUdpDatagram pts remote msg).1 }
  | .getAndClearPendingVideoPacketLoss =>
    { s with server := s.server.getAndClearPendingVideoPacketLoss.2 }
  | .deliver t p k reportDue =>
    match s.client.current, s.sent? t p k reportDue with
    | none, some a =>
      let client := (s.client.iterate a).2
      { s with
        client := client
        arrived := s.record t p k a
        handedOut := client.takeCurrent ++ s.handedOut }
    | _, _ => s
  | .waitNextPacket => { s with client := s.client.releaseCurrent }

end StreamSession

end PyroFling
