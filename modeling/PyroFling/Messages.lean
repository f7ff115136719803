import PyroFling.Protocol

/-!
# Messages between processes

`ipc/messages.cpp`. A message is one packet of a local socket: a header, a payload that is the
memory of a C structure, and file descriptors. The socket keeps the boundaries of packets and
delivers the descriptors with them.
-/

namespace PyroFling

/-- The top bit marks an event that answers no request. -/
def messageEventFlag : BitVec 32 := 0x80000000

inductive MessageType
  | void
  | ok
  | errorProtocol
  | error
  | errorParameter
  | echoPayload
  | device
  | imageGroup
  | presentImage
  | acquireImage
  | frameComplete
  | retireImage
  | clientHello
  | serverHello
  deriving DecidableEq

namespace MessageType

def value : MessageType → BitVec 32
  | .void => 0
  | .ok => 1
  | .errorProtocol => 2
  | .error => 3
  | .errorParameter => 4
  | .echoPayload => 100
  | .device => 101
  | .imageGroup => 102
  | .presentImage => 103
  | .acquireImage => 104 ||| messageEventFlag
  | .frameComplete => 105 ||| messageEventFlag
  | .retireImage => 106 ||| messageEventFlag
  | .clientHello => 200
  | .serverHello => 201

/-- The cases of the `switch` over a type. -/
def all : List MessageType := [.void, .ok, .errorProtocol, .error, .errorParameter, .echoPayload, .device,
  .imageGroup, .presentImage, .acquireImage, .frameComplete, .retireImage, .clientHello, .serverHello]

def ofValue (v : BitVec 32) : Option MessageType := all.find? fun t => t.value = v

/-- `sizeof(WireFormat)`. -/
def wireSize : MessageType → Nat
  | .clientHello => 256
  | .serverHello => 16 * 4
  | .device => 16 * 2 + 8 + 4
  | .imageGroup => 44 + 15 * 4
  | .presentImage => 32
  | .acquireImage => 16
  | .retireImage => 16
  | .frameComplete => 48
  | _ => 0

end MessageType

/-- A packet of the socket. -/
structure SocketPacket where
  bytes : List UInt8
  fds : List Nat
  deriving DecidableEq

def messageMagic : Nat := 0x7538244abd122f9f

structure RawMessageHeader where
  magic : Nat
  serial : BitVec 64
  type : BitVec 32
  payloadLen : Nat
  deriving DecidableEq

/-- `sizeof(RawMessageHeader)`, with a reserved word at the end. -/
def rawMessageHeaderSize : Nat := 32

/-- `sizeof(RawMessagePayload)`. -/
def rawMessagePayloadSize : Nat := 1024

/-- `MaxSockets`: a message with more descriptors is not sent, so that no image group is larger. -/
def maxSockets : Nat := 16

namespace RawMessageHeader

def toBytes (h : RawMessageHeader) : List UInt8 :=
  toLittleEndian 8 h.magic ++ (toLittleEndian 8 h.serial.toNat ++ (toLittleEndian 4 h.type.toNat ++
    (toLittleEndian 4 h.payloadLen ++ toLittleEndian 8 0)))

def ofBytes (bytes : List UInt8) : RawMessageHeader where
  magic := wordAt bytes 0 8
  serial := BitVec.ofNat 64 (wordAt bytes 8 8)
  type := BitVec.ofNat 32 (wordAt bytes 16 4)
  payloadLen := wordAt bytes 20 4

end RawMessageHeader

/-- A parsed message. The payload is kept as the bytes of its wire format. -/
structure Message where
  type : MessageType
  serial : BitVec 64
  wire : List UInt8 := []
  fds : List Nat := []
  deriving DecidableEq

/-- The packet that `send_message` gives to the socket, unless it refuses. -/
def sendMessage (type : MessageType) (serial : BitVec 64) (payload : List UInt8) (fds : List Nat) :
    Option SocketPacket :=
  if maxSockets < fds.length then none
  else if rawMessagePayloadSize - rawMessageHeaderSize < payload.length then none
  else
    some {
      bytes := RawMessageHeader.toBytes {
        magic := messageMagic, serial := serial, type := type.value, payloadLen := payload.length } ++ payload
      fds := fds }

/-! ### Parsing -/

def createSingleFileHandleMessage (type : MessageType) (h : RawMessageHeader) (handles : List Nat) :
    Option Message :=
  if h.payloadLen ≠ 0 then none
  else if handles.length ≠ 1 then none
  else some { type := type, serial := h.serial, fds := handles }

/-- `data` is the payload, filled up with zeros. -/
def createFileHandlesWireFormatMessage (type : MessageType) (h : RawMessageHeader) (data : List UInt8)
    (handles : List Nat) : Option Message :=
  some { type := type, serial := h.serial, wire := data.take type.wireSize, fds := handles }

def createFileHandleWireFormatMessage (type : MessageType) (h : RawMessageHeader) (data : List UInt8)
    (handles : List Nat) : Option Message :=
  if 1 < handles.length then none
  else some { type := type, serial := h.serial, wire := data.take type.wireSize, fds := handles }

def createWireFormatMessage (type : MessageType) (h : RawMessageHeader) (data : List UInt8) :
    Option Message :=
  if h.payloadLen ≠ type.wireSize then none
  else some { type := type, serial := h.serial, wire := data.take type.wireSize }

def decodeMessage (h : RawMessageHeader) (data : List UInt8) (fds : List Nat) : Option Message :=
  match MessageType.ofValue h.type with
  | some .echoPayload => createSingleFileHandleMessage .echoPayload h fds
  | some .ok => some { type := .ok, serial := h.serial }
  | some .errorProtocol => some { type := .errorProtocol, serial := h.serial }
  | some .error => some { type := .error, serial := h.serial }
  | some .errorParameter => some { type := .errorParameter, serial := h.serial }
  | some .clientHello => createWireFormatMessage .clientHello h data
  | some .serverHello => createWireFormatMessage .serverHello h data
  | some .device => createWireFormatMessage .device h data
  | some .imageGroup => createFileHandlesWireFormatMessage .imageGroup h data fds
  | some .presentImage => createFileHandleWireFormatMessage .presentImage h data fds
  | some .acquireImage => createFileHandleWireFormatMessage .acquireImage h data fds
  | some .frameComplete => createWireFormatMessage .frameComplete h data
  | some .retireImage => createWireFormatMessage .retireImage h data
  | some .void | none => none

/-- `recvmsg` fills the buffer as far as the packet goes and delivers the descriptors there is room
for; what did not fit is flagged. The rest of the buffer is zero. -/
def parseMessage (packet : SocketPacket) : Option Message :=
  let ret := min packet.bytes.length rawMessagePayloadSize
  let truncated := rawMessagePayloadSize < packet.bytes.length ∨ maxSockets < packet.fds.length
  let payload := packet.bytes.take ret ++ List.replicate (rawMessagePayloadSize - ret) 0
  let h := RawMessageHeader.ofBytes payload
  if ret = 0 then none
  else if h.magic ≠ messageMagic then none
  else if ret ≠ rawMessageHeaderSize + h.payloadLen then none
  else if truncated then none
  else decodeMessage h (payload.drop rawMessageHeaderSize) (packet.fds.take maxSockets)

end PyroFling
