import Mathlib

/-!
# The wire protocol

`proto/pyro_protocol.h`: the headers of UDP datagrams, with their wrapping sequence numbers, and
the types of the control messages. All words are little-endian.
-/

namespace PyroFling

def maxPayloadSize : Nat := 1024

/-! ### Datagrams from the server -/

structure PayloadHeader where
  ptsLo : BitVec 32 := 0
  ptsHi : BitVec 32 := 0
  dtsDelta : BitVec 32 := 0
  payloadSize : BitVec 32 := 0
  numFecBlocks : BitVec 16 := 0
  numXorBlocksEven : BitVec 8 := 0
  numXorBlocksOdd : BitVec 8 := 0
  encoded : BitVec 32 := 0
  deriving DecidableEq

/-- `sizeof(pyro_payload_header)`. -/
def payloadHeaderSize : Nat := 24

def maxUdpDatagramSize : Nat := maxPayloadSize + payloadHeaderSize

def payloadKeyFrameBit : BitVec 32 := 1#32 <<< 0

def payloadStreamTypeBit : BitVec 32 := 1#32 <<< 1

def payloadPacketFecBit : BitVec 32 := 1#32 <<< 2

def payloadPacketBeginBit : BitVec 32 := 1#32 <<< 3

def payloadPacketSeqOffset : Nat := 4

def payloadSubpacketSeqOffset : Nat := 18

/-- Both sequence numbers have 14 bits. -/
def payloadSeqMask : BitVec 32 := (1#32 <<< 14) - 1

def payloadGetPacketSeq (flags : BitVec 32) : BitVec 32 :=
  (flags >>> payloadPacketSeqOffset) &&& payloadSeqMask

def payloadGetSubpacketSeq (flags : BitVec 32) : BitVec 32 :=
  (flags >>> payloadSubpacketSeqOffset) &&& payloadSeqMask

/-- The distance from `b` to `a` in a window around `b`. -/
def payloadGetSeqDelta (a b mask : BitVec 32) : Int :=
  let d := (a - b) &&& mask
  if d ≤ mask >>> 1 then d.toNat else d.toNat - (mask + 1).toNat

def payloadGetPacketSeqDelta (a b : BitVec 32) : Int := payloadGetSeqDelta a b payloadSeqMask

def payloadGetSubpacketSeqDelta (a b : BitVec 32) : Int := payloadGetSeqDelta a b payloadSeqMask

/-- A datagram as it is received: the size of all of it, the header and what follows. -/
structure Datagram where
  size : Nat
  header : PayloadHeader
  buffer : Nat → UInt8

/-! ### Control messages -/

/-- `PYRO_VERSION_MASK`, an `int` that is negative. -/
def versionMask : BitVec 32 := 0xaa02#32 <<< 16

/-- What `PYRO_MAKE_MESSAGE_TYPE` puts together of 32-bit words: a magic number and the kind of
message. -/
def messageTypeMagic (t : BitVec 32) : BitVec 32 :=
  0x50#32 <<< 26 ||| 0x59#32 <<< 20 ||| 0x52#32 <<< 14 ||| t

/-- `PYRO_MAKE_MESSAGE_TYPE` with an `int` for the size of the payload. -/
def makeMessageType (t s : BitVec 32) : BitVec 32 := (messageTypeMagic t ||| s <<< 6) ^^^ versionMask

/-- `PYRO_MAKE_MESSAGE_TYPE` with a `size_t`: the word has 64 bits then, and the upper ones come from
the sign of the version mask. -/
def makeMessageTypeSizeof (t : BitVec 32) (s : BitVec 64) : BitVec 64 :=
  ((messageTypeMagic t).setWidth 64 ||| s <<< 6) ^^^ versionMask.signExtend 64

def messageMagicMask : BitVec 32 := ~~~0#32 <<< 14

/-! `pyro_message_type` has to hold the types with a `sizeof`, and so all of its values have 64 bits. -/

def messageNak : BitVec 64 := (makeMessageType 1 0).setWidth 64

def messageAgain : BitVec 64 := (makeMessageType 2 0).setWidth 64

def messageHello : BitVec 64 := (makeMessageType 3 0).setWidth 64

def messageCookie : BitVec 64 := makeMessageTypeSizeof 4 8

def messageKick : BitVec 64 := makeMessageTypeSizeof 5 4

def messageProgress : BitVec 64 := makeMessageTypeSizeof 6 40

def messageCodecParameters : BitVec 64 := makeMessageTypeSizeof 7 28

def messagePhaseOffset : BitVec 64 := makeMessageTypeSizeof 8 4

def messageGamepadState : BitVec 64 := makeMessageTypeSizeof 9 16

def messagePing : BitVec 64 := makeMessageTypeSizeof 10 2

/-- `sizeof(pyro_message_type)`. -/
def messageTypeSize : Nat := 8

def maxMessageBufferLength : Nat := 255 + messageTypeSize

/-- The parameter is a `uint32_t`: only the lower word of a type counts. -/
def messageValidateMagic (type : BitVec 64) : Bool :=
  let v : BitVec 32 := type.setWidth 32
  makeMessageType 0 0 = v &&& messageMagicMask

/-- The parameter is a `uint32_t` as well. -/
def messageGetLength (type : BitVec 64) : Nat :=
  let v : BitVec 32 := type.setWidth 32
  ((v >>> 6) &&& 0xff#32).toNat

def kickStateVideoBit : BitVec 32 := 1#32 <<< 0

def kickStateAudioBit : BitVec 32 := 1#32 <<< 1

def kickStateGamepadBit : BitVec 32 := 1#32 <<< 2

structure CodecParameters where
  videoCodec : BitVec 32 := 0
  videoColorProfile : BitVec 32 := 0
  audioCodec : BitVec 32 := 0
  frameRateNum : BitVec 16 := 0
  frameRateDen : BitVec 16 := 0
  width : BitVec 16 := 0
  height : BitVec 16 := 0
  channels : BitVec 32 := 0
  rate : BitVec 32 := 0
  deriving DecidableEq

/-- `PYRO_VIDEO_CODEC_NONE`. -/
def videoCodecNone : BitVec 32 := 0

/-- The number that some bytes stand for on the wire. -/
def littleEndian : List UInt8 → Nat
  | [] => 0
  | b :: bytes => b.toNat + 256 * littleEndian bytes

/-- The bytes of a number on the wire. -/
def toLittleEndian : Nat → Nat → List UInt8
  | 0, _ => []
  | width + 1, v => UInt8.ofNat v :: toLittleEndian width (v / 256)

/-- `pyro_message_type` as it is sent. -/
def typeBytes (type : BitVec 64) : List UInt8 := toLittleEndian messageTypeSize type.toNat

/-- A word in the middle of some bytes. -/
def wordAt (bytes : List UInt8) (offset width : Nat) : Nat := littleEndian ((bytes.drop offset).take width)

@[simp] lemma length_toLittleEndian (width v : Nat) : (toLittleEndian width v).length = width := by
  induction width generalizing v with
  | zero => rfl
  | succ width ih => simp [toLittleEndian, ih]

lemma littleEndian_toLittleEndian (width v : Nat) : littleEndian (toLittleEndian width v) = v % 256 ^ width := by
  induction width generalizing v with
  | zero => simp [toLittleEndian, littleEndian, Nat.mod_one]
  | succ width ih =>
    rw [toLittleEndian, littleEndian, ih, pow_succ', Nat.mod_mul]
    simp

/-- A word is read back from where it was written. -/
lemma wordAt_append (before : List UInt8) (width v : Nat) (after : List UInt8) :
    wordAt (before ++ (toLittleEndian width v ++ after)) before.length width = v % 256 ^ width := by
  rw [wordAt, List.drop_left, List.take_left' (length_toLittleEndian width v)]
  exact littleEndian_toLittleEndian width v

/-! ### Sequence arithmetic -/

/-- The 14-bit sequence number of the packet with number `p` of a stream that starts at
`start`. -/
def wireSeq (start : BitVec 32) (p : Nat) : BitVec 32 := (start + BitVec.ofNat 32 p) &&& payloadSeqMask

lemma payloadSeqMask_eq : payloadSeqMask = BitVec.ofNat 32 (2 ^ 14 - 1) := by decide

lemma toNat_and_payloadSeqMask (v : BitVec 32) : (v &&& payloadSeqMask).toNat = v.toNat % 2 ^ 14 := by
  rw [payloadSeqMask_eq, BitVec.toNat_and]
  exact Nat.and_two_pow_sub_one_eq_mod v.toNat 14

lemma payloadGetSeqDelta_eq (a b : BitVec 32) :
    payloadGetSeqDelta a b payloadSeqMask = ((a.toNat : Int) - b.toNat).bmod (2 ^ 14) := by
  have hd : ((a - b) &&& payloadSeqMask).toNat = (a.toNat + (2 ^ 32 - b.toNat)) % 2 ^ 14 := by
    rw [toNat_and_payloadSeqMask, BitVec.toNat_sub, Nat.add_comm]
    omega
  have hhalf : (payloadSeqMask >>> 1).toNat = 8191 := by decide
  have hfull : (payloadSeqMask + 1).toNat = 16384 := by decide
  have hb := b.isLt
  simp only [payloadGetSeqDelta, BitVec.le_def, hhalf, hfull, hd, Int.bmod]
  split <;> split <;> omega

/-- Distances below `2 ^ 13` survive the wrapping. -/
lemma payloadGetPacketSeqDelta_wireSeq (start : BitVec 32) {p q : Nat} (hlt : p < q + 2 ^ 13)
    (hgt : q < p + 2 ^ 13) :
    payloadGetPacketSeqDelta (wireSeq start p) (wireSeq start q) = (p : Int) - q := by
  have hseq : ∀ k, (wireSeq start k).toNat = (start.toNat + k) % 2 ^ 14 := by
    intro k
    rw [wireSeq, toNat_and_payloadSeqMask, BitVec.toNat_add, BitVec.toNat_ofNat]
    omega
  rw [payloadGetPacketSeqDelta, payloadGetSeqDelta_eq, hseq, hseq, Int.bmod]
  push_cast
  split <;> omega

end PyroFling
