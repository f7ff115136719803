import PyroFling.Lt.Shuffle
import PyroFling.Library.Memory

/-!
# The FEC decoder

`lt/lt_decode.cpp`. The output buffer and the FEC payloads belong to the caller; the model
keeps the bytes the decoder's pointers lead to in `outputData` and in the links. The index
buffer is one flat array of 32-bit words: the mask table from output blocks to FEC blocks at
its start, then one slice of resolved indices for each FEC block. Sizes and offsets that the
source computes in `unsigned` are reduced modulo `2 ^ 32`, and an access past the allocated
words is recorded as a fault.
-/

namespace PyroFling
open ByteMemory

structure EncodedLink where
  data : Option Bytes := none
  outputIndex : Nat := 0
  numUnresolvedIndices : Nat := 0
  /-- Where the slice of resolved indices starts in the index buffer. -/
  resolvedIndices : Nat := 0
  numResolvedIndices : Nat := 0

structure Decoder where
  shuffler : Shuffler := {}
  blockSize : Nat := 0
  outputData : Bytes := fun _ => 0
  outputBlocks : Nat := 0
  decodedBlocks : Nat := 0
  numXorBlocksEven : Nat := 0
  numXorBlocksOdd : Nat := 0
  indexBuffer : Nat → BitVec 32 := fun _ => 0
  indexBufferCapacity : Nat := 0
  indexBufferOffset : Nat := 0
  numU32MasksPerOutput : Nat := 0
  /-- The worklist, its back first. -/
  readyEncodedLinks : List Nat := []
  encodedBlocks : Nat → EncodedLink := fun _ => {}
  numEncodedBlocks : Nat := 0
  decodedBlockMask : Nat → Bool := fun _ => false
  fault : Option Fault := none

/-- `find_lsb`, that is `__builtin_ctz`, for a nonzero word. -/
def findLsb (v : BitVec 32) : Nat :=
  ((List.range 32).find? (fun i => v.getLsbD i)).getD 32

namespace Decoder

def note (d : Decoder) (ok : Bool) (f : Fault) : Decoder :=
  { d with fault := Fault.note d.fault ok f }

def setBlockSize (d : Decoder) (size : Nat) : Decoder := { d with blockSize := size }

def setLink (d : Decoder) (fecIndex : Nat) (block : EncodedLink) : Decoder :=
  { d with encodedBlocks := Function.update d.encodedBlocks fecIndex block }

/-- A write to the index buffer. -/
def storeIndex (d : Decoder) (address : Nat) (value : BitVec 32) : Decoder :=
  { d.note (address < d.indexBufferCapacity) .outOfBounds with
    indexBuffer := Function.update d.indexBuffer address value }

/-- The word of the mask table with the FEC blocks `32 i .. 32 i + 31` of an output block. -/
def maskAddress (d : Decoder) (outputIndex i : Nat) : Nat :=
  outputIndex * d.numU32MasksPerOutput % 2 ^ 32 + i

/-- One iteration of the loop in `seed_block`. -/
def seedPick (fecIndex : Nat) (d : Decoder) : Decoder :=
  let (outputIndex, shuffler) := d.shuffler.pick
  let block := d.encodedBlocks fecIndex
  let address := d.maskAddress outputIndex (fecIndex / 32)
  ({ d with shuffler := shuffler }.setLink fecIndex
    { block with outputIndex := block.outputIndex ^^^ outputIndex }).storeIndex address
      (d.indexBuffer address ||| 1#32 <<< (fecIndex % 32))

/-- A pointer further than one past the end of the index buffer is already out of bounds. -/
def seedBlock (d : Decoder) (fecIndex : Nat) : Decoder :=
  let numXorBlocks := fecDegree d.numXorBlocksEven d.numXorBlocksOdd fecIndex
  let d := d.note (d.indexBufferOffset ≤ d.indexBufferCapacity) .outOfBounds
  let d := { d.setLink fecIndex { d.encodedBlocks fecIndex with
      resolvedIndices := d.indexBufferOffset, outputIndex := 0 } with
    indexBufferOffset := d.indexBufferOffset + d.outputBlocks
    shuffler := d.shuffler.begin d.outputBlocks numXorBlocks }
  let d := (seedPick fecIndex)^[numXorBlocks] d
  d.setLink fecIndex { d.encodedBlocks fecIndex with numUnresolvedIndices := numXorBlocks }

/-- The capacity is a `size_t`; a new buffer is not initialised. -/
def reserveIndices (d : Decoder) (numIndices : Nat) : Decoder :=
  let d :=
    if d.indexBufferCapacity < numIndices then
      match growCapacity 64 64 (if d.indexBufferCapacity = 0 then 1 else d.indexBufferCapacity)
        numIndices with
      | some capacity => { d with indexBufferCapacity := capacity, indexBuffer := fun _ => 0 }
      | none => d.note false .divergence
    else d
  { d with indexBufferOffset := 0 }

/-- The `memset` of the mask table. -/
def clearMasks (d : Decoder) (words : Nat) : Decoder :=
  { d.note (words ≤ d.indexBufferCapacity) .outOfBounds with
    indexBuffer := fun a => if a < words then 0 else d.indexBuffer a }

/-- The part of `begin_decode` before the FEC blocks are seeded. -/
def beginArena (d : Decoder) (seed : Nat) (data : Bytes) (size maxFecBlocks even odd : Nat) :
    Decoder :=
  let outputBlocks := size / d.blockSize % 2 ^ 32
  let masks := (maxFecBlocks + 31) % 2 ^ 32 / 32
  let d := { d with
    outputData := data
    outputBlocks := outputBlocks
    numXorBlocksEven := even
    numXorBlocksOdd := odd
    decodedBlocks := 0
    decodedBlockMask := fun _ => false
    readyEncodedLinks := []
    numU32MasksPerOutput := masks
    fault := none }
  let d := (d.note (d.blockSize ≠ 0) .divisionByZero).note (size % d.blockSize = 0) .assertion
  let d := d.reserveIndices ((maxFecBlocks * outputBlocks + masks * outputBlocks) % 2 ^ 32)
  let d := d.clearMasks (masks * outputBlocks % 2 ^ 32)
  { d with
    indexBufferOffset := d.indexBufferOffset + masks * outputBlocks % 2 ^ 32
    shuffler := (d.shuffler.seed seed).flush
    encodedBlocks := fun _ => {}
    numEncodedBlocks := maxFecBlocks }

def beginDecode (d : Decoder) (seed : Nat) (data : Bytes) (size maxFecBlocks even odd : Nat) :
    Decoder :=
  (List.range maxFecBlocks).foldl seedBlock (d.beginArena seed data size maxFecBlocks even odd)

/-- The body of the loops in `propagate_decoded_block`. -/
def resolveLink (d : Decoder) (outputIndex fecIndex : Nat) : Decoder :=
  let block := d.encodedBlocks fecIndex
  let d := d.note (fecIndex < d.numEncodedBlocks) .outOfBounds
  let d := d.note (block.numUnresolvedIndices ≠ 0) .assertion
  let block := { block with
    outputIndex := block.outputIndex ^^^ outputIndex
    numUnresolvedIndices := block.numUnresolvedIndices - 1 }
  match block.data with
  | some payload =>
    let source := d.outputData.drop (d.blockSize * outputIndex)
    let d := d.setLink fecIndex { block with data := some (payload.xor source d.blockSize) }
    if block.numUnresolvedIndices = 1 then
      { d with readyEncodedLinks := fecIndex :: d.readyEncodedLinks }
    else d
  | none =>
    (d.setLink fecIndex { block with numResolvedIndices := block.numResolvedIndices + 1 }).storeIndex
      (block.resolvedIndices + block.numResolvedIndices) (BitVec.ofNat 32 outputIndex)

/-- `while (mask) { ... }` for one word of the mask table; every round clears a bit. -/
def propagateWord (outputIndex i : Nat) : Nat → Decoder → Decoder
  | 0, d => d.note (d.indexBuffer (d.maskAddress outputIndex i) = 0) .divergence
  | fuel + 1, d =>
    let address := d.maskAddress outputIndex i
    let mask := d.indexBuffer address
    if mask = 0 then d
    else
      let bit := findLsb mask
      let d := d.storeIndex address (mask &&& ~~~(1#32 <<< bit))
      propagateWord outputIndex i fuel (d.resolveLink outputIndex (i * 32 + bit))

def propagateDecodedBlock (d : Decoder) (outputIndex : Nat) : Decoder :=
  (List.range d.numU32MasksPerOutput).foldl
    (fun d i => propagateWord outputIndex i 32
      (d.note (d.maskAddress outputIndex i < d.indexBufferCapacity) .outOfBounds)) d

def markDecodedBlock (d : Decoder) (index : Nat) : Bool × Decoder :=
  let d := d.note (index < d.outputBlocks) .outOfBounds
  if d.decodedBlockMask index then (false, d)
  else
    (true, { d with
      decodedBlockMask := Function.update d.decodedBlockMask index true
      decodedBlocks := d.decodedBlocks + 1 })

def drainReadyBlock (d : Decoder) (fecIndex : Nat) : Decoder :=
  let block := d.encodedBlocks fecIndex
  -- Redundant block.
  if block.numUnresolvedIndices = 0 then d
  else
    let d := d.note (block.numUnresolvedIndices = 1) .assertion
    let d := d.note block.data.isSome .assertion
    let d := d.note (block.outputIndex < d.outputBlocks) .assertion
    match d.markDecodedBlock block.outputIndex with
    | (true, d) =>
      propagateDecodedBlock { d with
        outputData := d.outputData.store (d.blockSize * block.outputIndex)
          (block.data.getD (fun _ => 0)) d.blockSize } block.outputIndex
    | (false, d) => d

/-- The worklist loop. Running out of rounds with work left is recorded as a divergence. -/
def drainReadyBlocks : Nat → Decoder → Decoder
  | 0, d => d.note d.readyEncodedLinks.isEmpty .divergence
  | fuel + 1, d =>
    match d.readyEncodedLinks with
    | [] => d
    | fecIndex :: rest =>
      drainReadyBlocks fuel ({ d with readyEncodedLinks := rest }.drainReadyBlock fecIndex)

/-- The end of both push functions: drain the worklist, compare the counters and, in debug
builds, check that a complete message leaves nothing unresolved. -/
def finishPush (d : Decoder) : Bool × Decoder :=
  let d := drainReadyBlocks (d.readyEncodedLinks.length + d.numEncodedBlocks) d
  let ret : Bool := d.decodedBlocks = d.outputBlocks
  (ret, d.note (!ret || (List.range d.numEncodedBlocks).all
    (fun i => (d.encodedBlocks i).numUnresolvedIndices = 0)) .assertion)

/-- The loop of `push_fec_block` over the indices that were resolved before the payload
arrived. -/
def reducePayload (d : Decoder) (block : EncodedLink) (payload : Bytes) : Bytes :=
  (List.range block.numResolvedIndices).foldl
    (fun payload i => payload.xor
      (d.outputData.drop (d.blockSize * (d.indexBuffer (block.resolvedIndices + i)).toNat))
      d.blockSize) payload

def pushFecBlock (d : Decoder) (index : Nat) (data : Bytes) : Bool × Decoder :=
  let d := d.note (index < d.numEncodedBlocks) .assertion
  let block := d.encodedBlocks index
  let d := d.setLink index { block with
    data := some (d.reducePayload block data), numResolvedIndices := 0 }
  finishPush
    (if block.numUnresolvedIndices = 1 then
      { d with readyEncodedLinks := index :: d.readyEncodedLinks }
    else d)

def pushRawBlock (d : Decoder) (index : Nat) : Bool × Decoder :=
  match d.markDecodedBlock index with
  | (true, d) => finishPush (d.propagateDecodedBlock index)
  | (false, d) => finishPush d

end Decoder

/-- What the owner of a decoder does between `begin_decode` and the end of the message. -/
inductive Push
  | raw (index : Nat)
  | fec (index : Nat) (data : Bytes)
  /-- The owner writes to the output buffer. -/
  | fill (data : Bytes)

def Push.rawIndex : Push → Option Nat
  | .raw index => some index
  | _ => none

def Push.fecIndex : Push → Option Nat
  | .fec index _ => some index
  | _ => none

namespace Decoder

/-- One action, with the result of the last push carried along. -/
def push (r : Bool × Decoder) : Push → Bool × Decoder
  | .raw index => r.2.pushRawBlock index
  | .fec index data => r.2.pushFecBlock index data
  | .fill data => (r.1, { r.2 with outputData := data })

def pushAll (r : Bool × Decoder) (pushes : List Push) : Bool × Decoder := pushes.foldl push r

end Decoder

end PyroFling
