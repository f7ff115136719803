import PyroFling.Lt.Shuffle
import PyroFling.Library.Memory

/-!
# The FEC encoder

`lt/lt_encode.cpp`. Buffers exist in memory, so their sizes do not wrap in `size_t`; the
number of blocks is an `unsigned` and does.
-/

namespace PyroFling
open ByteMemory

structure Encoder where
  shuffler : Shuffler := {}
  blockSize : Nat := 0

namespace Encoder

def setBlockSize (e : Encoder) (size : Nat) : Encoder := { e with blockSize := size }

def seed (e : Encoder) (seed : Nat) : Encoder := { e with shuffler := e.shuffler.seed seed }

def flush (e : Encoder) : Encoder := { e with shuffler := e.shuffler.flush }

/-- How `generate` combines the input block `idx`, its `i`th pick, into the FEC block. -/
def combine (e : Encoder) (inputData : Bytes) (size inputBlocks i idx : Nat)
    (xorData : Bytes) : Bytes :=
  let source := inputData.drop (e.blockSize * idx)
  if i = 0 then
    if idx + 1 = inputBlocks then
      let copySize := size - idx * e.blockSize
      (xorData.copy source copySize).zero copySize (e.blockSize - copySize)
    else xorData.copy source e.blockSize
  else if idx + 1 = inputBlocks then xorData.xor source (size - idx * e.blockSize)
  else xorData.xor source e.blockSize

/-- The loop of `generate` from iteration `i` on, with `k` iterations to go. -/
def generateLoop (inputData : Bytes) (size inputBlocks : Nat) :
    Nat → Nat → Encoder → Bytes → Bytes × Encoder
  | 0, _, e, xorData => (xorData, e)
  | k + 1, i, e, xorData =>
    let (idx, shuffler) := e.shuffler.pick
    generateLoop inputData size inputBlocks k (i + 1) { e with shuffler := shuffler }
      (e.combine inputData size inputBlocks i idx xorData)

/-- `generate` overwrites `xorData`, whose old content only shows through for a degree of
zero. -/
def generate (e : Encoder) (xorData inputData : Bytes) (size numXorBlocks : Nat) :
    Bytes × Encoder :=
  let inputBlocks := (size + e.blockSize - 1) / e.blockSize % 2 ^ 32
  generateLoop inputData size inputBlocks numXorBlocks 0
    { e with shuffler := e.shuffler.begin inputBlocks numXorBlocks } xorData

/-- The FEC blocks of a message: `generate` for the indices `i`, `i + 1`, ... with the
degree given by the parity of the index. -/
def generateFrom (inputData : Bytes) (size even odd : Nat) :
    Nat → Nat → Encoder → Bytes → List Bytes × Encoder
  | 0, _, e, _ => ([], e)
  | k + 1, i, e, xorData =>
    let (block, e) := e.generate xorData inputData size (fecDegree even odd i)
    let (blocks, e) := generateFrom inputData size even odd k (i + 1) e block
    (block :: blocks, e)

lemma length_generateFrom (inputData : Bytes) (size even odd : Nat) (k : Nat) :
    ∀ (i : Nat) (e : Encoder) (xorData : Bytes),
      (generateFrom inputData size even odd k i e xorData).1.length = k := by
  induction k with
  | zero => exact fun i e xorData => rfl
  | succ k ih => exact fun i e xorData => congrArg (· + 1) (ih _ _ _)

/-- All FEC blocks of a message after `flush` and `seed`. -/
def encode (e : Encoder) (seed : Nat) (xorData inputData : Bytes)
    (size numFecBlocks even odd : Nat) : List Bytes × Encoder :=
  generateFrom inputData size even odd numFecBlocks 0 (e.flush.seed seed) xorData

end Encoder

end PyroFling
