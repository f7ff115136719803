import Mathlib

/-!
# The index shuffler of the FEC codec

`lt/lt_shuffle.cpp`: encoder and decoder draw the members of every FEC block from a
`Shuffler` seeded with the same value, so that the index sets never travel on the wire.
Whatever the C++ leaves undefined, or rejects with an `assert`, is recorded in a `Fault`;
the run then goes on as a release build would, so that every function stays total.
-/

namespace PyroFling

/-- What can go wrong in a run of the C++ code without an error being returned. -/
inductive Fault
  | assertion
  | outOfBounds
  | divisionByZero
  | signedOverflow
  | divergence
  deriving DecidableEq, Repr

/-- Records `f` unless `ok` holds or an earlier fault is already known. -/
def Fault.note (old : Option Fault) (ok : Bool) (f : Fault) : Option Fault :=
  if ok then old else old.or (some f)

/-- `std::minstd_rand`, the linear congruential engine `x ↦ 48271 x mod (2 ^ 31 - 1)`. -/
structure MinstdRand where
  state : Nat := 1
  deriving DecidableEq, Repr

/-- `seed`: a state of zero would be absorbing, the standard replaces it by one. -/
def MinstdRand.seed (s : Nat) : MinstdRand :=
  ⟨if s % 2147483647 = 0 then 1 else s % 2147483647⟩

def MinstdRand.next (r : MinstdRand) : MinstdRand :=
  ⟨48271 * r.state % 2147483647⟩

/-- The loop `while (capacity < need) capacity *= 2` in `width`-bit arithmetic. A product
that has wrapped to zero never reaches `need`, so `width` rounds decide termination. -/
def growCapacity (width : Nat) : Nat → Nat → Nat → Option Nat
  | 0, capacity, need => if capacity < need then none else some capacity
  | fuel + 1, capacity, need =>
    if capacity < need then growCapacity width fuel (capacity * 2 % 2 ^ width) need
    else some capacity

structure Shuffler where
  rnd : MinstdRand := {}
  data : Nat → Nat := fun _ => 0
  capacity : Nat := 0
  entries : Nat := 0
  fault : Option Fault := none

namespace Shuffler

def seed (s : Shuffler) (seed : Nat) : Shuffler :=
  { s with rnd := .seed seed }

/-- Faults are recorded per message, so flushing starts a new record. -/
def flush (s : Shuffler) : Shuffler :=
  { s with entries := 0, fault := none }

def note (s : Shuffler) (ok : Bool) (f : Fault) : Shuffler :=
  { s with fault := Fault.note s.fault ok f }

/-- The reallocation in `begin`: only the unused entries are copied over, the rest of the
new array holds nothing of interest. -/
def grow (s : Shuffler) (totalElements : Nat) : Shuffler :=
  if s.capacity < totalElements then
    match growCapacity 32 32 (if s.capacity = 0 then 1 else s.capacity) totalElements with
    | some capacity =>
      { s with capacity := capacity, data := fun i => if i < s.entries then s.data i else 0 }
    | none => s.note false .divergence
  else s

/-- Starts over with all of `0 .. totalElements - 1` unused. -/
def refill (s : Shuffler) (totalElements : Nat) : Shuffler :=
  { s with
    data := fun i => if i < totalElements then i else s.data i
    entries := totalElements }

def begin (s : Shuffler) (totalElements selectedElements : Nat) : Shuffler :=
  let s := (s.note (selectedElements ≤ totalElements) .assertion).grow totalElements
  if s.entries < selectedElements then s.refill totalElements else s

/-- `pick` for a given outcome of the generator. With no entries left the code divides by
zero, which ends the program; the model returns zero and leaves the entries alone. -/
def pickAt (s : Shuffler) (draw : Nat) : Nat × Shuffler :=
  if s.entries = 0 then (0, s.note false .divisionByZero)
  else
    let index := draw % s.entries
    let last := s.entries - 1
    (s.data index, { s with data := Function.update s.data index (s.data last), entries := last })

def pick (s : Shuffler) : Nat × Shuffler :=
  let rnd := s.rnd.next
  ({ s with rnd := rnd }).pickAt rnd.state

/-- The picks of one `begin`, in order. -/
def pickMany : Nat → Shuffler → List Nat × Shuffler
  | 0, s => ([], s)
  | k + 1, s =>
    let (x, s) := s.pick
    let (xs, s) := pickMany k s
    (x :: xs, s)

/-- `begin` followed by the picks it was made for. -/
def select (s : Shuffler) (totalElements selectedElements : Nat) : List Nat × Shuffler :=
  (s.begin totalElements selectedElements).pickMany selectedElements

end Shuffler

/-- The degree of the FEC block with a given index. -/
def fecDegree (even odd fecIndex : Nat) : Nat :=
  if fecIndex % 2 = 1 then odd else even

/-- The shuffler after the index sets of the first `i` FEC blocks have been drawn. -/
def Shuffler.after (s : Shuffler) (n even odd : Nat) : Nat → Shuffler
  | 0 => s
  | i + 1 => ((s.after n even odd i).select n (fecDegree even odd i)).2

/-- The index set of FEC block `i`, in the order it is drawn. -/
def Shuffler.indices (s : Shuffler) (n even odd i : Nat) : List Nat :=
  ((s.after n even odd i).select n (fecDegree even odd i)).1

end PyroFling
