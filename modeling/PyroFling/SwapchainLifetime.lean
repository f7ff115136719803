import PyroFling.Library.RefCount
import PyroFling.Swapchain

/-!
# Lifetimes of swapchains

How the `Swapchain` objects of `pyrofling.cpp` live. The socket of the client and the read end of the pipe
are connections of the dispatcher, the server has a list of handlers, and every task that waits for the GPU
writes to the pipe when it is done: each of them holds a reference. Tasks run on other threads, so their two
steps come at any time, and so does the end of a connection. A pipe holds 16 packets, and a write to a full
one waits for its reader, which is the dispatcher. When the dispatcher itself has to wait, it waits for ever.
-/

namespace PyroFling
open RefCount

namespace Swapchain

def sentinel : Notification := { serial := uint64Max, index := uint64Max, ts := -1 }

/-- `handle_present` gets to the point where it takes a reference for its task. -/
def MarksAsync (c : Swapchain) (input : PresentInput) (p : PresentImage) : Prop :=
  p.imageGroupSerial = c.imageGroupSerial ∧ p.index < c.numImages ∧ c.lastPresentId < p.id ∧
    (c.images p.index).state = .clientOwned ∧
    (p.vkExternalSemaphoreType = 0 ∨ input.imported = true)

instance (c : Swapchain) (input : PresentInput) (p : PresentImage) : Decidable (c.MarksAsync input p) :=
  inferInstanceAs (Decidable (_ ∧ _ ∧ _ ∧ _ ∧ _))

/-- What the task that `handle_present` creates will write to the pipe, if it creates one. -/
def createdTask (c : Swapchain) (v : VideoEncode) (input : PresentInput) (p : PresentImage) :
    List Notification :=
  (c.handlePresent v input p).2.notifications.drop c.notifications.length

end Swapchain

inductive ClientRequest
  | imageGroup (input : ImageGroupInput) (g : ImageGroup)
  | present (input : PresentInput) (p : PresentImage)
  | other

structure SwapchainHost (R : Counting) where
  server : SwapchainServer
  pool : Pool R := {}
  socket : Nat → Bool := fun _ => false
  pipe : Nat → Bool := fun _ => false
  pending : Nat → List Notification := fun _ => []
  /-- What the tasks that wait for the GPU will write. -/
  tasks : Nat → List Notification := fun _ => []
  /-- The number of tasks that have written and still hold their reference. -/
  written : Nat → Nat := fun _ => 0
  /-- The number of references for tasks that were not created after all, and whether a device was refused.
  Nothing reads them. -/
  forgotten : Nat → Nat := fun _ => 0
  refused : Nat → Bool := fun _ => false
  /-- The swapchain to whose full pipe the dispatcher writes. -/
  stuck : Option Nat := none
  /-- No deleted object was used so far, and all assertions have held. -/
  safe : Bool := true

namespace SwapchainHost

variable {R : Counting}

def initial (R : Counting) (v : VideoEncode) : SwapchainHost R := { server := { videoEncode := v } }

def touch (s : SwapchainHost R) (i : Nat) : SwapchainHost R :=
  { s with safe := s.safe && decide (i ∉ s.pool.deleted) }

def addReference (s : SwapchainHost R) (i : Nat) : SwapchainHost R :=
  { s.touch i with pool := s.pool.addReference i }

def releaseReference (s : SwapchainHost R) (i : Nat) : SwapchainHost R :=
  { s.touch i with pool := s.pool.releaseReference i }

def pipeCapacity : Nat := 16

def pipeFull (s : SwapchainHost R) (i : Nat) : Bool :=
  s.pipe i && decide (pipeCapacity ≤ (s.pending i).length)

/-- A write to a pipe without a reader has no effect. -/
def writePipe (s : SwapchainHost R) (i : Nat) (n : Notification) : SwapchainHost R :=
  { s.touch i with
    pending := if s.pipe i then Function.update s.pending i (s.pending i ++ [n]) else s.pending }

def unregisterHandler (s : SwapchainHost R) (i : Nat) : SwapchainHost R :=
  { s with
    server := { s.server with handlers := s.server.handlers.erase i }
    safe := s.safe && decide (i ∈ s.server.handlers) }.releaseReference i

def releaseId (s : SwapchainHost R) (i id : Nat) : SwapchainHost R :=
  if id = 0 then
    let s := s.unregisterHandler i
    if s.pipeFull i then { s.touch i with stuck := some i }
    else (s.writePipe i Swapchain.sentinel).releaseReference i
  else s.releaseReference i

/-- The file handle of a connection is closed after its handler was told. -/
def dropSocket (s : SwapchainHost R) (i : Nat) : SwapchainHost R :=
  let s := s.releaseId i 0
  if s.stuck = none then { s with socket := Function.update s.socket i false } else s

def dropPipe (s : SwapchainHost R) (i : Nat) : SwapchainHost R :=
  { s with
    pipe := Function.update s.pipe i false
    pending := Function.update s.pending i [] }.releaseId i 1

/-- The handler of the socket has returned false. A connection that has been cancelled before is left to
the clean-up. -/
def hangUp (s : SwapchainHost R) (i : Nat) : SwapchainHost R :=
  if i ∈ s.server.cancelled then s else s.dropSocket i

def setChain (s : SwapchainHost R) (i : Nat) (c : Swapchain) : SwapchainHost R :=
  { s with server := s.server.setChain i c }

/-- The constructor, with the reference of `make_handle`. A pipe that is not accepted is dropped at once. -/
def construct (s : SwapchainHost R) (pipeAccepted : Bool) (sendResults : List Bool) : SwapchainHost R :=
  let i := s.pool.made
  let s := { s with
    pool := s.pool.make.addReference i
    pipe := Function.update s.pipe i true
    server := { s.server with
      chains := Function.update s.server.chains i { sendResults := sendResults }
      numChains := s.server.numChains + 1 } }
  if pipeAccepted then s else s.dropPipe i

/-- `register_handler` with a device, up to its answer. The list gets the reference of the constructor. -/
def register (s : SwapchainHost R) (pipeAccepted created : Bool) (sendResults : List Bool) :
    SwapchainHost R :=
  let i := s.pool.made
  let s := s.construct pipeAccepted sendResults
  if created then
    { s.addReference i with
      socket := Function.update s.socket i true
      server := { s.server with handlers := s.server.handlers ++ [i] } }
  else { s.releaseReference i with refused := Function.update s.refused i true }

/-- What `handle_present` does to the references: one for its task, which is forgotten if the answer
cannot be sent or the image cannot be handled right away. -/
def markAsync (s : SwapchainHost R) (i : Nat) (input : PresentInput) (p : PresentImage) :
    SwapchainHost R :=
  let c := s.server.chains i
  if c.MarksAsync input p then
    let created := c.createdTask s.server.videoEncode input p
    { s.addReference i with
      tasks := Function.update s.tasks i (s.tasks i ++ created)
      forgotten := Function.update s.forgotten i (s.forgotten i + (1 - created.length)) }
  else s

def request (s : SwapchainHost R) (i : Nat) : ClientRequest → Bool × SwapchainHost R
  | .imageGroup input g =>
    let r := (s.server.chains i).handleSwapchainCreate input g
    (r.1, s.setChain i r.2)
  | .present input p =>
    let r := (s.server.chains i).handlePresent s.server.videoEncode input p
    (r.1, (s.markAsync i input p).setChain i r.2)
  | .other => (false, s)

/-- All but the steps of tasks are taken by the dispatcher. -/
inductive Action
  /-- A client asks for a device: whether the dispatcher takes the pipe, whether there is such a device,
  whether the answer gets through, and which of the later messages do. -/
  | register (pipeAccepted created sent : Bool) (sendResults : List Bool)
  | request (i : Nat) (r : ClientRequest)
  | dropSocket (i : Nat)
  | dropPipe (i : Nat)
  /-- A task finds that the GPU is done and writes to the pipe, unless it has to wait. -/
  | writeNotification (i : Nat) (n : Notification)
  | finishTask (i : Nat)
  | readPipe (i : Nat) (e : EncoderInput)
  | heartbeat (periodNs : Nat) (e : EncoderInput)

def readPipe (s : SwapchainHost R) (i : Nat) (e : EncoderInput) : SwapchainHost R :=
  match s.pending i with
  | [] => s
  | n :: ns =>
    let r := (s.server.chains i).notify s.server.videoEncode e n
    let s := { (s.touch i).setChain i r.2 with pending := Function.update s.pending i ns }
    if r.1 then s else s.dropPipe i

def Action.byTask : Action → Bool
  | .writeNotification _ _ => true
  | .finishTask _ => true
  | _ => false

def perform (s : SwapchainHost R) : Action → SwapchainHost R
  | .register pipeAccepted created sent sendResults =>
    let registered := s.register pipeAccepted created sendResults
    if created && !sent then registered.hangUp s.pool.made else registered
  | .request i r =>
    if s.socket i then
      let handled := (s.touch i).request i r
      if handled.1 then handled.2 else handled.2.hangUp i
    else s
  | .dropSocket i => if s.socket i then s.dropSocket i else s
  | .dropPipe i => if s.pipe i then s.dropPipe i else s
  | .writeNotification i n =>
    if n ∈ s.tasks i ∧ s.pipeFull i = false then
      { s with
        tasks := Function.update s.tasks i ((s.tasks i).erase n)
        written := Function.update s.written i (s.written i + 1) }.writePipe i n
    else s
  | .finishTask i =>
    if s.written i = 0 then s
    else { s with written := Function.update s.written i (s.written i - 1) }.releaseReference i
  | .readPipe i e => if s.pipe i then s.readPipe i e else s
  | .heartbeat periodNs e =>
    { s.server.handlers.foldl touch s with server := (s.server.heartbeat periodNs e).2 }

def step (s : SwapchainHost R) (a : Action) : SwapchainHost R :=
  if s.stuck = none ∨ a.byTask then s.perform a else s

end SwapchainHost

end PyroFling
