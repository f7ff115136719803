import PyroFling.Messages
import PyroFling.Swapchain

/-!
# The capture layer

The part of `SurfaceState` in `capture_layer.cpp` that shares images with the server, with the
serials of `ipc/client.cpp`. `processPresent` is split where other threads may handle messages:
after it has acquired an image, and after it has sent it. Vulkan calls succeed.
-/

namespace PyroFling

structure ExportableImage where
  liveAcquirePayload : Bool := false
  acquired : Bool := true
  ready : Bool := true
  fencePending : Bool := false
  deriving DecidableEq

structure WaitPair where
  pyroPresentId : Nat
  khrPresentId : Nat
  deriving DecidableEq

inductive SyncMode
  | default
  | client
  | server
  deriving DecidableEq

/-- `VK_EXTERNAL_SEMAPHORE_HANDLE_TYPE_OPAQUE_FD_BIT`. -/
def opaqueFdBit : Nat := 1

structure SurfaceState where
  image : Nat → ExportableImage := fun _ => {}
  numImages : Nat := 0
  imageGroupSerial : Nat := 0
  presentId : Nat := 0
  completePresentId : Nat := 0
  completedKHRPresentId : Nat := 0
  waitPairs : List WaitPair := []
  /-- The serial of the last message sent. -/
  sendSerial : Nat := 0
  receivedReplies : Nat := 0
  /-- The image that `processPresent` has acquired, while it runs. -/
  clientIndex : Option Nat := none

namespace SurfaceState

def setImage (s : SurfaceState) (i : Nat) (image : ExportableImage) : SurfaceState :=
  { s with image := Function.update s.image i image }

/-- The loop over `waitPairs` for a completed present. -/
def completeKHR (waitPairs : List WaitPair) (presentedId completed : Nat) : Nat :=
  waitPairs.foldl (fun completed wait =>
    if wait.pyroPresentId = presentedId ∧ completed < wait.khrPresentId then wait.khrPresentId
    else completed) completed

def handleEvent (s : SurfaceState) : ServerMessage → Bool × SurfaceState
  | .acquireImage serial i semaphore =>
    if serial ≠ s.imageGroupSerial then (true, s)
    else if s.numImages ≤ i then (false, s)
    else if (s.image i).acquired then (false, s)
    else
      (true, s.setImage i { s.image i with
        acquired := true, fencePending := false, liveAcquirePayload := semaphore })
  | .retireImage serial i =>
    if serial ≠ s.imageGroupSerial then (true, s)
    else if s.numImages ≤ i then (false, s)
    else if (s.image i).ready then (false, s)
    else (true, s.setImage i { s.image i with ready := true })
  | .frameComplete serial _ presentedId _ =>
    if serial ≠ s.imageGroupSerial then (true, s)
    else
      let completed := completeKHR s.waitPairs presentedId s.completedKHRPresentId
      (true, { s with
        completePresentId := presentedId
        completedKHRPresentId := completed
        waitPairs := s.waitPairs.filter fun p => completed < p.khrPresentId })
  | _ => (false, s)

/-- A reply must be the next one, and the default handler accepts `OK` only. -/
def handleReply (s : SurfaceState) (serial : Nat) (isOk : Bool) : Bool × SurfaceState :=
  let s := { s with receivedReplies := s.receivedReplies + 1 }
  (serial = s.receivedReplies && isOk, s)

/-- `Client::process`. Events have no serial. -/
def process (s : SurfaceState) (m : ServerMessage) : Bool × SurfaceState :=
  match m with
  | .ok serial => s.handleReply serial true
  | .error serial | .errorProtocol serial | .errorParameter serial => s.handleReply serial false
  | m => s.handleEvent m

/-- The first image that can be used, if there is one. -/
def acquire (s : SurfaceState) : Option Nat :=
  (List.range s.numImages).find? fun i => (s.image i).ready && (s.image i).acquired

/-- The period of a present. -/
def presentPeriod (mode : SyncMode) (isFifo : Bool) : Nat :=
  match mode with
  | .server => 1
  | .client => 0
  | .default => if isFifo then 1 else 0

/-- The rest of `processPresent`: the message and the new state. -/
def processPresent (s : SurfaceState) (i : Nat) (mode : SyncMode) (isFifo : Bool)
    (khrPresentId : Nat) : PresentImage × SurfaceState :=
  let id := s.presentId + 1
  let s := { s.setImage i { s.image i with
      liveAcquirePayload := false, acquired := false, ready := false, fencePending := true } with
    presentId := id
    waitPairs := s.waitPairs ++ [{ pyroPresentId := id, khrPresentId := khrPresentId }]
    sendSerial := s.sendSerial + 1
    clientIndex := none }
  ({ serial := s.sendSerial
     imageGroupSerial := s.imageGroupSerial
     period := presentPeriod mode isFifo
     index := i % 2 ^ 16
     vkExternalSemaphoreType := opaqueFdBit
     id := id }, s)

/-- `waitForPresent` goes on waiting. -/
def WaitsForPresent (s : SurfaceState) (khrPresentId : Nat) : Prop := s.completedKHRPresentId < khrPresentId

def sendImageGroup (s : SurfaceState) : SurfaceState :=
  { s with
    image := fun i => { s.image i with ready := true, acquired := true, fencePending := false }
    imageGroupSerial := s.sendSerial + 1
    presentId := 0
    completePresentId := 0
    waitPairs := []
    sendSerial := s.sendSerial + 1 }

/-- `initClient` connects again: it has sent who it is and its device. -/
def initClient (s : SurfaceState) : SurfaceState :=
  let s := { s with sendSerial := 2, receivedReplies := 0, clientIndex := none }
  if s.numImages = 0 then s else s.sendImageGroup

/-- `setActiveDeviceAndSwapchain` for another swapchain on the same device: it keeps the image group if
nothing meaningfully changed, and has a new one with so many images otherwise. -/
def setActiveSwapchain (s : SurfaceState) (numImages : Option Nat) : SurfaceState :=
  let s := { s with completedKHRPresentId := 0 }
  match numImages with
  | none => s
  | some n => { s with image := fun _ => {}, numImages := n }.sendImageGroup

end SurfaceState

end PyroFling
