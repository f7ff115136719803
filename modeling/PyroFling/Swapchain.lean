import Mathlib

/-!
# Swapchains on the server

`Swapchain` and the part of `SwapchainServer` in `pyrofling.cpp` that schedules the images of
clients: presents, notifications that the GPU is done, heartbeats, and what is handed to the
encoder. Vulkan and the encoder are not modelled; what they decide is an input. Present ids are
64-bit values, and timestamps count heartbeats and do not wrap.
-/

namespace PyroFling

def uint64Max : Nat := 2 ^ 64 - 1

inductive ImageState
  | clientOwned
  | presentQueued
  | presentPendingReady
  | presentReady
  deriving DecidableEq

structure SwapchainImage where
  /-- Whether the encoder has left a semaphore that the client has to wait for. -/
  lastReadSemaphore : Bool := false
  targetTimestamp : Nat := 0
  targetPeriod : Nat := 0
  presentId : Nat := 0
  state : ImageState := .clientOwned
  /-- Whether the image has to go through system memory to reach the encoder. -/
  srcCrossDeviceBuffer : Bool := false
  deriving DecidableEq

structure TimestampCompleteMapping where
  timestamp : Nat
  completeId : Nat
  deriving DecidableEq

/-- `PresentImage` with the serial of the message. -/
structure PresentImage where
  serial : Nat
  imageGroupSerial : Nat
  period : Nat
  index : Nat
  vkExternalSemaphoreType : Nat
  id : Nat
  deriving DecidableEq

/-- `ImageGroup` with the serial of the message and the number of file descriptors. The view
formats themselves, the image flags and the DRM modifier are only handed on to Vulkan. -/
structure ImageGroup where
  serial : Nat
  numImages : Nat
  width : Nat
  height : Nat
  vkColorSpace : Nat
  vkImageUsage : BitVec 32
  vkExternalMemoryType : Nat
  vkNumViewFormats : Nat
  fds : Nat
  deriving DecidableEq

/-- What the server sends to a client. The answers carry the serial of the request. -/
inductive ServerMessage
  | ok (serial : Nat)
  | error (serial : Nat)
  | errorProtocol (serial : Nat)
  | errorParameter (serial : Nat)
  /-- With a semaphore if the encoder left one. -/
  | acquireImage (imageGroupSerial index : Nat) (semaphore : Bool)
  | retireImage (imageGroupSerial index : Nat)
  | frameComplete (imageGroupSerial periodNs presentedId timestamp : Nat)
  deriving DecidableEq

/-- What is written to the pipe when the GPU is done with a present. -/
structure Notification where
  serial : Nat
  index : Nat
  ts : Int
  deriving DecidableEq

/-- A line of the history of a connection. -/
inductive HistoryEntry
  /-- A present of this image was accepted. -/
  | accepted (index : Nat)
  | sent (message : ServerMessage)
  deriving DecidableEq

/-- A call to `encode_surface` with one of the images, and the state it was made in. -/
structure EncodeCall where
  index : Nat
  pts : Int
  image : SwapchainImage
  history : List HistoryEntry

/-- The options of `video_encode` that matter here. -/
structure VideoEncode where
  immediate : Bool
  pipewire : Bool := false

/-- What the encoder decides: whether the next encode task is free, and whether `encode_surface`
encodes the image on its own device, so that it leaves a semaphore. -/
structure EncoderInput where
  free : Bool := true
  semaphore : Bool := false

/-- What Vulkan and the encoder decide while a present is handled: whether the semaphore could be
imported, and the time. -/
structure PresentInput where
  imported : Bool := true
  ts : Int := 0
  encoder : EncoderInput := {}

/-- What Vulkan decides while an image group is created: whether the format is an sRGB one, the
memory type that stands for opaque handles, the largest extent if the format is supported, and for
each image whether it can be created and needs a buffer in system memory. -/
structure ImageGroupInput where
  formatIsSrgb : Bool := false
  opaqueMemoryHandleType : Nat := 1
  maxExtent : Option (Nat × Nat) := some (16384, 16384)
  created : Nat → Bool := fun _ => true
  crossDevice : Nat → Bool := fun _ => false

/-- The color spaces `SRGB_NONLINEAR`, `HDR10_ST2084` and `EXTENDED_SRGB_LINEAR`. -/
def colorSpaces : List Nat := [0, 1000104008, 1000104002]

def imageUsageTransferSrcBit : BitVec 32 := 1

def imageUsageSampledBit : BitVec 32 := 4

structure Swapchain where
  images : Nat → SwapchainImage := fun _ => {}
  numImages : Nat := 0
  timestampCompleteMappings : List TimestampCompleteMapping := []
  imageGroupSerial : Nat := 0
  timestampCompleted : Nat := 0
  timestampStalledCount : Nat := 0
  lastPresentId : Nat := 0
  earliestNextTimestamp : Nat := 0
  colorSpace : Nat := 0
  /-- The results of the next sends. When the list is used up all sends succeed. -/
  sendResults : List Bool := []
  /-- The messages that the client has not received yet. -/
  asyncFd : List ServerMessage := []
  /-- The presents that the GPU is busy with or whose notification has not been read yet. -/
  notifications : List Notification := []
  /-- Whether all assertions have held. -/
  asserted : Bool := true
  /-- What has happened so far. Nothing reads it. -/
  history : List HistoryEntry := []
  /-- The images that were encoded so far. Nothing reads it. -/
  encodeCalls : List EncodeCall := []

namespace Swapchain

/-- `send_message` and `send_wire_message`. -/
def send (c : Swapchain) (m : ServerMessage) : Bool × Swapchain :=
  match c.sendResults with
  | false :: results => (false, { c with sendResults := results })
  | results =>
    (true, { c with
      sendResults := results.tail, asyncFd := c.asyncFd ++ [m], history := c.history ++ [.sent m] })

def setImage (c : Swapchain) (i : Nat) (image : SwapchainImage) : Swapchain :=
  { c with images := Function.update c.images i image }

def check (c : Swapchain) (ok : Bool) : Swapchain := { c with asserted := c.asserted && ok }

def sendAcquireRetire (c : Swapchain) (i : Nat) : Bool × Swapchain :=
  let semaphore := (c.images i).lastReadSemaphore
  let c := c.setImage i { c.images i with lastReadSemaphore := false }
  match c.send (.acquireImage c.imageGroupSerial i semaphore) with
  | (false, c) => (false, c)
  | (true, c) => c.send (.retireImage c.imageGroupSerial i)

/-- The body of the loop in `retire_obsolete_images` for an image that is retired. -/
def retire (c : Swapchain) (i : Nat) : Bool × Swapchain :=
  (c.setImage i { c.images i with state := .clientOwned }).sendAcquireRetire i

def retireLoop (currentPresentId : Nat) : List Nat → Swapchain → Bool × Swapchain
  | [], c => (true, c)
  | i :: is, c =>
    if (c.images i).state = .presentReady ∧ (c.images i).presentId < currentPresentId then
      match c.retire i with
      | (false, c) => (false, c)
      | (true, c) => retireLoop currentPresentId is c
    else retireLoop currentPresentId is c

/-- `retire_obsolete_images` with an id. -/
def retireObsoleteImages (c : Swapchain) (currentPresentId : Nat) : Bool × Swapchain :=
  retireLoop currentPresentId (List.range c.numImages) c

/-- Among the candidates, picks the one with the largest present id. -/
def targetLoop (c : Swapchain) (ts : Nat) : List Nat → Option Nat → Option Nat
  | [], target => target
  | i :: is, target =>
    if (c.images i).state = .presentReady ∧ (c.images i).targetTimestamp ≤ ts ∧
        target.all (fun t => (c.images t).presentId < (c.images i).presentId) then
      targetLoop c ts is (some i)
    else targetLoop c ts is target

def getTargetImageIndexForTimestamp (c : Swapchain) (ts : Nat) : Option Nat :=
  c.targetLoop ts (List.range c.numImages) none

/-- `retire_obsolete_images` without an id: what will be replaced at the next heartbeat is retired
early. -/
def retireReplacedImages (c : Swapchain) : Bool × Swapchain :=
  match c.getTargetImageIndexForTimestamp (c.timestampCompleted + 1) with
  | none => (true, c)
  | some target => c.retireObsoleteImages (c.images target).presentId

/-- What `encode_surface` does to a swapchain. -/
def encodeSurface (c : Swapchain) (i : Nat) (pts : Int) (semaphore : Bool) : Swapchain :=
  { c.setImage i { c.images i with
      lastReadSemaphore := (c.images i).lastReadSemaphore || semaphore } with
    encodeCalls := c.encodeCalls ++
      [{ index := i, pts := pts, image := c.images i, history := c.history }] }

/-- `notify_async_surface`, for an image of this swapchain. -/
def notifyAsyncSurface (c : Swapchain) (v : VideoEncode) (e : EncoderInput) (i : Nat) (pts : Int) :
    Swapchain :=
  if v.immediate && e.free then c.encodeSurface i pts e.semaphore else c

def pushMapping (c : Swapchain) (i : Nat) : Swapchain :=
  { c with timestampCompleteMappings := c.timestampCompleteMappings ++
      [{ timestamp := (c.images i).targetTimestamp, completeId := (c.images i).presentId }] }

/-- `handle_async` up to the point where images are retired. -/
def settle (c : Swapchain) (v : VideoEncode) (e : EncoderInput) (n : Notification)
    (confirmedGpuDone : Bool) : Swapchain :=
  let wasQueued := (c.images n.index).state = .presentQueued
  let c := c.check (n.index < c.numImages)
  let c := c.check (wasQueued ∨ (c.images n.index).state = .presentPendingReady)
  let c := c.setImage n.index { c.images n.index with
    state := if confirmedGpuDone then .presentReady else .presentPendingReady }
  if wasQueued then (c.pushMapping n.index).notifyAsyncSurface v e n.index n.ts else c

def handleAsync (c : Swapchain) (v : VideoEncode) (e : EncoderInput) (n : Notification)
    (confirmedGpuDone : Bool) : Bool × Swapchain :=
  if n.index = uint64Max then (false, c)
  else if n.serial ≠ c.imageGroupSerial then (true, c)
  else
    let c := c.settle v e n confirmedGpuDone
    if v.immediate then c.retireObsoleteImages uint64Max else c.retireReplacedImages

def computeNextTargetTimestamp (c : Swapchain) : Nat :=
  max (c.timestampCompleted + 1) c.earliestNextTimestamp

/-- `images.push_back` of a new image. -/
def pushImage (c : Swapchain) (crossDevice : Bool) : Swapchain :=
  { c.setImage c.numImages { srcCrossDeviceBuffer := crossDevice } with numImages := c.numImages + 1 }

/-- The loop of `handle_swapchain_create` and what comes after it. The images of earlier groups stay
where they are. -/
def createImages (input : ImageGroupInput) (serial : Nat) : List Nat → Swapchain → Bool × Swapchain
  | [], c => c.send (.ok serial)
  | i :: is, c =>
    if input.created i then createImages input serial is (c.pushImage (input.crossDevice i))
    else (false, (c.send (.error serial)).2)

/-- The serial of the group is that of the message, even if the request is refused; so is the color
space, unless it is the reason. -/
def handleSwapchainCreate (c : Swapchain) (input : ImageGroupInput) (g : ImageGroup) :
    Bool × Swapchain :=
  let c := { c with imageGroupSerial := g.serial }
  if g.numImages ≠ g.fds then c.send (.errorParameter g.serial)
  else if g.vkImageUsage &&& imageUsageSampledBit = 0 then c.send (.errorParameter g.serial)
  else if g.vkImageUsage &&& imageUsageTransferSrcBit = 0 then c.send (.errorParameter g.serial)
  else if g.vkExternalMemoryType ≠ input.opaqueMemoryHandleType then
    c.send (.errorParameter g.serial)
  else if g.vkColorSpace ∉ colorSpaces then c.send (.errorParameter g.serial)
  else
    let c := { c with colorSpace := g.vkColorSpace }
    -- An sRGB format must be created with a mutable format.
    if g.vkNumViewFormats = 0 ∧ input.formatIsSrgb then c.send (.errorParameter g.serial)
    else
      match input.maxExtent with
      | none => c.send (.errorParameter g.serial)
      | some (width, height) =>
        if width < g.width ∨ g.width = 0 ∨ height < g.height ∨ g.height = 0 then
          c.send (.errorParameter g.serial)
        else createImages input g.serial (List.range g.numImages) c

/-- The bookkeeping of an accepted present. -/
def queuePresent (c : Swapchain) (p : PresentImage) : Swapchain :=
  let target := c.computeNextTargetTimestamp
  { c.setImage p.index { c.images p.index with
      targetPeriod := p.period, targetTimestamp := target, presentId := p.id
      state := .presentQueued } with
    earliestNextTimestamp := target + p.period
    history := c.history ++ [.accepted p.index] }

/-- The rest of `handle_present` once the image is queued. If the GPU need not be waited for, its
notification is handled right away, and once more when it arrives. -/
def submitPresent (c : Swapchain) (v : VideoEncode) (input : PresentInput) (p : PresentImage) :
    Bool × Swapchain :=
  let waitEarly := (c.images p.index).srcCrossDeviceBuffer || !v.immediate
  let n : Notification := { serial := c.imageGroupSerial, index := p.index, ts := input.ts }
  match c.send (.ok p.serial) with
  | (false, c) => (false, c)
  | (true, c) =>
    match if waitEarly then (true, c) else c.handleAsync v input.encoder n false with
    | (false, c) => (false, c)
    | (true, c) => { c with notifications := c.notifications ++ [n] }.retireReplacedImages

def handlePresent (c : Swapchain) (v : VideoEncode) (input : PresentInput) (p : PresentImage) :
    Bool × Swapchain :=
  if p.imageGroupSerial ≠ c.imageGroupSerial then c.send (.errorParameter p.serial)
  else if c.numImages ≤ p.index then c.send (.errorProtocol p.serial)
  else if p.id ≤ c.lastPresentId then c.send (.errorParameter p.serial)
  else
    let c := { c with lastPresentId := p.id }
    if (c.images p.index).state ≠ .clientOwned then c.send (.errorProtocol p.serial)
    else if p.vkExternalSemaphoreType ≠ 0 ∧ input.imported = false then
      (false, (c.send (.error p.serial)).2)
    else (c.queuePresent p).submitPresent v input p

/-- A notification is read from the pipe. -/
def notify (c : Swapchain) (v : VideoEncode) (e : EncoderInput) (n : Notification) :
    Bool × Swapchain :=
  { c with notifications := c.notifications.erase n }.handleAsync v e n true

def heartbeatStalled (c : Swapchain) : Bool × Swapchain :=
  { c with
    timestampCompleted := c.timestampCompleted + 1
    timestampStalledCount := c.timestampStalledCount + 1 }.retireReplacedImages

/-- The largest id of the mappings whose time has come, or zero. -/
def completeId (c : Swapchain) : Nat :=
  c.timestampCompleteMappings.foldl (fun id m =>
    if m.timestamp ≤ c.timestampCompleted ∧ id < m.completeId then m.completeId else id) 0

/-- The result, the image that is scanned out and the new state. -/
def heartbeat (c : Swapchain) (timeNs : Nat) : Bool × Option Nat × Swapchain :=
  let c := { c with timestampCompleted := c.timestampCompleted + 1 }
  if c.numImages = 0 then (true, none, c)
  else
    let scanout := c.getTargetImageIndexForTimestamp c.timestampCompleted
    let completeId := c.completeId
    let c := { c with timestampCompleteMappings :=
      c.timestampCompleteMappings.filter fun m => c.timestampCompleted < m.timestamp }
    if completeId = 0 then (true, scanout, c)
    else
      match c.send (.frameComplete c.imageGroupSerial timeNs completeId c.timestampCompleted) with
      | (false, c) => (false, scanout, c)
      | (true, c) =>
        let (ok, c) := c.retireObsoleteImages completeId
        (ok, scanout, c)

end Swapchain

/-- The connected clients. A client that has disconnected is no longer among the handlers, but its
swapchain exists until its pipe is closed. -/
structure SwapchainServer where
  videoEncode : VideoEncode
  chains : Nat → Swapchain := fun _ => {}
  numChains : Nat := 0
  handlers : List Nat := []
  /-- The calls to `cancel_connection`. -/
  cancelled : List Nat := []

namespace SwapchainServer

def setChain (s : SwapchainServer) (k : Nat) (c : Swapchain) : SwapchainServer :=
  { s with chains := Function.update s.chains k c }

def heartbeatStalledLoop : List Nat → SwapchainServer → Bool × SwapchainServer
  | [], s => (true, s)
  | k :: ks, s =>
    match (s.chains k).heartbeatStalled with
    | (false, c) => (false, { s.setChain k c with cancelled := s.cancelled ++ [k] })
    | (true, c) => heartbeatStalledLoop ks (s.setChain k c)

def heartbeatStalled (s : SwapchainServer) : Bool × SwapchainServer :=
  heartbeatStalledLoop s.handlers s

/-- The loop over the handlers: the surface of the last one that has one is used. -/
def heartbeatLoop (periodNs : Nat) : List Nat → Option (Nat × Nat) → SwapchainServer →
    Bool × Option (Nat × Nat) × SwapchainServer
  | [], surface, s => (true, surface, s)
  | k :: ks, surface, s =>
    match (s.chains k).heartbeat periodNs with
    | (false, _, c) => (false, surface, { s.setChain k c with cancelled := s.cancelled ++ [k] })
    | (true, some i, c) => heartbeatLoop periodNs ks (some (k, i)) (s.setChain k c)
    | (true, none, c) => heartbeatLoop periodNs ks surface (s.setChain k c)

/-- `encode_surface` with the surface of a heartbeat, or with a blank one. -/
def encodeSurface (s : SwapchainServer) (surface : Option (Nat × Nat)) (e : EncoderInput) :
    SwapchainServer :=
  match surface with
  | some (k, i) => s.setChain k ((s.chains k).encodeSurface i 0 e.semaphore)
  | none => s

def heartbeat (s : SwapchainServer) (periodNs : Nat) (e : EncoderInput) : Bool × SwapchainServer :=
  if !s.videoEncode.immediate && !e.free then s.heartbeatStalled
  else
    match heartbeatLoop periodNs s.handlers none s with
    | (false, _, s) => (false, s)
    | (true, surface, s) =>
      if !s.videoEncode.pipewire && (!s.videoEncode.immediate || s.handlers.isEmpty) then
        (true, s.encodeSurface surface e)
      else (true, s)

end SwapchainServer

end PyroFling
