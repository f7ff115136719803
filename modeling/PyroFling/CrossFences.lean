import PyroFling.CrossSwapchain

/-!
# The fences of the cross-GPU swapchain

`cross-wsi-layer/cross_wsi_layer.cpp`. Every image has a fence for its copy on the source GPU. On the
sink GPU `AcquireNextImageKHR` signals a fence of a pool, which then belongs to the image and is used
again for its copy. The swapchain runs beside its fences, until it is retired or destroyed.
-/

namespace PyroFling

open Monitor

/-- The calls that need a fence or a semaphore in a certain state, and the destruction of the command
pool on the source GPU, which none of its command buffers may be pending for. -/
inductive FenceCall
  | acquireNextImage
  | waitForSink
  | submitSink
  | signalRelease
  | waitForRelease
  | submitSource
  | waitForSource
  | destroyCommandPool
  deriving DecidableEq

/-- A call with the state it found: whether the fence was armed, that is passed to a call that signals
it and not reset since, and whether the swapchain had failed. -/
structure FenceUse where
  call : FenceCall
  armed : Bool
  failed : Bool
  deriving DecidableEq

namespace FenceUse

/-- Waiting for a fence that is not armed takes forever. -/
def waits (u : FenceUse) : Bool :=
  match u.call with
  | .waitForSink | .waitForRelease | .waitForSource => true
  | _ => false

/-- What is waited for is armed and what is signalled is not. -/
def Valid (u : FenceUse) : Prop := u.armed = u.waits

instance (u : FenceUse) : Decidable u.Valid := inferInstanceAs (Decidable (_ = _))

end FenceUse

/-- The fences of a swapchain. Those of the sink are numbered as they are created, those of the source
go by their image, and so do the semaphores `sinkReleaseSemaphore`. The front of the pool is its last
element in the source. `unsubmitted` is an image whose fence was reset for a submission that failed. -/
structure Fences where
  sinkFencePool : List Nat := []
  sinkAcquireFence : Nat → Option Nat := fun _ => none
  created : Nat := 0
  sinkArmed : Finset Nat := ∅
  sourceArmed : Finset Nat := ∅
  released : Finset Nat := ∅
  unsubmitted : Option Nat := none
  uses : List FenceUse := []

namespace Fences

def use (f : Fences) (call : FenceCall) (armed failed : Bool) : Fences :=
  { f with uses := f.uses ++ [{ call := call, armed := armed, failed := failed }] }

/-- The images of a list that have a fence of the sink, with their fences. -/
def assigned (f : Fences) (images : List Nat) : List Nat := images.filterMap f.sinkAcquireFence

/-- `pumpAcquireSinkImage` creates a fence if the pool is empty. -/
def fillPool (f : Fences) : Fences :=
  if f.sinkFencePool = [] then { f with sinkFencePool := [f.created], created := f.created + 1 } else f

/-- The fence of a call of `AcquireNextImageKHR` takes the place of the fence that the image had. If that
one cannot be waited for and reset, the new one is forgotten. -/
def assign (f : Fences) (fence index : Nat) (fences failed : Bool) : Fences :=
  match f.sinkAcquireFence index with
  | none => { f with sinkAcquireFence := Function.update f.sinkAcquireFence index (some fence) }
  | some old =>
    let f := f.use .waitForSink (old ∈ f.sinkArmed) failed
    if fences then
      { f with
        sinkArmed := f.sinkArmed.erase old
        sinkFencePool := old :: f.sinkFencePool
        sinkAcquireFence := Function.update f.sinkAcquireFence index (some fence) }
    else f

def pumpAcquireSinkImage (f : Fences) (results : PumpResults) (failed : Bool) : Fences :=
  if f.sinkFencePool = [] ∧ results.createFence ≠ VkResult.success then f
  else
    let f := f.fillPool
    match f.sinkFencePool with
    | [] => f
    | fence :: pool =>
      let f := { f with sinkFencePool := pool }.use .acquireNextImage (fence ∈ f.sinkArmed) failed
      if results.acquireNextImage < 0 then { f with sinkFencePool := fence :: pool }
      else { f with sinkArmed := insert fence f.sinkArmed }.assign fence results.index results.fences failed

/-- The worker waits for the copy on the source GPU and resets its fence. -/
def sourceDone (f : Fences) (index : Nat) (fences failed : Bool) : Fences :=
  let f := f.use .waitForSource (index ∈ f.sourceArmed) failed
  if fences then { f with sourceArmed := f.sourceArmed.erase index } else f

/-- The submission of the copy on the sink GPU, with the fence that has just been reset. -/
def submitReset (f : Fences) (index fence : Nat) (submit : VkResult) (failed : Bool) : Fences :=
  let f := { f with sinkArmed := f.sinkArmed.erase fence }
  let f := (f.use .submitSink (fence ∈ f.sinkArmed) failed).use .signalRelease (index ∈ f.released) failed
  if submit < 0 then { f with unsubmitted := some index }
  else { f with sinkArmed := insert fence f.sinkArmed, released := insert index f.released }

/-- The worker waits for the image of the sink and submits the copy. An image without a fence would be
a wait for a null handle. -/
def submitSink (f : Fences) (index : Nat) (fences : Bool) (submit : VkResult) (failed : Bool) : Fences :=
  match f.sinkAcquireFence index with
  | none => f.use .waitForSink false failed
  | some fence =>
    let f := f.use .waitForSink (fence ∈ f.sinkArmed) failed
    if fences then f.submitReset index fence submit failed else f

/-- `QueuePresentKHR` waits for the semaphore of the image. -/
def presentSink (f : Fences) (index : Nat) (present : VkResult) (failed : Bool) : Fences :=
  let f := f.use .waitForRelease (index ∈ f.released) failed
  if 0 ≤ present then { f with released := f.released.erase index } else f

/-- `submitSourceWork` after `initSourceCommands`. -/
def submitSource (f : Fences) (index : Nat) (initCommands submit : VkResult) (failed : Bool) : Fences :=
  if initCommands ≠ VkResult.success then f
  else
    let f := f.use .submitSource (index ∈ f.sourceArmed) failed
    if submit ≠ VkResult.success then f else { f with sourceArmed := insert index f.sourceArmed }

/-- `initSourceCommands` destroys the command pool of another family. -/
def destroyCommandPool (f : Fences) (failed : Bool) : Fences :=
  f.use .destroyCommandPool f.sourceArmed.Nonempty failed

end Fences

/-- A swapchain with its fences. -/
structure FencedSwapchain where
  base : CrossSwapchain
  fences : Fences := {}
  destroyed : Bool := false

/-- The steps of the swapchain, the first section of `retire`, one round of the loop at its end, and the
first section of the destructor. -/
inductive FenceEvent
  | cross (e : CrossEvent)
  | retire
  | releaseFront
  | destroy (next : CrossThread)
  deriving DecidableEq

namespace CrossSwapchain

def failed (s : CrossSwapchain) : Bool := s.swapchainStatus < 0

def retire (s : CrossSwapchain) : CrossSwapchain :=
  { s with swapchainStatus := VkResult.errorOutOfDate, threads := notifyAll s.threads }

/-- `ReleaseSwapchainImagesEXT` gives an image back to the sink. -/
def releaseFront (s : CrossSwapchain) : CrossSwapchain :=
  match s.acquireQueue with
  | [] => s
  | index :: rest => { s with acquireQueue := rest, sink := s.sink ++ [index] }

def destroy (s : CrossSwapchain) (next : CrossThread) : CrossSwapchain :=
  { s with swapchainStatus := VkResult.errorSurfaceLost, threads := notifyOne s.threads next }

/-- Whether a step gets past the wait of `initSourceCommands`. -/
def passesSourceWait (s : CrossSwapchain) : CrossEvent → Bool
  | .queuePresent family index => s.sourceFamily ≠ some family ∧ s.Ready (.sourceCommands family index)
  | .resume .app _ =>
    match s.threads .app with
    | .woken (.sourceCommands family index) => s.Ready (.sourceCommands family index)
    | _ => false
  | _ => false

end CrossSwapchain

namespace FencedSwapchain

def init (images pumps : Nat) (hasQueue : Bool) (created : Nat → Bool) : FencedSwapchain where
  base := .init images pumps hasQueue created

/-- What a step does to the fences. -/
def stepFences (s : FencedSwapchain) (e : CrossEvent) : Fences :=
  let failed := s.base.failed
  match e with
  | .pump results _ =>
    match s.base.threads .worker with
    | .running (.pumping _) => s.fences.pumpAcquireSinkImage results failed
    | _ => s.fences
  | .sourceDone fences _ =>
    match s.base.threads .worker with
    | .running (.waitingForSource work) => s.fences.sourceDone work.index fences failed
    | _ => s.fences
  | .submitSink fences submit =>
    match s.base.threads .worker with
    | .running (.waitingForSink work) => s.fences.submitSink work.index fences submit failed
    | _ => s.fences
  | .presentSink present =>
    match s.base.threads .worker with
    | .running (.presenting work) => s.fences.presentSink work.index present failed
    | _ => s.fences
  | .submitted initCommands submit _ =>
    match s.base.threads .app with
    | .running (.submitting index) => s.fences.submitSource index initCommands submit failed
    | _ => s.fences
  | e => if s.base.passesSourceWait e then s.fences.destroyCommandPool failed else s.fences

def step (s : FencedSwapchain) : FenceEvent → FencedSwapchain
  | .cross e => { s with base := s.base.step e, fences := s.stepFences e }
  | .retire => { s with base := s.base.retire }
  | .releaseFront => { s with base := s.base.releaseFront }
  | .destroy next => { s with base := s.base.destroy next, destroyed := true }

end FencedSwapchain

/-- The steps of the worker. -/
def CrossEvent.ofWorker : CrossEvent → Bool
  | .takeWork | .sourceDone _ _ | .submitSink _ _ | .presentSink _ | .publish | .pump _ _ | .pumped
  | .resume .worker _ => true
  | _ => false

namespace FencedSwapchain

/-- An application retires and destroys a swapchain from no other call on it, and uses it no more once
it is being destroyed. `retire` has joined the worker before it releases images. -/
def Legal (s : FencedSwapchain) : FenceEvent → Prop
  | .cross e => s.base.Legal e ∧ (s.destroyed = true → e.ofWorker = true)
  | .retire => s.base.InitDone ∧ s.base.threads .app = .running .idle ∧ s.destroyed = false
  | .releaseFront => s.base.threads .worker = .running .stopped ∧ s.base.threads .app = .running .idle ∧
    s.destroyed = false
  | .destroy next => s.base.InitDone ∧ s.base.threads .app = .running .idle ∧
    (∀ n, s.base.threads (.waiter n) = .running .idle) ∧ s.destroyed = false ∧ Choice s.base.threads next

/-- No push of the worker races with one of the application. -/
def Unraced (s : FencedSwapchain) : FenceEvent → Prop
  | .cross (.restored _) => s.base.Undisturbed
  | _ => True

/-! ### The semaphore of the application -/

/-- The waits that the destructor makes once it has joined the worker: for the copies that were left in
the queue, and for the fences of the images. -/
def destructorWaits (s : FencedSwapchain) (images : Nat) : List FenceUse :=
  (s.base.workQueue.map fun work =>
    { call := .waitForSource, armed := work.index ∈ s.fences.sourceArmed, failed := true }) ++
  ((s.fences.assigned (List.range images)).map fun fence =>
    { call := .waitForSink, armed := fence ∈ s.fences.sinkArmed, failed := true })

/-- The fences of the sink that it destroys. -/
def destroyedFences (s : FencedSwapchain) (images : Nat) : List Nat :=
  s.fences.assigned (List.range images) ++ s.fences.sinkFencePool

end FencedSwapchain

end PyroFling
