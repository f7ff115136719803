import PyroFling.Library.Monitor
import PyroFling.Library.Runs
import PyroFling.Vulkan

/-!
# The swapchain across two GPUs

`cross-wsi-layer/cross_wsi_layer.cpp`. The application renders on the source GPU. A worker thread
copies what is presented to an image of a swapchain on the sink GPU, presents that image and acquires
the next one for the application. The threads share a mutex and one condition variable: a section that
holds the mutex, with the Vulkan calls since the section before, is one step. The application also pushes
images without the mutex; such a push has a beginning and an end, and other steps may come in between.
-/

namespace PyroFling

open Monitor

/-- The threads of a swapchain: its worker, the thread that acquires and presents, and those that wait
for presents to complete. -/
inductive CrossThread
  | worker
  | app
  | waiter (n : Nat)
  deriving DecidableEq

/-- What the worker has to do for one present. -/
structure Work where
  presentId : BitVec 64
  index : Nat
  deriving DecidableEq

/-- The arguments of `acquire`: the timeout if it is finite, and which handles are not null. -/
structure AcquireCall where
  timeout : Option Nat
  semaphore : Bool
  fence : Bool
  deriving DecidableEq

/-- What the Vulkan calls of `acquire` return, as far as they are made. -/
structure AcquireResults where
  getSemaphoreFd : VkResult := VkResult.success
  importSemaphoreFd : VkResult := VkResult.success
  createFence : VkResult := VkResult.success
  getFenceFd : VkResult := VkResult.success
  importFenceFd : VkResult := VkResult.success
  deriving DecidableEq

/-- What the Vulkan calls of `pumpAcquireSinkImage` return. `fences` says whether the fence of the
image could be waited for and reset. -/
structure PumpResults where
  createFence : VkResult := VkResult.success
  acquireNextImage : VkResult := VkResult.success
  index : Nat
  fences : Bool := true
  deriving DecidableEq

/-- The predicates of the four waits. -/
inductive CrossWait
  | work
  | image (call : AcquireCall)
  | sourceCommands (family index : Nat)
  | present (id : BitVec 64) (timed : Bool)
  deriving DecidableEq

def CrossWait.timed : CrossWait → Bool
  | .image call => call.timeout.isSome
  | .present _ timed => timed
  | _ => false

/-- Where a thread is between its sections. `rest` counts the images that `init` still has to acquire,
if it is `init` that pumps and not the worker. `restoring` is a push without the mutex, with the queue as
it was at its beginning and the error that `acquire` is going to report, if it is `acquire` that pushes and
not `releaseSwapchainImages`. -/
inductive CrossPlace
  | idle
  | acquiring (call : AcquireCall) (index : Nat)
  | restoring (index : Nat) (before : List Nat) (failed : Option VkResult)
  | submitting (index : Nat)
  | queueing (index : Nat)
  | waitingForPresent
  | looping
  | waitingForSource (work : Work)
  | waitingForSink (work : Work)
  | presenting (work : Work)
  | publishing (work : Work)
  | pumping (rest : Option Nat)
  | pumped (rest : Option Nat) (res : VkResult)
  | stopped
  deriving DecidableEq

/-- The payload of an image's `sourceAcquireSemaphore`, if the semaphore could be created. -/
inductive Payload
  | missing
  | unsignalled
  | signalled
  deriving DecidableEq

/-- How a call of `acquire` ended: the index it took out of the queue, the queue as it would be without
the call and as it is, and for the handles that are not null whether a signalled payload was imported. -/
structure AcquireReturn where
  result : VkResult
  index : Option Nat := none
  queueWithout : List Nat
  queue : List Nat
  semaphore : Option Bool := none
  fence : Option Bool := none
  deriving DecidableEq

/-- A swapchain with its threads, the images that are in none of its queues, and the calls of `acquire`
that have returned. `held` are the images of the application, `processing` those the worker has taken
and not passed on, `sink` those of the presentation engine. -/
structure CrossSwapchain where
  workQueue : List Work := []
  acquireQueue : List Nat := []
  swapchainStatus : VkResult := VkResult.success
  submitCount : BitVec 64 := 0
  processedSourceCount : BitVec 64 := 0
  pendingWaitId : BitVec 64 := 0
  nextPresentId : BitVec 64 := 0
  sourceFamily : Option Nat := none
  sinkFencePool : Nat := 0
  sinkAcquireFence : Nat → Bool := fun _ => false
  hasQueue : Bool
  sourceAcquireSemaphore : Nat → Payload
  threads : CrossThread → Thread CrossPlace CrossWait
  held : List Nat := []
  processing : List Nat := []
  sink : List Nat
  returns : List AcquireReturn := []

namespace CrossSwapchain

/-- The payload that `createExportableSignalledSemaphore` leaves. A device without a queue cannot signal
the semaphore. -/
def createSemaphore (hasQueue created : Bool) : Payload :=
  if created then if hasQueue then .signalled else .unsignalled else .missing

/-- `init` has created the images, with the semaphores as far as it could, and goes on to acquire
`pumps + 1` of them. -/
def init (images pumps : Nat) (hasQueue : Bool) (created : Nat → Bool) : CrossSwapchain where
  hasQueue := hasQueue
  sourceAcquireSemaphore i := createSemaphore hasQueue (created i)
  threads
    | .worker => .running (.pumping (some pumps))
    | _ => .running .idle
  sink := List.range images

def setThread (s : CrossSwapchain) (t : CrossThread) (thread : Thread CrossPlace CrossWait) :
    CrossSwapchain :=
  { s with threads := Function.update s.threads t thread }

def goto (s : CrossSwapchain) (t : CrossThread) (place : CrossPlace) : CrossSwapchain :=
  s.setThread t (.running place)

/-- The predicate of a wait. That of `initSourceCommands` does not look at the status. -/
def Ready (s : CrossSwapchain) : CrossWait → Prop
  | .work => s.workQueue ≠ [] ∨ s.swapchainStatus < 0
  | .image _ => s.acquireQueue ≠ [] ∨ s.swapchainStatus < 0
  | .sourceCommands _ _ => s.submitCount = s.processedSourceCount
  | .present id _ => id ≤ s.pendingWaitId ∨ s.swapchainStatus < 0

instance (s : CrossSwapchain) : (w : CrossWait) → Decidable (s.Ready w)
  | .work | .image _ | .present _ _ => inferInstanceAs (Decidable (_ ∨ _))
  | .sourceCommands _ _ => inferInstanceAs (Decidable (_ = _))

/-! ### Results -/

/-- An error replaces every status, `VK_SUBOPTIMAL_KHR` only success. -/
def mergeStatus (status err : VkResult) : VkResult :=
  if err < 0 ∨ (status = VkResult.success ∧ err = VkResult.suboptimal) then err else status

def markResult (s : CrossSwapchain) (err : VkResult) : CrossSwapchain :=
  if err = VkResult.success then s
  else if mergeStatus s.swapchainStatus err = VkResult.success then
    { s with swapchainStatus := mergeStatus s.swapchainStatus err }
  else
    { s with
      swapchainStatus := mergeStatus s.swapchainStatus err
      threads := notifyAll s.threads }

/-- What `markResult` returns, from the state it leaves behind. -/
def markedResult (s : CrossSwapchain) (err : VkResult) : VkResult :=
  if s.swapchainStatus = VkResult.success then err else s.swapchainStatus

/-! ### The application -/

def logReturn (s : CrossSwapchain) (r : AcquireReturn) : CrossSwapchain :=
  { s with returns := s.returns ++ [r] }

/-- `acquire` returns before it has taken an image. -/
def logEmpty (s : CrossSwapchain) (result : VkResult) : CrossSwapchain :=
  s.logReturn { result := result, queueWithout := s.acquireQueue, queue := s.acquireQueue }

/-- `acquire` after its wait. -/
def takeImage (s : CrossSwapchain) (call : AcquireCall) : CrossSwapchain :=
  if s.swapchainStatus < 0 then (s.logEmpty s.swapchainStatus).goto .app .idle
  else
    match s.acquireQueue with
    | [] => s
    | index :: rest =>
      { s with acquireQueue := rest, held := s.held ++ [index] }.goto .app (.acquiring call index)

/-- How `acquire` ends once it has an image: it returns the result of a failed call as it is, it puts
the image back and reports the failure, it returns the `VK_SUCCESS` of an earlier call although the
fence could not be exported, or it gets to its end. -/
inductive AcquireExit
  | returns (res : VkResult)
  | restores (res : VkResult)
  | forgets
  | completes
  deriving DecidableEq

def acquireExit (call : AcquireCall) (results : AcquireResults) : AcquireExit :=
  if call.semaphore ∧ results.getSemaphoreFd ≠ VkResult.success then .returns results.getSemaphoreFd
  else if call.semaphore ∧ results.importSemaphoreFd ≠ VkResult.success then
    .restores results.importSemaphoreFd
  else if call.fence then
    if results.createFence ≠ VkResult.success then .returns results.createFence
    else if results.getFenceFd ≠ VkResult.success then .forgets
    else if results.importFenceFd ≠ VkResult.success then .restores results.importFenceFd
    else .completes
  else .completes

/-- The payload of the image's semaphore after it has been imported into one of the application. -/
def payloadAfter (s : CrossSwapchain) (call : AcquireCall) (index : Nat) : Payload :=
  if call.semaphore ∧ s.sourceAcquireSemaphore index = .signalled then .unsignalled
  else s.sourceAcquireSemaphore index

/-- The call returns with an image. -/
def handOver (s : CrossSwapchain) (call : AcquireCall) (index : Nat) (result : VkResult) (fence : Bool) :
    CrossSwapchain :=
  { s with
    sourceAcquireSemaphore := Function.update s.sourceAcquireSemaphore index (s.payloadAfter call index) }.logReturn {
      result := result
      index := some index
      queueWithout := index :: s.acquireQueue
      queue := s.acquireQueue
      semaphore := if call.semaphore then some (s.sourceAcquireSemaphore index = Payload.signalled) else none
      fence := if call.fence then some fence else none }

/-- The call fails and nobody gets the image. -/
def giveUp (s : CrossSwapchain) (index : Nat) (result : VkResult) : CrossSwapchain :=
  { s with held := s.held.erase index }.logReturn {
    result := result, index := some index, queueWithout := index :: s.acquireQueue, queue := s.acquireQueue }

/-- An image of the application goes to the end of the queue. -/
def putBack (s : CrossSwapchain) (index : Nat) : CrossSwapchain :=
  { s with acquireQueue := s.acquireQueue ++ [index], held := s.held.erase index }

/-- The beginning of a push without the mutex. -/
def beginRestore (s : CrossSwapchain) (index : Nat) (failed : Option VkResult) : CrossSwapchain :=
  s.goto .app (.restoring index s.acquireQueue failed)

/-- The end of such a push. If the worker has pushed an image since its beginning this is a data race, and
the queue may be anything, `raced`. `acquire` then marks the error and returns. -/
def restore (s : CrossSwapchain) (index : Nat) (before : List Nat) (failed : Option VkResult)
    (raced : List Nat) : CrossSwapchain :=
  let s' :=
    if s.acquireQueue = before then s.putBack index
    else { s with acquireQueue := raced, held := s.held.erase index }
  match failed with
  | none => s'.goto .app .idle
  | some res =>
    let s' := s'.markResult res
    (s'.logReturn {
      result := s'.markedResult res, index := some index
      queueWithout := index :: s.acquireQueue, queue := s'.acquireQueue }).goto .app .idle

/-- The end of `acquire`. -/
def finishAcquire (s : CrossSwapchain) (call : AcquireCall) (index : Nat) (results : AcquireResults) :
    CrossSwapchain :=
  match acquireExit call results with
  | .returns res => (s.giveUp index res).goto .app .idle
  | .restores res => s.beginRestore index (some res)
  | .forgets => (s.handOver call index VkResult.success false).goto .app .idle
  | .completes =>
    let result := s.markedResult VkResult.success
    (if result < 0 then s.giveUp index result else s.handOver call index result true).goto .app .idle

/-- The submission to the source GPU signals the semaphore of the image. -/
def signalSource (s : CrossSwapchain) (index : Nat) : CrossSwapchain :=
  let payload := if s.sourceAcquireSemaphore index = .missing then .missing else .signalled
  { s with sourceAcquireSemaphore := Function.update s.sourceAcquireSemaphore index payload }

/-- `submitSourceWork` returns a marked result, and `queuePresent` marks it again if it is an error. -/
def finishSubmit (s : CrossSwapchain) (index : Nat) (err : VkResult) : CrossSwapchain :=
  let s := s.markResult err
  if s.markedResult err < 0 then (s.markResult (s.markedResult err)).goto .app .idle
  else s.goto .app (.queueing index)

/-- `submitSourceWork` after its wait. `fence` is the result of the second submission, if there is one. -/
def submitSource (s : CrossSwapchain) (index : Nat) (initCommands submit : VkResult)
    (fence : Option VkResult) : CrossSwapchain :=
  if initCommands ≠ VkResult.success then (s.markResult initCommands).goto .app .idle
  else if submit ≠ VkResult.success then (s.markResult submit).goto .app .idle
  else (s.signalSource index).finishSubmit index (fence.getD VkResult.success)

/-- The last section of `queuePresent`. -/
def pushWork (s : CrossSwapchain) (index : Nat) (next : CrossThread) : CrossSwapchain :=
  { s with
    workQueue := s.workQueue ++ [{ presentId := s.nextPresentId, index := index }]
    submitCount := s.submitCount + 1
    nextPresentId := 0
    held := s.held.erase index
    threads := Function.update (notifyOne s.threads next) .app (.running .idle) }

/-- One round of the loop of `releaseSwapchainImages`. It ends the loop if the semaphore of the image
cannot be created again. -/
def releaseImage (s : CrossSwapchain) (index : Nat) (created : Bool) : CrossSwapchain :=
  let payload := createSemaphore s.hasQueue created
  let s := { s with sourceAcquireSemaphore := Function.update s.sourceAcquireSemaphore index payload }
  if created then s.beginRestore index none else s

/-- `waitForPresent` after its wait. -/
def afterPresentWait (s : CrossSwapchain) (t : CrossThread) : CrossSwapchain :=
  if s.swapchainStatus < 0 then s.goto t .idle else s.goto t .waitingForPresent

/-! ### The worker -/

def takeWork (s : CrossSwapchain) : CrossSwapchain :=
  if s.swapchainStatus < 0 then s.goto .worker .stopped
  else
    match s.workQueue with
    | [] => s
    | work :: rest =>
      { s with workQueue := rest, processing := s.processing ++ [work.index] }.goto .worker
        (.waitingForSource work)

/-- The worker marks a result and stops on an error. -/
def markAndGo (s : CrossSwapchain) (err : VkResult) (place : CrossPlace) : CrossSwapchain :=
  let s := s.markResult err
  if s.markedResult err < 0 then s.goto .worker .stopped else s.goto .worker place

def sourceDone (s : CrossSwapchain) (work : Work) (fences : Bool) (next : CrossThread) : CrossSwapchain :=
  if fences then
    { s with
      processedSourceCount := s.processedSourceCount + 1
      threads := Function.update (notifyOne s.threads next) .worker (.running (.waitingForSink work)) }
  else (s.markResult VkResult.errorDeviceLost).goto .worker .stopped

def submitSink (s : CrossSwapchain) (work : Work) (fences : Bool) (submit : VkResult) : CrossSwapchain :=
  if fences then s.markAndGo submit (.presenting work)
  else (s.markResult VkResult.errorDeviceLost).goto .worker .stopped

def presentSink (s : CrossSwapchain) (work : Work) (present : VkResult) : CrossSwapchain :=
  let s :=
    if 0 ≤ present then
      { s with processing := s.processing.erase work.index, sink := s.sink ++ [work.index] }
    else s
  s.markAndGo present (.publishing work)

def publish (s : CrossSwapchain) (work : Work) : CrossSwapchain :=
  if work.presentId ≠ 0 then
    { s with pendingWaitId := work.presentId, threads := notifyAll s.threads }.goto .worker (.pumping none)
  else s.goto .worker (.pumping none)

/-- Where `pumpAcquireSinkImage` returns to. `init` goes on whatever happens. -/
def afterPump (s : CrossSwapchain) (rest : Option Nat) (ret : VkResult) : CrossSwapchain :=
  match rest with
  | none => s.goto .worker (if ret < 0 then .stopped else .looping)
  | some 0 => s.goto .worker .looping
  | some (k + 1) => s.goto .worker (.pumping (some k))

/-- A result of `pumpAcquireSinkImage` is marked and returned. -/
def markPump (s : CrossSwapchain) (rest : Option Nat) (err : VkResult) : CrossSwapchain :=
  let s := s.markResult err
  s.afterPump rest (s.markedResult err)

def pumpAcquireSinkImage (s : CrossSwapchain) (rest : Option Nat) (results : PumpResults)
    (next : CrossThread) : CrossSwapchain :=
  if s.sinkFencePool = 0 ∧ results.createFence ≠ VkResult.success then s.markPump rest results.createFence
  else
    let pool := s.sinkFencePool - 1
    let index := results.index
    if results.acquireNextImage < 0 then
      { s with sinkFencePool := pool + 1 }.goto .worker (.pumped rest results.acquireNextImage)
    else if s.sinkAcquireFence index ∧ ¬results.fences then
      { s with sinkFencePool := pool, sink := s.sink.erase index, processing := s.processing ++ [index] }.markPump
        rest VkResult.errorDeviceLost
    else
      { s with
        sinkFencePool := if s.sinkAcquireFence index then pool + 1 else pool
        sinkAcquireFence := Function.update s.sinkAcquireFence index true
        sink := s.sink.erase index
        acquireQueue := s.acquireQueue ++ [index]
        threads := Function.update (notifyOne s.threads next) .worker
          (.running (.pumped rest results.acquireNextImage)) }

/-- The wait of a thread whose predicate does not hold, or what follows it. -/
def passWait (s : CrossSwapchain) (t : CrossThread) (w : CrossWait) : CrossSwapchain :=
  if s.Ready w then
    match w with
    | .work => s.takeWork
    | .image call => s.takeImage call
    | .sourceCommands family index => { s with sourceFamily := some family }.goto .app (.submitting index)
    | .present _ _ => s.afterPresentWait t
  else s.setThread t (.blocked w)

/-- A timed wait gives up. -/
def timeOut (s : CrossSwapchain) (t : CrossThread) (w : CrossWait) : CrossSwapchain :=
  match w with
  | .image call =>
    let result := if call.timeout = some 0 then VkResult.notReady else VkResult.timeout
    (s.logEmpty result).goto t .idle
  | _ => s.goto t .idle

end CrossSwapchain

/-- The steps. `next` is the thread that a `notify_one` wakes; `wake` takes a thread out of its wait
without a notification. -/
inductive CrossEvent
  | setPresentId (id : BitVec 64)
  | acquire (call : AcquireCall)
  | acquired (results : AcquireResults)
  | restored (raced : List Nat)
  | queuePresent (family index : Nat)
  | submitted (initCommands submit : VkResult) (fence : Option VkResult)
  | pushWork (next : CrossThread)
  | releaseImage (index : Nat) (created : Bool)
  | waitForPresent (n : Nat) (id : BitVec 64) (timed : Bool)
  | presentWaited (n : Nat) (result : VkResult)
  | takeWork
  | sourceDone (fences : Bool) (next : CrossThread)
  | submitSink (fences : Bool) (submit : VkResult)
  | presentSink (present : VkResult)
  | publish
  | pump (results : PumpResults) (next : CrossThread)
  | pumped
  | wake (t : CrossThread)
  | resume (t : CrossThread) (timedOut : Bool)
  deriving DecidableEq

namespace CrossSwapchain

def step (s : CrossSwapchain) : CrossEvent → CrossSwapchain
  | .setPresentId id => { s with nextPresentId := id }
  | .acquire call => s.passWait .app (.image call)
  | .acquired results =>
    match s.threads .app with
    | .running (.acquiring call index) => s.finishAcquire call index results
    | _ => s
  | .restored raced =>
    match s.threads .app with
    | .running (.restoring index before failed) => s.restore index before failed raced
    | _ => s
  | .queuePresent family index =>
    if s.sourceFamily ≠ some family then s.passWait .app (.sourceCommands family index)
    else s.goto .app (.submitting index)
  | .submitted initCommands submit fence =>
    match s.threads .app with
    | .running (.submitting index) => s.submitSource index initCommands submit fence
    | _ => s
  | .pushWork next =>
    match s.threads .app with
    | .running (.queueing index) => s.pushWork index next
    | _ => s
  | .releaseImage index created => s.releaseImage index created
  | .waitForPresent n id timed => s.passWait (.waiter n) (.present id timed)
  | .presentWaited n result =>
    match s.threads (.waiter n) with
    | .running .waitingForPresent => (s.markResult result).goto (.waiter n) .idle
    | _ => s
  | .takeWork =>
    match s.threads .worker with
    | .running .looping => s.passWait .worker .work
    | _ => s
  | .sourceDone fences next =>
    match s.threads .worker with
    | .running (.waitingForSource work) => s.sourceDone work fences next
    | _ => s
  | .submitSink fences submit =>
    match s.threads .worker with
    | .running (.waitingForSink work) => s.submitSink work fences submit
    | _ => s
  | .presentSink present =>
    match s.threads .worker with
    | .running (.presenting work) => s.presentSink work present
    | _ => s
  | .publish =>
    match s.threads .worker with
    | .running (.publishing work) => s.publish work
    | _ => s
  | .pump results next =>
    match s.threads .worker with
    | .running (.pumping rest) => s.pumpAcquireSinkImage rest results next
    | _ => s
  | .pumped =>
    match s.threads .worker with
    | .running (.pumped rest res) => s.markPump rest res
    | _ => s
  | .wake t => s.setThread t (s.threads t).wake
  | .resume t timedOut =>
    match s.threads t with
    | .woken w => if timedOut ∧ ¬s.Ready w then s.timeOut t w else s.passWait t w
    | _ => s

/-- `init` has returned. -/
def InitDone (s : CrossSwapchain) : Prop :=
  ∀ k res, s.threads .worker ≠ .running (.pumping (some k)) ∧ s.threads .worker ≠ .running (.pumped (some k) res)

/-- What the application, the scheduler and the Vulkan implementation can do: the application passes
images that it holds, the sink returns images that it owns, and a call that fails returns an error. -/
def Legal (s : CrossSwapchain) : CrossEvent → Prop
  | .setPresentId _ | .acquire _ => s.InitDone ∧ s.threads .app = .running .idle
  | .acquired results => (∃ call index, s.threads .app = .running (.acquiring call index)) ∧
    results.importSemaphoreFd ≤ 0 ∧ results.importFenceFd ≤ 0
  | .restored _ => ∃ index before failed, s.threads .app = .running (.restoring index before failed)
  | .queuePresent _ index => s.InitDone ∧ s.threads .app = .running .idle ∧ index ∈ s.held
  | .submitted initCommands submit _ =>
    (∃ index, s.threads .app = .running (.submitting index)) ∧ initCommands ≤ 0 ∧ submit ≤ 0
  | .pushWork next => (∃ index, s.threads .app = .running (.queueing index)) ∧ Choice s.threads next
  | .releaseImage index _ => s.InitDone ∧ s.threads .app = .running .idle ∧ index ∈ s.held
  | .waitForPresent n _ _ => s.InitDone ∧ s.threads (.waiter n) = .running .idle
  | .presentWaited n _ => s.threads (.waiter n) = .running .waitingForPresent
  | .takeWork => s.threads .worker = .running .looping
  | .sourceDone _ next => (∃ work, s.threads .worker = .running (.waitingForSource work)) ∧ Choice s.threads next
  | .submitSink _ _ => ∃ work, s.threads .worker = .running (.waitingForSink work)
  | .presentSink _ => ∃ work, s.threads .worker = .running (.presenting work)
  | .publish => ∃ work, s.threads .worker = .running (.publishing work)
  | .pump results next => (∃ rest, s.threads .worker = .running (.pumping rest)) ∧
    (0 ≤ results.acquireNextImage → results.index ∈ s.sink) ∧ Choice s.threads next
  | .pumped => ∃ rest res, s.threads .worker = .running (.pumped rest res)
  | .wake t => (s.threads t).IsBlocked
  | .resume t timedOut => ∃ w, s.threads t = .woken w ∧ (timedOut → w.timed)

/-- The worker has pushed no image since the application began a push without the mutex. -/
def Undisturbed (s : CrossSwapchain) : Prop :=
  ∀ index before failed, s.threads .app = .running (.restoring index before failed) → s.acquireQueue = before

end CrossSwapchain

/-! ### What `waitForPresent` returns -/

/-- A step, or the time of a call of `waitForPresent` that is up after its wait. -/
inductive WaitEvent
  | cross (e : CrossEvent)
  | expire (n : Nat)
  deriving DecidableEq

/-- What a call has returned, with the result of the sink's `WaitForPresentKHR` if there was one. -/
structure PresentReturn where
  result : VkResult
  sink : Option VkResult := none
  deriving DecidableEq

namespace CrossSwapchain

def stepWait (s : CrossSwapchain) : WaitEvent → CrossSwapchain
  | .cross e => s.step e
  | .expire n =>
    match s.threads (.waiter n) with
    | .running .waitingForPresent => s.goto (.waiter n) .idle
    | _ => s

/-- A call that finds an error behind its wait returns it. -/
def errorReturn (s : CrossSwapchain) : Option PresentReturn :=
  if s.swapchainStatus < 0 then some { result := s.swapchainStatus } else none

/-- The call of `waitForPresent` that a step ends. -/
def waitReturn (s : CrossSwapchain) : WaitEvent → Option PresentReturn
  | .cross (.waitForPresent _ _ _) => s.errorReturn
  | .cross (.resume (.waiter n) timedOut) =>
    match s.threads (.waiter n) with
    | .woken (.present id timed) =>
      if timedOut ∧ ¬s.Ready (.present id timed) then some { result := VkResult.timeout }
      else s.errorReturn
    | _ => none
  | .cross (.presentWaited n result) =>
    match s.threads (.waiter n) with
    | .running .waitingForPresent =>
      some { result := (s.markResult result).markedResult result, sink := some result }
    | _ => none
  | .expire n =>
    match s.threads (.waiter n) with
    | .running .waitingForPresent => some { result := VkResult.timeout }
    | _ => none
  | _ => none

end CrossSwapchain

end PyroFling
