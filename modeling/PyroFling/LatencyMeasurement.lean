import PyroFling.Library.Monitor
import PyroFling.Library.Runs
import PyroFling.Vulkan

/-!
# Measuring the latency of an application

`latency-measurement-layer/latency_measurement_layer.cpp`. A layer stimulates an application with input,
looks for the first frame that differs from those before it, and reports when that frame was presented
and when it became visible. The thread of the application and a worker share a mutex, a condition variable
and a queue of work; a third thread makes the input. A section that holds a mutex, with the Vulkan calls
since the section before, is one step.
-/

namespace PyroFling

open Monitor

namespace PresentStage

def queueOperationsEnd : BitVec 64 := 1
def requestDequeued : BitVec 64 := 2
def imageFirstPixelOut : BitVec 64 := 4
def imageFirstPixelVisible : BitVec 64 := 8

end PresentStage

/-- `FeedbackQueueEntry`. Times are in nanoseconds. -/
structure FeedbackQueueEntry where
  presentId : BitVec 64 := 0
  submitted : BitVec 64 := 0
  queueDone : BitVec 64 := 0
  presentDone : BitVec 64 := 0
  presentStage : BitVec 64 := 0
  deriving DecidableEq

/-- A `VkPastPresentationTimingEXT` with the time stamps that `GetCalibratedTimestampsKHR` returns for it,
unless that call fails. -/
structure PastPresentationTiming where
  presentId : BitVec 64
  presentStages : List (BitVec 64 × BitVec 64)
  timestamps : Option (BitVec 64 × BitVec 64 × BitVec 64)
  deriving DecidableEq

namespace PastPresentationTiming

/-- The times that `updateFeedback` takes from a timing: when the queue was done, and the time of the
latest stage of presentation with that stage. -/
structure Times where
  queueDone : BitVec 64 := 0
  presentDone : BitVec 64 := 0
  presentStage : BitVec 64 := 0
  deriving DecidableEq

/-- One round of the loop over the stages. -/
def Times.addStage (t : Times) (stage : BitVec 64 × BitVec 64) : Times :=
  let t := if stage.1 = PresentStage.queueOperationsEnd then { t with queueDone := stage.2 } else t
  if stage.1 &&& (PresentStage.requestDequeued ||| PresentStage.imageFirstPixelOut |||
      PresentStage.imageFirstPixelVisible) ≠ 0 ∧ t.presentStage < stage.1 then
    { t with presentDone := stage.2, presentStage := stage.1 }
  else t

/-- The times on the monotonic clock. -/
def times (timing : PastPresentationTiming) : Times :=
  let t := timing.presentStages.foldl Times.addStage {}
  if t.presentDone ≠ 0 ∧ t.queueDone ≠ 0 then
    match timing.timestamps with
    | some (monotonic, queue, present) =>
      { t with
        queueDone := monotonic - (queue - t.queueDone)
        presentDone := monotonic - (present - t.presentDone) }
    | none => { t with queueDone := 0, presentDone := 0 }
  else t

/-- The entry of a present with its timing. -/
def complete (timing : PastPresentationTiming) (entry : FeedbackQueueEntry) : FeedbackQueueEntry :=
  { entry with
    queueDone := timing.times.queueDone
    presentDone := timing.times.presentDone
    presentStage := timing.times.presentStage }

end PastPresentationTiming

/-- What the worker has to do. -/
inductive LatencyWork
  | waitGPUWork (presentId : BitVec 64) (index : Nat)
  | handleFeedback (entry : FeedbackQueueEntry)
  deriving DecidableEq

inductive LatencyThread
  | worker
  | app
  deriving DecidableEq

/-- The predicates of the waits of the worker, of `initSourceCommands` and of `submitSourceWork`. -/
inductive LatencyWait
  | work
  | allIdle (family index : Nat) (presentId : BitVec 64)
  | image (index : Nat) (presentId : BitVec 64)
  deriving DecidableEq

/-- Where a thread is between its sections. -/
inductive LatencyPlace
  | idle
  | recording (index : Nat) (presentId : BitVec 64)
  | submitting (index : Nat) (presentId : BitVec 64)
  | looping
  | copying (presentId : BitVec 64) (index : Nat)
  | analyzing (presentId : BitVec 64)
  | feedback (entry : FeedbackQueueEntry)
  | reporting (entry : FeedbackQueueEntry)
  | counting (entry : FeedbackQueueEntry)
  | leaving
  | stopped
  deriving DecidableEq

/-- A line of the report, in nanoseconds. -/
structure LatencyLine where
  presentId : BitVec 64
  stimulus : BitVec 64
  submitted : BitVec 64
  queueDone : BitVec 64
  presentDone : BitVec 64
  deriving DecidableEq

/-- A swapchain with its threads. `fences` are the images whose command buffer has been submitted and not
waited for. `presented` are the presents that asked for a timing with the times they were submitted at,
`timings` are the timings of the presentation engine, `stimuli` are the times of the input and `lines` those
of the report file. -/
structure LatencySwapchain where
  images : Nat
  busy : Nat → Bool := fun _ => false
  cmdFamily : Option Nat := none
  cmdPool : Bool := false
  workQueue : List LatencyWork := []
  swapchainStatus : VkResult := VkResult.success
  threads : LatencyThread → Thread LatencyPlace LatencyWait
  lastCandidateFrameId : BitVec 64 := 0
  lastStimulusTime : BitVec 64 := 0
  lastInputWasActive : Bool := false
  latencyReportFile : Bool := false
  feedbackQueue : List FeedbackQueueEntry := []
  internalPresentId : BitVec 64 := 0
  numFeedbacksSinceDelta : BitVec 64 := 0
  stimulusTime : BitVec 64 := 0
  lastFeedbackId : BitVec 64 := 0
  clock : BitVec 64 := 0
  fences : Nat → Bool := fun _ => false
  presented : List (BitVec 64 × BitVec 64) := []
  timings : List PastPresentationTiming := []
  stimuli : List (BitVec 64) := []
  lines : List LatencyLine := []

namespace LatencySwapchain

def feedbackQueueSize : Nat := 64

def numHistoryFrames : Nat := 16

/-- `init` has started the threads. -/
def init (images : Nat) : LatencySwapchain where
  images := images
  threads
    | .worker => .running .looping
    | .app => .running .idle

def setThread (s : LatencySwapchain) (t : LatencyThread) (thread : Thread LatencyPlace LatencyWait) :
    LatencySwapchain :=
  { s with threads := Function.update s.threads t thread }

def goto (s : LatencySwapchain) (t : LatencyThread) (place : LatencyPlace) : LatencySwapchain :=
  s.setThread t (.running place)

/-- The predicate of a wait. That of `initSourceCommands` does not look at the status. -/
def Ready (s : LatencySwapchain) : LatencyWait → Prop
  | .work => s.workQueue ≠ [] ∨ s.swapchainStatus < 0
  | .allIdle _ _ _ => ∀ i < s.images, s.busy i = false
  | .image index _ => s.busy index = false ∨ s.swapchainStatus < 0

instance (s : LatencySwapchain) : (w : LatencyWait) → Decidable (s.Ready w)
  | .work | .image _ _ => inferInstanceAs (Decidable (_ ∨ _))
  | .allIdle _ _ _ => inferInstanceAs (Decidable (∀ i < s.images, s.busy i = false))

/-! ### The application -/

/-- `updateFeedback` looks for the present that a timing is about. The last entry of the queue takes the
place of the one it finds. -/
def updateFeedback (s : LatencySwapchain) (timing : PastPresentationTiming) (next : LatencyThread) :
    LatencySwapchain :=
  let s := { s with timings := s.timings ++ [timing] }
  match s.feedbackQueue.findIdx? (·.presentId = timing.presentId) with
  | none => s
  | some i =>
    let entry := timing.complete (s.feedbackQueue.getD i {})
    let s := { s with
      feedbackQueue := (s.feedbackQueue.set i (s.feedbackQueue.getLastD {})).dropLast }
    if entry.presentDone ≠ 0 ∧ entry.queueDone ≠ 0 then
      { s with
        workQueue := s.workQueue ++ [.handleFeedback entry]
        threads := notifyOne s.threads next }
    else s

/-- The id of a present: that of the application, or one of the layer's own if it has none. -/
def presentIdFor (s : LatencySwapchain) (presentId : BitVec 64) : BitVec 64 :=
  if presentId = 0 then s.internalPresentId + 1 else presentId

def takePresentId (s : LatencySwapchain) (presentId : BitVec 64) : LatencySwapchain :=
  { s with
    internalPresentId :=
      if presentId = 0 then s.internalPresentId + 1
      else if s.internalPresentId < presentId then presentId else s.internalPresentId }

/-- The last section of `submitSourceWork`, and the entry of the queue that asks for a timing. -/
def submitSourceWork (s : LatencySwapchain) (index : Nat) (presentId submitted : BitVec 64)
    (next : LatencyThread) : LatencySwapchain :=
  let s := { s with
    busy := Function.update s.busy index true
    fences := Function.update s.fences index true
    workQueue := s.workQueue ++ [.waitGPUWork presentId index]
    threads := Function.update (notifyOne s.threads next) .app (.running .idle) }
  if s.feedbackQueue.length < feedbackQueueSize ∧ presentId ≠ 0 then
    { s with
      feedbackQueue := s.feedbackQueue ++ [{ presentId := presentId, submitted := submitted }]
      presented := s.presented ++ [(presentId, submitted)] }
  else s

/-! ### The worker -/

def takeWork (s : LatencySwapchain) : LatencySwapchain :=
  if s.swapchainStatus < 0 then s.goto .worker .leaving
  else
    match s.workQueue with
    | [] => s
    | .waitGPUWork presentId index :: rest =>
      { s with workQueue := rest }.goto .worker (.copying presentId index)
    | .handleFeedback entry :: rest => { s with workQueue := rest }.goto .worker (.feedback entry)

/-- The worker has waited for the copy of an image and reset its fence, if it could. -/
def copied (s : LatencySwapchain) (presentId : BitVec 64) (index : Nat) (fences : Bool) (next : LatencyThread) :
    LatencySwapchain :=
  if fences then
    { s with
      fences := Function.update s.fences index false
      busy := Function.update s.busy index false
      threads := Function.update (notifyOne s.threads next) .worker (.running (.analyzing presentId)) }
  else s.goto .worker .leaving

/-- A frame becomes the candidate if it differs from its predecessors and there is none. `delta` is the
comparison of the errors, which are floating point numbers. -/
def analyze (s : LatencySwapchain) (presentId : BitVec 64) (delta : Bool) : LatencySwapchain :=
  if delta ∧ BitVec.ofNat 64 numHistoryFrames < presentId ∧ s.lastCandidateFrameId = 0 then
    { s with
      numFeedbacksSinceDelta := 0
      lastCandidateFrameId := presentId
      stimulusTime := s.lastStimulusTime }.goto .worker .looping
  else s.goto .worker .looping

/-- The frame of the feedback, or one that was presented in place of an earlier one, is the candidate. -/
def decideFeedback (s : LatencySwapchain) (entry : FeedbackQueueEntry) : LatencySwapchain :=
  if s.lastCandidateFrameId ≤ entry.presentId ∧ s.lastFeedbackId < s.lastCandidateFrameId ∧ s.stimulusTime ≠ 0 then
    s.goto .worker (.reporting entry)
  else s.goto .worker (.counting entry)

def report (s : LatencySwapchain) (entry : FeedbackQueueEntry) : LatencySwapchain :=
  let s := s.goto .worker (.counting entry)
  if s.latencyReportFile then
    { s with
      lines := s.lines ++ [{
        presentId := entry.presentId, stimulus := s.stimulusTime, submitted := entry.submitted
        queueDone := entry.queueDone, presentDone := entry.presentDone }] }
  else s

/-- After a time of grace without a stimulus the input starts again. -/
def countFeedback (s : LatencySwapchain) (entry : FeedbackQueueEntry) : LatencySwapchain :=
  let s' := if s.numFeedbacksSinceDelta = BitVec.ofNat 64 (2 * numHistoryFrames) then
    { s with lastCandidateFrameId := 0, lastStimulusTime := 0 } else s
  { s' with
    numFeedbacksSinceDelta := s.numFeedbacksSinceDelta + 1
    lastFeedbackId := entry.presentId }.goto .worker .looping

/-- The end of `runWorker`. -/
def leave (s : LatencySwapchain) : LatencySwapchain :=
  { s with swapchainStatus := VkResult.errorDeviceLost, threads := notifyAll s.threads }.goto .worker .stopped

/-! ### The input -/

/-- Whether the stimulus is at its positive edge, which lasts for 200 ms of every 1600 ms. The number of
edges is an `int`. -/
def positiveEdge (s : LatencySwapchain) (now : BitVec 64) : Bool :=
  ((now - s.lastStimulusTime) / 200000000).setWidth 32 &&& 7 = 0 ∨ s.lastStimulusTime = 0

/-- One round of `runFakeInputStimulus`, which looks at the time twice. `doInput` says whether the trigger
file exists, `opened` whether the report file could be created if there is none. -/
def input (s : LatencySwapchain) (now later : BitVec 64) (doInput opened : Bool) : LatencySwapchain :=
  let s := { s with clock := later }
  if s.swapchainStatus < 0 then s
  else
    let s := if s.lastStimulusTime = 0 then { s with lastInputWasActive := false } else s
    if ¬doInput then
      { s with lastCandidateFrameId := 0, lastStimulusTime := 0, latencyReportFile := false }
    else
      let s := { s with latencyReportFile := s.latencyReportFile || opened }
      if s.lastCandidateFrameId = 0 then
        if s.positiveEdge now then
          if s.lastInputWasActive then s
          else { s with
            lastStimulusTime := later
            lastInputWasActive := true
            stimuli := s.stimuli ++ [later] }
        else { s with lastInputWasActive := false }
      else { s with lastInputWasActive := false }

/-- The wait of a thread whose predicate does not hold, or what follows it. -/
def passWait (s : LatencySwapchain) (t : LatencyThread) (w : LatencyWait) : LatencySwapchain :=
  if s.Ready w then
    match w with
    | .work => s.takeWork
    | .allIdle family index presentId =>
      { s with cmdFamily := some family, cmdPool := false }.goto .app (.recording index presentId)
    | .image index presentId =>
      if s.swapchainStatus < 0 then s.goto .app .idle else s.goto .app (.submitting index presentId)
  else s.setThread t (.blocked w)

end LatencySwapchain

/-- The steps. `next` is the thread that a `notify_one` wakes; `wake` takes a thread out of its wait without
a notification. -/
inductive LatencyEvent
  | poll (timing : PastPresentationTiming) (next : LatencyThread)
  | present (family index : Nat) (presentId : BitVec 64)
  | recorded (pool : Bool) (result : VkResult)
  | submitted (submit : VkResult) (now : BitVec 64) (next : LatencyThread)
  | takeWork
  | copied (fences : Bool) (next : LatencyThread)
  | analyze (delta : Bool)
  | decideFeedback
  | report
  | countFeedback
  | leave
  | input (now later : BitVec 64) (doInput opened : Bool)
  | destroy (next : LatencyThread)
  | wake (t : LatencyThread)
  | resume (t : LatencyThread)
  deriving DecidableEq

namespace LatencySwapchain

def step (s : LatencySwapchain) : LatencyEvent → LatencySwapchain
  | .poll timing next => s.updateFeedback timing next
  | .present family index presentId =>
    let s' := s.takePresentId presentId
    if s.cmdFamily ≠ some family then s'.passWait .app (.allIdle family index (s.presentIdFor presentId))
    else if s.cmdPool then s'.passWait .app (.image index (s.presentIdFor presentId))
    else s'.goto .app (.recording index (s.presentIdFor presentId))
  | .recorded pool result =>
    match s.threads .app with
    | .running (.recording index presentId) =>
      let s := { s with cmdPool := pool }
      if pool ∧ result = VkResult.success then s.passWait .app (.image index presentId) else s.goto .app .idle
    | _ => s
  | .submitted submit now next =>
    let s := { s with clock := now }
    match s.threads .app with
    | .running (.submitting index presentId) =>
      if submit = VkResult.success then s.submitSourceWork index presentId now next else s.goto .app .idle
    | _ => s
  | .takeWork =>
    match s.threads .worker with
    | .running .looping => s.passWait .worker .work
    | _ => s
  | .copied fences next =>
    match s.threads .worker with
    | .running (.copying presentId index) => s.copied presentId index fences next
    | _ => s
  | .analyze delta =>
    match s.threads .worker with
    | .running (.analyzing presentId) => s.analyze presentId delta
    | _ => s
  | .decideFeedback =>
    match s.threads .worker with
    | .running (.feedback entry) => s.decideFeedback entry
    | _ => s
  | .report =>
    match s.threads .worker with
    | .running (.reporting entry) => s.report entry
    | _ => s
  | .countFeedback =>
    match s.threads .worker with
    | .running (.counting entry) => s.countFeedback entry
    | _ => s
  | .leave =>
    match s.threads .worker with
    | .running .leaving => s.leave
    | _ => s
  | .input now later doInput opened => s.input now later doInput opened
  | .destroy next =>
    { s with swapchainStatus := VkResult.errorSurfaceLost, threads := notifyOne s.threads next }
  | .wake t => s.setThread t (s.threads t).wake
  | .resume t =>
    match s.threads t with
    | .woken w => s.passWait t w
    | _ => s

/-- What the application, the scheduler and the Vulkan implementation can do. -/
def Possible (s : LatencySwapchain) : LatencyEvent → Prop
  | .poll _ next => s.threads .app = .running .idle ∧ Choice s.threads next
  | .present _ index _ => s.threads .app = .running .idle ∧ index < s.images
  | .recorded _ _ => ∃ index presentId, s.threads .app = .running (.recording index presentId)
  | .submitted _ _ next => (∃ index presentId, s.threads .app = .running (.submitting index presentId)) ∧
    Choice s.threads next
  | .takeWork => s.threads .worker = .running .looping
  | .copied _ next => (∃ presentId index, s.threads .worker = .running (.copying presentId index)) ∧
    Choice s.threads next
  | .analyze _ => ∃ presentId, s.threads .worker = .running (.analyzing presentId)
  | .decideFeedback => ∃ entry, s.threads .worker = .running (.feedback entry)
  | .report => ∃ entry, s.threads .worker = .running (.reporting entry)
  | .countFeedback => ∃ entry, s.threads .worker = .running (.counting entry)
  | .leave => s.threads .worker = .running .leaving
  | .input _ _ _ _ => True
  | .destroy next => s.threads .app = .running .idle ∧ Choice s.threads next
  | .wake t => (s.threads t).IsBlocked
  | .resume t => ∃ w, s.threads t = .woken w

/-- Presents have ids that grow, timings are returned in the order of the presents, and time passes between
two rounds of the input. -/
def Timely (s : LatencySwapchain) : LatencyEvent → Prop
  | .poll timing _ => ∀ earlier ∈ s.timings, earlier.presentId < timing.presentId
  | .present _ _ presentId => s.internalPresentId < s.presentIdFor presentId
  | .submitted _ now _ => s.clock ≤ now
  | .input now later _ _ => s.clock < now ∧ now ≤ later
  | _ => True

def Legal (s : LatencySwapchain) (e : LatencyEvent) : Prop := s.Possible e ∧ s.Timely e

end LatencySwapchain

end PyroFling
