import PyroFling.Library.Runs
import PyroFling.Swapchain

/-!
# The pipelines of the encoder

`src/pyrofling.cpp`. `encode_surface` composes a frame into one of eight pipelines, which it takes in turn, and
leaves it to a task to encode it from there. A pipeline is free again once the task has run. The tasks run on
other threads, one after the other.
-/

namespace PyroFling

/-- A frame that is composed: whether all frames that its pipeline held before have been encoded, and whether
the caller did not look. -/
structure PipelineUse where
  slot : Nat
  free : Bool
  unguarded : Bool
  deriving DecidableEq

/-- The part of `SwapchainServer` that encodes. Tasks are numbered as they are created, and
`lastEncodeDependency`, a task of its own in the source that only waits for the last one, is the last one.
`slotOf` are the pipelines of the tasks and `finished` the tasks that have run. -/
structure EncodePipeline where
  videoEncode : VideoEncode
  clientRateMultiplier : BitVec 32
  clientHeartbeatCount : BitVec 32 := 0
  encoder : Bool
  handlers : Nat := 0
  nextEncodeTaskSlot : Nat := 0
  encodeTasks : Nat → Option Nat := fun _ => none
  lastEncodeDependency : Option Nat := none
  created : Nat := 0
  dependency : Nat → Option Nat := fun _ => none
  slotOf : Nat → Nat := fun _ => 0
  finished : List Nat := []
  uses : List PipelineUse := []
  calls : Nat := 0

namespace EncodePipeline

def numEncodeTasks : Nat := 8

/-- `main` has called `set_encode_options` and `set_client_rate_multiplier`, and `init_encoder_for_device` has
succeeded. -/
def init (videoEncode : VideoEncode) (clientRateMultiplier : BitVec 32) : EncodePipeline where
  videoEncode := videoEncode
  clientRateMultiplier := clientRateMultiplier
  encoder := true

/-- There is no task in the next slot, or `poll` says that it has run. -/
def polled (s : EncodePipeline) : Bool :=
  match s.encodeTasks s.nextEncodeTaskSlot with
  | none => true
  | some task => s.finished.contains task

/-- All frames that a pipeline held have been encoded. -/
def isFree (s : EncodePipeline) (slot : Nat) : Bool :=
  (List.range s.created).all fun task => s.slotOf task ≠ slot || s.finished.contains task

def resetTask (s : EncodePipeline) : EncodePipeline :=
  { s with encodeTasks := Function.update s.encodeTasks s.nextEncodeTaskSlot none }

/-- `encode_surface` from the composition on. -/
def compose (s : EncodePipeline) (unguarded : Bool) : EncodePipeline :=
  { s with
    uses := s.uses ++ [{
      slot := s.nextEncodeTaskSlot, free := s.isFree s.nextEncodeTaskSlot, unguarded := unguarded }]
    encodeTasks := Function.update s.encodeTasks s.nextEncodeTaskSlot (some s.created)
    slotOf := Function.update s.slotOf s.created s.nextEncodeTaskSlot
    dependency := Function.update s.dependency s.created s.lastEncodeDependency
    lastEncodeDependency := some s.created
    created := s.created + 1
    nextEncodeTaskSlot := (s.nextEncodeTaskSlot + 1) % numEncodeTasks }

def encodeSurface (s : EncodePipeline) (unguarded : Bool) : EncodePipeline :=
  let s := { s with calls := s.calls + 1, clientHeartbeatCount := s.clientHeartbeatCount + 1 }
  if s.clientRateMultiplier ≤ s.clientHeartbeatCount then
    let s := { s with clientHeartbeatCount := 0 }
    if s.encoder then s.compose unguarded else s
  else s

/-- If the threads of the encoder are busy, the frame is left out. -/
def notifyAsyncSurface (s : EncodePipeline) : EncodePipeline :=
  if !s.videoEncode.immediate then s
  else if !s.polled then s
  else s.resetTask.encodeSurface false

/-- `handled` says that no heartbeat of a handler failed. In immediate mode nobody looks at the task. -/
def heartbeat (s : EncodePipeline) (handled : Bool) : EncodePipeline :=
  if !s.videoEncode.immediate && !s.polled then s
  else
    let s := if s.videoEncode.immediate then s else s.resetTask
    if !handled then s
    else if !s.videoEncode.pipewire && (!s.videoEncode.immediate || s.handlers = 0) then
      s.encodeSurface s.videoEncode.immediate
    else s

end EncodePipeline

/-- `register` and `unregister` are clients that come and go, `image` is an image of PipeWire, which nobody looks
at the task for either, and `finish` a task that has run. -/
inductive EncodeEvent
  | register
  | unregister
  | notify
  | heartbeat (handled : Bool)
  | image
  | finish (task : Nat)
  deriving DecidableEq

namespace EncodePipeline

def step (s : EncodePipeline) : EncodeEvent → EncodePipeline
  | .register => { s with handlers := s.handlers + 1 }
  | .unregister => { s with handlers := s.handlers - 1 }
  | .notify => s.notifyAsyncSurface
  | .heartbeat handled => s.heartbeat handled
  | .image => s.encodeSurface true
  | .finish task => { s with finished := s.finished ++ [task] }

/-- Images come from PipeWire, and a task runs once, after what it depends on. -/
def Legal (s : EncodePipeline) : EncodeEvent → Prop
  | .register | .heartbeat _ | .notify => True
  | .unregister => 0 < s.handlers
  | .image => s.videoEncode.pipewire = true
  | .finish task => task < s.created ∧ task ∉ s.finished ∧ ∀ before ∈ s.dependency task, before ∈ s.finished

instance (s : EncodePipeline) : (e : EncodeEvent) → Decidable (s.Legal e)
  | .register | .heartbeat _ | .notify => .isTrue trivial
  | .unregister => inferInstanceAs (Decidable (0 < s.handlers))
  | .image => inferInstanceAs (Decidable (s.videoEncode.pipewire = true))
  | .finish task =>
    inferInstanceAs (Decidable (task < s.created ∧ task ∉ s.finished ∧
      ∀ before ∈ s.dependency task, before ∈ s.finished))

end EncodePipeline

end PyroFling
