import PyroFling.Capture
import PyroFling.Vulkan

/-!
# The chains of the application

`QueuePresentKHR` and `CreateSwapchainKHR` of `capture-layer/capture_layer.cpp`. If the server decides
when frames are shown, both change structures of the application for the call of the next layer. What
the calls of Vulkan and the surfaces return is an input, and they change no structure.
-/

namespace PyroFling
open LinkedList

/-- `VkPresentInfoKHR`. -/
structure PresentInfo where
  pNext : Option Address
  waitSemaphores : List (BitVec 64) := []
  swapchains : List (BitVec 64) := []
  imageIndices : Nat → BitVec 32 := fun _ => 0

/-- What `QueuePresentKHR` gets from its calls: whether the present is one for the layer, and the
results of the submission for each semaphore, of `Device::present` for each swapchain, of the submission
that signals the semaphores again, and of the next layer. -/
structure PresentResults where
  requiresWrap : Bool := true
  wait : Nat → VkResult := fun _ => VkResult.success
  present : Nat → VkResult := fun _ => VkResult.success
  signal : VkResult := VkResult.success
  queuePresent : VkResult := VkResult.success

/-- The arguments of `Device::present`. -/
structure PresentCall where
  swapchain : BitVec 64
  index : BitVec 32
  presentId : BitVec 64
  presentMode : Option (BitVec 64)
  deriving DecidableEq

/-- What is left of a call: its result, the memory, the calls of `Device::present`, and the chain that the
next layer has got if it has been called. -/
structure PresentOutcome where
  result : VkResult
  memory : AppMemory
  presents : List PresentCall := []
  passedDown : Option (Option Address × AppMemory) := none

/-- The first call of a loop that fails. It ends the loop. -/
def firstFailure (results : Nat → VkResult) (count : Nat) : Option Nat :=
  (List.range count).find? fun i => results i ≠ VkResult.success

namespace AppMemory

/-- All pointers of a chain, with that of the info at its head. -/
def links (m : AppMemory) (pNext : Option Address) : Links Address := { head := pNext, next := m.next }

/-- A store to a pointer of a chain, of which the head is a member of the layer's own info. -/
def setLink (m : AppMemory) (pNext target : Option Address) : LinkedList.Link Address → Option Address × AppMemory
  | .head => (target, m)
  | .next a => (pNext, m.write a { m.structures a with pNext := target })

/-- The present id of the swapchain `i`. -/
def presentId (m : AppMemory) (id id2 : Option Address) (i : Nat) : BitVec 64 :=
  match id2, id with
  | some a, _ | none, some a =>
    if i < (m.structures a).count.toNat then m.arrays (m.structures a).array i else 0
  | none, none => 0

end AppMemory

def presentCall (m : AppMemory) (info : PresentInfo) (id id2 mode : Option Address) (i : Nat) : PresentCall where
  swapchain := info.swapchains.getD i 0
  index := info.imageIndices i
  presentId := m.presentId id id2 i
  presentMode := mode.map fun a => m.arrays (m.structures a).array i

/-- `QueuePresentKHR` after it has taken the present mode out of the chain. `link` is where the pointer to
it was. -/
def presentAll (m : AppMemory) (pNext : Option Address) (info : PresentInfo) (results : PresentResults)
    (call : Nat → PresentCall) (mode : Option Address) (link : Option (LinkedList.Link Address)) : PresentOutcome :=
  match firstFailure results.present info.swapchains.length with
  | some i => { result := results.present i, memory := m, presents := (List.range (i + 1)).map call }
  | none =>
    let presents := (List.range info.swapchains.length).map call
    if info.waitSemaphores ≠ [] ∧ results.signal ≠ VkResult.success then
      { result := results.signal, memory := m, presents := presents }
    else
      { result := results.queuePresent
        memory := link.elim m fun link => (m.setLink pNext mode link).2
        presents := presents
        passedDown := some (pNext, m) }

def queuePresent (fuel : Nat) (syncMode : SyncMode) (m : AppMemory) (info : PresentInfo)
    (results : PresentResults) : Option PresentOutcome :=
  if results.requiresWrap then
    match firstFailure results.wait info.waitSemaphores.length with
    | some i => some { result := results.wait i, memory := m }
    | none => do
      let id ← m.findChain fuel info.pNext StructureType.presentId
      let id2 ← m.findChain fuel info.pNext StructureType.presentId2
      let mode ← m.findChain fuel info.pNext StructureType.swapchainPresentModeInfo
      let call := presentCall m info id id2 mode
      if mode.isSome ∧ syncMode = .server then
        let (link, found) ←
          findLink m.next (m.hasType StructureType.swapchainPresentModeInfo) fuel .head info.pNext
        -- the walk stops at the structure that has been found
        let (pNext, m) := found.elim (info.pNext, m) fun a => m.setLink info.pNext (m.next a) link
        some (presentAll m pNext info results call mode (some link))
      else some (presentAll m info.pNext info results call mode none)
  else some { result := results.queuePresent, memory := m, passedDown := some (info.pNext, m) }

/-- `VkSwapchainCreateInfoKHR`. -/
structure SwapchainCreateInfo where
  pNext : Option Address
  minImageCount : BitVec 32 := 0
  imageUsage : BitVec 32 := 0
  presentMode : BitVec 32 := 0
  deriving DecidableEq

/-- What `CreateSwapchainKHR` gets from its calls. The image count depends on whether there is a present
mode to ask for. -/
structure CreateResults where
  unlockedPresentMode : BitVec 32 := 0
  minImageCount : Option (BitVec 32) → BitVec 32 := fun _ => 0
  createSwapchain : VkResult := VkResult.success

structure CreateOutcome where
  result : VkResult
  memory : AppMemory
  passedDown : SwapchainCreateInfo × AppMemory

/-- `presentMode` is the address of that member of the layer's own info. -/
def createSwapchain (fuel : Nat) (syncMode : SyncMode) (m : AppMemory) (presentMode : Address)
    (pCreateInfo : SwapchainCreateInfo) (results : CreateResults) : Option CreateOutcome :=
  let info := { pCreateInfo with imageUsage := pCreateInfo.imageUsage ||| imageUsageTransferSrcBit }
  if syncMode = .server then do
    let info := { info with presentMode := results.unlockedPresentMode }
    let modes ← m.findChain fuel info.pNext StructureType.swapchainPresentModesCreateInfo
    let patched := modes.elim m fun a => m.write a { m.structures a with count := 1, array := presentMode }
    let count := results.minImageCount (modes.map fun _ => info.presentMode)
    let info := { info with minImageCount := if info.minImageCount < count then count else info.minImageCount }
    let memory :=
      if results.createSwapchain ≠ VkResult.success then patched
      else modes.elim patched fun a => patched.write a (m.structures a)
    some { result := results.createSwapchain, memory := memory, passedDown := (info, patched) }
  else some { result := results.createSwapchain, memory := m, passedDown := (info, m) }

end PyroFling
