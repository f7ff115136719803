import PyroFling.CrossSwapchain

/-!
# The entry points for acquiring an image

`AcquireNextImageKHR` and `AcquireNextImage2KHR` of `cross-wsi-layer/cross_wsi_layer.cpp` on a device
with a sink. A handle is the address of the object it stands for.
-/

namespace PyroFling

namespace CrossSwapchain

/-- The arguments of `acquire`: `UINT64_MAX` stands for no timeout. -/
def acquireCall (timeout semaphore fence : BitVec 64) : AcquireCall where
  timeout := if timeout = BitVec.allOnes 64 then none else some timeout.toNat
  semaphore := semaphore ≠ 0
  fence := fence ≠ 0

/-- The wait of `acquire`, while no other thread goes on. -/
def waitForImage (s : CrossSwapchain) (call : AcquireCall) : CrossSwapchain :=
  let s := s.step (.acquire call)
  match s.threads .app with
  | .blocked _ => if call.timeout.isSome then (s.step (.wake .app)).step (.resume .app true) else s
  | _ => s

/-- `Swapchain::acquire`, step by step, while no other thread goes on: the result, the image index if
it has been written and the new state, unless it waits for ever. -/
def acquire (s : CrossSwapchain) (call : AcquireCall) (results : AcquireResults) :
    Option (VkResult × Option Nat × CrossSwapchain) :=
  let s := ((s.waitForImage call).step (.acquired results)).step (.restored [])
  match s.threads .app with
  | .running .idle => s.returns.getLast?.map fun r => (r.result, r.index, s)
  | _ => none

/-- The members of the object, and what its threads do. -/
def state (s : CrossSwapchain) : CrossSwapchain :=
  { s with held := [], processing := [], sink := [], returns := [] }

end CrossSwapchain

/-- `VkAcquireNextImageInfoKHR`. There is one physical device. -/
structure AcquireNextImageInfo where
  swapchain : BitVec 64
  timeout : BitVec 64
  semaphore : BitVec 64
  fence : BitVec 64
  deriving DecidableEq

/-- The swapchains of a device by their addresses. -/
structure CrossDevice where
  swapchains : BitVec 64 → Option CrossSwapchain

/-- How a call ends: there is no swapchain at the address, it waits for other threads of that swapchain,
or it returns and leaves the swapchains as they are then. -/
inductive AcquireOutcome
  | undefined (address : BitVec 64)
  | waits (address : BitVec 64)
  | returns (result : VkResult) (index : Option Nat) (swapchains : BitVec 64 → Option CrossSwapchain)

namespace CrossDevice

/-- `Swapchain::acquire` of the object at an address. `results` is what the Vulkan calls return for the
objects of each swapchain. -/
def acquireAt (d : CrossDevice) (address timeout semaphore fence : BitVec 64)
    (results : BitVec 64 → AcquireResults) : AcquireOutcome :=
  match d.swapchains address with
  | none => .undefined address
  | some s =>
    match s.acquire (CrossSwapchain.acquireCall timeout semaphore fence) (results address) with
    | none => .waits address
    | some (result, index, s) => .returns result index fun a =>
      (Function.update d.swapchains address (some s) a).map CrossSwapchain.state

def acquireNextImage (d : CrossDevice) (swapchain timeout semaphore fence : BitVec 64)
    (results : BitVec 64 → AcquireResults) : AcquireOutcome :=
  d.acquireAt swapchain timeout semaphore fence results

/-- The swapchain is taken from the semaphore. -/
def acquireNextImage2 (d : CrossDevice) (info : AcquireNextImageInfo)
    (results : BitVec 64 → AcquireResults) : AcquireOutcome :=
  d.acquireAt info.semaphore info.timeout info.semaphore info.fence results

end CrossDevice

end PyroFling
