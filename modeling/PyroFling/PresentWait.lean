import PyroFling.Capture

/-!
# Waiting for presents

A surface of the capture layer between its application, which may give its presents an id and wait for
it, and the server, which says up to which present it is done.
-/

namespace PyroFling

/-- A surface and what its application has asked for. `presents` are the presents of the swapchain to the
image group, `lastKHRPresentId` is the last present id of the application, of any swapchain. -/
structure PresentWait where
  surface : SurfaceState := {}
  presents : List WaitPair := []
  lastKHRPresentId : Nat := 0

inductive PresentWaitEvent
  /-- `processPresent` sends the image that it has acquired. An application that does not wait has 0 for
  its id. -/
  | present (i : Nat) (mode : SyncMode) (isFifo : Bool) (khrPresentId : Nat)
  /-- The client handles a message. -/
  | receive (m : ServerMessage)
  /-- The connection is lost and found again. -/
  | reconnect
  | setActiveSwapchain (numImages : Option Nat)

namespace PresentWait

def step (s : PresentWait) : PresentWaitEvent → PresentWait
  | .present i mode isFifo khrPresentId =>
    let (present, surface) := s.surface.processPresent i mode isFifo khrPresentId
    { surface := surface
      presents := s.presents ++ [{ pyroPresentId := present.id, khrPresentId := khrPresentId }]
      lastKHRPresentId := max s.lastKHRPresentId khrPresentId }
  | .receive m => { s with surface := (s.surface.process m).2 }
  | .reconnect => { s with surface := s.surface.initClient, presents := [] }
  | .setActiveSwapchain numImages =>
    { s with surface := s.surface.setActiveSwapchain numImages, presents := [] }

/-- The present ids of the application increase, and the server is done with presents of the client, one
after the other. -/
def Legal (s : PresentWait) : PresentWaitEvent → Prop
  | .present _ _ _ khrPresentId => khrPresentId ≠ 0 → s.lastKHRPresentId < khrPresentId
  | .receive (.frameComplete serial _ presentedId _) => serial = s.surface.imageGroupSerial →
    s.surface.completePresentId ≤ presentedId ∧ 0 < presentedId ∧ presentedId ≤ s.surface.presentId
  | _ => True

end PresentWait

end PyroFling
