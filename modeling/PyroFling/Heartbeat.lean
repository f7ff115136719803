import PyroFling.Swapchain

/-!
# The heartbeat of the server

`HeartbeatHandler` in `pyrofling.cpp`: a timer whose handler calls every client once for each period
that has passed. The phase loop is a module of its own.
-/

namespace PyroFling

structure HeartbeatHandler where
  server : SwapchainServer
  timebaseNs : Nat
  /-- Whether `kill` was called for the dispatcher, which ends its loop. -/
  killed : Bool := false

namespace HeartbeatHandler

/-- A result that is false is the end of the dispatcher. -/
def conclude (h : HeartbeatHandler) (r : Bool × SwapchainServer) : Bool × HeartbeatHandler :=
  (r.1, { h with server := r.2, killed := h.killed || !r.1 })

def stalledLoop : Nat → HeartbeatHandler → Bool × HeartbeatHandler
  | 0, h => (true, h)
  | n + 1, h =>
    match h.conclude h.server.heartbeatStalled with
    | (false, h) => (false, h)
    | (true, h) => stalledLoop n h

/-- Of the `timeouts` periods that have passed all but the last one count as stalled. -/
def handle (h : HeartbeatHandler) (timeouts : Nat) (e : EncoderInput) : Bool × HeartbeatHandler :=
  match stalledLoop (timeouts - 1) h with
  | (false, h) => (false, h)
  | (true, h) => h.conclude (h.server.heartbeat h.timebaseNs e)

end HeartbeatHandler

end PyroFling
