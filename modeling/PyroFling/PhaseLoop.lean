import Mathlib

/-!
# The phase loop of the heartbeat

`HeartbeatHandler::update_loop` in `pyrofling.cpp`: the timer of the heartbeat is nudged towards the
phase that the client of the stream asks for. A counter of ticks says how far the interval is from its
base.
-/

namespace PyroFling

/-- A `timespec`. -/
structure Timespec where
  tvSec : BitVec 64 := 0
  tvNsec : BitVec 64 := 0
  deriving DecidableEq

/-- What `timerfd_settime` is called with. -/
structure Itimerspec where
  itValue : Timespec
  itInterval : Timespec
  deriving DecidableEq

structure PhaseLoop where
  timebaseNs : BitVec 64
  timebaseNsFraction : BitVec 64
  targetIntervalNs : BitVec 64
  tickIntervalOffset : Int := 0
  deriving DecidableEq

namespace PhaseLoop

/-- The constructor. A frame rate of zero ends the program. -/
def new (fps : BitVec 32) : PhaseLoop :=
  let timebaseNs := (1000000000#32 / fps).setWidth 64
  { timebaseNs := timebaseNs
    timebaseNsFraction := timebaseNs / 10000
    targetIntervalNs := timebaseNs }

def respondFactor : BitVec 64 := 60

/-- `now` is the clock and `remaining` what the timer has left. -/
structure Call where
  now : Timespec := {}
  remaining : Timespec := {}
  phaseOffsetUs : BitVec 32
  deriving DecidableEq

def targetTimeNs (c : Call) : BitVec 64 :=
  (c.now.tvSec + c.remaining.tvSec) * 1000000000 + c.now.tvNsec + c.remaining.tvNsec

/-- The first branch: the interval follows the client. `abs` leaves the least `int` as it is. -/
def respond (h : PhaseLoop) (phaseOffsetUs : BitVec 32) (targetTimeNs : BitVec 64) :
    Bool × BitVec 64 × PhaseLoop :=
  if (200#32).slt phaseOffsetUs.abs then
    if (0#32).slt phaseOffsetUs ∧ h.tickIntervalOffset < 50 then
      (true, targetTimeNs + respondFactor * h.timebaseNsFraction, { h with
        tickIntervalOffset := h.tickIntervalOffset + 2
        targetIntervalNs := h.targetIntervalNs + 2 * h.timebaseNsFraction })
    else if phaseOffsetUs.slt 0#32 ∧ -50 < h.tickIntervalOffset then
      (true, targetTimeNs - respondFactor * h.timebaseNsFraction, { h with
        tickIntervalOffset := h.tickIntervalOffset - 2
        targetIntervalNs := h.targetIntervalNs - 2 * h.timebaseNsFraction })
    else (false, targetTimeNs, h)
  else (false, targetTimeNs, h)

/-- The second branch: the interval moves towards its base. -/
def center (h : PhaseLoop) : Bool × PhaseLoop :=
  if 0 < h.tickIntervalOffset then
    (true, { h with
      tickIntervalOffset := h.tickIntervalOffset - 1
      targetIntervalNs := h.targetIntervalNs - h.timebaseNsFraction })
  else if h.tickIntervalOffset < 0 then
    (true, { h with
      tickIntervalOffset := h.tickIntervalOffset + 1
      targetIntervalNs := h.targetIntervalNs + h.timebaseNsFraction })
  else (false, h)

def split (ns : BitVec 64) : Timespec := { tvSec := ns / 1000000000, tvNsec := ns % 1000000000 }

/-- What the timer is set to, if it is set, and the new state. -/
def updateLoop (h : PhaseLoop) (c : Call) : Option Itimerspec × PhaseLoop :=
  let (responds, targetTimeNs, h) := h.respond c.phaseOffsetUs (targetTimeNs c)
  let (centers, h) := h.center
  (if responds || centers then some { itValue := split targetTimeNs, itInterval := split h.targetIntervalNs }
    else none, h)

def step (h : PhaseLoop) (c : Call) : PhaseLoop := (h.updateLoop c).2

end PhaseLoop

end PyroFling
