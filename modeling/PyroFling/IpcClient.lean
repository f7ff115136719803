import PyroFling.Library.Monitor
import PyroFling.Library.Runs
import PyroFling.Messages

/-!
# The client of the message socket

`ipc/client.cpp`. Any number of threads wait for replies on one socket. One of them at a time is the
socket master, which polls the socket with the mutex released and processes what has arrived; the
others wait for it at a condition variable. A section that holds the mutex is one step.
-/

namespace PyroFling

open Monitor

/-- A `std::function`, which may be empty, with the number of the registration that stored it. -/
structure SerialHandler where
  registration : Nat
  callable : Bool
  deriving DecidableEq

structure IpcClient where
  sendSerial : BitVec 64 := 0
  receivedReplies : BitVec 64 := 0
  handlers : BitVec 64 → Option SerialHandler := fun _ => none
  defaultHandler : Bool := false
  eventHandler : Bool := false
  hasSocketMaster : Bool := false
  socketMasterError : Bool := false
  processCount : BitVec 64 := 0

/-- A message that answers a request and is no event. -/
def Message.IsReply (m : Message) : Prop := m.serial ≠ 0 ∧ m.type.value &&& messageEventFlag = 0

instance (m : Message) : Decidable m.IsReply := inferInstanceAs (Decidable (_ ∧ _))

/-- What `::poll` found and, if there was a packet, what the handler called with it returned. -/
inductive PollResult
  | failed
  | quiet
  | readable (packet : SocketPacket) (accepted : Bool)
  deriving DecidableEq

def PollResult.message : PollResult → Option Message
  | .readable packet _ => parseMessage packet
  | _ => none

namespace IpcClient

/-- The reply with the expected serial goes to the handler of the serial, which is then dropped, or
to the default handler. A handler that refuses it stays. -/
def dispatchReply (c : IpcClient) (serial : BitVec 64) (accepted : Bool) : IpcClient × Bool :=
  match c.handlers serial with
  | some handler =>
    if handler.callable ∧ ¬accepted then (c, false)
    else ({ c with handlers := Function.update c.handlers serial none }, true)
  | none => (c, !(c.defaultHandler && !accepted))

def process (c : IpcClient) (msg : Option Message) (accepted : Bool) : IpcClient × Bool :=
  match msg with
  | none => (c, false)
  | some m =>
    if m.serial = 0 then
      if m.type.value &&& messageEventFlag = 0 then (c, false)
      else (c, !(c.eventHandler && !accepted))
    else if m.type.value &&& messageEventFlag ≠ 0 then (c, false)
    else
      let c := { c with receivedReplies := c.receivedReplies + 1 }
      if m.serial ≠ c.receivedReplies then (c, false)
      else c.dispatchReply m.serial accepted

/-- The socket master after `::poll` has returned. -/
def polled (c : IpcClient) : PollResult → IpcClient
  | .failed => { c with socketMasterError := true }
  | .quiet => c
  | .readable packet accepted =>
    let (c, ok) := c.process (parseMessage packet) accepted
    if ok then { c with processCount := c.processCount + 1 }
    else { c with socketMasterError := true }

/-- What `wait_reply` returns. -/
def waitResult (c : IpcClient) (currentCount : BitVec 64) : Int :=
  if currentCount ≠ c.processCount then 1 else if c.socketMasterError then -1 else 0

/-- The number of the registration whose handler `process` calls with the message. -/
def invocation (c : IpcClient) (m : Message) : Option Nat :=
  if m.IsReply ∧ m.serial = c.receivedReplies + 1 then
    (c.handlers m.serial).bind fun h => if h.callable then some h.registration else none
  else none

/-- A handler is called with the reply. -/
def consults (c : IpcClient) (serial : BitVec 64) : Bool :=
  match c.handlers serial with
  | some handler => handler.callable
  | none => c.defaultHandler

/-- `process` was run and succeeded. -/
def succeeded (c : IpcClient) : PollResult → Bool
  | .readable packet accepted => (c.process (parseMessage packet) accepted).2
  | _ => false

end IpcClient

/-- A function that waits for the socket. `timed` is `timeout_ms >= 0`. -/
inductive WaitCall
  | waitReply (timed : Bool)
  | waitReplyForSerial (serial : BitVec 64)
  | roundtrip
  deriving DecidableEq

def WaitCall.timed : WaitCall → Bool
  | .waitReply timed => timed
  | _ => false

/-- A call of `wait_reply`, on behalf of `call`. `since` is how often `process` had succeeded when it
was made. -/
structure ReplyWait where
  call : WaitCall
  currentCount : BitVec 64
  since : Nat
  deriving DecidableEq

/-- `wait_reply` returned `ret`, after `process` had succeeded `now` times. -/
structure WaitReturn where
  ret : Int
  since : Nat
  now : Nat
  deriving DecidableEq

/-- A client with the threads that use it and what has happened so far: the registered and the called
handlers, the replies with whether they were accepted, and what the calls returned. A thread outside
the condition variable is the socket master or has no call under way. -/
structure IpcSession where
  client : IpcClient := {}
  threads : Nat → Thread (Option ReplyWait) ReplyWait := fun _ => .running none
  sent : Nat := 0
  registered : List (BitVec 64) := []
  invoked : List (Nat × BitVec 64) := []
  replies : List (BitVec 64 × Bool) := []
  successes : Nat := 0
  returns : List WaitReturn := []
  outcomes : List (Nat × Bool) := []

namespace IpcSession

/-- `send_message_raw`, if the socket took the message. -/
def sendMessageRaw (s : IpcSession) (delivered : Bool) : IpcSession :=
  if delivered then
    { s with client := { s.client with sendSerial := s.client.sendSerial + 1 }, sent := s.sent + 1 }
  else s

def setSerialHandler (s : IpcSession) (serial : BitVec 64) (callable : Bool) : IpcSession :=
  let handler : SerialHandler := { registration := s.registered.length, callable := callable }
  { s with
    client := { s.client with handlers := Function.update s.client.handlers serial (some handler) }
    registered := s.registered ++ [serial] }

/-- The serial up to which the caller's own loop waits for replies. -/
def target (s : IpcSession) : WaitCall → Option (BitVec 64)
  | .waitReply _ => none
  | .waitReplyForSerial serial => some serial
  | .roundtrip => some s.client.sendSerial

/-- How many replies the caller relies on when it is told that they have come. -/
def expects (s : IpcSession) : WaitCall → Option Nat
  | .waitReply _ => none
  | .waitReplyForSerial serial => some serial.toNat
  | .roundtrip => some s.sent

def setThread (s : IpcSession) (t : Nat) (thread : Thread (Option ReplyWait) ReplyWait) : IpcSession :=
  { s with threads := Function.update s.threads t thread }

/-- The call is over. -/
def finish (s : IpcSession) (t : Nat) (call : WaitCall) (ok : Bool) : IpcSession :=
  { s.setThread t (.running none) with
    outcomes := s.outcomes ++ (s.expects call).toList.map fun n => (n, ok) }

/-- The body of the loop of `wait_reply`, up to the point where the mutex is released. -/
def claim (s : IpcSession) (t : Nat) (w : ReplyWait) : IpcSession :=
  if s.client.hasSocketMaster then s.setThread t (.blocked w)
  else { s.setThread t (.running (some w)) with client := { s.client with hasSocketMaster := true } }

def logReturn (s : IpcSession) (w : ReplyWait) (ret : Int) : IpcSession :=
  { s with returns := s.returns ++ [{ ret := ret, since := w.since, now := s.successes }] }

/-- `wait_reply` is called. After an error it returns at once. -/
def waitReply (s : IpcSession) (t : Nat) (call : WaitCall) : IpcSession :=
  let w : ReplyWait := { call := call, currentCount := s.client.processCount, since := s.successes }
  if s.client.socketMasterError then
    (s.logReturn w (s.client.waitResult w.currentCount)).finish t call false
  else s.claim t w

/-- The loop of `wait_reply_for_serial` and `roundtrip`. -/
def callerLoop (s : IpcSession) (t : Nat) (call : WaitCall) : IpcSession :=
  match s.target call with
  | none => s.waitReply t call
  | some serial =>
    if s.client.receivedReplies < serial then s.waitReply t call else s.finish t call true

/-- `wait_reply` returns `ret` to the function that called it. -/
def returned (s : IpcSession) (t : Nat) (w : ReplyWait) (ret : Int) : IpcSession :=
  let s := s.logReturn w ret
  if ret ≤ 0 then s.finish t w.call false
  else
    match w.call with
    | .waitReply _ => s.finish t w.call true
    | _ => s.callerLoop t w.call

/-- The end of `wait_reply`, when the thread is not the socket master or no longer. -/
def leave (s : IpcSession) (t : Nat) (w : ReplyWait) : IpcSession :=
  s.returned t w (s.client.waitResult w.currentCount)

/-- The socket master has taken the lock again, processes what has arrived, and gives up the socket:
one thread is woken after a `quiet` poll, and all of them after anything else. -/
def releaseSocket (s : IpcSession) (w : ReplyWait) (result : PollResult) (next : Nat) : IpcSession :=
  let client := s.client.polled result
  let invoked := result.message.bind fun m => (s.client.invocation m).map fun i => (i, m.serial)
  let reply := (result.message.filter fun m => m.IsReply).map fun m => (m.serial, s.client.succeeded result)
  { s with
    client := { client with hasSocketMaster := false }
    threads :=
      if client.waitResult w.currentCount ≠ 0 then notifyAll s.threads else notifyOne s.threads next
    invoked := s.invoked ++ invoked.toList
    replies := s.replies ++ reply.toList
    successes := if s.client.succeeded result then s.successes + 1 else s.successes }

end IpcSession

/-- A step of the environment or of a thread with the mutex. `wake` takes a thread out of the wait
without a notification, because its deadline has passed or for no reason. -/
inductive IpcEvent
  | sendMessageRaw (delivered : Bool)
  | setSerialHandler (serial : BitVec 64) (callable : Bool)
  | setDefaultSerialHandler (callable : Bool)
  | setEventHandler (callable : Bool)
  | call (t : Nat) (call : WaitCall)
  | polled (t : Nat) (result : PollResult) (next : Nat)
  | wake (t : Nat)
  | resume (t : Nat) (timedOut : Bool)
  deriving DecidableEq

namespace IpcSession

def step (s : IpcSession) : IpcEvent → IpcSession
  | .sendMessageRaw delivered => s.sendMessageRaw delivered
  | .setSerialHandler serial callable => s.setSerialHandler serial callable
  | .setDefaultSerialHandler callable => { s with client := { s.client with defaultHandler := callable } }
  | .setEventHandler callable => { s with client := { s.client with eventHandler := callable } }
  | .call t call => s.callerLoop t call
  | .polled t result next =>
    match s.threads t with
    | .running (some w) => (s.releaseSocket w result next).leave t w
    | _ => s
  | .wake t => s.setThread t (s.threads t).wake
  | .resume t timedOut =>
    match s.threads t with
    | .woken w =>
      if ¬timedOut ∧ w.currentCount = s.client.processCount ∧ ¬s.client.socketMasterError then s.claim t w
      else s.leave t w
    | _ => s

/-- What the mutex, the condition variable and the assertions allow. Only a wait with a deadline
reports a timeout, notified or not. -/
def Legal (s : IpcSession) : IpcEvent → Prop
  | .setSerialHandler serial _ => serial ≠ 0
  | .call t _ => s.threads t = .running none
  | .polled t _ next => (∃ w, s.threads t = .running (some w)) ∧ Choice s.threads next
  | .wake t => (s.threads t).IsBlocked
  | .resume t timedOut => ∃ w, s.threads t = .woken w ∧ (timedOut → w.call.timed)
  | _ => True

def run (es : List IpcEvent) : IpcSession := es.foldl step {}

end IpcSession

end PyroFling
