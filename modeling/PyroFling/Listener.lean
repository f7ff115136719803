import Mathlib

/-!
# The dispatcher

`ipc/listener.cpp`: the event loop that every connection of the server is registered with. What
handlers do is not modelled here: the calls a handler makes, what it returns and the flags of an
event are inputs. The epoll set is the list of the descriptors of connections in it; the sockets
that are listened on stay in it for good and are left out.
-/

namespace PyroFling

/-- A handler object. When a sentinel ends, so does the dispatcher. -/
structure Handler where
  ref : Nat
  isSentinel : Bool := false
  deriving DecidableEq

structure Connection where
  /-- The address of the object, which epoll hands back with every event. -/
  key : Nat
  fd : Nat
  id : Nat := 0
  handler : Option Handler := none
  deriving DecidableEq

def Connection.isSentinel (c : Connection) : Bool := c.handler.any Handler.isSentinel

structure Dispatcher where
  connections : List Connection := []
  cancellations : List Connection := []
  registered : List Nat := []
  /-- Whether `pollfd` is open. -/
  isOpen : Bool := true
  /-- The address of the next connection. -/
  nextKey : Nat := 0
  /-- The connections that have been destroyed, the last one first. Nothing reads it. -/
  removed : List Nat := []
  deriving DecidableEq

/-- A call that a handler makes. Whether the kernel accepts a new descriptor is not up to it. -/
inductive Action
  | add (fd : Nat) (handler : Handler) (id : Nat) (accepted : Bool)
  | cancel (handler : Nat) (id : Nat)

/-- An event with all that it leads to outside of the dispatcher. -/
inductive PollEvent
  | datagram (actions : List Action)
  /-- A client connects; there is no descriptor if `accept` fails. -/
  | client (fd : Option Nat) (accepted : Bool)
  /-- A connection with its HUP flag, the calls its handler makes and the result. If the connection
  has no handler, the factory may make calls and then assign one. -/
  | ready (key : Nat) (hup : Bool) (registering : List Action) (assigned : Option Handler)
      (actions : List Action) (result : Bool)

/-- How the loop over a batch is left. -/
inductive Exit
  | goesOn
  | sentinelEnded
  /-- `EPOLL_CTL_DEL` failed. -/
  | epollFailed
  | danglingPointer
  | closed
  deriving DecidableEq

namespace Dispatcher

/-- `EPOLL_CTL_DEL`, which fails for a descriptor that is not registered. -/
def deregister (d : Dispatcher) (fd : Nat) : Option Dispatcher :=
  if fd ∈ d.registered then some { d with registered := d.registered.erase fd } else none

/-- `EPOLL_CTL_ADD` fails for a descriptor that is registered already. -/
def register (d : Dispatcher) (fd : Nat) (handler : Option Handler) (id : Nat) (accepted : Bool) :
    Dispatcher :=
  if accepted ∧ fd ∉ d.registered then
    { d with
      connections := d.connections ++ [{ key := d.nextKey, fd := fd, id := id, handler := handler }]
      registered := d.registered ++ [fd]
      nextKey := d.nextKey + 1 }
  else d

def addConnection (d : Dispatcher) (fd : Nat) (handler : Handler) (id : Nat) (accepted : Bool) :
    Dispatcher := d.register fd (some handler) id accepted

/-- Moves a connection to the cancellations; the last connection takes its place. -/
def cancelConnection (d : Dispatcher) (handler id : Nat) : Dispatcher :=
  let i := d.connections.findIdx fun c => c.handler.map Handler.ref = some handler && c.id = id
  match d.connections[i]?, d.connections.getLast? with
  | some c, some last =>
    { d with
      cancellations := d.cancellations ++ [c]
      connections := (d.connections.set i last).dropLast }
  | _, _ => d

def act (d : Dispatcher) : Action → Dispatcher
  | .add fd handler id accepted => d.addConnection fd handler id accepted
  | .cancel handler id => d.cancelConnection handler id

def actAll (d : Dispatcher) (actions : List Action) : Dispatcher := actions.foldl act d

/-- All connections that exist. -/
def live (d : Dispatcher) : List Connection := d.connections ++ d.cancellations

/-- A newly registered handler is stored in the connection. -/
def setHandler (d : Dispatcher) (key : Nat) (handler : Option Handler) : Dispatcher :=
  let update := fun c : Connection => if c.key = key then { c with handler := handler } else c
  { d with connections := d.connections.map update, cancellations := d.cancellations.map update }

/-- Takes a connection out of the epoll set and destroys it, if it is found among the
connections. -/
def hangUp (d : Dispatcher) (c : Connection) : Exit × Dispatcher :=
  match d.deregister c.fd with
  | none => (.epollFailed, d)
  | some d =>
    let d :=
      if d.connections.any (fun x => x.key = c.key) then
        { d with
          connections := d.connections.eraseP fun x => x.key = c.key
          removed := c.key :: d.removed }
      else d
    (if c.isSentinel then .sentinelEnded else .goesOn, d)

/-- Calls the handler of a connection, or the factory if there is none. -/
def callHandler (d : Dispatcher) (c : Connection) (registering : List Action)
    (assigned : Option Handler) (actions : List Action) : Connection × Dispatcher :=
  if c.handler = none then
    ({ c with handler := assigned },
      ((d.actAll registering).setHandler c.key assigned).actAll actions)
  else (c, d.actAll actions)

/-- The body of the loop over the events. -/
def handleEvent (d : Dispatcher) : PollEvent → Exit × Dispatcher
  | .datagram actions => (.goesOn, d.actAll actions)
  | .client fd accepted =>
    match fd with
    | some fd => (.goesOn, d.register fd none 0 accepted)
    | none => (.goesOn, d)
  | .ready key hup registering assigned actions result =>
    match d.live.find? fun c => c.key = key with
    | none => (.danglingPointer, d)
    | some c =>
      if hup then d.hangUp c
      else
        let (c, d) := d.callHandler c registering assigned actions
        if result then (.goesOn, d) else d.hangUp c

def handleEvents : Dispatcher → List PollEvent → Exit × Dispatcher
  | d, [] => (.goesOn, d)
  | d, e :: events =>
    match d.handleEvent e with
    | (.goesOn, d) => handleEvents d events
    | r => r

/-- The loop over the cancellations. -/
def cleanUp : List Connection → Bool → Dispatcher → Exit × Dispatcher
  | [], isSentinel, d => (if isSentinel then .sentinelEnded else .goesOn, d)
  | c :: cs, isSentinel, d =>
    match d.deregister c.fd with
    | none => (.epollFailed, d)
    | some d =>
      cleanUp cs (isSentinel || c.isSentinel)
        { d with cancellations := cs, removed := c.key :: d.removed }

/-- `none` stands for a wait that was interrupted by a signal. -/
def iterateInner (d : Dispatcher) (batch : Option (List PollEvent)) : Exit × Dispatcher :=
  if !d.isOpen then (.closed, d)
  else
    match batch with
    | none => (.goesOn, d)
    | some events =>
      match d.handleEvents events with
      | (.goesOn, d) => cleanUp d.cancellations false d
      | r => r

/-- When the loop is left all connections are dropped. -/
def iterate (d : Dispatcher) (batch : Option (List PollEvent)) : Bool × Dispatcher :=
  match d.iterateInner batch with
  | (.goesOn, d) => (true, d)
  | (_, d) => (false, { d with
      isOpen := false, connections := [], cancellations := [], registered := []
      removed := d.live.map Connection.key ++ d.removed })

/-- The constructor: a signalfd and an eventfd, both with sentinels. -/
def new (signalfd eventfd : Nat) : Dispatcher :=
  (register (register {} signalfd (some { ref := 0, isSentinel := true }) 0 true)
    eventfd (some { ref := 1, isSentinel := true }) 0 true)

end Dispatcher

end PyroFling
