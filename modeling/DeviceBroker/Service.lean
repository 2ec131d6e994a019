import DeviceBroker.Worker

/-!
# `Service` — all connections on one device

The device is shared by every connection, and so is the registry. A service changes when a connection is
handed to a thread, when one of the threads does its next deed, when all running sessions are cancelled,
and when an identity is given out without a session. An interleaving of all this is a list of moves.

Cancelling shuts the connections of the registered sessions down. Their threads are not stopped by it:
they find the end of the stream and do their remaining deeds themselves.

## Contents

* `Service`, `Service.hand`, `Service.work?`, `Service.cancelAll`, `Service.allocate`.
* `Service.Move`, `Service.step?`, `Service.replay?` — interleavings.
-/

namespace DeviceBroker

/-- The connections on a device. -/
structure Service where
  device : Device
  registry : Registry := {}
  /-- The threads, numbered in the order in which they were started. -/
  workers : List Worker := []
  deriving Repr, DecidableEq

namespace Service

/-- Hands a connection to a thread. -/
def hand (service : Service) (connection : Nat) : Service :=
  { service with workers := service.workers ++ [{ connection }] }

/-- **The next deed** of one thread, if there is such a thread and the deed is its to do. -/
def work? (service : Service) (index : Nat) (deed : Worker.Deed) :
    Option (Service × List LogRecord) :=
  match service.workers[index]? with
  | none => none
  | some worker =>
    match worker.perform? index service.device service.registry deed with
    | none => none
    | some outcome =>
      some
        ({ device := outcome.device, registry := outcome.registry,
           workers := service.workers.set index outcome.worker },
          outcome.log)

/-- **Cancels** the registered sessions that can be, and tells how many those were. -/
def cancelAll (service : Service) : Nat × Service :=
  let handles := service.registry.handles
  (handles.length,
    { service with
      workers := service.workers.mapIdx fun index worker =>
        if handles.contains index then { worker with cancelled := true } else worker })

/-- Gives out an identity without a session. -/
def allocate (service : Service) : SessionId × Service :=
  let (id, registry) := service.registry.allocate
  (id, { service with registry })

/-- What changes a service. -/
inductive Move where
  /-- A connection is handed to a thread. -/
  | hand (connection : Nat)
  /-- A thread does something. -/
  | work (worker : Nat) (deed : Worker.Deed)
  /-- All running sessions are cancelled. -/
  | cancelAll
  /-- An identity is given out without a session. -/
  | allocate
  deriving Repr, DecidableEq

/-- **One move**, if it is possible now. -/
def step? (service : Service) : Move → Option Service
  | .hand connection => some (service.hand connection)
  | .work worker deed => (service.work? worker deed).map (·.1)
  | .cancelAll => some service.cancelAll.2
  | .allocate => some service.allocate.2

/-- **An interleaving**: all moves in order, if each is possible when it is made. -/
def replay? (service : Service) (moves : List Move) : Option Service :=
  moves.foldlM step? service

end Service

end DeviceBroker
