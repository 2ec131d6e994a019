import DeviceBroker.Registry
import DeviceBroker.Session

/-!
# `Worker` — the thread of one connection

An accepted connection gets a thread of its own. The thread enters the connection into the registry,
serves its session to the end, gives up the session's claim on the device, and takes the connection out
of the registry again. These deeds come one after the other; what other threads do may happen between
any two of them.

A read hands over a piece of the stream, and then the lines that it completes are served one by one
before anything more is read. How the client's side takes a reply is part of the deed that sends it.

## Contents

* `Worker`, `Worker.Phase` — a thread and how far it has come.
* `Worker.Deed`, `Worker.perform?` — what it does next.
-/

namespace DeviceBroker

namespace Worker

/-- How far the thread of a connection has come. -/
inductive Phase where
  /-- It was started. -/
  | handed
  /-- It waits for its client. -/
  | reading (session : Session)
  /-- It serves the lines that have arrived. -/
  | serving (session : Session)
  /-- Its session is over. -/
  | ended (session : Session) (ending : Session.Ending)
  /-- Its session's claim is given up. -/
  | released (id : SessionId)
  /-- It has left the registry. -/
  | finished (id : SessionId)
  deriving Repr, DecidableEq

/-- The identity that a thread has got. -/
def Phase.id? : Phase → Option SessionId
  | handed => none
  | reading session | serving session | ended session _ => some session.id
  | released id | finished id => some id

/-- What the thread of a connection does. -/
inductive Deed where
  /-- It enters the registry; the obstacle is why its connection cannot be cancelled. -/
  | register (obstacle : Option IoError)
  /-- It reads a piece of the stream. -/
  | deliver (bytes : Bytes)
  /-- It serves the next line, or finds that there is none. The client's side of the stream takes the
      reply as the two plans say. -/
  | serve (writes : List WriteResult) (flushes : List FlushResult)
  /-- It finds the end of the stream. -/
  | hangUp
  /-- It cannot read. -/
  | breakOff (error : IoError)
  /-- It gives up its session's claim. -/
  | release
  /-- It leaves the registry. -/
  | deregister
  deriving Repr, DecidableEq

end Worker

/-- The thread of a connection. -/
structure Worker where
  /-- Which connection it was handed. -/
  connection : Nat
  phase : Worker.Phase := .handed
  /-- Whether its connection was shut down. -/
  cancelled : Bool := false
  /-- What its client was sent. -/
  replies : Bytes := []
  deriving Repr, DecidableEq

namespace Worker

/-- Everything after a deed, and what was logged. -/
structure Outcome where
  worker : Worker
  device : Device
  registry : Registry
  log : List LogRecord := []
  deriving Repr, DecidableEq

/-- The record of a session whose connection cannot be cancelled. -/
def uncancellable (id : SessionId) (error : IoError) : LogRecord :=
  { level := .warn, target := LogRecord.Target.session,
    message := "session cannot be cancelled on shutdown",
    fields := [("session", .text id.label), ("error", .text error.message)] }

/-- The thread with the number `index` enters the registry and opens its session. -/
def enterRegistry (worker : Worker) (index : Nat) (obstacle : Option IoError) (device : Device)
    (registry : Registry) : Outcome :=
  let (id, registry) := registry.enter (if obstacle.isNone then some index else none)
  { worker := { worker with phase := .reading { id } }, device, registry,
    log := (obstacle.map (uncancellable id)).toList ++ (Session.opened id).record?.toList }

/-- The thread after some of its session's work. -/
def afterTurn (worker : Worker) (turn : Session.Turn) (registry : Registry) : Outcome :=
  { worker :=
      { worker with
        phase :=
          match turn.ending with
          | some ending => .ended turn.session ending
          | none => .serving turn.session
        replies := worker.replies ++ turn.effects.flatMap Session.Effect.bytes },
    device := turn.device, registry, log := turn.effects.filterMap Session.Effect.record? }

/-- Serves the next line. If none is complete, what waits may be too long for one; else more is read. -/
def serveNext (worker : Worker) (session : Session) (device : Device) (registry : Registry) :
    Outcome :=
  match session.input.pop? with
  | (some line, input) => worker.afterTurn (Session.handleLine { session with input } device line) registry
  | (none, input) =>
    let session := { session with input }
    { worker :=
        { worker with
          phase :=
            if input.isOverlong then .ended session (.failed (.lineTooLong input.size))
            else .reading session },
      device, registry }

/-- The thread gives up its session's claim and closes the session. -/
def closeSession (worker : Worker) (session : Session) (ending : Session.Ending) (device : Device)
    (registry : Registry) : Outcome :=
  let (device, closing) := session.close device ending
  { worker := { worker with phase := .released session.id }, device, registry,
    log := closing.record?.toList }

/-- **One deed** of the thread with the number `index`, if it is the thread's to do now. -/
def perform? (worker : Worker) (index : Nat) (device : Device) (registry : Registry) (deed : Deed) :
    Option Outcome :=
  match worker.phase, deed with
  | .handed, .register obstacle => some (worker.enterRegistry index obstacle device registry)
  | .reading session, .deliver bytes =>
    if bytes = [] ∨ Session.readSize < bytes.length then none
    else
      let session := { session with input := session.input.push bytes }
      some { worker := { worker with phase := .serving session }, device, registry }
  | .reading session, .hangUp => some (worker.afterTurn (session.endOfStream device) registry)
  | .reading session, .breakOff error =>
    if error.isInterrupted then none
    else some (worker.afterTurn (session.readFailed device error) registry)
  | .serving session, .serve writes flushes =>
    let session := { session with output := { session.output with writes, flushes } }
    some (worker.serveNext session device registry)
  | .ended session ending, .release => some (worker.closeSession session ending device registry)
  | .released id, .deregister =>
    some { worker := { worker with phase := .finished id }, device, registry := registry.leave id }
  | _, _ => none

end Worker

end DeviceBroker
