import DeviceBroker.LaunchError
import DeviceBroker.LogLine
import DeviceBroker.Service

/-!
# `Daemon` — a daemon that runs

Four kinds of threads make up a running daemon. One waits for a signal. One looks whether it shall stop
and, if not, accepts a connection and hands it to a thread of its own; in the end it removes the socket.
Each connection has such a thread. The main thread waits for the first request to stop, tells the accept
loop, waits until that is over, cancels the running sessions, and looks whether they have ended.

A move is one deed of one thread. The order in which the threads take their turns is open, so whatever
holds after every list of moves holds of every run.

## Contents

* `Daemon`, `Daemon.AcceptPhase`, `Daemon.MainPhase` — the state.
* `Daemon.turnAccept`, `Daemon.wake?`, `Daemon.drain?`, … — what the threads do.
* `Daemon.Move`, `Daemon.step?`, `Daemon.replay?` — runs.
-/

namespace DeviceBroker

namespace Daemon

/-- How far the accept loop has come. -/
inductive AcceptPhase where
  /-- It is about to look whether it shall stop. -/
  | looking
  /-- It is about to accept a connection. -/
  | accepting
  /-- It is over. -/
  | ended
  deriving Repr, DecidableEq

/-- How far the main thread has come. -/
inductive MainPhase where
  /-- It waits for a request to stop. -/
  | waiting
  /-- It has the first request. -/
  | stopping (reason : ShutdownReason)
  /-- It has told the accept loop to stop. -/
  | joining (reason : ShutdownReason)
  /-- The accept loop is over. -/
  | cancelling (reason : ShutdownReason)
  /-- It has cancelled this many sessions. -/
  | draining (reason : ShutdownReason) (cancelled : Nat)
  /-- It is done, with or without an error. -/
  | done (error : Option LaunchError)
  deriving Repr, DecidableEq

end Daemon

/-- A daemon that runs. -/
structure Daemon where
  /-- Where it listens. -/
  socketPath : String
  tree : FileTree
  service : Service
  /-- How many connections have been accepted. -/
  accepted : Nat := 0
  accept : Daemon.AcceptPhase := .looking
  /-- Whether the accept loop has been told to stop. -/
  stopFlag : Bool := false
  /-- Whether a signal is still waited for. -/
  watching : Bool := true
  coordinator : Coordinator
  main : Daemon.MainPhase := .waiting
  log : List LogEntry := []
  deriving Repr, DecidableEq

namespace Daemon

/-- The notifier of the thread that waits for a signal. -/
def watcher : Nat := 0

/-- The notifier of the accept loop. -/
def acceptor : Nat := 1

/-- How long the end of the sessions is waited for, in milliseconds. -/
def patience : Nat := 5000

/-- Adds records of a thread to the log. -/
def note (daemon : Daemon) (thread : Thread) (records : List LogRecord) : Daemon :=
  { daemon with log := daemon.log ++ records.map fun record => { thread, record } }

/-- A record about start and stop. -/
def record (message : String) (fields : List (String × FieldValue) := []) : LogRecord :=
  { level := .info, target := LogRecord.Target.process, message, fields }

/-- Requests a stop on behalf of a thread. -/
def notify (daemon : Daemon) (thread : Thread) (reason : ShutdownReason) : Daemon :=
  let (records, coordinator) := daemon.coordinator.notify reason
  { daemon with coordinator }.note thread records

/-! ## Signals -/

/-- The record of a signal. -/
def signalRecord (number : Int) : LogRecord :=
  record "shutdown signal received" [("signal", .number number)]

/-- A signal arrives. Only the first one is waited for, and only those that request a stop. -/
def signal? (daemon : Daemon) (number : Int) : Option Daemon :=
  if daemon.watching ∧ number ∈ ShutdownReason.handledSignals then
    let daemon := (daemon.note .signals [signalRecord number]).notify .signals (.signal number)
    some { daemon with watching := false, coordinator := daemon.coordinator.drop watcher }
  else none

/-! ## Accepting -/

/-- Carries out what the accept loop decides. -/
def act (daemon : Daemon) : Listener.Action → Daemon
  | .handOver connection => { daemon with service := daemon.service.hand connection }
  | .log record => daemon.note .accept [record]
  | .removeSocket =>
    let (tree, records) := Listener.cleanUp daemon.tree daemon.socketPath
    { daemon with tree }.note .accept records
  | .report reason => daemon.notify .accept reason

/-- **One turn** of the accept loop. When the loop is over, its notifier is gone. -/
def turnAccept (daemon : Daemon) (find : Listener.Find) : Daemon :=
  let (goesOn, actions) := Listener.turn find
  let daemon := actions.foldl act daemon
  if goesOn then { daemon with accept := .looking }
  else { daemon with accept := .ended, coordinator := daemon.coordinator.drop acceptor }

/-- The accept loop looks whether it shall stop. -/
def look? (daemon : Daemon) : Option Daemon :=
  if daemon.accept = .looking then
    if daemon.stopFlag then some (daemon.turnAccept .stopRequested)
    else some { daemon with accept := .accepting }
  else none

/-- The accept loop gets a connection. -/
def accept? (daemon : Daemon) (obstacle : Option Listener.Obstacle) : Option Daemon :=
  if daemon.accept = .accepting then
    let number := daemon.accepted
    some ({ daemon with accepted := number + 1 }.turnAccept (.connection number obstacle))
  else none

/-- The accept loop gets no connection. -/
def refuse? (daemon : Daemon) (error : IoError) : Option Daemon :=
  if daemon.accept = .accepting then some (daemon.turnAccept (.failure error)) else none

/-! ## Stopping -/

/-- The record of the request that counts. -/
def stopRecord (reason : ShutdownReason) : LogRecord :=
  record "shutdown requested" [("reason", .text reason.describe)]

/-- The main thread gets the first request to stop. -/
def wake? (daemon : Daemon) : Option Daemon :=
  if daemon.main = .waiting then
    match daemon.coordinator.wait with
    | (none, _) => none
    | (some reason, coordinator) =>
      some ({ daemon with coordinator, main := .stopping reason }.note .main [stopRecord reason])
  else none

/-- The main thread tells the accept loop to stop. -/
def raiseFlag? (daemon : Daemon) : Option Daemon :=
  match daemon.main with
  | .stopping reason => some { daemon with stopFlag := true, main := .joining reason }
  | _ => none

/-- The main thread finds the accept loop over. -/
def join? (daemon : Daemon) : Option Daemon :=
  match daemon.main with
  | .joining reason =>
    if daemon.accept = .ended then some { daemon with main := .cancelling reason } else none
  | _ => none

/-- The main thread cancels the running sessions. -/
def cancel? (daemon : Daemon) : Option Daemon :=
  match daemon.main with
  | .cancelling reason =>
    let (cancelled, service) := daemon.service.cancelAll
    some { daemon with service, main := .draining reason cancelled }
  | _ => none

/-- The main thread is done: with an error if connections could not be accepted any more. -/
def conclude (daemon : Daemon) : ShutdownReason → Daemon
  | .acceptFailed kind message => { daemon with main := .done (some (.acceptFailed kind message)) }
  | _ => { daemon with main := .done none }.note .main [record "shutdown sequence completed"]

/-- The record of sessions that have ended. -/
def drainedRecord (cancelled : Nat) : LogRecord :=
  record "sessions drained" [("cancelled", .number cancelled)]

/-- The record of sessions that do not end. -/
def undrainedRecord (remaining : Nat) : LogRecord :=
  { record "sessions still running after shutdown timeout"
      [("remaining", .number remaining), ("timeout_ms", .number patience)] with level := .warn }

/-- The main thread looks at the registry and finds no session. -/
def drain? (daemon : Daemon) : Option Daemon :=
  match daemon.main with
  | .draining reason cancelled =>
    if daemon.service.registry.liveCount = 0 then
      some ((daemon.note .main [drainedRecord cancelled]).conclude reason)
    else none
  | _ => none

/-- The main thread has waited long enough. -/
def giveUp? (daemon : Daemon) : Option Daemon :=
  match daemon.main with
  | .draining reason _ =>
    let remaining := daemon.service.registry.liveCount
    if remaining = 0 then none
    else some ((daemon.note .main [undrainedRecord remaining]).conclude reason)
  | _ => none

/-! ## Runs -/

/-- The thread of a connection does something. -/
def work? (daemon : Daemon) (worker : Nat) (deed : Worker.Deed) : Option Daemon :=
  match daemon.service.work? worker deed with
  | none => none
  | some (service, records) => some ({ daemon with service }.note .session records)

/-- One deed of one thread. -/
inductive Move where
  /-- A signal arrives. -/
  | signal (number : Int)
  /-- Somebody else asks for a stop. -/
  | ask
  /-- The accept loop looks whether it shall stop. -/
  | look
  /-- The accept loop gets a connection, which may not be fit to be served. -/
  | accept (obstacle : Option Listener.Obstacle)
  /-- The accept loop gets no connection. -/
  | refuse (error : IoError)
  /-- The thread of a connection does something. -/
  | work (worker : Nat) (deed : Worker.Deed)
  /-- The main thread gets the first request to stop. -/
  | wake
  /-- The main thread tells the accept loop to stop. -/
  | raiseFlag
  /-- The main thread finds the accept loop over. -/
  | join
  /-- The main thread cancels the running sessions. -/
  | cancel
  /-- The main thread finds no session running. -/
  | drain
  /-- The main thread waits no longer. -/
  | giveUp
  deriving Repr, DecidableEq

/-- **One move**, if it is possible now. -/
def step? (daemon : Daemon) : Move → Option Daemon
  | .signal number => daemon.signal? number
  | .ask => some (daemon.notify .main .requested)
  | .look => daemon.look?
  | .accept obstacle => daemon.accept? obstacle
  | .refuse error => daemon.refuse? error
  | .work worker deed => daemon.work? worker deed
  | .wake => daemon.wake?
  | .raiseFlag => daemon.raiseFlag?
  | .join => daemon.join?
  | .cancel => daemon.cancel?
  | .drain => daemon.drain?
  | .giveUp => daemon.giveUp?

/-- **A run**: all moves in order, if each is possible when it is made. -/
def replay? (daemon : Daemon) (moves : List Move) : Option Daemon :=
  moves.foldlM step? daemon

/-- A run in which moves that are not possible are left out. -/
def play (daemon : Daemon) (moves : List Move) : Daemon :=
  moves.foldl (fun daemon move => (daemon.step? move).getD daemon) daemon

end Daemon

end DeviceBroker
