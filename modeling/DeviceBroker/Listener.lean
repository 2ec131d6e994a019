import DeviceBroker.FileTree
import DeviceBroker.Shutdown

/-!
# `Listener` — the socket that clients connect to

Binding takes a path where nothing stands, or a socket that nobody listens on any more: such a socket is
removed first. Whatever else stands there is left alone.

The accept loop looks again and again whether it shall stop and, if not, whether somebody has connected.
Each connection is handed over once. Having nobody to accept, or being interrupted, means to look again;
any other failure ends the loop. However it ends, the socket is removed, and only then is a failure
reported.

## Contents

* `Listener.Error`, `Listener.StartFailure`.
* `Listener.bind` — the socket is bound.
* `Listener.Find`, `Listener.Action`, `Listener.turn`, `Listener.run` — the accept loop.
* `Listener.cleanUp` — the socket is removed.
-/

namespace DeviceBroker.Listener

/-- Why there is no listener. -/
inductive Error where
  /-- The path could not be bound. -/
  | bind (path : String) (source : IoError)
  /-- Somebody listens on the path. -/
  | inUse (path : String)
  /-- What stands at the path is no socket. -/
  | notSocket (path : String)
  /-- What stands at the path could not be looked at. -/
  | metadata (path : String) (source : IoError)
  /-- It could not be found out whether somebody listens on the path. -/
  | probe (path : String) (source : IoError)
  /-- The socket that nobody listens on could not be removed. -/
  | cleanup (path : String) (source : IoError)
  /-- The listener could not be kept from waiting. -/
  | nonBlocking (source : IoError)
  /-- The accept loop could not be started. -/
  | spawn (source : IoError)
  /-- The accept loop broke down. -/
  | threadPanic
  deriving Repr, DecidableEq

namespace Error

/-- The wording of an error. -/
def message : Error → String
  | bind path source => s!"failed to bind unix listener at {path}: {source.message}"
  | inUse path => s!"existing unix socket {path} is already in use"
  | notSocket path => s!"unix socket path {path} is not a socket"
  | metadata path source =>
    s!"failed to read metadata for unix socket {path}: {source.message}"
  | probe path source =>
    s!"failed to connect to existing unix socket {path}: {source.message}"
  | cleanup path source => s!"failed to remove stale unix socket {path}: {source.message}"
  | nonBlocking source => s!"failed to enable non-blocking listener: {source.message}"
  | spawn source => s!"failed to spawn listener thread: {source.message}"
  | threadPanic => "listener thread panicked"

/-- The failure underneath. -/
def source? : Error → Option IoError
  | bind _ source | metadata _ source | probe _ source | cleanup _ source => some source
  | nonBlocking source | spawn source => some source
  | inUse _ | notSocket _ | threadPanic => none

end Error

/-- What can keep a bound socket from being listened on. -/
inductive StartFailure where
  /-- Accepting cannot be kept from waiting. -/
  | nonBlocking (source : IoError)
  /-- The thread of the accept loop cannot be started. -/
  | spawn (source : IoError)
  deriving Repr, DecidableEq

/-- The error that a failure to start is reported as. -/
def StartFailure.error : StartFailure → Error
  | nonBlocking source => .nonBlocking source
  | spawn source => .spawn source

/-- A record of the listener. -/
def record (level : Level) (message : String) (fields : List (String × FieldValue) := []) :
    LogRecord :=
  { level, target := LogRecord.Target.transport, message, fields }

/-! ## Binding -/

/-- What an attempt to bind leads to. -/
structure Binding where
  tree : FileTree
  log : List LogRecord := []
  error : Option Error := none
  /-- Who answered when it was tried whether anybody listens. -/
  answered : Option Holder := none
  deriving Repr, DecidableEq

/-- Binds the path itself. -/
def claimPath (tree : FileTree) (path : String) (holder : Holder) : Binding :=
  match tree.bindStream path holder with
  | .ok tree => { tree }
  | .error source => { tree, error := some (.bind path source) }

/-- Whether a failed connection means that nobody listens any more. -/
def isDead (error : IoError) : Bool :=
  error.kind == .connectionRefused || error.kind == .notFound

/-- The record of a socket that is removed because nobody listens on it. -/
def staleRecord (path : String) : LogRecord :=
  record .info "removing stale unix socket" [("path", .text path)]

/-- **Binds** a path for a holder. -/
def bind (tree : FileTree) (path : String) (holder : Holder) : Binding :=
  if !tree.exists? path then claimPath tree path holder
  else
    match tree.lookAt path with
    | .error source => { tree, error := some (.metadata path source) }
    | .ok (.socket ..) =>
      match tree.connectStream path with
      | .ok holder => { tree, error := some (.inUse path), answered := some holder }
      | .error source =>
        if isDead source then
          match tree.remove path with
          | .ok tree => { claimPath tree path holder with log := [staleRecord path] }
          | .error source =>
            { tree, log := [staleRecord path], error := some (.cleanup path source) }
        else { tree, error := some (.probe path source) }
    | .ok _ => { tree, error := some (.notSocket path) }

/-- **Removes the socket** when the listener is done; that it is gone already does not matter. -/
def cleanUp (tree : FileTree) (path : String) : FileTree × List LogRecord :=
  match tree.remove path with
  | .ok tree => (tree, [])
  | .error error =>
    if error.kind = .notFound then (tree, [])
    else
      (tree, [record .warn "failed to remove unix socket file"
        [("error", .text error.message), ("path", .text path)]])

/-! ## The accept loop -/

/-- Why a connection cannot be served. -/
inductive Obstacle where
  /-- Its reads cannot be made to wait. -/
  | cannotBlock (error : IoError)
  /-- No session can be started for it. -/
  | cannotSpawn (error : IoError)
  deriving Repr, DecidableEq

/-- What one turn of the loop finds. -/
inductive Find where
  /-- The loop shall stop. -/
  | stopRequested
  /-- Somebody has connected. -/
  | connection (number : Nat) (obstacle : Option Obstacle)
  /-- Accepting failed. -/
  | failure (error : IoError)
  deriving Repr, DecidableEq

/-- What the loop does. -/
inductive Action where
  /-- A connection is handed to a session. -/
  | handOver (number : Nat)
  /-- A record is logged. -/
  | log (record : LogRecord)
  /-- The socket is removed. -/
  | removeSocket
  /-- The failure is reported. -/
  | report (reason : ShutdownReason)
  deriving Repr, DecidableEq

/-- The record of the loop's start. -/
def activeRecord (path : String) : LogRecord :=
  record .info "socket listener active" [("path", .text path)]

/-- The record of a connection that is about to be handed over. -/
def acceptedRecord : LogRecord :=
  record .debug "connection accepted"

/-- What is done with a connection. -/
def receive (number : Nat) : Option Obstacle → List Action
  | none => [.log acceptedRecord, .handOver number]
  | some (.cannotBlock error) =>
    [.log (record .warn "dropping connection that cannot block" [("error", .text error.message)])]
  | some (.cannotSpawn error) =>
    [.log acceptedRecord,
      .log (record .warn "failed to spawn session thread; connection dropped"
        [("error", .text error.message)])]

/-- Whether a failure to accept only means to look again. -/
def isPassing (error : IoError) : Bool :=
  error.kind == .wouldBlock || error.kind == .interrupted

/-- **One turn** of the loop: whether it goes on, and what it does. -/
def turn : Find → Bool × List Action
  | .stopRequested => (false, [.removeSocket])
  | .connection number obstacle => (true, receive number obstacle)
  | .failure error =>
    if isPassing error then (true, [])
    else
      (false,
        [.log (record .warn "socket accept failed; stopping listener"
            [("error", .text error.message)]),
          .removeSocket, .report (.acceptFailed error.kind error.message)])

/-- All turns, until one ends the loop. -/
def turns : List Find → List Action
  | [] => []
  | find :: finds =>
    match turn find with
    | (true, actions) => actions ++ turns finds
    | (false, actions) => actions

/-- **The accept loop** from its start. -/
def run (path : String) (finds : List Find) : List Action :=
  .log (activeRecord path) :: turns finds

end DeviceBroker.Listener
