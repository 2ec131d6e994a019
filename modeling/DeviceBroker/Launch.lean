import DeviceBroker.Daemon
import DeviceBroker.Telemetry

/-!
# `Launch` — how a daemon starts

A start goes through its stages in order: the settings, the log, the socket's directory, the handling of
signals, the socket, the device, the accept loop. The first stage that fails ends it, and the stages
behind it are not tried. A socket that was bound is removed again if the accept loop cannot be started.

The settings are clamped to a device of at least one byte; a device too large to be made ends the
process on the spot, and so do a variable and a filter over which the reading breaks down.

## Contents

* `Launch.Plan` — the settings, and what else may go wrong.
* `Launch`, `Launch.Outcome` — what a start leads to.
* `Launch.start` — all stages.
-/

namespace DeviceBroker

namespace Launch

/-- What a start depends on besides the tree. -/
structure Plan where
  settings : Except Settings.LoadError Settings
  /-- Why signals cannot be listened for. -/
  deafness : Option ShutdownError := none
  /-- Why the bound socket cannot be listened on. -/
  startFailure : Option Listener.StartFailure := none

/-- How a start ends. -/
inductive Outcome where
  /-- A stage failed. -/
  | refused (error : LaunchError)
  /-- The process broke down. -/
  | crashed
  /-- The daemon runs. -/
  | ready (daemon : Daemon)
  deriving Repr, DecidableEq

end Launch

/-- What a start leads to. -/
structure Launch where
  tree : FileTree
  outcome : Launch.Outcome
  /-- What was logged before the daemon ran. -/
  log : List LogEntry := []
  /-- How the log is written; nothing if that was never found out. -/
  telemetry : Option Telemetry := none
  /-- Who answered when it was tried whether anybody listens on the socket. -/
  answered : Option Holder := none
  deriving Repr, DecidableEq

namespace Launch

/-- The first record of a start. -/
def startingRecord (settings : Settings) : LogRecord :=
  Daemon.record "starting resource manager"
    [("socket", .text settings.socketPath), ("capacity", .number settings.deviceCapacity)]

/-- The last record of a start. -/
def readyRecord (settings : Settings) : LogRecord :=
  Daemon.record "resource manager ready" [("socket", .text settings.socketPath)]

/-- Records of the main thread. -/
def byMain (records : List LogRecord) : List LogEntry :=
  records.map fun record => { thread := .main, record }

/-- The daemon at the moment when its accept loop has started. -/
def running (settings : Settings) (tree : FileTree) (device : Device) : Daemon :=
  { socketPath := settings.socketPath, tree, service := { device },
    coordinator := { notifiers := [true, true] },
    log := [{ thread := .accept, record := Listener.activeRecord settings.socketPath },
            { thread := .main, record := readyRecord settings }] }

/-- The device is made for the bound socket, and the accept loop is started. -/
def serve (settings : Settings) (failure : Option Listener.StartFailure)
    (binding : Listener.Binding) : Launch :=
  let log := byMain binding.log
  match Device.create settings.deviceCapacity with
  | .error _ => { tree := binding.tree, log, outcome := .crashed }
  | .ok device =>
    match failure with
    | none => { tree := binding.tree, log, outcome := .ready (running settings binding.tree device) }
    | some failure =>
      let (tree, records) := Listener.cleanUp binding.tree settings.socketPath
      { tree, log := log ++ byMain records, outcome := .refused (.listener failure.error) }

/-- The socket is bound. -/
def listen (settings : Settings) (plan : Plan) (tree : FileTree) (number : Nat) : Launch :=
  let binding := Listener.bind tree settings.socketPath (.daemon number)
  match binding.error with
  | some error =>
    { tree := binding.tree, log := byMain binding.log, answered := binding.answered,
      outcome := .refused (.listener error) }
  | none => serve settings plan.startFailure binding

/-- The socket's directory is made and signals are listened for. -/
def settle (settings : Settings) (plan : Plan) (tree : FileTree) (number : Nat) : Launch :=
  match SocketDirectory.prepare tree settings.socketPath with
  | (some error, tree) => { tree, outcome := .refused (.socket error) }
  | (none, tree) =>
    match plan.deafness with
    | some error => { tree, outcome := .refused (.shutdown error) }
    | none => listen settings plan tree number

/-- **Starts** the daemon with a number in a tree. -/
def start (plan : Plan) (tree : FileTree) (number : Nat) : Launch :=
  match plan.settings with
  | .error (.broken _) => { tree, outcome := .crashed }
  | .error error => { tree, outcome := .refused (.settings error) }
  | .ok settings =>
    match Telemetry.ofSettings settings with
    | .error (.broken _) => { tree, outcome := .crashed }
    | .error error => { tree, outcome := .refused (.telemetry error) }
    | .ok telemetry =>
      let launch := settle settings plan tree number
      { launch with
        telemetry := some telemetry
        log := byMain [startingRecord settings] ++ launch.log }

end Launch

end DeviceBroker
