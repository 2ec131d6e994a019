import DeviceBroker.Launch
import DeviceBroker.Scenario.Fixture
import DeviceBroker.Settings.Loading

/-!
# `Scenario` — a daemon from its start to its end

A scenario starts a daemon, lets clients use it one step at a time, and ends it by a signal or by using up
the files it may open. Every step is played as moves of the daemon and is over when all threads wait
again, so what a step finds does not depend on the order in which the threads take their turns.

Before the first step a client connects and hangs up at once; its session is the first.

## Contents

* `Scenario`, `Scenario.Step`, `Scenario.Finale` — what happens.
* `Scenario.Answer`, `Scenario.Report` — what is seen.
* `Scenario.World` — the daemon and its clients between two steps.
* `Scenario.run` — the whole.
-/

namespace DeviceBroker

namespace Scenario

/-- One step of a scenario. -/
inductive Step where
  /-- A client connects. -/
  | connect (client : String)
  /-- A client sends bytes. -/
  | send (client : String) (bytes : Bytes)
  /-- A client sends a line and reads what comes back. -/
  | request (client : String) (line : Bytes)
  /-- A client reads what has come. -/
  | receive (client : String)
  /-- A client reads so many lines. -/
  | lines (client : String) (count : Nat)
  /-- A client reads to the end of its stream. -/
  | rest (client : String)
  /-- A client hangs up, reads to the end of its stream, and is gone. -/
  | finish (client : String)
  /-- Somebody looks at a path. -/
  | lookAt (path : String)
  /-- Somebody removes what stands at a path. -/
  | unlink (path : String)
  /-- Somebody puts something in place. -/
  | make (path : String) (fixture : Fixture)
  /-- Another daemon is started and ends. -/
  | launch (arguments : List String)
  deriving Repr, DecidableEq

/-- How the daemon is brought to its end. -/
inductive Finale where
  /-- It ends by itself. -/
  | none
  /-- A signal is sent. -/
  | signal (number : Int)
  /-- So many clients connect to a daemon that may have so many files open. -/
  | flood (files clients : Nat)
  deriving Repr, DecidableEq

/-- What a step finds. -/
inductive Answer where
  /-- The step was taken. -/
  | done
  /-- The connection was not made. -/
  | failed (error : IoError)
  /-- Whether the step could be taken. -/
  | success (success : Bool)
  /-- Bytes that were read. -/
  | bytes (bytes : Bytes)
  /-- What stands at a path. -/
  | kind (kind : Option NodeKind)
  /-- How another daemon ended: its exit code, if it has one, and its error. -/
  | ended (exit : Option Nat) (error : Option LaunchError)
  deriving Repr, DecidableEq

end Scenario

/-- A daemon from its start to its end. -/
structure Scenario where
  /-- The tree, the environment and the arguments at the start. -/
  sources : Settings.Sources
  /-- Where clients connect to. -/
  socket : String
  steps : List Scenario.Step := []
  finale : Scenario.Finale := .none

namespace Scenario

/-- A client that has not gone yet. -/
structure Client where
  name : String
  /-- The number of the thread that serves it. -/
  worker : Nat
  /-- How many bytes it has read. -/
  read : Nat := 0
  deriving Repr, DecidableEq

/-- The daemon and its clients between two steps. -/
structure World where
  daemon : Daemon
  clients : List Client := []
  /-- How many daemons have been started. -/
  started : Nat := 1
  deriving Repr, DecidableEq

/-! ## What the daemon does when something happens to it -/

/-- A connection is accepted and registered. -/
def welcome (worker : Nat) : List Daemon.Move :=
  [.look, .accept none, .work worker (.register none)]

/-- A session that is over is closed. -/
def farewell (worker : Nat) : List Daemon.Move :=
  [.work worker .release, .work worker .deregister]

/-- A client's side of the stream is closed. -/
def hangUp (worker : Nat) : List Daemon.Move :=
  .work worker .hangUp :: farewell worker

/-- One piece of the stream arrives: every line it completes is served, and one more look finds that
    there is none. -/
def piece (worker : Nat) (bytes : Bytes) : List Daemon.Move :=
  .work worker (.deliver bytes) ::
    List.replicate (bytes.count Bytes.newline + 1) (.work worker (.serve [] []))

/-- Bytes arrive, in pieces as large as one read allows. -/
def arrival (worker : Nat) (bytes : Bytes) : List Daemon.Move :=
  (Bytes.chunks Session.readSize bytes Session.readSize_pos).flatMap (piece worker) ++ farewell worker

/-- The daemon stops after a request, `workers` threads having been started. -/
def shutdown (workers : Nat) : List Daemon.Move :=
  [.wake, .raiseFlag, .look, .join, .cancel] ++ (List.range workers).flatMap hangUp ++ [.drain]

/-! ## Clients -/

namespace World

/-- The daemon makes some moves. -/
def play (world : World) (moves : List Daemon.Move) : World :=
  { world with daemon := world.daemon.play moves }

/-- The client of a name. -/
def client? (world : World) (name : String) : Option Client :=
  world.clients.find? (·.name == name)

/-- How many threads have been started for connections. -/
def workers (world : World) : Nat :=
  world.daemon.service.workers.length

/-- What a client was sent and has not read. -/
def unread (world : World) (client : Client) : Bytes :=
  match world.daemon.service.workers[client.worker]? with
  | none => []
  | some worker => worker.replies.drop client.read

/-- Whether a client's session is still served. -/
def isServed (world : World) (client : Client) : Bool :=
  match world.daemon.service.workers[client.worker]? with
  | some { phase := .reading _, .. } => true
  | _ => false

/-- Takes a client away. -/
def without (world : World) (name : String) : World :=
  { world with clients := world.clients.filter (·.name != name) }

/-- A client reads bytes. -/
def markRead (world : World) (name : String) (count : Nat) : World :=
  { world with
    clients := world.clients.map fun client =>
      if client.name == name then { client with read := client.read + count } else client }

/-- Connects a client; one of the same name that was there before hangs up. -/
def connect (world : World) (path name : String) : Answer × World :=
  match world.daemon.tree.connectStream path with
  | .error error => (.failed error, world)
  | .ok (.daemon 0) =>
    let worker := world.workers
    let before := world.client? name
    let world := (world.play (welcome worker)).without name
    let world := { world with clients := world.clients ++ [{ name, worker }] }
    match before with
    | none => (.done, world)
    | some client => (.done, world.play (hangUp client.worker))
  | .ok _ => (.done, world)

/-- A client sends bytes. -/
def send (world : World) (name : String) (bytes : Bytes) : Bool × World :=
  match world.client? name with
  | none => (false, world)
  | some client => (world.isServed client, world.play (arrival client.worker bytes))

/-- A client reads some of the bytes that have come. -/
def readSome (world : World) (name : String) (some? : Bytes → Bytes) : Answer × World :=
  match world.client? name with
  | none => (.bytes [], world)
  | some client =>
    let bytes := some? (world.unread client)
    (.bytes bytes, world.markRead name bytes.length)

/-- The first lines of some bytes, with their ends. -/
def firstLines : Nat → Bytes → Bytes
  | 0, _ => []
  | _ + 1, [] => []
  | count + 1, byte :: bytes =>
    byte :: (if byte = Bytes.newline then firstLines count bytes else firstLines (count + 1) bytes)

/-- A client hangs up, reads what is left and is gone. -/
def finish (world : World) (name : String) : Answer × World :=
  match world.client? name with
  | none => (.bytes [], world)
  | some client =>
    let world := world.play (hangUp client.worker)
    (.bytes (world.unread client), world.without name)

/-! ## Other things that happen -/

/-- Somebody else changes the tree. -/
def withTree (world : World) (tree : FileTree) : World :=
  { world with daemon := { world.daemon with tree } }

/-- The exit code of a daemon that ended by itself. -/
def exitCode : Option LaunchError → Nat
  | none => 0
  | some _ => 1

/-- The exit code of a daemon that broke down. -/
def crashCode : Nat := 101

/-- Another daemon is started. If it asks whether anybody listens and finds this one, that is a
    connection like any other. -/
def launch (world : World) (environment : Settings.Environment) (arguments : List String) :
    Answer × World :=
  let tree := world.daemon.tree
  let settings := Settings.load { tree, environment, arguments }
  let launch := Launch.start { settings } tree world.started
  let left := launch.tree.abandon (.daemon world.started)
  let world := { world.withTree left with started := world.started + 1 }
  let world :=
    match launch.answered with
    | some (.daemon 0) => world.play (welcome world.workers ++ hangUp world.workers)
    | _ => world
  match launch.outcome with
  | .refused error => (.ended (some (exitCode (some error))) (some error), world)
  | .crashed => (.ended (some crashCode) none, world)
  | .ready _ => (.ended none none, world)

/-- **One step.** -/
def step (world : World) (scenario : Scenario) : Step → Answer × World
  | .connect client => world.connect scenario.socket client
  | .send client bytes =>
    let (success, world) := world.send client bytes
    (.success success, world)
  | .request client line =>
    (world.send client (line ++ [Bytes.newline])).2.readSome client id
  | .receive client => world.readSome client id
  | .lines client count => world.readSome client (firstLines count)
  | .rest client => world.readSome client id
  | .finish client => world.finish client
  | .lookAt path => (.kind ((world.daemon.tree.entry? path).map Node.kind), world)
  | .unlink path =>
    match world.daemon.tree.remove path with
    | .ok tree => (.success true, world.withTree tree)
    | .error _ => (.success false, world)
  | .make path fixture => (.done, world.withTree (fixture.install world.daemon.tree path))
  | .launch arguments => world.launch scenario.sources.environment arguments

/-- All steps in order. -/
def steps (world : World) (scenario : Scenario) : List Step → List Answer × World
  | [] => ([], world)
  | step :: rest =>
    let (answer, world) := world.step scenario step
    let (answers, world) := world.steps scenario rest
    (answer :: answers, world)

/-! ## The end -/

/-- How many files a daemon has open without any client. -/
def ownFiles : Nat := 6

/-- How many files a session has open. -/
def sessionFiles : Nat := 2

/-- How many of the clients that connect at once are served before no more files can be opened. -/
def servable (files clients : Nat) : Nat :=
  min clients ((files - ownFiles) / sessionFiles)

/-- The error of a process that has too many files open. -/
def tooManyFiles : IoError := .os 24

/-- The world at the end, and the exit code if the daemon had one. -/
def finale (world : World) : Finale → World × Option Nat
  | .none => (world, none)
  | .signal number =>
    if number ∈ ShutdownReason.handledSignals then
      let world := world.play (.signal number :: shutdown world.workers)
      match world.daemon.main with
      | .done error => (world, some (exitCode error))
      | _ => (world, none)
    else (world, none)
  | .flood files clients =>
    let served := servable files clients
    let moves := (List.range served).flatMap fun index => welcome (world.workers + index)
    let world := world.play (moves ++ [.look, .refuse tooManyFiles] ++ shutdown (world.workers + served))
    match world.daemon.main with
    | .done error => (world, some (exitCode error))
    | _ => (world, none)

end World

/-- What is seen of a scenario. -/
structure Report where
  answers : List Answer := []
  /-- The exit code; nothing if the daemon was killed. -/
  exit : Option Nat := none
  error : Option LaunchError := none
  /-- What was read by each client that was left. -/
  left : List (String × Bytes) := []
  /-- What stands where clients connect to. -/
  socket : Option NodeKind := none
  /-- What was written to the log. -/
  log : List LogEntry := []
  format : LogFormat := .compact
  deriving Repr, DecidableEq

/-- The entries that are written. -/
def written (telemetry : Option Telemetry) (entries : List LogEntry) : List LogEntry :=
  match telemetry with
  | none => []
  | some telemetry => entries.filter fun entry => telemetry.filter.allows entry.record

/-- How the log is written. -/
def formatOf (telemetry : Option Telemetry) : LogFormat :=
  match telemetry with
  | none => .compact
  | some telemetry => telemetry.format

/-- The report of a daemon that never ran. -/
def unstarted (scenario : Scenario) (launch : Launch) (exit : Nat) (error : Option LaunchError) :
    Report :=
  { exit := some exit, error,
    socket := (launch.tree.entry? scenario.socket).map Node.kind,
    log := written launch.telemetry launch.log, format := formatOf launch.telemetry }

/-- The report of a daemon that ran. -/
def started (scenario : Scenario) (launch : Launch) (daemon : Daemon) : Report :=
  let world : World := { daemon }
  let world := world.play (welcome world.workers ++ hangUp world.workers)
  let (answers, world) := world.steps scenario scenario.steps
  let (world, exit) := world.finale scenario.finale
  let daemon := world.daemon
  { answers, exit,
    error :=
      match daemon.main with
      | .done error => error
      | _ => none,
    left := world.clients.map fun client => (client.name, world.unread client),
    socket := (daemon.tree.entry? scenario.socket).map Node.kind,
    log := written launch.telemetry (launch.log ++ daemon.log),
    format := formatOf launch.telemetry }

/-- **The whole scenario.** -/
def run (scenario : Scenario) : Report :=
  let launch := Launch.start { settings := Settings.load scenario.sources } scenario.sources.tree 0
  match launch.outcome with
  | .refused error => scenario.unstarted launch (World.exitCode (some error)) (some error)
  | .crashed => scenario.unstarted launch World.crashCode none
  | .ready daemon => scenario.started launch daemon

end Scenario

end DeviceBroker
