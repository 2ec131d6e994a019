import DeviceBroker.FileTree.Ancestors
import DeviceBroker.LaunchError
import DeviceBroker.LogLine
import DeviceBroker.Session
import DeviceBroker.Settings.Loading
import DeviceBroker.Telemetry

/-!
# `Main` — the program

The program loads its settings from its arguments, its environment and its files, and serves the client
on its standard streams as the first session on a new device. Its log goes to the standard error stream.
-/

open DeviceBroker

namespace DeviceBroker.Main

/-- The variables that settings may come from. -/
def variableNames : List String :=
  ["HOME", "XDG_CONFIG_HOME", "XDG_CONFIG_DIRS", "RESMGR_CONFIG_PATH"] ++
    Settings.Field.all.map fun field => ("resmgr_" ++ field.key).toUpper

/-- The variables that are set. -/
def environment : IO Settings.Environment :=
  variableNames.filterMapM fun name => do return (← IO.getEnv name).map fun value => (name, value)

/-- The path of the file that the file at a path is built on. -/
def basePath? (tree : FileTree) (path : String) : Option String :=
  match Settings.File.openAt tree path with
  | .ok (some source) =>
    match Settings.File.ofContents source with
    | .ok entries =>
      match Settings.File.basePath? source entries with
      | .ok base => base
      | .error _ => none
    | .error _ => none
  | _ => none

/-- The permissions that directories are taken to have. -/
def mode : Nat := 0o755

/-- Brings a file into the tree, and the files it is built on. -/
partial def bring (tree : FileTree) (path : String) : IO FileTree := do
  if tree.exists? path then return tree
  match ← (IO.FS.readBinFile path).toBaseIO with
  | .error _ => return tree
  | .ok contents =>
    let tree := (tree.withAncestors mode path).writeFile path contents.toList
    match basePath? tree path with
    | none => return tree
    | some base => bring tree base

/-- Everything that the settings come from. -/
def sources (arguments : List String) : IO Settings.Sources := do
  let here := (FileTree.names (← IO.currentDir).toString).filter (!FileTree.isIdle ·)
  let environment ← environment
  let asked :=
    match Settings.Arguments.read arguments with
    | .ok read => read.configPath.toList
    | .error _ => []
  let start := FileTree.ofDirectory mode here
  let tree ← (asked ++ Settings.File.candidates start environment).foldlM bring start
  return { tree, environment, arguments }

/-- The line of an entry. -/
def line (format : LogFormat) (entry : LogEntry) : String :=
  match format with
  | .json => entry.json
  | .compact => entry.compact

/-- Carries out what a session does. -/
def perform (telemetry : Telemetry) (effect : Session.Effect) : IO Unit :=
  match effect with
  | .replied bytes => do
    let output ← IO.getStdout
    output.write (ByteArray.mk bytes.toArray)
    output.flush
  | .logged record => do
    if telemetry.filter.allows record then
      (← IO.getStderr).putStrLn (line telemetry.format { thread := .session, record })

/-- Serves the client until its session is over. -/
partial def serve (telemetry : Telemetry) (session : Session) (device : Device) : IO Unit := do
  let bytes ← (← IO.getStdin).read Session.readSize.toUSize
  let turn :=
    if bytes.isEmpty then session.endOfStream device else session.receive device bytes.toList
  turn.effects.forM (perform telemetry)
  match turn.ending with
  | some ending => perform telemetry (turn.session.close turn.device ending).2
  | none => serve telemetry turn.session turn.device

/-- Tells why the program does not run. -/
def refuse (error : LaunchError) : IO UInt32 := do
  (← IO.getStderr).putStrLn s!"resmgrd: {error.message}"
  return 1

/-- The exit code of a program that breaks down. -/
def crashCode : UInt32 := 101

/-- The program. -/
def run (arguments : List String) : IO UInt32 := do
  match Settings.load (← sources arguments) with
  | .error (.broken _) => return crashCode
  | .error error => refuse (.settings error)
  | .ok settings =>
    match Telemetry.ofSettings settings with
    | .error (.broken _) => return crashCode
    | .error error => refuse (.telemetry error)
    | .ok telemetry =>
      match Device.create settings.deviceCapacity with
      | .error _ => return crashCode
      | .ok device =>
        let session : Session := { id := ⟨1⟩ }
        perform telemetry (Session.opened session.id)
        serve telemetry session device
        return 0

end DeviceBroker.Main

def main (arguments : List String) : IO UInt32 :=
  DeviceBroker.Main.run arguments
