import DeviceBroker.Settings.File

/-!
# `Settings.Loading` — settings from all their sources

Settings come in layers: the defaults, a file, the environment, the command line, each over the one
before it. The layers are merged as tables, and the settings are read from the merged table, so the value
that counts is the uppermost one and no other is looked at.

Every source is tried, whatever is wrong with the others, and all faults are reported together, unless
the reading of a variable breaks down.

## Contents

* `Layers`, `Layers.merged` — the sources as tables.
* `Settings.gather` — the layers that can be had, and the faults.
* `Settings.load` — the settings.
-/

namespace DeviceBroker.Settings

/-- What each source says. -/
structure Layers where
  file : Value.Entries := []
  environment : Value.Entries := []
  arguments : Value.Entries := []
  deriving Repr

/-- **One table**: each layer lies over the one before it, the defaults lowest. -/
def Layers.merged (layers : Layers) : Value.Entries :=
  let below := Value.overlayEntries default.toEntries layers.file
  let below := Value.overlayEntries below layers.environment
  Value.overlayEntries below layers.arguments

/-- Where settings come from. -/
structure Sources where
  /-- The files that can be read. -/
  tree : FileTree := {}
  environment : Environment := []
  /-- The command line, without the program's name. -/
  arguments : List String := []
  deriving Repr, DecidableEq

/-- The layers that can be had, and what is wrong with the other sources; `environment` is what the
    variables say. -/
def gather (sources : Sources) (environment : Value.Entries) : Layers × List LoadFault :=
  match Arguments.read sources.arguments with
  | .ok arguments =>
    let found := File.discover sources.tree sources.environment arguments.configPath
    ({ file := found.entries.getD [], environment, arguments := arguments.toEntries },
      found.faults)
  | .error error =>
    let found := File.discover sources.tree sources.environment none
    ({ file := found.entries.getD [], environment }, .arguments error :: found.faults)

/-- The settings of some layers, given what is wrong already. -/
def ofLayers (layers : Layers) (faults : List LoadFault) : Except LoadError Settings :=
  match ofEntries layers.merged with
  | .ok settings =>
    match LoadError.ofFaults? faults with
    | none => .ok settings
    | some error => .error error
  | .error mismatch =>
    match LoadError.ofFaults? (faults ++ [.merge mismatch]) with
    | none => .error (.single (.merge mismatch))
    | some error => .error error

/-- **Loads the settings.** -/
def load (sources : Sources) : Except LoadError Settings :=
  match sources.environment.toEntries with
  | .error cut => .error (.broken cut)
  | .ok environment =>
    let (layers, faults) := gather sources environment
    ofLayers layers faults

end DeviceBroker.Settings
