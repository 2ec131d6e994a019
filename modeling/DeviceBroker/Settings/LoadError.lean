import DeviceBroker.Settings.Arguments
import DeviceBroker.Text.Cut

/-!
# `Settings.LoadError` — why there are no settings

Loading goes on after a fault to find the others, so an error holds one fault or several. Only where
reading a variable breaks down nothing else is found out.

## Contents

* `LoadFault`, `LoadFault.message` — a single fault.
* `LoadError`, `LoadError.ofFaults?`, `LoadError.message`.
-/

namespace DeviceBroker.Settings

/-- One thing that is wrong with the sources of the settings. -/
inductive LoadFault where
  /-- The command line is not understood. -/
  | arguments (error : ArgumentError)
  /-- A file cannot be used; without a message if it is not well-formed. -/
  | file (path : String) (message : Option String)
  /-- A file is built on itself. -/
  | cyclicExtends (chain : List String)
  /-- The merged table is not that of any settings. -/
  | merge (mismatch : Mismatch)
  /-- A setting's value is refused. -/
  | validation (key message : String)
  deriving Repr, DecidableEq

namespace LoadFault

/-- The first line of the help. -/
def helpTitle : String := "CLI parser struct generated by `OrthoConfig` for `Config`"

/-- What is said about a file that is not well-formed. -/
def malformedFile : String := "TOML parse error"

/-- The wording of a fault. -/
def message : LoadFault → String
  | arguments error =>
    "Failed to parse command-line arguments: " ++
      match error.message? with
      | some text => "error: " ++ text
      | none => helpTitle
  | file path message =>
    s!"Configuration file error in '{path}': " ++ message.getD malformedFile
  | cyclicExtends chain => "cyclic extends detected: " ++ " -> ".intercalate chain
  | merge mismatch => s!"Failed to merge CLI with configuration: {mismatch.message}"
  | validation key message => s!"Validation failed for '{key}': {message}"

end LoadFault

/-- Why there are no settings. -/
inductive LoadError where
  /-- One fault. -/
  | single (fault : LoadFault)
  /-- Several faults, in the order in which they were found. -/
  | several (faults : List LoadFault)
  /-- The reading of a variable broke down. -/
  | broken (cut : Text.BadCut)
  deriving Repr, DecidableEq

namespace LoadError

/-- The error of a list of faults, if there are any. -/
def ofFaults? : List LoadFault → Option LoadError
  | [] => none
  | [fault] => some (single fault)
  | faults => some (several faults)

/-- The wording of an error; several faults are listed with their numbers. -/
def message : LoadError → String
  | single fault => fault.message
  | several faults =>
    "\n".intercalate ("multiple configuration errors:" ::
      (faults.zipIdx 1).map fun (fault, number) => s!"{number}: {fault.message}")
  | broken cut => cut.message

end LoadError

end DeviceBroker.Settings
