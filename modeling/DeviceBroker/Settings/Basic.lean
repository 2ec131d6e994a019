import DeviceBroker.Device
import DeviceBroker.Value

/-!
# `Settings` — what the daemon can be told

Five settings with a value each if nobody sets them. The daemon reads them once, when it starts.

A verbose daemon raises its own records to `debug`, but only if the filter is the one used by default:
a filter of the operator's own choice stays as it is.

## Contents

* `LogFormat` — how records are written.
* `Settings`, `effectiveFilter`, `deviceCapacity`.
* `Settings.Field` — the settings by name, in the order in which they are declared.
* `Settings.ofEntries` — settings read from a table of values.
-/

namespace DeviceBroker

/-- How records are written. -/
inductive LogFormat where
  /-- One JSON object a line. -/
  | json
  /-- One line of text. -/
  | compact
  deriving Repr, DecidableEq

namespace LogFormat

/-- The name of a format. -/
def name : LogFormat → String
  | json => "json"
  | compact => "compact"

/-- Both formats. -/
def all : List LogFormat := [json, compact]

/-- The format of exactly this name. -/
def ofName? (name : String) : Option LogFormat :=
  all.find? (·.name == name)

/-- The format of this name in any ASCII case. -/
def ofText? (text : String) : Option LogFormat :=
  all.find? fun format => text.toList.map Char.toLower == format.name.toList

/-- What is said of a text that names no format. -/
def unknownMessage : String := "Matching variant not found"

/-- What is expected where a format is due. -/
def expected : String := "`json` or `compact`"

theorem ofName?_name (format : LogFormat) : ofName? format.name = some format := by
  cases format <;> decide

end LogFormat

namespace Settings

/-- Where clients connect by default. -/
def defaultSocketPath : String := "/tmp/example_resmgr.sock"

/-- Which records are written by default. -/
def defaultLogFilter : String := "info"

/-- How records are written by default. -/
def defaultLogFormat : LogFormat := .compact

/-- How many bytes the device is made for by default. -/
def defaultBufferCapacity : UInt64 := 4096

end Settings

/-- What the daemon is told. -/
structure Settings where
  /-- Where clients connect. -/
  socketPath : String := Settings.defaultSocketPath
  /-- Which records are written. -/
  logFilter : String := Settings.defaultLogFilter
  /-- How records are written. -/
  logFormat : LogFormat := Settings.defaultLogFormat
  /-- Whether the daemon's own records are wanted in detail. -/
  verbose : Bool := false
  /-- How many bytes the device is made for. -/
  bufferCapacity : UInt64 := Settings.defaultBufferCapacity
  deriving Repr, DecidableEq

namespace Settings

/-- The settings if nobody sets anything. -/
def default : Settings := {}

/-- The filter that a verbose daemon uses in place of the default one. -/
def verboseFilter : String := "info,resmgrd=debug"

/-- **The filter in effect.** -/
def effectiveFilter (settings : Settings) : String :=
  if settings.verbose = true ∧ settings.logFilter = defaultLogFilter then verboseFilter
  else settings.logFilter

/-- The capacity in effect, at least one byte. -/
def deviceCapacity (settings : Settings) : Nat :=
  max settings.bufferCapacity.toNat 1

/-! ## The settings by name -/

/-- A setting. -/
inductive Field where
  | socketPath | logFilter | logFormat | verbose | bufferCapacity
  deriving Repr, DecidableEq

namespace Field

/-- The name of a setting. -/
def key : Field → String
  | socketPath => "socket_path"
  | logFilter => "log_filter"
  | logFormat => "log_format"
  | verbose => "verbose"
  | bufferCapacity => "buffer_capacity"

/-- All settings, in the order of declaration. -/
def all : List Field := [socketPath, logFilter, logFormat, verbose, bufferCapacity]

/-- The setting of a name. -/
def ofKey? (key : String) : Option Field :=
  all.find? (·.key == key)

theorem ofKey?_key (field : Field) : ofKey? field.key = some field := by
  cases field <;> decide

end Field

/-! ## Reading values -/

/-- What is expected where a path is due. -/
def pathExpected : String := "a UTF-8 path string"

/-- What is expected where a text is due. -/
def textExpected : String := "a string"

/-- What is expected where a truth value is due. -/
def boolExpected : String := "a boolean"

/-- What is expected where a capacity is due. -/
def capacityExpected : String := "usize"

/-- A text. -/
def decodeText (expected : String) : Value → Except Mismatch String
  | .text text => .ok text
  | other => .error (.type other.found expected)

/-- A truth value. -/
def decodeBool : Value → Except Mismatch Bool
  | .bool value => .ok value
  | other => .error (.type other.found boolExpected)

/-- A capacity: a whole number of 64 bits that is not negative. -/
def decodeCapacity : Value → Except Mismatch UInt64
  | .integer number =>
    if 0 ≤ number ∧ number < (Nat.pow 2 64 : Int) then .ok (UInt64.ofNat number.toNat)
    else .error (.range (.integer number) capacityExpected)
  | other => .error (.type other.found capacityExpected)

/-- The format of a name. -/
def decodeFormatName (name : String) : Except Mismatch LogFormat :=
  match LogFormat.ofName? name with
  | some format => .ok format
  | none => .error (.unknownVariant name LogFormat.expected)

/-- A format: its name, or a table whose only key is its name and whose only value is nothing. -/
def decodeFormat : Value → Except Mismatch LogFormat
  | .text name => decodeFormatName name
  | .table [(name, value)] =>
    match decodeFormatName name with
    | .error mismatch => .error mismatch
    | .ok format =>
      match value.found with
      | .null => .ok format
      | other => .error (.type other "unit")
  | .table _ => .error (.range .map "map with a single key")
  | other => .error (.type other.found "string or map")

/-- A setting's value in a table, or the default. -/
def decodeField {α : Type} (entries : Value.Entries) (field : Field) (fallback : α)
    (decode : Value → Except Mismatch α) : Except Mismatch α :=
  match Value.lookup? entries field.key with
  | some value => decode value
  | none => .ok fallback

/-- **Settings from a table.** The settings are read in the alphabetical order of their names, so of two
    faults the one that is reported is that of the name that comes first. -/
def ofEntries (entries : Value.Entries) : Except Mismatch Settings := do
  let bufferCapacity ← decodeField entries .bufferCapacity defaultBufferCapacity decodeCapacity
  let logFilter ← decodeField entries .logFilter defaultLogFilter (decodeText textExpected)
  let logFormat ← decodeField entries .logFormat defaultLogFormat decodeFormat
  let socketPath ← decodeField entries .socketPath defaultSocketPath (decodeText pathExpected)
  let verbose ← decodeField entries .verbose false decodeBool
  return { socketPath, logFilter, logFormat, verbose, bufferCapacity }

/-- The value of a setting. -/
def toValue (settings : Settings) : Field → Value
  | .socketPath => .text settings.socketPath
  | .logFilter => .text settings.logFilter
  | .logFormat => .text settings.logFormat.name
  | .verbose => .bool settings.verbose
  | .bufferCapacity => .integer settings.bufferCapacity.toNat

/-- The settings as a table, in the order of declaration. -/
def toEntries (settings : Settings) : Value.Entries :=
  Field.all.map fun field => (field.key, settings.toValue field)

end Settings

end DeviceBroker
