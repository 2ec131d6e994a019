import DeviceBroker.Decimal.Natural
import DeviceBroker.Settings.Basic
import DeviceBroker.Text.Terminal

/-!
# `Settings.Arguments` — settings on the command line

A flag is written `--name` or by a letter behind one hyphen; letters may share a hyphen. A value stands
behind an equals sign, directly behind its flag's letter, or in the next argument if that does not begin
with a hyphen. A single hyphen is a value. Behind two hyphens alone no flags are recognised.

A value in an argument of its own is looked at only when the next flag is understood or the arguments
end. So an argument that is not understood is reported before a fault in the value in front of it.

## Contents

* `Flag` — the flags and their names.
* `ArgumentError` — what can be wrong.
* `Arguments`, `Arguments.read` — what the arguments say.
-/

namespace DeviceBroker.Settings

/-- A flag of the command line. -/
inductive Flag where
  | socketPath | logFilter | logFormat | verbose | bufferCapacity | configPath | help
  deriving Repr, DecidableEq

namespace Flag

/-- The name of a flag. -/
def name : Flag → String
  | socketPath => "socket-path"
  | logFilter => "log-filter"
  | logFormat => "log-format"
  | verbose => "verbose"
  | bufferCapacity => "buffer-capacity"
  | configPath => "config-path"
  | help => "help"

/-- The letter of a flag. -/
def letter? : Flag → Option Char
  | socketPath => some 's'
  | logFilter => some 'l'
  | logFormat => some 'L'
  | verbose => some 'v'
  | bufferCapacity => some 'b'
  | configPath => none
  | help => some 'h'

/-- What a flag's value is called; nothing if it has none. -/
def placeholder? : Flag → Option String
  | socketPath => some "SOCKET_PATH"
  | logFilter => some "LOG_FILTER"
  | logFormat => some "LOG_FORMAT"
  | verbose => none
  | bufferCapacity => some "BUFFER_CAPACITY"
  | configPath => some "PATH"
  | help => none

/-- All flags. -/
def all : List Flag :=
  [socketPath, logFilter, logFormat, verbose, bufferCapacity, configPath, help]

/-- The flag of a name. -/
def ofName? (name : List Char) : Option Flag :=
  all.find? (·.name.toList == name)

/-- The flag of a letter. -/
def ofLetter? (letter : Char) : Option Flag :=
  all.find? (·.letter? == some letter)

/-- A flag as it is named in messages. -/
def title (flag : Flag) : String :=
  match flag.placeholder? with
  | some placeholder => s!"--{flag.name} <{placeholder}>"
  | none => s!"--{flag.name}"

end Flag

/-- What can be wrong with the arguments. -/
inductive ArgumentError where
  /-- Help was asked for. -/
  | helpRequested
  /-- An argument is not understood. -/
  | unknown (argument : String)
  /-- A flag has no value and needs one. -/
  | missingValue (flag : Flag)
  /-- A flag has a value and takes none. -/
  | needlessValue (flag : Flag) (value : String)
  /-- A flag is given twice. -/
  | repeated (flag : Flag)
  /-- A flag's value means nothing. -/
  | invalidValue (flag : Flag) (value reason : String)
  deriving Repr, DecidableEq

/-- The wording of an error, help having none. Arguments and values are quoted as a terminal would show
    them. -/
def ArgumentError.message? : ArgumentError → Option String
  | helpRequested => none
  | unknown argument => some s!"unexpected argument '{Text.Terminal.shown argument}' found"
  | missingValue flag => some s!"a value is required for '{flag.title}' but none was supplied"
  | needlessValue flag value =>
    some (s!"unexpected value '{Text.Terminal.shown value}' for '{flag.title}' found; " ++
      "no more were expected")
  | repeated flag => some s!"the argument '{flag.title}' cannot be used multiple times"
  | invalidValue flag value reason =>
    some s!"invalid value '{Text.Terminal.shown value}' for '{flag.title}': {reason}"

/-- What the arguments say. -/
structure Arguments where
  socketPath : Option String := none
  logFilter : Option String := none
  logFormat : Option LogFormat := none
  verbose : Bool := false
  bufferCapacity : Option UInt64 := none
  configPath : Option String := none
  deriving Repr, DecidableEq

namespace Arguments

/-- Whether a flag was given. -/
def has (arguments : Arguments) : Flag → Bool
  | .socketPath => arguments.socketPath.isSome
  | .logFilter => arguments.logFilter.isSome
  | .logFormat => arguments.logFormat.isSome
  | .verbose => arguments.verbose
  | .bufferCapacity => arguments.bufferCapacity.isSome
  | .configPath => arguments.configPath.isSome
  | .help => false

/-- Sets what a flag with a value says. -/
def accept (arguments : Arguments) (flag : Flag) (value : String) :
    Except ArgumentError Arguments :=
  match flag with
  | .socketPath => .ok { arguments with socketPath := some value }
  | .logFilter => .ok { arguments with logFilter := some value }
  | .logFormat =>
    match LogFormat.ofText? value with
    | some format => .ok { arguments with logFormat := some format }
    | none => .error (.invalidValue flag value LogFormat.unknownMessage)
  | .bufferCapacity =>
    match Natural.read value.toList with
    | .ok capacity => .ok { arguments with bufferCapacity := some (UInt64.ofNat capacity) }
    | .error fault => .error (.invalidValue flag value fault.message)
  | .configPath =>
    if value.isEmpty then .error (.missingValue flag)
    else .ok { arguments with configPath := some value }
  | .verbose => .error (.needlessValue flag value)
  | .help => .error (.needlessValue flag value)

/-- Takes a flag's value into account: there has to be one, and the flag must be new. -/
def set (arguments : Arguments) (flag : Flag) (value : Option String) :
    Except ArgumentError Arguments :=
  match value with
  | none => .error (.missingValue flag)
  | some value =>
    if arguments.has flag then .error (.repeated flag) else arguments.accept flag value

/-! ## Reading -/

/-- What is known in the middle of the arguments. -/
structure Progress where
  arguments : Arguments := {}
  /-- A flag that was given and not yet taken into account, and its value if that was given too. -/
  open? : Option (Flag × Option String) := none
  deriving Repr, DecidableEq

namespace Progress

/-- Takes the open flag into account. -/
def settle (progress : Progress) : Except ArgumentError Arguments :=
  match progress.open? with
  | none => .ok progress.arguments
  | some (flag, value) => progress.arguments.set flag value

/-- A flag without a value. -/
def plain (progress : Progress) (flag : Flag) : Except ArgumentError Progress :=
  match progress.settle with
  | .error e => .error e
  | .ok arguments =>
    if flag = .help then .error .helpRequested
    else if arguments.has flag then .error (.repeated flag)
    else .ok { arguments := { arguments with verbose := true } }

/-- A flag whose value stands behind it. -/
def attached (progress : Progress) (flag : Flag) (value : String) :
    Except ArgumentError Progress :=
  match progress.settle with
  | .error e => .error e
  | .ok arguments => (arguments.set flag (some value)).map fun arguments => { arguments }

/-- A flag whose value is the next argument. -/
def opened (progress : Progress) (flag : Flag) : Except ArgumentError Progress :=
  match progress.settle with
  | .error e => .error e
  | .ok arguments => .ok { arguments, open? := some (flag, none) }

/-- An argument behind two hyphens. -/
def long (progress : Progress) (text : List Char) : Except ArgumentError Progress :=
  let name := text.takeWhile (· ≠ '=')
  let behind := text.dropWhile (· ≠ '=')
  match Flag.ofName? name with
  | none => .error (.unknown ("--" ++ String.ofList name))
  | some flag =>
    match behind, flag.placeholder? with
    | [], none => progress.plain flag
    | [], some _ => progress.opened flag
    | _ :: value, none => .error (.needlessValue flag (String.ofList value))
    | _ :: value, some _ => progress.attached flag (String.ofList value)

/-- Letters behind one hyphen. -/
def short (progress : Progress) : List Char → Except ArgumentError Progress
  | [] => .ok progress
  | letter :: rest =>
    match Flag.ofLetter? letter with
    | none => .error (.unknown (String.ofList ['-', letter]))
    | some flag =>
      match flag.placeholder?, rest with
      | none, _ =>
        match progress.plain flag with
        | .error e => .error e
        | .ok progress => progress.short rest
      | some _, [] => progress.opened flag
      | some _, '=' :: value => progress.attached flag (String.ofList value)
      | some _, value => progress.attached flag (String.ofList value)

/-- An argument that is no flag: the value of the open flag if that has none, else not understood. -/
def word (progress : Progress) (text : String) : Except ArgumentError Progress :=
  match progress.open? with
  | some (flag, none) => .ok { progress with open? := some (flag, some text) }
  | _ => .error (.unknown text)

/-- One argument. -/
def step (progress : Progress) (argument : String) : Except ArgumentError Progress :=
  match argument.toList with
  | '-' :: '-' :: name => progress.long name
  | '-' :: letter :: letters => progress.short (letter :: letters)
  | _ => progress.word argument

/-- All arguments. -/
def steps (progress : Progress) : List String → Except ArgumentError Arguments
  | [] => progress.settle
  | argument :: rest =>
    if argument = "--" then
      match rest with
      | [] => progress.settle
      | word :: _ => .error (.unknown word)
    else
      match progress.step argument with
      | .error e => .error e
      | .ok progress => progress.steps rest

end Progress

/-- **What the arguments say.** -/
def read (arguments : List String) : Except ArgumentError Arguments :=
  ({} : Progress).steps arguments

/-- The settings given on the command line, as a table. Whether records are wanted in detail is always
    said. -/
def toEntries (arguments : Arguments) : Value.Entries :=
  let entry (field : Field) (value : Option Value) : Value.Entries :=
    (value.map fun value => (field.key, value)).toList
  entry .socketPath (arguments.socketPath.map .text) ++
  entry .logFilter (arguments.logFilter.map .text) ++
  entry .logFormat (arguments.logFormat.map (.text ·.name)) ++
  entry .verbose (some (.bool arguments.verbose)) ++
  entry .bufferCapacity (arguments.bufferCapacity.map (.integer ·.toNat))

end Arguments

end DeviceBroker.Settings
