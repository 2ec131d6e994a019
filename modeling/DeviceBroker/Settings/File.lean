import DeviceBroker.FileTree
import DeviceBroker.Settings.Environment
import DeviceBroker.Settings.LoadError
import DeviceBroker.Text.Utf8
import DeviceBroker.Toml.Reader

/-!
# `Settings.File` — settings in files

A file holds a table. It may be built on another file, whose table then lies below its own; a file must
not be built on itself, however many files lie between.

Files are looked for in a fixed order of places, and the first one that can be used is used alone. A file
that is asked for on the command line has to be usable; a fault in any other file counts only if no file
can be used.

A path is opened in two steps: its directory, and its last name there. The links of that name must not
lead out of the directory, and what stands there has to be a file.

## Contents

* `File.openAt` — a file that can be read.
* `File.ofContents`, `File.build` — the table of a file, and of the files it is built on.
* `File.candidates` — where files are looked for.
* `File.discover` — the file that is used.
-/

namespace DeviceBroker.Settings.File

/-- A file that can be read: its path without links, and its bytes. -/
structure Source where
  path : String
  contents : Bytes
  deriving Repr, DecidableEq

/-- What is said of a path that leads to something else than a file. -/
def notRegular : String := "configuration path is not a regular file"

/-- What is said of a path that does not end in a name. -/
def nameless : String := "cannot determine file name for configuration file path"

/-- The directory in which a path puts its last name. -/
def directoryOf (path : String) : String :=
  match Path.parent? path with
  | none => "."
  | some parent => if parent.isEmpty then "." else parent

/-- What the last name of a path leads to in its directory. -/
def lookUp (tree : FileTree) (path name : String) : Except IoError Node :=
  match tree.locate (directoryOf path) with
  | .error error => .error error
  | .ok (location, node) =>
    if node.isDirectory then tree.beneath location name else .error FileTree.notADirectory

/-- The fault of a path that cannot be followed. -/
def systemFault (path : String) (error : IoError) : LoadFault :=
  .file path (some error.message)

/-- **The file that a path leads to**; nothing if it leads nowhere. -/
def openAt (tree : FileTree) (path : String) : Except LoadFault (Option Source) :=
  match Path.fileName? path with
  | none => .error (.file path (some nameless))
  | some name =>
    match lookUp tree path name with
    | .error error => if error.kind = .notFound then .ok none else .error (systemFault path error)
    | .ok (.file contents) =>
      match tree.locate path with
      | .error error => .error (systemFault path error)
      | .ok (location, _) => .ok (some { path := FileTree.render location, contents })
    | .ok _ => .error (.file path (some notRegular))

/-! ## Contents -/

/-- What is said of files in formats that are not supported. -/
def unsupported? (format : String) : Option String :=
  if format = "yaml" ∨ format = "yml" then
    some "yaml feature disabled: enable the 'yaml' feature to support this file format"
  else if format = "json" ∨ format = "json5" then
    some "json5 feature disabled: enable the 'json5' feature to support this file format"
  else none

/-- The format of a path, in small letters. -/
def formatOf (path : String) : String :=
  String.ofList (((Path.extension? path).getD "").toList.map Char.toLower)

/-- **The table of a file.** -/
def ofContents (source : Source) : Except LoadFault Value.Entries :=
  match Utf8.decode? source.contents with
  | none => .error (.file source.path (some "stream did not contain valid UTF-8"))
  | some text =>
    match unsupported? (formatOf source.path) with
    | some message => .error (.file source.path (some message))
    | none =>
      match Toml.read? text.toList with
      | none => .error (.file source.path none)
      | some entries => .ok entries

/-- The key that names the file a file is built on. -/
def extendsKey : String := "extends"

/-- What kind of value stands where a file's name is due. -/
def kindOf : Value → String
  | .null => "null"
  | .bool _ => "bool"
  | .integer _ => "number"
  | .float _ => "number"
  | .text _ => "string"
  | .list _ => "array"
  | .table _ => "object"

/-- The path of the file that a file is built on, if it is built on one. -/
def basePath? (source : Source) (entries : Value.Entries) : Except LoadFault (Option String) :=
  match Value.lookup? entries extendsKey with
  | none => .ok none
  | some (.text name) =>
    if name.isEmpty then
      .error (.file source.path (some "'extends' key must be a non-empty string"))
    else .ok (some (Path.join ((Path.parent? source.path).getD "") name))
  | some other =>
    .error (.file source.path
      (some s!"'extends' key must be a string, but found type: {kindOf other}"))

/-- What is said of a file that is missing though another one is built on it. -/
def missingBase (path user : String) : String :=
  s!"extended configuration file '{path}' does not exist (referenced from '{user}')"

/-- The file that another one is built on, by its path without links. -/
def openBase (tree : FileTree) (path user : String) : Except LoadFault Source :=
  let missing : LoadFault := .file path (some (missingBase path user))
  match tree.locate path with
  | .error error => .error (if error.kind = .notFound then missing else systemFault path error)
  | .ok (location, _) =>
    match openAt tree (FileTree.render location) with
    | .error fault => .error fault
    | .ok none => .error missing
    | .ok (some base) => .ok base

/-- **The table of a file over those of the files it is built on.** `above` are the files that led here,
    and `fuel` bounds how many there can be. -/
def build (tree : FileTree) (fuel : Nat) (above : List String) (source : Source) :
    Except LoadFault Value.Entries :=
  match fuel with
  | 0 => .error (.cyclicExtends (above ++ [source.path]))
  | fuel + 1 =>
    if above.contains source.path then .error (.cyclicExtends (above ++ [source.path]))
    else
      match ofContents source with
      | .error fault => .error fault
      | .ok entries =>
        match basePath? source entries with
        | .error fault => .error fault
        | .ok none => .ok entries
        | .ok (some path) =>
          match openBase tree path source.path with
          | .error fault => .error fault
          | .ok base =>
            match build tree fuel (above ++ [source.path]) base with
            | .error fault => .error fault
            | .ok below => .ok (Value.overlayEntries below entries)

/-- The table of the file that a path leads to; nothing if it leads nowhere. -/
def load? (tree : FileTree) (path : String) : Except LoadFault (Option Value.Entries) :=
  match openAt tree path with
  | .error fault => .error fault
  | .ok none => .ok none
  | .ok (some source) =>
    match build tree (tree.entries.length + 1) [] source with
    | .error fault => .error fault
    | .ok entries => .ok (some entries)

/-! ## Where files are looked for -/

/-- The name of the file among those of the operator's programs. -/
def nestedName : String := "resmgr/config.toml"

/-- The name of the hidden file. -/
def dottedName : String := ".resmgr.toml"

/-- The files in a directory of settings. -/
def inDirectory (directory : String) : List String :=
  [Path.join directory nestedName, Path.join directory dottedName]

/-- The directories in a list of directories. -/
def directories (text : String) : List String :=
  ((text.toList.splitOnP (· == ':')).map String.ofList).filter (!·.isEmpty)

/-- **Where files are looked for**, in this order, no place twice. A variable that is set and empty means
    the working directory where a directory is due, and nothing where a file is. -/
def candidates (tree : FileTree) (environment : Environment) : List String :=
  let named := (environment.get? "RESMGR_CONFIG_PATH").toList.filter (!·.isEmpty)
  let personal := (environment.get? "XDG_CONFIG_HOME").toList.flatMap inDirectory
  let shared := ((environment.get? "XDG_CONFIG_DIRS").toList.flatMap directories).flatMap inDirectory
  let home :=
    (environment.get? "HOME").toList.flatMap fun home =>
      inDirectory (Path.join home ".config") ++ [Path.join home dottedName]
  let here := [Path.join (FileTree.render tree.workingDirectory) dottedName]
  (named ++ personal ++ shared ++ home ++ here).eraseDups

/-! ## The file that is used -/

/-- What the search found: the table of the file that is used, if any, and the faults that count. -/
structure Discovery where
  entries : Option Value.Entries := none
  faults : List LoadFault := []
  deriving Repr

/-- The first file that can be used, and the faults of those before it. -/
def firstUsable (tree : FileTree) : List String → Discovery
  | [] => {}
  | path :: paths =>
    match load? tree path with
    | .ok (some entries) => { entries := some entries }
    | .ok none => firstUsable tree paths
    | .error fault =>
      let rest := firstUsable tree paths
      { rest with faults := fault :: rest.faults }

/-- The file that has to be usable: its table or its fault. -/
def required (tree : FileTree) (path : String) : Except LoadFault Value.Entries :=
  match load? tree path with
  | .ok (some entries) => .ok entries
  | .ok none => .error (.file path (some "required configuration file not found"))
  | .error fault => .error fault

/-- The file that is used of those that need not be usable: their faults count only if there is none. -/
def optional (tree : FileTree) (paths : List String) : Discovery :=
  let found := firstUsable tree paths
  if found.entries.isSome then { found with faults := [] } else found

/-- **The file that is used**, `path` being the one that is asked for. If that cannot be used, it is not
    tried once more. -/
def discover (tree : FileTree) (environment : Environment) (path : Option String) : Discovery :=
  match path with
  | none => optional tree (candidates tree environment)
  | some path =>
    match required tree path with
    | .ok entries => { entries := some entries }
    | .error fault =>
      let rest := optional tree ((candidates tree environment).filter (· ≠ path))
      { rest with faults := fault :: rest.faults }

end DeviceBroker.Settings.File
