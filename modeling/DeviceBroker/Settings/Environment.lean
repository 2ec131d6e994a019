import DeviceBroker.Settings.Variable

/-!
# `Settings.Environment` — settings in environment variables

A variable sets a setting if its name is the program's mark followed by the setting's name, in any case.
Two underscores in a row lead into a table. A later variable replaces all that earlier ones have set
under the same outermost key.

## Contents

* `Environment`, `Environment.get?` — variables with their values.
* `Environment.path?` — the keys that a variable's name stands for.
* `Environment.toEntries` — the settings as a table.
-/

namespace DeviceBroker.Settings

/-- The variables of a process with their values. -/
abbrev Environment := List (String × String)

namespace Environment

/-- The value of a variable. -/
def get? (environment : Environment) (name : String) : Option String :=
  (environment.find? (·.1 == name)).map (·.2)

/-- What the names of all variables begin with that set something. -/
def mark : List Char := ['r', 'e', 's', 'm', 'g', 'r', '_']

/-- Two underscores in a row become a point. -/
def pointed : List Char → List Char
  | '_' :: '_' :: rest => '.' :: pointed rest
  | c :: rest => c :: pointed rest
  | [] => []

/-- **The keys** that a variable's name stands for, from the outermost table inwards. -/
def path? (name : String) : Option (List String) :=
  let letters := (Text.trim name.toList).map Char.toLower
  if mark.isPrefixOf letters then
    let keys := (Text.trim (pointed (letters.drop mark.length))).splitOnP (· == '.')
    if keys.any List.isEmpty then none else some (keys.map String.ofList)
  else none

/-- A value inside tables with one entry each. -/
def nest (path : List String) (value : Value) : Value :=
  path.foldr (fun key inner => .table [(key, inner)]) value

/-- The entries with what one more variable sets. -/
def addTo (below : Value.Entries) (name text : String) : Except Text.BadCut Value.Entries :=
  match path? name with
  | none => .ok below
  | some [] => .ok below
  | some (key :: rest) =>
    match Variable.read text with
    | .error cut => .error cut
    | .ok value => .ok (Value.put below key (nest rest value))

/-- **The settings in the environment**, as a table, unless reading a variable breaks down. -/
def toEntries (environment : Environment) : Except Text.BadCut Value.Entries :=
  environment.foldlM (fun below (name, text) => addTo below name text) []

end Environment

end DeviceBroker.Settings
