import DeviceBroker.Decimal.Shortest
import DeviceBroker.Text.Quoted

/-!
# `Value` — data whose type is known only when it is read

Settings come from documents and variables in which anything may stand in a setting's place. A value is
what was found there; a *mismatch* says what was found and what was expected.

When one table of values is laid over another, entries of both that are tables again are merged; any
other entry of the upper table replaces the one below.

## Contents

* `Value`, `Value.overlay` — values, and one value laid over another.
* `Found`, `Mismatch` — what was found instead of what was expected.
-/

namespace DeviceBroker

/-- A value of some type. -/
inductive Value where
  | null
  | bool (value : Bool)
  | integer (value : Int)
  | float (value : Binary64)
  | text (value : String)
  | list (items : List Value)
  | table (entries : List (String × Value))
  deriving Repr

namespace Value

/-- The entries of a table. -/
abbrev Entries := List (String × Value)

/-- The value of a key. -/
def lookup? (entries : Entries) (key : String) : Option Value :=
  (entries.find? (·.1 == key)).map (·.2)

/-- Sets the value of a key, keeping the place of an entry that exists. -/
def put (entries : Entries) (key : String) (value : Value) : Entries :=
  match entries with
  | [] => [(key, value)]
  | (other, old) :: rest =>
    if other == key then (key, value) :: rest else (other, old) :: put rest key value

mutual

/-- **One value over another.** -/
def overlay (below : Value) : Value → Value
  | .table above =>
    match below with
    | .table entries => .table (overlayEntries entries above)
    | _ => .table above
  | .null => .null
  | .bool value => .bool value
  | .integer value => .integer value
  | .float value => .float value
  | .text value => .text value
  | .list items => .list items

/-- The entries of a table over those of another. -/
def overlayEntries (below : Entries) : Entries → Entries
  | [] => below
  | (key, value) :: above =>
    let merged :=
      match lookup? below key with
      | some old => overlay old value
      | none => value
    overlayEntries (put below key merged) above

end

end Value

/-! ## Mismatches -/

/-- What was found. -/
inductive Found where
  | null
  | bool (value : Bool)
  | integer (value : Int)
  | float (value : Binary64)
  | text (value : String)
  | sequence
  | map
  deriving Repr, DecidableEq

/-- The wording of what was found. -/
def Found.message : Found → String
  | null => "null"
  | bool value => "boolean `" ++ (if value then "true" else "false") ++ "`"
  | integer value => "integer `" ++ toString value ++ "`"
  | float value => "floating point `" ++ Shortest.render value ++ "`"
  | text value => "string " ++ Text.Quoted.quote value
  | sequence => "sequence"
  | map => "map"

/-- What a value is when it is not what was expected. A number that is no finite one counts as nothing. -/
def Value.found : Value → Found
  | .null => .null
  | .bool value => .bool value
  | .integer value => .integer value
  | .float value => if value.isFinite then .float value else .null
  | .text value => .text value
  | .list _ => .sequence
  | .table _ => .map

/-- Why a value is not a setting's value. -/
inductive Mismatch where
  /-- The value is of another type. -/
  | type (found : Found) (expected : String)
  /-- The value is of the right type and out of range. -/
  | range (found : Found) (expected : String)
  /-- The word is none of the words allowed. -/
  | unknownVariant (name : String) (expected : String)
  /-- A key occurs twice. -/
  | duplicate (key : String)
  deriving Repr, DecidableEq

/-- The wording of a mismatch. -/
def Mismatch.message : Mismatch → String
  | type found expected => s!"invalid type: {found.message}, expected {expected}"
  | range found expected => s!"invalid value: {found.message}, expected {expected}"
  | unknownVariant name expected => "unknown variant `" ++ name ++ "`, expected " ++ expected
  | duplicate key => "duplicate field `" ++ key ++ "`"

end DeviceBroker
