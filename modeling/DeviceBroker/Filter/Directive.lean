import DeviceBroker.Decimal.Floating
import DeviceBroker.Decimal.Natural
import DeviceBroker.Filter.Pattern
import DeviceBroker.Text.Cut

/-!
# `Filter.Directive` — one piece of a log filter

A directive is written `target[span{fields}]=level`, each part optional. It says how verbose the records
may be that it concerns. A directive without a level lets everything pass, and a word alone is a level
if it names one and a target otherwise.

Blanks around a directive do not count when it is taken apart. Its parts are cut by their distance from
the start of the piece, blanks included, so a leading blank shifts every name by as many bytes as it has.
A cut that falls inside a character breaks the reading down.

The value of a field is a number or a pattern.

## Contents

* `Verbosity` — how much passes, and its names.
* `Directive`, `DirectiveError`.
* `Directive.Stage`, `Directive.advance` — a directive taken apart character by character.
* `Directive.read` — a whole piece.
-/

namespace DeviceBroker.Filter

/-- How much passes: nothing at zero, the errors at one, everything at five. -/
abbrev Verbosity := Nat

namespace Verbosity

/-- Everything passes. -/
def everything : Verbosity := 5

/-- The names of the steps, from nothing to everything. -/
def names : List String := ["off", "error", "warn", "info", "debug", "trace"]

/-- The step of a number or of a name in any ASCII case; no name at all stands for the errors. -/
def read? (text : String) : Option Verbosity :=
  match Natural.read text.toList with
  | .ok number => if number ≤ everything then some number else none
  | .error .empty => some 1
  | .error _ => names.findIdx? fun name => text.toList.map Char.toLower == name.toList

end Verbosity

/-- One piece of a filter. -/
structure Directive where
  /-- How much it lets pass. -/
  verbosity : Verbosity := Verbosity.everything
  /-- The targets it concerns, by their beginning. -/
  target : Option String := none
  /-- The span it concerns. -/
  span : Option String := none
  /-- The fields it concerns, some with a value. -/
  fields : List (String × Option String) := []
  deriving Repr, DecidableEq

/-- Why a text is no filter. -/
inductive DirectiveError where
  /-- A directive is not written as one. -/
  | shape
  /-- No level has this name. -/
  | level
  /-- The value of a field is no pattern. -/
  | field (fault : Pattern.Fault)
  /-- The piece cannot be cut there. -/
  | cut (cut : Text.BadCut)
  deriving Repr, DecidableEq

/-- The wording of an error. -/
def DirectiveError.message : DirectiveError → String
  | .shape => "invalid filter directive"
  | .level =>
    "error parsing level filter: expected one of \"off\", \"error\", \"warn\", \"info\", " ++
      "\"debug\", \"trace\", or a number 0-5"
  | .field fault => s!"invalid field filter: {fault.message}"
  | .cut bad => bad.message

namespace Directive

/-- Whether the directive concerns records outside of any span and whatever the values of their fields
    are. -/
def isStatic (directive : Directive) : Bool :=
  directive.span.isNone && directive.fields.all (·.2.isNone)

/-- Whether the directive has to do with spans or fields. -/
def isDynamic (directive : Directive) : Bool :=
  directive.span.isSome || !directive.fields.isEmpty

/-! ## Taking a piece apart -/

/-- Where the reading of a directive stands. A number is the place where the part being read began. -/
inductive Stage where
  | start
  | levelOrTarget (first : Nat)
  | span (first : Nat)
  | field (first : Nat)
  | fieldsEnd
  | target
  | level (first : Nat)
  deriving Repr, DecidableEq

/-- The part of a piece between two places, counted in bytes. -/
def cut (piece : String) (first stop : Nat) : Except DirectiveError String :=
  match Text.between piece.toList first stop with
  | .error cut => .error (.cut cut)
  | .ok part => .ok (String.ofList part)

/-- The part of a piece from a place to its end. -/
def cutRest (piece : String) (first : Nat) : Except DirectiveError String :=
  match Text.behind piece.toList first with
  | .error cut => .error (.cut cut)
  | .ok part => .ok (String.ofList part)

/-- The level written in a part; none is everything. -/
def levelOf (part : String) : Except DirectiveError Verbosity :=
  if part.isEmpty then .ok Verbosity.everything
  else
    match Verbosity.read? part with
    | some verbosity => .ok verbosity
    | none => .error .level

/-- The value of a field: a number, or a pattern. -/
def valueOf (text : List Char) : Except DirectiveError String :=
  if (Floating.read? text).isSome then .ok (String.ofList text)
  else
    match Pattern.check text with
    | .error fault => .error (.field fault)
    | .ok () => .ok (String.ofList text)

/-- A field: its name, and behind an equals sign its value. -/
def fieldOf (part : String) : Except DirectiveError (String × Option String) :=
  if part.isEmpty then .error .shape
  else
    let name := String.ofList (part.toList.takeWhile (· ≠ '='))
    match part.toList.dropWhile (· ≠ '=') with
    | [] => .ok (name, none)
    | _ :: rest => (valueOf (rest.takeWhile (· ≠ '='))).map fun value => (name, some value)

/-- Whether a directive without a leading bracket may begin with this character. -/
def mayBegin (c : Char) : Bool :=
  c == '-' || c == ':' || c == '_' || Text.isAlphanumeric c

/-- The target ends before place `here`. -/
def endTarget (piece : String) (directive : Directive) (first here : Nat) (next : Stage) :
    Except DirectiveError (Directive × Stage) :=
  (cut piece first here).map fun target => ({ directive with target := some target }, next)

/-- The span ends before place `here` and has no fields. -/
def endSpan (piece : String) (directive : Directive) (first here : Nat) :
    Except DirectiveError (Directive × Stage) :=
  (cut piece first here).map fun span => ({ directive with span := some span }, .target)

/-- The span ends before place `here` and its fields follow. -/
def beginFields (piece : String) (directive : Directive) (first here : Nat) :
    Except DirectiveError (Directive × Stage) :=
  (cut piece first here).map fun span =>
    ({ directive with span := if span.isEmpty then none else some span }, .field (here + 1))

/-- The fields end before place `here`. -/
def endField (piece : String) (directive : Directive) (first here : Nat) :
    Except DirectiveError (Directive × Stage) :=
  match cut piece first here with
  | .error e => .error e
  | .ok part =>
    (fieldOf part).map fun field =>
      ({ directive with fields := directive.fields ++ [field] }, .fieldsEnd)

/-- **One character further**, at place `here` of the piece. -/
def advance (piece : String) (directive : Directive) (stage : Stage) (here : Nat) (c : Char) :
    Except DirectiveError (Directive × Stage) :=
  match stage with
  | .start =>
    if c = '[' then .ok (directive, .span (here + 1))
    else if mayBegin c then .ok (directive, .levelOrTarget here)
    else .error .shape
  | .levelOrTarget first =>
    if c = '=' then endTarget piece directive first here (.level (here + 1))
    else if c = '[' then endTarget piece directive first here (.span (here + 1))
    else .ok (directive, stage)
  | .span first =>
    if c = ']' then endSpan piece directive first here
    else if c = '\x7b' then beginFields piece directive first here
    else .ok (directive, stage)
  | .field first =>
    if c = '\x7d' then endField piece directive first here else .ok (directive, stage)
  | .fieldsEnd => if c = ']' then .ok (directive, .target) else .error .shape
  | .target => if c = '=' then .ok (directive, .level (here + 1)) else .error .shape
  | .level _ => .ok (directive, stage)

/-- All characters, from place `here` on. -/
def advanceAll (piece : String) (directive : Directive) (stage : Stage) (here : Nat) :
    List Char → Except DirectiveError (Directive × Stage)
  | [] => .ok (directive, stage)
  | c :: rest =>
    match advance piece directive stage here c with
    | .error e => .error e
    | .ok (directive, stage) => advanceAll piece directive stage (here + c.utf8Size) rest

/-- A part that stands alone is a level if it names one, and a target otherwise. -/
def alone (directive : Directive) (part : String) : Directive :=
  match Verbosity.read? part with
  | some verbosity => { directive with verbosity, target := none }
  | none => { directive with target := some part }

/-- What the end of the piece makes of the directive. -/
def finish (piece : String) (directive : Directive) : Stage → Except DirectiveError Directive
  | .levelOrTarget first => (cutRest piece first).map (alone directive)
  | .level first =>
    match cutRest piece first with
    | .error e => .error e
    | .ok part => (levelOf part).map fun verbosity => { directive with verbosity }
  | .target => .ok directive
  | _ => .error .shape

/-- **The directive of a piece.** -/
def read (piece : String) : Except DirectiveError Directive :=
  match advanceAll piece {} .start 0 (Text.trim piece.toList) with
  | .error e => .error e
  | .ok (directive, stage) => finish piece directive stage

end Directive

end DeviceBroker.Filter
