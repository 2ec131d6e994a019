import DeviceBroker.Filter.Pattern.Set
import DeviceBroker.Text.Alphanumeric

/-!
# `Filter.Pattern` — patterns for the values of fields

A field in a directive may be followed by a pattern that its value has to match. No record is ever matched
against one here, but a filter with a pattern that is not well-formed is refused.

A pattern is a choice between sequences of atoms, sets and groups, each with repetition marks behind it or
not. Parentheses make a group, or set flags from there to the end of the group around them. A brace
would begin a number of repetitions; since directives end fields at a closing brace, no such number can
be complete. Patterns look at no text outside of what they match, and they nest up to a fixed depth.

Ends of words are understood in single bytes only. That is found out last, so a pattern with any other
fault has that fault.

## Contents

* `Pattern.Fault` — why a text is no pattern.
* `Pattern.Reading`, `Pattern.Reading.step` — a pattern being read.
* `Pattern.check` — a whole text.
-/

namespace DeviceBroker.Filter.Pattern

/-- Why a text is no pattern. -/
inductive Fault where
  /-- The pattern is not well-formed, or has something that is not supported. -/
  | malformed
  /-- The pattern has ends of words and is read in characters. -/
  | wordEdge
  deriving Repr, DecidableEq

/-- The wording of a fault. -/
def Fault.message : Fault → String
  | malformed => "error building NFA"
  | wordEdge =>
    "unsupported regex feature for DFAs: cannot build DFAs for regexes with Unicode word " ++
      "boundaries; switch to ASCII word boundaries, or heuristically enable Unicode word " ++
      "boundaries or use a different regex engine"

/-- An open group: what stands before it, and how the pattern was read there. -/
structure Frame where
  parts : Extent
  branches : Extent
  flags : Flags
  deriving Repr, DecidableEq

/-- A pattern being read. -/
structure Reading where
  flags : Flags := {}
  /-- The parts of the present branch. -/
  parts : Extent := {}
  /-- How deep the last part nests, if it can be repeated. -/
  last : Option Nat := none
  /-- The branches before the present one, in the present group. -/
  branches : Extent := {}
  /-- The open groups, innermost first. -/
  outer : List Frame := []
  /-- The names of groups. -/
  names : List (List Char) := []
  /-- Whether an end of a word was met while reading in characters. -/
  hasWordEdge : Bool := false
  deriving Repr, DecidableEq

namespace Reading

/-- A part more, one that can be repeated. -/
def add (reading : Reading) (depth : Nat) : Reading :=
  { reading with parts := reading.parts.add depth, last := some depth }

/-- How deep the present group nests so far. -/
def total (reading : Reading) : Nat :=
  (reading.branches.add reading.parts.total).total

/-- A branch more. -/
def branch (reading : Reading) : Reading :=
  { reading with parts := {}, last := none, branches := reading.branches.add reading.parts.total }

/-- The last part is repeated. -/
def repeated (reading : Reading) : Option Reading :=
  reading.last.map fun depth =>
    { reading with
      parts := { reading.parts with depth := max reading.parts.depth (depth + 1) }
      last := some (depth + 1) }

/-- A group opens, read in its own way. -/
def push (reading : Reading) (flags : Flags) : Reading :=
  { reading with
    flags, parts := {}, last := none, branches := {}
    outer := { parts := reading.parts, branches := reading.branches, flags := reading.flags } ::
      reading.outer }

/-- The innermost group closes, and with it end its flags. -/
def close (reading : Reading) : Option Reading :=
  match reading.outer with
  | [] => none
  | frame :: outer =>
    some (add { reading with
      flags := frame.flags, parts := frame.parts, branches := frame.branches, outer }
      (reading.total + 1))

/-- An atom. -/
def addAtom (reading : Reading) (atom : Atom) : Option Reading :=
  if atom.isSupported reading.flags then
    let isEdge := atom == .wordEdge && reading.flags.inCharacters
    some { reading.add 0 with hasWordEdge := reading.hasWordEdge || isEdge }
  else none

/-! ## What parentheses open -/

/-- Whether a character may stand in the name of a group. -/
def isNameChar (isFirst : Bool) (c : Char) : Bool :=
  c == '_' ||
    if isFirst then Text.isAlphabetic c else ['.', '[', ']'].contains c || Text.isAlphanumeric c

/-- A group with a name, which no other group may have. -/
def named (reading : Reading) (text : List Char) : Option (Reading × List Char) :=
  let name := text.takeWhile (· ≠ '>')
  match name, text.dropWhile (· ≠ '>') with
  | first :: others, _ :: rest =>
    if isNameChar true first && others.all (isNameChar false) && !reading.names.contains name then
      some ({ reading with names := name :: reading.names }.push reading.flags, rest)
    else none
  | _, _ => none

/-- Flags being read: what they say so far, the letters that have come, whether a hyphen has, and whether
    it was the last thing. -/
structure Switches where
  flags : Flags
  letters : List Char := []
  negated : Bool := false
  isOpen : Bool := false
  deriving Repr, DecidableEq

/-- Flags up to the character that ends them. No letter comes twice, and a hyphen, behind which letters
    switch off, is neither repeated nor the last. Flags alone are at least one and hold from here on; before
    a colon they hold in a new group. -/
def switched (reading : Reading) (switches : Switches) :
    List Char → Option (Reading × List Char)
  | [] => none
  | ':' :: rest => if switches.isOpen then none else some (reading.push switches.flags, rest)
  | ')' :: rest =>
    if switches.isOpen || switches.letters.isEmpty then none
    else
      some ({ reading with
        flags := switches.flags, parts := reading.parts.add 0, last := none }, rest)
  | '-' :: rest =>
    if switches.negated then none
    else reading.switched { switches with negated := true, isOpen := true } rest
  | letter :: rest =>
    if Flags.letters.contains letter && !switches.letters.contains letter then
      reading.switched
        { switches with
          flags := switches.flags.set letter (!switches.negated)
          letters := letter :: switches.letters
          isOpen := false } rest
    else none

/-- What stands behind an opening parenthesis. A group must not look at the text around it. -/
def opened (reading : Reading) (text : List Char) : Option (Reading × List Char) :=
  match reading.flags.skip text with
  | '?' :: '=' :: _ => none
  | '?' :: '!' :: _ => none
  | '?' :: '<' :: '=' :: _ => none
  | '?' :: '<' :: '!' :: _ => none
  | '?' :: 'P' :: '<' :: rest => reading.named rest
  | '?' :: '<' :: rest => reading.named rest
  | '?' :: rest => reading.switched { flags := reading.flags } rest
  | rest => some (reading.push reading.flags, rest)

/-! ## The whole -/

/-- A mark behind a repetition mark that changes only how much is preferred. -/
def dropPreference : List Char → List Char
  | '?' :: rest => rest
  | rest => rest

/-- **One part** of a pattern, at the front of a text that begins with something that counts. -/
def step (reading : Reading) (c : Char) (rest : List Char) : Option (Reading × List Char) :=
  match c with
  | '(' => reading.opened rest
  | ')' => reading.close.map fun reading => (reading, rest)
  | '|' => some (reading.branch, rest)
  | '[' =>
    (readSet reading.flags rest).map fun (depth, rest) => (reading.add depth, rest)
  | '?' | '*' | '+' => reading.repeated.map fun reading => (reading, dropPreference rest)
  | '\x7b' => none
  | '\\' =>
    match readEscape reading.flags rest with
    | none => none
    | some (atom, rest) => (reading.addAtom atom).map fun reading => (reading, rest)
  | '.' => (reading.addAtom .any).map fun reading => (reading, rest)
  | '^' | '$' => (reading.addAtom .textEdge).map fun reading => (reading, rest)
  | c => (reading.addAtom (.literal c false)).map fun reading => (reading, rest)

/-- All parts. Every step takes up some of the text, so `fuel` need not be more than its length. -/
def steps (reading : Reading) (text : List Char) : Nat → Option Reading
  | 0 => if (reading.flags.skip text).isEmpty then some reading else none
  | fuel + 1 =>
    match reading.flags.skip text with
    | [] => some reading
    | c :: rest =>
      match reading.step c rest with
      | none => none
      | some (reading, rest) => reading.steps rest fuel

end Reading

/-- How deep a pattern may nest. -/
def maxDepth : Nat := 250

/-- **Whether a text is a pattern.** -/
def check (text : List Char) : Except Fault Unit :=
  match ({} : Reading).steps text text.length with
  | none => .error .malformed
  | some reading =>
    if !reading.outer.isEmpty || maxDepth < reading.total then .error .malformed
    else if reading.hasWordEdge then .error .wordEdge
    else .ok ()

end DeviceBroker.Filter.Pattern
