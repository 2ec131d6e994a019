import DeviceBroker.Filter.Pattern.Atom

/-!
# `Filter.Pattern.Set` — sets of characters in brackets

A set lists characters, ranges of characters, sets that go by a name, and further sets in brackets.
Operators between lists take what both sides have, what only the first has, or what just one has. A caret
at the beginning means all other characters.

A closing bracket that comes first stands for itself, and so do hyphens there.

Sets nest, and a pattern may nest only so deep; so reading a set gives its depth.

## Contents

* `Pattern.Extent` — parts side by side, and how deep they nest.
* `Pattern.Level` — an open bracket.
* `Pattern.readSet` — a set behind its opening bracket.
-/

namespace DeviceBroker.Filter.Pattern

/-- Parts that stand side by side: how many there are, and how deep the deepest one nests. -/
structure Extent where
  count : Nat := 0
  depth : Nat := 0
  deriving Repr, DecidableEq

namespace Extent

/-- One part more. -/
def add (extent : Extent) (depth : Nat) : Extent :=
  { count := extent.count + 1, depth := max extent.depth depth }

/-- How deep the parts nest together: two or more are one level deeper than the deepest. -/
def total (extent : Extent) : Nat :=
  if extent.count < 2 then extent.depth else extent.depth + 1

end Extent

/-- An open bracket. -/
structure Level where
  /-- The members since the last operator. -/
  parts : Extent := {}
  /-- How deep nests what stands before the last operator. -/
  left : Option Nat := none
  /-- Whether nothing but hyphens has come so far. -/
  isFresh : Bool := true
  deriving Repr, DecidableEq

namespace Level

/-- A member more. -/
def add (level : Level) (depth : Nat) : Level :=
  { level with parts := level.parts.add depth, isFresh := false }

/-- How deep everything so far nests. -/
def total (level : Level) : Nat :=
  match level.left with
  | none => level.parts.total
  | some left => max left level.parts.total + 1

/-- An operator. -/
def split (level : Level) : Level :=
  { left := some level.total, isFresh := false }

end Level

/-- The names of sets. -/
def setNames : List String :=
  ["alnum", "alpha", "ascii", "blank", "cntrl", "digit", "graph", "lower", "print", "punct",
   "space", "upper", "word", "xdigit"]

/-- Reads a set that goes by its name, behind its opening bracket, and whether all others are meant;
    nothing if no such set stands there. -/
def readNamed (text : List Char) : Option (Bool × List Char) :=
  match text with
  | ':' :: rest =>
    let (negated, rest) :=
      match rest with
      | '^' :: rest => (true, rest)
      | rest => (false, rest)
    match rest.dropWhile (· ≠ ':') with
    | ':' :: ']' :: behind =>
      if setNames.contains (String.ofList (rest.takeWhile (· ≠ ':'))) then some (negated, behind)
      else none
    | _ => none
  | _ => none

/-- Whether a set may have the members of a named set. -/
def isNamedMember (flags : Flags) (negated : Bool) : Bool :=
  if flags.inCharacters then !flags.ignoreCase else !negated

/-- Opens a set behind its bracket. -/
def openSet (flags : Flags) (text : List Char) : Option (Level × List Char) :=
  match flags.skip text with
  | '^' :: rest => if flags.inCharacters then some ({}, rest) else none
  | rest => some ({}, rest)

/-- Reads a member that is an atom. -/
def readMember (flags : Flags) : List Char → Option (Atom × List Char)
  | [] => none
  | '\\' :: rest => readEscape flags rest
  | c :: rest => some (.literal c false, rest)

/-- The character behind a hyphen. The mark of a comment counts as a blank here, its text does not. -/
def behindHyphen? (flags : Flags) (text : List Char) : Option Char :=
  if flags.spaced then
    match text.dropWhile Text.isBlank with
    | '#' :: rest => (rest.dropWhile Text.isBlank).head?
    | rest => rest.head?
  else text.head?

/-- Whether a text, behind an atom, goes on with a range. -/
def isRange (flags : Flags) (text : List Char) : Bool :=
  match text with
  | '-' :: rest => behindHyphen? flags rest != some ']' && behindHyphen? flags rest != some '-'
  | _ => false

/-- Whether two atoms are the ends of a range. -/
def areEnds (flags : Flags) : Atom → Atom → Bool
  | .literal a x, .literal b y =>
    a ≤ b && (Atom.literal a x).isMember flags && (Atom.literal b y).isMember flags
  | _, _ => false

/-- Reads an atom or a range; the text behind it. -/
def readRange (flags : Flags) (text : List Char) : Option (List Char) :=
  match readMember flags text with
  | none => none
  | some (first, rest) =>
    let rest := flags.skip rest
    if isRange flags rest then
      match readMember flags (flags.skip (rest.drop 1)) with
      | none => none
      | some (last, rest) => if areEnds flags first last then some rest else none
    else if first.isMember flags then some rest
    else none

/-- What one step inside brackets leads to. -/
inductive SetStep where
  /-- The set goes on, the innermost bracket first. -/
  | inside (level : Level) (outer : List Level) (rest : List Char)
  /-- The set is complete and nests so deep. -/
  | complete (depth : Nat) (rest : List Char)
  deriving Repr, DecidableEq

/-- Closes the innermost bracket. -/
def closeSet (level : Level) (outer : List Level) (rest : List Char) : SetStep :=
  match outer with
  | [] => .complete (level.total + 1) rest
  | above :: outer => .inside (above.add (level.total + 1)) outer rest

/-- A member that is a character. -/
def addCharacter (flags : Flags) (c : Char) (level : Level) (outer : List Level)
    (rest : List Char) : Option SetStep :=
  if (Atom.literal c false).isMember flags then some (.inside (level.add 0) outer rest) else none

/-- A bracket inside brackets: a set that goes by its name, or a new level. -/
def openInner (flags : Flags) (level : Level) (outer : List Level) (rest : List Char) :
    Option SetStep :=
  match readNamed rest with
  | some (negated, rest) =>
    if isNamedMember flags negated then some (.inside (level.add 0) outer rest) else none
  | none =>
    (openSet flags rest).map fun (inner, rest) =>
      .inside inner ({ level with isFresh := false } :: outer) rest

/-- **One step** inside brackets. -/
def setStep (flags : Flags) (level : Level) (outer : List Level) (text : List Char) :
    Option SetStep :=
  match flags.skip text with
  | [] => none
  | '[' :: rest => openInner flags level outer rest
  | ']' :: rest =>
    if level.isFresh && level.parts.count == 0 then addCharacter flags ']' level outer rest
    else some (closeSet level outer rest)
  | '-' :: rest =>
    if level.isFresh then
      if (Atom.literal '-' false).isMember flags then
        some (.inside { level with parts := level.parts.add 0 } outer rest)
      else none
    else
      match rest with
      | '-' :: rest => some (.inside level.split outer rest)
      | rest =>
        (readRange flags ('-' :: rest)).map fun rest => .inside (level.add 0) outer rest
  | '&' :: '&' :: rest => some (.inside level.split outer rest)
  | '~' :: '~' :: rest => some (.inside level.split outer rest)
  | other => (readRange flags other).map fun rest => .inside (level.add 0) outer rest

/-- All steps up to the last bracket. Every step takes up some of the text, so `fuel` need not be more
    than its length. -/
def setSteps (flags : Flags) (level : Level) (outer : List Level) (text : List Char) :
    Nat → Option (Nat × List Char)
  | 0 => none
  | fuel + 1 =>
    match setStep flags level outer text with
    | none => none
    | some (.complete depth rest) => some (depth, rest)
    | some (.inside level outer rest) => setSteps flags level outer rest fuel

/-- **Reads a set** behind its opening bracket: how deep it nests, and the text behind it. -/
def readSet (flags : Flags) (text : List Char) : Option (Nat × List Char) :=
  match openSet flags text with
  | none => none
  | some (level, rest) => setSteps flags level [] rest rest.length

end DeviceBroker.Filter.Pattern
