import DeviceBroker.Text.Blank
import DeviceBroker.Text.Hexadecimal

/-!
# `Filter.Pattern.Atom` — the smallest parts of a pattern

An atom is a character that stands for itself, a set of characters that a letter stands for, any
character, or a place. Most of them may be written with a backslash.

A pattern is read in one of two ways. In characters, it knows neither the case of letters nor sets that
go by a letter. In single bytes, it knows both for ASCII, and nothing in it may reach beyond ASCII.

## Contents

* `Pattern.Flags` — how a pattern is read.
* `Pattern.Atom`, `Pattern.readEscape` — atoms, and those written with a backslash.
* `Pattern.Atom.isSupported`, `Pattern.Atom.isMember` — where an atom may stand.
-/

namespace DeviceBroker.Filter.Pattern

/-- How a pattern is read, from some place on. -/
structure Flags where
  /-- Letters of either case are the same. -/
  ignoreCase : Bool := false
  /-- The pattern is about characters, not about single bytes. -/
  inCharacters : Bool := true
  /-- Blanks and comments in the pattern do not count. -/
  spaced : Bool := false
  deriving Repr, DecidableEq

namespace Flags

/-- The letters of all flags; those that change nothing about which patterns are well-formed are no part
    of `Flags`. -/
def letters : List Char := ['i', 'm', 's', 'U', 'u', 'R', 'x']

/-- Switches the flag of a letter. -/
def set (flags : Flags) (letter : Char) (on : Bool) : Flags :=
  match letter with
  | 'i' => { flags with ignoreCase := on }
  | 'u' => { flags with inCharacters := on }
  | 'x' => { flags with spaced := on }
  | _ => flags

end Flags

/-- Drops blanks and comments from the front; a comment goes to the end of its line. -/
def dropSpace (inComment : Bool) : List Char → List Char
  | [] => []
  | c :: rest =>
    if inComment then dropSpace (c ≠ '\n') rest
    else if Text.isBlank c then dropSpace false rest
    else if c = '#' then dropSpace true rest
    else c :: rest

/-- Drops what does not count from the front. -/
def Flags.skip (flags : Flags) (text : List Char) : List Char :=
  if flags.spaced then dropSpace false text else text

/-- The smallest part of a pattern. -/
inductive Atom where
  /-- A character; `asByte` says that two digits in base sixteen name it. -/
  | literal (c : Char) (asByte : Bool)
  /-- The set of characters that a letter stands for, or all others. -/
  | letterSet (negated : Bool)
  /-- Any character. -/
  | any
  /-- An end of the text or of a line. -/
  | textEdge
  /-- An end of a word, or a place that is none. -/
  | wordEdge
  deriving Repr, DecidableEq

/-- Reads the number of a character in so many digits. -/
def readCode (flags : Flags) : Nat → Nat → List Char → Option (Char × List Char)
  | 0, value, text => (Text.Hexadecimal.character? value).map fun c => (c, text)
  | left + 1, value, text =>
    match flags.skip text with
    | [] => none
    | c :: rest =>
      match Text.Hexadecimal.digit? c with
      | none => none
      | some d => readCode flags left (value * 16 + d) rest

/-- What a character means behind a backslash. Punctuation stands for itself; a letter or a digit means
    something of its own or nothing. -/
def escaped? (c : Char) : Option Atom :=
  match c with
  | 'd' | 's' | 'w' => some (.letterSet false)
  | 'D' | 'S' | 'W' => some (.letterSet true)
  | 'A' | 'z' => some .textEdge
  | 'b' | 'B' | '<' | '>' => some .wordEdge
  | 'a' => some (.literal '\x07' false)
  | 'f' => some (.literal '\x0c' false)
  | 't' => some (.literal '\t' false)
  | 'n' => some (.literal '\n' false)
  | 'r' => some (.literal '\r' false)
  | 'v' => some (.literal '\x0b' false)
  | c => if c.toNat < 0x80 && !c.isAlphanum then some (.literal c false) else none

/-- **Reads an atom behind its backslash.** -/
def readEscape (flags : Flags) : List Char → Option (Atom × List Char)
  | [] => none
  | 'x' :: rest => (readCode flags 2 0 rest).map fun (c, rest) => (.literal c true, rest)
  | 'u' :: rest => (readCode flags 4 0 rest).map fun (c, rest) => (.literal c false, rest)
  | 'U' :: rest => (readCode flags 8 0 rest).map fun (c, rest) => (.literal c false, rest)
  | c :: rest => (escaped? c).map fun atom => (atom, rest)

/-- Whether a character is one byte. -/
def isAscii (c : Char) : Bool :=
  c.toNat < 0x80

/-- Whether a pattern may have an atom by itself. -/
def Atom.isSupported (flags : Flags) : Atom → Bool
  | .literal c asByte => if flags.inCharacters then !flags.ignoreCase else isAscii c || !asByte
  | .letterSet negated => !flags.inCharacters && !negated
  | .any => flags.inCharacters
  | .textEdge => true
  | .wordEdge => true

/-- Whether a set in brackets may have an atom as a member. -/
def Atom.isMember (flags : Flags) : Atom → Bool
  | .literal c _ => if flags.inCharacters then !flags.ignoreCase else isAscii c
  | .letterSet negated => !flags.inCharacters && !negated
  | _ => false

end DeviceBroker.Filter.Pattern
