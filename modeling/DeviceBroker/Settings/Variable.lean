import DeviceBroker.Decimal.Floating
import DeviceBroker.Decimal.Natural
import DeviceBroker.Text.Blank
import DeviceBroker.Text.Cut
import DeviceBroker.Text.Hexadecimal
import DeviceBroker.Value

/-!
# `Settings.Variable` — values of environment variables

A variable's text says by its form what it is: a list of texts if it has commas, a truth value, a number,
a text or a single character in quotes, a list in brackets, a table in braces. A text that has none of
these forms, or only begins like one, stands for itself.

A text in quotes holds no controls but tabs. Where its first backslash stands, what was read up to there
is replaced by the beginning of the text: as many bytes as there were characters. So backslashes behind
characters of several bytes lose some of these, and one whose place is inside a character breaks the
reading down altogether.

## Contents

* `Variable.integer?`, `Variable.plain` — numbers, and texts without quotes.
* `Variable.Fault`, `Variable.unescape` — what a text in quotes says.
* `Variable.value`, `Variable.items`, `Variable.members` — values, and what stands between brackets.
* `Variable.read` — a whole text.
-/

namespace DeviceBroker.Settings.Variable

/-- The characters that separate values and their parts. -/
def isBlank (c : Char) : Bool :=
  c == ' ' || c == '\t' || c == '\n' || c == '\x0c' || c == '\r'

/-- Drops blanks from the front. -/
def skip (text : List Char) : List Char :=
  text.dropWhile isBlank

/-! ## Numbers -/

/-- A whole number: of 64 bits without a sign, or of 64 bits with one. -/
def integer? (text : List Char) : Option Int :=
  match Natural.read text with
  | .ok n => some n
  | .error _ =>
    match text with
    | '-' :: digits =>
      if digits.head? = some '+' then none
      else
        match Natural.read digits with
        | .ok n => if n ≤ Nat.pow 2 63 then some (-n) else none
        | .error _ => none
    | _ => none

/-- What a text without quotes or brackets stands for: a floating-point number if it has a point and is
    one, a whole number if it is one, else itself. -/
def plain (text : List Char) : Value :=
  match if text.contains '.' then Floating.read? text else none with
  | some number => .float number
  | none =>
    match integer? text with
    | some number => .integer number
    | none => .text (String.ofList text)

/-! ## Quotes -/

/-- Why a text is not read as a value. -/
inductive Fault where
  /-- It is not written as one. -/
  | malformed
  /-- A backslash stands at a place that is inside a character. -/
  | cut (cut : Text.BadCut)
  deriving Repr, DecidableEq

/-- A character that a backslash turns into another one. -/
def escaped? : Char → Option Char
  | '"' => some '"'
  | '\\' => some '\\'
  | 'b' => some '\x08'
  | 'f' => some '\x0c'
  | 'n' => some '\n'
  | 'r' => some '\r'
  | 't' => some '\t'
  | _ => none

/-- Splits a text behind its first quote at the quote that ends it; a quote behind a backslash does not. -/
def splitQuoted (seen : List Char) : List Char → Option (List Char × List Char)
  | [] => none
  | '"' :: rest => some (seen.reverse, rest)
  | '\\' :: c :: rest => splitQuoted (c :: '\\' :: seen) rest
  | c :: rest => splitQuoted (c :: seen) rest

/-- Whether a character may stand in a text in quotes. -/
def isShown (c : Char) : Bool :=
  c == '\t' || (' ' ≤ c && c ≠ '\x7f')

/-- What was read up to a backslash: if it is the first one, the beginning of `whole` with as many bytes
    as characters were read. -/
def atBackslash (whole : List Char) (index : Nat) (isFirst : Bool) (said : List Char) :
    Except Fault (List Char) :=
  match Text.between whole 0 index with
  | .error cut => .error (.cut cut)
  | .ok front => .ok (if isFirst then front.reverse else said)

/-- Adds the character that a backslash stands for. -/
def say (said : Except Fault (List Char)) (meant : Option Char) : Except Fault (List Char) :=
  match said, meant with
  | .error fault, _ => .error fault
  | .ok _, none => .error .malformed
  | .ok said, some c => .ok (c :: said)

/-- What the inside of a text in quotes says. `index` counts the characters read so far, and `said` holds
    what they say, last one first. -/
def unescapeFrom (whole : List Char) (index : Nat) (isFirst : Bool) (said : List Char) :
    List Char → Except Fault (List Char)
  | [] => .ok said.reverse
  | '\\' :: 'u' :: a :: b :: c :: d :: rest =>
    match say (atBackslash whole index isFirst said) (Text.Hexadecimal.read? [a, b, c, d]) with
    | .error fault => .error fault
    | .ok said => unescapeFrom whole (index + 6) false said rest
  | '\\' :: 'U' :: a :: b :: c :: d :: e :: f :: g :: h :: rest =>
    match say (atBackslash whole index isFirst said)
      (Text.Hexadecimal.read? [a, b, c, d, e, f, g, h]) with
    | .error fault => .error fault
    | .ok said => unescapeFrom whole (index + 10) false said rest
  | '\\' :: c :: rest =>
    match say (atBackslash whole index isFirst said) (escaped? c) with
    | .error fault => .error fault
    | .ok said => unescapeFrom whole (index + 2) false said rest
  | c :: rest =>
    if isShown c then unescapeFrom whole (index + 1) isFirst (c :: said) rest
    else .error .malformed

/-- **What the inside of a text in quotes says.** -/
def unescape (inside : List Char) : Except Fault (List Char) :=
  unescapeFrom inside 0 true [] inside

/-- **A text in quotes**, behind the first quote: what it says, and what stands behind it. -/
def quoted (text : List Char) : Except Fault (List Char × List Char) :=
  match splitQuoted [] text with
  | none => .error .malformed
  | some (inside, rest) =>
    match unescape inside with
    | .error fault => .error fault
    | .ok said => .ok (said, rest)

/-- **A character in quotes**, behind the first quote. -/
def character : List Char → Except Fault (Char × List Char)
  | c :: '\'' :: rest => .ok (c, rest)
  | _ => .error .malformed

/-! ## Brackets -/

/-- Whether a character may stand in a key without quotes. -/
def isKeyChar (c : Char) : Bool :=
  c.isAlphanum || c == '_' || c == '-'

/-- Whether a character ends a value without quotes. -/
def isSeparator (c : Char) : Bool :=
  [',', '\x7b', '\x7d', '[', ']'].contains c

/-- The name of a key, in quotes or without. -/
def keyName (text : List Char) : Except Fault (List Char × List Char) :=
  match skip text with
  | '"' :: rest => quoted rest
  | rest =>
    let name := rest.takeWhile isKeyChar
    if name.isEmpty then .error .malformed else .ok (name, rest.dropWhile isKeyChar)

/-- A key and the equals sign behind it. -/
def key (text : List Char) : Except Fault (String × List Char) :=
  match keyName text with
  | .error fault => .error fault
  | .ok (name, rest) =>
    match skip rest with
    | '=' :: rest => .ok (String.ofList name, rest)
    | _ => .error .malformed

/-- A value that has no brackets. -/
def leaf (text : List Char) : Except Fault (Value × List Char) :=
  match text with
  | 't' :: 'r' :: 'u' :: 'e' :: rest => .ok (.bool true, rest)
  | 'f' :: 'a' :: 'l' :: 's' :: 'e' :: rest => .ok (.bool false, rest)
  | '"' :: rest => (quoted rest).map fun (said, rest) => (.text (String.ofList said), rest)
  | '\'' :: rest => (character rest).map fun (c, rest) => (.text (String.singleton c), rest)
  | _ =>
    .ok (plain (Text.trim (text.takeWhile (!isSeparator ·))), text.dropWhile (!isSeparator ·))

mutual

/-- A value and the blanks around it; `fuel` bounds the number of values and brackets. -/
def value (fuel : Nat) (text : List Char) : Except Fault (Value × List Char) :=
  match fuel with
  | 0 => .error .malformed
  | fuel + 1 =>
    let found : Except Fault (Value × List Char) :=
      match skip text with
      | '\x7b' :: rest => (members fuel [] rest).map fun (entries, rest) => (.table entries, rest)
      | '[' :: rest => (items fuel [] rest).map fun (list, rest) => (.list list, rest)
      | other => leaf other
    found.map fun (found, rest) => (found, skip rest)

/-- Values up to a closing bracket, the last one followed by a comma or not. -/
def items (fuel : Nat) (seen : List Value) (text : List Char) :
    Except Fault (List Value × List Char) :=
  match fuel with
  | 0 => .error .malformed
  | fuel + 1 =>
    match text with
    | ']' :: rest => .ok (seen, rest)
    | text =>
      match value fuel text with
      | .error fault => .error fault
      | .ok (found, ']' :: rest) => .ok (seen ++ [found], rest)
      | .ok (found, ',' :: rest) => items fuel (seen ++ [found]) rest
      | .ok _ => .error .malformed

/-- Keys with values up to a closing brace; of two values of a key the later one counts. -/
def members (fuel : Nat) (seen : Value.Entries) (text : List Char) :
    Except Fault (Value.Entries × List Char) :=
  match fuel with
  | 0 => .error .malformed
  | fuel + 1 =>
    match text with
    | '\x7d' :: rest => .ok (seen, rest)
    | text =>
      match key text with
      | .error fault => .error fault
      | .ok (name, rest) =>
        match value fuel rest with
        | .error fault => .error fault
        | .ok (found, '\x7d' :: rest) => .ok (Value.put seen name found, rest)
        | .ok (found, ',' :: rest) => members fuel (Value.put seen name found) rest
        | .ok _ => .error .malformed

end

/-! ## Whole texts -/

/-- How many values and brackets a text can hold. -/
def bound (text : List Char) : Nat :=
  2 * text.length + 2

/-- Whether a text with commas is a list of texts: it does not begin like a value in brackets or
    quotes. -/
def isCommaList (text : List Char) : Bool :=
  text.contains ',' &&
    match text with
    | c :: _ => !(['[', '\x7b', '"', '\''].contains c)
    | [] => false

/-- The texts between commas, without the blanks around them. -/
def commaList (text : List Char) : Value :=
  .list ((text.splitOnP (· == ',')).map fun piece => .text (String.ofList (Text.trim piece)))

/-- Whether a text is a word in any ASCII case. -/
def isWord (text : List Char) (word : String) : Bool :=
  text.map Char.toLower == word.toList

/-- **The value of a text**, unless reading it breaks down. -/
def read (text : String) : Except Text.BadCut Value :=
  let trimmed := Text.trim text.toList
  if isCommaList trimmed then .ok (commaList trimmed)
  else if isWord trimmed "true" then .ok (.bool true)
  else if isWord trimmed "false" then .ok (.bool false)
  else
    match value (bound trimmed) trimmed with
    | .ok (found, []) => .ok found
    | .error (.cut cut) => .error cut
    | _ => .ok (.text (String.ofList trimmed))

end DeviceBroker.Settings.Variable
