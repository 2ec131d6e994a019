import DeviceBroker.Text.Hexadecimal

/-!
# `Toml.Token` — the words of a TOML document

A document is cut into blanks, line ends, comments, symbols, quoted texts and *atoms*: everything else,
in runs as long as possible. What an atom means depends on where it stands and is not decided here. A
line ends at a newline, with or without a carriage return before it, and inside a text over several
lines either is a newline.

The cut is made by a machine that takes one character at a time. A character that ends an atom, a run of
blanks or a run of quotes is taken once more as the beginning of what follows.

## Contents

* `Toml.Token` — the words.
* `Toml.Mode`, `Toml.Lexer`, `Toml.Lexer.step` — the machine.
* `Toml.tokens?` — a whole document.
-/

namespace DeviceBroker.Toml

/-- A word of a document. -/
inductive Token where
  /-- Blanks; `single` says that it is one space alone. -/
  | blank (single : Bool)
  | newline
  | comment
  /-- A bracket, a brace, a comma, a point or an equals sign. -/
  | symbol (c : Char)
  /-- A quoted text; `lines` says that it may go over several lines. -/
  | text (value : String) (lines : Bool)
  /-- A run of other characters. -/
  | atom (letters : List Char)
  deriving Repr, DecidableEq

/-- The two kinds of quotes. -/
inductive Quote where
  /-- Backslashes have a meaning inside. -/
  | double
  /-- Everything inside stands for itself. -/
  | single
  deriving Repr, DecidableEq

/-- The character of a quote. -/
def Quote.char : Quote → Char
  | double => '"'
  | single => '\''

/-- The inside of a quoted text that is being read; `seen` holds what it says so far, last character
    first. -/
structure Inside where
  quote : Quote
  lines : Bool
  seen : List Char := []
  deriving Repr, DecidableEq

/-- What the machine is in the middle of. -/
inductive Mode where
  /-- Between two words. -/
  | plain
  /-- Behind a carriage return, which a newline has to follow. -/
  | carriage
  | comment
  | commentCarriage
  | blank (single : Bool)
  /-- A run of other characters, last one first. -/
  | atom (seen : List Char)
  /-- Behind one or two quotes that begin a text. -/
  | opening (quote : Quote) (second : Bool)
  /-- At the beginning of a text over several lines, where a line end does not count. -/
  | linesBegin (inside : Inside)
  | linesBeginCarriage (inside : Inside)
  | inside (inside : Inside)
  | insideCarriage (inside : Inside)
  /-- Behind some quotes in a text over several lines. -/
  | closing (inside : Inside) (count : Nat)
  | escape (inside : Inside)
  /-- Inside an escape by number: the digits still to come and the value so far. -/
  | code (inside : Inside) (left value : Nat)
  /-- Behind a backslash and blanks, where the line has to end. -/
  | trimLine (inside : Inside)
  | trimCarriage (inside : Inside)
  /-- Behind a backslash and a line end: blanks and line ends do not count. -/
  | trim (inside : Inside)
  deriving Repr, DecidableEq

/-- The machine: its mode and the words so far, last one first. -/
structure Lexer where
  mode : Mode := .plain
  done : List Token := []
  deriving Repr, DecidableEq

namespace Lexer

/-- A word is complete. -/
def emit (lexer : Lexer) (token : Token) : Lexer :=
  { mode := .plain, done := token :: lexer.done }

/-- Goes on in a mode. -/
def enter (lexer : Lexer) (mode : Mode) : Lexer :=
  { lexer with mode }

/-- The characters that are words by themselves. -/
def symbols : List Char := ['[', ']', '\x7b', '\x7d', '=', ',', '.']

/-- Whether a character is a blank. -/
def isBlank (c : Char) : Bool :=
  c == ' ' || c == '\t'

/-- Whether a character may stand in a comment or a quoted text by itself. -/
def isShown (c : Char) : Bool :=
  c == '\t' || (' ' ≤ c && c ≠ '\x7f')

/-- A character that begins a word. -/
def begin (lexer : Lexer) (c : Char) : Lexer :=
  if isBlank c then lexer.enter (.blank (c == ' '))
  else if c = '\n' then lexer.emit .newline
  else if c = '\r' then lexer.enter .carriage
  else if c = '#' then lexer.enter .comment
  else if c = '"' then lexer.enter (.opening .double false)
  else if c = '\'' then lexer.enter (.opening .single false)
  else if symbols.contains c then lexer.emit (.symbol c)
  else lexer.enter (.atom [c])

/-- A quoted text is complete. -/
def close (lexer : Lexer) (inside : Inside) : Lexer :=
  lexer.emit (.text (String.ofList inside.seen.reverse) inside.lines)

/-- A character inside a quoted text. -/
def within (lexer : Lexer) (inside : Inside) (c : Char) : Option Lexer :=
  if c = inside.quote.char then
    some (if inside.lines then lexer.enter (.closing inside 1) else lexer.close inside)
  else if c = '\\' ∧ inside.quote = .double then some (lexer.enter (.escape inside))
  else if c = '\r' ∧ inside.lines then some (lexer.enter (.insideCarriage inside))
  else if (c = '\n' ∧ inside.lines) ∨ isShown c then
    some (lexer.enter (.inside { inside with seen := c :: inside.seen }))
  else none

/-- A character that a backslash turns into another one. -/
def escaped? : Char → Option Char
  | 'b' => some '\x08'
  | 't' => some '\t'
  | 'n' => some '\n'
  | 'f' => some '\x0c'
  | 'r' => some '\r'
  | '"' => some '"'
  | '\\' => some '\\'
  | _ => none

/-- How many digits follow a letter behind a backslash. -/
def codeLength? : Char → Option Nat
  | 'u' => some 4
  | 'U' => some 8
  | _ => none

/-- The character behind a backslash. -/
def escape (lexer : Lexer) (inside : Inside) (c : Char) : Option Lexer :=
  match escaped? c, codeLength? c with
  | some meant, _ => some (lexer.enter (.inside { inside with seen := meant :: inside.seen }))
  | none, some left => some (lexer.enter (.code inside left 0))
  | none, none =>
    if !inside.lines then none
    else if isBlank c then some (lexer.enter (.trimLine inside))
    else if c = '\n' then some (lexer.enter (.trim inside))
    else if c = '\r' then some (lexer.enter (.trimCarriage inside))
    else none

/-- A digit of an escape by number; the last one completes a character. -/
def digit (lexer : Lexer) (inside : Inside) (left value : Nat) (c : Char) : Option Lexer :=
  match Text.Hexadecimal.digit? c with
  | none => none
  | some d =>
    let value := value * 16 + d
    if 1 < left then some (lexer.enter (.code inside (left - 1) value))
    else
      (Text.Hexadecimal.character? value).map fun meant =>
        lexer.enter (.inside { inside with seen := meant :: inside.seen })

/-- Quotes that turn out to be part of the text. -/
def keepQuotes (inside : Inside) (count : Nat) : Inside :=
  { inside with seen := List.replicate count inside.quote.char ++ inside.seen }

/-- **One character.** -/
def step (lexer : Lexer) (c : Char) : Option Lexer :=
  match lexer.mode with
  | .plain => some (lexer.begin c)
  | .carriage => if c = '\n' then some (lexer.emit .newline) else none
  | .comment =>
    if c = '\n' then some ((lexer.emit .comment).emit .newline)
    else if c = '\r' then some (lexer.enter .commentCarriage)
    else if isShown c then some lexer
    else none
  | .commentCarriage =>
    if c = '\n' then some ((lexer.emit .comment).emit .newline) else none
  | .blank single =>
    some (if isBlank c then lexer.enter (.blank false)
      else (lexer.emit (.blank single)).begin c)
  | .atom seen =>
    some (if isBlank c ∨ ['\n', '\r', '#', '"', '\''].contains c ∨ symbols.contains c then
        (lexer.emit (.atom seen.reverse)).begin c
      else lexer.enter (.atom (c :: seen)))
  | .opening quote false =>
    if c = quote.char then some (lexer.enter (.opening quote true))
    else lexer.within { quote, lines := false } c
  | .opening quote true =>
    some (if c = quote.char then lexer.enter (.linesBegin { quote, lines := true })
      else (lexer.close { quote, lines := false }).begin c)
  | .linesBegin inside =>
    if c = '\n' then some (lexer.enter (.inside inside))
    else if c = '\r' then some (lexer.enter (.linesBeginCarriage inside))
    else lexer.within inside c
  | .linesBeginCarriage inside =>
    if c = '\n' then some (lexer.enter (.inside inside)) else none
  | .inside inside => lexer.within inside c
  | .insideCarriage inside =>
    if c = '\n' then some (lexer.enter (.inside { inside with seen := '\n' :: inside.seen }))
    else none
  | .closing inside count =>
    if c = inside.quote.char ∧ count < 5 then some (lexer.enter (.closing inside (count + 1)))
    else if 3 ≤ count then some ((lexer.close (keepQuotes inside (count - 3))).begin c)
    else lexer.within (keepQuotes inside count) c
  | .escape inside => lexer.escape inside c
  | .code inside left value => lexer.digit inside left value c
  | .trimLine inside =>
    if isBlank c then some lexer
    else if c = '\n' then some (lexer.enter (.trim inside))
    else if c = '\r' then some (lexer.enter (.trimCarriage inside))
    else none
  | .trimCarriage inside => if c = '\n' then some (lexer.enter (.trim inside)) else none
  | .trim inside =>
    if isBlank c ∨ c = '\n' then some lexer
    else if c = '\r' then some (lexer.enter (.trimCarriage inside))
    else lexer.within inside c

/-- The end of the document. -/
def finish (lexer : Lexer) : Option (List Token) :=
  let done? : Option Lexer :=
    match lexer.mode with
    | .plain => some lexer
    | .comment => some (lexer.emit .comment)
    | .blank single => some (lexer.emit (.blank single))
    | .atom seen => some (lexer.emit (.atom seen.reverse))
    | .opening quote true => some (lexer.close { quote, lines := false })
    | .closing inside count =>
      if 3 ≤ count then some (lexer.close (keepQuotes inside (count - 3))) else none
    | _ => none
  done?.map fun lexer => lexer.done.reverse

end Lexer

/-- **The words of a document**, if it can be cut into words. -/
def tokens? (text : List Char) : Option (List Token) :=
  (text.foldlM Lexer.step {}).bind Lexer.finish

end DeviceBroker.Toml
