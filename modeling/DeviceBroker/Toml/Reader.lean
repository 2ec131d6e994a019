import DeviceBroker.Toml.Document
import DeviceBroker.Toml.Scalar
import DeviceBroker.Toml.Token

/-!
# `Toml.Reader` — a TOML document as a table of values

The words of a document are taken one after the other. The reader knows what the present line has said so
far and which brackets are open; brackets are kept on a stack, so no word is looked at twice.

Inside the brackets of a list lines may end anywhere between values, and the last value may be followed
by a comma; a bracketed table stands on one line and has no comma at its end. Brackets nest up to a fixed
depth, and keys have up to a fixed number of parts.

Dates are kept in tables with one entry. A table of the document's own that looks like one of these has
to hold a date as well.

## Contents

* `Toml.Key` — a key in parts, being read.
* `Toml.Frame` — an open bracket.
* `Toml.Phase`, `Toml.Reader`, `Toml.Reader.step` — the reader.
* `Toml.isSound` — whether what looks like a date is one.
* `Toml.read?` — a whole document.
-/

namespace DeviceBroker.Toml

/-- A key being read: its parts so far, and whether the next part is still to come. -/
structure Key where
  parts : List String := []
  isOpen : Bool := true
  deriving Repr, DecidableEq

namespace Key

/-- Whether a character may stand in a key without quotes. -/
def isBare (c : Char) : Bool :=
  c.isAlphanum || c == '-' || c == '_'

/-- How many parts a key may have. -/
def maxParts : Nat := 79

/-- Adds a part. -/
def add (key : Key) (part : String) : Option Key :=
  if key.isOpen && key.parts.length < maxParts then
    some { parts := key.parts ++ [part], isOpen := false }
  else none

/-- One word of a key; nothing if the word does not belong to a key. -/
def step (key : Key) : Token → Option Key
  | .blank _ => some key
  | .atom letters => if letters.all isBare then key.add (String.ofList letters) else none
  | .text part false => key.add part
  | .symbol '.' => if key.isOpen then none else some { key with isOpen := true }
  | _ => none

end Key

/-- An open bracket. -/
inductive Frame where
  /-- A list with the values so far. -/
  | list (items : List Value)
  /-- A table with what is defined so far, and the key whose value comes next. -/
  | table (nodes : Nodes) (path : List String)

/-- How deep brackets may nest. -/
def maxDepth : Nat := 79

/-- What is expected next. -/
inductive Phase where
  /-- The beginning of a line. -/
  | lineBegin
  /-- Behind the bracket that may begin a header. -/
  | headerBegin
  /-- The name in a header. -/
  | header (isSeries : Bool) (key : Key)
  /-- The second bracket that ends a doubled header. -/
  | seriesEnd (header : List String)
  /-- The key of a line. -/
  | key (key : Key)
  /-- A value. -/
  | value
  /-- The rest of a value without quotes or brackets. -/
  | scalar (letters : List Char)
  /-- Behind a date and one space, where a time may follow. -/
  | dateBlank (letters : List Char)
  /-- What follows a value inside a bracket. -/
  | behind
  /-- A key inside a bracketed table, or, if `mayEnd`, its end. -/
  | innerKey (mayEnd : Bool)
  /-- The rest of a key inside a bracketed table. -/
  | innerKeyRest (key : Key)
  /-- The end of a line. -/
  | lineEnd

/-- The reader. -/
structure Reader where
  nodes : Nodes := []
  /-- The header of the present table. -/
  header : List String := []
  /-- The key of the present line. -/
  path : List String := []
  /-- The open brackets, innermost first. -/
  stack : List Frame := []
  phase : Phase := .lineBegin

namespace Reader

/-- Goes on in a phase. -/
def enter (reader : Reader) (phase : Phase) : Reader :=
  { reader with phase }

/-- A value is complete: it goes to the innermost bracket, or to the present line. -/
def complete (reader : Reader) (value : Value) : Option Reader :=
  match reader.stack with
  | [] =>
    (define reader.nodes reader.header reader.path value).map fun nodes =>
      { reader with nodes, phase := .lineEnd }
  | .list items :: stack =>
    some { reader with stack := .list (items ++ [value]) :: stack, phase := .behind }
  | .table nodes path :: stack =>
    (define nodes [] path value).map fun nodes =>
      { reader with stack := .table nodes [] :: stack, phase := .behind }

/-- A bracket opens. -/
def push (reader : Reader) (frame : Frame) (phase : Phase) : Option Reader :=
  if reader.stack.length < maxDepth then
    some { reader with stack := frame :: reader.stack, phase }
  else none

/-- The innermost bracket is closed by this character. -/
def close (reader : Reader) (c : Char) : Option Reader :=
  match reader.stack, c with
  | .list items :: stack, ']' => { reader with stack }.complete (.list items)
  | .table nodes _ :: stack, '\x7d' => { reader with stack }.complete (.table (toEntries nodes))
  | _, _ => none

/-- Whether lines may end where the reader stands. -/
def allowsLines (reader : Reader) : Bool :=
  match reader.stack with
  | .list _ :: _ => true
  | _ => false

/-- A value is expected. -/
def atValue (reader : Reader) : Token → Option Reader
  | .blank _ => some reader
  | .newline => if reader.allowsLines then some reader else none
  | .comment => if reader.allowsLines then some reader else none
  | .text value _ => reader.complete (.text value)
  | .atom letters => some (reader.enter (.scalar letters))
  | .symbol '[' => reader.push (.list []) .value
  | .symbol '\x7b' => reader.push (.table [] []) (.innerKey true)
  | .symbol ']' => reader.close ']'
  | .symbol _ => none

/-- Something follows a value inside a bracket. -/
def atBehind (reader : Reader) : Token → Option Reader
  | .blank _ => some reader
  | .newline => if reader.allowsLines then some reader else none
  | .comment => if reader.allowsLines then some reader else none
  | .symbol ',' =>
    match reader.stack with
    | .list _ :: _ => some (reader.enter .value)
    | .table .. :: _ => some (reader.enter (.innerKey false))
    | [] => none
  | .symbol c => reader.close c
  | _ => none

/-- The end of a line is expected. -/
def atLineEnd (reader : Reader) : Token → Option Reader
  | .blank _ | .comment => some reader
  | .newline => some (reader.enter .lineBegin)
  | _ => none

/-- A value without quotes or brackets is over, and this word follows it. -/
def endScalar (reader : Reader) (letters : List Char) (token : Token) : Option Reader :=
  match (scalar? letters).bind reader.complete with
  | none => none
  | some reader =>
    match reader.phase with
    | .lineEnd => reader.atLineEnd token
    | _ => reader.atBehind token

/-- Whether an atom looks like the beginning of a time. -/
def looksLikeTime (letters : List Char) : Bool :=
  match letters with
  | a :: b :: ':' :: _ => a.isDigit && b.isDigit
  | _ => false

/-- A key is over: its value follows. -/
def endKey (reader : Reader) (key : Key) : Option Reader :=
  if key.isOpen then none
  else
    match reader.stack with
    | [] => some { reader with path := key.parts, phase := .value }
    | .table nodes _ :: stack =>
      some { reader with stack := .table nodes key.parts :: stack, phase := .value }
    | .list _ :: _ => none

/-- A header is over. -/
def endHeader (reader : Reader) (isSeries : Bool) (header : List String) : Option Reader :=
  ((if isSeries then openSeries else openTable) reader.nodes header).map fun nodes =>
    { reader with nodes, header, phase := .lineEnd }

/-- **One word.** -/
def step (reader : Reader) (token : Token) : Option Reader :=
  match reader.phase with
  | .lineBegin =>
    match token with
    | .blank _ | .newline | .comment => some reader
    | .symbol '[' => some (reader.enter .headerBegin)
    | _ => (({} : Key).step token).map fun key => reader.enter (.key key)
  | .headerBegin =>
    match token with
    | .symbol '[' => some (reader.enter (.header true {}))
    | _ => (({} : Key).step token).map fun key => reader.enter (.header false key)
  | .header isSeries key =>
    match token with
    | .symbol ']' =>
      if key.isOpen then none
      else if isSeries then some (reader.enter (.seriesEnd key.parts))
      else reader.endHeader false key.parts
    | _ => (key.step token).map fun key => reader.enter (.header isSeries key)
  | .seriesEnd header =>
    match token with
    | .symbol ']' => reader.endHeader true header
    | _ => none
  | .key key =>
    match token with
    | .symbol '=' => reader.endKey key
    | _ => (key.step token).map fun key => reader.enter (.key key)
  | .value => reader.atValue token
  | .scalar letters =>
    match token with
    | .atom more => some (reader.enter (.scalar (letters ++ more)))
    | .symbol '.' => some (reader.enter (.scalar (letters ++ ['.'])))
    | .blank true =>
      if isDate letters then some (reader.enter (.dateBlank letters))
      else reader.endScalar letters token
    | _ => reader.endScalar letters token
  | .dateBlank letters =>
    match token with
    | .atom more =>
      if looksLikeTime more then some (reader.enter (.scalar (letters ++ ' ' :: more))) else none
    | _ => reader.endScalar letters token
  | .behind => reader.atBehind token
  | .innerKey mayEnd =>
    match token with
    | .blank _ => some reader
    | .symbol '\x7d' => if mayEnd then reader.close '\x7d' else none
    | _ => (({} : Key).step token).map fun key => reader.enter (.innerKeyRest key)
  | .innerKeyRest key =>
    match token with
    | .symbol '=' => reader.endKey key
    | _ => (key.step token).map fun key => reader.enter (.innerKeyRest key)
  | .lineEnd => reader.atLineEnd token

/-- Whether a document may end here. -/
def isDone (reader : Reader) : Bool :=
  reader.stack.isEmpty &&
    match reader.phase with
    | .lineBegin | .lineEnd => true
    | _ => false

end Reader

/-! ## What looks like a date -/

/-- The entry of a table whose key comes first in the order of keys. -/
def firstEntry? (entries : Value.Entries) : Option (String × Value) :=
  entries.foldl
    (fun first? entry =>
      match first? with
      | none => some entry
      | some first => if entry.1 < first.1 then some entry else some first)
    none

/-- Whether a table holds a date if its first key is that of dates. -/
def isDateIfMarked (entries : Value.Entries) : Bool :=
  match firstEntry? entries with
  | none => true
  | some (key, value) =>
    key != dateTimeKey ||
      match value with
      | .text text => isDateTime .minutes text.toList
      | _ => false

mutual

/-- **Whether every table in a value that looks like a date is one.** -/
def isSound : Value → Bool
  | .table entries => isDateIfMarked entries && entriesSound entries
  | .list items => itemsSound items
  | _ => true

/-- See `isSound`. -/
def entriesSound : Value.Entries → Bool
  | [] => true
  | (_, value) :: rest => isSound value && entriesSound rest

/-- See `isSound`. -/
def itemsSound : List Value → Bool
  | [] => true
  | item :: rest => isSound item && itemsSound rest

end

/-- The mark that may stand in front of a document. -/
def byteOrderMark : Char := '\uFEFF'

/-- **The table of a document.** A newline behind its end changes nothing and lets its last value be
    complete. -/
def read? (text : List Char) : Option Value.Entries :=
  let text := if text.head? = some byteOrderMark then text.drop 1 else text
  match tokens? text with
  | none => none
  | some tokens =>
    match (tokens ++ [Token.newline]).foldlM Reader.step {} with
    | none => none
    | some reader =>
      let entries := toEntries reader.nodes
      if reader.isDone && isSound (.table entries) then some entries else none

end DeviceBroker.Toml
