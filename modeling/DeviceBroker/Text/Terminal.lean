import DeviceBroker.Text.Utf8

/-!
# `Terminal` — what a terminal shows of a text

Some characters do not show on a terminal but tell it what to do: most controls, and *sequences*, which
an escape character begins. A sequence goes on until a character that ends its kind; one that never ends
takes up the rest of the text. What is left shows: printable characters, tabs and line ends.

The machine takes a text byte by byte. A byte that continues a character always shows, wherever it
stands, and after anything that shows the machine is outside of any sequence.

## Contents

* `Terminal.Mode`, `Terminal.next` — the machine.
* `Terminal.shown` — what shows of a text.
-/

namespace DeviceBroker.Text.Terminal

/-- Where the machine stands. -/
inductive Mode where
  /-- Outside of any sequence. -/
  | plain
  /-- Behind an escape character. -/
  | escape
  /-- Inside a sequence that selects something. -/
  | selection
  /-- Inside a control sequence: parameters, then a letter. -/
  | control
  /-- Inside a string that is meant for the terminal; some of them end at a bell. -/
  | string (untilBell : Bool)
  deriving Repr, DecidableEq

/-- Whether a byte continues a character. -/
def isContinuation (b : UInt8) : Bool :=
  0x80 ≤ b && b ≤ 0xBF

/-- Whether a byte begins a character of several bytes. -/
def isLead (b : UInt8) : Bool :=
  0xC2 ≤ b && b ≤ 0xF4

/-- The controls that show: tabs and the ends of lines and pages. -/
def isLayout (b : UInt8) : Bool :=
  b == 0x09 || b == 0x0A || b == 0x0C || b == 0x0D

/-- The byte that begins a sequence. -/
def escape : UInt8 := 0x1B

/-- The bytes that break off any sequence. -/
def isCancel (b : UInt8) : Bool :=
  b == 0x18 || b == 0x1A

/-- The mode behind an escape character and a byte that does not show. -/
def afterEscape (b : UInt8) : Mode :=
  if b == 0x5B then .control
  else if b == 0x5D then .string true
  else if b == 0x50 || b == 0x58 || b == 0x5E || b == 0x5F then .string false
  else if 0x20 ≤ b && b ≤ 0x2F then .selection
  else if 0x30 ≤ b && b ≤ 0x7E then .plain
  else .escape

/-- Whether a byte shows. -/
def shows (mode : Mode) (b : UInt8) : Bool :=
  isContinuation b ||
    match mode with
    | .plain => (0x20 ≤ b && b ≤ 0x7E) || isLead b || isLayout b
    | .escape | .selection | .control => isLayout b
    | .string _ => false

/-- The mode behind a byte that does not show. -/
def next (mode : Mode) (b : UInt8) : Mode :=
  if b == escape then .escape
  else if isCancel b then .plain
  else
    match mode with
    | .plain => .plain
    | .escape => afterEscape b
    | .selection => if 0x30 ≤ b && b ≤ 0x7E then .plain else .selection
    | .control => if 0x40 ≤ b && b ≤ 0x7E then .plain else .control
    | .string untilBell => if untilBell && b == 0x07 then .plain else .string untilBell

/-- The bytes that show. -/
def visible (mode : Mode) : Bytes → Bytes
  | [] => []
  | b :: rest => if shows mode b then b :: visible .plain rest else visible (next mode b) rest

/-- **What shows of a text.** -/
def shown (text : String) : String :=
  Utf8.decodeLossy (visible .plain (Bytes.ofString text))

end DeviceBroker.Text.Terminal
