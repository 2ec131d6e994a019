import DeviceBroker.Text.Utf8

/-!
# `Command` — what a line asks for

A line is `WRITE`, a space and a payload; or one of the words `READ`, `CLEAR`, `STATUS`, `QUIT`, `EXIT`
alone; or nothing that is understood. Words are recognised in any ASCII case. The payload is every
byte behind the first space, unchanged.

## Contents

* `Command`, `Command.keyword` — the requests and their names in the log.
* `Command.parse` — the request of a line.
-/

namespace DeviceBroker

/-- A client's request. -/
inductive Command where
  /-- Append the payload to the buffer, claiming the device for this session. -/
  | write (payload : Bytes)
  /-- Send the buffer's contents. -/
  | read
  /-- Empty the buffer. -/
  | clear
  /-- Report the buffer's length and whether the device is claimed. -/
  | status
  /-- End the session. -/
  | quit
  /-- A line that is no request, as text. -/
  | unknown (text : String)
  deriving Repr, DecidableEq

namespace Command

/-- The name of a request in the log. -/
def keyword : Command → String
  | write _ => "write"
  | read => "read"
  | clear => "clear"
  | status => "status"
  | quit => "quit"
  | unknown _ => "unknown"

/-- What stands before a payload: `WRITE` and one space. -/
def writePrefix : Bytes := Bytes.ofString "WRITE "

/-- The words that are requests by themselves. -/
def words : List (Bytes × Command) :=
  [(Bytes.ofString "READ", read), (Bytes.ofString "CLEAR", clear),
   (Bytes.ofString "STATUS", status), (Bytes.ofString "EXIT", quit),
   (Bytes.ofString "QUIT", quit)]

/-- The payload of a line that begins like a write. -/
def payload? (line : Bytes) : Option Bytes :=
  if writePrefix.length ≤ line.length ∧
      Bytes.sameLetters (line.take writePrefix.length) writePrefix = true then
    some (line.drop writePrefix.length)
  else none

/-- The request of a line that is a word. -/
def ofWord? (line : Bytes) : Option Command :=
  (words.find? fun entry => Bytes.sameLetters line entry.1).map (·.2)

/-- **The request of a line**, its terminator removed. -/
def parse (line : Bytes) : Command :=
  match payload? line with
  | some payload => write payload
  | none =>
    match ofWord? line with
    | some command => command
    | none => unknown (Utf8.decodeLossy line)

end Command

end DeviceBroker
