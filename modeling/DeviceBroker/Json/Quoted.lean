/-!
# `Json.Quoted` — texts and objects as they are written

A text is written between quotes. The quote and the backslash get a backslash in front, the control
characters are written by their short names or their numbers, and all else is written as it is.

## Contents

* `Json.Quoted.escape`, `Json.Quoted.quote` — texts.
* `Json.Quoted.object` — an object from its members as written.
-/

namespace DeviceBroker.Json.Quoted

/-- A character as it is written between quotes. -/
def escape (c : Char) : List Char :=
  match c with
  | '"' => ['\\', '"']
  | '\\' => ['\\', '\\']
  | '\n' => ['\\', 'n']
  | '\r' => ['\\', 'r']
  | '\t' => ['\\', 't']
  | '\x08' => ['\\', 'b']
  | '\x0c' => ['\\', 'f']
  | c =>
    if c.toNat < 0x20 then
      ['\\', 'u', '0', '0', Nat.digitChar (c.toNat / 16), Nat.digitChar (c.toNat % 16)]
    else [c]

/-- **A text between quotes.** -/
def quote (text : String) : String :=
  "\"" ++ String.ofList (text.toList.flatMap escape) ++ "\""

/-- **An object** whose members' values are written already. -/
def object (members : List (String × String)) : String :=
  "\x7b" ++ ",".intercalate (members.map fun (name, value) => quote name ++ ":" ++ value) ++ "\x7d"

end DeviceBroker.Json.Quoted
