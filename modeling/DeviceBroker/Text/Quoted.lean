import DeviceBroker.Text.Printable

/-!
# `Quoted` — texts in quotation marks

A quoted text stands between double quotes. Quotes, backslashes and the common controls are written
with a backslash; characters that would not show by themselves are written by their numbers in base
sixteen. Everything else stands for itself.

## Contents

* `Quoted.escape` — one character.
* `Quoted.quote` — a whole text.
-/

namespace DeviceBroker.Text.Quoted

/-- A number in base sixteen, in small letters. -/
def hexadecimal (number : Nat) : List Char :=
  Nat.toDigits 16 number

/-- One character inside quotation marks. -/
def escape (c : Char) : List Char :=
  match c with
  | '\x00' => ['\\', '0']
  | '\t' => ['\\', 't']
  | '\r' => ['\\', 'r']
  | '\n' => ['\\', 'n']
  | '"' => ['\\', '"']
  | '\\' => ['\\', '\\']
  | c =>
    if isPrintable c && !isExtending c then [c]
    else ['\\', 'u', '\x7b'] ++ hexadecimal c.toNat ++ ['\x7d']

/-- **The quoted form** of a text. -/
def quote (text : String) : String :=
  String.ofList ('"' :: text.toList.flatMap escape ++ ['"'])

end DeviceBroker.Text.Quoted
