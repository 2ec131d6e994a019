/-!
# `Hexadecimal` — characters by their numbers

A character that cannot be typed is named by its number in base sixteen. Digits beyond nine are letters
of either case. Not every number is that of a character: surrogates and numbers above U+10FFFF are not.

## Contents

* `Hexadecimal.digit?` — one digit.
* `Hexadecimal.character?` — the character of a number.
* `Hexadecimal.read?` — the character of some digits.
-/

namespace DeviceBroker.Text.Hexadecimal

/-- The value of a digit in base sixteen. -/
def digit? (c : Char) : Option Nat :=
  if c.isDigit then some (c.toNat - '0'.toNat)
  else if 'a' ≤ c ∧ c ≤ 'f' then some (c.toNat - 'a'.toNat + 10)
  else if 'A' ≤ c ∧ c ≤ 'F' then some (c.toNat - 'A'.toNat + 10)
  else none

/-- The character of a number. -/
def character? (number : Nat) : Option Char :=
  if h : number.isValidChar then some (Char.ofNatAux number h) else none

/-- **The character that some digits name.** -/
def read? (digits : List Char) : Option Char :=
  (digits.mapM digit?).bind fun ds => character? (ds.foldl (fun n d => n * 16 + d) 0)

end DeviceBroker.Text.Hexadecimal
