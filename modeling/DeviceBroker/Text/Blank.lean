/-!
# `Blank` — characters that separate and surround

The blank characters are those with the property White_Space; trimming removes them from both ends of
a text.

## Contents

* `inRanges` — membership in a table of character ranges.
* `isBlank`, `trim` — the property, and what it is used for.
-/

namespace DeviceBroker.Text

/-- Whether a character lies in one of the ranges, ends included. -/
def inRanges (ranges : List (Nat × Nat)) (c : Char) : Bool :=
  ranges.any fun range => range.1 ≤ c.toNat && c.toNat ≤ range.2

/-- The characters with the property White_Space. -/
def blankRanges : List (Nat × Nat) :=
  [(0x9, 0xD), (0x20, 0x20), (0x85, 0x85), (0xA0, 0xA0), (0x1680, 0x1680), (0x2000, 0x200A),
   (0x2028, 0x2029), (0x202F, 0x202F), (0x205F, 0x205F), (0x3000, 0x3000)]

/-- Whether a character is blank. -/
def isBlank (c : Char) : Bool :=
  inRanges blankRanges c

/-- Removes blank characters from the front. -/
def trimStart (text : List Char) : List Char :=
  text.dropWhile isBlank

/-- Removes blank characters from the end. -/
def trimEnd (text : List Char) : List Char :=
  (text.reverse.dropWhile isBlank).reverse

/-- Removes blank characters from both ends. -/
def trim (text : List Char) : List Char :=
  trimEnd (trimStart text)

end DeviceBroker.Text
