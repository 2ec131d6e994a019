import DeviceBroker.Text.Quoted

/-!
# `Cut` — parts of a text, by places counted in bytes

A place is a number of bytes from the beginning of a text. A text can be cut at every place where a
character begins, and at its end; it cannot be cut inside a character. A place behind the end counts as
the end.

Cutting loses nothing: the two sides of a place together are the text.

## Contents

* `InsideCharacter`, `splitAt` — a text cut in two.
* `BadCut`, `between`, `behind` — the part between two places, and the part behind one.
-/

namespace DeviceBroker.Text

/-- A place inside a character, where no text can be cut. -/
structure InsideCharacter where
  place : Nat
  character : Char
  /-- The place where the character begins. -/
  first : Nat
  deriving Repr, DecidableEq

/-- The wording: the place, the character around it, and from where to where that reaches. -/
def InsideCharacter.message (inside : InsideCharacter) : String :=
  s!"byte index {inside.place} is not a char boundary; it is inside " ++
    String.ofList ('\'' :: Quoted.escape inside.character ++ ['\'']) ++
    s!" (bytes {inside.first}..{inside.first + inside.character.utf8Size} of string)"

/-- **Cuts a text in two** at a place, the text itself beginning at place `here`. -/
def splitAt (here place : Nat) : List Char → Except InsideCharacter (List Char × List Char)
  | [] => .ok ([], [])
  | c :: rest =>
    if place ≤ here then .ok ([], c :: rest)
    else if place < here + c.utf8Size then .error { place, character := c, first := here }
    else
      match splitAt (here + c.utf8Size) place rest with
      | .error inside => .error inside
      | .ok (front, back) => .ok (c :: front, back)

/-! ## Parts -/

/-- A part of a text that cannot be cut out. -/
inductive BadCut where
  /-- The part begins inside a character. -/
  | start (inside : InsideCharacter)
  /-- The part ends inside a character. -/
  | stop (inside : InsideCharacter)
  deriving Repr, DecidableEq

/-- The wording of a cut that cannot be made. -/
def BadCut.message : BadCut → String
  | start inside => "start " ++ inside.message
  | stop inside => "end " ++ inside.message

/-- **The part of a text behind a place.** -/
def behind (text : List Char) (first : Nat) : Except BadCut (List Char) :=
  match splitAt 0 first text with
  | .error inside => .error (.start inside)
  | .ok (_, back) => .ok back

/-- **The part of a text between two places.** -/
def between (text : List Char) (first stop : Nat) : Except BadCut (List Char) :=
  match behind text first with
  | .error cut => .error cut
  | .ok back =>
    match splitAt first stop back with
    | .error inside => .error (.stop inside)
    | .ok (part, _) => .ok part

end DeviceBroker.Text
