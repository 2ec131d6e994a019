import DeviceBroker.Decimal.Binary64

/-!
# `Shortest` — the shortest decimal of a floating-point number

Of all decimals that round to a given number of the format, the text of the number has the fewest
digits, and of those it is the nearest; of two that are equally near it is the one whose last digit is
even. Numbers whose first digit stands between the fifth place
behind the point and the sixteenth place before it are written positionally, with at least one digit
behind the point; all others with an exponent that always has a sign.

## Contents

* `Shortest.digits?` — the fewest digits, with the place of the first one.
* `Shortest.render` — the text of a number.
-/

namespace DeviceBroker.Shortest

/-- Compares `a · 10 ^ ten` with `b · 2 ^ two`. -/
def compareScaled (a : Nat) (ten : Int) (b : Nat) (two : Int) : Ordering :=
  compare (a * Nat.pow 10 ten.toNat * Nat.pow 2 (-two).toNat)
    (b * Nat.pow 2 two.toNat * Nat.pow 10 (-ten).toNat)

/-- Whether `candidate · 10 ^ ten` rounds to `significand · 2 ^ exponent`. The neighbours are half as far
    below a power of two; an even significand owns the ends of its interval. -/
def readsBack (significand : Nat) (exponent : Int) (candidate : Nat) (ten : Int) : Bool :=
  let below := if significand = Nat.pow 2 52 ∧ Binary64.minExponent < exponent then 1 else 2
  let low := compareScaled candidate ten (4 * significand - below) (exponent - 2)
  let high := compareScaled candidate ten (4 * significand + 2) (exponent - 2)
  let owns := significand % 2 == 0
  (low == .gt || (owns && low == .eq)) && (high == .lt || (owns && high == .eq))

/-- The nearer to `significand · 2 ^ exponent` of a point on a decimal grid and the one above it; half-way
    between them, the even one. -/
def nearer (significand : Nat) (exponent : Int) (lower : Nat) (ten : Int) : Nat :=
  match compareScaled (2 * lower + 1) ten (2 * significand) exponent with
  | .gt => lower
  | .lt => lower + 1
  | .eq => lower + lower % 2

/-- `⌊significand · 2 ^ exponent / 10 ^ ten⌋`. -/
def floorScaled (significand : Nat) (exponent ten : Int) : Nat :=
  (significand * Nat.pow 2 exponent.toNat * Nat.pow 10 (-ten).toNat) /
    (Nat.pow 2 (-exponent).toNat * Nat.pow 10 ten.toNat)

/-- The candidate on the grid `10 ^ ten` that reads back, the nearer one if both neighbours do. -/
def onGrid? (significand : Nat) (exponent ten : Int) : Option Nat :=
  let lower := floorScaled significand exponent ten
  match readsBack significand exponent lower ten, readsBack significand exponent (lower + 1) ten with
  | true, true => some (nearer significand exponent lower ten)
  | true, false => some lower
  | false, true => some (lower + 1)
  | false, false => none

/-- The first grid with a hit, from coarse to fine. -/
def search (significand : Nat) (exponent : Int) : Nat → Int → Option (Nat × Int)
  | 0, _ => none
  | tries + 1, ten =>
    match onGrid? significand exponent ten with
    | some candidate => if candidate = 0 then search significand exponent tries (ten - 1)
                        else some (candidate, ten)
    | none => search significand exponent tries (ten - 1)

/-- Removes zeros from the end of a number of digits. -/
def stripZeros (digits : List Char) : List Char :=
  (digits.reverse.dropWhile (· == '0')).reverse

/-- **The fewest digits** of a positive number, and the place of the first one. -/
def digits? (significand : Nat) (exponent : Int) : Option (List Char × Int) :=
  let magnitude : Int := ((significand.log2 : Int) + exponent) * 30103 / 100000
  (search significand exponent 20 (magnitude + 2)).map fun (candidate, ten) =>
    let digits := Nat.toDigits 10 candidate
    (stripZeros digits, digits.length - 1 + ten)

/-- The positional or scientific form of digits. -/
def layout (digits : List Char) (place : Int) : List Char :=
  if 15 < place ∨ place < -5 then
    let fraction := if digits.length ≤ 1 then [] else '.' :: digits.drop 1
    let sign := if place < 0 then '-' else '+'
    digits.take 1 ++ fraction ++ ['e', sign] ++ Nat.toDigits 10 place.natAbs
  else if place < 0 then
    ['0', '.'] ++ List.replicate (place.natAbs - 1) '0' ++ digits
  else
    let whole := place.toNat + 1
    if digits.length ≤ whole then
      digits ++ List.replicate (whole - digits.length) '0' ++ ['.', '0']
    else digits.take whole ++ '.' :: digits.drop whole

/-- **The text of a number.** -/
def render : Binary64 → String
  | .nan => "NaN"
  | .infinite negative => if negative then "-inf" else "inf"
  | .finite negative significand exponent =>
    let body :=
      if significand = 0 then ['0', '.', '0']
      else
        match digits? significand exponent with
        | some (digits, place) => layout digits place
        | none => []
    String.ofList (if negative then '-' :: body else body)

end DeviceBroker.Shortest
