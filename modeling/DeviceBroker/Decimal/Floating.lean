import DeviceBroker.Decimal.Binary64

/-!
# `Floating` — floating-point numbers written in digits

A number is written with a sign or without, as digits with at most one point among them, and an exponent
may follow. The point may come first or last, but there has to be a digit. The words for an infinite
number and for no number are written in any ASCII case.

## Contents

* `Floating.mantissa?`, `Floating.exponent?` — the parts of a number.
* `Floating.read?` — the number of a text.
-/

namespace DeviceBroker.Floating

/-- The value of digits. -/
def valueOf (digits : List Char) : Nat :=
  digits.foldl (fun n d => n * 10 + (d.toNat - '0'.toNat)) 0

/-- Whether a text is one digit or more. -/
def isDigits (text : List Char) : Bool :=
  !text.isEmpty && text.all Char.isDigit

/-- The digits of a mantissa, and how many of them stand behind the point. -/
def mantissa? (text : List Char) : Option (Nat × Nat) :=
  let whole := text.takeWhile (· ≠ '.')
  let fraction := (text.dropWhile (· ≠ '.')).drop 1
  if isDigits (whole ++ fraction) then some (valueOf (whole ++ fraction), fraction.length) else none

/-- The sign in front of a number. -/
def splitSign : List Char → Bool × List Char
  | '-' :: rest => (true, rest)
  | '+' :: rest => (false, rest)
  | rest => (false, rest)

/-- Whether a character begins an exponent. -/
def isExponentMark (c : Char) : Bool :=
  c == 'e' || c == 'E'

/-- The exponent behind a mantissa; none is zero. -/
def exponent? (text : List Char) : Option Int :=
  match text with
  | [] => some 0
  | _ :: rest =>
    let (negative, ds) := splitSign rest
    if isDigits ds then some (if negative then -(valueOf ds : Int) else valueOf ds) else none

/-- The words for an infinite number. -/
def infinityWords : List String := ["inf", "infinity"]

/-- The word for no number. -/
def nanWord : String := "nan"

/-- **The number of a text.** -/
def read? (text : List Char) : Option Binary64 :=
  let (negative, rest) := splitSign text
  let word := String.ofList (rest.map Char.toLower)
  if infinityWords.contains word then some (.infinite negative)
  else if word = nanWord then some .nan
  else
    match mantissa? (rest.takeWhile (!isExponentMark ·)),
      exponent? (rest.dropWhile (!isExponentMark ·)) with
    | some (digits, places), some exponent =>
      some (Binary64.ofDecimal negative digits (exponent - places))
    | _, _ => none

end DeviceBroker.Floating
