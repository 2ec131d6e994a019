import DeviceBroker.Text.Hexadecimal
import DeviceBroker.Value

/-!
# `Toml.Scalar` — truth values, numbers and dates

A value that is neither quoted nor bracketed. Numbers may have underscores between digits. A whole number
has 64 bits with a sign; one that does not fit is no value, and neither is a floating-point number
beyond the range of its format. Dates and times are checked and kept as they are written, in a table
with one entry. A time has seconds.

## Contents

* `Toml.digits?`, `Toml.integer?`, `Toml.float?` — numbers.
* `Toml.isDateTime` — dates, times, and both.
* `Toml.scalar?` — any of them.
-/

namespace DeviceBroker.Toml

/-! ## Digits -/

/-- The value of a digit in any base up to sixteen. -/
def digitIn? (base : Nat) (c : Char) : Option Nat :=
  (Text.Hexadecimal.digit? c).filter (· < base)

/-- Digits with single underscores between them; `open?` says that a digit has to follow. -/
def digitsFrom? (base : Nat) (isOpen : Bool) (value : Nat) : List Char → Option Nat
  | [] => if isOpen then none else some value
  | '_' :: rest => if isOpen then none else digitsFrom? base true value rest
  | c :: rest =>
    match digitIn? base c with
    | some d => digitsFrom? base false (value * base + d) rest
    | none => none

/-- **The value of digits**, at least one. -/
def digits? (base : Nat) (text : List Char) : Option Nat :=
  digitsFrom? base true 0 text

/-- The sign in front of a number. -/
def splitSign : List Char → Bool × List Char
  | '-' :: rest => (true, rest)
  | '+' :: rest => (false, rest)
  | rest => (false, rest)

/-- Digits of a whole number in base ten: no zero stands before other digits. -/
def wholeDigits? (text : List Char) : Option Nat :=
  match text with
  | '0' :: _ :: _ => none
  | _ => digits? 10 text

/-! ## Numbers -/

/-- Whole numbers are below this and not below its negative. -/
def integerBound : Nat := Nat.pow 2 63

/-- A whole number, if it fits. -/
def fit? (value : Int) : Option Value :=
  if -(integerBound : Int) ≤ value ∧ value < integerBound then some (.integer value) else none

/-- **A whole number.** -/
def integer? (text : List Char) : Option Value :=
  match text with
  | '0' :: 'x' :: rest => (digits? 16 rest).bind fun n => fit? n
  | '0' :: 'o' :: rest => (digits? 8 rest).bind fun n => fit? n
  | '0' :: 'b' :: rest => (digits? 2 rest).bind fun n => fit? n
  | _ =>
    let (negative, rest) := splitSign text
    (wholeDigits? rest).bind fun n => fit? (if negative then -n else n)

/-- Whether a character begins an exponent. -/
def isExponentMark (c : Char) : Bool :=
  c == 'e' || c == 'E'

/-- The exponent behind a number; none is zero. -/
def exponent? (text : List Char) : Option Int :=
  match text with
  | [] => some 0
  | _ :: rest =>
    let (negative, ds) := splitSign rest
    (digits? 10 ds).map fun n => if negative then -(n : Int) else n

/-- The digits behind the point, without underscores; no point is no digits. -/
def fraction? (text : List Char) : Option (List Char) :=
  match text with
  | [] => some []
  | _ :: rest => (digits? 10 rest).map fun _ => rest.filter (· ≠ '_')

/-- A floating-point number, if it is in range. -/
def inRange? (value : Binary64) : Option Value :=
  if value.isFinite then some (.float value) else none

/-- **A floating-point number**, with a point or an exponent. -/
def float? (text : List Char) : Option Value :=
  let (negative, rest) := splitSign text
  if rest = ['i', 'n', 'f'] then some (.float (.infinite negative))
  else if rest = ['n', 'a', 'n'] then some (.float .nan)
  else
    let mantissa := rest.takeWhile fun c => !isExponentMark c
    let scale := rest.dropWhile fun c => !isExponentMark c
    let whole := mantissa.takeWhile (· ≠ '.')
    let point := mantissa.dropWhile (· ≠ '.')
    if point.isEmpty && scale.isEmpty then none
    else
      match wholeDigits? whole, fraction? point, exponent? scale with
      | some n, some ds, some exponent =>
        let significand := (digits? 10 ds).getD 0 + n * Nat.pow 10 ds.length
        inRange? (Binary64.ofDecimal negative significand (exponent - ds.length))
      | _, _, _ => none

/-! ## Dates and times -/

/-- Digits of a fixed number, and the rest. -/
def fixed? (count : Nat) (text : List Char) : Option (Nat × List Char) :=
  let ds := text.take count
  if ds.length = count ∧ ds.all Char.isDigit then
    some (ds.foldl (fun value d => value * 10 + (d.toNat - '0'.toNat)) 0, text.drop count)
  else none

/-- How many days a month has. -/
def daysIn (year month : Nat) : Nat :=
  if month = 2 then
    if (year % 4 = 0 ∧ year % 100 ≠ 0) ∨ year % 400 = 0 then 29 else 28
  else if month = 4 ∨ month = 6 ∨ month = 9 ∨ month = 11 then 30
  else 31

/-- What follows a date, if the text begins with one. -/
def afterDate? (text : List Char) : Option (List Char) :=
  match fixed? 4 text with
  | some (year, '-' :: rest) =>
    match fixed? 2 rest with
    | some (month, '-' :: rest) =>
      match fixed? 2 rest with
      | some (day, rest) =>
        if 1 ≤ month ∧ month ≤ 12 ∧ 1 ≤ day ∧ day ≤ daysIn year month then some rest else none
      | none => none
    | _ => none
  | _ => none

/-- What follows hours and minutes, if the text begins with them. -/
def afterMinutes? (text : List Char) : Option (List Char) :=
  match fixed? 2 text with
  | some (hour, ':' :: rest) =>
    match fixed? 2 rest with
    | some (minute, rest) => if hour ≤ 23 ∧ minute ≤ 59 then some rest else none
    | none => none
  | _ => none

/-- What follows seconds and their fraction, if there is one. -/
def afterSeconds? (text : List Char) : Option (List Char) :=
  match fixed? 2 text with
  | none => none
  | some (second, rest) =>
    if 60 < second then none
    else
      match rest with
      | '.' :: c :: rest => if c.isDigit then some (rest.dropWhile Char.isDigit) else none
      | ['.'] => none
      | rest => some rest

/-- How much of a time has to be there. -/
inductive Precision where
  /-- Minutes; seconds may follow. -/
  | minutes
  /-- Seconds. -/
  | seconds
  deriving Repr, DecidableEq

/-- What follows a time, if the text begins with one. -/
def afterTime? (precision : Precision) (text : List Char) : Option (List Char) :=
  match afterMinutes? text, precision with
  | some (':' :: rest), _ => afterSeconds? rest
  | some rest, .minutes => some rest
  | _, _ => none

/-- Whether a text is a distance from the standard time, or nothing. -/
def isOffset (text : List Char) : Bool :=
  match text with
  | [] => true
  | [c] => c == 'z' || c == 'Z'
  | c :: rest => (c == '+' || c == '-') && afterMinutes? rest == some []

/-- Whether a character may stand between a date and a time. -/
def isBetween (c : Char) : Bool :=
  c == 'T' || c == 't' || c == ' '

/-- **Whether a text is a date, a time, or both**; only both together may have an offset. -/
def isDateTime (precision : Precision) (text : List Char) : Bool :=
  match afterDate? text with
  | some [] => true
  | some (c :: rest) => isBetween c && (afterTime? precision rest).any isOffset
  | none => afterTime? precision text == some []

/-- Whether a text is a date alone. -/
def isDate (text : List Char) : Bool :=
  afterDate? text == some []

/-- The key of the table in which dates and times are kept. -/
def dateTimeKey : String := "$__toml_private_datetime"

/-! ## Any of them -/

/-- **The value of a text** that is neither quoted nor bracketed. -/
def scalar? (text : List Char) : Option Value :=
  if text = ['t', 'r', 'u', 'e'] then some (.bool true)
  else if text = ['f', 'a', 'l', 's', 'e'] then some (.bool false)
  else if isDateTime .seconds text then some (.table [(dateTimeKey, .text (String.ofList text))])
  else (integer? text).or (float? text)

end DeviceBroker.Toml
