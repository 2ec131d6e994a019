/-!
# `Natural` — whole numbers written in digits

A number is written as one or more digits, a plus sign before them being allowed. Digits are taken from
the left, and the first one that is no digit, or that makes the number too large for 64 bits, decides
which fault is reported.

## Contents

* `Natural.Fault` — why a text is no number.
* `Natural.read` — the number of a text.
-/

namespace DeviceBroker.Natural

/-- Why a text is no number. -/
inductive Fault where
  /-- The text is empty. -/
  | empty
  /-- A character is no digit. -/
  | invalidDigit
  /-- The number does not fit 64 bits. -/
  | tooLarge
  deriving Repr, DecidableEq

/-- The wording of a fault. -/
def Fault.message : Fault → String
  | empty => "cannot parse integer from empty string"
  | invalidDigit => "invalid digit found in string"
  | tooLarge => "number too large to fit in target type"

/-- Numbers are smaller than this. -/
def bound : Nat := Nat.pow 2 64

/-- Adds one digit at the right. -/
def addDigit (value : Nat) (c : Char) : Except Fault Nat :=
  if !c.isDigit then .error .invalidDigit
  else
    let next := value * 10 + (c.toNat - '0'.toNat)
    if next < bound then .ok next else .error .tooLarge

theorem addDigit_lt {value next : Nat} {c : Char} (h : addDigit value c = .ok next) :
    next < bound := by
  unfold addDigit at h
  grind

/-- Adds digits at the right, from the first to the last. -/
def addDigits (value : Nat) : List Char → Except Fault Nat
  | [] => .ok value
  | c :: rest =>
    match addDigit value c with
    | .error fault => .error fault
    | .ok next => addDigits next rest

theorem addDigits_lt {text : List Char} {value next : Nat} (hv : value < bound)
    (h : addDigits value text = .ok next) : next < bound := by
  induction text generalizing value with
  | nil => cases h; exact hv
  | cons c rest ih =>
    rw [addDigits] at h
    split at h
    · cases h
    · next found => exact ih (addDigit_lt found) h

/-- **The number of a text.** -/
def read (text : List Char) : Except Fault Nat :=
  match text with
  | [] => .error .empty
  | '+' :: [] => .error .invalidDigit
  | '+' :: digits => addDigits 0 digits
  | digits => addDigits 0 digits

/-- A number that was read fits 64 bits. -/
theorem read_lt {text : List Char} {value : Nat} (h : read text = .ok value) : value < bound := by
  unfold read at h
  split at h
  · cases h
  · cases h
  · exact addDigits_lt (by decide) h
  · exact addDigits_lt (by decide) h

end DeviceBroker.Natural
