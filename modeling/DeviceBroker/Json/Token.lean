import DeviceBroker.Text.Hexadecimal
import DeviceBroker.Value

/-!
# `Json.Token` — the leaves of a JSON text

Blanks, literals, strings and numbers, each read off the front of a text. A text that stops short is told
apart from one that goes on with a character that cannot stand there.

A leaf can be *read*, which gives its value, or *skipped*, which only finds its end. Skipping is more
lenient: it does not ask whether a number can be represented, nor whether the halves of a character
written as two escapes belong together; and a number that stops short is malformed to it, not
truncated.

Every reader returns a text shorter than the one it got.

## Contents

* `ReadError` — malformed, truncated, or a value that does not fit.
* `skipBlanks`, `literal` — blanks and fixed words.
* `readString`, `skipString` — behind the opening quote.
* `Lexeme`, `scanNumber`, `skipNumber`, `Lexeme.value` — numbers.
-/

namespace DeviceBroker.Json

/-- Why a text cannot be read. -/
inductive ReadError where
  /-- A character stands where it cannot. -/
  | malformed
  /-- The text ends too early. -/
  | truncated
  /-- A value is not what was expected. -/
  | mismatch (cause : Mismatch)
  deriving Repr, DecidableEq

/-- A value read off the front of a text, and the rest. -/
abbrev Read (α : Type) := Except ReadError (α × List Char)

/-! ## Blanks and literals -/

/-- The characters that may stand between tokens. -/
def isBlank (c : Char) : Bool :=
  c == ' ' || c == '\n' || c == '\t' || c == '\r'

/-- Drops blanks from the front. -/
def skipBlanks (text : List Char) : List Char :=
  text.dropWhile isBlank

theorem length_dropWhile_le {α : Type} (p : α → Bool) (l : List α) :
    (l.dropWhile p).length ≤ l.length :=
  (List.dropWhile_suffix p).length_le

theorem length_skipBlanks_le (text : List Char) : (skipBlanks text).length ≤ text.length :=
  length_dropWhile_le ..

/-- Takes a fixed word off the front. -/
def literal : List Char → List Char → Except ReadError (List Char)
  | [], text => .ok text
  | _ :: _, [] => .error .truncated
  | expected :: word, c :: text => if c = expected then literal word text else .error .malformed

theorem length_literal_le {word text rest : List Char} (h : literal word text = .ok rest) :
    rest.length ≤ text.length := by
  fun_induction literal word text <;> grind

/-! ## Strings -/

/-- How many bytes a text has, as far as its first four characters tell. -/
def bytesAhead (text : List Char) : Nat :=
  (text.take 4).foldl (fun size c => size + c.utf8Size) 0

/-- The four digits of an escape. -/
def hexEscape : List Char → Read Nat
  | a :: b :: c :: d :: text =>
    match Text.Hexadecimal.digit? a, Text.Hexadecimal.digit? b, Text.Hexadecimal.digit? c,
      Text.Hexadecimal.digit? d with
    | some a, some b, some c, some d => .ok (((a * 16 + b) * 16 + c) * 16 + d, text)
    | _, _, _, _ => .error .malformed
  | text => .error (if bytesAhead text < 4 then .truncated else .malformed)

theorem length_hexEscape_lt {text rest : List Char} {n : Nat} (h : hexEscape text = .ok (n, rest)) :
    rest.length < text.length := by
  unfold hexEscape at h
  split at h
  · split at h <;> grind
  · cases h

/-- Whether a number is the first half of a character written as two escapes. -/
def isHighHalf (n : Nat) : Bool := 0xD800 ≤ n && n ≤ 0xDBFF

/-- Whether a number is the second half of a character written as two escapes. -/
def isLowHalf (n : Nat) : Bool := 0xDC00 ≤ n && n ≤ 0xDFFF

/-- The second half of a character written as two escapes. -/
def lowHalf : List Char → Read Nat
  | '\\' :: 'u' :: text =>
    match hexEscape text with
    | .error e => .error e
    | .ok (n, rest) => if isLowHalf n then .ok (n, rest) else .error .malformed
  | [] => .error .truncated
  | ['\\'] => .error .truncated
  | _ => .error .malformed

theorem length_lowHalf_lt {text rest : List Char} {n : Nat} (h : lowHalf text = .ok (n, rest)) :
    rest.length < text.length := by
  unfold lowHalf at h
  split at h
  · split at h
    · cases h
    · next hex =>
      have := length_hexEscape_lt hex
      grind
  all_goals cases h

/-- A character written by its number, behind the `u`. -/
def unicodeEscape (text : List Char) : Read Char :=
  match hexEscape text with
  | .error e => .error e
  | .ok (n, rest) =>
    if isLowHalf n then .error .malformed
    else if isHighHalf n then
      match lowHalf rest with
      | .error e => .error e
      | .ok (low, rest) => .ok (Char.ofNat ((n - 0xD800) * 1024 + (low - 0xDC00) + 0x10000), rest)
    else .ok (Char.ofNat n, rest)

theorem length_unicodeEscape_lt {text rest : List Char} {c : Char}
    (h : unicodeEscape text = .ok (c, rest)) : rest.length < text.length := by
  unfold unicodeEscape at h
  split at h
  · cases h
  · next hex =>
    have h₁ := length_hexEscape_lt hex
    split at h
    · cases h
    · split at h
      · split at h
        · cases h
        · next low =>
          have h₂ := length_lowHalf_lt low
          grind
      · grind

/-- A character behind a backslash that stands for one character. -/
def simpleEscape? : Char → Option Char
  | '"' => some '"'
  | '\\' => some '\\'
  | '/' => some '/'
  | 'b' => some '\x08'
  | 'f' => some '\x0c'
  | 'n' => some '\n'
  | 'r' => some '\r'
  | 't' => some '\t'
  | _ => none

/-- Whether a character may not stand in a string by itself. -/
def isControl (c : Char) : Bool :=
  c.toNat < 0x20

/-- **Reads a string** behind its opening quote; `seen` holds what was read, last character first. -/
def readString (seen : List Char) (text : List Char) : Read String :=
  match text with
  | [] => .error .truncated
  | '"' :: rest => .ok (String.ofList seen.reverse, rest)
  | ['\\'] => .error .truncated
  | '\\' :: 'u' :: rest =>
    match _found : unicodeEscape rest with
    | .error e => .error e
    | .ok (c, rest) => readString (c :: seen) rest
  | '\\' :: e :: rest =>
    match simpleEscape? e with
    | some c => readString (c :: seen) rest
    | none => .error .malformed
  | c :: rest => if isControl c then .error .malformed else readString (c :: seen) rest
termination_by text.length
decreasing_by
  · have := length_unicodeEscape_lt _found
    simp; omega
  · simp only [List.length_cons]; omega
  · simp only [List.length_cons]; omega

theorem length_readString_lt {seen text rest : List Char} {s : String}
    (h : readString seen text = .ok (s, rest)) : rest.length < text.length := by
  fun_induction readString seen text with
  | case1 => cases h
  | case2 => grind
  | case3 => cases h
  | case4 => cases h
  | case5 seen text c rest' found ih =>
    have := length_unicodeEscape_lt found
    have := ih h
    grind
  | case6 seen e rest' _ c _ ih =>
    have := ih h
    grind
  | case7 => cases h
  | case8 => cases h
  | case9 seen c rest' _ _ _ _ _ ih =>
    have := ih h
    grind

/-- **Skips a string** behind its opening quote. -/
def skipString (text : List Char) : Except ReadError (List Char) :=
  match text with
  | [] => .error .truncated
  | '"' :: rest => .ok rest
  | ['\\'] => .error .truncated
  | '\\' :: 'u' :: rest =>
    match _found : hexEscape rest with
    | .error e => .error e
    | .ok (_, rest) => skipString rest
  | '\\' :: e :: rest =>
    if (simpleEscape? e).isSome then skipString rest else .error .malformed
  | c :: rest => if isControl c then .error .malformed else skipString rest
termination_by text.length
decreasing_by
  · have := length_hexEscape_lt _found
    simp; omega
  · simp only [List.length_cons]; omega
  · simp only [List.length_cons]; omega

theorem length_skipString_lt {text rest : List Char} (h : skipString text = .ok rest) :
    rest.length < text.length := by
  fun_induction skipString text with
  | case1 => cases h
  | case2 => grind
  | case3 => cases h
  | case4 => cases h
  | case5 text n rest' found ih =>
    have := length_hexEscape_lt found
    have := ih h
    grind
  | case6 e rest' _ _ ih =>
    have := ih h
    grind
  | case7 => cases h
  | case8 => cases h
  | case9 c rest' _ _ _ _ _ ih =>
    have := ih h
    grind

/-! ## Numbers -/

/-- The written form of a number without its sign. -/
structure Lexeme where
  whole : List Char
  fraction : List Char := []
  /-- The sign and the digits of the exponent. -/
  exponent : Option (Bool × List Char) := none
  deriving Repr, DecidableEq

/-- Digits from the front, at least one; `missing` is the error if the text ends before one. -/
def digits (missing : ReadError) (text : List Char) : Read (List Char) :=
  match text with
  | [] => .error missing
  | c :: _ =>
    if c.isDigit then .ok (text.takeWhile Char.isDigit, text.dropWhile Char.isDigit)
    else .error .malformed

theorem length_digits_lt {missing : ReadError} {text rest ds : List Char}
    (h : digits missing text = .ok (ds, rest)) : rest.length < text.length := by
  unfold digits at h
  split at h
  · cases h
  · next c tail =>
    split at h
    · next hc =>
      have := length_dropWhile_le Char.isDigit tail
      simp [List.dropWhile, hc] at h
      grind
    · cases h

/-- The digits before the point: a zero stands alone. -/
def wholePart (missing : ReadError) (text : List Char) : Read (List Char) :=
  match digits missing text with
  | .error e => .error e
  | .ok (ds, rest) =>
    if ds.head? = some '0' ∧ 1 < ds.length then .error .malformed else .ok (ds, rest)

theorem length_wholePart_lt {missing : ReadError} {text rest ds : List Char}
    (h : wholePart missing text = .ok (ds, rest)) : rest.length < text.length := by
  unfold wholePart at h
  split at h
  · cases h
  · next found =>
    have := length_digits_lt found
    grind

/-- A point and the digits behind it, if there is a point. -/
def fractionPart (missing : ReadError) : List Char → Read (List Char)
  | '.' :: text => digits missing text
  | text => .ok ([], text)

theorem length_fractionPart_le {missing : ReadError} {text rest ds : List Char}
    (h : fractionPart missing text = .ok (ds, rest)) : rest.length ≤ text.length := by
  unfold fractionPart at h
  split at h
  · have := length_digits_lt h
    simp; omega
  · grind

/-- The sign of an exponent. -/
def exponentSign : List Char → Bool × List Char
  | '+' :: text => (false, text)
  | '-' :: text => (true, text)
  | text => (false, text)

theorem length_exponentSign_le (text : List Char) : (exponentSign text).2.length ≤ text.length := by
  unfold exponentSign
  split <;> simp

/-- The exponent, if there is one. -/
def exponentPart (missing : ReadError) (text : List Char) : Read (Option (Bool × List Char)) :=
  match text with
  | [] => .ok (none, [])
  | c :: rest =>
    if c = 'e' ∨ c = 'E' then
      match digits missing (exponentSign rest).2 with
      | .error e => .error e
      | .ok (ds, behind) => .ok (some ((exponentSign rest).1, ds), behind)
    else .ok (none, text)

theorem length_exponentPart_le {missing : ReadError} {text rest : List Char}
    {e : Option (Bool × List Char)} (h : exponentPart missing text = .ok (e, rest)) :
    rest.length ≤ text.length := by
  unfold exponentPart at h
  split at h
  · grind
  · next c tail =>
    split at h
    · split at h
      · cases h
      · next found =>
        have := length_digits_lt found
        have := length_exponentSign_le tail
        grind
    · grind

/-- **Scans a number** behind its sign. `missing` is the error where the text ends before a digit that
    has to follow. -/
def scanNumber (missing : ReadError) (text : List Char) : Read Lexeme :=
  match wholePart missing text with
  | .error e => .error e
  | .ok (whole, text) =>
    match fractionPart missing text with
    | .error e => .error e
    | .ok (fraction, text) =>
      match exponentPart missing text with
      | .error e => .error e
      | .ok (exponent, text) => .ok ({ whole, fraction, exponent }, text)

theorem length_scanNumber_lt {missing : ReadError} {text rest : List Char} {l : Lexeme}
    (h : scanNumber missing text = .ok (l, rest)) : rest.length < text.length := by
  unfold scanNumber at h
  split at h
  · cases h
  · next hw =>
    split at h
    · cases h
    · next hf =>
      split at h
      · cases h
      · next he =>
        have := length_wholePart_lt hw
        have := length_fractionPart_le hf
        have := length_exponentPart_le he
        grind

/-- A number as it is read: a whole number if it is written as one and fits 64 bits, else a
    floating-point number. -/
inductive Number where
  | natural (value : Nat)
  | negative (value : Nat)
  | float (value : Binary64)
  deriving Repr, DecidableEq

/-- The largest whole number of 64 bits. -/
def maxNatural : Nat := Nat.pow 2 64 - 1

/-- The value of a digit. -/
def digitValue (c : Char) : Nat :=
  c.toNat - '0'.toNat

/-- Adds digits to a number as long as it fits 64 bits; returns it and the digits that were not added. -/
def accumulate (value : Nat) : List Char → Nat × List Char
  | [] => (value, [])
  | d :: ds =>
    if maxNatural < value * 10 + digitValue d then (value, d :: ds)
    else accumulate (value * 10 + digitValue d) ds

/-- The value of a list of digits. -/
def decimal (ds : List Char) : Nat :=
  ds.foldl (fun value d => value * 10 + digitValue d) 0

/-- `significand · 10 ^ exponent` by one multiplication or division with a power of ten that the format
    holds, small numbers in several steps; nothing if the result is too large. -/
def assemble : Nat → Binary64 → Int → Option Binary64
  | 0, value, _ => some value
  | steps + 1, value, exponent =>
    if exponent.natAbs ≤ 308 then
      let scaled := value.scaleTen exponent
      if scaled.isFinite then some scaled else none
    else if value.isZero then some value
    else if 0 ≤ exponent then none
    else assemble steps (value.scaleTen (-308)) (exponent + 308)

/-- The largest exponent that is taken as a number. -/
def maxExponent : Nat := Nat.pow 2 31 - 1

/-- The floating-point number of a lexeme, or nothing if it is too large. -/
def Lexeme.toFloat (lexeme : Lexeme) : Option Binary64 :=
  let (significand, dropped) := accumulate 0 lexeme.whole
  let (significand, unused) := accumulate significand lexeme.fraction
  let used := lexeme.fraction.length - unused.length
  let start : Int := (dropped.length : Int) - used
  let base := Binary64.ofQuotient false significand 1
  match lexeme.exponent with
  | none => assemble 16 base start
  | some (negative, ds) =>
    let size := decimal ds
    if maxExponent < size then
      if significand ≠ 0 ∧ !negative then none else some (.finite false 0 Binary64.minExponent)
    else assemble 16 base (if negative then start - size else start + size)

/-- The number with the opposite sign. -/
def negate : Binary64 → Binary64
  | .finite negative significand exponent => .finite (!negative) significand exponent
  | .infinite negative => .infinite (!negative)
  | .nan => .nan

/-- **The number of a lexeme** with its sign, or nothing if it is too large. -/
def Lexeme.value (lexeme : Lexeme) (negative : Bool) : Option Number :=
  let (whole, dropped) := accumulate 0 lexeme.whole
  if lexeme.fraction.isEmpty ∧ lexeme.exponent.isNone ∧ dropped.isEmpty ∧
      (negative = false ∨ (0 < whole ∧ whole ≤ Nat.pow 2 63)) then
    some (if negative then .negative whole else .natural whole)
  else lexeme.toFloat.map fun value => .float (if negative then negate value else value)

/-- What a number is when it is not what was expected. -/
def Number.found : Number → Found
  | .natural value => .integer value
  | .negative value => .integer (-value)
  | .float value => .float value

/-- Reads a number behind its sign. -/
def readNumber (negative : Bool) (text : List Char) : Read Number :=
  match scanNumber .truncated text with
  | .error e => .error e
  | .ok (lexeme, rest) =>
    match lexeme.value negative with
    | some number => .ok (number, rest)
    | none => .error .malformed

/-- Skips a number behind its sign. -/
def skipNumber (text : List Char) : Except ReadError (List Char) :=
  (scanNumber .malformed text).map (·.2)

theorem length_readNumber_lt {negative : Bool} {text rest : List Char} {n : Number}
    (h : readNumber negative text = .ok (n, rest)) : rest.length < text.length := by
  unfold readNumber at h
  split at h
  · cases h
  · next found =>
    have := length_scanNumber_lt found
    grind

theorem length_skipNumber_lt {text rest : List Char} (h : skipNumber text = .ok rest) :
    rest.length < text.length := by
  unfold skipNumber at h
  cases found : scanNumber .malformed text with
  | error e => simp [found, Except.map] at h
  | ok r =>
    have := length_scanNumber_lt found
    simp [found, Except.map] at h
    exact h ▸ this

end DeviceBroker.Json
