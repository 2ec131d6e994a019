import DeviceBroker.Json.Quoted
import DeviceBroker.Json.Skip
import DeviceBroker.Settings.Basic

/-!
# `Settings.Document` — settings as a JSON text

A document is an object with settings in any order, or a list of their values in the order of
declaration. A setting that is not mentioned has its default, a key that is no setting's name is
skipped with its value, and a setting that is mentioned twice is refused.

The text is read once from front to back, and the first fault met is the one reported: a value of the
wrong type is noticed before a fault that stands behind it.

Settings are written as an object with all of them, in the order of declaration.

## Contents

* `Draft` — the settings read so far.
* `readField` — the value of one setting.
* `readMembers`, `readElements` — the two shapes of a document.
* `Settings.ofJson` — a whole text.
* `Settings.written`, `Settings.toJson` — settings as they are written.
-/

namespace DeviceBroker.Settings

open Json

/-- The settings read so far. -/
structure Draft where
  socketPath : Option String := none
  logFilter : Option String := none
  logFormat : Option LogFormat := none
  verbose : Option Bool := none
  bufferCapacity : Option UInt64 := none
  deriving Repr, DecidableEq

namespace Draft

/-- Whether a setting was read. -/
def has (draft : Draft) : Field → Bool
  | .socketPath => draft.socketPath.isSome
  | .logFilter => draft.logFilter.isSome
  | .logFormat => draft.logFormat.isSome
  | .verbose => draft.verbose.isSome
  | .bufferCapacity => draft.bufferCapacity.isSome

/-- The settings, with defaults for those that were not read. -/
def complete (draft : Draft) : Settings where
  socketPath := draft.socketPath.getD defaultSocketPath
  logFilter := draft.logFilter.getD defaultLogFilter
  logFormat := draft.logFormat.getD defaultLogFormat
  verbose := draft.verbose.getD false
  bufferCapacity := draft.bufferCapacity.getD defaultBufferCapacity

end Draft

/-! ## Values of a type -/

/-- The mismatch of a leaf that is read to its end, or the fault in it. -/
def leafMismatch {α : Type} (expected : String) (found : α → Found) (read : Read α) : ReadError :=
  match read with
  | .ok (value, _) => .mismatch (.type (found value) expected)
  | .error fault => fault

/-- A fixed word as a reader of a value. -/
def word {α : Type} (letters : List Char) (value : α) (text : List Char) : Read α :=
  (literal letters text).map fun rest => (value, rest)

/-- The error of a text that begins with a value of the wrong type, or with no value. -/
def wrongType (expected : String) : List Char → ReadError
  | [] => .truncated
  | c :: rest =>
    match c with
    | 'n' => leafMismatch expected id (word ['u', 'l', 'l'] .null rest)
    | 't' => leafMismatch expected id (word ['r', 'u', 'e'] (.bool true) rest)
    | 'f' => leafMismatch expected id (word ['a', 'l', 's', 'e'] (.bool false) rest)
    | '"' => leafMismatch expected Found.text (readString [] rest)
    | '-' => leafMismatch expected Number.found (readNumber true rest)
    | '[' => .mismatch (.type .sequence expected)
    | '{' => .mismatch (.type .map expected)
    | c =>
      if c.isDigit then leafMismatch expected Number.found (readNumber false (c :: rest))
      else .malformed

/-- Reads a text. -/
def readText (expected : String) (text : List Char) : Read String :=
  match skipBlanks text with
  | '"' :: rest => readString [] rest
  | other => .error (wrongType expected other)

/-- Reads a truth value. -/
def readBool (text : List Char) : Read Bool :=
  match skipBlanks text with
  | 't' :: rest => word ['r', 'u', 'e'] true rest
  | 'f' :: rest => word ['a', 'l', 's', 'e'] false rest
  | other => .error (wrongType boolExpected other)

/-- A number as a capacity. -/
def capacityOf : Number → Except ReadError UInt64
  | .natural value => .ok (UInt64.ofNat value)
  | .negative value => .error (.mismatch (.range (.integer (-value)) capacityExpected))
  | .float value => .error (.mismatch (.type (.float value) capacityExpected))

/-- Reads a capacity. -/
def readCapacity (text : List Char) : Read UInt64 :=
  match skipBlanks text with
  | [] => .error .truncated
  | c :: rest =>
    if c = '-' ∨ c.isDigit then
      match readNumber (c = '-') (if c = '-' then rest else c :: rest) with
      | .error e => .error e
      | .ok (number, rest) => (capacityOf number).map fun capacity => (capacity, rest)
    else .error (wrongType capacityExpected (c :: rest))

/-- Reads a format's name behind its opening quote. -/
def readFormatName (text : List Char) : Read LogFormat :=
  match readString [] text with
  | .error e => .error e
  | .ok (name, rest) =>
    match decodeFormatName name with
    | .ok format => .ok (format, rest)
    | .error cause => .error (.mismatch cause)

/-- Takes a character off the front, behind blanks. -/
def expect (c : Char) (text : List Char) : Except ReadError (List Char) :=
  match skipBlanks text with
  | [] => .error .truncated
  | d :: rest => if d = c then .ok rest else .error .malformed

/-- Reads a value that has to be nothing. -/
def readNull (text : List Char) : Except ReadError (List Char) :=
  match skipBlanks text with
  | 'n' :: rest => literal ['u', 'l', 'l'] rest
  | other => .error (wrongType "unit" other)

/-- Reads a format's name where a key stands; nothing but a name may stand there. -/
def readFormatKey (text : List Char) : Read LogFormat :=
  match skipBlanks text with
  | [] => .error .truncated
  | '"' :: rest => readFormatName rest
  | _ => .error .malformed

/-- Reads a format's name as the only key of an object, behind its opening bracket. -/
def readFormatObject (text : List Char) : Except ReadError (LogFormat × List Char) := do
  let (format, rest) ← readFormatKey text
  let rest ← expect ':' rest
  let rest ← readNull rest
  let rest ← expect '}' rest
  return (format, rest)

/-- Reads a format. -/
def readFormat (text : List Char) : Read LogFormat :=
  match skipBlanks text with
  | [] => .error .truncated
  | '"' :: rest => readFormatName rest
  | '{' :: rest => readFormatObject rest
  | _ => .error .malformed

/-- **Reads the value of a setting.** -/
def readField (draft : Draft) (field : Field) (text : List Char) : Read Draft :=
  match field with
  | .socketPath =>
    (readText pathExpected text).map fun (value, rest) => ({ draft with socketPath := some value }, rest)
  | .logFilter =>
    (readText textExpected text).map fun (value, rest) => ({ draft with logFilter := some value }, rest)
  | .logFormat =>
    (readFormat text).map fun (value, rest) => ({ draft with logFormat := some value }, rest)
  | .verbose =>
    (readBool text).map fun (value, rest) => ({ draft with verbose := some value }, rest)
  | .bufferCapacity =>
    (readCapacity text).map fun (value, rest) => ({ draft with bufferCapacity := some value }, rest)

/-! ## Every value takes up some of the text -/

theorem map_eq_ok {α β : Type} {r : Except ReadError α} {f : α → β} {b : β} (h : r.map f = .ok b) :
    ∃ a, r = .ok a ∧ f a = b := by
  cases r with
  | error e => simp [Except.map] at h
  | ok a => exact ⟨a, rfl, by simpa [Except.map] using h⟩

theorem bind_eq_ok {α β : Type} {r : Except ReadError α} {f : α → Except ReadError β} {b : β}
    (h : (r >>= f) = .ok b) : ∃ a, r = .ok a ∧ f a = .ok b := by
  cases r with
  | error e => simp [bind, Except.bind] at h
  | ok a => exact ⟨a, rfl, by simpa [bind, Except.bind] using h⟩

theorem length_word_le {α : Type} {letters text rest : List Char} {value v : α}
    (h : word letters value text = .ok (v, rest)) : rest.length ≤ text.length := by
  obtain ⟨r, hr, he⟩ := map_eq_ok h
  have := length_literal_le hr
  grind

theorem length_of_skipBlanks {text rest : List Char} {c : Char} (h : skipBlanks text = c :: rest) :
    rest.length < text.length := by
  have := length_skipBlanks_le text
  rw [h, List.length_cons] at this
  omega

theorem length_readText_lt {expected : String} {text rest : List Char} {value : String}
    (h : readText expected text = .ok (value, rest)) : rest.length < text.length := by
  unfold readText at h
  split at h
  · next front =>
    have := length_of_skipBlanks front
    have := length_readString_lt h
    omega
  · cases h

theorem length_readBool_lt {text rest : List Char} {value : Bool}
    (h : readBool text = .ok (value, rest)) : rest.length < text.length := by
  unfold readBool at h
  split at h
  · next front =>
    have := length_of_skipBlanks front
    have := length_word_le h
    omega
  · next front =>
    have := length_of_skipBlanks front
    have := length_word_le h
    omega
  · cases h

theorem length_readCapacity_lt {text rest : List Char} {value : UInt64}
    (h : readCapacity text = .ok (value, rest)) : rest.length < text.length := by
  unfold readCapacity at h
  split at h
  · cases h
  · next c tail front =>
    have h₀ := length_of_skipBlanks front
    have h₁ := length_skipBlanks_le text
    rw [front, List.length_cons] at h₁
    split at h
    · split at h
      · cases h
      · next found =>
        obtain ⟨v, _, he⟩ := map_eq_ok h
        have h₂ := length_readNumber_lt found
        simp only [Prod.mk.injEq] at he
        rw [← he.2]
        split at h₂
        · omega
        · rw [List.length_cons] at h₂; omega
    · cases h

theorem length_readFormatName_lt {text rest : List Char} {format : LogFormat}
    (h : readFormatName text = .ok (format, rest)) : rest.length < text.length := by
  unfold readFormatName at h
  split at h
  · cases h
  · next found =>
    have := length_readString_lt found
    split at h
    · cases h; exact this
    · cases h

theorem length_expect_lt {c : Char} {text rest : List Char} (h : expect c text = .ok rest) :
    rest.length < text.length := by
  unfold expect at h
  split at h
  · cases h
  · next front =>
    have := length_of_skipBlanks front
    grind

theorem length_readNull_lt {text rest : List Char} (h : readNull text = .ok rest) :
    rest.length < text.length := by
  unfold readNull at h
  split at h
  · next front =>
    have := length_of_skipBlanks front
    have := length_literal_le h
    omega
  · cases h

theorem length_readFormatKey_lt {text rest : List Char} {format : LogFormat}
    (h : readFormatKey text = .ok (format, rest)) : rest.length < text.length := by
  unfold readFormatKey at h
  split at h
  · cases h
  · next front =>
    have := length_of_skipBlanks front
    have := length_readFormatName_lt h
    omega
  · cases h

theorem length_readFormatObject_lt {text rest : List Char} {format : LogFormat}
    (h : readFormatObject text = .ok (format, rest)) : rest.length < text.length := by
  unfold readFormatObject at h
  obtain ⟨⟨f, r₁⟩, h₁, h⟩ := bind_eq_ok h
  obtain ⟨r₂, h₂, h⟩ := bind_eq_ok h
  obtain ⟨r₃, h₃, h⟩ := bind_eq_ok h
  obtain ⟨r₄, h₄, h⟩ := bind_eq_ok h
  simp only [pure, Except.pure, Except.ok.injEq, Prod.mk.injEq] at h
  have := length_expect_lt h₂
  have := length_readNull_lt h₃
  have := length_expect_lt h₄
  have := length_readFormatKey_lt h₁
  rw [← h.2]; omega

theorem length_readFormat_lt {text rest : List Char} {format : LogFormat}
    (h : readFormat text = .ok (format, rest)) : rest.length < text.length := by
  unfold readFormat at h
  split at h
  · cases h
  · next front =>
    have := length_of_skipBlanks front
    have := length_readFormatName_lt h
    omega
  · next front =>
    have := length_of_skipBlanks front
    have := length_readFormatObject_lt h
    omega
  · cases h

theorem length_readField_lt {draft draft' : Draft} {field : Field} {text rest : List Char}
    (h : readField draft field text = .ok (draft', rest)) : rest.length < text.length := by
  cases field <;> obtain ⟨⟨v, r⟩, hr, he⟩ := map_eq_ok h <;>
    simp only [Prod.mk.injEq] at he <;> rw [← he.2]
  · exact length_readText_lt hr
  · exact length_readText_lt hr
  · exact length_readFormat_lt hr
  · exact length_readBool_lt hr
  · exact length_readCapacity_lt hr

/-! ## The two shapes -/

/-- Reads what stands behind the key of a member: the value of a setting, or one that is skipped. -/
def readMember (draft : Draft) (key : String) (text : List Char) :
    Except ReadError (Draft × List Char) :=
  match Field.ofKey? key with
  | none => do
    let rest ← expect ':' text
    let rest ← skipValue rest
    return (draft, rest)
  | some field =>
    if draft.has field then .error (.mismatch (.duplicate key))
    else do
      let rest ← expect ':' text
      readField draft field rest

theorem length_readMember_lt {draft draft' : Draft} {key : String} {text rest : List Char}
    (h : readMember draft key text = .ok (draft', rest)) : rest.length < text.length := by
  unfold readMember at h
  split at h
  · obtain ⟨r₁, h₁, h⟩ := bind_eq_ok h
    obtain ⟨r₂, h₂, h⟩ := bind_eq_ok h
    simp only [pure, Except.pure, Except.ok.injEq, Prod.mk.injEq] at h
    have := length_expect_lt h₁
    have := length_skipValue_lt h₂
    rw [← h.2]; omega
  · split at h
    · cases h
    · obtain ⟨r₁, h₁, h⟩ := bind_eq_ok h
      have := length_expect_lt h₁
      have := length_readField_lt h
      omega

/-- Finds the key of the next member behind its opening quote, or the end of the object. -/
def nextMember (isFirst : Bool) (text : List Char) : Except ReadError (Bool × List Char) :=
  match skipBlanks text with
  | [] => .error .truncated
  | '}' :: rest => .ok (false, rest)
  | '"' :: rest => if isFirst then .ok (true, rest) else .error .malformed
  | ',' :: rest =>
    if isFirst then .error .malformed else (expect '"' rest).map fun rest => (true, rest)
  | _ => .error .malformed

theorem length_nextMember_lt {isFirst more : Bool} {text rest : List Char}
    (h : nextMember isFirst text = .ok (more, rest)) : rest.length < text.length := by
  unfold nextMember at h
  split at h
  · cases h
  · next front =>
    have := length_of_skipBlanks front
    cases h; exact this
  · next front =>
    have := length_of_skipBlanks front
    split at h
    · cases h; exact this
    · cases h
  · next front =>
    have h₀ := length_of_skipBlanks front
    split at h
    · cases h
    · obtain ⟨r, hr, he⟩ := map_eq_ok h
      have := length_expect_lt hr
      simp only [Prod.mk.injEq] at he
      rw [← he.2]; omega
  · cases h

/-- **Reads the members of an object**, behind its opening bracket. -/
def readMembers (draft : Draft) (isFirst : Bool) (text : List Char) : Read Draft :=
  match _next : nextMember isFirst text with
  | .error e => .error e
  | .ok (false, rest) => .ok (draft, rest)
  | .ok (true, rest) =>
    match _key : readString [] rest with
    | .error e => .error e
    | .ok (key, rest) =>
      match _value : readMember draft key rest with
      | .error e => .error e
      | .ok (draft, rest) => readMembers draft false rest
termination_by text.length
decreasing_by
  have h₁ := length_nextMember_lt _next
  have h₂ := length_readString_lt _key
  have h₃ := length_readMember_lt _value
  omega

/-- Finds the next value of a list, or the end of the list. -/
def nextElement (isFirst : Bool) (text : List Char) : Except ReadError (Bool × List Char) :=
  match skipBlanks text with
  | [] => .error .truncated
  | ']' :: rest => .ok (false, rest)
  | c :: rest =>
    if isFirst then .ok (true, c :: rest)
    else if c = ',' then
      match skipBlanks rest with
      | [] => .error .truncated
      | ']' :: _ => .error .malformed
      | other => .ok (true, other)
    else .error .malformed

/-- **Reads the values of a list**, behind its opening bracket, for the given settings; a list with more
    values than settings is refused. -/
def readElements (draft : Draft) (isFirst : Bool) : List Field → List Char → Read Draft
  | [], text => (expect ']' text).map fun rest => (draft, rest)
  | field :: fields, text =>
    match nextElement isFirst text with
    | .error e => .error e
    | .ok (false, rest) => .ok (draft, rest)
    | .ok (true, rest) =>
      match readField draft field rest with
      | .error e => .error e
      | .ok (draft, rest) => readElements draft false fields rest

/-- Reads a document, leaving what stands behind it. -/
def readDocument (text : List Char) : Read Draft :=
  match skipBlanks text with
  | '[' :: rest => readElements {} true Field.all rest
  | '{' :: rest => readMembers {} true rest
  | other => .error (wrongType "struct Config" other)

/-- **Settings from a JSON text.** -/
def ofJson (text : String) : Except ReadError Settings :=
  match readDocument text.toList with
  | .error e => .error e
  | .ok (draft, rest) => if (skipBlanks rest).isEmpty then .ok draft.complete else .error .malformed

/-! ## Writing -/

/-- The value of a setting as it is written. -/
def written (settings : Settings) : Field → String
  | .socketPath => Quoted.quote settings.socketPath
  | .logFilter => Quoted.quote settings.logFilter
  | .logFormat => Quoted.quote settings.logFormat.name
  | .verbose => if settings.verbose then "true" else "false"
  | .bufferCapacity => toString settings.bufferCapacity.toNat

/-- **Settings as a JSON text.** -/
def toJson (settings : Settings) : String :=
  Quoted.object (Field.all.map fun field => (field.key, settings.written field))

end DeviceBroker.Settings
