import DeviceBroker.Device

/-!
# `LogRecord` — what the daemon says about itself

A record has a level, a target that names the part of the daemon it comes from, a message and named
values. Values are numbers, words or texts; the compact format quotes words only.

## Contents

* `Level` — the severities, from `error` to `trace`.
* `FieldValue`, `LogRecord`.
* `LogRecord.Target` — the targets in use.
-/

namespace DeviceBroker

/-- The severity of a record. -/
inductive Level where
  | error | warn | info | debug | trace
  deriving Repr, DecidableEq

namespace Level

/-- The name of a level in a record. -/
def name : Level → String
  | error => "ERROR"
  | warn => "WARN"
  | info => "INFO"
  | debug => "DEBUG"
  | trace => "TRACE"

/-- How verbose a level is: a filter that lets a level pass lets every less verbose one pass. -/
def verbosity : Level → Nat
  | error => 1
  | warn => 2
  | info => 3
  | debug => 4
  | trace => 5

end Level

/-- The value of a field of a record. -/
inductive FieldValue where
  /-- A number. -/
  | number (value : Int)
  /-- A word, quoted where values are told apart by quoting. -/
  | word (value : String)
  /-- A text, written as it is. -/
  | text (value : String)
  deriving Repr, DecidableEq

/-- The plain text of a value. -/
def FieldValue.plain : FieldValue → String
  | number value => toString value
  | word value => value
  | text value => value

/-- One record of the log. -/
structure LogRecord where
  level : Level
  target : String
  message : String
  fields : List (String × FieldValue) := []
  deriving Repr, DecidableEq

namespace LogRecord.Target

/-- Records of the sessions and their registry. -/
def session : String := "resmgrd::session"

/-- Records of start and stop. -/
def process : String := "resmgrd::process"

/-- Records of the listener. -/
def transport : String := "resmgrd::transport"

end LogRecord.Target

end DeviceBroker
