import DeviceBroker.Json.Quoted
import DeviceBroker.LogRecord
import DeviceBroker.Text.Quoted

/-!
# `LogLine` — records as they are written

Every record is written by one of the daemon's threads, and the thread's name goes with it. In the
compact format words are quoted and texts stand as they are, whatever characters they hold. In the other
format a record is an object whose members are the level, the message, the fields, the target and the
thread, all side by side.

## Contents

* `Thread`, `LogEntry`.
* `LogEntry.compact` — the line of an entry.
* `LogEntry.members`, `LogEntry.json` — the object of an entry.
-/

namespace DeviceBroker

/-- The threads of the daemon. -/
inductive Thread where
  | main
  /-- Waits for signals. -/
  | signals
  /-- Accepts connections. -/
  | accept
  /-- Serves one client. -/
  | session
  deriving Repr, DecidableEq

/-- The name of a thread. -/
def Thread.name : Thread → String
  | main => "main"
  | signals => "resmgr-signals"
  | accept => "resmgr-accept"
  | session => "resmgr-session"

/-- A record and the thread that wrote it. -/
structure LogEntry where
  thread : Thread
  record : LogRecord
  deriving Repr, DecidableEq

namespace LogLine

/-- A value as it is written. -/
def value : FieldValue → String
  | .number value => toString value
  | .word value => Text.Quoted.quote value
  | .text value => value

end LogLine

/-- The members of an entry's object. -/
def LogEntry.members (entry : LogEntry) : List (String × FieldValue) :=
  let record := entry.record
  [("level", .text record.level.name), ("message", .text record.message)] ++ record.fields ++
    [("target", .text record.target), ("threadName", .text entry.thread.name)]

/-- A value in an object. -/
def LogLine.jsonValue : FieldValue → String
  | .number value => toString value
  | .word value => Json.Quoted.quote value
  | .text value => Json.Quoted.quote value

/-- **The object of an entry.** -/
def LogEntry.json (entry : LogEntry) : String :=
  Json.Quoted.object (entry.members.map fun (name, value) => (name, LogLine.jsonValue value))

/-- **The line of an entry** in the compact format. -/
def LogEntry.compact (entry : LogEntry) : String :=
  let record := entry.record
  let fields := record.fields.map fun (name, value) => s!" {name}={LogLine.value value}"
  s!"{record.level.name} {entry.thread.name} {record.target}: {record.message}"
    ++ String.join fields

end DeviceBroker
