import DeviceBroker.Session

/-!
# `Session.Script` — a whole session against a scripted client

A script says what each read of a session finds: data, which is handed over in pieces of bounded size; a
failure; the end of the stream. Between reads it may let somebody else use the device, or let a whole
other session run. Running a script serves the session to its end, and the report tells everything
that could be seen of it, in order.

An interrupted read is tried again, so it shows in the report and changes nothing. When the script is
over the stream has ended.

## Contents

* `Session.Step` — scripts.
* `Session.Event`, `Session.Report` — what is seen.
* `Session.run` — a session from its opening to its close.
* `Agenda` — requests and sessions one after the other on one device.
-/

namespace DeviceBroker

namespace Session

/-- What happens next on a scripted session. -/
inductive Step where
  /-- The client has sent these bytes. -/
  | data (bytes : Bytes)
  /-- A read fails. -/
  | failure (error : IoError)
  /-- Somebody else makes a request of the device. -/
  | device (request : Device.Request)
  /-- Another session runs from its opening to its close. -/
  | session (id : SessionId) (script : List Step) (output : ReplyStream)
  /-- The client has closed its side. -/
  | eof

/-- What is seen of a session. -/
inductive Event where
  /-- A read returned this many bytes. -/
  | read (count : Nat)
  /-- A read failed. -/
  | readError (kind : ErrorKind)
  /-- Somebody else's request was answered. -/
  | device (answer : Device.Answer)
  /-- Another session ran: what was seen of it, how it ended, the output and the script it left, and
      the device behind it. -/
  | session (events : List Event) (ending : Ending) (unflushed : Bytes) (unreadSteps unreadBytes : Nat)
      (device : Device)
  /-- The session itself did something. -/
  | effect (effect : Effect)

/-- What is known of a session when it is over. -/
structure Report where
  /-- What was seen, in order. -/
  events : List Event
  ending : Ending
  /-- Bytes that the stream accepted and never delivered. -/
  unflushed : Bytes
  /-- Steps of the script that no read reached. -/
  unreadSteps : Nat
  /-- Bytes of the last data that no read handed over. -/
  unreadBytes : Nat
  /-- The device when the session was closed. -/
  device : Device

/-- What is seen when a session has run as a step of another. -/
def Report.event (report : Report) : Event :=
  .session report.events report.ending report.unflushed report.unreadSteps report.unreadBytes
    report.device

/-- What a step of the script did: the session behind it, what was seen, and, if the session is over,
    how many bytes of the step's data were not handed over. -/
structure Reading where
  turn : Turn
  events : List Event
  unread : Nat := 0

/-- Hands over pieces of the stream until the session is over. -/
def receiveAll (session : Session) (device : Device) : List Bytes → Reading
  | [] => { turn := { session, device }, events := [] }
  | piece :: pieces =>
    let turn := session.receive device piece
    let events := .read piece.length :: turn.effects.map .effect
    if turn.ending.isSome then
      { turn, events, unread := pieces.flatten.length }
    else
      let rest := receiveAll turn.session turn.device pieces
      { rest with events := events ++ rest.events }

/-- Finds the end of the stream. -/
def readEnd (session : Session) (device : Device) : Reading :=
  let turn := session.endOfStream device
  { turn, events := .read 0 :: turn.effects.map .effect }

/-- Finds that a read fails; an interrupted read changes nothing. -/
def readError (session : Session) (device : Device) (error : IoError) : Reading :=
  { turn := if error.isInterrupted then { session, device } else session.readFailed device error,
    events := [.readError error.kind] }

/-- Closes a session that has ended, with its report. -/
def finish (reading : Reading) (ending : Ending) (unreadSteps : Nat) : Report :=
  let (device, note) := reading.turn.session.close reading.turn.device ending
  { events := reading.events ++ [.effect note], ending,
    unflushed := reading.turn.session.output.pending, unreadSteps, unreadBytes := reading.unread,
    device }

/-- Puts events before those of a report. -/
def Report.after (events : List Event) (report : Report) : Report :=
  { report with events := events ++ report.events }

mutual

/-- Serves an open session through the rest of its script. -/
def serve (session : Session) (device : Device) : List Step → Report
  | [] => finish (readEnd session device) .peerClosed 0
  | step :: script =>
    let reading := serveStep session device step
    match reading.turn.ending with
    | some ending => finish reading ending script.length
    | none => (serve reading.turn.session reading.turn.device script).after reading.events

/-- Serves one step of a script. -/
def serveStep (session : Session) (device : Device) : Step → Reading
  | .data bytes => receiveAll session device (Bytes.chunks readSize bytes readSize_pos)
  | .failure error => readError session device error
  | .eof => readEnd session device
  | .device request =>
    let (answer, device) := device.perform request
    { turn := { session, device }, events := [.device answer] }
  | .session id script output =>
    let report := (serve { id, output } device script).after [.effect (opened id)]
    { turn := { session, device := report.device }, events := [report.event] }

end

/-- **Runs a session** from its opening to its close. -/
def run (id : SessionId) (output : ReplyStream) (script : List Step) (device : Device) : Report :=
  (serve { id, output } device script).after [.effect (opened id)]

/-! ## Reading a report -/

/-- The records that went to the log, those of other sessions included, in order. -/
def Event.records : Event → List LogRecord
  | .effect (.logged record) => [record]
  | .session events _ _ _ _ _ => events.flatMap Event.records
  | _ => []

/-- The records of a whole report, in order. -/
def Report.records (report : Report) : List LogRecord :=
  report.events.flatMap Event.records

end Session

/-! ## Several users of one device -/

namespace Agenda

/-- One item: a request of the device or a whole session. -/
inductive Item where
  | device (request : Device.Request)
  | session (id : SessionId) (script : List Session.Step) (output : ReplyStream)

/-- The outcome of one item. -/
inductive Outcome where
  | device (answer : Device.Answer)
  | session (report : Session.Report)

/-- Performs items one after the other. -/
def perform (device : Device) : List Item → List Outcome × Device
  | [] => ([], device)
  | .device request :: items =>
    let (answer, device) := device.perform request
    let (outcomes, device) := perform device items
    (.device answer :: outcomes, device)
  | .session id script output :: items =>
    let report := Session.run id output script device
    let (outcomes, device) := perform report.device items
    (.session report :: outcomes, device)

/-- The records of an outcome. -/
def Outcome.records : Outcome → List LogRecord
  | .device _ => []
  | .session report => report.records

end Agenda

end DeviceBroker
