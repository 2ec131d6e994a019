import DeviceBroker.Command
import DeviceBroker.LineBuffer
import DeviceBroker.LogRecord
import DeviceBroker.ReplyStream

/-!
# `Session` — serving one client

A session cuts what its client sends into lines, answers every complete line against the shared device
before it looks at the next one, and ends when the client quits, closes its side, or something fails.
However it ends, it gives up its claim on the device.

Bytes without a newline are no request: at the end of the stream they are dropped, and too many of them
end the session.

## Contents

* `Session`, `Session.Failure`, `Session.Ending` — a session and the ways it ends.
* `Session.answer` — one command on the device.
* `Session.handleLine`, `Session.handleLines`, `Session.receive` — lines and pieces of the stream.
* `Session.readSize`, `Session.opened`, `Session.endOfStream`, `Session.readFailed`, `Session.close` — its
  borders.
-/

namespace DeviceBroker

/-- A client being served. -/
structure Session where
  id : SessionId
  /-- What the client has sent and no line has been cut from. -/
  input : LineBuffer := {}
  /-- Where the replies go. -/
  output : ReplyStream := {}
  deriving Repr, DecidableEq

namespace Session

/-- What can break a session off. -/
inductive Failure where
  /-- The client could not be read from. -/
  | read (source : IoError)
  /-- A reply could not be sent. -/
  | write (source : IoError)
  /-- This many bytes came without a newline. -/
  | lineTooLong (size : Nat)
  deriving Repr, DecidableEq

/-- The wording of a failure. -/
def Failure.message : Failure → String
  | read source => s!"failed to read from client: {source.message}"
  | write source => s!"failed to write reply to client: {source.message}"
  | lineTooLong size => s!"request line exceeds {LineBuffer.limit} bytes ({size} buffered)"

/-- How a session ended. -/
inductive Ending where
  /-- The client asked to quit. -/
  | quit
  /-- The client closed its side. -/
  | peerClosed
  /-- Something failed. -/
  | failed (cause : Failure)
  deriving Repr, DecidableEq

/-- What a session does that others can see, its work on the device apart. -/
inductive Effect where
  /-- A flush delivered these bytes. -/
  | replied (bytes : Bytes)
  /-- A record went to the log. -/
  | logged (record : LogRecord)
  deriving Repr, DecidableEq

namespace Effect

/-- The record that an effect adds to the log. -/
def record? : Effect → Option LogRecord
  | replied _ => none
  | logged record => some record

/-- The bytes that an effect delivers. -/
def bytes : Effect → Bytes
  | replied bytes => bytes
  | logged _ => []

end Effect

/-- The state after some of a session's work, with what was done and whether the session is over. -/
structure Turn where
  session : Session
  device : Device
  effects : List Effect := []
  ending : Option Ending := none
  deriving Repr, DecidableEq

/-- A record about a session. -/
def record (level : Level) (id : SessionId) (message : String)
    (fields : List (String × FieldValue) := []) : Effect :=
  .logged { level, target := LogRecord.Target.session, message,
            fields := ("session", .text id.label) :: fields }

/-! ## Requests -/

/-- The record of a write of which only `stored` of `requested` bytes fitted. -/
def truncation (id : SessionId) (requested stored : Nat) : List Effect :=
  if stored < requested then
    [record .debug id "write truncated at buffer capacity"
      [("requested", .number requested), ("stored", .number stored)]]
  else []

/-- **Performs a command** of session `id` and says what to answer. -/
def answer (id : SessionId) (device : Device) : Command → Reply × Device × List Effect
  | .quit => (.bye, device, [])
  | .status => (.status device.status, device, [])
  | .read => (.ofContents device.buffer, device, [])
  | .clear => (.cleared, device.clear, [])
  | .write text =>
    match device.write id text with
    | (.written stored, device) => (.written, device, truncation id text.length stored)
    | (.busy, device) => (.busy, device, [])
  | .unknown _ => (.unknownCommand, device, [])

/-- Serves one line: the command is performed, then its reply is sent. A reply that cannot be sent ends
    the session, and so does a quit whose reply was sent. -/
def handleLine (session : Session) (device : Device) (line : Bytes) : Turn :=
  let command := Command.parse line
  let received := record .debug session.id "command received"
    [("command", .word command.keyword), ("bytes", .number line.length)]
  let (reply, device, notes) := answer session.id device command
  let (result, output) := session.output.send reply.render
  let session := { session with output }
  match result with
  | .error source =>
    { session, device, effects := received :: notes, ending := some (.failed (.write source)) }
  | .ok delivered =>
    { session, device, effects := received :: (notes ++ [.replied delivered]),
      ending := if command = .quit then some .quit else none }

@[simp] theorem input_handleLine (session : Session) (device : Device) (line : Bytes) :
    (handleLine session device line).session.input = session.input := by
  unfold handleLine
  rcases answer session.id device (Command.parse line) with ⟨reply, device', notes⟩
  dsimp only
  split <;> rfl

@[simp] theorem id_handleLine (session : Session) (device : Device) (line : Bytes) :
    (handleLine session device line).session.id = session.id := by
  unfold handleLine
  rcases answer session.id device (Command.parse line) with ⟨reply, device', notes⟩
  dsimp only
  split <;> rfl

/-- Whether the reply can be sent does not matter to the device. -/
theorem device_handleLine (session : Session) (device : Device) (line : Bytes) :
    (handleLine session device line).device = (answer session.id device (Command.parse line)).2.1 := by
  unfold handleLine
  dsimp only
  split <;> rfl

/-- Serves the complete lines that wait, in order, until none is left or the session is over. -/
def handleLines (session : Session) (device : Device) : Turn :=
  match _found : session.input.pop? with
  | (none, input) => { session := { session with input }, device }
  | (some line, input) =>
    let turn := handleLine { session with input } device line
    if turn.ending.isSome then turn
    else
      let rest := handleLines turn.session turn.device
      { rest with effects := turn.effects ++ rest.effects }
termination_by session.input.pending.length
decreasing_by
  rw [input_handleLine]
  exact LineBuffer.length_pop?_lt _found

/-- **Takes a piece of the stream**: serves the lines it completes and checks what is left over. -/
def receive (session : Session) (device : Device) (bytes : Bytes) : Turn :=
  let turn := handleLines { session with input := session.input.push bytes } device
  if turn.ending.isNone ∧ turn.session.input.isOverlong then
    { turn with ending := some (.failed (.lineTooLong turn.session.input.size)) }
  else turn

/-! ## Borders -/

/-- The most bytes that one read hands over. -/
def readSize : Nat := 1024

theorem readSize_pos : 0 < readSize := Nat.zero_lt_succ 1023

/-- The first record of a session. -/
def opened (id : SessionId) : Effect :=
  record .debug id "session opened"

/-- The client closed its side: a line without its newline is dropped. -/
def endOfStream (session : Session) (device : Device) : Turn :=
  let (dropped, input) := session.input.discard
  let note :=
    if 0 < dropped then
      [record .debug session.id "discarding unterminated request at end of stream"
        [("bytes", .number dropped)]]
    else []
  { session := { session with input }, device, effects := note, ending := some .peerClosed }

/-- Reading from the client failed. -/
def readFailed (session : Session) (device : Device) (error : IoError) : Turn :=
  { session, device, ending := some (.failed (.read error)) }

/-- The last record of a session. -/
def closing (id : SessionId) : Ending → Effect
  | .failed cause => record .warn id "session terminated" [("error", .text cause.message)]
  | .quit => record .debug id "session closed" [("reason", .text "Quit")]
  | .peerClosed => record .debug id "session closed" [("reason", .text "PeerClosed")]

/-- **Closes a session**: its claim, if it holds one, is given up. -/
def close (session : Session) (device : Device) (ending : Ending) : Device × Effect :=
  (device.release session.id, closing session.id ending)

end Session

end DeviceBroker
