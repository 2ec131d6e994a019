import DeviceBroker.Device

/-!
# `Reply` — answers to requests

Every reply but the buffer's contents is one line of text. The contents are sent as they are, without a
terminator, and an empty buffer is said in words.

## Contents

* `Reply`, `Reply.ofContents`.
* `Reply.render` — the bytes on the wire.
-/

namespace DeviceBroker

/-- An answer to one request. -/
inductive Reply where
  /-- The text of a write was taken. -/
  | written
  /-- Another session holds the device. -/
  | busy
  /-- The buffer was emptied. -/
  | cleared
  /-- The session ends. -/
  | bye
  /-- The device's summary. -/
  | status (status : Device.Status)
  /-- The contents of the buffer. -/
  | payload (bytes : Bytes)
  /-- The buffer holds nothing. -/
  | empty
  /-- The line was no request. -/
  | unknownCommand
  deriving Repr, DecidableEq

namespace Reply

/-- The answer to a read of a buffer with these contents. -/
def ofContents (bytes : Bytes) : Reply :=
  if bytes.isEmpty then empty else payload bytes

/-- The word for whether a session holds the claim. -/
def writerWord (active : Bool) : String :=
  if active then "active" else "none"

/-- **The bytes of a reply** on the wire. -/
def render : Reply → Bytes
  | written => Bytes.ofString "OK: written\n"
  | busy => Bytes.ofString "ERR: device busy\n"
  | cleared => Bytes.ofString "OK: buffer cleared\n"
  | bye => Bytes.ofString "OK: bye\n"
  | status { length, writerActive } =>
    Bytes.ofString s!"BUF_LEN={length}, WRITER={writerWord writerActive}\n"
  | payload bytes => bytes
  | empty => Bytes.ofString "(empty)\n"
  | unknownCommand => Bytes.ofString "ERR: unknown command\n"

end Reply

end DeviceBroker
