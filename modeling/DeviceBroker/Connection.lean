import DeviceBroker.Bytes
import DeviceBroker.IoError

/-!
# `Connection` — a pair of connected stream sockets

Each end has an inbox with the bytes the other end sent, and can be held several times over: it is
closed when its last holder lets go. Shutting an end down in both directions stops all further traffic
on both ends, and what had arrived can still be read.

An end that is closed while bytes wait in its inbox resets the other end, which then fails one read
before it sees the end of the stream.

## Contents

* `Endpoint`, `Connection`, `Connection.Side`.
* `Connection.poll`, `send`, `shutdown`, `hold`, `letGo`.
* `Connection.Act`, `Connection.act` — the same as data, for those who use an end.
-/

namespace DeviceBroker

/-- One end of a connection. -/
structure Endpoint where
  /-- Bytes that arrived and were not read. -/
  inbox : Bytes := []
  /-- How many handles to this end exist. -/
  holders : Nat := 1
  /-- No more traffic in either direction. -/
  shut : Bool := false
  /-- The other end was closed before it had read everything. -/
  wasReset : Bool := false
  deriving Repr, DecidableEq

/-- Two connected ends. -/
structure Connection where
  client : Endpoint := {}
  server : Endpoint := {}
  deriving Repr, DecidableEq

namespace Connection

/-- Which end. -/
inductive Side where
  | client | server
  deriving Repr, DecidableEq

/-- The opposite end. -/
def Side.other : Side → Side
  | client => server
  | server => client

/-- The end on one side. -/
def endpoint (connection : Connection) : Side → Endpoint
  | .client => connection.client
  | .server => connection.server

/-- Changes the end on one side. -/
def modify (connection : Connection) (side : Side) (change : Endpoint → Endpoint) : Connection :=
  match side with
  | .client => { connection with client := change connection.client }
  | .server => { connection with server := change connection.server }

/-- What a read that does not wait finds. -/
inductive Polled where
  /-- Bytes that had arrived. -/
  | bytes (bytes : Bytes)
  /-- The stream has ended. -/
  | ended
  /-- Nothing has arrived yet. -/
  | nothing
  /-- The read failed. -/
  | failure (error : IoError)
  deriving Repr, DecidableEq

/-- The error of a read after a reset. -/
def resetByPeer : IoError := .os 104

/-- The error of a write that nobody can receive. -/
def brokenPipe : IoError := .os 32

/-- Reads up to `limit` bytes without waiting. -/
def poll (connection : Connection) (side : Side) (limit : Nat) : Polled × Connection :=
  let here := connection.endpoint side
  if !here.inbox.isEmpty then
    (.bytes (here.inbox.take limit),
      connection.modify side fun e => { e with inbox := e.inbox.drop limit })
  else if here.wasReset then
    (.failure resetByPeer, connection.modify side fun e => { e with wasReset := false })
  else if here.shut then (.ended, connection)
  else (.nothing, connection)

/-- Sends bytes to the other end. -/
def send (connection : Connection) (side : Side) (bytes : Bytes) :
    Except IoError Nat × Connection :=
  if (connection.endpoint side).shut then (.error brokenPipe, connection)
  else
    (.ok bytes.length,
      connection.modify side.other fun e => { e with inbox := e.inbox ++ bytes })

/-- Shuts the connection down in both directions. -/
def shutdown (connection : Connection) : Connection :=
  { client := { connection.client with shut := true },
    server := { connection.server with shut := true } }

/-- Makes another handle to an end. -/
def hold (connection : Connection) (side : Side) : Connection :=
  connection.modify side fun e => { e with holders := e.holders + 1 }

/-- Closes one handle to an end, and the end with the last one. -/
def letGo (connection : Connection) (side : Side) : Connection :=
  let here := connection.endpoint side
  let released := connection.modify side fun e => { e with holders := e.holders - 1 }
  if here.holders = 1 then
    (released.modify side fun e => { e with inbox := [] }).modify side.other fun e =>
      { e with shut := true, wasReset := e.wasReset || !here.inbox.isEmpty }
  else released

/-! ## As data -/

/-- What those who use an end do with it. -/
inductive Act where
  /-- They read without waiting. -/
  | poll (side : Side) (limit : Nat)
  /-- They write. -/
  | send (side : Side) (bytes : Bytes)
  /-- They close a handle. -/
  | drop (side : Side)
  deriving Repr, DecidableEq

/-- What comes of it. -/
inductive Result where
  | polled (polled : Polled)
  | sent (count : Nat)
  | unsent (error : IoError)
  | dropped
  deriving Repr, DecidableEq

/-- **Does** something on a connection. -/
def act (connection : Connection) : Act → Result × Connection
  | .poll side limit =>
    let (polled, connection) := connection.poll side limit
    (.polled polled, connection)
  | .send side bytes =>
    match connection.send side bytes with
    | (.ok count, connection) => (.sent count, connection)
    | (.error error, connection) => (.unsent error, connection)
  | .drop side => (.dropped, connection.letGo side)

end Connection

end DeviceBroker
