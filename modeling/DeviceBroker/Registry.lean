import DeviceBroker.Connection
import DeviceBroker.Device

/-!
# `Registry` — the sessions that are running

The registry gives every session a new identity and knows which sessions are running, so that a stop
can cancel them. It keeps a handle of its own to the connection of a session, if one could be made;
cancelling shuts the connection down, and the session then finds the end of its stream.

Waiting for the sessions to end means looking at the registry again and again, at least once.

## Contents

* `Registry`, `allocate`, `enter`, `leave`, `liveCount` — identities and running sessions.
* `Registry.handles` — the connections that a cancellation reaches.
* `Registry.drained` — what waiting finds; `Registry.wait`, look by look.
* `Switchboard` — a registry with the connections its handles belong to.
* `Switchboard.Operation`, `perform`, `replay` — histories.
-/

namespace DeviceBroker

/-- The running sessions; `handle` names a session's connection if it can be cancelled. -/
structure Registry where
  nextId : UInt64 := 1
  live : List (SessionId × Option Nat) := []
  deriving Repr, DecidableEq

namespace Registry

/-- Gives out the next identity. -/
def allocate (registry : Registry) : SessionId × Registry :=
  (⟨registry.nextId⟩, { registry with nextId := registry.nextId + 1 })

/-- Gives a session an identity and counts it as running. -/
def enter (registry : Registry) (handle : Option Nat) : SessionId × Registry :=
  let (id, registry) := registry.allocate
  (id, { registry with live := registry.live.filter (·.1 ≠ id) ++ [(id, handle)] })

/-- Forgets a session; one that is not running is not missed. -/
def leave (registry : Registry) (id : SessionId) : Registry :=
  { registry with live := registry.live.filter (·.1 ≠ id) }

/-- The handle of a running session. -/
def handle? (registry : Registry) (id : SessionId) : Option Nat :=
  (registry.live.find? (·.1 = id)).bind (·.2)

/-- How many sessions are running. -/
def liveCount (registry : Registry) : Nat :=
  registry.live.length

/-- The connections of the running sessions that can be cancelled. -/
def handles (registry : Registry) : List Nat :=
  registry.live.filterMap (·.2)

/-- What waiting for the sessions to end finds, from the registry at each look: whether no session was
    running at one of them. There is always a first look. -/
def drained (first : Registry) (later : List Registry) : Bool :=
  (first :: later).any fun registry => registry.liveCount == 0

/-- One look at the registry of somebody who waits. -/
structure Look where
  registry : Registry
  /-- Whether the time is up then. -/
  late : Bool
  deriving Repr, DecidableEq

/-- **Waits** until no session is running or the time is up; nothing if the wait goes on. The sessions are counted
    before the time is looked at. -/
def wait : List Look → Option Bool
  | [] => none
  | look :: looks =>
    if look.registry.liveCount == 0 then some true
    else if look.late then some false
    else wait looks

end Registry

/-- A registry and the connections of the sessions that entered it. -/
structure Switchboard where
  registry : Registry := {}
  connections : List Connection := []
  /-- Which connection each session that ever entered has. -/
  known : List (SessionId × Nat) := []
  deriving Repr, DecidableEq

namespace Switchboard

/-- Gives out an identity without a connection. -/
def allocate (board : Switchboard) : SessionId × Switchboard :=
  let (id, registry) := board.registry.allocate
  (id, { board with registry })

/-- Makes a connection and enters its server end. The registry holds that end once more, if it can make another
    handle to it. -/
def enter (board : Switchboard) (cloned : Bool) : SessionId × Switchboard :=
  let index := board.connections.length
  let (id, registry) := board.registry.enter (if cloned then some index else none)
  let connection : Connection := if cloned then ({} : Connection).hold .server else {}
  (id, { registry, connections := board.connections ++ [connection], known := (id, index) :: board.known })

/-- Makes a connection and enters its server end, which the registry holds once more. -/
def connect (board : Switchboard) : SessionId × Switchboard :=
  board.enter true

/-- Changes one connection. -/
def modify (board : Switchboard) (index : Nat) (change : Connection → Connection) : Switchboard :=
  { board with connections := board.connections.modify index change }

/-- Forgets a session and closes the registry's handle to its connection. -/
def leave (board : Switchboard) (id : SessionId) : Switchboard :=
  let board' := { board with registry := board.registry.leave id }
  match board.registry.handle? id with
  | none => board'
  | some index => board'.modify index (·.letGo .server)

/-- **Cancels** every running session that can be, and tells how many those were. -/
def cancelAll (board : Switchboard) : Nat × Switchboard :=
  let handles := board.registry.handles
  (handles.length, handles.foldl (fun board index => board.modify index Connection.shutdown) board)

/-- The connection of a session. -/
def find? (board : Switchboard) (id : SessionId) : Option (Nat × Connection) :=
  match board.known.find? (·.1 = id) with
  | none => none
  | some (_, index) => board.connections[index]?.map fun connection => (index, connection)

/-! ## Histories -/

/-- What can happen to a registry and its connections. -/
inductive Operation where
  | allocate
  /-- A connection enters; `cloned` tells whether the registry gets a handle. -/
  | enter (cloned : Bool)
  | leave (id : SessionId)
  | cancelAll
  | liveCount
  /-- Something is done on the connection of a session. -/
  | act (id : SessionId) (act : Connection.Act)
  deriving Repr, DecidableEq

/-- What comes of it. -/
inductive Answer where
  | identity (id : SessionId)
  | done
  | count (number : Nat)
  | result (result : Connection.Result)
  /-- No session with that identity ever entered. -/
  | unknown
  deriving Repr, DecidableEq

/-- **One operation.** -/
def perform (board : Switchboard) : Operation → Answer × Switchboard
  | .allocate =>
    let (id, board) := board.allocate
    (.identity id, board)
  | .enter cloned =>
    let (id, board) := board.enter cloned
    (.identity id, board)
  | .leave id => (.done, board.leave id)
  | .cancelAll =>
    let (number, board) := board.cancelAll
    (.count number, board)
  | .liveCount => (.count board.registry.liveCount, board)
  | .act id act =>
    match board.find? id with
    | none => (.unknown, board)
    | some (index, connection) =>
      let (result, connection) := connection.act act
      (.result result, board.modify index fun _ => connection)

/-- **A history**, from an empty registry on. -/
def replay (history : List Operation) : Switchboard :=
  history.foldl (fun board operation => (board.perform operation).2) {}

end Switchboard

end DeviceBroker
