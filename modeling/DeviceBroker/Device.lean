import DeviceBroker.Bytes

/-!
# `Device` — the shared buffer and its one writer

The device is a bounded byte buffer that any session may read or empty, and that one session at a
time may claim for writing. One byte of the capacity stays reserved, so the buffer is always
shorter than the capacity. A text that does not fit is cut, and the device reports how much it kept.

## Contents

* `SessionId` — identities of sessions.
* `Device`, `Device.create` — the device; a capacity that no allocation can satisfy is refused.
* `claim`, `release`, `append`, `write`, `clear`, `status` — what sessions do with it.
* `Device.Request`, `Device.perform` — the same as data, with the answers.
-/

namespace DeviceBroker

/-- The identity of a session, given out once per process. -/
structure SessionId where
  raw : UInt64
  deriving Repr, DecidableEq

namespace SessionId

/-- The way a session is named in the log. -/
def label (id : SessionId) : String :=
  s!"session-{id.raw.toNat}"

/-- Identities are ordered by their numbers. -/
def le (a b : SessionId) : Bool :=
  a.raw ≤ b.raw

end SessionId

/-- A bounded buffer with at most one writer. -/
structure Device where
  /-- The size asked for, one byte of which stays free. -/
  capacity : Nat
  /-- The bytes stored. -/
  buffer : Bytes := []
  /-- The session that holds the writer's claim. -/
  owner : Option SessionId := none
  deriving Repr, DecidableEq

/-- Why a device cannot be made. -/
inductive DeviceError where
  /-- No allocation can have this size. -/
  | capacityOverflow
  deriving Repr, DecidableEq

/-- The wording of a device error. -/
def DeviceError.message : DeviceError → String
  | capacityOverflow => "capacity overflow"

namespace Device

/-- The largest size of one allocation in bytes. -/
def maxAllocation : Nat := Nat.pow 2 63 - 1

/-- The capacity of a device for which none is configured. -/
def defaultCapacity : Nat := 4096

/-- An empty, unclaimed device. A capacity of zero counts as one. -/
def create (capacity : Nat) : Except DeviceError Device :=
  if maxAllocation < max capacity 1 then .error .capacityOverflow
  else .ok { capacity := max capacity 1 }

theorem create_eq_ok {capacity : Nat} (h : capacity ≤ maxAllocation) :
    create capacity = .ok { capacity := max capacity 1 } := by
  have : max capacity 1 ≤ maxAllocation := Nat.max_le.2 ⟨h, by decide⟩
  simp [create, Nat.not_lt.2 this]

/-! ## The writer's claim -/

/-- Whether `session` may write: nobody holds the claim, or `session` does. -/
def isFreeFor (device : Device) (session : SessionId) : Bool :=
  match device.owner with
  | none => true
  | some owner => owner == session

/-- Claims the device for `session` and tells whether it now holds the claim. -/
def claim (device : Device) (session : SessionId) : Bool × Device :=
  if device.isFreeFor session then (true, { device with owner := some session })
  else (false, device)

/-- Gives up the claim of `session`; a claim of another session stays. -/
def release (device : Device) (session : SessionId) : Device :=
  if device.owner = some session then { device with owner := none } else device

theorem owner_release_ne (device : Device) (session : SessionId) :
    (device.release session).owner ≠ some session := by
  unfold release
  split
  · simp
  · assumption

/-! ## The buffer -/

/-- How many more bytes fit. -/
def room (device : Device) : Nat :=
  device.capacity - 1 - device.buffer.length

/-- Stores as much of `text` as fits and returns how many bytes that were. -/
def append (device : Device) (text : Bytes) : Nat × Device :=
  let stored := min text.length device.room
  (stored, { device with buffer := device.buffer ++ text.take stored })

/-- What became of a write. -/
inductive WriteOutcome where
  /-- The session holds the claim, and this many bytes were stored. -/
  | written (stored : Nat)
  /-- Another session holds the claim, and nothing was stored. -/
  | busy
  deriving Repr, DecidableEq

/-- Claims the device for `session` and appends `text`, in one step. -/
def write (device : Device) (session : SessionId) (text : Bytes) : WriteOutcome × Device :=
  match device.claim session with
  | (false, device) => (.busy, device)
  | (true, device) =>
    let (stored, device) := device.append text
    (.written stored, device)

/-- Empties the buffer; the claim stays. -/
def clear (device : Device) : Device :=
  { device with buffer := [] }

/-- A summary of the device. -/
structure Status where
  /-- The number of bytes stored. -/
  length : Nat
  /-- Whether a session holds the claim. -/
  writerActive : Bool
  deriving Repr, DecidableEq

/-- The summary of the device as it is. -/
def status (device : Device) : Status :=
  { length := device.buffer.length, writerActive := device.owner.isSome }

/-! ## Requests as data -/

/-- One thing to do with a device. -/
inductive Request where
  | claim (session : SessionId)
  | release (session : SessionId)
  | append (text : Bytes)
  | write (session : SessionId) (text : Bytes)
  | read
  | clear
  | status
  | capacity
  | owner
  deriving Repr, DecidableEq

/-- The answer to a request. -/
inductive Answer where
  | claimed (success : Bool)
  | done
  | stored (count : Nat)
  | outcome (outcome : WriteOutcome)
  | contents (bytes : Bytes)
  | status (status : Status)
  | capacity (size : Nat)
  | owner (session : Option SessionId)
  deriving Repr, DecidableEq

/-- Performs a request. -/
def perform (device : Device) : Request → Answer × Device
  | .claim session => let (success, device) := device.claim session; (.claimed success, device)
  | .release session => (.done, device.release session)
  | .append text => let (count, device) := device.append text; (.stored count, device)
  | .write session text => let (result, device) := device.write session text; (.outcome result, device)
  | .read => (.contents device.buffer, device)
  | .clear => (.done, device.clear)
  | .status => (.status device.status, device)
  | .capacity => (.capacity device.capacity, device)
  | .owner => (.owner device.owner, device)

end Device

end DeviceBroker
