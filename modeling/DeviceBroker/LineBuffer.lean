import DeviceBroker.Bytes

/-!
# `LineBuffer` — cutting a byte stream into lines

Bytes arrive in arbitrary pieces. The buffer keeps what follows the last newline and gives out complete
lines in the order of arrival, so a line may span several pieces and a piece may hold several lines.
A search that found no newline remembers how far it looked, and the next search starts there.

`splitLine?` is the same cut without a memory: it always searches from the front.

## Contents

* `stripReturn`, `splitLine?` — one line off the front of a byte string.
* `LineBuffer`, `push`, `pop?`, `discard`, `popAll` — the buffer.
* `LineBuffer.limit`, `LineBuffer.isOverlong` — how much may wait without a newline.
-/

namespace DeviceBroker

/-- Removes one carriage return from the end of a line. -/
def stripReturn (line : Bytes) : Bytes :=
  if line.getLast? = some Bytes.carriageReturn then line.dropLast else line

/-- **The first line** of a byte string, without its terminator, and the bytes behind it; nothing if
    there is no newline. -/
def splitLine? (bytes : Bytes) : Option (Bytes × Bytes) :=
  (bytes.findIdx? (· == Bytes.newline)).map fun stop =>
    (stripReturn (bytes.take stop), bytes.drop (stop + 1))

/-- Bytes received and not yet given out. -/
structure LineBuffer where
  /-- The bytes that wait. -/
  pending : Bytes := []
  /-- No newline stands before this offset. -/
  searched : Nat := 0
  deriving Repr, DecidableEq

namespace LineBuffer

/-- More than this many bytes without a newline are too many. -/
def limit : Nat := 64 * 1024

/-- Adds received bytes at the end. -/
def push (buffer : LineBuffer) (bytes : Bytes) : LineBuffer :=
  { buffer with pending := buffer.pending ++ bytes }

/-- Takes the next complete line out of the buffer, searching only where no search has been. -/
def pop? (buffer : LineBuffer) : Option Bytes × LineBuffer :=
  match (buffer.pending.drop buffer.searched).findIdx? (· == Bytes.newline) with
  | none => (none, { buffer with searched := buffer.pending.length })
  | some offset =>
    let stop := buffer.searched + offset
    (some (stripReturn (buffer.pending.take stop)), { pending := buffer.pending.drop (stop + 1) })

/-- A line given out leaves fewer bytes waiting. -/
theorem length_pop?_lt {buffer rest : LineBuffer} {line : Bytes}
    (h : buffer.pop? = (some line, rest)) : rest.pending.length < buffer.pending.length := by
  unfold pop? at h
  split at h
  · simp at h
  · next offset hfound =>
    have hlt := (List.findIdx?_eq_some_iff_getElem.1 hfound).1
    rw [List.length_drop] at hlt
    simp only [Prod.mk.injEq] at h
    rw [← h.2]
    simp only [List.length_drop]
    omega

/-- All complete lines, in order. -/
def popAll (buffer : LineBuffer) : List Bytes × LineBuffer :=
  match _found : buffer.pop? with
  | (none, rest) => ([], rest)
  | (some line, rest) =>
    let (lines, last) := popAll rest
    (line :: lines, last)
termination_by buffer.pending.length
decreasing_by exact length_pop?_lt _found

/-- Drops the bytes that wait and tells how many they were. -/
def discard (buffer : LineBuffer) : Nat × LineBuffer :=
  (buffer.pending.length, {})

/-- How many bytes wait. -/
def size (buffer : LineBuffer) : Nat :=
  buffer.pending.length

/-- Whether more bytes wait than a line may hold. -/
def isOverlong (buffer : LineBuffer) : Bool :=
  limit < buffer.size

end LineBuffer

end DeviceBroker
