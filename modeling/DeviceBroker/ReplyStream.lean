import DeviceBroker.IoError
import DeviceBroker.Reply

/-!
# `ReplyStream` — sending replies over a stream that may fail

A stream accepts bytes piecewise: each write takes some of the bytes offered, or fails; each flush
delivers everything accepted since the last one, or fails. How the stream will behave is a *plan*: a
list of results for the writes to come and one for the flushes; past its end everything succeeds.

Sending offers a reply until the stream has taken it whole, then flushes. An interrupted write is tried
again, a write that takes nothing is a failure, and a failed flush is never tried again.

## Contents

* `WritePlan`, `FlushPlan`, `ReplyStream` — the stream and its plan.
* `ReplyStream.writeAll`, `ReplyStream.flush`, `ReplyStream.send`, `ReplyStream.sendAll`.
-/

namespace DeviceBroker

/-- What one write will do. -/
inductive WriteResult where
  /-- Take everything offered. -/
  | all
  /-- Take at most this many bytes. -/
  | atMost (count : Nat)
  /-- Fail. -/
  | failure (error : IoError)
  deriving Repr, DecidableEq

/-- What one flush will do. -/
inductive FlushResult where
  /-- Deliver what was accepted. -/
  | delivered
  /-- Fail. -/
  | failure (error : IoError)
  deriving Repr, DecidableEq

/-- A client's side of a stream, as the sender sees it. -/
structure ReplyStream where
  /-- The results of the writes to come. -/
  writes : List WriteResult := []
  /-- The results of the flushes to come. -/
  flushes : List FlushResult := []
  /-- Bytes accepted and not yet delivered. -/
  pending : Bytes := []
  deriving Repr, DecidableEq

namespace ReplyStream

/-- The error of a write that takes nothing. -/
def writeZero : IoError :=
  .custom .writeZero "failed to write whole buffer"

/-- Offers `bytes` to writes that go by a plan, until all are taken or a write fails. Returns the
    failure, the plan that is left, and the bytes taken. -/
def offer : List WriteResult → Bytes → Option IoError × List WriteResult × Bytes
  | plan, [] => (none, plan, [])
  | [], bytes => (none, [], bytes)
  | .all :: plan, bytes => (none, plan, bytes)
  | .atMost count :: plan, bytes =>
    if count = 0 then (some writeZero, plan, [])
    else
      let (failure, plan, taken) := offer plan (bytes.drop count)
      (failure, plan, bytes.take count ++ taken)
  | .failure error :: plan, bytes =>
    if error.isInterrupted then offer plan bytes else (some error, plan, [])

/-- Writes all of `bytes`, or as much as the stream takes before it fails. -/
def writeAll (stream : ReplyStream) (bytes : Bytes) : Option IoError × ReplyStream :=
  let (failure, writes, taken) := offer stream.writes bytes
  (failure, { stream with writes, pending := stream.pending ++ taken })

/-- Delivers what was accepted. Returns the bytes delivered, or the failure. -/
def flush (stream : ReplyStream) : Except IoError Bytes × ReplyStream :=
  match stream.flushes with
  | .failure error :: flushes => (.error error, { stream with flushes })
  | .delivered :: flushes => (.ok stream.pending, { stream with flushes, pending := [] })
  | [] => (.ok stream.pending, { stream with pending := [] })

/-- **Sends** bytes: all of them are written, then everything accepted is flushed. Returns what the
    flush delivered, or the failure that ended the attempt. -/
def send (stream : ReplyStream) (bytes : Bytes) : Except IoError Bytes × ReplyStream :=
  match stream.writeAll bytes with
  | (some error, stream) => (.error error, stream)
  | (none, stream) => stream.flush

/-- **Sends replies** in turn. A failure does not keep the later ones from being sent. -/
def sendAll (stream : ReplyStream) : List Reply → List (Except IoError Bytes) × ReplyStream
  | [] => ([], stream)
  | reply :: replies =>
    let (result, stream) := stream.send reply.render
    let (results, stream) := stream.sendAll replies
    (result :: results, stream)

end ReplyStream

end DeviceBroker
