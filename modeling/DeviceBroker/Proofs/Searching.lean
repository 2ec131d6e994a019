import DeviceBroker.Proofs.Lines
import Mathlib.Data.List.Forall2

/-!
# `Proofs.Searching` — the buffer without its memory

A buffer remembers how far it has looked for a newline. The queue here remembers nothing and searches from
the front every time. Whatever is done with both, in whatever order, they answer alike: a sound buffer has
looked at no newline, so a search that starts behind what was looked at finds the first one.

Bytes may come in any pieces, with any requests for lines between them; the lines that are given out in
the end are those of the bytes.

## Contents

* `ByteQueue` — bytes that wait, and no memory.
* `LineBuffer.Operation`, `LineBuffer.Answer`, `replay` — what is done with a buffer or a queue, in order.
* `Sound.perform`, `Sound.replay` — a buffer and a queue side by side.
* `Bytes.EndedBy`, `Bytes.ended_lines` — lines with the terminators they had.
* `LineBuffer.Sound.total` — the lines that a history gives out; `replay_eq_queue` — **the memory makes no
  difference.**
-/

namespace DeviceBroker

/-- **A queue of bytes** that remembers no search. -/
structure ByteQueue where
  bytes : Bytes := []
  deriving Repr, DecidableEq

namespace LineBuffer

/-- What is done with bytes that wait. -/
inductive Operation where
  /-- Bytes arrive. -/
  | push (bytes : Bytes)
  /-- The next complete line is asked for. -/
  | next
  /-- What waits is dropped. -/
  | discard
  /-- It is asked how many bytes wait. -/
  | size
  /-- It is asked whether they are too many. -/
  | isOverlong
  deriving Repr, DecidableEq

/-- What an operation answers. -/
inductive Answer where
  | done
  /-- A line; nothing if none is complete. -/
  | given (line : Option Bytes)
  | count (count : Nat)
  | flag (flag : Bool)
  deriving Repr, DecidableEq

/-- The bytes that an operation brings. -/
def Operation.bytes : Operation → Bytes
  | push bytes => bytes
  | next | discard | size | isOverlong => []

/-- The line that an answer gives out. -/
def Answer.line? : Answer → Option Bytes
  | given line => line
  | done | count _ | flag _ => none

/-- One operation on a buffer. -/
def perform (buffer : LineBuffer) : Operation → Answer × LineBuffer
  | .push bytes => (.done, buffer.push bytes)
  | .next => (.given buffer.pop?.1, buffer.pop?.2)
  | .discard => (.count buffer.discard.1, buffer.discard.2)
  | .size => (.count buffer.size, buffer)
  | .isOverlong => (.flag buffer.isOverlong, buffer)

/-- **A history** of a buffer: operations one after the other, and what they answer. -/
def replay (buffer : LineBuffer) : List Operation → List Answer × LineBuffer
  | [] => ([], buffer)
  | operation :: rest =>
    let (answer, buffer) := buffer.perform operation
    let (answers, buffer) := buffer.replay rest
    (answer :: answers, buffer)

end LineBuffer

namespace ByteQueue

open LineBuffer (Operation Answer)

/-- One operation on a queue: every search starts at the front. -/
def perform (queue : ByteQueue) : Operation → Answer × ByteQueue
  | .push bytes => (.done, { bytes := queue.bytes ++ bytes })
  | .next =>
    match splitLine? queue.bytes with
    | none => (.given none, queue)
    | some (line, rest) => (.given (some line), { bytes := rest })
  | .discard => (.count queue.bytes.length, {})
  | .size => (.count queue.bytes.length, queue)
  | .isOverlong => (.flag (LineBuffer.limit < queue.bytes.length), queue)

/-- **A history** of a queue. -/
def replay (queue : ByteQueue) : List Operation → List Answer × ByteQueue
  | [] => ([], queue)
  | operation :: rest =>
    let (answer, queue) := queue.perform operation
    let (answers, queue) := queue.replay rest
    (answer :: answers, queue)

end ByteQueue

/-! ## One line off the front -/

namespace Bytes

/-- Without a newline there is no first line. -/
theorem splitLine?_of_not_mem {bytes : Bytes} (h : newline ∉ bytes) : splitLine? bytes = none := by
  have hnone : bytes.findIdx? (· == newline) = none := LineBuffer.findIdx?_drop_of_not_mem h 0
  rw [splitLine?, hnone]
  rfl

/-- The first line of a byte string ends at its first newline. -/
theorem splitLine?_cut {head : Bytes} (rest : Bytes) (h : newline ∉ head) :
    splitLine? (head ++ newline :: rest) = some (stripReturn head, rest) := by
  have hnone : head.findIdx? (· == newline) = none := LineBuffer.findIdx?_drop_of_not_mem h 0
  have hfound : (head ++ newline :: rest).findIdx? (· == newline) = some head.length := by
    rw [List.findIdx?_append, hnone]
    simp [List.findIdx?_cons]
  rw [splitLine?, hfound]
  simp

end Bytes

namespace LineBuffer

open Bytes

/-! ## Side by side -/

/-- **One operation** on a sound buffer answers as on the queue of its bytes, and leaves a sound buffer with
    the bytes of that queue. -/
theorem Sound.perform {buffer : LineBuffer} (h : buffer.Sound) (operation : Operation) :
    (buffer.perform operation).1 = (ByteQueue.perform ⟨buffer.pending⟩ operation).1 ∧
    (buffer.perform operation).2.Sound ∧
    (ByteQueue.perform ⟨buffer.pending⟩ operation).2 = ⟨(buffer.perform operation).2.pending⟩ := by
  cases operation with
  | push bytes => exact ⟨rfl, h.push bytes, rfl⟩
  | discard => exact ⟨rfl, sound_unsearched [], rfl⟩
  | size => exact ⟨rfl, h, rfl⟩
  | isOverlong => exact ⟨rfl, h, rfl⟩
  | next =>
    -- the only operation that searches; both find the same newline, or none
    unfold LineBuffer.perform ByteQueue.perform
    by_cases hmem : newline ∈ buffer.pending
    · obtain ⟨head, rest, hpending, hhead⟩ := List.eq_append_cons_of_mem hmem
      simp only [h.pop?_cut hhead hpending, hpending, splitLine?_cut rest hhead]
      exact ⟨trivial, sound_unsearched rest, trivial⟩
    · simp only [pop?_of_not_mem hmem, splitLine?_of_not_mem hmem]
      exact ⟨trivial, sound_searched hmem, trivial⟩

/-- **A whole history** of a sound buffer answers as that of the queue of its bytes, and the buffer is sound
    behind it. -/
theorem Sound.replay {buffer : LineBuffer} (h : buffer.Sound) (operations : List Operation) :
    (buffer.replay operations).1 = (ByteQueue.replay ⟨buffer.pending⟩ operations).1 ∧
    (buffer.replay operations).2.Sound ∧
    (ByteQueue.replay ⟨buffer.pending⟩ operations).2 = ⟨(buffer.replay operations).2.pending⟩ := by
  induction operations generalizing buffer with
  | nil => exact ⟨rfl, h, rfl⟩
  | cons operation rest ih =>
    obtain ⟨hanswer, hsound, hqueue⟩ := h.perform operation
    obtain ⟨hanswers, hlast, hleft⟩ := ih hsound
    simp only [LineBuffer.replay, ByteQueue.replay, hqueue]
    exact ⟨by rw [hanswer, hanswers], hlast, hleft⟩

/-! ## All lines of a history -/

/-- The bytes that a history brings. -/
def pushed (operations : List Operation) : Bytes :=
  operations.flatMap Operation.bytes

/-- **The lines that a history gives out**, those included that are complete in the end, and the bytes that
    no newline ended. -/
def total (buffer : LineBuffer) (operations : List Operation) : List Bytes × Bytes :=
  ((buffer.replay operations).1.filterMap Answer.line? ++ (buffer.replay operations).2.popAll.1,
    (buffer.replay operations).2.popAll.2.pending)

theorem popAll_of_none {buffer rest : LineBuffer} (h : buffer.pop? = (none, rest)) :
    buffer.popAll = ([], rest) := by
  rw [popAll]
  split
  · next heq =>
      rw [h] at heq
      cases heq
      rfl
  · next heq =>
      rw [h] at heq
      cases heq

theorem popAll_of_some {buffer rest : LineBuffer} {line : Bytes} (h : buffer.pop? = (some line, rest)) :
    buffer.popAll = (line :: rest.popAll.1, rest.popAll.2) := by
  rw [popAll]
  split
  · next heq =>
      rw [h] at heq
      cases heq
  · next heq =>
      rw [h] at heq
      cases heq
      rfl

/-- **All complete lines** of a sound buffer are the lines of its bytes, and the remainder stays. -/
theorem Sound.popAll {buffer : LineBuffer} (h : buffer.Sound) :
    buffer.popAll.1 = lines buffer.pending ∧ buffer.popAll.2.pending = remainder buffer.pending := by
  induction hbytes : buffer.pending using cut_induction generalizing buffer with
  | unended bytes hnone =>
    subst hbytes
    rw [popAll_of_none (pop?_of_not_mem hnone), lines_of_not_mem hnone, remainder_of_not_mem hnone]
    exact ⟨rfl, rfl⟩
  | line head rest hhead ih =>
    obtain ⟨hlines, hrest⟩ := ih (sound_unsearched rest) rfl
    rw [popAll_of_some (h.pop?_cut hhead hbytes), lines_cut rest hhead, remainder_cut rest hhead, hlines]
    exact ⟨rfl, hrest⟩

/-- One operation that drops nothing: what it gives out stands before the lines of all that waits or comes. -/
theorem Sound.lines_perform {buffer : LineBuffer} (h : buffer.Sound) {operation : Operation}
    (hkeep : operation ≠ .discard) (coming : Bytes) :
    lines (buffer.pending ++ operation.bytes ++ coming)
      = (buffer.perform operation).1.line?.toList ++ lines ((buffer.perform operation).2.pending ++ coming) ∧
    remainder (buffer.pending ++ operation.bytes ++ coming)
      = remainder ((buffer.perform operation).2.pending ++ coming) := by
  cases operation with
  | push bytes => exact ⟨rfl, rfl⟩
  | discard => exact absurd rfl hkeep
  | size => rw [Operation.bytes, List.append_nil]; exact ⟨rfl, rfl⟩
  | isOverlong => rw [Operation.bytes, List.append_nil]; exact ⟨rfl, rfl⟩
  | next =>
    rw [Operation.bytes, List.append_nil, LineBuffer.perform]
    by_cases hmem : newline ∈ buffer.pending
    · obtain ⟨head, rest, hpending, hhead⟩ := List.eq_append_cons_of_mem hmem
      rw [h.pop?_cut hhead hpending, hpending, List.append_assoc, List.cons_append, lines_cut _ hhead,
        remainder_cut _ hhead]
      exact ⟨rfl, rfl⟩
    · rw [pop?_of_not_mem hmem]
      exact ⟨rfl, rfl⟩

/-- **A history that drops nothing** gives out the lines of its bytes, and what is left is their remainder. -/
theorem Sound.total {buffer : LineBuffer} (h : buffer.Sound) {operations : List Operation}
    (hkeep : .discard ∉ operations) :
    buffer.total operations
      = (lines (buffer.pending ++ pushed operations), remainder (buffer.pending ++ pushed operations)) := by
  induction operations generalizing buffer with
  | nil =>
    obtain ⟨hlines, hrest⟩ := h.popAll
    rw [pushed, List.flatMap_nil, List.append_nil, ← hlines, ← hrest]
    rfl
  | cons operation rest ih =>
    rw [List.mem_cons, not_or] at hkeep
    obtain ⟨hone, hmore⟩ := hkeep
    obtain ⟨hlines, hrest⟩ := h.lines_perform (Ne.symm hone) (pushed rest)
    have hall := ih (h.perform operation).2.1 hmore
    have hpushed : buffer.pending ++ pushed (operation :: rest)
        = buffer.pending ++ operation.bytes ++ pushed rest := by
      rw [pushed, List.flatMap_cons, ← List.append_assoc]
      rfl
    rw [LineBuffer.total, Prod.mk.injEq] at hall
    rw [hpushed, hlines, hrest, ← hall.1, ← hall.2, LineBuffer.total]
    simp only [LineBuffer.replay]
    cases hgiven : (buffer.perform operation).1.line? with
    | none => simp [hgiven]
    | some line => simp [hgiven]

end LineBuffer

/-! ## Lines with their terminators -/

namespace Bytes

/-- **A line and the terminator it had**: a newline, or a return and a newline, and then only the last return
    of the line is in the terminator. -/
structure EndedBy (line ending : Bytes) : Prop where
  unbroken : newline ∉ line
  ending : ending = [carriageReturn, newline] ∨ ending = [newline] ∧ line.getLast? ≠ some carriageReturn

theorem stripReturn_concat (line : Bytes) : stripReturn (line ++ [carriageReturn]) = line := by
  rw [stripReturn, if_pos List.getLast?_concat, List.dropLast_concat]

/-- A stripped line and its terminator are the line as it came. -/
theorem endedBy_stripReturn {raw : Bytes} (h : newline ∉ raw) :
    ∃ ending, EndedBy (stripReturn raw) ending ∧ stripReturn raw ++ ending = raw ++ [newline] := by
  have hunbroken := LineBuffer.newline_not_mem_stripReturn h
  -- a return at the end is part of the terminator, and only that one
  by_cases hlast : raw.getLast? = some carriageReturn
  · obtain ⟨front, rfl⟩ := List.getLast?_eq_some_iff.1 hlast
    refine ⟨[carriageReturn, newline], ⟨hunbroken, Or.inl rfl⟩, ?_⟩
    rw [stripReturn_concat, List.append_assoc]
    rfl
  · have hstrip : stripReturn raw = raw := by rw [stripReturn, if_neg hlast]
    refine ⟨[newline], ⟨hunbroken, Or.inr ⟨rfl, ?_⟩⟩, ?_⟩
    · rwa [hstrip]
    · rw [hstrip]

/-- **Nothing is lost**: the lines of a byte string with the terminators they had, and then its remainder,
    are the byte string. -/
theorem ended_lines (bytes : Bytes) :
    ∃ endings, List.Forall₂ EndedBy (lines bytes) endings ∧
      (List.zipWith (· ++ ·) (lines bytes) endings).flatten ++ remainder bytes = bytes := by
  induction bytes using cut_induction with
  | unended bytes h =>
    rw [lines_of_not_mem h, remainder_of_not_mem h]
    exact ⟨[], .nil, rfl⟩
  | line head rest h ih =>
    obtain ⟨endings, hended, hrest⟩ := ih
    obtain ⟨ending, hone, hline⟩ := endedBy_stripReturn h
    rw [lines_cut rest h, remainder_cut rest h]
    refine ⟨ending :: endings, .cons hone hended, ?_⟩
    rw [List.zipWith_cons_cons, List.flatten_cons, List.append_assoc, hrest, hline, List.append_assoc]
    rfl

end Bytes

namespace LineBuffer

open Bytes

/-- **The memory makes no difference.** Any history of a new buffer answers as that of a queue that always
    searches from the front, and the buffer has at any time looked at bytes that it holds, none of them a
    newline. If nothing is dropped, the lines given out depend on the bytes alone and not on how they were
    cut into pieces or when lines were asked for; with their terminators, and what is left behind them, they
    are the bytes that arrived. -/
theorem replay_eq_queue (operations : List Operation) :
    (replay {} operations).1 = (ByteQueue.replay {} operations).1 ∧
    (replay {} operations).2.Sound ∧
    (∀ others, .discard ∉ operations → .discard ∉ others → pushed operations = pushed others →
      total {} operations = total {} others) ∧
    (.discard ∉ operations → ∃ endings, List.Forall₂ EndedBy (total {} operations).1 endings ∧
      (List.zipWith (· ++ ·) (total {} operations).1 endings).flatten ++ (total {} operations).2
        = pushed operations) := by
  have hnew : Sound {} := sound_unsearched []
  obtain ⟨hanswers, hsound, -⟩ := hnew.replay operations
  refine ⟨hanswers, hsound, ?_, ?_⟩
  · intro others hkeep hother hsame
    rw [hnew.total hkeep, hnew.total hother, hsame]
  · intro hkeep
    rw [hnew.total hkeep]
    exact ended_lines (pushed operations)

/-- A return and its newline in two pieces, lines asked for at different times. -/
theorem replay_eq_queue_split :
    let operations : List Operation := [.push (ofString "READ\r"), .next, .push (ofString "\nab"), .next]
    let others : List Operation := [.push (ofString "REA"), .push (ofString "D\r\nab")]
    total {} operations = total {} others ∧ total {} others = ([ofString "READ"], ofString "ab") := by
  intro operations others
  obtain ⟨-, -, hcuts, -⟩ := replay_eq_queue operations
  have hsame := hcuts others (by decide) (by decide) (by decide)
  refine ⟨hsame, ?_⟩
  have hnew : Sound {} := sound_unsearched []
  rw [hnew.total (by decide)]
  decide

end LineBuffer

end DeviceBroker
