import DeviceBroker.Session.Script

/-!
# `Proofs.Events` — reading the events of a session

A report lists everything that was seen of a session. The theorems about sessions look at parts of it: all
events but the reads, the bytes that reached the client, or the events by which the session showed that the
device was used. Beside an answer only notes about cut texts go to the log, which are none of these.

## Contents

* `Session.received` — the record of a line that is served.
* `Event.isRead`, `Event.delivered`, `Event.reply?`, `Event.isUse` — what an event tells; `withoutReads`,
  `replies`.
* `Report.delivered`, `Report.uses` — everything that a client was sent, and every use of the device.
* `notes_eq` — what an answer may note beside it.
-/

namespace DeviceBroker

namespace Session

/-- The record of a line that is served. -/
def received (id : SessionId) (line : Bytes) : Effect :=
  record .debug id "command received"
    [("command", .word (Command.parse line).keyword), ("bytes", .number line.length)]

namespace Event

/-- Whether an event is a read. -/
def isRead : Event → Bool
  | .read _ | .readError _ => true
  | .device _ | .session .. | .effect _ => false

/-- What a flush of the session delivered. -/
def delivered : Event → Bytes
  | .effect shown => shown.bytes
  | .read _ | .readError _ | .device _ | .session .. => []

/-- The reply that a flush of the session delivered. -/
def reply? : Event → Option Bytes
  | .effect (.replied bytes) => some bytes
  | .effect (.logged _) | .read _ | .readError _ | .device _ | .session .. => none

/-- Whether an event shows that the device was used: a line was received, or somebody else acted. -/
def isUse : Event → Bool
  | .device _ | .session .. => true
  | .effect (.logged record) => record.message = "command received"
  | .read _ | .readError _ | .effect (.replied _) => false

end Event

/-- Events with the reads left out. -/
def withoutReads (events : List Event) : List Event :=
  events.filter fun event => !event.isRead

theorem withoutReads_append (a b : List Event) : withoutReads (a ++ b) = withoutReads a ++ withoutReads b :=
  List.filter_append a b

theorem withoutReads_effects (effects : List Effect) :
    withoutReads (effects.map .effect) = effects.map .effect := by
  rw [withoutReads, List.filter_eq_self]
  intro event hevent
  obtain ⟨effect, -, rfl⟩ := List.mem_map.1 hevent
  rfl

/-- Reads deliver nothing. -/
theorem delivered_withoutReads (events : List Event) :
    (withoutReads events).flatMap Event.delivered = events.flatMap Event.delivered := by
  induction events with
  | nil => rfl
  | cons event events ih =>
    rw [withoutReads] at ih ⊢
    by_cases h : event.isRead = true
    · have hnothing : event.delivered = [] := by
        cases event with
        | read count => rfl
        | readError kind => rfl
        | device answer => cases h
        | session events ending unflushed steps bytes device => cases h
        | effect shown => cases h
      rw [List.filter_cons_of_neg (by simp [h]), ih, List.flatMap_cons, hnothing, List.nil_append]
    · rw [List.filter_cons_of_pos (by simp [h]), List.flatMap_cons, List.flatMap_cons, ih]

/-- All bytes that a session delivered to its client. -/
def Report.delivered (report : Report) : Bytes :=
  report.events.flatMap Event.delivered

/-- The replies that some events show, one for each flush, in order. -/
def replies (events : List Event) : List Bytes :=
  events.filterMap Event.reply?

theorem replies_append (a b : List Event) : replies (a ++ b) = replies a ++ replies b :=
  List.filterMap_append

/-- Everything by which a session showed that the device was used, in order. -/
def Report.uses (report : Report) : List Event :=
  report.events.filter Event.isUse

/-- The notes beside an answer are records of one kind. -/
theorem notes_eq (id : SessionId) (device : Device) (command : Command) :
    ∀ effect ∈ (answer id device command).2.2,
      ∃ record, effect = .logged record ∧ record.message = "write truncated at buffer capacity" := by
  cases command with
  | write text =>
    intro effect heffect
    rw [answer] at heffect
    split at heffect
    · rw [truncation] at heffect
      split at heffect
      · obtain rfl := List.mem_singleton.1 heffect
        exact ⟨_, rfl, rfl⟩
      · cases heffect
    · cases heffect
  | quit => intro effect heffect; cases heffect
  | status => intro effect heffect; cases heffect
  | read => intro effect heffect; cases heffect
  | clear => intro effect heffect; cases heffect
  | unknown text => intro effect heffect; cases heffect

/-- No note delivers anything. -/
theorem bytes_notes (id : SessionId) (device : Device) (command : Command) :
    (answer id device command).2.2.flatMap Effect.bytes = [] := by
  rw [List.flatMap_eq_nil_iff]
  intro effect heffect
  obtain ⟨record, rfl, -⟩ := notes_eq id device command effect heffect
  rfl

theorem delivered_notes (id : SessionId) (device : Device) (command : Command) :
    ((answer id device command).2.2.map Event.effect).flatMap Event.delivered = [] := by
  rw [List.flatMap_map]
  exact bytes_notes id device command

/-- No note is a reply. -/
theorem replies_notes (id : SessionId) (device : Device) (command : Command) :
    replies ((answer id device command).2.2.map Event.effect) = [] := by
  rw [replies, List.filterMap_eq_nil_iff]
  intro event hevent
  obtain ⟨effect, heffect, rfl⟩ := List.mem_map.1 hevent
  obtain ⟨record, rfl, -⟩ := notes_eq id device command effect heffect
  rfl

/-- No note shows a use. -/
theorem uses_notes (id : SessionId) (device : Device) (command : Command) :
    ((answer id device command).2.2.map Event.effect).filter Event.isUse = [] := by
  rw [List.filter_eq_nil_iff]
  intro event hevent
  obtain ⟨effect, heffect, rfl⟩ := List.mem_map.1 hevent
  obtain ⟨record, rfl, hmessage⟩ := notes_eq id device command effect heffect
  simp [Event.isUse, hmessage]

end Session

end DeviceBroker
