import DeviceBroker.Proofs.Cleanup
import DeviceBroker.Proofs.Rendering

/-!
# `Proofs.Entries` — what a session puts on record

A session writes a handful of kinds of records, each under its own name. They can be read back: records of one
session that are the same say the same. While a session waits others may run on the same device and write into the
same log. Their records stand among its own, and the names tell them apart.

## Contents

* `Session.Entry`, `Entry.record` — **what a session says in the log**, and the record that says it;
  `record_injective`.
* `LogRecord.names`, `names_record` — which session a record is about.
* `Session.ownRecords`, `Event.within`, `records_eq` — what a session wrote itself, and what was written within;
  `filter_names` — the names tell them apart.
* `Session.Hosts`, `not_hosts_of_sparing` — the sessions that run within a script.
* `visit_of_play`, `visit_of_follow`, `visit_of_run` — **what is seen within a run** was seen of such a session.
-/

namespace DeviceBroker

/-! ## Names -/

/-- **Sessions are told apart by their labels.** -/
theorem SessionId.label_injective {a b : SessionId} (h : a.label = b.label) : a = b := by
  have hnumber : toString a.raw.toNat = toString b.raw.toNat := by
    rw [Nat.toString_eq_repr, Nat.toString_eq_repr, ← String.toList_inj, Nat.toList_repr, Nat.toList_repr]
    simpa [label] using congrArg String.toList h
  exact congrArg SessionId.mk (UInt64.toNat_inj.1 (Bytes.toString_injective hnumber))

/-- Whether a record is about a session. -/
def LogRecord.names (record : LogRecord) (id : SessionId) : Bool :=
  record.fields.lookup "session" = some (.text id.label)

namespace Session

open Progress

/-! ## Entries -/

/-- **What a session says in the log.** -/
inductive Entry where
  /-- It was opened. -/
  | opened
  /-- A line of this many bytes was received, which asks for this command. -/
  | received (command : String) (bytes : Nat)
  /-- Of a text that was to be written only so much was stored. -/
  | cut (requested stored : Nat)
  /-- This many bytes were no line. -/
  | dropped (bytes : Nat)
  /-- It ended as a session should. -/
  | closed (reason : String)
  /-- It was broken off. -/
  | terminated (error : String)
  deriving Repr, DecidableEq

namespace Entry

/-- How severe an entry is: only a session that was broken off is worth a warning. -/
def level : Entry → Level
  | terminated _ => .warn
  | opened | received .. | cut .. | dropped _ | closed _ => .debug

/-- The message of an entry. -/
def message : Entry → String
  | opened => "session opened"
  | received .. => "command received"
  | cut .. => "write truncated at buffer capacity"
  | dropped _ => "discarding unterminated request at end of stream"
  | closed _ => "session closed"
  | terminated _ => "session terminated"

/-- What an entry tells beside its message. -/
def fields : Entry → List (String × FieldValue)
  | opened => []
  | received command bytes => [("command", .word command), ("bytes", .number bytes)]
  | cut requested stored => [("requested", .number requested), ("stored", .number stored)]
  | dropped bytes => [("bytes", .number bytes)]
  | closed reason => [("reason", .text reason)]
  | terminated error => [("error", .text error)]

/-- **The record of an entry**, under the name of its session. -/
def record (id : SessionId) (entry : Entry) : LogRecord :=
  { level := entry.level, target := LogRecord.Target.session, message := entry.message,
    fields := ("session", .text id.label) :: entry.fields }

/-- **Entries can be read back** from their records. -/
theorem record_injective {id : SessionId} {a b : Entry} (h : a.record id = b.record id) : a = b := by
  have hmessage : a.message = b.message := congrArg LogRecord.message h
  have hfields : a.fields = b.fields := (List.cons.inj (congrArg LogRecord.fields h)).2
  -- the messages tell the kinds apart, and the fields tell the rest
  cases a <;> cases b <;> first
    | cases hfields
      rfl
    | exact absurd hmessage (by simp [message])

/-- **A record is about its session** and about no other one. -/
theorem names_record (id other : SessionId) (entry : Entry) :
    (entry.record id).names other = decide (other = id) := by
  have hlabel : id.label = other.label ↔ other = id :=
    ⟨fun h => (SessionId.label_injective h).symm, fun h => h ▸ rfl⟩
  simp [LogRecord.names, record, hlabel]

end Entry

/-- The entry of an ending. -/
def Ending.entry : Ending → Entry
  | .quit => .closed "Quit"
  | .peerClosed => .closed "PeerClosed"
  | .failed cause => .terminated cause.message

theorem opened_eq (id : SessionId) : opened id = .logged (Entry.opened.record id) := rfl

theorem closing_eq (id : SessionId) (ending : Ending) : closing id ending = .logged (ending.entry.record id) := by
  cases ending <;> rfl

theorem received_eq (id : SessionId) (line : Bytes) :
    received id line = .logged ((Entry.received (Command.parse line).keyword line.length).record id) := rfl

/-! ## The records of a session -/

/-- The record that a session wrote itself, if an event is one. -/
def Event.own? : Event → Option LogRecord
  | .effect shown => shown.record?
  | .read _ | .readError _ | .device _ | .session .. => none

/-- **The records that a session wrote itself**, in order. -/
def ownRecords (events : List Event) : List LogRecord :=
  events.filterMap Event.own?

theorem ownRecords_append (a b : List Event) : ownRecords (a ++ b) = ownRecords a ++ ownRecords b :=
  List.filterMap_append

theorem ownRecords_effects (effects : List Effect) :
    ownRecords (effects.map .effect) = effects.filterMap Effect.record? := by
  rw [ownRecords, List.filterMap_map]
  rfl

/-- What was seen of a session that ran within. -/
def Event.within : Event → List Event
  | .session events .. => events
  | .effect _ | .read _ | .readError _ | .device _ => []

/-- **What an event adds to the log** was written by the session itself, or within. -/
theorem records_eq (event : Event) : event.records = event.own?.toList ++ event.within.flatMap Event.records := by
  cases event with
  | effect shown =>
    cases shown with
    | logged record =>
      rw [Event.records]
      rfl
    | replied bytes => simp [Event.records, Event.own?, Effect.record?, Event.within]
  | read count => simp [Event.records, Event.own?, Event.within]
  | readError kind => simp [Event.records, Event.own?, Event.within]
  | device answer => simp [Event.records, Event.own?, Event.within]
  | session events ending unflushed unreadSteps unreadBytes device =>
    rw [Event.records]
    rfl

/-- If what was written within is about others, the records about a session are those that it wrote itself. -/
theorem filter_names {id : SessionId} {events : List Event} (hown : ∀ record ∈ ownRecords events, record.names id = true)
    (hwithin : ∀ event ∈ events, ∀ record ∈ event.within.flatMap Event.records, record.names id = false) :
    (events.flatMap Event.records).filter (·.names id) = ownRecords events := by
  induction events with
  | nil => rfl
  | cons event events ih =>
    have hcons : ownRecords (event :: events) = event.own?.toList ++ ownRecords events := by
      rw [ownRecords, ownRecords, List.filterMap_cons]
      cases event.own? <;> rfl
    rw [hcons] at hown
    have hfirst : event.own?.toList.filter (·.names id) = event.own?.toList :=
      List.filter_eq_self.2 fun record hrecord => hown record (List.mem_append_left _ hrecord)
    have hnone : (event.within.flatMap Event.records).filter (·.names id) = [] := by
      rw [List.filter_eq_nil_iff]
      intro record hrecord
      simp [hwithin event List.mem_cons_self record hrecord]
    have hrest := ih (fun record hrecord => hown record (List.mem_append_right _ hrecord))
      fun later hlater => hwithin later (List.mem_cons_of_mem _ hlater)
    rw [List.flatMap_cons, List.filter_append, hrest, records_eq, List.filter_append, hfirst, hnone, List.append_nil,
      hcons]

/-! ## Sessions that run within -/

/-- **A session runs within a script**: in one of its steps, or within the script of such a session. -/
inductive Hosts : List Step → SessionId → Prop
  | step {script inner : List Step} {id : SessionId} {output : ReplyStream} :
      .session id inner output ∈ script → Hosts script id
  | within {script inner : List Step} {between id : SessionId} {output : ReplyStream} :
      .session between inner output ∈ script → Hosts inner id → Hosts script id

/-- A script that names nobody of a name has no session of that name in it. -/
theorem not_hosts_of_sparing {script : List Step} {id : SessionId} (h : sparing id script = true) :
    ¬Hosts script id := by
  intro hosts
  induction hosts with
  | step hstep => simpa [Step.spares] using spares_of_mem h hstep
  | within hstep _ ih =>
    have hspares := spares_of_mem h hstep
    simp only [Step.spares, Bool.and_eq_true] at hspares
    exact ih hspares.2

/-- A cue shows no session but the one that it lets run. -/
theorem visit_of_play {id : SessionId} {output : ReplyStream} {device : Device} {cue : Cue} {event : Event}
    (hevent : event ∈ (cue.play id output device).events) (hwithin : event.within ≠ []) :
    ∃ other inner stream, cue = .act (.visit other inner stream) ∧
      event.within = (run other stream inner device).events := by
  -- everything else that a cue shows has nothing within
  cases cue with
  | read count =>
    obtain rfl := List.mem_singleton.1 hevent
    exact absurd rfl hwithin
  | interrupted kind =>
    obtain rfl := List.mem_singleton.1 hevent
    exact absurd rfl hwithin
  | act deed =>
    cases deed with
    | serve line =>
      obtain ⟨shown, -, rfl⟩ := List.mem_map.1 hevent
      exact absurd rfl hwithin
    | ask request =>
      obtain rfl := List.mem_singleton.1 hevent
      exact absurd rfl hwithin
    | visit other inner stream =>
      obtain rfl := List.mem_singleton.1 hevent
      exact ⟨other, inner, stream, rfl, rfl⟩
  | overflow size => cases hevent
  | hangUp dropped =>
    rcases List.mem_cons.1 hevent with rfl | hnote
    · exact absurd rfl hwithin
    · rw [dropNote] at hnote
      split at hnote
      · obtain rfl := List.mem_singleton.1 hnote
        exact absurd rfl hwithin
      · cases hnote
  | breakOff error =>
    obtain rfl := List.mem_singleton.1 hevent
    exact absurd rfl hwithin

/-- Cues show no session but those that they let run. -/
theorem visit_of_follow {id : SessionId} {output : ReplyStream} {device : Device} {cues : List Cue} {event : Event}
    (hevent : event ∈ (follow id output device cues).events) (hwithin : event.within ≠ []) :
    ∃ other inner stream found, .act (.visit other inner stream) ∈ cues ∧
      event.within = (run other stream inner found).events := by
  induction cues generalizing output device with
  | nil => cases hevent
  | cons cue cues ih =>
    have hfirst : event ∈ (cue.play id output device).events →
        ∃ other inner stream found, .act (.visit other inner stream) ∈ cue :: cues ∧
          event.within = (run other stream inner found).events := by
      intro hplay
      obtain ⟨other, inner, stream, rfl, hevents⟩ := visit_of_play hplay hwithin
      exact ⟨other, inner, stream, device, List.mem_cons_self, hevents⟩
    rw [follow] at hevent
    by_cases hgoing : (cue.play id output device).ending = none
    · rw [andThen_going hgoing, events_behind] at hevent
      rcases List.mem_append.1 hevent with hplay | hlater
      · exact hfirst hplay
      · obtain ⟨other, inner, stream, found, hcue, hevents⟩ := ih hlater
        exact ⟨other, inner, stream, found, List.mem_cons_of_mem _ hcue, hevents⟩
    · rw [andThen_ended hgoing] at hevent
      exact hfirst hevent

/-- A session that the cues of a script let run is a step of it. -/
theorem step_of_visit {script inner : List Step} {other : SessionId} {stream : ReplyStream}
    (h : .act (.visit other inner stream) ∈ cues [] (reached script) ++ [lastCue [] script]) :
    .session other inner stream ∈ script := by
  have hdeed : Deed.visit other inner stream
      ∈ (cues [] (reached script) ++ [lastCue [] script]).filterMap Cue.deed? :=
    List.mem_filterMap.2 ⟨_, h, rfl⟩
  rw [deeds_allCues] at hdeed
  obtain ⟨step, hstep, hsome⟩ := mem_of_foreign (List.prefix_refl _) hdeed rfl
  cases step with
  | session id steps output =>
    cases hsome
    exact hstep
  | device request => cases hsome
  | data bytes => cases hsome
  | failure error => cases hsome
  | eof => cases hsome

/-- **What was written within a run** was written by a session that is a step of its script. -/
theorem visit_of_run {id : SessionId} {output : ReplyStream} {device : Device} {script : List Step} {event : Event}
    {record : LogRecord} (hevent : event ∈ (run id output script device).events)
    (hrecord : record ∈ event.within.flatMap Event.records) :
    ∃ other inner stream found, .session other inner stream ∈ script ∧
      record ∈ (run other stream inner found).records := by
  have hwithin : event.within ≠ [] := by
    intro hnone
    rw [hnone] at hrecord
    cases hrecord
  rw [(run_concludes id output script device).events, events_behind] at hevent
  rcases List.mem_append.1 hevent with hfirst | hclosing
  · rcases List.mem_append.1 hfirst with hopened | hfollow
    · obtain rfl := List.mem_singleton.1 hopened
      exact absurd rfl hwithin
    · obtain ⟨other, inner, stream, found, hcue, hevents⟩ := visit_of_follow hfollow hwithin
      rw [hevents] at hrecord
      exact ⟨other, inner, stream, found, step_of_visit hcue, hrecord⟩
  · obtain rfl := List.mem_singleton.1 hclosing
    exact absurd rfl hwithin

end Session

end DeviceBroker
