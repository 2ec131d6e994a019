import DeviceBroker.Proofs.Events
import DeviceBroker.Proofs.Plan
import Mathlib.Logic.Relation

/-!
# `Proofs.Reading` — a session one read at a time

A run serves its script step by step, and a step of data may take several reads. Here the same run is a
sequence of pauses: at each of them the session is about to go on, and it either goes on to the next pause
or stops. The pauses say what a report does not: what the session holds whenever it reads.

## Contents

* `Session.handed`, `Session.intake` — how many bytes the reads of a report handed over, and which.
* `Session.Pause`, `Pause.opening`, `Pause.report` — a session that is about to go on, and what comes of it.
* `Pause.Goes`, `Pause.Stops` — one read or one step; `serve_data`, `Goes.report`, `Stops.report`.
* `goes_or_stops`, `exists_stop` — every pause comes to an end.
* `Pause.Visits` — the pauses of a run; `Visits.report`; `Visits.reads` — **every read is made at one of them.**
-/

namespace DeviceBroker

namespace Session

open Bytes

/-! ## What reads hand over -/

/-- How many bytes an event hands over. -/
def Event.count : Event → Nat
  | .read count => count
  | .readError _ | .device _ | .session .. | .effect _ => 0

/-- How many bytes the reads among some events hand over. -/
def handed : List Event → Nat
  | [] => 0
  | event :: events => event.count + handed events

@[simp] theorem handed_nil : handed [] = 0 := rfl

@[simp] theorem handed_cons (event : Event) (events : List Event) :
    handed (event :: events) = event.count + handed events := rfl

@[simp] theorem handed_append (a b : List Event) : handed (a ++ b) = handed a + handed b := by
  induction a with
  | nil => exact (Nat.zero_add _).symm
  | cons event a ih => rw [List.cons_append, handed_cons, handed_cons, ih, Nat.add_assoc]

@[simp] theorem handed_effects (effects : List Effect) : handed (effects.map .effect) = 0 := by
  induction effects with
  | nil => rfl
  | cons effect effects ih => rw [List.map_cons, handed_cons, ih]; rfl

/-- **The bytes received**: those that the reads of a report handed over. -/
def intake (script : List Step) (report : Report) : Bytes :=
  (heard (reached script)).take (handed report.events)

/-! ## Pauses -/

/-- **A session that is about to go on**, with what it has come to. -/
structure Pause where
  /-- The bytes that it has received. -/
  seen : Bytes
  session : Session
  device : Device
  /-- What was seen since it was opened. -/
  events : List Event
  /-- What is left of its script. -/
  rest : List Step

namespace Pause

/-- A session that was just opened. -/
def opening (id : SessionId) (output : ReplyStream) (script : List Step) (device : Device) : Pause :=
  { seen := [], session := { id, output }, device, events := [], rest := script }

/-- What comes of a session from a pause on, and what was seen of it before. -/
def report (pause : Pause) : Report :=
  (serve pause.session pause.device pause.rest).after pause.events

/-- One read of some data. -/
def reading (pause : Pause) (bytes : Bytes) : Reading :=
  let turn := pause.session.receive pause.device (bytes.take readSize)
  { turn, events := .read (bytes.take readSize).length :: turn.effects.map .effect,
    unread := (bytes.drop readSize).length }

/-- The pause behind something that was done, which took these bytes. -/
def behind (pause : Pause) (bytes : Bytes) (reading : Reading) (rest : List Step) : Pause :=
  { seen := pause.seen ++ bytes, session := reading.turn.session, device := reading.turn.device,
    events := pause.events ++ reading.events, rest }

/-- **Going on** to the next pause: by a step that brings no bytes, or by one read of data. -/
inductive Goes (pause : Pause) : Pause → Prop
  | pass {step : Step} {rest : List Step} :
      pause.rest = step :: rest → step.bytes = [] →
      (serveStep pause.session pause.device step).turn.ending = none →
      Goes pause (pause.behind [] (serveStep pause.session pause.device step) rest)
  | read {bytes : Bytes} {rest : List Step} :
      pause.rest = .data bytes :: rest → bytes ≠ [] → (pause.reading bytes).turn.ending = none →
      Goes pause (pause.behind (bytes.take readSize) (pause.reading bytes)
        (.data (bytes.drop readSize) :: rest))

/-- **Stopping** with what the last read took and did: the stream is over, or the session ended at that
    read. -/
inductive Stops (pause : Pause) : Bytes → Reading → Prop
  | ended :
      pause.rest = [] → Stops pause [] (readEnd pause.session pause.device)
  | last {step : Step} {rest : List Step} :
      pause.rest = step :: rest → step.isLast = true →
      Stops pause [] (serveStep pause.session pause.device step)
  | cut {bytes : Bytes} {rest : List Step} :
      pause.rest = .data bytes :: rest → bytes ≠ [] → (pause.reading bytes).turn.ending ≠ none →
      Stops pause (bytes.take readSize) (pause.reading bytes)

end Pause

/-! ## Serving one read at a time -/

theorem chunks_of_ne_nil {bytes : Bytes} (h : bytes ≠ []) :
    chunks readSize bytes readSize_pos
      = bytes.take readSize :: chunks readSize (bytes.drop readSize) readSize_pos := by
  cases bytes with
  | nil => exact absurd rfl h
  | cons b bytes => rw [chunks]

theorem Report.after_after (a b : List Event) (report : Report) :
    (report.after b).after a = report.after (a ++ b) := by
  rw [Report.after, Report.after, Report.after, List.append_assoc]

/-- What was seen before does not matter for the close. -/
theorem finish_after (events : List Event) (reading : Reading) (ending : Ending) (unreadSteps : Nat) :
    finish { reading with events := events ++ reading.events } ending unreadSteps
      = (finish reading ending unreadSteps).after events := by
  rw [finish, finish, Report.after]
  dsimp only
  rw [List.append_assoc]

/-- **Data is served one read at a time**: a read that does not end the session leaves the rest of the data
    to be served. -/
theorem serve_data (pause : Pause) {bytes : Bytes} (h : bytes ≠ []) (script : List Step) :
    serve pause.session pause.device (.data bytes :: script) =
      match (pause.reading bytes).turn.ending with
      | some ending => finish (pause.reading bytes) ending script.length
      | none =>
        (serve (pause.reading bytes).turn.session (pause.reading bytes).turn.device
          (.data (bytes.drop readSize) :: script)).after (pause.reading bytes).events := by
  have hflatten : (chunks readSize (bytes.drop readSize) readSize_pos).flatten.length
      = (bytes.drop readSize).length := by
    rw [flatten_chunks]
  rw [serve, serveStep, chunks_of_ne_nil h, receiveAll, hflatten]
  unfold Pause.reading
  dsimp only
  cases hending : (pause.session.receive pause.device (bytes.take readSize)).ending with
  | some ending => simp [hending]
  | none =>
    simp only [Option.isSome_none, Bool.false_eq_true, if_false]
    rw [serve, serveStep]
    -- both sides look at the rest of the data, once with the read before it and once without
    generalize receiveAll _ _ (chunks readSize (bytes.drop readSize) readSize_pos) = rest
    cases hrest : rest.turn.ending with
    | some ending => exact finish_after _ rest ending script.length
    | none => exact (Report.after_after _ _ _).symm

namespace Pause

variable {pause next : Pause} {bytes : Bytes} {reading : Reading}

/-- **What comes of a session** is the same from the next pause on. -/
theorem Goes.report (h : Goes pause next) : next.report = pause.report := by
  unfold Pause.report
  cases h with
  | pass hrest hbytes hgoing =>
    rw [hrest, serve, hgoing]
    exact (Report.after_after _ _ _).symm
  | read hrest hbytes hgoing =>
    rw [hrest, serve_data pause hbytes, hgoing]
    exact (Report.after_after _ _ _).symm

/-- The last step of a stream ends the session. -/
theorem ending_last (pause : Pause) {step : Step} (h : step.isLast = true) :
    (serveStep pause.session pause.device step).turn.ending ≠ none := by
  cases step with
  | eof => exact Option.some_ne_none _
  | failure error =>
    have hfinal : ¬error.isInterrupted = true := by simpa [Step.isLast] using h
    rw [serveStep, readError, if_neg hfinal]
    exact Option.some_ne_none _
  | data bytes => cases h
  | device request => cases h
  | session id script output => cases h

/-- **A session that stops** is closed with what its last read did. -/
theorem Stops.report (h : Stops pause bytes reading) :
    ∃ ending unreadSteps, reading.turn.ending = some ending ∧
      pause.report = (finish reading ending unreadSteps).after pause.events := by
  unfold Pause.report
  cases h with
  | ended hrest => exact ⟨.peerClosed, 0, rfl, by rw [hrest, serve]⟩
  | @last step rest hrest hlast =>
    obtain ⟨ending, hending⟩ := Option.ne_none_iff_exists'.1 (ending_last pause hlast)
    exact ⟨ending, rest.length, hending, by rw [hrest, serve, hending]⟩
  | @cut bytes rest hrest hbytes hended =>
    obtain ⟨ending, hending⟩ := Option.ne_none_iff_exists'.1 hended
    exact ⟨ending, rest.length, hending, by rw [hrest, serve_data pause hbytes, hending]⟩

/-- A step that ends no stream and brings no bytes does not end the session. -/
theorem ending_pass (pause : Pause) {step : Step} (hlast : step.isLast = false) (hbytes : step.bytes = []) :
    (serveStep pause.session pause.device step).turn.ending = none := by
  cases step with
  | data bytes =>
    obtain rfl : bytes = [] := hbytes
    rw [serveStep, chunks]
    rfl
  | failure error =>
    have hpassing : error.isInterrupted = true := by simpa [Step.isLast] using hlast
    rw [serveStep, readError, if_pos hpassing]
  | device request => rfl
  | session id script output => rfl
  | eof => cases hlast

/-- **Every pause goes on or stops.** -/
theorem goes_or_stops (pause : Pause) :
    (∃ next, Goes pause next) ∨ ∃ bytes reading, Stops pause bytes reading := by
  cases hrest : pause.rest with
  | nil => exact Or.inr ⟨_, _, .ended hrest⟩
  | cons step rest =>
    cases hlast : step.isLast with
    | true => exact Or.inr ⟨_, _, .last hrest hlast⟩
    | false =>
      by_cases hbytes : step.bytes = []
      · exact Or.inl ⟨_, .pass hrest hbytes (ending_pass pause hlast hbytes)⟩
      · cases step with
        | data bytes =>
          by_cases hgoing : (pause.reading bytes).turn.ending = none
          · exact Or.inl ⟨_, .read hrest hbytes hgoing⟩
          · exact Or.inr ⟨_, _, .cut hrest hbytes hgoing⟩
        | failure error => exact absurd rfl hbytes
        | device request => exact absurd rfl hbytes
        | session id script output => exact absurd rfl hbytes
        | eof => cases hlast

/-! ## Runs -/

/-- How much a session has to go. -/
def ahead (pause : Pause) : Nat :=
  (heard pause.rest).length + pause.rest.length

theorem Goes.ahead_lt (h : Goes pause next) : next.ahead < pause.ahead := by
  unfold ahead
  cases h with
  | pass hrest hbytes hgoing =>
    rw [hrest, heard_cons, hbytes, List.nil_append, List.length_cons]
    exact Nat.lt_succ_self _
  | @read bytes rest hrest hbytes hgoing =>
    have hsome : 0 < bytes.length := List.length_pos_iff.2 hbytes
    have hsize := readSize_pos
    simp only [hrest, behind, heard_cons, Step.bytes, List.length_append, List.length_drop,
      List.length_cons]
    omega

/-- **The pauses behind a pause.** -/
def Visits : Pause → Pause → Prop :=
  Relation.ReflTransGen Goes

/-- **Every pause comes to an end.** Induction over how much there is to go. -/
theorem exists_stop (pause : Pause) :
    ∃ last bytes reading, Visits pause last ∧ Stops last bytes reading := by
  induction hahead : pause.ahead using Nat.strongRecOn generalizing pause with
  | ind n ih =>
    rcases goes_or_stops pause with ⟨next, hgoes⟩ | ⟨bytes, reading, hstops⟩
    · obtain ⟨last, bytes, reading, hvisits, hstops⟩ := ih next.ahead (hahead ▸ hgoes.ahead_lt) next rfl
      exact ⟨last, bytes, reading, .head hgoes hvisits, hstops⟩
    · exact ⟨pause, bytes, reading, .refl, hstops⟩

/-- **What comes of a session** is the same from every pause on. -/
theorem Visits.report {first pause : Pause} (h : Visits first pause) : pause.report = first.report := by
  induction h with
  | refl => rfl
  | tail _ hgoes ih => rw [hgoes.report, ih]

end Pause

/-! ## Every read is at a pause -/

/-- No event but the first one is a read. -/
def ReadsFirst (events : List Event) : Prop :=
  ∀ event ∈ events.tail, event.isRead = false

theorem readsFirst_cons (event : Event) (effects : List Effect) :
    ReadsFirst (event :: effects.map .effect) := by
  intro later hlater
  obtain ⟨effect, -, rfl⟩ := List.mem_map.1 hlater
  rfl

theorem ReadsFirst.concat {events : List Event} (h : ReadsFirst events) (note : Effect) :
    ReadsFirst (events ++ [.effect note]) := by
  cases events with
  | nil =>
    intro event hevent
    cases hevent
  | cons first events =>
    intro event hevent
    rcases List.mem_append.1 hevent with hin | hnote
    · exact h event hin
    · obtain rfl := List.mem_singleton.1 hnote
      rfl

/-- A read has nothing before it. -/
theorem ReadsFirst.before_eq_nil {events before after : List Event} {event : Event} (h : ReadsFirst events)
    (hevents : events = before ++ event :: after) (hread : event.isRead = true) : before = [] := by
  cases before with
  | nil => rfl
  | cons first before =>
    have hquiet : event.isRead = false := by
      apply h
      rw [hevents]
      exact List.mem_append_right before List.mem_cons_self
    rw [hread] at hquiet
    cases hquiet

/-- **Reads come behind** beginnings of some events of which `here` holds. -/
def ReadsAt (here : List Event → Prop) (events : List Event) : Prop :=
  ∀ before event after, events = before ++ event :: after → event.isRead = true → here before

/-- A further read comes behind all that was seen. -/
theorem ReadsAt.append {here : List Event → Prop} {events more : List Event} (h : ReadsAt here events)
    (hall : here events) (hmore : ReadsFirst more) : ReadsAt here (events ++ more) := by
  intro before event after hevents hread
  rcases List.append_eq_append_iff.1 hevents with ⟨inner, rfl, hinner⟩ | ⟨inner, hinner, hlater⟩
  · obtain rfl := hmore.before_eq_nil hinner hread
    rwa [List.append_nil]
  · cases inner with
    | nil =>
      rw [List.append_nil] at hinner
      exact hinner ▸ hall
    | cons shown inner =>
      rw [List.cons_append] at hlater
      obtain ⟨rfl, -⟩ := List.cons.inj hlater
      exact h before event inner hinner hread

namespace Pause

variable {first pause next : Pause} {bytes : Bytes} {reading : Reading}

theorem readsFirst_step (pause : Pause) {step : Step} (hbytes : step.bytes = []) :
    ReadsFirst (serveStep pause.session pause.device step).events := by
  cases step with
  | data data =>
    obtain rfl : data = [] := hbytes
    rw [serveStep, chunks]
    exact fun event hevent => by cases hevent
  | eof => exact readsFirst_cons _ _
  | failure error => exact readsFirst_cons _ []
  | device request => exact readsFirst_cons _ []
  | session id script output => exact readsFirst_cons _ []

/-- Going on shows at most one read, and nothing before it. -/
theorem Goes.readsFirst (h : Goes pause next) :
    ∃ events, next.events = pause.events ++ events ∧ ReadsFirst events := by
  cases h with
  | pass hrest hbytes hgoing => exact ⟨_, rfl, readsFirst_step pause hbytes⟩
  | read hrest hdata hgoing => exact ⟨_, rfl, readsFirst_cons _ _⟩

/-- So does stopping. -/
theorem Stops.readsFirst (h : Stops pause bytes reading) : ReadsFirst reading.events := by
  cases h with
  | ended hrest => exact readsFirst_cons _ _
  | @last step rest hrest hlast =>
    apply readsFirst_step
    cases step with
    | eof => rfl
    | failure error => rfl
    | data bytes => cases hlast
    | device request => cases hlast
    | session id script output => cases hlast
  | cut hrest hdata hended => exact readsFirst_cons _ _

/-- **Every read is made at a pause**: what was seen before it is what was seen until then. Induction over the
    pauses, each of which adds at most one read. -/
theorem Visits.reads (hvisits : Visits first pause) (hfirst : first.events = []) :
    ReadsAt (fun before => ∃ earlier, Visits first earlier ∧ before = earlier.events) pause.events := by
  induction hvisits with
  | refl =>
    intro before event after hevents
    rw [hfirst] at hevents
    exact absurd hevents.symm (by simp)
  | @tail pause next hvisits hgoes ih =>
    obtain ⟨more, hmore, hreads⟩ := hgoes.readsFirst
    rw [hmore]
    exact ih.append ⟨pause, hvisits, rfl⟩ hreads

end Pause

end Session

end DeviceBroker
