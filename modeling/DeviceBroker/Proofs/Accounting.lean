import DeviceBroker.Proofs.Entries
import DeviceBroker.Proofs.LongLines
import DeviceBroker.Proofs.Searching
import Mathlib.Algebra.GroupWithZero.Nat

/-!
# `Proofs.Accounting` — the log accounts for every byte

The client of a session is told that its text was written even if only a part of it was, and of bytes without a
newline it is told nothing. Both stand in the log. So do the lines, and from these records alone the bytes that were
received can be added up.

A session writes records for what it does on the device and for nothing else, so they are told from the deeds that
were performed: one step for each deed, and one record at the end of the stream.

## Contents

* `Session.Cuts`, `Session.Recorded` — **what deeds put on record**; `Recorded.append`, `Recorded.lines`,
  `Recorded.bytes`.
* `asked_recorded`, `play_recorded`, `follow_recorded` — a line, a cue and many cues put on record what was performed.
* `going_of_peerClosed`, `intake_of_peerClosed` — at the end of the stream everything was received.
* `Session.performed`, `Session.residue`, `run_recorded` — **what a run puts on record.**
* `author_of_mem_records`, `filter_names_run` — whose records stand in the log of a run.
* `replies_play_add`, `replies_follow_add` — how many replies a session flushes.
* `Session.Accounts`, `run_accounts` — **the log of a session accounts for every byte.**
-/

namespace DeviceBroker

namespace Bytes

/-- Lines and terminators together are as long as they are apart. -/
theorem length_zipWith_append {parts endings : List Bytes} (h : List.Forall₂ EndedBy parts endings) :
    (List.zipWith (· ++ ·) parts endings).flatten.length
      = (parts.map List.length).sum + (endings.map List.length).sum := by
  induction h with
  | nil => rfl
  | cons _ _ ih =>
    simp only [List.zipWith_cons_cons, List.flatten_cons, List.length_append, List.map_cons, List.sum_cons, ih]
    omega

end Bytes

namespace Session

open Bytes Progress

/-! ## What deeds put on record -/

/-- **A line is cut**: the text that it asks to write is accepted, and less of it is stored than there is. -/
def Cuts (id : SessionId) (device : Device) (line : Bytes) (requested stored : Nat) : Prop :=
  ∃ text, Command.parse line = .write text ∧ text.length = requested ∧
    (device.write id text).1 = .written stored ∧ stored < requested

/-- **What deeds put on record**, if session `id` performs them on a device: of every line that it was received, and
    behind it that it was cut if it was. Of what others do the session says nothing. -/
inductive Recorded (id : SessionId) : Device → List Deed → List Entry → Prop
  | nil (device : Device) : Recorded id device [] []
  | whole {device : Device} {line : Bytes} {deeds : List Deed} {entries : List Entry} :
      (∀ requested stored, ¬Cuts id device line requested stored) →
      Recorded id ((Deed.serve line).course id device).device deeds entries →
      Recorded id device (.serve line :: deeds)
        (.received (Command.parse line).keyword line.length :: entries)
  | cut {device : Device} {line : Bytes} {requested stored : Nat} {deeds : List Deed} {entries : List Entry} :
      Cuts id device line requested stored →
      Recorded id ((Deed.serve line).course id device).device deeds entries →
      Recorded id device (.serve line :: deeds)
        (.received (Command.parse line).keyword line.length :: .cut requested stored :: entries)
  | foreign {device : Device} {deed : Deed} {deeds : List Deed} {entries : List Entry} :
      deed.isForeign = true → Recorded id (deed.course id device).device deeds entries →
      Recorded id device (deed :: deeds) entries

/-- What an entry tells of a line: the command, and how long the line was. -/
def Entry.line? : Entry → Option (String × Nat)
  | received command bytes => some (command, bytes)
  | opened | cut .. | dropped _ | closed _ | terminated _ => none

/-- The bytes received that an entry tells of. -/
def Entry.bytes : Entry → Nat
  | received _ bytes | dropped bytes => bytes
  | opened | cut .. | closed _ | terminated _ => 0

/-- What others do serves no line. -/
theorem line?_of_foreign {deed : Deed} (h : deed.isForeign = true) : deed.line? = none := by
  cases deed with
  | serve line => cases h
  | ask request => rfl
  | visit other script output => rfl

section Recorded

variable {id : SessionId} {device : Device} {a b : List Deed} {before after entries : List Entry}

/-- **Deeds in two parts** are put on record one part after the other. -/
theorem Recorded.append (h : Recorded id device a before) (hlater : Recorded id (course id device a).device b after) :
    Recorded id device (a ++ b) (before ++ after) := by
  induction h with
  | nil device => exact hlater
  | whole hwhole _ ih => exact .whole hwhole (ih hlater)
  | cut hcut _ ih => exact .cut hcut (ih hlater)
  | foreign hforeign _ ih => exact .foreign hforeign (ih hlater)

/-- **Every line is on record once**, in order. -/
theorem Recorded.lines (h : Recorded id device a entries) :
    entries.filterMap Entry.line?
      = (a.filterMap Deed.line?).map fun line => ((Command.parse line).keyword, line.length) := by
  induction h with
  | nil device => rfl
  | whole _ _ ih => exact congrArg (_ :: ·) ih
  | cut _ _ ih => exact congrArg (_ :: ·) ih
  | foreign hforeign _ ih => rw [List.filterMap_cons_none (line?_of_foreign hforeign), ih]

/-- Deeds put nothing else on record. -/
theorem Recorded.kinds (h : Recorded id device a entries) :
    ∀ entry ∈ entries, (∃ command bytes, entry = .received command bytes) ∨
      ∃ requested stored, entry = .cut requested stored := by
  induction h with
  | nil device =>
    intro entry hentry
    cases hentry
  | whole _ _ ih =>
    intro entry hentry
    rcases List.mem_cons.1 hentry with rfl | hlater
    · exact Or.inl ⟨_, _, rfl⟩
    · exact ih entry hlater
  | cut _ _ ih =>
    intro entry hentry
    rcases List.mem_cons.1 hentry with rfl | hbehind
    · exact Or.inl ⟨_, _, rfl⟩
    · rcases List.mem_cons.1 hbehind with rfl | hlater
      · exact Or.inr ⟨_, _, rfl⟩
      · exact ih entry hlater
  | foreign _ _ ih => exact ih

/-- What is on record of lines tells how long they were together. -/
theorem Recorded.bytes (h : Recorded id device a entries) :
    (entries.map Entry.bytes).sum = ((a.filterMap Deed.line?).map List.length).sum := by
  induction h with
  | nil device => rfl
  | @whole device line deeds entries _ _ ih => exact congrArg (line.length + ·) ih
  | @cut device line requested stored deeds entries _ _ ih =>
    -- that a line was cut adds nothing to what was received
    have hcut : ((Entry.cut requested stored :: entries).map Entry.bytes).sum = (entries.map Entry.bytes).sum :=
      Nat.zero_add _
    exact congrArg (line.length + ·) (hcut.trans ih)
  | foreign hforeign _ ih => rw [List.filterMap_cons_none (line?_of_foreign hforeign), ih]

end Recorded

/-! ## What cues put on record -/

/-- A write is cut if its own text is: a line asks for one thing only. -/
theorem cuts_iff {id : SessionId} {device : Device} {line text : Bytes} (h : Command.parse line = .write text)
    {requested stored : Nat} :
    Cuts id device line requested stored ↔
      text.length = requested ∧ (device.write id text).1 = .written stored ∧ stored < requested := by
  constructor
  · rintro ⟨other, hother, hcut⟩
    cases h.symm.trans hother
    exact hcut
  · exact fun hcut => ⟨text, h, hcut⟩

/-- **Something is noted of an answer** if the line was cut, and only then. -/
theorem notes_cuts (id : SessionId) (device : Device) (line : Bytes) :
    (∃ requested stored, Cuts id device line requested stored ∧
      (answer id device (Command.parse line)).2.2 = [.logged ((Entry.cut requested stored).record id)]) ∨
    ((∀ requested stored, ¬Cuts id device line requested stored) ∧
      (answer id device (Command.parse line)).2.2 = []) := by
  by_cases hasks : ∃ text, Command.parse line = .write text
  · obtain ⟨text, hcommand⟩ := hasks
    simp only [cuts_iff hcommand]
    rw [hcommand, answer]
    cases device.write id text with
    | mk outcome left =>
      cases outcome with
      | busy =>
        refine Or.inr ⟨?_, rfl⟩
        rintro requested stored ⟨-, houtcome, -⟩
        cases houtcome
      | written stored =>
        by_cases hless : stored < text.length
        · exact Or.inl ⟨_, _, ⟨rfl, rfl, hless⟩, if_pos hless⟩
        · refine Or.inr ⟨?_, if_neg hless⟩
          rintro requested kept ⟨rfl, hkept, hfew⟩
          cases hkept
          exact hless hfew
  · have hnever : ∀ requested stored, ¬Cuts id device line requested stored := by
      rintro requested stored ⟨text, hcommand, -⟩
      exact hasks ⟨text, hcommand⟩
    refine Or.inr ⟨hnever, ?_⟩
    cases hcommand : Command.parse line with
    | write text => exact absurd ⟨text, hcommand⟩ hasks
    | quit => rfl
    | status => rfl
    | read => rfl
    | clear => rfl
    | unknown text => rfl

/-- **A line** puts on record what it should before its reply is sent. -/
theorem asked_recorded (id : SessionId) (device : Device) (line : Bytes) :
    ∃ entries, Recorded id device [.serve line] entries ∧
      ownRecords (asked id device line) = entries.map (Entry.record id) := by
  have hasked : ownRecords (asked id device line)
      = (Entry.received (Command.parse line).keyword line.length).record id
        :: (answer id device (Command.parse line)).2.2.filterMap Effect.record? := by
    rw [asked, ownRecords_effects, received_eq]
    rfl
  rw [hasked]
  rcases notes_cuts id device line with ⟨requested, stored, hcut, hnotes⟩ | ⟨hwhole, hnotes⟩
  · refine ⟨_, .cut hcut (.nil _), ?_⟩
    rw [hnotes]
    rfl
  · refine ⟨_, .whole hwhole (.nil _), ?_⟩
    rw [hnotes]
    rfl

/-- **One cue** that is not the end of the stream puts on record what is done of it. -/
theorem play_recorded (id : SessionId) (output : ReplyStream) (device : Device) {cue : Cue}
    (h : ∀ dropped, cue ≠ .hangUp dropped) :
    ∃ entries, Recorded id device cue.deed?.toList entries ∧
      ownRecords (cue.play id output device).events = entries.map (Entry.record id) := by
  cases cue with
  | read count => exact ⟨[], .nil device, rfl⟩
  | interrupted kind => exact ⟨[], .nil device, rfl⟩
  | act deed =>
    cases deed with
    | serve line =>
      obtain ⟨entries, hrecorded, hasked⟩ := asked_recorded id device line
      refine ⟨entries, hrecorded, ?_⟩
      -- a reply that is flushed is no record, so it does not matter whether it can be
      rcases play_serve_cases id output device line with ⟨left, error, hplay⟩ | ⟨left, delivered, hplay⟩
      · rw [hplay]
        exact hasked
      · rw [hplay, ownRecords_append, hasked]
        exact List.append_nil _
    | ask request => exact ⟨[], .foreign rfl (.nil _), rfl⟩
    | visit other script stream => exact ⟨[], .foreign rfl (.nil _), rfl⟩
  | overflow size => exact ⟨[], .nil device, rfl⟩
  | hangUp dropped => exact absurd rfl (h dropped)
  | breakOff error => exact ⟨[], .nil device, rfl⟩

/-- **Cues** within the stream put on record what is done of them. Induction over the cues; the device moves on by
    what was done. -/
theorem follow_recorded (id : SessionId) (output : ReplyStream) (device : Device) {cues : List Cue}
    (h : ∀ dropped, .hangUp dropped ∉ cues) :
    ∃ entries, Recorded id device (done id output device cues) entries ∧
      ownRecords (follow id output device cues).events = entries.map (Entry.record id) := by
  induction cues generalizing output device with
  | nil => exact ⟨[], .nil device, rfl⟩
  | cons cue cues ih =>
    obtain ⟨entries, hrecorded, hentries⟩ :=
      play_recorded id output device fun dropped (heq : cue = _) => h dropped (heq ▸ List.mem_cons_self)
    have hdevice := (play_done id output device cue).1
    rw [done, follow]
    by_cases hgoing : (cue.play id output device).ending = none
    · obtain ⟨later, hlater, hrest⟩ := ih (cue.play id output device).output (cue.play id output device).device
        fun dropped hmem => h dropped (List.mem_cons_of_mem _ hmem)
      rw [hdevice] at hlater
      refine ⟨entries ++ later, ?_, ?_⟩
      · rw [if_neg (by simp [hgoing]), hdevice]
        exact hrecorded.append hlater
      · rw [andThen_going hgoing, events_behind, ownRecords_append, hentries, hrest, List.map_append]
    · rw [if_pos (Option.isSome_iff_ne_none.2 hgoing), andThen_ended hgoing]
      exact ⟨entries, hrecorded, hentries⟩

/-! ## The end of the stream -/

/-- A piece of the stream is not its end. -/
theorem hangUp_not_mem_pieceCues (rest piece : Bytes) (dropped : Nat) : .hangUp dropped ∉ pieceCues rest piece := by
  intro hmem
  rcases List.mem_append.1 ((List.mem_cons.1 hmem).resolve_left Cue.noConfusion) with hline | hover
  · obtain ⟨line, -, hline⟩ := List.mem_map.1 hline
    cases hline
  · rw [overflowCue] at hover
    split at hover
    · cases List.mem_singleton.1 hover
    · cases hover

theorem hangUp_not_mem_piecesCues (rest : Bytes) (pieces : List Bytes) (dropped : Nat) :
    .hangUp dropped ∉ piecesCues rest pieces := by
  induction pieces generalizing rest with
  | nil => exact List.not_mem_nil
  | cons piece pieces ih =>
    intro hmem
    exact (List.mem_append.1 hmem).elim (hangUp_not_mem_pieceCues rest piece dropped) (ih _)

/-- Before its last step no stream ends. -/
theorem hangUp_not_mem_cues (rest : Bytes) (steps : List Step) (dropped : Nat) :
    .hangUp dropped ∉ cues rest steps := by
  induction steps generalizing rest with
  | nil => exact List.not_mem_nil
  | cons step steps ih =>
    intro hmem
    rcases List.mem_append.1 hmem with hstep | hlater
    · cases step with
      | data bytes => exact hangUp_not_mem_piecesCues rest _ dropped hstep
      | failure error => cases List.mem_singleton.1 hstep
      | device request => cases List.mem_singleton.1 hstep
      | session id script output => cases List.mem_singleton.1 hstep
      | eof => cases hstep
    · exact ih _ hlater

/-- A session finds that its client has gone only at the end of the stream. -/
theorem play_peerClosed {id : SessionId} {output : ReplyStream} {device : Device} {cue : Cue}
    (h : (cue.play id output device).ending = some .peerClosed) : ∃ dropped, cue = .hangUp dropped := by
  cases cue with
  | hangUp dropped => exact ⟨dropped, rfl⟩
  | act deed =>
    cases deed with
    | serve line =>
      exfalso
      rcases play_serve_cases id output device line with ⟨left, error, hplay⟩ | ⟨left, delivered, hplay⟩
      · rw [hplay] at h
        cases h
      · rw [hplay] at h
        dsimp only at h
        split at h <;> cases h
    | ask request => cases h
    | visit other script stream => cases h
  | read count => cases h
  | interrupted kind => cases h
  | overflow size => cases h
  | breakOff error => cases h

theorem hangUp_of_peerClosed {id : SessionId} {output : ReplyStream} {device : Device} {cues : List Cue}
    (h : (follow id output device cues).ending = some .peerClosed) : ∃ dropped, .hangUp dropped ∈ cues := by
  obtain ⟨cue, hcue, output', device', hplay⟩ := ending_follow h
  obtain ⟨dropped, rfl⟩ := play_peerClosed hplay
  exact ⟨dropped, hcue⟩

/-- **A session that comes to the end of its stream** was ended by nothing before it. -/
theorem going_of_peerClosed {id : SessionId} {output : ReplyStream} {found : Device} {script : List Step}
    (h : (follow id output found (cues [] (reached script) ++ [lastCue [] script])).ending = some .peerClosed) :
    (follow id output found (cues [] (reached script))).ending = none ∧
      lastCue [] script = .hangUp (remainder (heard (reached script))).length := by
  have hgoing : (follow id output found (cues [] (reached script))).ending = none := by
    by_contra hended
    rw [follow_append, andThen_ended hended] at h
    obtain ⟨dropped, hmem⟩ := hangUp_of_peerClosed h
    exact hangUp_not_mem_cues _ _ dropped hmem
  refine ⟨hgoing, ?_⟩
  rw [follow_append, andThen_going hgoing, follow_singleton] at h
  obtain ⟨dropped, hlast⟩ := play_peerClosed h
  rw [hlast]
  unfold lastCue at hlast
  split at hlast
  · cases hlast
  · exact hlast.symm

/-- **The last read** at the end of the stream finds that everything was received. -/
theorem Pause.Stops.whole {id : SessionId} {output : ReplyStream} {found : Device} {script : List Step}
    {pause : Pause} {bytes : Bytes} {reading : Reading} (h : Stands id output found script pause)
    (hstops : Stops pause bytes reading) (hending : reading.turn.ending = some .peerClosed) :
    heard (reached pause.rest) = bytes := by
  cases hstops with
  | ended hrest => rw [hrest]; rfl
  | last hrest hlast => rw [hrest, reached_last hlast]; rfl
  | @cut data rest hrest hdata hended =>
    -- a read that brings something is not the end of the stream
    have hfollows := congrArg Progress.ending (h.reading_follows data).progress
    obtain ⟨dropped, hmem⟩ := hangUp_of_peerClosed (hfollows.symm.trans hending)
    exact absurd hmem (hangUp_not_mem_pieceCues _ _ dropped)

/-- **At the end of the stream** a session has received everything that its script brings. -/
theorem intake_of_peerClosed {id : SessionId} {output : ReplyStream} {found : Device} {script : List Step}
    (h : (run id output script found).ending = .peerClosed) :
    intake script (run id output script found) = heard (reached script) ∧
      handed (run id output script found).events = (heard (reached script)).length := by
  obtain ⟨last, bytes, reading, hvisits, hstops⟩ := (Pause.opening id output script found).exists_stop
  have hending := (hstops.run hvisits).1
  rw [h] at hending
  rw [hstops.intake hvisits, hstops.handed_run hvisits, hvisits.stands.came, hstops.whole hvisits.stands hending]
  exact ⟨rfl, rfl⟩

/-! ## What a run puts on record -/

/-- **The deeds that a session performs** before it is over. -/
def performed (id : SessionId) (output : ReplyStream) (found : Device) (script : List Step) : List Deed :=
  done id output found (cues [] (reached script))

/-- They are the ones that its report tells of: the end of a stream is no deed. -/
theorem executed_eq_performed (id : SessionId) (output : ReplyStream) (script : List Step) (found : Device) :
    executed script (run id output script found) = performed id output found script := by
  have hlast : ∀ output device, done id output device [lastCue [] script] = [] := by
    intro output device
    simp only [done, deed?_lastCue, Option.toList_none, List.append_nil, ite_self]
  rw [executed_run, done_append, hlast, ite_self, List.append_nil]
  rfl

/-- At the end of the stream the whole plan was performed. -/
theorem performed_of_peerClosed {id : SessionId} {output : ReplyStream} {found : Device} {script : List Step}
    (h : (run id output script found).ending = .peerClosed) :
    performed id output found script = deeds [] (reached script) := by
  have hending := (run_concludes id output script found).ending
  rw [h] at hending
  have hdeeds := deeds_cues [] (reached script)
  rw [remainder_nil] at hdeeds
  rw [performed, done_going (going_of_peerClosed hending).1, hdeeds]

/-- What is put on record of the bytes that were no line: how many they are, if there are any when the stream ends. -/
def residue (script : List Step) (report : Report) : List Entry :=
  if report.ending = .peerClosed ∧ remainder (intake script report) ≠ [] then
    [.dropped (remainder (intake script report)).length]
  else []

/-- **The last cue** of a session that nothing ended before puts the residue on record. -/
theorem lastCue_recorded {id : SessionId} {output : ReplyStream} {found : Device} {script : List Step}
    (hgoing : (follow id output found (cues [] (reached script))).ending = none) (left : ReplyStream)
    (device : Device) :
    ownRecords ((lastCue [] script).play id left device).events
      = (residue script (run id output script found)).map (Entry.record id) := by
  have hending := (run_concludes id output script found).ending
  by_cases hclosed : (run id output script found).ending = .peerClosed
  · rw [hclosed] at hending
    rw [(going_of_peerClosed hending).2, residue, (intake_of_peerClosed hclosed).1]
    show ownRecords (dropNote id _) = _
    rw [dropNote]
    by_cases hnone : remainder (heard (reached script)) = []
    · rw [if_neg (by simp [hnone]), if_neg (by simp [hnone])]
      rfl
    · rw [if_pos (List.length_pos_iff.2 hnone), if_pos ⟨hclosed, hnone⟩]
      rfl
  · rw [ending_behind, follow_append, andThen_going hgoing, follow_singleton] at hending
    have hresidue : residue script (run id output script found) = [] := if_neg fun h => hclosed h.1
    -- a stream that breaks off leaves nothing to say
    have hbroken : ∀ dropped, lastCue [] script ≠ .hangUp dropped := by
      intro dropped hlast
      rw [hlast] at hending
      exact hclosed (Option.some.inj hending).symm
    obtain ⟨entries, hrecorded, hentries⟩ := play_recorded id left device hbroken
    rw [deed?_lastCue] at hrecorded
    cases hrecorded
    rw [hentries, hresidue]

/-- **A run puts on record** that it was opened, what was performed, what was left over, and how it ended. -/
theorem run_recorded (id : SessionId) (output : ReplyStream) (script : List Step) (found : Device) :
    ∃ entries, Recorded id found (performed id output found script) entries ∧
      ownRecords (run id output script found).events
        = (.opened :: (entries ++ residue script (run id output script found)
            ++ [(run id output script found).ending.entry])).map (Entry.record id) := by
  have hrun := run_concludes id output script found
  obtain ⟨entries, hrecorded, hentries⟩ := follow_recorded id output found (hangUp_not_mem_cues [] (reached script))
  have hwithin : ownRecords (follow id output found (cues [] (reached script) ++ [lastCue [] script])).events
      = entries.map (Entry.record id) ++ (residue script (run id output script found)).map (Entry.record id) := by
    by_cases hgoing : (follow id output found (cues [] (reached script))).ending = none
    · rw [follow_append, andThen_going hgoing, follow_singleton, events_behind, ownRecords_append, hentries,
        lastCue_recorded hgoing]
    · -- what ended the session before was not the end of the stream
      have hresidue : residue script (run id output script found) = [] := by
        apply if_neg
        rintro ⟨hclosed, -⟩
        have hending := hrun.ending
        rw [hclosed] at hending
        exact hgoing (going_of_peerClosed hending).1
      rw [follow_append, andThen_ended hgoing, hentries, hresidue]
      exact (List.append_nil _).symm
  refine ⟨entries, hrecorded, ?_⟩
  rw [hrun.events, events_behind, List.append_assoc, ownRecords_append, ownRecords_append, hwithin, opened_eq,
    closing_eq, List.map_cons, List.map_append, List.map_append]
  rfl

/-! ## Whose records stand in the log -/

/-- What a session wrote itself are entries of its own. -/
theorem entry_of_own {id : SessionId} {output : ReplyStream} {script : List Step} {found : Device} {record : LogRecord}
    (h : record ∈ ownRecords (run id output script found).events) : ∃ entry, record = Entry.record id entry := by
  obtain ⟨entries, -, hentries⟩ := run_recorded id output script found
  rw [hentries] at h
  obtain ⟨entry, -, rfl⟩ := List.mem_map.1 h
  exact ⟨entry, rfl⟩

/-- **Every record in the log of a run** is an entry of the session, or of one that ran within its script: induction
    over the script, which holds the scripts of those sessions. -/
theorem author_of_mem_records (id : SessionId) (output : ReplyStream) (script : List Step) (found : Device)
    {record : LogRecord} (h : record ∈ (run id output script found).records) :
    ∃ who entry, record = Entry.record who entry ∧ (who = id ∨ Hosts script who) := by
  obtain ⟨event, hevent, hrecord⟩ := List.mem_flatMap.1 h
  rw [records_eq] at hrecord
  rcases List.mem_append.1 hrecord with hown | hwithin
  · obtain ⟨entry, hentry⟩ := entry_of_own (List.mem_filterMap.2 ⟨event, hevent, Option.mem_toList.1 hown⟩)
    exact ⟨id, entry, hentry, Or.inl rfl⟩
  · obtain ⟨other, inner, stream, before, hstep, hinner⟩ := visit_of_run hevent hwithin
    obtain ⟨who, entry, hentry, hwho⟩ := author_of_mem_records other stream inner before hinner
    refine ⟨who, entry, hentry, Or.inr ?_⟩
    rcases hwho with rfl | hdeeper
    · exact .step hstep
    · exact .within hstep hdeeper
termination_by sizeOf script
decreasing_by
  have hlt := List.sizeOf_lt_of_mem hstep
  simp only [Step.session.sizeOf_spec] at hlt
  omega

/-- **The records about a session** are those that it wrote itself, if none of its name runs within its script. -/
theorem filter_names_run {id : SessionId} {script : List Step} (h : ¬Hosts script id) (output : ReplyStream)
    (found : Device) :
    (run id output script found).records.filter (·.names id) = ownRecords (run id output script found).events := by
  apply filter_names
  · intro record hrecord
    obtain ⟨entry, rfl⟩ := entry_of_own hrecord
    rw [Entry.names_record]
    exact decide_eq_true rfl
  · intro event hevent record hwithin
    obtain ⟨other, inner, stream, before, hstep, hinner⟩ := visit_of_run hevent hwithin
    obtain ⟨who, entry, rfl, hwho⟩ := author_of_mem_records other stream inner before hinner
    rw [Entry.names_record]
    apply decide_eq_false
    rintro rfl
    rcases hwho with rfl | hdeeper
    · exact h (.step hstep)
    · exact h (.within hstep hdeeper)

/-! ## Replies -/

/-- How many lines an ending leaves without a reply: only a reply that cannot be sent leaves one. -/
def Ending.unanswered : Ending → Nat
  | failed (.write _) => 1
  | failed (.read _) | failed (.lineTooLong _) | quit | peerClosed => 0

/-- **One cue** flushes one reply for the line that it serves, unless that reply ends the session. -/
theorem replies_play_add (id : SessionId) (output : ReplyStream) (device : Device) (cue : Cue) :
    (replies (cue.play id output device).events).length + ((cue.play id output device).ending.elim 0 Ending.unanswered)
      = (cue.deed?.toList.filterMap Deed.line?).length := by
  cases cue with
  | read count => rfl
  | interrupted kind => rfl
  | act deed =>
    cases deed with
    | serve line =>
      rcases play_serve_cases id output device line with ⟨left, error, hplay⟩ | ⟨left, delivered, hplay⟩
      · rw [hplay, replies_asked]
        rfl
      · rw [hplay, replies_append, replies_asked]
        dsimp only
        split <;> rfl
    | ask request => rfl
    | visit other script stream => rfl
  | overflow size => rfl
  | hangUp dropped =>
    show (replies (dropNote id dropped)).length + 0 = 0
    rw [dropNote]
    split <;> rfl
  | breakOff error => rfl

/-- **Cues** flush one reply for each line that is served, less the one that could not be sent. -/
theorem replies_follow_add (id : SessionId) (output : ReplyStream) (device : Device) (cues : List Cue) :
    (replies (follow id output device cues).events).length
        + (follow id output device cues).ending.elim 0 Ending.unanswered
      = ((done id output device cues).filterMap Deed.line?).length := by
  induction cues generalizing output device with
  | nil => rfl
  | cons cue cues ih =>
    have hplay := replies_play_add id output device cue
    rw [follow, done]
    by_cases hgoing : (cue.play id output device).ending = none
    · have hrest := ih (cue.play id output device).output (cue.play id output device).device
      rw [hgoing] at hplay
      rw [if_neg (by simp [hgoing]), andThen_going hgoing, events_behind, ending_behind, replies_append,
        List.length_append, List.filterMap_append, List.length_append, ← hrest, ← hplay, Nat.add_assoc]
      rfl
    · rw [if_pos (Option.isSome_iff_ne_none.2 hgoing), andThen_ended hgoing]
      exact hplay

/-! ## The account -/

/-- **The log of a session accounts for every byte** that it received and for every one that was lost. -/
structure Accounts (id : SessionId) (output : ReplyStream) (found : Device) (script : List Step) (report : Report)
    (entries : List Entry) : Prop where
  /-- The session wrote that it was opened, then of its lines, then of the bytes that were none, and at last how it
      ended. -/
  records : ownRecords report.events
    = (.opened :: (entries ++ residue script report ++ [report.ending.entry])).map (Entry.record id)
  /-- These are the records about it, unless another session of its name runs within its script. -/
  named : ¬Hosts script id → report.records.filter (·.names id) = ownRecords report.events
  /-- Every other record in the log is an entry of a session that ran within its script. -/
  authors : ∀ record ∈ report.records, ∃ who entry, record = Entry.record who entry ∧ (who = id ∨ Hosts script who)
  /-- Only a session that failed ends with a warning. -/
  warned : report.ending.entry.level = .warn ↔ ∃ cause, report.ending = .failed cause
  /-- Of its lines it wrote what it performed: that each was received and, behind that, that it was cut if it was. -/
  recorded : Recorded id found (performed id output found script) entries
  /-- So every line performed is on record once, in order, also one whose reply could not be sent. -/
  lines : entries.filterMap Entry.line?
    = ((performed id output found script).filterMap Deed.line?).map
      fun line => ((Command.parse line).keyword, line.length)
  /-- Nothing else is. -/
  kinds : ∀ entry ∈ entries, (∃ command bytes, entry = .received command bytes) ∨
    ∃ requested stored, entry = .cut requested stored
  /-- The lines performed are the first of those received. -/
  begins : (performed id output found script).filterMap Deed.line? <+: Bytes.lines (intake script report)
  /-- They are what was done on the device, up to the claim that is given up in the end. -/
  device : report.device = (course id found (performed id output found script)).device.release id
  /-- One reply was flushed for each line on record, but not for one whose reply could not be sent. -/
  replies : (replies report.events).length + report.ending.unanswered = (entries.filterMap Entry.line?).length
  /-- At the end of the stream the lines on record, their terminators and the bytes dropped are all that the reads
      handed over. -/
  total : report.ending = .peerClosed → ∃ endings,
    List.Forall₂ EndedBy ((performed id output found script).filterMap Deed.line?) endings ∧
    (List.zipWith (· ++ ·) ((performed id output found script).filterMap Deed.line?) endings).flatten
      ++ remainder (intake script report) = intake script report ∧
    ((entries ++ residue script report).map Entry.bytes).sum + (endings.map List.length).sum = handed report.events

/-- The residue tells how many bytes were no line. -/
theorem bytes_residue {script : List Step} {report : Report} (h : report.ending = .peerClosed) :
    ((residue script report).map Entry.bytes).sum = (remainder (intake script report)).length := by
  rw [residue]
  split
  · rfl
  · next hnone =>
    have hempty : remainder (intake script report) = [] := by
      by_contra hsome
      exact hnone ⟨h, hsome⟩
    rw [hempty]
    rfl

/-- **At the end of the stream** what is on record adds up to what was received. -/
theorem total_of_peerClosed {id : SessionId} {output : ReplyStream} {found : Device} {script : List Step}
    {entries : List Entry} (hrecorded : Recorded id found (performed id output found script) entries)
    (h : (run id output script found).ending = .peerClosed) :
    ∃ endings, List.Forall₂ EndedBy ((performed id output found script).filterMap Deed.line?) endings ∧
      (List.zipWith (· ++ ·) ((performed id output found script).filterMap Deed.line?) endings).flatten
          ++ remainder (intake script (run id output script found))
        = intake script (run id output script found) ∧
      ((entries ++ residue script (run id output script found)).map Entry.bytes).sum + (endings.map List.length).sum
        = handed (run id output script found).events := by
  obtain ⟨hintake, hhanded⟩ := intake_of_peerClosed h
  have hlines : (performed id output found script).filterMap Deed.line?
      = Bytes.lines (intake script (run id output script found)) := by
    rw [performed_of_peerClosed h, lines_deeds_nil, hintake]
  obtain ⟨endings, hended, hwhole⟩ := ended_lines (intake script (run id output script found))
  rw [← hlines] at hended hwhole
  refine ⟨endings, hended, hwhole, ?_⟩
  have hlength := congrArg List.length hwhole
  rw [List.length_append, length_zipWith_append hended] at hlength
  rw [List.map_append, List.sum_append, hrecorded.bytes, bytes_residue h, hhanded, ← hintake, ← hlength]
  omega

/-- The records tell the entries: no others read the same. -/
theorem Accounts.unique {id : SessionId} {output : ReplyStream} {found : Device} {script : List Step} {report : Report}
    {entries others : List Entry} (h : Accounts id output found script report entries)
    (hothers : Accounts id output found script report others) : others = entries := by
  have hinjective : Function.Injective (Entry.record id) := fun _ _ => Entry.record_injective
  have hsame := List.map_injective_iff.2 hinjective (hothers.records.symm.trans h.records)
  exact List.append_cancel_right (List.append_cancel_right (List.cons.inj hsame).2)

/-- **The log of a session accounts for every byte**, whatever its script brings and whatever becomes of the
    replies; and what it says can be read off it in one way only. -/
theorem run_accounts (id : SessionId) (output : ReplyStream) (script : List Step) (found : Device) :
    ∃! entries, Accounts id output found script (run id output script found) entries := by
  have hrun := run_concludes id output script found
  have hperformed := executed_eq_performed id output script found
  obtain ⟨entries, hrecorded, hrecords⟩ := run_recorded id output script found
  have haccounts : Accounts id output found script (run id output script found) entries := by
    refine ⟨hrecords, fun hname => filter_names_run hname output found, ?_, ?_, hrecorded, hrecorded.lines,
      hrecorded.kinds, ?_, ?_, ?_, total_of_peerClosed hrecorded⟩
    · exact fun record hrecord => author_of_mem_records id output script found hrecord
    · cases (run id output script found).ending with
      | quit => simp [Ending.entry, Entry.level]
      | peerClosed => simp [Ending.entry, Entry.level]
      | failed cause => simp [Ending.entry, Entry.level]
    · obtain ⟨last, bytes, reading, hvisits, hstops⟩ := (Pause.opening id output script found).exists_stop
      rw [← hperformed]
      exact hstops.served_begins hvisits
    · rw [← hperformed]
      exact (run_executes id output script found).device
    · have hreplies := replies_follow_add id output found (cues [] (reached script) ++ [lastCue [] script])
      have hending := hrun.ending
      rw [ending_behind] at hending
      rw [hending, ← executed_run, hperformed, ← replies_of_concludes hrun] at hreplies
      rw [hrecorded.lines, List.length_map]
      exact hreplies
  exact ⟨entries, haccounts, fun others hothers => haccounts.unique hothers⟩

/-- A session whose text is cut and whose last bytes are no line, while another one comes and goes. -/
theorem run_accounts_visited :
    let found : Device := { capacity := 4 }
    let script : List Step :=
      [.data (Bytes.ofString "WRITE abcdef\r\nREA"), .session ⟨2⟩ [.data (Bytes.ofString "WRITE x\n")] {},
       .data (Bytes.ofString "D\nQU"), .eof]
    let report := run ⟨1⟩ {} script found
    (∃ entries, Accounts ⟨1⟩ {} found script report entries) ∧ ¬Hosts script ⟨1⟩ ∧
      report.records.filter (·.names ⟨1⟩)
        = [Entry.opened, .received "write" 12, .cut 6 3, .received "read" 4, .dropped 2, .closed "PeerClosed"].map
            (Entry.record ⟨1⟩) := by
  intro found script report
  obtain ⟨entries, haccounts, -⟩ := run_accounts ⟨1⟩ {} script found
  have hname : ¬Hosts script ⟨1⟩ := not_hosts_of_sparing (by decide)
  refine ⟨⟨entries, haccounts⟩, hname, ?_⟩
  rw [haccounts.named hname]
  decide +kernel

end Session

end DeviceBroker
