import DeviceBroker.Proofs.Holding
import DeviceBroker.Proofs.Refusal

/-!
# `Proofs.LongLines` — how long a line may be

A session looks behind each read whether it holds more than a line may be, and a read brings a bounded number
of bytes. So what it holds before a read bounds the size of a line that is refused and of one that is served,
wherever the reads fall. A line is refused behind everything that stood before it: all complete lines were
served and answered.

## Contents

* `follow_lineTooLong`, `replies_going` — which cues refuse a line, and how many replies the others show.
* `Stops.follows`, `Stops.refused_iff`, `Stops.refused` — the last read of a session.
* `Stops.run`, `Stops.intake`, `Stops.served_begins`, `Stops.run_refused_iff` — what it means for the whole run.
* `lines_raw` — lines with the bytes that they were cut from.
* `Session.WithinLimit`, `run_within_limit` — **the limit of a line**, for every run; `run_refuses`, `run_serves` —
  its bounds are met.
-/

namespace DeviceBroker

namespace Session

open Bytes Progress

/-! ## Cues that refuse a line -/

/-- The cue at which some cues end a session. -/
theorem ending_follow {id : SessionId} {output : ReplyStream} {device : Device} {cues : List Cue}
    {ending : Ending} (h : (follow id output device cues).ending = some ending) :
    ∃ cue ∈ cues, ∃ output device, (cue.play id output device).ending = some ending := by
  induction cues generalizing output device with
  | nil => cases h
  | cons cue cues ih =>
    rw [follow] at h
    by_cases hgoing : (cue.play id output device).ending = none
    · rw [andThen_going hgoing] at h
      obtain ⟨later, hlater, hplay⟩ := ih h
      exact ⟨later, List.mem_cons_of_mem cue hlater, hplay⟩
    · rw [andThen_ended hgoing] at h
      exact ⟨cue, List.mem_cons_self, output, device, h⟩

/-- Only an overflow refuses a line, and it says how long the line is. -/
theorem play_lineTooLong {id : SessionId} {output : ReplyStream} {device : Device} {cue : Cue} {size : Nat}
    (h : (cue.play id output device).ending = some (.failed (.lineTooLong size))) :
    cue = .overflow size := by
  cases cue with
  | overflow other =>
    cases h
    rfl
  | act deed =>
    cases deed with
    | serve line =>
      exfalso
      unfold Cue.play handleLine at h
      dsimp only at h
      split at h
      · cases h
      · dsimp only at h
        split at h <;> cases h
    | ask request => cases h
    | visit other script stream => cases h
  | read count => cases h
  | interrupted kind => cases h
  | hangUp dropped => cases h
  | breakOff error => cases h

/-- **A line is refused** where cues say so. -/
theorem follow_lineTooLong {id : SessionId} {output : ReplyStream} {device : Device} {cues : List Cue}
    {size : Nat} (h : (follow id output device cues).ending = some (.failed (.lineTooLong size))) :
    .overflow size ∈ cues := by
  obtain ⟨cue, hcue, output', device', hplay⟩ := ending_follow h
  exact play_lineTooLong hplay ▸ hcue

/-- A cue that does not end the session shows one reply for each line that it serves. -/
theorem replies_play {id : SessionId} {output : ReplyStream} {device : Device} {cue : Cue}
    (h : (cue.play id output device).ending = none) :
    (replies (cue.play id output device).events).length
      = (cue.deed?.toList.filterMap Deed.line?).length := by
  by_cases hserves : cue.Serves
  · obtain ⟨line, rfl⟩ := hserves
    cases hsend : output.send (answer id device (Command.parse line)).1.render with
    | mk result left =>
      cases result with
      | error error =>
        rw [play_serve_refused id device hsend] at h
        cases h
      | ok delivered =>
        rw [play_serve_sent id device hsend, replies_append, replies_asked]
        rfl
  · obtain ⟨left, events, ending, hreplies, hlines, hplay⟩ := play_quiet id device hserves
    rw [hplay, hlines, hreplies]

/-- **One reply for each line**, as long as no cue ends the session. -/
theorem replies_going {id : SessionId} {output : ReplyStream} {device : Device} {cues : List Cue}
    (h : (follow id output device cues).ending = none) :
    (replies (follow id output device cues).events).length
      = ((cues.filterMap Cue.deed?).filterMap Deed.line?).length := by
  induction cues generalizing output device with
  | nil => rfl
  | cons cue cues ih =>
    rw [follow] at h ⊢
    by_cases hgoing : (cue.play id output device).ending = none
    · rw [andThen_going hgoing] at h ⊢
      rw [events_behind, replies_append, List.length_append, replies_play hgoing, ih h,
        filterMap_deed?_cons, List.filterMap_append, List.length_append]
    · rw [andThen_ended hgoing] at h
      exact absurd h hgoing

/-- Nothing but lines is in the cues of lines. -/
theorem overflow_not_mem_lineCues (bytes : Bytes) (size : Nat) : .overflow size ∉ lineCues bytes := by
  intro hmem
  obtain ⟨line, -, hline⟩ := List.mem_map.1 hmem
  cases hline

/-! ## The last read -/

namespace Pause

variable {id : SessionId} {output : ReplyStream} {found : Device} {script : List Step}
  {pause : Pause} {bytes : Bytes} {reading : Reading}

/-- The last read brings no more than one read can. -/
theorem Stops.length_le (h : Stops pause bytes reading) : bytes.length ≤ readSize := by
  cases h with
  | ended hrest => exact Nat.zero_le _
  | last hrest hlast => exact Nat.zero_le _
  | cut hrest hdata hended => exact List.length_take_le _ _

/-- What the last read brings is the next that the script has. -/
theorem Stops.prefix_heard (h : Stops pause bytes reading) : bytes <+: heard (reached pause.rest) := by
  cases h with
  | ended hrest => exact List.nil_prefix
  | last hrest hlast => exact List.nil_prefix
  | @cut data rest hrest hdata hended =>
    rw [hrest, heard_reached_data]
    exact (List.take_prefix readSize data).trans (List.prefix_append data _)

theorem handed_readEnd (session : Session) (device : Device) :
    Session.handed (readEnd session device).events = 0 := by
  rw [readEnd, handed_cons, handed_effects]
  rfl

/-- The last read hands over what it takes. -/
theorem Stops.handed (h : Stops pause bytes reading) : Session.handed reading.events = bytes.length := by
  cases h with
  | ended hrest => exact handed_readEnd pause.session pause.device
  | @last step rest hrest hlast =>
    cases step with
    | eof => exact handed_readEnd pause.session pause.device
    | failure error => rfl
    | data bytes => cases hlast
    | device request => cases hlast
    | session id script output => cases hlast
  | @cut data rest hrest hdata hended => exact handed_reading pause data

/-- **The last read follows its cues**, and they serve the lines that it completes. -/
theorem Stops.follows (h : Stands id output found script pause) (hstops : Stops pause bytes reading) :
    ∃ now more, pause.toCome = now ++ more ∧
      reading.turn.progress reading.events = follow id pause.session.output pause.device now ∧
      reading.turn.ending ≠ none ∧
      (now.filterMap Cue.deed?).filterMap Deed.line? = Bytes.lines (remainder pause.seen ++ bytes) := by
  have hnone : Bytes.lines (remainder pause.seen ++ []) = [] := by
    rw [List.append_nil]
    exact lines_of_not_mem h.waiting.unended
  rw [← h.named]
  cases hstops with
  | ended hrest =>
    have hend := readEnd_follows h.waiting pause.device
    have hcues : pause.toCome = [.hangUp (remainder pause.seen).length] := by
      unfold toCome
      rw [hrest]
      show [Cue.hangUp (remainder (remainder pause.seen ++ [])).length] = _
      rw [List.append_nil, remainder_of_not_mem h.waiting.unended]
    exact ⟨_, [], by rw [hcues, List.append_nil], hend.progress, Option.some_ne_none _, hnone.symm⟩
  | @last step rest hrest hlast =>
    have hend := serveStep_last h.waiting pause.device hlast rest
    have hcues : pause.toCome = [lastCue (remainder pause.seen) (step :: rest)] := by
      unfold toCome
      rw [hrest, reached_last hlast]
      rfl
    refine ⟨_, [], by rw [hcues, List.append_nil], hend.progress, ending_last pause hlast, ?_⟩
    rw [hnone, List.filterMap_cons_none (deed?_lastCue _ _)]
    rfl
  | @cut data rest hrest hdata hended =>
    exact ⟨_, _, toCome_read hrest hdata (pause.reading data), (h.reading_follows data).progress, hended,
      lines_pieceCues _ _⟩

/-- The end of a stream refuses no line. -/
theorem overflow_ne_lastCue (rest : Bytes) (script : List Step) (size : Nat) :
    .overflow size ≠ lastCue rest script := by
  unfold lastCue
  split <;> exact Cue.noConfusion

/-- **A line is refused** if the last read leaves more than a line may be, and only then. -/
theorem Stops.refused_iff (h : Stands id output found script pause) (hstops : Stops pause bytes reading)
    (size : Nat) :
    reading.turn.ending = some (.failed (.lineTooLong size)) ↔
      (remainder (pause.seen ++ bytes)).length = size ∧ LineBuffer.limit < size := by
  have hshort := h.short
  cases hstops with
  | ended hrest =>
    rw [List.append_nil]
    constructor
    · intro hending
      cases hending
    · rintro ⟨rfl, hlong⟩
      exact absurd hlong (Nat.not_lt.2 hshort)
  | @last step rest hrest hlast =>
    rw [List.append_nil]
    constructor
    · intro hending
      have hprogress := (serveStep_last h.waiting pause.device hlast rest).progress
      rw [follow_singleton] at hprogress
      have hplay := congrArg Progress.ending hprogress
      rw [Turn.progress, hending] at hplay
      exact absurd (play_lineTooLong hplay.symm).symm (overflow_ne_lastCue _ _ _)
    · rintro ⟨rfl, hlong⟩
      exact absurd hlong (Nat.not_lt.2 hshort)
  | @cut data rest hrest hdata hended =>
    have hfollows := congrArg Progress.ending (h.reading_follows data).progress
    rw [Turn.progress] at hfollows
    dsimp only at hfollows
    rw [hfollows, remainder_append, pieceCues]
    constructor
    · intro hending
      -- no line refuses a line, so it is what is left over
      rcases List.mem_append.1 ((List.mem_cons.1 (follow_lineTooLong hending)).resolve_left Cue.noConfusion)
        with hline | hover
      · exact absurd hline (overflow_not_mem_lineCues _ _)
      · rw [overflowCue] at hover
        split at hover
        · next hlong =>
          cases List.mem_singleton.1 hover
          exact ⟨rfl, hlong⟩
        · cases hover
    · rintro ⟨rfl, hlong⟩
      -- so much can only be left over if the read brings no newline at all
      have hnewline : newline ∉ data.take readSize := by
        intro hmem
        have hlt := length_remainder_append_lt pause.seen hmem
        have hsize : (data.take readSize).length ≤ readSize := List.length_take_le _ _
        have hsmall : readSize ≤ LineBuffer.limit := by decide
        rw [← remainder_append] at hlong
        omega
      have hlines : lineCues (remainder pause.seen ++ data.take readSize) = [] := by
        rw [lineCues, lines_of_not_mem]
        · rfl
        · intro hmem
          exact (List.mem_append.1 hmem).elim h.waiting.unended hnewline
      rw [hlines, overflowCue, if_pos hlong]
      rfl

/-- **Before a line is refused** all complete lines are served. -/
theorem Stops.refused (h : Stands id output found script pause) (hstops : Stops pause bytes reading)
    {size : Nat} (hending : reading.turn.ending = some (.failed (.lineTooLong size))) :
    ∃ now more, pause.toCome = now ++ .overflow size :: more ∧
      (follow id pause.session.output pause.device now).ending = none ∧
      (now.filterMap Cue.deed?).filterMap Deed.line? = Bytes.lines (remainder pause.seen ++ bytes) := by
  obtain ⟨hsize, hlong⟩ := (hstops.refused_iff h size).1 hending
  cases hstops with
  | ended hrest => cases hending
  | last hrest hlast =>
    -- such a step brings nothing, and what was held before it was short
    rw [List.append_nil] at hsize
    exact absurd (hsize ▸ hlong) (Nat.not_lt.2 h.short)
  | @cut data rest hrest hdata hended =>
    have hcues := toCome_read hrest hdata (pause.reading data)
    have hfollows := congrArg Progress.ending (h.reading_follows data).progress
    have hlines := lines_pieceCues (remainder pause.seen) (data.take readSize)
    rw [Turn.progress, h.named] at hfollows
    dsimp only at hfollows
    rw [hending] at hfollows
    rw [remainder_append] at hsize
    rw [pieceCues, overflowCue, hsize, if_pos hlong, ← List.cons_append] at hcues hfollows hlines
    refine ⟨_, _, by rw [hcues, List.append_assoc]; rfl, ?_, ?_⟩
    · rw [follow_append] at hfollows
      generalize hfirst : follow id pause.session.output pause.device _ = first at hfollows ⊢
      cases hgoing : first.ending with
      | none => rfl
      | some ending =>
        -- the lines would have ended the session, and refused one of them
        rw [andThen_ended (by simp [hgoing]), ← hfirst] at hfollows
        rcases List.mem_cons.1 (follow_lineTooLong hfollows.symm) with hread | hline
        · cases hread
        · exact absurd hline (overflow_not_mem_lineCues _ _)
    · rw [← hlines, List.filterMap_append, List.filterMap_append]
      exact (List.append_nil _).symm

end Pause

/-! ## The whole run -/

/-- The lines that a report tells of. -/
def served (script : List Step) (report : Report) : List Bytes :=
  (executed script report).filterMap Deed.line?

section Run

open Pause

variable {id : SessionId} {output : ReplyStream} {found : Device} {script : List Step}
  {pause : Pause} {bytes : Bytes} {reading : Reading}

/-- **A run ends as its last read does**, and its report is what was seen until then. -/
theorem Pause.Stops.run (hvisits : Visits (opening id output script found) pause)
    (hstops : Stops pause bytes reading) :
    reading.turn.ending = some (Session.run id output script found).ending ∧
    ∃ note, (Session.run id output script found).events
      = .effect (opened id) :: (pause.events ++ (reading.events ++ [.effect note])) := by
  obtain ⟨ending, unreadSteps, hending, hreport⟩ := hstops.report
  have hrun : Session.run id output script found
      = ((finish reading ending unreadSteps).after pause.events).after [.effect (opened id)] := by
    rw [← hreport, hvisits.report]
    rfl
  rw [hrun]
  exact ⟨hending, _, rfl⟩

/-- The reads of a run handed over what was seen at the last pause and what the last read took. -/
theorem Pause.Stops.handed_run (hvisits : Visits (opening id output script found) pause)
    (hstops : Stops pause bytes reading) :
    Session.handed (Session.run id output script found).events = (pause.seen ++ bytes).length := by
  obtain ⟨-, note, hevents⟩ := hstops.run hvisits
  rw [hevents, handed_cons, handed_append, handed_append, hvisits.stands.handed, hstops.handed,
    List.length_append]
  simp [Event.count]

/-- **The bytes received** are those of the last pause and of the last read. -/
theorem Pause.Stops.intake (hvisits : Visits (opening id output script found) pause)
    (hstops : Stops pause bytes reading) :
    Session.intake script (Session.run id output script found) = pause.seen ++ bytes := by
  obtain ⟨later, hlater⟩ := hstops.prefix_heard
  rw [Session.intake, hstops.handed_run hvisits, hvisits.stands.came, ← hlater, ← List.append_assoc,
    List.take_left]

/-- **The lines served** are the first of those received. -/
theorem Pause.Stops.served_begins (hvisits : Visits (opening id output script found) pause)
    (hstops : Stops pause bytes reading) :
    served script (Session.run id output script found)
      <+: lines (Session.intake script (Session.run id output script found)) := by
  have hstands := hvisits.stands
  obtain ⟨past, hpast⟩ := hstands.past
  obtain ⟨now, more, hcues, hfollow, hended, hlines⟩ := hstops.follows hstands
  have hgoing : (follow id output found past).ending = none := by rw [hpast.progress]
  have hover : (follow id pause.session.output pause.device now).ending.isSome = true := by
    rw [← hfollow]
    exact Option.isSome_iff_ne_none.2 hended
  rw [hstops.intake hvisits, served, executed_run, hpast.cues, hcues, done_append, hgoing, done_going hgoing,
    hpast.progress, if_neg (by simp), done_append, if_pos hover, List.append_nil, List.filterMap_append,
    hpast.lines, lines_append, ← hlines]
  exact (List.prefix_append_right_inj _).2 ((done_begins _ _ _ _).filterMap _)

/-- **Before a run refuses a line** no cue ends the session, and all lines received are served. -/
theorem refused_run (hvisits : Visits (opening id output script found) pause)
    (hstops : Stops pause bytes reading) {size : Nat}
    (hending : (run id output script found).ending = .failed (.lineTooLong size)) :
    ∃ before after, cues [] (reached script) ++ [lastCue [] script] = before ++ .overflow size :: after ∧
      (follow id output found before).ending = none ∧
      (before.filterMap Cue.deed?).filterMap Deed.line?
        = lines (intake script (run id output script found)) := by
  have hstands := hvisits.stands
  obtain ⟨past, hpast⟩ := hstands.past
  have hlast := (hstops.run hvisits).1
  rw [hending] at hlast
  obtain ⟨now, more, hcues, hgoing, hlines⟩ := hstops.refused hstands hlast
  refine ⟨past ++ now, more, by rw [hpast.cues, hcues, List.append_assoc], ?_, ?_⟩
  · rw [follow_append, hpast.progress, andThen_going rfl]
    exact hgoing
  · rw [hstops.intake hvisits, List.filterMap_append, List.filterMap_append, hpast.lines, hlines]
    exact (lines_append pause.seen bytes).symm

/-- What stands unfinished behind the bytes received is no longer than a line may be and one read. -/
theorem Pause.Stops.length_remainder_le (hvisits : Visits (opening id output script found) pause)
    (hstops : Stops pause bytes reading) :
    (remainder (Session.intake script (Session.run id output script found))).length
      ≤ LineBuffer.limit + readSize := by
  rw [hstops.intake hvisits]
  exact Nat.le_trans (length_remainder_append_le pause.seen bytes)
    (Nat.add_le_add hvisits.stands.short hstops.length_le)

/-- Behind a part of them it is at least a byte less: the last byte was still to come. -/
theorem Pause.Stops.length_remainder_lt (hvisits : Visits (opening id output script found) pause)
    (hstops : Stops pause bytes reading) {part : Bytes}
    (hbegins : part <+: Session.intake script (Session.run id output script found))
    (hne : part ≠ Session.intake script (Session.run id output script found)) :
    (remainder part).length < LineBuffer.limit + readSize := by
  rw [hstops.intake hvisits] at hbegins hne
  exact hvisits.stands.brief_of_ne hstops.length_le hbegins hne

/-- **A run refuses a line** if more than a line may be stands behind the last newline, and only then. -/
theorem Pause.Stops.run_refused_iff (hvisits : Visits (opening id output script found) pause)
    (hstops : Stops pause bytes reading) (size : Nat) :
    (Session.run id output script found).ending = .failed (.lineTooLong size) ↔
      (remainder (Session.intake script (Session.run id output script found))).length = size ∧
        LineBuffer.limit < size ∧ size ≤ LineBuffer.limit + readSize := by
  have hiff := hstops.refused_iff hvisits.stands size
  rw [(hstops.run hvisits).1, Option.some_inj, ← hstops.intake hvisits] at hiff
  rw [hiff]
  constructor
  · rintro ⟨rfl, hlong⟩
    exact ⟨rfl, hlong, hstops.length_remainder_le hvisits⟩
  · rintro ⟨hsize, hlong, -⟩
    exact ⟨hsize, hlong⟩

/-- Every read of a run is made at a pause. -/
theorem Pause.Stops.reads (hvisits : Visits (opening id output script found) pause)
    (hstops : Stops pause bytes reading) {before after : List Event} {event : Event}
    (hsplit : (Session.run id output script found).events = before ++ event :: after)
    (hisRead : event.isRead = true) :
    ∃ visited, Visits (opening id output script found) visited ∧
      before = .effect (opened id) :: visited.events := by
  obtain ⟨-, note, hevents⟩ := hstops.run hvisits
  rw [hevents] at hsplit
  cases before with
  | nil =>
    -- the first event tells that the session was opened, and is no read
    obtain ⟨rfl, -⟩ := List.cons.inj hsplit
    cases hisRead
  | cons first before =>
    obtain ⟨rfl, hrest⟩ := List.cons.inj hsplit
    have hall := (hvisits.reads rfl).append ⟨pause, hvisits, rfl⟩ (hstops.readsFirst.concat note)
    obtain ⟨visited, hvisited, rfl⟩ := hall before event after hrest hisRead
    exact ⟨visited, hvisited, rfl⟩

end Run

/-- **All lines are answered**: of the bytes received every complete line was served, in order, each was
    answered by a reply of its own, and every byte of the answers went to the stream. -/
structure Answered (id : SessionId) (output : ReplyStream) (found : Device) (script : List Step)
    (report : Report) : Prop where
  served : served script report = lines (intake script report)
  answers : (course id found (executed script report)).answers.map Prod.fst = lines (intake script report)
  replies : (replies report.events).length = (lines (intake script report)).length
  sent : report.delivered ++ report.unflushed
    = output.pending ++ (course id found (executed script report)).bytes

/-- Cues that refuse a line have answered all lines before it. -/
theorem answered_of_refused {id : SessionId} {output : ReplyStream} {found : Device} {script : List Step}
    {before after : List Cue} {size : Nat}
    (hcues : cues [] (reached script) ++ [lastCue [] script] = before ++ .overflow size :: after)
    (hgoing : (follow id output found before).ending = none)
    (hlines : (before.filterMap Cue.deed?).filterMap Deed.line?
      = lines (intake script (run id output script found))) :
    Answered id output found script (run id output script found) := by
  have hexecuted : executed script (run id output script found) = before.filterMap Cue.deed? := by
    rw [executed_run, hcues, done_append, hgoing, done_going hgoing]
    exact List.append_nil _
  have hrun := run_concludes id output script found
  have hprogress : follow id output found (cues [] (reached script) ++ [lastCue [] script])
      = { follow id output found before with ending := some (.failed (.lineTooLong size)) } := by
    rw [hcues, follow_append, andThen_going hgoing, behind]
    simp only [follow, andThen, Cue.play, Option.isSome_some, if_true, List.append_nil]
  rw [hprogress] at hrun
  have hserved : served script (run id output script found)
      = lines (intake script (run id output script found)) := by
    rw [served, hexecuted, hlines]
  refine ⟨hserved, ?_, ?_, ?_⟩
  · rw [answers_course]
    exact hserved
  · rw [replies_of_concludes hrun, ← hlines]
    exact replies_going hgoing
  · have hsends := (follow_sends id output found before).whole hgoing
    rw [done_going hgoing, ← hexecuted] at hsends
    rw [sent_of_concludes hrun]
    exact hsends

/-! ## Lines as they came -/

/-- Some lines of a byte string are cut from stretches at its beginning. -/
theorem lines_raw {bytes : Bytes} {part : List Bytes} (h : part <+: lines bytes) :
    ∃ raws : List Bytes, raws.map stripReturn = part ∧ raws.flatMap (· ++ [newline]) <+: bytes ∧
      ∀ raw ∈ raws, newline ∉ raw := by
  induction bytes using cut_induction generalizing part with
  | unended bytes hunended =>
    rw [lines_of_not_mem hunended] at h
    obtain rfl := List.prefix_nil.1 h
    exact ⟨[], rfl, List.nil_prefix, fun raw hraw => by cases hraw⟩
  | line head rest hhead ih =>
    rw [lines_cut rest hhead] at h
    cases part with
    | nil => exact ⟨[], rfl, List.nil_prefix, fun raw hraw => by cases hraw⟩
    | cons line part =>
      obtain ⟨rfl, hpart⟩ := List.cons_prefix_cons.1 h
      obtain ⟨raws, rfl, hbytes, hclean⟩ := ih hpart
      refine ⟨head :: raws, rfl, ?_, ?_⟩
      · rw [List.flatMap_cons, List.append_assoc]
        exact (List.prefix_append_right_inj head).2 ((List.prefix_append_right_inj [newline]).2 hbytes)
      · intro raw hraw
        rcases List.mem_cons.1 hraw with rfl | hlater
        · exact hhead
        · exact hclean raw hlater

/-- Such a stretch stood unfinished when not all of the bytes had come. -/
theorem length_raw_le {bytes raw : Bytes} {raws : List Bytes} (h : raws.flatMap (· ++ [newline]) <+: bytes)
    (hmem : raw ∈ raws) (hclean : newline ∉ raw) :
    ∃ part, part <+: bytes ∧ part ≠ bytes ∧ raw.length ≤ (remainder part).length := by
  obtain ⟨before, after, rfl⟩ := List.append_of_mem hmem
  -- all that came up to the end of the stretch: its newline is still missing
  rw [List.flatMap_append, List.flatMap_cons] at h
  obtain ⟨rest, rfl⟩ := h
  refine ⟨before.flatMap (· ++ [newline]) ++ raw, ?_, ?_, (suffix_remainder_append _ hclean).length_le⟩
  · simp only [List.append_assoc]
    exact (List.prefix_append_right_inj _).2 (List.prefix_append raw _)
  · intro heq
    have hlength := congrArg List.length heq
    simp only [List.length_append, List.length_singleton] at hlength
    omega

/-! ## The limit of a line -/

/-- **A run keeps the limit of a line** with exact bounds, wherever its reads fall. -/
structure WithinLimit (id : SessionId) (output : ReplyStream) (found : Device) (script : List Step)
    (report : Report) : Prop where
  /-- At every pause the session holds what was received since the last newline, and that is no more than a
      line may be. -/
  held : ∀ pause, Pause.Visits (.opening id output script found) pause →
    report = pause.report.after [.effect (opened id)] ∧
    pause.seen = (heard (reached script)).take (handed pause.events) ∧
    pause.session.input.pending = remainder pause.seen ∧ (remainder pause.seen).length ≤ 65536
  /-- Every read of the report is made at a pause. -/
  reads : ∀ before event after, report.events = before ++ event :: after → event.isRead = true →
    ∃ pause, Pause.Visits (.opening id output script found) pause ∧
      before = .effect (opened id) :: pause.events
  /-- A line is refused if more than a line may be was received behind the last newline, and only then. -/
  refused : ∀ size, report.ending = .failed (.lineTooLong size) ↔
    (remainder (intake script report)).length = size ∧ 65537 ≤ size ∧ size ≤ 66560
  /-- Then all lines before it were answered. -/
  answered : ∀ size, report.ending = .failed (.lineTooLong size) → Answered id output found script report
  /-- Bytes without too long a stretch are never refused, however many lines a read brings. -/
  spared : (∀ run, run <:+: intake script report → newline ∉ run → run.length ≤ 65536) →
    ∀ size, report.ending ≠ .failed (.lineTooLong size)
  /-- The lines served are cut from stretches at the beginning of the bytes received, none of them longer than
      the limit and one read less its newline. -/
  served : ∃ raws : List Bytes, raws.map stripReturn = served script report ∧
    raws.flatMap (· ++ [newline]) <+: intake script report ∧
    ∀ raw ∈ raws, newline ∉ raw ∧ raw.length ≤ 66559
  /-- No longer stretch is ever received, and one of that length ends the session. -/
  unended : ∀ run, run <:+: intake script report → newline ∉ run →
    run.length ≤ 66560 ∧ (run.length = 66560 → report.ending = .failed (.lineTooLong 66560))

/-- **The limit of a line.** Whatever a script brings, in whatever pieces, a session that runs it holds no more
    than a line may be whenever it reads, and refuses what is longer, behind the answers to everything before
    it. -/
theorem run_within_limit (id : SessionId) (output : ReplyStream) (found : Device) (script : List Step) :
    WithinLimit id output found script (run id output script found) := by
  have hlimit : LineBuffer.limit = 65536 := rfl
  have hread : readSize = 1024 := rfl
  obtain ⟨last, bytes, reading, hvisits, hstops⟩ := (Pause.opening id output script found).exists_stop
  -- all bounds come from what stands unfinished behind the bytes received, and behind a part of them
  have hwhole := hstops.length_remainder_le hvisits
  have hrefused := hstops.run_refused_iff hvisits
  refine ⟨?_, ?_, ?_, ?_, ?_, ?_, ?_⟩
  · intro pause hpause
    have hpaused := hpause.stands
    refine ⟨?_, ?_, hpaused.waiting.pending, hpaused.short⟩
    · rw [hpause.report]
      rfl
    · rw [hpaused.handed, hpaused.came, List.take_left]
  · intro before event after hsplit hisRead
    exact hstops.reads hvisits hsplit hisRead
  · intro size
    rw [hrefused, hlimit, hread]
    rfl
  · intro size hsome
    obtain ⟨before, after, hcues, hgoing, hlines⟩ := refused_run hvisits hstops hsome
    exact answered_of_refused hcues hgoing hlines
  · intro hruns size hsome
    obtain ⟨hlength, hlong, -⟩ := (hrefused size).1 hsome
    have hle := hruns _ (remainder_suffix _).isInfix (newline_not_mem_remainder _)
    omega
  · obtain ⟨raws, hmap, hbytes, hclean⟩ := lines_raw (hstops.served_begins hvisits)
    refine ⟨raws, hmap, hbytes, ?_⟩
    intro raw hraw
    obtain ⟨part, hbegins, hne, hle⟩ := length_raw_le hbytes hraw (hclean raw hraw)
    have hlt := hstops.length_remainder_lt hvisits hbegins hne
    exact ⟨hclean raw hraw, by omega⟩
  · rintro stretch ⟨before, after, hwithin⟩ hclean
    have hbegins : before ++ stretch <+: intake script (run id output script found) := ⟨after, hwithin⟩
    have hle := (suffix_remainder_append before hclean).length_le
    by_cases hall : before ++ stretch = intake script (run id output script found)
    · rw [hall] at hle
      refine ⟨by omega, ?_⟩
      intro hlength
      exact (hrefused 66560).2 ⟨by omega, by decide, Nat.le_refl _⟩
    · have hlt := hstops.length_remainder_lt hvisits hbegins hall
      exact ⟨by omega, fun hlength => by omega⟩

/-! ## The bounds are met -/

/-- Bytes that hold no newline and are not too many are read and nothing else. -/
theorem piecesCues_held {rest : Bytes} {pieces : List Bytes} (hclean : newline ∉ rest ++ pieces.flatten)
    (hshort : (rest ++ pieces.flatten).length ≤ LineBuffer.limit) :
    piecesCues rest pieces = pieces.map fun piece => .read piece.length := by
  induction pieces generalizing rest with
  | nil => rfl
  | cons piece pieces ih =>
    rw [List.flatten_cons, ← List.append_assoc] at hclean hshort
    have hpiece : newline ∉ rest ++ piece := fun hmem => hclean (List.mem_append_left _ hmem)
    have hfits : ¬LineBuffer.limit < (rest ++ piece).length := by
      rw [List.length_append] at hshort
      omega
    rw [piecesCues, pieceCues, remainder_of_not_mem hpiece, ih hclean hshort, lineCues,
      lines_of_not_mem hpiece, overflowCue, if_neg hfits]
    rfl

/-- Reads change nothing. -/
theorem follow_reads (id : SessionId) (output : ReplyStream) (device : Device) (pieces : List Bytes) :
    follow id output device (pieces.map fun piece => .read piece.length)
      = { output, device, events := pieces.map fun piece => .read piece.length } := by
  induction pieces with
  | nil => rfl
  | cons piece pieces ih =>
    rw [List.map_cons, follow_read, ih]
    rfl

/-- A deed is done whether or not it ends the session, and behind it there is nothing to do. -/
theorem done_act_last (id : SessionId) (output : ReplyStream) (device : Device) (deed : Deed) {cue : Cue}
    (h : cue.deed? = none) : done id output device [.act deed, cue] = [deed] := by
  have hdeed : (Cue.act deed).deed?.toList = [deed] := rfl
  simp only [done, h, hdeed, Option.toList_none, List.append_nil, ite_self]

/-- The cues of some bytes that are held and of one more piece. -/
theorem cues_held {held piece : Bytes} (hheld : newline ∉ held) (hshort : held.length ≤ LineBuffer.limit)
    (hpiece : piece ≠ []) (hread : piece.length ≤ readSize) :
    cues [] (reached [.data held, .data piece])
      = (chunks readSize held readSize_pos).map (fun part => .read part.length) ++ pieceCues held piece := by
  have hpieces : piecesCues [] (chunks readSize held readSize_pos)
      = (chunks readSize held readSize_pos).map fun part => .read part.length := by
    apply piecesCues_held
    · rwa [List.nil_append, flatten_chunks]
    · rwa [List.nil_append, flatten_chunks]
  have hone : chunks readSize piece readSize_pos = [piece] := by
    rw [chunks_of_ne_nil hpiece, List.take_of_length_le hread, List.drop_of_length_le hread, chunks]
  show cues [] [.data held, .data piece] = _
  rw [cues, cues, cues, stepCues, stepCues, hpieces, hone, piecesCues, piecesCues, List.append_nil,
    List.append_nil]
  simp only [Step.bytes, List.nil_append, remainder_of_not_mem hheld]

/-- **Every size between the bounds is refused** by some run: what is held may be as long as a line, and a read
    may bring as much as it can. -/
theorem run_refuses (id : SessionId) (output : ReplyStream) (found : Device) {held piece : Bytes}
    (hheld : newline ∉ held) (hclean : newline ∉ piece) (hshort : held.length ≤ LineBuffer.limit)
    (hread : piece.length ≤ readSize) (hlong : LineBuffer.limit < held.length + piece.length) :
    (run id output [.data held, .data piece] found).ending
      = .failed (.lineTooLong (held.length + piece.length)) := by
  have hpiece : piece ≠ [] := by
    rintro rfl
    exact absurd hlong (Nat.not_lt.2 hshort)
  have hboth : newline ∉ held ++ piece := fun hmem => (List.mem_append.1 hmem).elim hheld hclean
  have hending := (run_concludes id output [.data held, .data piece] found).ending
  rw [← List.length_append] at hlong ⊢
  rw [cues_held hheld hshort hpiece hread, List.append_assoc, follow_append, follow_reads, andThen_going rfl,
    pieceCues, lineCues, lines_of_not_mem hboth, remainder_of_not_mem hboth, overflowCue, if_pos hlong]
    at hending
  exact (Option.some.inj hending).symm

/-- **The longest line is served**: one that fills what may be held and a read, but for its newline. -/
theorem run_serves (id : SessionId) (output : ReplyStream) (found : Device) {held piece : Bytes}
    (hheld : newline ∉ held) (hclean : newline ∉ piece) (hshort : held.length ≤ LineBuffer.limit)
    (hread : piece.length < readSize) :
    served [.data held, .data (piece ++ [newline])] (run id output [.data held, .data (piece ++ [newline])] found)
      = [stripReturn (held ++ piece)] := by
  have hboth : newline ∉ held ++ piece := fun hmem => (List.mem_append.1 hmem).elim hheld hclean
  have hlines : lines (held ++ (piece ++ [newline])) = [stripReturn (held ++ piece)] := by
    rw [← List.append_assoc, lines_cut [] hboth]
    rfl
  have hrest : overflowCue (remainder (held ++ (piece ++ [newline]))) = [] := by
    rw [← List.append_assoc, remainder_cut [] hboth]
    rfl
  have hcues : cues [] (reached [.data held, .data (piece ++ [newline])]) = _ :=
    cues_held hheld hshort (by simp) (by rw [List.length_append]; exact hread)
  have hreads := follow_reads id output found (chunks readSize held readSize_pos)
  have hgoing := congrArg Progress.ending hreads
  have hquiet : ((chunks readSize held readSize_pos).map fun part => Cue.read part.length).filterMap Cue.deed?
      = [] := by
    rw [List.filterMap_eq_nil_iff]
    intro cue hcue
    obtain ⟨part, -, rfl⟩ := List.mem_map.1 hcue
    rfl
  rw [served, executed_run, hcues, List.append_assoc, done_append, done_going hgoing, hgoing, hreads, hquiet,
    if_neg (by simp), pieceCues, lineCues, hlines, hrest]
  show (done id output found [.act (.serve (stripReturn (held ++ piece))), _]).filterMap Deed.line? = _
  rw [done_act_last _ _ _ _ (deed?_lastCue _ _)]
  rfl

end Session

end DeviceBroker
