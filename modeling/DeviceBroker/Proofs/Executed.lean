import DeviceBroker.Proofs.Course
import DeviceBroker.Proofs.Cue
import DeviceBroker.Proofs.Sending

/-!
# `Proofs.Executed` — how much of its plan a session carries out

A session may break off at any line: its client is gone, a reply cannot be sent, a line is too long. What
it did until then is a beginning of its plan, and its report tells which: every deed shows once in it. So
the device behind any run, however it ended, is what that beginning makes of it, the claim given up.

## Contents

* `Session.done` — the deeds of some cues that are done; `done_begins`, `done_append`.
* `follow_done` — following cues, on the device and in the events.
* `Progress.Sends`, `follow_sends` — following cues, on the stream.
* `Session.executed` — the deeds that a report tells of.
* `executed_run`, `Session.Executes`, `run_executes` — **a run carries out a beginning of its plan.**
-/

namespace DeviceBroker

namespace Session

open Progress

/-- The deeds of some cues that are done before the session is over. -/
def done (id : SessionId) (output : ReplyStream) (device : Device) : List Cue → List Deed
  | [] => []
  | cue :: cues =>
    let progress := cue.play id output device
    if progress.ending.isSome then cue.deed?.toList
    else cue.deed?.toList ++ done id progress.output progress.device cues

/-- What is done is a beginning of what there was to do. -/
theorem done_begins (id : SessionId) (output : ReplyStream) (device : Device) (cues : List Cue) :
    done id output device cues <+: cues.filterMap Cue.deed? := by
  induction cues generalizing output device with
  | nil => exact List.prefix_refl []
  | cons cue cues ih =>
    rw [done, filterMap_deed?_cons]
    split
    · exact List.prefix_append _ _
    · exact (List.prefix_append_right_inj _).2 (ih _ _)

/-- If no cue ends the session, all deeds are done. -/
theorem done_going {id : SessionId} {output : ReplyStream} {device : Device} {cues : List Cue}
    (h : (follow id output device cues).ending = none) :
    done id output device cues = cues.filterMap Cue.deed? := by
  induction cues generalizing output device with
  | nil => rfl
  | cons cue cues ih =>
    rw [follow] at h
    rw [done, filterMap_deed?_cons]
    by_cases hgoing : (cue.play id output device).ending = none
    · rw [andThen_going hgoing] at h
      rw [if_neg (by simp [hgoing]), ih h]
    · rw [andThen_ended hgoing] at h
      exact absurd h hgoing

/-- **Cues in two parts**: what is done of the first, and then of the second unless the session is over. -/
theorem done_append (id : SessionId) (output : ReplyStream) (device : Device) (a b : List Cue) :
    done id output device (a ++ b) =
      done id output device a ++
        (if (follow id output device a).ending.isSome then []
         else done id (follow id output device a).output (follow id output device a).device b) := by
  induction a generalizing output device with
  | nil => rfl
  | cons cue a ih =>
    rw [List.cons_append, done, done, follow]
    by_cases hgoing : (cue.play id output device).ending = none
    · rw [if_neg (by simp [hgoing]), if_neg (by simp [hgoing]), andThen_going hgoing, ih, List.append_assoc]
      rfl
    · have hended := Option.isSome_iff_ne_none.2 hgoing
      rw [andThen_ended hgoing, if_pos hended, if_pos hended, if_pos hended, List.append_nil]

/-- **One cue**, on the device and in the events: its deed is done, and nothing else is. -/
theorem play_done (id : SessionId) (output : ReplyStream) (device : Device) (cue : Cue) :
    (cue.play id output device).device = (course id device cue.deed?.toList).device ∧
    (cue.play id output device).events.filter Event.isUse
      = (course id device cue.deed?.toList).events.filter Event.isUse := by
  cases cue with
  | read count => exact ⟨rfl, rfl⟩
  | interrupted kind => exact ⟨rfl, rfl⟩
  | act deed =>
    cases deed with
    | serve line =>
      have hnotes := uses_notes id device (Command.parse line)
      refine ⟨device_handleLine { id, output } device line, ?_⟩
      -- a reply that is delivered shows, but it shows no use of the device
      unfold Cue.play handleLine
      dsimp only [course, Deed.course, Cue.deed?, Option.toList]
      rw [List.append_nil]
      split
      · rw [List.map_cons, List.map_cons, List.filter_cons_of_pos rfl, List.filter_cons_of_pos rfl,
          List.map_append, List.filter_append, hnotes]
        rfl
      · rw [List.map_cons, List.map_cons, List.filter_cons_of_pos rfl, List.filter_cons_of_pos rfl,
          List.map_append, List.map_append, List.filter_append, List.filter_append, hnotes]
        rfl
    | ask request => exact ⟨rfl, rfl⟩
    | visit other script stream => exact ⟨rfl, rfl⟩
  | overflow size => exact ⟨rfl, rfl⟩
  | hangUp dropped =>
    refine ⟨rfl, ?_⟩
    show (Event.read 0 :: dropNote id dropped).filter Event.isUse = []
    rw [dropNote]
    split <;> rfl
  | breakOff error => exact ⟨rfl, rfl⟩

/-- **Following cues** does what is done of them, on the device and in the events. -/
theorem follow_done (id : SessionId) (output : ReplyStream) (device : Device) (cues : List Cue) :
    (follow id output device cues).device = (course id device (done id output device cues)).device ∧
    (follow id output device cues).events.filter Event.isUse
      = (course id device (done id output device cues)).events.filter Event.isUse := by
  induction cues generalizing output device with
  | nil => exact ⟨rfl, rfl⟩
  | cons cue cues ih =>
    obtain ⟨hdevice, hevents⟩ := play_done id output device cue
    rw [follow, done]
    -- both sides go on from the cue or stop at it
    by_cases hgoing : (cue.play id output device).ending = none
    · have hrest := ih (cue.play id output device).output (cue.play id output device).device
      rw [if_neg (by simp [hgoing]), andThen_going hgoing, course_append, ← hdevice]
      constructor
      · exact hrest.1
      · rw [events_behind, List.filter_append, List.filter_append, hevents, hrest.2]
    · rw [if_pos (Option.isSome_iff_ne_none.2 hgoing), andThen_ended hgoing]
      exact ⟨hdevice, hevents⟩

/-! ## What the client is sent -/

/-- What a session sent so far, and what waits to be sent. -/
def Progress.sent (progress : Progress) : Bytes :=
  progress.events.flatMap Event.delivered ++ progress.output.pending

/-- **Progress sends** some bytes: a beginning of them, and all of them unless the session is over. -/
structure Progress.Sends (progress : Progress) (bytes : Bytes) : Prop where
  begins : progress.sent <+: bytes
  whole : progress.ending = none → progress.sent = bytes

theorem Progress.Sends.of_eq {progress : Progress} {bytes : Bytes} (h : progress.sent = bytes) :
    progress.Sends bytes where
  begins := h ▸ List.prefix_refl _
  whole _ := h

theorem Progress.Sends.behind {progress : Progress} {bytes : Bytes} (h : progress.Sends bytes)
    (events : List Event) : (progress.behind events).Sends (events.flatMap Event.delivered ++ bytes) := by
  have hsent : (progress.behind events).sent = events.flatMap Event.delivered ++ progress.sent := by
    rw [Progress.sent, events_behind, output_behind, List.flatMap_append, List.append_assoc]
    rfl
  constructor
  · rw [hsent]
    exact (List.prefix_append_right_inj _).2 h.begins
  · intro hgoing
    rw [hsent, h.whole hgoing]

/-- A line sends its answer. -/
theorem play_serve_sends (id : SessionId) (output : ReplyStream) (device : Device) (line : Bytes) :
    ((Cue.act (.serve line)).play id output device).Sends
      (output.pending ++ (answer id device (Command.parse line)).1.render) := by
  obtain ⟨hbegins, hwhole⟩ := output.send_sent (answer id device (Command.parse line)).1.render
  have hnotes := delivered_notes id device (Command.parse line)
  unfold Cue.play handleLine
  dsimp only
  generalize output.send (answer id device (Command.parse line)).1.render = outcome at hbegins hwhole ⊢
  obtain ⟨result, left⟩ := outcome
  cases result with
  | error source =>
    constructor
    · show ((received id line :: _).map Event.effect).flatMap Event.delivered ++ left.pending <+: _
      rw [List.map_cons, List.flatMap_cons, hnotes]
      exact hbegins
    · intro hgoing
      cases hgoing
  | ok delivered =>
    obtain ⟨hdelivered, hpending⟩ := hwhole delivered rfl
    apply Progress.Sends.of_eq
    show ((received id line :: (_ ++ [.replied delivered])).map Event.effect).flatMap Event.delivered
      ++ left.pending = _
    rw [List.map_cons, List.map_append, List.flatMap_cons, List.flatMap_append, hnotes, hpending,
      ← hdelivered]
    simp [Event.delivered, received, record, Effect.bytes]

/-- **One cue** sends its answer. -/
theorem play_sends (id : SessionId) (output : ReplyStream) (device : Device) (cue : Cue) :
    (cue.play id output device).Sends (output.pending ++ (course id device cue.deed?.toList).bytes) := by
  have hnothing : output.pending = output.pending ++ [] := (List.append_nil _).symm
  cases cue with
  | read count => exact .of_eq hnothing
  | interrupted kind => exact .of_eq hnothing
  | act deed =>
    cases deed with
    | serve line =>
      have hsends := play_serve_sends id output device line
      have hbytes : (course id device [.serve line]).bytes
          = (answer id device (Command.parse line)).1.render :=
        List.append_nil _
      rwa [← hbytes] at hsends
    | ask request => exact .of_eq hnothing
    | visit other script stream => exact .of_eq hnothing
  | overflow size => exact .of_eq hnothing
  | hangUp dropped =>
    apply Progress.Sends.of_eq
    show (dropNote id dropped).flatMap Event.delivered ++ output.pending = _
    rw [dropNote]
    split <;> exact hnothing
  | breakOff error => exact .of_eq hnothing

/-- **Following cues** sends the answers to what is done of them. -/
theorem follow_sends (id : SessionId) (output : ReplyStream) (device : Device) (cues : List Cue) :
    (follow id output device cues).Sends
      (output.pending ++ (course id device (done id output device cues)).bytes) := by
  induction cues generalizing output device with
  | nil => exact .of_eq (List.append_nil _).symm
  | cons cue cues ih =>
    have hone := play_sends id output device cue
    rw [follow, done]
    by_cases hgoing : (cue.play id output device).ending = none
    · have hrest := ih (cue.play id output device).output (cue.play id output device).device
      have hdevice := (play_done id output device cue).1
      rw [if_neg (by simp [hgoing]), andThen_going hgoing, bytes_course_append, ← hdevice]
      -- what waited behind the cue is the first that the rest sends
      rw [← List.append_assoc, ← hone.whole hgoing, Progress.sent, List.append_assoc]
      exact hrest.behind (cue.play id output device).events
    · rw [if_pos (Option.isSome_iff_ne_none.2 hgoing), andThen_ended hgoing]
      exact hone

/-! ## Runs -/

/-- **The deeds that a report tells of**: as many of the plan as it shows. -/
def executed (script : List Step) (report : Report) : List Deed :=
  (deeds [] (reached script)).take report.uses.length

/-- **A report carries out** what it tells of, and then the session gives up its claim. `waiting` was in its
    stream before it began. -/
structure Executes (id : SessionId) (waiting : Bytes) (found : Device) (script : List Step)
    (report : Report) : Prop where
  /-- The uses of the device are those of the deeds. -/
  uses : report.uses = (course id found (executed script report)).events.filter Event.isUse
  /-- The device is what the deeds make of it, the claim given up. -/
  device : report.device = (course id found (executed script report)).device.release id
  /-- The client was sent a beginning of the answers. -/
  sent : report.delivered ++ report.unflushed <+: waiting ++ (course id found (executed script report)).bytes

/-- What a report tells of is a beginning of the plan. -/
theorem executed_begins (script : List Step) (report : Report) :
    executed script report <+: deeds [] (reached script) :=
  List.take_prefix _ _

/-- The opening and the close of a session are no uses of the device. -/
theorem uses_of_concludes {id : SessionId} {progress : Progress} {report : Report}
    (h : Concludes id (progress.behind [.effect (opened id)]) report) :
    report.uses = progress.events.filter Event.isUse := by
  have hclosing : [Event.effect (closing id report.ending)].filter Event.isUse = [] := by
    cases report.ending <;> rfl
  rw [Report.uses, h.events, List.filter_append, hclosing, List.append_nil]
  rfl

/-- They are not sent to the client either. -/
theorem sent_of_concludes {id : SessionId} {progress : Progress} {report : Report}
    (h : Concludes id (progress.behind [.effect (opened id)]) report) :
    report.delivered ++ report.unflushed = progress.sent := by
  have hclosing : (Event.effect (closing id report.ending)).delivered = [] := by
    cases report.ending <;> rfl
  rw [Report.delivered, h.events, h.unflushed, List.flatMap_append, List.flatMap_singleton, hclosing,
    List.append_nil]
  rfl

/-- **What a run tells of** is what is done of its cues. -/
theorem executed_run (id : SessionId) (output : ReplyStream) (script : List Step) (device : Device) :
    executed script (run id output script device)
      = done id output device (cues [] (reached script) ++ [lastCue [] script]) := by
  have hbegins := done_begins id output device (cues [] (reached script) ++ [lastCue [] script])
  rw [deeds_allCues] at hbegins
  -- a beginning of a list is known by its length, and the length is the number of uses shown
  rw [executed, uses_of_concludes (run_concludes id output script device), (follow_done _ _ _ _).2,
    length_uses_course]
  exact (List.prefix_iff_eq_take.1 hbegins).symm

/-- **A run carries out a beginning of its plan**, however it ends. -/
theorem run_executes (id : SessionId) (output : ReplyStream) (script : List Step) (device : Device) :
    Executes id output.pending device script (run id output script device) := by
  have hrun := run_concludes id output script device
  obtain ⟨hdevice, hevents⟩ := follow_done id output device (cues [] (reached script) ++ [lastCue [] script])
  have hsends := follow_sends id output device (cues [] (reached script) ++ [lastCue [] script])
  rw [← executed_run] at hdevice hevents hsends
  refine ⟨?_, ?_, ?_⟩
  · rw [uses_of_concludes hrun, hevents]
  · rw [hrun.device, device_behind, hdevice]
  · rw [sent_of_concludes hrun]
    exact hsends.begins

end Session

end DeviceBroker
