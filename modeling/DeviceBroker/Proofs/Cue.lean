import DeviceBroker.Proofs.Plan

/-!
# `Proofs.Cue` — a session as a list of cues

A session reads, buffers, cuts lines and answers them, all in one loop. Its reads and its buffer do not
depend on what becomes of the answers, so the loop comes apart: a script is first turned into cues, which
say everything that comes to the session from outside, and then the cues are followed one by one until one
of them ends the session. `serve_concludes` says that both together are the session.

What holds of every run is then shown by one step over a cue and an induction over a list of cues.

## Contents

* `Session.Cue`, `Session.cues`, `Session.lastCue` — cues, and those of a script.
* `Session.Progress`, `Cue.play`, `Session.follow` — following cues; `follow_append`.
* `Session.Waiting`, `Session.Follows` — what holds between two reads.
* `Session.Concludes`, `serve_concludes`, `run_concludes` — **a run follows the cues of its script.**
-/

namespace DeviceBroker

namespace Session

open Bytes

/-- What comes to a session from outside. -/
inductive Cue where
  /-- A read hands over this many bytes. -/
  | read (count : Nat)
  /-- A read is interrupted. -/
  | interrupted (kind : ErrorKind)
  /-- The device is used. -/
  | act (deed : Deed)
  /-- This many bytes wait for a newline, which is too many. -/
  | overflow (size : Nat)
  /-- The stream ends, and this many bytes are no line. -/
  | hangUp (dropped : Nat)
  /-- A read fails for good. -/
  | breakOff (error : IoError)

/-- The use of the device in a cue. -/
def Cue.deed? : Cue → Option Deed
  | act deed => some deed
  | read _ | interrupted _ | overflow _ | hangUp _ | breakOff _ => none

/-! ## The cues of a script -/

/-- Too much waits for a newline. -/
def overflowCue (rest : Bytes) : List Cue :=
  if LineBuffer.limit < rest.length then [.overflow rest.length] else []

/-- The lines of a byte string, each of them served. -/
def lineCues (bytes : Bytes) : List Cue :=
  (lines bytes).map fun line => .act (.serve line)

/-- The cues of one piece of the stream, if `rest` waits for a newline. -/
def pieceCues (rest piece : Bytes) : List Cue :=
  .read piece.length :: (lineCues (rest ++ piece) ++ overflowCue (remainder (rest ++ piece)))

/-- The cues of several pieces. -/
def piecesCues (rest : Bytes) : List Bytes → List Cue
  | [] => []
  | piece :: pieces => pieceCues rest piece ++ piecesCues (remainder (rest ++ piece)) pieces

/-- The cues of a step that is reached. -/
def stepCues (rest : Bytes) : Step → List Cue
  | .data bytes => piecesCues rest (chunks readSize bytes readSize_pos)
  | .failure error => [.interrupted error.kind]
  | .device request => [.act (.ask request)]
  | .session id script output => [.act (.visit id script output)]
  | .eof => []

/-- The cues of some steps. -/
def cues (rest : Bytes) : List Step → List Cue
  | [] => []
  | step :: steps => stepCues rest step ++ cues (remainder (rest ++ step.bytes)) steps

/-- The cue that ends the stream of a script. -/
def lastCue (rest : Bytes) (script : List Step) : Cue :=
  match script.find? Step.isLast with
  | some (.failure error) => .breakOff error
  | _ => .hangUp (remainder (rest ++ heard (reached script))).length

/-! ## The deeds of cues -/

theorem filterMap_deed?_cons (cue : Cue) (cues : List Cue) :
    (cue :: cues).filterMap Cue.deed? = cue.deed?.toList ++ cues.filterMap Cue.deed? := by
  cases hdeed : cue.deed? with
  | none => rw [List.filterMap_cons_none hdeed]; rfl
  | some deed => rw [List.filterMap_cons_some hdeed]; rfl

theorem deeds_lineCues (bytes : Bytes) :
    (lineCues bytes).filterMap Cue.deed? = (lines bytes).map .serve := by
  rw [lineCues, List.filterMap_map, ← List.filterMap_eq_map]
  rfl

theorem deeds_pieceCues (rest piece : Bytes) :
    (pieceCues rest piece).filterMap Cue.deed? = (lines (rest ++ piece)).map .serve := by
  have hoverflow : (overflowCue (remainder (rest ++ piece))).filterMap Cue.deed? = [] := by
    rw [overflowCue]
    split <;> rfl
  rw [pieceCues, List.filterMap_cons_none rfl, List.filterMap_append, deeds_lineCues, hoverflow,
    List.append_nil]

theorem deeds_piecesCues {rest : Bytes} (h : newline ∉ rest) (pieces : List Bytes) :
    (piecesCues rest pieces).filterMap Cue.deed? = (lines (rest ++ pieces.flatten)).map .serve := by
  induction pieces generalizing rest with
  | nil => rw [List.flatten_nil, List.append_nil, lines_of_not_mem h]; rfl
  | cons piece pieces ih =>
    rw [piecesCues, List.filterMap_append, deeds_pieceCues, ih (newline_not_mem_remainder _),
      List.flatten_cons, ← List.append_assoc, lines_append (rest ++ piece), List.map_append]

/-- A step serves the lines that it completes, or it is the step of somebody else. -/
theorem deeds_stepCues (seen : Bytes) (step : Step) :
    (stepCues (remainder seen) step).filterMap Cue.deed?
      = (carried seen step.bytes).map .serve ++ step.deed?.toList := by
  cases step with
  | data bytes =>
    have hpieces := deeds_piecesCues (newline_not_mem_remainder seen) (chunks readSize bytes readSize_pos)
    rw [flatten_chunks] at hpieces
    rw [stepCues, hpieces, carried_eq]
    exact (List.append_nil _).symm
  | failure error => rw [Step.bytes, carried_nil]; rfl
  | device request => rw [Step.bytes, carried_nil]; rfl
  | session id script output => rw [Step.bytes, carried_nil]; rfl
  | eof => rw [Step.bytes, carried_nil]; rfl

/-- **The cues of some steps are their plan**, whatever the reads. -/
theorem deeds_cues (seen : Bytes) (steps : List Step) :
    (cues (remainder seen) steps).filterMap Cue.deed? = deeds seen steps := by
  induction steps generalizing seen with
  | nil => rfl
  | cons step steps ih =>
    rw [cues, List.filterMap_append, deeds_stepCues, ← remainder_append, ih, deeds]

/-- The cue that ends a stream asks for nothing. -/
theorem deed?_lastCue (rest : Bytes) (script : List Step) : (lastCue rest script).deed? = none := by
  unfold lastCue
  split <;> rfl

/-- **All cues of a script** are its plan. -/
theorem deeds_allCues (script : List Step) :
    (cues [] (reached script) ++ [lastCue [] script]).filterMap Cue.deed? = deeds [] (reached script) := by
  have hdeeds := deeds_cues [] (reached script)
  rw [remainder_nil] at hdeeds
  rw [List.filterMap_append, List.filterMap_cons_none (deed?_lastCue [] script), hdeeds]
  exact List.append_nil _

/-! ## Following cues -/

/-- How far a session has come, and what was seen on the way. -/
structure Progress where
  output : ReplyStream
  device : Device
  events : List Event := []
  ending : Option Ending := none

/-- The same progress with something seen before it. -/
def Progress.behind (events : List Event) (progress : Progress) : Progress :=
  { progress with events := events ++ progress.events }

/-- Goes on from here, unless the session is over. -/
def Progress.andThen (first : Progress) (next : ReplyStream → Device → Progress) : Progress :=
  if first.ending.isSome then first else (next first.output first.device).behind first.events

/-- What a session does at the end of the stream. -/
def dropNote (id : SessionId) (dropped : Nat) : List Event :=
  if 0 < dropped then
    [.effect (record .debug id "discarding unterminated request at end of stream"
      [("bytes", .number dropped)])]
  else []

/-- **One cue** of session `id`. -/
def Cue.play (id : SessionId) (output : ReplyStream) (device : Device) : Cue → Progress
  | read count => { output, device, events := [.read count] }
  | interrupted kind => { output, device, events := [.readError kind] }
  | act (.serve line) =>
    let turn := handleLine { id, output } device line
    { output := turn.session.output, device := turn.device, events := turn.effects.map .effect,
      ending := turn.ending }
  | act (.ask request) =>
    { output, device := (device.perform request).2, events := [.device (device.perform request).1] }
  | act (.visit other script stream) =>
    { output, device := (run other stream script device).device,
      events := [(run other stream script device).event] }
  | overflow size => { output, device, ending := some (.failed (.lineTooLong size)) }
  | hangUp dropped =>
    { output, device, events := .read 0 :: dropNote id dropped, ending := some .peerClosed }
  | breakOff error =>
    { output, device, events := [.readError error.kind], ending := some (.failed (.read error)) }

/-- **Follows cues** until one ends the session or none is left. -/
def follow (id : SessionId) (output : ReplyStream) (device : Device) : List Cue → Progress
  | [] => { output, device }
  | cue :: cues => (cue.play id output device).andThen fun output device => follow id output device cues

namespace Progress

@[simp] theorem output_behind (events : List Event) (progress : Progress) :
    (progress.behind events).output = progress.output := rfl

@[simp] theorem device_behind (events : List Event) (progress : Progress) :
    (progress.behind events).device = progress.device := rfl

@[simp] theorem events_behind (events : List Event) (progress : Progress) :
    (progress.behind events).events = events ++ progress.events := rfl

@[simp] theorem ending_behind (events : List Event) (progress : Progress) :
    (progress.behind events).ending = progress.ending := rfl

theorem behind_behind (a b : List Event) (progress : Progress) :
    (progress.behind b).behind a = progress.behind (a ++ b) := by
  simp only [behind, List.append_assoc]

theorem andThen_ended {first : Progress} (h : first.ending ≠ none)
    (next : ReplyStream → Device → Progress) : first.andThen next = first := by
  rw [andThen, if_pos (Option.isSome_iff_ne_none.2 h)]

theorem andThen_going {first : Progress} (h : first.ending = none)
    (next : ReplyStream → Device → Progress) :
    first.andThen next = (next first.output first.device).behind first.events := by
  rw [andThen, if_neg (by simp [h])]

/-- What was seen before does not matter for going on. -/
theorem behind_andThen (events : List Event) (first : Progress) (next : ReplyStream → Device → Progress) :
    (first.behind events).andThen next = (first.andThen next).behind events := by
  by_cases h : first.ending = none
  · have hbehind : (first.behind events).ending = none := h
    rw [andThen_going h, andThen_going hbehind, behind_behind, output_behind, device_behind, events_behind]
  · have hbehind : (first.behind events).ending ≠ none := h
    rw [andThen_ended h, andThen_ended hbehind]

theorem andThen_assoc (first : Progress) (second third : ReplyStream → Device → Progress) :
    (first.andThen second).andThen third
      = first.andThen fun output device => (second output device).andThen third := by
  by_cases h : first.ending = none
  · rw [andThen_going h, andThen_going h, behind_andThen]
  · rw [andThen_ended h, andThen_ended h, andThen_ended h]

/-- Doing nothing more changes nothing. -/
theorem andThen_stay (first : Progress) :
    (first.andThen fun output device => { output, device }) = first := by
  by_cases h : first.ending = none
  · rw [andThen_going h, behind, List.append_nil, ← h]
  · exact andThen_ended h _

end Progress

open Progress

/-- **Cues in two parts** are followed one part after the other. -/
theorem follow_append (id : SessionId) (output : ReplyStream) (device : Device) (a b : List Cue) :
    follow id output device (a ++ b)
      = (follow id output device a).andThen fun output device => follow id output device b := by
  induction a generalizing output device with
  | nil => rfl
  | cons cue a ih =>
    rw [List.cons_append, follow, follow, andThen_assoc]
    simp only [ih]

theorem follow_singleton (id : SessionId) (output : ReplyStream) (device : Device) (cue : Cue) :
    follow id output device [cue] = cue.play id output device :=
  andThen_stay (cue.play id output device)

/-! ## What holds between two reads -/

/-- **Between two reads** a session holds the bytes of an unfinished line and nothing else. -/
structure Waiting (session : Session) (rest : Bytes) : Prop where
  sound : session.input.Sound
  pending : session.input.pending = rest
  unended : newline ∉ rest

/-- What a turn comes to, with the events that it showed. -/
def Turn.progress (turn : Turn) (events : List Event) : Progress :=
  { output := turn.session.output, device := turn.device, events, ending := turn.ending }

/-- **A turn follows cues**: it does what they say, and unless it ended the session, it leaves the session
    as `left` says. -/
structure Follows (session : Session) (device : Device) (cues : List Cue) (left : Session → Prop)
    (turn : Turn) (events : List Event) : Prop where
  progress : turn.progress events = follow session.id session.output device cues
  id : turn.session.id = session.id
  leaves : turn.ending = none → left turn.session

section Follows

variable {session : Session} {device : Device} {a b : List Cue} {left left' : Session → Prop}
  {turn next : Turn} {events events' : List Event}

/-- A session that is over follows every further cue by doing nothing. -/
theorem Follows.ended (h : Follows session device a left turn events) (hending : turn.ending ≠ none)
    (b : List Cue) (left' : Session → Prop) : Follows session device (a ++ b) left' turn events where
  progress := by
    rw [follow_append, ← h.progress]
    exact (andThen_ended hending _).symm
  id := h.id
  leaves going := absurd going hending

/-- A session that is not over goes on from where it stands. -/
theorem Follows.andThen (h : Follows session device a left turn events) (going : turn.ending = none)
    (hnext : Follows turn.session turn.device b left' next events') :
    Follows session device (a ++ b) left' next (events ++ events') where
  progress := by
    have hgoing : (turn.progress events).ending = none := going
    rw [follow_append, ← h.progress, andThen_going hgoing]
    show next.progress (events ++ events')
        = (follow session.id turn.session.output turn.device b).behind events
    rw [← h.id, ← hnext.progress]
    rfl
  id := hnext.id.trans h.id
  leaves := hnext.leaves

end Follows

/-! ## The loops -/

/-- One line is served, and what waits behind it stays. -/
theorem handleLine_follows (session : Session) (device : Device) (line : Bytes) :
    Follows session device [.act (.serve line)] (fun left => left.input = session.input)
      (handleLine session device line) ((handleLine session device line).effects.map .effect) where
  progress := by
    rw [follow_singleton]
    unfold Cue.play handleLine
    rcases answer session.id device (Command.parse line) with ⟨reply, device', notes⟩
    dsimp only
    split <;> rfl
  id := id_handleLine session device line
  leaves _ := input_handleLine session device line

theorem handleLines_of_none {session : Session} {input : LineBuffer}
    (h : session.input.pop? = (none, input)) (device : Device) :
    handleLines session device = { session := { session with input }, device } := by
  rw [handleLines]
  split
  · next heq =>
      rw [h] at heq
      cases heq
      rfl
  · next heq =>
      rw [h] at heq
      cases heq

theorem handleLines_of_some {session : Session} {line : Bytes} {input : LineBuffer}
    (h : session.input.pop? = (some line, input)) (device : Device) :
    handleLines session device =
      let turn := handleLine { session with input } device line
      if turn.ending.isSome then turn
      else { handleLines turn.session turn.device with
             effects := turn.effects ++ (handleLines turn.session turn.device).effects } := by
  rw [handleLines]
  split
  · next heq =>
      rw [h] at heq
      cases heq
  · next heq =>
      rw [h] at heq
      cases heq
      rfl

/-- **The line loop** serves the lines that the buffer holds and leaves what no newline ended. -/
theorem handleLines_follows (session : Session) (device : Device) (sound : session.input.Sound) :
    Follows session device (lineCues session.input.pending)
      (fun left => Waiting left (remainder session.input.pending))
      (handleLines session device) ((handleLines session device).effects.map .effect) := by
  induction hbytes : session.input.pending using cut_induction generalizing session device with
  | unended bytes h =>
    subst hbytes
    rw [handleLines_of_none (LineBuffer.pop?_of_not_mem h), lineCues, lines_of_not_mem h,
      remainder_of_not_mem h]
    exact ⟨rfl, rfl, fun _ => ⟨LineBuffer.sound_searched h, rfl, h⟩⟩
  | line head rest h ih =>
    have hcues : lineCues (head ++ newline :: rest)
        = [.act (.serve (stripReturn head))] ++ lineCues rest := by
      rw [lineCues, lines_cut rest h]
      rfl
    rw [handleLines_of_some (sound.pop?_cut h hbytes), remainder_cut rest h, hcues]
    have hone := handleLine_follows { session with input := { pending := rest } } device (stripReturn head)
    -- from here on the line is served, and only what it left behind matters
    generalize handleLine { session with input := { pending := rest } } device (stripReturn head)
      = turn at hone
    by_cases going : turn.ending = none
    · have hinput : turn.session.input = { pending := rest } := hone.leaves going
      have hrest := ih turn.session turn.device (by rw [hinput]; exact LineBuffer.sound_unsearched rest)
        (by rw [hinput])
      have hall := hone.andThen going hrest
      rw [if_neg (by simp [going]), List.map_append]
      exact ⟨hall.progress, hall.id, hall.leaves⟩
    · rw [if_pos (Option.isSome_iff_ne_none.2 going)]
      have hall := hone.ended going (lineCues rest) fun left => Waiting left (remainder rest)
      exact ⟨hall.progress, hall.id, hall.leaves⟩

/-- **One piece** of the stream: its lines are served, and then what is left over is measured. -/
theorem receive_follows {session : Session} {rest : Bytes} (h : Waiting session rest) (device : Device)
    (piece : Bytes) :
    Follows session device (lineCues (rest ++ piece) ++ overflowCue (remainder (rest ++ piece)))
      (fun left => Waiting left (remainder (rest ++ piece)))
      (session.receive device piece) ((session.receive device piece).effects.map .effect) := by
  have hpushed : (session.input.push piece).pending = rest ++ piece := by
    rw [LineBuffer.push, h.pending]
  have hlines := handleLines_follows { session with input := session.input.push piece } device
    (h.sound.push piece)
  simp only [hpushed] at hlines
  unfold receive
  dsimp only
  generalize handleLines { session with input := session.input.push piece } device = turn at hlines ⊢
  by_cases going : turn.ending = none
  · have hwaiting : Waiting turn.session (remainder (rest ++ piece)) := hlines.leaves going
    have hsize : turn.session.input.size = (remainder (rest ++ piece)).length := by
      rw [LineBuffer.size, hwaiting.pending]
    -- the session is not over, so it looks whether what is left over is too long for a line
    by_cases hlong : LineBuffer.limit < (remainder (rest ++ piece)).length
    · have hover : turn.session.input.isOverlong = true := by
        rw [LineBuffer.isOverlong, hsize]
        exact decide_eq_true hlong
      rw [if_pos ⟨by simp [going], hover⟩, overflowCue, if_pos hlong]
      have hlast : Follows turn.session turn.device [.overflow (remainder (rest ++ piece)).length]
          (fun left => Waiting left (remainder (rest ++ piece)))
          { turn with ending := some (.failed (.lineTooLong turn.session.input.size)) } [] :=
        ⟨by rw [follow_singleton, hsize]; rfl, rfl, fun _ => hwaiting⟩
      have hall := hlines.andThen going hlast
      rw [List.append_nil] at hall
      exact ⟨hall.progress, hall.id, hall.leaves⟩
    · have hshort : ¬(turn.ending.isNone = true ∧ turn.session.input.isOverlong = true) := by
        rw [LineBuffer.isOverlong, hsize]
        simp [hlong]
      rw [if_neg hshort, overflowCue, if_neg hlong, List.append_nil]
      exact ⟨hlines.progress, hlines.id, hlines.leaves⟩
  · rw [if_neg (by simp [going])]
    have hall := hlines.ended going (overflowCue (remainder (rest ++ piece)))
      fun left => Waiting left (remainder (rest ++ piece))
    exact ⟨hall.progress, hall.id, hall.leaves⟩

/-- A read shows how much it handed over, and then its cues are followed. -/
theorem follow_read (id : SessionId) (output : ReplyStream) (device : Device) (count : Nat)
    (cues : List Cue) :
    follow id output device (.read count :: cues) = (follow id output device cues).behind [.read count] :=
  rfl

/-- **All pieces** of some data, one read each. -/
theorem receiveAll_follows {session : Session} {rest : Bytes} (h : Waiting session rest) (device : Device)
    (pieces : List Bytes) :
    Follows session device (piecesCues rest pieces)
      (fun left => Waiting left (remainder (rest ++ pieces.flatten)))
      (receiveAll session device pieces).turn (receiveAll session device pieces).events := by
  induction pieces generalizing session rest device with
  | nil =>
    refine ⟨rfl, rfl, fun _ => ?_⟩
    rw [List.flatten_nil, List.append_nil, remainder_of_not_mem h.unended]
    exact h
  | cons piece pieces ih =>
    have hpiece := receive_follows h device piece
    have hone : Follows session device (pieceCues rest piece)
        (fun left => Waiting left (remainder (rest ++ piece))) (session.receive device piece)
        (.read piece.length :: (session.receive device piece).effects.map .effect) := by
      refine ⟨?_, hpiece.id, hpiece.leaves⟩
      rw [pieceCues, follow_read, ← hpiece.progress]
      rfl
    rw [receiveAll, piecesCues]
    dsimp only
    generalize session.receive device piece = turn at hone ⊢
    by_cases going : turn.ending = none
    · rw [if_neg (by simp [going])]
      have hall := hone.andThen going (ih (hone.leaves going) turn.device)
      have hbytes : remainder (rest ++ (piece :: pieces).flatten)
          = remainder (remainder (rest ++ piece) ++ pieces.flatten) := by
        rw [List.flatten_cons, ← List.append_assoc, remainder_append]
      rw [hbytes]
      exact ⟨hall.progress, hall.id, hall.leaves⟩
    · rw [if_pos (Option.isSome_iff_ne_none.2 going)]
      exact hone.ended going _ _

/-- **One step** that is not the last one. -/
theorem serveStep_follows {session : Session} {rest : Bytes} (h : Waiting session rest) (device : Device)
    {step : Step} (hstep : step.isLast = false) :
    Follows session device (stepCues rest step) (fun left => Waiting left (remainder (rest ++ step.bytes)))
      (serveStep session device step).turn (serveStep session device step).events := by
  have hstay : Waiting session (remainder (rest ++ [])) := by
    rw [List.append_nil, remainder_of_not_mem h.unended]
    exact h
  cases step with
  | data bytes =>
    have hall := receiveAll_follows h device (chunks readSize bytes readSize_pos)
    rw [flatten_chunks] at hall
    exact hall
  | failure error =>
    have hpassing : error.isInterrupted = true := by simpa [Step.isLast] using hstep
    rw [serveStep, readError, if_pos hpassing]
    exact ⟨rfl, rfl, fun _ => hstay⟩
  | device request => exact ⟨rfl, rfl, fun _ => hstay⟩
  | session id script output => exact ⟨rfl, rfl, fun _ => hstay⟩
  | eof => cases hstep

/-- The end of the stream ends the session. -/
theorem readEnd_follows {session : Session} {rest : Bytes} (h : Waiting session rest) (device : Device) :
    Follows session device [.hangUp rest.length] (fun _ => False)
      (readEnd session device).turn (readEnd session device).events := by
  refine ⟨?_, rfl, fun going => by cases going⟩
  rw [follow_singleton, ← h.pending]
  unfold readEnd endOfStream LineBuffer.discard
  dsimp only [Turn.progress, Cue.play, dropNote]
  split <;> rfl

/-! ## Whole scripts -/

theorem reached_cons {step : Step} (h : step.isLast = false) (script : List Step) :
    reached (step :: script) = step :: reached script :=
  List.takeWhile_cons_of_pos (by simp [h])

theorem reached_last {step : Step} (h : step.isLast = true) (script : List Step) :
    reached (step :: script) = [] :=
  List.takeWhile_cons_of_neg (by simp [h])

theorem lastCue_cons {step : Step} (h : step.isLast = false) (rest : Bytes) (script : List Step) :
    lastCue rest (step :: script) = lastCue (remainder (rest ++ step.bytes)) script := by
  unfold lastCue
  rw [List.find?_cons_of_neg (by simp [h]), reached_cons h, heard_cons, ← List.append_assoc,
    remainder_append]

/-- **The last step** ends the session. -/
theorem serveStep_last {session : Session} {rest : Bytes} (h : Waiting session rest) (device : Device)
    {step : Step} (hstep : step.isLast = true) (script : List Step) :
    Follows session device [lastCue rest (step :: script)] (fun _ => False)
      (serveStep session device step).turn (serveStep session device step).events := by
  have hrest : remainder (rest ++ heard (reached (step :: script))) = rest := by
    rw [reached_last hstep, heard, List.flatMap_nil, List.append_nil, remainder_of_not_mem h.unended]
  unfold lastCue
  rw [List.find?_cons_of_pos hstep, hrest]
  cases step with
  | failure error =>
    have hfinal : ¬error.isInterrupted = true := by simpa [Step.isLast] using hstep
    rw [serveStep, readError, if_neg hfinal]
    exact ⟨rfl, rfl, fun going => by cases going⟩
  | eof => exact readEnd_follows h device
  | data bytes => cases hstep
  | device request => cases hstep
  | session id script output => cases hstep

/-- **A report concludes** some progress: it is closed with the ending that was come to. -/
structure Concludes (id : SessionId) (progress : Progress) (report : Report) : Prop where
  ending : progress.ending = some report.ending
  events : report.events = progress.events ++ [.effect (closing id report.ending)]
  unflushed : report.unflushed = progress.output.pending
  device : report.device = progress.device.release id

theorem Concludes.after {id : SessionId} {progress : Progress} {report : Report}
    (h : Concludes id progress report) (events : List Event) :
    Concludes id (progress.behind events) (report.after events) where
  ending := h.ending
  events := by
    show events ++ report.events = events ++ progress.events ++ [.effect (closing id report.ending)]
    rw [h.events, List.append_assoc]
  unflushed := h.unflushed
  device := h.device

theorem finish_concludes {session : Session} {device : Device} {cues : List Cue} {left : Session → Prop}
    {reading : Reading} (h : Follows session device cues left reading.turn reading.events) {ending : Ending}
    (hending : reading.turn.ending = some ending) (unreadSteps : Nat) :
    Concludes session.id (follow session.id session.output device cues)
      (finish reading ending unreadSteps) where
  ending := by
    rw [← h.progress]
    exact hending
  events := by
    rw [← h.progress, ← h.id]
    rfl
  unflushed := by
    rw [← h.progress]
    rfl
  device := by
    rw [← h.progress, ← h.id]
    rfl

/-- **A session follows the cues of its script.** Induction over the script; `Waiting` carries the bytes of
    the unfinished line from one step to the next. -/
theorem serve_concludes {session : Session} {rest : Bytes} (h : Waiting session rest) (device : Device)
    (script : List Step) :
    Concludes session.id
      (follow session.id session.output device (cues rest (reached script) ++ [lastCue rest script]))
      (serve session device script) := by
  induction script generalizing session rest device with
  | nil =>
    have hlast : lastCue rest [] = .hangUp rest.length := by
      show Cue.hangUp (remainder (rest ++ [])).length = _
      rw [List.append_nil, remainder_of_not_mem h.unended]
    rw [serve, hlast]
    exact finish_concludes (readEnd_follows h device) rfl 0
  | cons step script ih =>
    rw [serve]
    -- a step that ends the stream ends the session, whatever stands behind it in the script
    cases hstep : step.isLast with
    | true =>
      have hlast := serveStep_last h device hstep script
      rw [reached_last hstep]
      cases hending : (serveStep session device step).turn.ending with
      | some ending => exact finish_concludes hlast hending script.length
      | none => exact (hlast.leaves hending).elim
    | false =>
      have hone := serveStep_follows h device hstep
      rw [reached_cons hstep, lastCue_cons hstep, cues, List.append_assoc]
      generalize serveStep session device step = reading at hone
      cases hending : reading.turn.ending with
      | some ending =>
        have hended := hone.ended (by simp [hending])
          (cues (remainder (rest ++ step.bytes)) (reached script)
            ++ [lastCue (remainder (rest ++ step.bytes)) script])
          fun _ => False
        exact finish_concludes hended hending script.length
      | none =>
        have hrest := (ih (hone.leaves hending) reading.turn.device).after reading.events
        have hgoing : (reading.turn.progress reading.events).ending = none := hending
        rw [follow_append, ← hone.progress, andThen_going hgoing, ← hone.id]
        exact hrest

/-- **A run follows the cues of its script**, from its opening to its close. -/
theorem run_concludes (id : SessionId) (output : ReplyStream) (script : List Step) (device : Device) :
    Concludes id
      ((follow id output device (cues [] (reached script) ++ [lastCue [] script])).behind
        [.effect (opened id)])
      (run id output script device) :=
  have h : Waiting { id, output } [] := ⟨LineBuffer.sound_unsearched [], rfl, List.not_mem_nil⟩
  (serve_concludes h device script).after [.effect (opened id)]

end Session

end DeviceBroker
