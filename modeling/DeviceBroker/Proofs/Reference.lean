import DeviceBroker.Proofs.Course
import DeviceBroker.Proofs.Cue
import DeviceBroker.Proofs.Sending

/-!
# `Proofs.Reference` — a session against its byte stream

The reference knows no reads and no buffer. It takes the bytes of a script all at once, cuts them into
lines, puts the lines between the steps of the others where their newlines have arrived, and performs all
that in order, up to a request to quit. A session whose replies all arrive does exactly this, however its
bytes were cut into reads.

## Contents

* `Session.InOrder` — when a list of deeds respects the order of a script; `deeds_inOrder`.
* `Session.OnCourse`, `follow_onCourse` — following cues on a healthy stream.
* `Session.Bounded`, `smooth_cues` — no line outgrows the limit before a request to quit.
* `Session.plan`, `Session.MatchesReference` — the reference for a script.
* `run_eq_reference` — **a run is the reference.**
-/

namespace DeviceBroker

namespace Session

open Bytes Progress

/-- Whether a line asks to quit. -/
def asksToQuit (line : Bytes) : Bool :=
  Command.parse line = .quit

/-! ## The order of a plan -/

/-- **In order**: wherever a script is cut, a list of deeds can be cut such that before the cut stand the
    lines of the bytes before it and the steps of others before it, and behind the cut all the rest. -/
def InOrder (plan : List Deed) (steps : List Step) : Prop :=
  ∀ before after, steps = before ++ after →
    ∃ first second, plan = first ++ second ∧
      first.filterMap Deed.line? = lines (heard before) ∧
      first.filter Deed.isForeign = before.filterMap Step.deed? ∧
      second.filter Deed.isForeign = after.filterMap Step.deed?

/-- **The plan of a script is in order.** -/
theorem deeds_inOrder (steps : List Step) : InOrder (deeds [] steps) steps := by
  rintro before after rfl
  refine ⟨deeds [] before, deeds (heard before) after, deeds_append [] before after, ?_,
    foreign_deeds [] before, foreign_deeds (heard before) after⟩
  exact lines_deeds_nil before

/-! ## Cues on a healthy stream -/

/-- Whether a cue serves a request to quit. -/
def Cue.quits : Cue → Bool
  | act deed => deed.quits
  | read _ | interrupted _ | overflow _ | hangUp _ | breakOff _ => false

/-- Whether a cue ends every session. -/
def Cue.ends : Cue → Bool
  | overflow _ | hangUp _ | breakOff _ => true
  | read _ | interrupted _ | act _ => false

/-- **Smooth cues** end a session by a request to quit or not at all. -/
def Smooth (cues : List Cue) : Prop :=
  ∀ cue ∈ upTo Cue.quits cues, cue.ends = false

/-- **Progress on course**: everything is as in the reference for a plan, reads apart. -/
structure OnCourse (id : SessionId) (found : Device) (plan : List Deed) (progress : Progress) : Prop where
  healthy : progress.output.Healthy
  device : progress.device = (course id found plan).device
  events : withoutReads progress.events = (course id found plan).events
  ending : progress.ending = if plan.any Deed.quits then some .quit else none

/-- A line on a healthy stream is answered as in the reference. -/
theorem play_serve {output : ReplyStream} (h : output.Healthy) (id : SessionId) (device : Device)
    (line : Bytes) :
    OnCourse id device [.serve line] ((Cue.act (.serve line)).play id output device) := by
  obtain ⟨left, hsend, hleft⟩ := h.send (answer id device (Command.parse line)).1.render
  have hplay : (Cue.act (.serve line)).play id output device =
      { output := left, device := ((Deed.serve line).course id device).device,
        events := ((Deed.serve line).course id device).events,
        ending := if Command.parse line = .quit then some .quit else none } := by
    unfold Cue.play handleLine
    simp only [hsend]
    rfl
  rw [hplay]
  refine ⟨hleft, rfl, ?_, ?_⟩
  · rw [← withoutReads_course]
    simp only [course, List.append_nil]
  · by_cases hquit : Command.parse line = .quit
    · simp [Deed.quits, hquit]
    · simp [Deed.quits, hquit]

/-- Every cue that does not end a session is on course. -/
theorem play_onCourse {output : ReplyStream} (h : output.Healthy) (id : SessionId) (device : Device)
    {cue : Cue} (hcue : cue.ends = false) :
    OnCourse id device cue.deed?.toList (cue.play id output device) := by
  cases cue with
  | read count => exact ⟨h, rfl, rfl, rfl⟩
  | interrupted kind => exact ⟨h, rfl, rfl, rfl⟩
  | act deed =>
    cases deed with
    | serve line => exact play_serve h id device line
    | ask request => exact ⟨h, rfl, rfl, rfl⟩
    | visit other script stream => exact ⟨h, rfl, rfl, rfl⟩
  | overflow size => cases hcue
  | hangUp dropped => cases hcue
  | breakOff error => cases hcue

theorem quits_eq_any (cue : Cue) : cue.quits = cue.deed?.toList.any Deed.quits := by
  cases cue with
  | act deed => simp [Cue.quits, Cue.deed?]
  | read count => rfl
  | interrupted kind => rfl
  | overflow size => rfl
  | hangUp dropped => rfl
  | breakOff error => rfl

/-- **Smooth cues on a healthy stream** go through the reference up to a request to quit. -/
theorem follow_onCourse {output : ReplyStream} (h : output.Healthy) (id : SessionId) (device : Device)
    {cues : List Cue} (smooth : Smooth cues) :
    OnCourse id device (upTo Deed.quits (cues.filterMap Cue.deed?)) (follow id output device cues) := by
  induction cues generalizing output device with
  | nil => exact ⟨h, rfl, rfl, rfl⟩
  | cons cue cues ih =>
    have hends : cue.ends = false := by
      apply smooth cue
      rw [upTo]
      split <;> simp
    have hone := play_onCourse h id device hends
    rw [filterMap_deed?_cons, upTo_append, ← quits_eq_any, follow]
    -- a request to quit ends the plan and the session at the same place
    by_cases hquits : cue.quits = true
    · have hlast : upTo Deed.quits cue.deed?.toList = cue.deed?.toList := by
        cases hdeed : cue.deed? with
        | none => rfl
        | some deed => simp [upTo]
      have hending : (cue.play id output device).ending = some .quit := by
        rw [hone.ending, ← quits_eq_any, if_pos hquits]
      rw [if_pos hquits, hlast, andThen_ended (by simp [hending])]
      exact hone
    · have hending : (cue.play id output device).ending = none := by
        rw [hone.ending, ← quits_eq_any, if_neg hquits]
      have hsmooth : Smooth cues := by
        intro later hlater
        apply smooth later
        rw [upTo, if_neg hquits]
        exact List.mem_cons_of_mem cue hlater
      have hrest := ih hone.healthy (cue.play id output device).device hsmooth
      rw [if_neg hquits, andThen_going hending]
      refine ⟨hrest.healthy, ?_, ?_, ?_⟩
      · rw [device_behind, hrest.device, course_append, hone.device]
      · rw [events_behind, withoutReads_append, hone.events, hrest.events, course_append, hone.device]
      · rw [ending_behind, hrest.ending, List.any_append, ← quits_eq_any]
        simp [hquits]

/-- Cues quit where their deeds do. -/
theorem any_quits (cues : List Cue) : cues.any Cue.quits = (cues.filterMap Cue.deed?).any Deed.quits := by
  induction cues with
  | nil => rfl
  | cons cue cues ih =>
    rw [List.any_cons, ih]
    cases cue <;> rfl

theorem any_quits_serve (lines : List Bytes) :
    (lines.map Deed.serve).any Deed.quits = lines.any asksToQuit := by
  rw [List.any_map]
  rfl

/-! ## No line outgrows the limit -/

/-- **Bounded**: no stretch without a newline that begins before a request to quit is longer than a line
    may be. -/
def Bounded (stream : Bytes) : Prop :=
  ∀ before run, before ++ run <+: stream → newline ∉ run → (lines before).any asksToQuit = false →
    run.length ≤ LineBuffer.limit

/-- It is enough that no stretch of the stream without a newline is too long. -/
theorem bounded_of_infix {stream : Bytes}
    (h : ∀ run, run <:+: stream → newline ∉ run → run.length ≤ LineBuffer.limit) : Bounded stream := by
  intro before run hrun hnewline _
  exact h run ((List.suffix_append before run).isInfix.trans hrun.isInfix) hnewline

/-- What waits behind bytes without a request to quit is short enough. -/
theorem Bounded.remainder_le {stream seen : Bytes} (h : Bounded stream) (hseen : seen <+: stream)
    (hquit : (lines seen).any asksToQuit = false) : (remainder seen).length ≤ LineBuffer.limit := by
  obtain ⟨before, hbefore⟩ := remainder_suffix seen
  apply h before (remainder seen)
  · rwa [hbefore]
  · exact newline_not_mem_remainder seen
  · rw [← hbefore, lines_append, List.any_append, Bool.or_eq_false_iff] at hquit
    exact hquit.1

theorem Smooth.append {a b : List Cue} (ha : Smooth a) (hb : a.any Cue.quits = false → Smooth b) :
    Smooth (a ++ b) := by
  intro cue hcue
  rw [upTo_append] at hcue
  cases hquits : a.any Cue.quits with
  | true =>
    rw [if_pos hquits] at hcue
    exact ha cue hcue
  | false =>
    rw [if_neg (by simp [hquits])] at hcue
    rcases List.mem_append.1 hcue with hleft | hright
    · exact ha cue (by rwa [upTo_of_any_eq_false hquits])
    · exact hb hquits cue hright

theorem smooth_lineCues (bytes : Bytes) : Smooth (lineCues bytes) := by
  intro cue hcue
  have hmem : cue ∈ lineCues bytes := mem_of_mem_upTo hcue
  obtain ⟨line, -, rfl⟩ := List.mem_map.1 hmem
  rfl

theorem smooth_nil : Smooth [] := by
  intro cue hcue
  cases hcue

theorem smooth_singleton {cue : Cue} (h : cue.ends = false) : Smooth [cue] := by
  intro other hother
  obtain rfl : other = cue := List.mem_singleton.1 (mem_of_mem_upTo hother)
  exact h

/-- Lines without a request to quit, and then more of them. -/
theorem any_lines_append {seen bytes : Bytes} (hseen : (lines seen).any asksToQuit = false)
    (hmore : (lines (remainder seen ++ bytes)).any asksToQuit = false) :
    (lines (seen ++ bytes)).any asksToQuit = false := by
  rw [lines_append, List.any_append, hseen, hmore]
  rfl

/-- **The cues of some pieces are smooth** behind bytes without a request to quit, if the stream is
    bounded: an overflow would be too long a stretch. -/
theorem smooth_piecesCues {stream : Bytes} (h : Bounded stream) (pieces : List Bytes) (seen : Bytes)
    (hseen : seen ++ pieces.flatten <+: stream) (hquit : (lines seen).any asksToQuit = false) :
    Smooth (piecesCues (remainder seen) pieces) := by
  induction pieces generalizing seen with
  | nil => exact smooth_nil
  | cons piece pieces ih =>
    rw [List.flatten_cons, ← List.append_assoc] at hseen
    -- unless its lines ask to quit, what a piece leaves over is a stretch of the bounded stream
    have hpiece : Smooth (pieceCues (remainder seen) piece) := by
      refine Smooth.append (a := [.read piece.length]) (smooth_singleton rfl) fun _ => ?_
      refine Smooth.append (smooth_lineCues _) fun hlines => ?_
      rw [any_quits, deeds_lineCues, any_quits_serve] at hlines
      have hshort : (remainder (seen ++ piece)).length ≤ LineBuffer.limit :=
        h.remainder_le ((List.prefix_append _ _).trans hseen) (any_lines_append hquit hlines)
      rw [← remainder_append, overflowCue, if_neg (Nat.not_lt.2 hshort)]
      exact smooth_nil
    rw [piecesCues, ← remainder_append]
    refine hpiece.append fun hnone => ih (seen ++ piece) hseen ?_
    rw [any_quits, deeds_pieceCues, any_quits_serve] at hnone
    exact any_lines_append hquit hnone

/-- **The cues of a bounded script are smooth.** -/
theorem smooth_cues {stream : Bytes} (h : Bounded stream) (steps : List Step) (seen : Bytes)
    (hseen : seen ++ heard steps <+: stream) (hquit : (lines seen).any asksToQuit = false) :
    Smooth (cues (remainder seen) steps) := by
  induction steps generalizing seen with
  | nil => exact smooth_nil
  | cons step steps ih =>
    rw [heard_cons, ← List.append_assoc] at hseen
    have hstep : Smooth (stepCues (remainder seen) step) := by
      cases step with
      | data bytes =>
        refine smooth_piecesCues h _ seen ?_ hquit
        rw [flatten_chunks]
        exact (List.prefix_append _ _).trans hseen
      | failure error => exact smooth_singleton rfl
      | device request => exact smooth_singleton rfl
      | session id script output => exact smooth_singleton rfl
      | eof => exact smooth_nil
    rw [cues, ← remainder_append]
    refine hstep.append fun hnone => ih (seen ++ step.bytes) hseen ?_
    rw [any_quits, deeds_stepCues, List.any_append, any_quits_serve, Bool.or_eq_false_iff,
      carried_eq] at hnone
    exact any_lines_append hquit hnone.1

/-! ## The run and the reference -/

/-- The lines that a script asks to serve: those of its bytes, up to a request to quit. -/
def requests (script : List Step) : List Bytes :=
  upTo asksToQuit (lines (heard (reached script)))

/-- The plan of a script, up to a request to quit. -/
def plan (script : List Step) : List Deed :=
  upTo Deed.quits (deeds [] (reached script))

/-- What is seen of session `id` when the stream of its script ends. -/
def lastEvents (id : SessionId) (script : List Step) : List Event :=
  match lastEnding script with
  | .peerClosed => dropNote id (remainder (heard (reached script))).length
  | .quit | .failed _ => []

/-- **A report matches the reference** for session `id` and its script on a device. -/
structure MatchesReference (id : SessionId) (found : Device) (script : List Step) (report : Report) :
    Prop where
  /-- The plan puts every line between the steps of others where its newline arrives. -/
  inOrder : InOrder (deeds [] (reached script)) (reached script)
  /-- The lines of the bytes, up to a request to quit, are answered once each and in order. -/
  answered : (course id found (plan script)).answers.map Prod.fst = requests script
  /-- What is seen, reads apart, is the reference between the opening and the close. -/
  events : withoutReads report.events =
    .effect (opened id) :: (course id found (plan script)).events
      ++ (if (requests script).any asksToQuit then [] else lastEvents id script)
      ++ [.effect (closing id report.ending)]
  /-- The client was sent the answers, and nothing else. -/
  delivered : report.delivered = (course id found (plan script)).bytes
  /-- Nothing is left in the stream. -/
  unflushed : report.unflushed = []
  /-- The device is that of the reference, the claim given up. -/
  device : report.device = (course id found (plan script)).device.release id
  /-- The session ends by a request to quit, or as its stream does. -/
  ending : report.ending = if (requests script).any asksToQuit then .quit else lastEnding script

/-- A request to quit is in the plan if it is in the bytes. -/
theorem any_plan (script : List Step) :
    (plan script).any Deed.quits = (requests script).any asksToQuit := by
  rw [plan, requests, any_upTo, any_upTo, ← lines_deeds_nil, List.any_filterMap]
  congr 1
  funext deed
  cases deed <;> rfl

/-- The end of a stream, as seen from outside. -/
theorem play_lastCue (id : SessionId) (output : ReplyStream) (device : Device) (script : List Step) :
    ∃ events, withoutReads events = lastEvents id script ∧
      (lastCue [] script).play id output device
        = { output, device, events, ending := some (lastEnding script) } := by
  have hdropped : withoutReads (.read 0 :: dropNote id (remainder (heard (reached script))).length)
      = dropNote id (remainder (heard (reached script))).length := by
    rw [dropNote]
    split <;> rfl
  unfold lastEvents lastEnding lastCue
  cases script.find? Step.isLast with
  | none => exact ⟨_, hdropped, rfl⟩
  | some step =>
    cases step with
    | failure error => exact ⟨_, rfl, rfl⟩
    | data bytes => exact ⟨_, hdropped, rfl⟩
    | device request => exact ⟨_, hdropped, rfl⟩
    | session other steps stream => exact ⟨_, hdropped, rfl⟩
    | eof => exact ⟨_, hdropped, rfl⟩

theorem delivered_lastEvents (id : SessionId) (script : List Step) :
    (lastEvents id script).flatMap Event.delivered = [] := by
  unfold lastEvents
  split
  · rw [dropNote]
    split <;> rfl
  · rfl
  · rfl

/-- A report matches the reference if the progress that it concludes does. -/
theorem matchesReference_of_progress {id : SessionId} {found : Device} {script : List Step}
    {progress : Progress} {report : Report}
    (h : Concludes id (progress.behind [.effect (opened id)]) report) (healthy : progress.output.Healthy)
    (hdevice : progress.device = (course id found (plan script)).device)
    (hevents : withoutReads progress.events = (course id found (plan script)).events
      ++ (if (requests script).any asksToQuit then [] else lastEvents id script))
    (hending : progress.ending
      = some (if (requests script).any asksToQuit then .quit else lastEnding script)) :
    MatchesReference id found script report := by
  -- what the client was sent is read off the events, so they come first
  have hseen : withoutReads report.events = .effect (opened id) :: (course id found (plan script)).events
      ++ (if (requests script).any asksToQuit then [] else lastEvents id script)
      ++ [.effect (closing id report.ending)] := by
    rw [h.events, withoutReads_append, events_behind, withoutReads_append, hevents, ← List.append_assoc]
    rfl
  refine ⟨deeds_inOrder _, ?_, hseen, ?_, ?_, ?_, ?_⟩
  · rw [answers_course, plan, requests, ← lines_deeds_nil]
    apply filterMap_upTo
    intro deed
    cases deed <;> rfl
  · have hlast : (if (requests script).any asksToQuit then [] else lastEvents id script).flatMap
        Event.delivered = [] := by
      split
      · rfl
      · exact delivered_lastEvents id script
    have hclosing : (Event.effect (closing id report.ending)).delivered = [] := by
      cases report.ending <;> rfl
    rw [Report.delivered, ← delivered_withoutReads, hseen, List.flatMap_append, List.flatMap_append,
      List.flatMap_cons, delivered_course, hlast, List.flatMap_singleton, hclosing, List.append_nil,
      List.append_nil]
    rfl
  · rw [h.unflushed]
    exact healthy.pending
  · rw [h.device, device_behind, hdevice]
  · have hsome := h.ending
    rw [ending_behind, hending] at hsome
    exact (Option.some.inj hsome).symm

/-- **A run is the reference.** Whatever the pieces in which the bytes of a script are read, a session
    whose replies all arrive serves the lines of the bytes, puts each of them where its newline arrives,
    and ends as the bytes and their end say. -/
theorem run_eq_reference (id : SessionId) (device : Device) (script : List Step) {output : ReplyStream}
    (healthy : output.Healthy) (bounded : Bounded (heard (reached script))) :
    MatchesReference id device script (run id output script device) := by
  have hsmooth : Smooth (cues [] (reached script)) := by
    have hcues := smooth_cues bounded (reached script) [] (List.prefix_refl _) rfl
    rwa [remainder_nil] at hcues
  have hcourse := follow_onCourse healthy id device hsmooth
  have hdeeds := deeds_cues [] (reached script)
  rw [remainder_nil] at hdeeds
  rw [hdeeds, ← plan] at hcourse
  have hrun := run_concludes id output script device
  rw [follow_append] at hrun
  generalize follow id output device (cues [] (reached script)) = progress at hcourse hrun
  have hending := hcourse.ending
  rw [any_plan] at hending
  by_cases hquit : (requests script).any asksToQuit = true
  · -- the session is over before its stream is
    rw [if_pos hquit] at hending
    rw [andThen_ended (by simp [hending])] at hrun
    apply matchesReference_of_progress hrun hcourse.healthy hcourse.device
    · rw [if_pos hquit, hcourse.events, List.append_nil]
    · rw [if_pos hquit, hending]
  · -- the session goes on to the end of its stream
    rw [if_neg hquit] at hending
    obtain ⟨events, hevents, hplay⟩ := play_lastCue id progress.output progress.device script
    rw [andThen_going hending, follow_singleton, hplay] at hrun
    apply matchesReference_of_progress hrun hcourse.healthy hcourse.device
    · rw [if_neg hquit, events_behind, withoutReads_append, hcourse.events, hevents]
    · rw [if_neg hquit, ending_behind]

/-- A line in two pieces with a claim of somebody else between them, and a stream that takes the first reply
    in two pieces. -/
theorem run_eq_reference_split :
    let script : List Step :=
      [.data (ofString "WRI"), .failure (.simple .interrupted), .device (.claim ⟨2⟩),
       .data (ofString "TE ab\r\nREAD\nQUIT\nREAD\n"), .eof]
    let output : ReplyStream := { writes := [.atMost 3, .failure (.simple .interrupted), .all] }
    output.Healthy ∧ Bounded (heard (reached script)) ∧
      MatchesReference ⟨1⟩ { capacity := 8 } script (run ⟨1⟩ output script { capacity := 8 }) ∧
      (run ⟨1⟩ output script { capacity := 8 }).delivered
        = ofString "ERR: device busy\n(empty)\nOK: bye\n" := by
  intro script output
  have healthy : output.Healthy := ⟨by decide, by decide, rfl⟩
  have bounded : Bounded (heard (reached script)) := by
    apply bounded_of_infix
    intro run hrun _
    exact Nat.le_trans hrun.length_le (by decide)
  have hmatches := run_eq_reference ⟨1⟩ { capacity := 8 } script healthy bounded
  exact ⟨healthy, bounded, hmatches, hmatches.delivered.trans (by decide)⟩

end Session

end DeviceBroker
