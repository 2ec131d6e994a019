import DeviceBroker.Proofs.Executed

/-!
# `Proofs.Refusal` — a client that takes no more replies

A reply is sent after its request was performed, and whether it can be sent does not depend on the
device. So a session whose stream fails is compared with the same session whose replies all arrive: the
replies of the healthy run, offered one by one to the failing stream, tell which of them is refused. The
two runs are the same up to that reply. There the failing one stops, with the request performed, the reply
not delivered, and nothing behind it done or read.

## Contents

* `ReplyStream.Refusal`, `ReplyStream.refusal?` — the first of several replies that a stream refuses.
* `play_quiet`, `play_serve_sent`, `play_serve_refused`, `play_serve_cases`, `play_healthy` — one cue on any
  stream.
* `Progress.InStep`, `Progress.CutShort`, `play_twice`, `follow_twice` — **cues on a healthy stream and on any
  other**, one of them and all of them.
* `follow_replies` — what the replies on a healthy stream answer.
* `Unbroken`, `CutOff`, `run_until_refused` — **a session ends at the first reply that is refused**, and
  nowhere else.
-/

namespace DeviceBroker

namespace ReplyStream

/-! ## Refused replies -/

/-- **A refusal**: the first of several replies that a stream does not deliver. -/
structure Refusal where
  /-- How many replies are delivered before it. -/
  index : Nat
  /-- Why it is not delivered. -/
  error : IoError
  /-- The bytes of it that the stream takes. -/
  taken : Bytes
  /-- Whether the stream takes all of it and fails to deliver it. -/
  atFlush : Bool
  deriving Repr, DecidableEq

/-- A reply that cannot be sent leaves in the stream what was taken of it. -/
theorem pending_of_send_error {stream left : ReplyStream} {bytes : Bytes} {error : IoError}
    (h : stream.send bytes = (.error error, left)) :
    left.pending = stream.pending ++ (offer stream.writes bytes).2.2 := by
  unfold send writeAll at h
  generalize offer stream.writes bytes = offered at h ⊢
  obtain ⟨failure, writes, taken⟩ := offered
  cases failure with
  | some source =>
    cases h
    rfl
  | none =>
    dsimp only [flush] at h
    split at h
    · cases h
      rfl
    · cases h
    · cases h

/-- The same refusal behind more replies that were delivered. -/
def Refusal.behind (count : Nat) (refusal : Refusal) : Refusal :=
  { refusal with index := count + refusal.index }

/-- **The first reply that is refused**, if replies are sent one after the other until one is. -/
def refusal? (stream : ReplyStream) : List Bytes → Option Refusal
  | [] => none
  | reply :: replies =>
    match stream.send reply with
    | (.ok _, left) => (refusal? left replies).map (Refusal.behind 1)
    | (.error error, _) =>
      let (failure, _, taken) := offer stream.writes reply
      some { index := 0, error, taken, atFlush := failure.isNone }

theorem Refusal.behind_behind (a b : Nat) (refusal : Refusal) :
    (refusal.behind b).behind a = refusal.behind (a + b) := by
  simp only [Refusal.behind, Nat.add_assoc]

theorem map_behind_zero (refusal? : Option Refusal) : refusal?.map (Refusal.behind 0) = refusal? := by
  have hzero : Refusal.behind 0 = fun refusal => refusal := by
    funext refusal
    rw [Refusal.behind, Nat.zero_add]
  rw [hzero, Option.map_id']

/-- What a refused reply leaves behind is a beginning of it, and all of it if the flush failed. -/
theorem refusal?_of_send_error {stream left : ReplyStream} {reply : Bytes} {error : IoError}
    (h : stream.send reply = (.error error, left)) :
    ∃ refusal, (∀ later, stream.refusal? (reply :: later) = some refusal) ∧ refusal.index = 0 ∧
      refusal.error = error ∧ refusal.taken <+: reply ∧
      (refusal.atFlush = true → refusal.taken = reply) ∧ left.pending = stream.pending ++ refusal.taken := by
  obtain ⟨htaken, hall⟩ := offer_taken stream.writes reply
  refine ⟨_, fun later => by rw [refusal?, h], rfl, rfl, htaken, ?_, pending_of_send_error h⟩
  intro hflush
  exact hall (Option.isNone_iff_eq_none.1 hflush)

/-- A reply that is sent is not refused; a later one may be. -/
theorem refusal?_of_send_ok {stream left : ReplyStream} {reply delivered : Bytes}
    (h : stream.send reply = (.ok delivered, left)) (later : List Bytes) :
    stream.refusal? (reply :: later) = (left.refusal? later).map (Refusal.behind 1) := by
  rw [refusal?, h]

end ReplyStream

namespace Session

open Progress ReplyStream

/-! ## One cue on two streams -/

/-- The deed of serving a line. -/
def Cue.Serves (cue : Cue) : Prop :=
  ∃ line, cue = .act (.serve line)

/-- **A cue that serves no line** does the same on every stream, and leaves the stream as it is. -/
theorem play_quiet (id : SessionId) (device : Device) {cue : Cue} (h : ¬cue.Serves) :
    ∃ left events ending, replies events = [] ∧ cue.deed?.toList.filterMap Deed.line? = [] ∧
      ∀ output, cue.play id output device = { output, device := left, events, ending } := by
  cases cue with
  | read count => exact ⟨_, _, _, rfl, rfl, fun output => rfl⟩
  | interrupted kind => exact ⟨_, _, _, rfl, rfl, fun output => rfl⟩
  | act deed =>
    cases deed with
    | serve line => exact absurd ⟨line, rfl⟩ h
    | ask request => exact ⟨_, _, _, rfl, rfl, fun output => rfl⟩
    | visit other script stream => exact ⟨_, _, _, rfl, rfl, fun output => rfl⟩
  | overflow size => exact ⟨_, _, _, rfl, rfl, fun output => rfl⟩
  | hangUp dropped =>
    refine ⟨device, .read 0 :: dropNote id dropped, some .peerClosed, ?_, rfl, fun output => rfl⟩
    rw [dropNote]
    split <;> rfl
  | breakOff error => exact ⟨_, _, _, rfl, rfl, fun output => rfl⟩

/-- What is seen of a line before its reply is sent. -/
def asked (id : SessionId) (device : Device) (line : Bytes) : List Event :=
  (received id line :: (answer id device (Command.parse line)).2.2).map .effect

theorem replies_asked (id : SessionId) (device : Device) (line : Bytes) :
    replies (asked id device line) = [] := by
  rw [asked, List.map_cons]
  exact replies_notes id device (Command.parse line)

/-- A line whose reply is sent. -/
theorem play_serve_sent {output left : ReplyStream} (id : SessionId) (device : Device) {line : Bytes}
    {delivered : Bytes}
    (h : output.send (answer id device (Command.parse line)).1.render = (.ok delivered, left)) :
    (Cue.act (.serve line)).play id output device =
      { output := left, device := (answer id device (Command.parse line)).2.1,
        events := asked id device line ++ [.effect (.replied delivered)],
        ending := if Command.parse line = .quit then some .quit else none } := by
  unfold Cue.play handleLine
  simp only [h, asked, List.map_cons, List.map_append, List.map_nil, List.cons_append]
  rfl

/-- A line whose reply is refused. -/
theorem play_serve_refused {output left : ReplyStream} (id : SessionId) (device : Device) {line : Bytes}
    {error : IoError}
    (h : output.send (answer id device (Command.parse line)).1.render = (.error error, left)) :
    (Cue.act (.serve line)).play id output device =
      { output := left, device := (answer id device (Command.parse line)).2.1,
        events := asked id device line, ending := some (.failed (.write error)) } := by
  unfold Cue.play handleLine
  simp only [h]
  rfl

/-- **A line is served** in one of two ways: its reply is refused or sent, and everything else is the same. -/
theorem play_serve_cases (id : SessionId) (output : ReplyStream) (device : Device) (line : Bytes) :
    (∃ left error, (Cue.act (.serve line)).play id output device =
      { output := left, device := (answer id device (Command.parse line)).2.1,
        events := asked id device line, ending := some (.failed (.write error)) }) ∨
    ∃ left delivered, (Cue.act (.serve line)).play id output device =
      { output := left, device := (answer id device (Command.parse line)).2.1,
        events := asked id device line ++ [.effect (.replied delivered)],
        ending := if Command.parse line = .quit then some .quit else none } := by
  cases hsend : output.send (answer id device (Command.parse line)).1.render with
  | mk result left =>
    cases result with
    | error error => exact Or.inl ⟨left, error, play_serve_refused id device hsend⟩
    | ok delivered => exact Or.inr ⟨left, delivered, play_serve_sent id device hsend⟩

/-- **A cue on a healthy stream** shows the answer to what is done as its reply, and the stream stays
    healthy. -/
theorem play_healthy {steady : ReplyStream} (healthy : steady.Healthy) (id : SessionId) (device : Device)
    (cue : Cue) :
    (cue.play id steady device).output.Healthy ∧
    replies (cue.play id steady device).events
      = (course id device cue.deed?.toList).answers.map fun entry => entry.2.render := by
  by_cases hserves : cue.Serves
  · obtain ⟨line, rfl⟩ := hserves
    obtain ⟨left, hsend, hleft⟩ := healthy.send (answer id device (Command.parse line)).1.render
    rw [play_serve_sent id device hsend, replies_append, replies_asked]
    exact ⟨hleft, rfl⟩
  · obtain ⟨left, events, ending, hreplies, hlines, hplay⟩ := play_quiet id device hserves
    have hnone : (course id device cue.deed?.toList).answers = [] :=
      List.map_eq_nil_iff.1 ((answers_course id device _).trans hlines)
    rw [hplay, hnone]
    exact ⟨healthy, hreplies⟩

/-! ## Two runs side by side -/

/-- **In step**: on another stream than a healthy one the same was done and seen, and so far no reply was
    refused. -/
structure Progress.InStep (stream : ReplyStream) (whole other : Progress) : Prop where
  device : other.device = whole.device
  events : other.events = whole.events
  ending : other.ending = whole.ending
  pending : other.output.pending = []
  /-- What will be refused is up to the streams that are left. -/
  refusal : ∀ later, stream.refusal? (replies whole.events ++ later)
    = (other.output.refusal? later).map (Refusal.behind (replies whole.events).length)

/-- **Cut short**: on another stream than a healthy one a reply was refused, and that was the end. Of the
    deeds that were done on the healthy one, `cutDeeds` were done. -/
structure Progress.CutShort (stream : ReplyStream) (whole cut : Progress) (deeds cutDeeds : List Deed)
    (refusal : Refusal) : Prop where
  refused : ∀ later, stream.refusal? (replies whole.events ++ later) = some refusal
  ending : cut.ending = some (.failed (.write refusal.error))
  /-- The first thing that is not seen is the reply that was refused. -/
  events : ∃ reply after, whole.events = cut.events ++ .effect (.replied reply) :: after ∧
    refusal.taken <+: reply ∧ (refusal.atFlush = true → refusal.taken = reply)
  delivered : (replies cut.events).length = refusal.index
  pending : cut.output.pending = refusal.taken
  begins : cutDeeds <+: deeds
  /-- The last thing that was done is the line whose reply was refused. -/
  last : ∃ before line, cutDeeds = before ++ [.serve line] ∧
    (before.filterMap Deed.line?).length = refusal.index

/-- **One cue on two streams**, a healthy one and another one in which nothing waits. -/
theorem play_twice {steady stream : ReplyStream} (healthy : steady.Healthy) (hpending : stream.pending = [])
    (id : SessionId) (device : Device) (cue : Cue) :
    InStep stream (cue.play id steady device) (cue.play id stream device) ∨
    ∃ refusal, CutShort stream (cue.play id steady device) (cue.play id stream device) cue.deed?.toList
      cue.deed?.toList refusal := by
  by_cases hserves : cue.Serves
  · obtain ⟨line, rfl⟩ := hserves
    obtain ⟨calm, hsteady, -⟩ := healthy.send (answer id device (Command.parse line)).1.render
    have hwhole := play_serve_sent id device hsteady
    have hreplies : ∀ reply, replies (asked id device line ++ [.effect (.replied reply)]) = [reply] := by
      intro reply
      rw [replies_append, replies_asked]
      rfl
    obtain ⟨-, hsent⟩ := stream.send_sent (answer id device (Command.parse line)).1.render
    cases hsend : stream.send (answer id device (Command.parse line)).1.render with
    | mk result left =>
      rw [hsend] at hsent
      cases result with
      | ok delivered =>
        obtain ⟨hdelivered, hleft⟩ := hsent delivered rfl
        rw [hpending, List.nil_append] at hdelivered
        rw [hdelivered] at hsend
        refine Or.inl ?_
        rw [hwhole, play_serve_sent id device hsend]
        refine ⟨rfl, rfl, rfl, hleft, ?_⟩
        intro later
        rw [hreplies]
        exact refusal?_of_send_ok hsend later
      | error error =>
        obtain ⟨refusal, hrefused, hindex, herror, htaken, hflush, hwaits⟩ := refusal?_of_send_error hsend
        rw [hpending, List.nil_append] at hwaits
        refine Or.inr ⟨refusal, ?_⟩
        rw [hwhole, play_serve_refused id device hsend]
        refine ⟨?_, ?_, ⟨_, [], rfl, htaken, hflush⟩, ?_, hwaits, List.prefix_refl _, ⟨[], line, rfl, ?_⟩⟩
        · intro later
          rw [hreplies]
          exact hrefused later
        · rw [herror]
        · rw [replies_asked, hindex]
          rfl
        · exact hindex.symm
  · obtain ⟨left, events, ending, hreplies, -, hplay⟩ := play_quiet id device hserves
    -- nothing is sent, so both streams stay as they are
    refine Or.inl ?_
    rw [hplay steady, hplay stream]
    refine ⟨rfl, rfl, rfl, hpending, ?_⟩
    intro later
    dsimp only
    rw [hreplies, List.nil_append, List.length_nil, map_behind_zero]

section Follow

variable {id : SessionId} {steady stream : ReplyStream} {device : Device} {whole other : Progress}

/-- What is refused of two lists of replies, the first of which a stream delivers. -/
theorem Progress.InStep.refusal_append (h : InStep stream whole other) (a b : List Bytes) :
    stream.refusal? (replies whole.events ++ a ++ b)
      = (other.output.refusal? (a ++ b)).map (Refusal.behind (replies whole.events).length) := by
  rw [List.append_assoc]
  exact h.refusal (a ++ b)

/-- **In step for longer**: both runs go on from where they are, in step again. -/
theorem Progress.InStep.andThen (h : InStep stream whole other) {later others : Progress}
    (hrest : InStep other.output later others) :
    InStep stream (later.behind whole.events) (others.behind other.events) where
  device := hrest.device
  events := by rw [events_behind, events_behind, h.events, hrest.events]
  ending := hrest.ending
  pending := hrest.pending
  refusal := by
    intro next
    rw [events_behind, replies_append, h.refusal_append, hrest.refusal, Option.map_map, output_behind,
      List.length_append]
    congr 1
    funext refusal
    exact Refusal.behind_behind _ _ refusal

/-- **In step and then cut short.** -/
theorem Progress.InStep.cutShort (h : InStep stream whole other) {later cut : Progress}
    {first deeds cutDeeds : List Deed} {refusal : Refusal}
    (hlines : (first.filterMap Deed.line?).length = (replies whole.events).length)
    (hrest : CutShort other.output later cut deeds cutDeeds refusal) :
    CutShort stream (later.behind whole.events) (cut.behind other.events) (first ++ deeds) (first ++ cutDeeds)
      (refusal.behind (replies whole.events).length) where
  refused := by
    intro next
    rw [events_behind, replies_append, h.refusal_append, hrest.refused, Option.map_some]
  ending := hrest.ending
  events := by
    obtain ⟨reply, after, hevents, htaken, hflush⟩ := hrest.events
    refine ⟨reply, after, ?_, htaken, hflush⟩
    rw [events_behind, events_behind, hevents, h.events, List.append_assoc]
  delivered := by
    rw [events_behind, replies_append, List.length_append, hrest.delivered, h.events]
    rfl
  pending := hrest.pending
  begins := (List.prefix_append_right_inj first).2 hrest.begins
  last := by
    obtain ⟨before, line, hdeeds, hcount⟩ := hrest.last
    refine ⟨first ++ before, line, by rw [hdeeds, List.append_assoc], ?_⟩
    rw [List.filterMap_append, List.length_append, hlines, hcount]
    rfl

/-- **Cut short for good**: what the healthy run does behind the reply does not matter. -/
theorem Progress.CutShort.extend {cut : Progress} {deeds cutDeeds : List Deed} {refusal : Refusal}
    (h : CutShort stream whole cut deeds cutDeeds refusal) {further : Progress} {more : List Event}
    (hevents : further.events = whole.events ++ more) {longer : List Deed} (hdeeds : deeds <+: longer) :
    CutShort stream further cut longer cutDeeds refusal where
  refused := by
    intro next
    rw [hevents, replies_append, List.append_assoc]
    exact h.refused _
  ending := h.ending
  events := by
    obtain ⟨reply, after, hwhole, htaken, hflush⟩ := h.events
    refine ⟨reply, after ++ more, ?_, htaken, hflush⟩
    rw [hevents, hwhole, List.append_assoc, List.cons_append]
  delivered := h.delivered
  pending := h.pending
  begins := h.begins.trans hdeeds
  last := h.last

/-- Going on adds to what was seen. -/
theorem events_andThen (first : Progress) (next : ReplyStream → Device → Progress) :
    ∃ more, (first.andThen next).events = first.events ++ more := by
  by_cases h : first.ending = none
  · exact ⟨_, by rw [andThen_going h, events_behind]⟩
  · exact ⟨[], by rw [andThen_ended h, List.append_nil]⟩

/-- **Cues on two streams**, a healthy one and another one in which nothing waits: the two runs stay in step,
    or one of them is cut short. Induction over the cues; as long as the runs are in step they go on from the
    same device. -/
theorem follow_twice (healthy : steady.Healthy) (hpending : stream.pending = []) (id : SessionId)
    (device : Device) (cues : List Cue) :
    InStep stream (follow id steady device cues) (follow id stream device cues) ∨
    ∃ refusal, CutShort stream (follow id steady device cues) (follow id stream device cues)
      (done id steady device cues) (done id stream device cues) refusal := by
  induction cues generalizing steady stream device with
  | nil =>
    refine Or.inl ⟨rfl, rfl, rfl, hpending, ?_⟩
    intro later
    exact (map_behind_zero _).symm
  | cons cue cues ih =>
    obtain ⟨hhealthy, hreplies⟩ := play_healthy healthy id device cue
    rcases play_twice healthy hpending id device cue with hstep | ⟨refusal, hcut⟩
    -- in step both runs go on or both are over, and a run that is cut short is over
    · by_cases going : (cue.play id steady device).ending = none
      · have hgoing : (cue.play id stream device).ending = none := hstep.ending.trans going
        have hlines : (cue.deed?.toList.filterMap Deed.line?).length
            = (replies (cue.play id steady device).events).length := by
          rw [hreplies, ← answers_course id device, List.length_map, List.length_map]
        rw [follow, follow, done, done, andThen_going going, andThen_going hgoing, if_neg (by simp [going]),
          if_neg (by simp [hgoing]), hstep.device]
        rcases ih hhealthy hstep.pending (cue.play id steady device).device with hrest | ⟨refusal, hrest⟩
        · exact Or.inl (hstep.andThen hrest)
        · exact Or.inr ⟨_, hstep.cutShort hlines hrest⟩
      · have hended : (cue.play id stream device).ending ≠ none := by
          rw [hstep.ending]
          exact going
        rw [follow, follow, andThen_ended going, andThen_ended hended]
        exact Or.inl hstep
    · have hended : (cue.play id stream device).ending ≠ none := by
        rw [hcut.ending]
        exact Option.some_ne_none _
      obtain ⟨more, hmore⟩ := events_andThen (cue.play id steady device)
        fun output device => follow id output device cues
      rw [follow, follow, andThen_ended hended, done, done, if_pos (Option.isSome_iff_ne_none.2 hended)]
      refine Or.inr ⟨refusal, hcut.extend hmore ?_⟩
      split
      · exact List.prefix_refl _
      · exact List.prefix_append _ _

/-- **All replies on a healthy stream** are the answers to what is done. -/
theorem follow_replies (healthy : steady.Healthy) (id : SessionId) (device : Device) (cues : List Cue) :
    replies (follow id steady device cues).events
      = (course id device (done id steady device cues)).answers.map fun entry => entry.2.render := by
  induction cues generalizing steady device with
  | nil => rfl
  | cons cue cues ih =>
    obtain ⟨hhealthy, hreplies⟩ := play_healthy healthy id device cue
    rw [follow, done]
    by_cases going : (cue.play id steady device).ending = none
    · have hdevice := (play_done id steady device cue).1
      rw [if_neg (by simp [going]), andThen_going going, events_behind, replies_append, course_append,
        List.map_append, hreplies, ← hdevice, ih hhealthy]
    · rw [if_pos (Option.isSome_iff_ne_none.2 going), andThen_ended going]
      exact hreplies

end Follow

/-! ## Two reports -/

/-- **Unbroken**: the session went as the whole one did. -/
structure Unbroken (whole report : Report) : Prop where
  events : report.events = whole.events
  ending : report.ending = whole.ending
  device : report.device = whole.device
  unflushed : report.unflushed = []

/-- **Cut off**: session `id` ended at a reply that its stream refused, where the whole session went on. -/
structure CutOff (id : SessionId) (found : Device) (script : List Step) (whole report : Report)
    (refusal : Refusal) : Prop where
  /-- It ends with the failure of that reply, whatever the reply answered. -/
  ending : report.ending = .failed (.write refusal.error)
  /-- Up to that reply the same is seen, and then the session is closed: nothing more is read or served. -/
  events : ∃ before reply after, whole.events = before ++ .effect (.replied reply) :: after ∧
    (replies before).length = refusal.index ∧ report.events = before ++ [.effect (closing id report.ending)]
  /-- The replies before that one were delivered, and nothing else was. -/
  delivered : replies report.events = (replies whole.events).take refusal.index
  /-- Of that reply the stream holds a beginning, and all of it if the flush failed. -/
  unflushed : ∃ reply, (replies whole.events)[refusal.index]? = some reply ∧
    report.unflushed = refusal.taken ∧ refusal.taken <+: reply ∧
    (refusal.atFlush = true → refusal.taken = reply)
  /-- What was done is what the whole session did up to the request with that reply, that one included. -/
  performed : ∃ before line, executed script report = before ++ [.serve line] ∧
    before ++ [.serve line] <+: executed script whole ∧
    (before.filterMap Deed.line?).length = refusal.index
  /-- The device is what those deeds make of it, the claim given up. -/
  device : report.device = (course id found (executed script report)).device.release id

/-- The opening and the close of a session are no replies. -/
theorem replies_of_concludes {id : SessionId} {progress : Progress} {report : Report}
    (h : Concludes id (progress.behind [.effect (opened id)]) report) :
    replies report.events = replies progress.events := by
  have hclosing : replies [Event.effect (closing id report.ending)] = [] := by
    cases report.ending <;> rfl
  rw [h.events, replies_append, hclosing, List.append_nil]
  rfl

/-- A report of progress in step is unbroken. -/
theorem unbroken_of_inStep {id : SessionId} {stream : ReplyStream} {whole other : Progress}
    {wholeReport report : Report} (hwhole : Concludes id (whole.behind [.effect (opened id)]) wholeReport)
    (hother : Concludes id (other.behind [.effect (opened id)]) report) (h : InStep stream whole other) :
    Unbroken wholeReport report := by
  have hending : report.ending = wholeReport.ending := by
    have hsome := hother.ending
    rw [ending_behind, h.ending] at hsome
    exact Option.some.inj (hsome.symm.trans hwhole.ending)
  refine ⟨?_, hending, ?_, ?_⟩
  · rw [hother.events, hwhole.events, events_behind, events_behind, h.events, hending]
  · rw [hother.device, hwhole.device, device_behind, device_behind, h.device]
  · rw [hother.unflushed, output_behind, h.pending]

/-- A report of progress that was cut short is cut off. -/
theorem cutOff_of_cutShort {id : SessionId} {found : Device} {script : List Step} {stream : ReplyStream}
    {whole cut : Progress} {wholeReport report : Report} {refusal : Refusal}
    (hwhole : Concludes id (whole.behind [.effect (opened id)]) wholeReport)
    (hcut : Concludes id (cut.behind [.effect (opened id)]) report)
    (hdevice : cut.device = (course id found (executed script report)).device)
    (h : CutShort stream whole cut (executed script wholeReport) (executed script report) refusal) :
    CutOff id found script wholeReport report refusal := by
  obtain ⟨reply, after, hevents, htaken, hflush⟩ := h.events
  have hreplies : replies wholeReport.events = replies report.events ++ reply :: replies after := by
    rw [replies_of_concludes hwhole, replies_of_concludes hcut, hevents, replies_append]
    rfl
  have hlength : (replies report.events).length = refusal.index := by
    rw [replies_of_concludes hcut, h.delivered]
  refine ⟨?_, ⟨.effect (opened id) :: cut.events, reply, after ++ [.effect (closing id wholeReport.ending)],
    ?_, h.delivered, hcut.events⟩, ?_, ⟨reply, ?_, ?_, htaken, hflush⟩, ?_, ?_⟩
  · have hending := hcut.ending
    rw [ending_behind, h.ending] at hending
    exact (Option.some.inj hending).symm
  · rw [hwhole.events, events_behind, hevents]
    simp only [List.cons_append, List.nil_append, List.append_assoc]
  · rw [hreplies, ← hlength, List.take_left]
  · rw [hreplies, ← hlength, List.getElem?_append_right (Nat.le_refl _), Nat.sub_self]
    rfl
  · rw [hcut.unflushed, output_behind, h.pending]
  · obtain ⟨before, line, hdeeds, hcount⟩ := h.last
    exact ⟨before, line, hdeeds, hdeeds ▸ h.begins, hcount⟩
  · rw [hcut.device, device_behind, hdevice]

/-- **A session ends at the first reply that is refused**, and nowhere else. The whole session is served on a
    healthy stream and answers every line that it serves. Its replies, offered to a stream with any plan, tell
    whether one is refused: if none is, the session on that stream goes the same way; if one is, the session
    is cut off there. -/
theorem run_until_refused (id : SessionId) (device : Device) (script : List Step) {steady : ReplyStream}
    (healthy : steady.Healthy) (writes : List WriteResult) (flushes : List FlushResult) :
    let whole := run id steady script device
    let report := run id { writes, flushes } script device
    replies whole.events
      = (course id device (executed script whole)).answers.map (fun entry => entry.2.render) ∧
    whole.device = (course id device (executed script whole)).device.release id ∧
    (refusal? { writes, flushes } (replies whole.events) = none → Unbroken whole report) ∧
    ∀ refusal, refusal? { writes, flushes } (replies whole.events) = some refusal →
      CutOff id device script whole report refusal := by
  intro whole report
  have hwhole : Concludes id _ whole := run_concludes id steady script device
  have hreport : Concludes id _ report := run_concludes id { writes, flushes } script device
  have hreplies := follow_replies healthy id device (cues [] (reached script) ++ [lastCue [] script])
  have hpending : ({ writes, flushes } : ReplyStream).pending = [] := rfl
  have htwice := follow_twice healthy hpending id device
    (cues [] (reached script) ++ [lastCue [] script])
  have hdevice := (follow_done id { writes, flushes } device
    (cues [] (reached script) ++ [lastCue [] script])).1
  rw [← executed_run] at hreplies hdevice
  rw [← executed_run, ← executed_run] at htwice
  rw [← replies_of_concludes hwhole] at hreplies
  refine ⟨hreplies, (run_executes id steady script device).device, ?_⟩
  -- whether the runs stay in step decides whether a reply is refused, so two of the four cases cannot be
  rcases htwice with hstep | ⟨refusal, hcut⟩
  · have hnone : refusal? { writes, flushes } (replies whole.events) = none := by
      rw [replies_of_concludes hwhole, ← List.append_nil (replies _), hstep.refusal]
      rfl
    constructor
    · intro _
      exact unbroken_of_inStep hwhole hreport hstep
    · intro refusal hsome
      rw [hnone] at hsome
      cases hsome
  · have hsome : refusal? { writes, flushes } (replies whole.events) = some refusal := by
      rw [replies_of_concludes hwhole, ← List.append_nil (replies _), hcut.refused]
    constructor
    · intro hnone
      rw [hnone] at hsome
      cases hsome
    · intro other hother
      rw [hsome] at hother
      cases hother
      exact cutOff_of_cutShort hwhole hreport hdevice hcut

/-- The answer to a request to quit breaks off after four bytes, with another request waiting behind it. -/
theorem run_until_refused_quit :
    let script : List Step :=
      [.data (Bytes.ofString "WRITE ab\nREA"), .device (.claim ⟨2⟩),
       .data (Bytes.ofString "D\nQUIT\nCLEAR\n")]
    let steady : ReplyStream := { writes := [.atMost 3] }
    let writes : List WriteResult :=
      [.all, .failure (.simple .interrupted), .all, .atMost 4, .failure (.simple .brokenPipe)]
    let whole := run ⟨1⟩ steady script { capacity := 8 }
    let refusal : Refusal :=
      { index := 2, error := .simple .brokenPipe, taken := Bytes.ofString "OK: ", atFlush := false }
    steady.Healthy ∧ refusal? { writes, flushes := [] } (replies whole.events) = some refusal ∧
      CutOff ⟨1⟩ { capacity := 8 } script whole (run ⟨1⟩ { writes, flushes := [] } script { capacity := 8 })
        refusal := by
  intro script steady writes whole refusal
  have healthy : steady.Healthy := ⟨by decide, by decide, rfl⟩
  have hrefused : refusal? { writes, flushes := [] } (replies whole.events) = some refusal := by
    decide +kernel
  obtain ⟨-, -, -, hcut⟩ := run_until_refused ⟨1⟩ { capacity := 8 } script healthy writes []
  exact ⟨healthy, hrefused, hcut refusal hrefused⟩

end Session

end DeviceBroker
