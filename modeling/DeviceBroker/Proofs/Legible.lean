import DeviceBroker.Proofs.Claiming
import DeviceBroker.Proofs.Deeds
import DeviceBroker.Proofs.Events
import DeviceBroker.Proofs.Lines
import DeviceBroker.Proofs.Rendering
import DeviceBroker.Proofs.Sending

/-!
# `Proofs.Legible` — a reply tells which reply it is

No newline gets into the buffer of a device that only sessions use. The cut into lines takes the newlines
off, a payload is the end of a line, and what is stored is the beginning of a payload; so the contents never
look like a line, and all other replies do. The invariant behind this is about every thread at once: each may
be anywhere in its stream, and each may store something next.

## Contents

* `Command.parse_write` — a payload is the end of its line.
* `Session.clean_answer`, `Session.legible_answer` — **every command**, by what it stores and what it says.
* `Session.Ready`, `Session.Ready.handleLine` — sessions between two lines.
* `Worker.Ready`, `Worker.CleanDeed`, `Performs.clean` — **every deed of a thread.**
* `Service.Clean`, `Clean.step`, `Clean.replay` — **the invariant**, one move and all of them.
* `Service.Answers`, `Service.Telling`, `replies_tell` — **what the clients can rely on.**
-/

namespace DeviceBroker

open Bytes

/-! ## Commands -/

/-- No word is a write. -/
theorem Command.ofWord?_ne_write {line text : Bytes} : ofWord? line ≠ some (.write text) := by
  intro h
  obtain ⟨entry, hfound, hwrite⟩ := Option.map_eq_some_iff.1 h
  have hwords : ∀ entry ∈ words, entry.2.isWrite = false := by decide
  have hentry := hwords entry (List.mem_of_find?_eq_some hfound)
  rw [hwrite] at hentry
  cases hentry

/-- **The payload of a write** is the end of its line. -/
theorem Command.parse_write {line text : Bytes} (h : parse line = .write text) : text <:+ line := by
  unfold parse at h
  split at h
  · next payload hpayload =>
    cases h
    unfold payload? at hpayload
    split at hpayload
    · cases hpayload
      exact List.drop_suffix _ line
    · cases hpayload
  · split at h
    · next command hword =>
      subst h
      exact absurd hword ofWord?_ne_write
    · cases h

namespace Session

/-- **A line without a newline** stores none. -/
theorem clean_answer (id : SessionId) {device : Device} (hbuffer : newline ∉ device.buffer) {line : Bytes}
    (hline : newline ∉ line) : newline ∉ (answer id device (Command.parse line)).2.1.buffer := by
  cases hcommand : Command.parse line with
  | write text =>
    cases hfree : device.isFreeFor id with
    | true =>
      obtain ⟨stored, hwrite⟩ := device.write_free hfree text
      rw [answer, hwrite]
      -- what was stored before, and then a part of the line
      intro hmem
      rcases List.mem_append.1 hmem with hbefore | hstored
      · exact hbuffer hbefore
      · exact hline ((Command.parse_write hcommand).mem (List.mem_of_mem_take hstored))
    | false =>
      rw [answer_write_busy hfree rfl]
      exact hbuffer
  | clear => exact List.not_mem_nil
  | read => exact hbuffer
  | status => exact hbuffer
  | quit => exact hbuffer
  | unknown text => exact hbuffer

/-- **Only a read** says what the buffer holds. -/
theorem kind_answer (id : SessionId) (device : Device) {command : Command} (h : command ≠ .read) :
    (answer id device command).1.kind ≠ .contents := by
  cases command with
  | write text =>
    cases hfree : device.isFreeFor id with
    | true =>
      rw [(answer_write_free hfree rfl).1]
      exact nofun
    | false =>
      rw [answer_write_busy hfree rfl]
      exact nofun
  | read => exact absurd rfl h
  | clear => exact nofun
  | status => exact nofun
  | quit => exact nofun
  | unknown text => exact nofun

/-- **Every answer is legible** while no newline is stored. -/
theorem legible_answer (id : SessionId) {device : Device} (hbuffer : newline ∉ device.buffer)
    (command : Command) : (answer id device command).1.Legible := by
  by_cases hread : command = .read
  · subst hread
    exact Reply.legible_ofContents hbuffer
  · exact Reply.legible_of_kind (kind_answer id device hread)

/-! ## Sessions -/

/-- **A ready session** has cut its stream soundly so far, and no bytes of an earlier reply wait in its
    stream. -/
structure Ready (session : Session) : Prop where
  input : session.input.Sound
  output : session.output.pending = []

/-- **A line delivers** its reply and nothing else, and the session is ready for the next one; or it delivers
    nothing, and the session is over. -/
theorem Ready.handleLine {session : Session} (h : session.Ready) (device : Device) (line : Bytes) :
    ((session.handleLine device line).effects.flatMap Effect.bytes
        = (answer session.id device (Command.parse line)).1.render ∧
      (session.handleLine device line).session.Ready) ∨
    ((session.handleLine device line).effects.flatMap Effect.bytes = [] ∧
      (session.handleLine device line).ending ≠ none) := by
  have hnotes := bytes_notes session.id device (Command.parse line)
  have hsent := (session.output.send_sent (answer session.id device (Command.parse line)).1.render).2
  unfold Session.handleLine
  dsimp only
  generalize answer session.id device (Command.parse line) = answered at hnotes hsent ⊢
  obtain ⟨reply, left, notes⟩ := answered
  dsimp only at hnotes hsent ⊢
  generalize session.output.send reply.render = sent at hsent ⊢
  obtain ⟨result, output⟩ := sent
  cases result with
  | error source =>
    refine Or.inr ⟨?_, nofun⟩
    rw [List.flatMap_cons, hnotes]
    rfl
  | ok delivered =>
    obtain ⟨hdelivered, hpending⟩ := hsent delivered rfl
    -- nothing waited in the stream, so what is delivered is the reply alone
    rw [h.output, List.nil_append] at hdelivered
    refine Or.inl ⟨?_, h.input, hpending⟩
    rw [List.flatMap_cons, List.flatMap_append, hnotes, hdelivered]
    exact List.append_nil reply.render

end Session

/-! ## Threads -/

namespace Worker

/-- The session that still goes on at a phase. -/
def Phase.open? : Phase → Option Session
  | reading session | serving session => some session
  | handed | ended .. | released _ | finished _ => none

/-- **A ready thread** has a session that is ready, if it has one that goes on. -/
def Ready (worker : Worker) : Prop :=
  ∀ session, worker.phase.open? = some session → session.Ready

/-- **The answer** that a thread is about to give to its next line, and the command on that line. -/
def Answers (worker : Worker) (device : Device) (command : Command) (reply : Reply) : Prop :=
  ∃ session line input, worker.phase = .serving session ∧ session.input.pop? = (some line, input) ∧
    Command.parse line = command ∧ (Session.answer session.id device command).1 = reply

/-- **A clean deed** stores no newline and leaves its thread ready, and all that it sends is the answer that
    the thread was about to give. -/
structure CleanDeed (worker : Worker) (device : Device) (outcome : Outcome) : Prop where
  buffer : newline ∉ outcome.device.buffer
  ready : outcome.worker.Ready
  replies : outcome.worker.replies = worker.replies ∨
    ∃ command reply, worker.Answers device command reply ∧
      outcome.worker.replies = worker.replies ++ reply.render

section CleanDeed

variable {worker : Worker} {session : Session} {device : Device} {registry : Registry}

theorem ready_of_phase (hphase : worker.phase.open? = some session) (h : session.Ready) : worker.Ready := by
  intro other hother
  obtain rfl := Option.some.inj (hphase.symm.trans hother)
  exact h

theorem ready_of_closed (hphase : worker.phase.open? = none) : worker.Ready := by
  intro session hsession
  rw [hphase] at hsession
  cases hsession

/-- A turn that delivers nothing and ends the session is clean. -/
theorem cleanDeed_over {turn : Session.Turn} (hbuffer : newline ∉ turn.device.buffer)
    (hbytes : turn.effects.flatMap Session.Effect.bytes = []) (hover : turn.ending ≠ none) :
    CleanDeed worker device (worker.afterTurn turn registry) where
  buffer := hbuffer
  ready := by
    cases hending : turn.ending with
    | none => exact absurd hending hover
    | some ending =>
      apply ready_of_closed
      simp only [afterTurn, hending]
      rfl
  replies := by
    refine Or.inl ?_
    show worker.replies ++ turn.effects.flatMap Session.Effect.bytes = worker.replies
    rw [hbytes, List.append_nil]

/-- A turn that delivers the answer to the next line is clean. -/
theorem cleanDeed_answered {turn : Session.Turn} {command : Command} {reply : Reply}
    (hbuffer : newline ∉ turn.device.buffer) (hready : turn.session.Ready)
    (hanswer : worker.Answers device command reply)
    (hbytes : turn.effects.flatMap Session.Effect.bytes = reply.render) :
    CleanDeed worker device (worker.afterTurn turn registry) where
  buffer := hbuffer
  ready := by
    cases hending : turn.ending with
    | none =>
      refine ready_of_phase ?_ hready
      simp only [afterTurn, hending]
      rfl
    | some ending =>
      apply ready_of_closed
      simp only [afterTurn, hending]
      rfl
  replies := Or.inr ⟨command, reply, hanswer, congrArg (worker.replies ++ ·) hbytes⟩

/-- **Serving the next line** is clean, and so is finding that there is none. -/
theorem serveNext_clean (hphase : worker.phase = .serving session) (h : session.Ready)
    (hbuffer : newline ∉ device.buffer) (writes : List WriteResult) (flushes : List FlushResult) :
    CleanDeed worker device
      (worker.serveNext { session with output := { session.output with writes, flushes } } device
        registry) := by
  obtain ⟨hline, hrest⟩ := h.input.popped
  unfold serveNext
  dsimp only
  cases hpop : session.input.pop? with
  | mk line? input =>
    rw [hpop] at hline hrest
    let next : Session := { session with input, output := { session.output with writes, flushes } }
    have hnext : next.Ready := ⟨hrest, h.output⟩
    cases line? with
    | some line =>
      have hstored : newline ∉ (Session.handleLine next device line).device.buffer := by
        rw [Session.device_handleLine]
        exact Session.clean_answer session.id hbuffer (hline line rfl)
      -- the reply is delivered, or it is not and the session is over
      rcases hnext.handleLine device line with ⟨hbytes, hready⟩ | ⟨hbytes, hover⟩
      · exact cleanDeed_answered hstored hready ⟨session, line, input, hphase, hpop, rfl, rfl⟩ hbytes
      · exact cleanDeed_over hstored hbytes hover
    | none =>
      -- without a line nothing is done, but what waits may be too long to go on
      refine ⟨hbuffer, ?_, Or.inl rfl⟩
      by_cases hlong : input.isOverlong = true
      · apply ready_of_closed
        simp only [hlong]
        rfl
      · refine ready_of_phase ?_ hnext
        simp only [hlong]
        rfl

end CleanDeed

/-- **Every deed of a ready thread is clean.** -/
theorem Performs.clean {worker : Worker} {index : Nat} {device : Device} {registry : Registry} {deed : Deed}
    {outcome : Outcome} (h : Performs worker index device registry deed outcome) (ready : worker.Ready)
    (hbuffer : newline ∉ device.buffer) : CleanDeed worker device outcome := by
  cases h with
  | register obstacle hphase =>
    exact ⟨hbuffer, ready_of_phase rfl ⟨LineBuffer.sound_unsearched [], rfl⟩, Or.inl rfl⟩
  | deliver session bytes hphase hsome hshort =>
    have hready : session.Ready := ready session (by rw [hphase]; rfl)
    exact ⟨hbuffer, ready_of_phase rfl ⟨hready.input.push bytes, hready.output⟩, Or.inl rfl⟩
  | hangUp session hphase =>
    refine cleanDeed_over hbuffer ?_ nofun
    unfold Session.endOfStream
    dsimp only
    split <;> rfl
  | breakOff session error hphase hinterrupted => exact cleanDeed_over hbuffer rfl nofun
  | serve session writes flushes hphase =>
    have hready : session.Ready := ready session (by rw [hphase]; rfl)
    exact serveNext_clean hphase hready hbuffer writes flushes
  | release session ending hphase =>
    refine ⟨?_, ready_of_closed rfl, Or.inl rfl⟩
    show newline ∉ (device.release session.id).buffer
    rw [Device.release_eq]
    exact hbuffer
  | deregister id hphase => exact ⟨hbuffer, ready_of_closed rfl, Or.inl rfl⟩

end Worker

/-! ## Services -/

namespace Service

/-- **A clean service** has stored no newline, and its threads are ready. -/
structure Clean (service : Service) : Prop where
  buffer : newline ∉ service.device.buffer
  workers : ∀ worker ∈ service.workers, worker.Ready

theorem clean_start {device : Device} (h : newline ∉ device.buffer) : ({ device } : Service).Clean where
  buffer := h
  workers _ hworker := absurd hworker List.not_mem_nil

/-- **A deed** in a clean service is clean, and it is the deed of one thread. -/
theorem Clean.deed {service next : Service} (h : service.Clean) {index : Nat} {deed : Worker.Deed}
    {log : List LogRecord} (hwork : service.work? index deed = some (next, log)) :
    ∃ worker outcome, service.workers[index]? = some worker ∧ Worker.CleanDeed worker service.device outcome ∧
      next = { device := outcome.device, registry := outcome.registry,
               workers := service.workers.set index outcome.worker } := by
  obtain ⟨worker, outcome, hworker, hperforms, rfl, -⟩ := work?_eq_some hwork
  have hready : worker.Ready := h.workers worker (List.mem_of_getElem? hworker)
  exact ⟨worker, outcome, hworker, hperforms.clean hready h.buffer, rfl⟩

/-- **One move** keeps a service clean: one case for each kind of move. -/
theorem Clean.step {service next : Service} (h : service.Clean) {move : Move}
    (hstep : service.step? move = some next) : next.Clean := by
  cases move with
  | hand connection =>
    obtain rfl := Option.some.inj hstep
    refine ⟨h.buffer, ?_⟩
    intro worker hworker
    rcases List.mem_append.1 hworker with hbefore | hnew
    · exact h.workers worker hbefore
    · obtain rfl := List.mem_singleton.1 hnew
      exact Worker.ready_of_closed rfl
  | cancelAll =>
    obtain rfl := Option.some.inj hstep
    refine ⟨h.buffer, ?_⟩
    intro worker hworker
    obtain ⟨index, hlt, rfl⟩ := List.mem_mapIdx.1 hworker
    -- a cancelled thread is where it was
    have hready := h.workers _ (List.getElem_mem hlt)
    split
    · exact hready
    · exact hready
  | allocate =>
    obtain rfl := Option.some.inj hstep
    exact ⟨h.buffer, h.workers⟩
  | work index deed =>
    obtain ⟨⟨reached, log⟩, hwork, rfl⟩ := Option.map_eq_some_iff.1 hstep
    obtain ⟨worker, outcome, -, hclean, rfl⟩ := h.deed hwork
    refine ⟨hclean.buffer, ?_⟩
    intro other hother
    rcases List.mem_or_eq_of_mem_set hother with hbefore | rfl
    · exact h.workers other hbefore
    · exact hclean.ready

/-- **All moves** keep it clean. Induction over the interleaving. -/
theorem Clean.replay {moves : List Move} {service next : Service} (h : service.Clean)
    (hreplay : service.replay? moves = some next) : next.Clean := by
  induction moves generalizing service with
  | nil =>
    obtain rfl := Option.some.inj hreplay
    exact h
  | cons move moves ih =>
    obtain ⟨middle, hstep, hrest⟩ := Option.bind_eq_some_iff.1 hreplay
    exact ih (h.step hstep) hrest

/-! ## What the clients can rely on -/

/-- The answer that one of the threads is about to give, and the command that it gives it to. -/
def Answers (service : Service) (index : Nat) (command : Command) (reply : Reply) : Prop :=
  ∃ worker, service.workers[index]? = some worker ∧ worker.Answers service.device command reply

/-- **Telling**: what the threads of a service may answer next, and what they send. -/
structure Telling (service : Service) : Prop where
  /-- No newline is stored. -/
  buffer : newline ∉ service.device.buffer
  /-- Every answer is legible. -/
  legible : ∀ index command reply, service.Answers index command reply → reply.Legible
  /-- A read is told that the buffer is empty if and only if it is. -/
  empty : ∀ index reply, service.Answers index .read reply →
    (reply.render = ofString "(empty)\n" ↔ service.device.buffer = [])
  /-- Otherwise it is told what the buffer holds, byte for byte and without a newline. -/
  contents : ∀ index reply, service.Answers index .read reply → service.device.buffer ≠ [] →
    reply = .payload service.device.buffer ∧ reply.render = service.device.buffer
  /-- The answer to anything else is a line. -/
  line : ∀ index command reply, service.Answers index command reply → command ≠ .read → IsLine reply.render
  /-- A deed sends the answer that its thread was about to give, or nothing. -/
  sent : ∀ index deed next log, service.work? index deed = some (next, log) →
    ∃ before after : Worker, service.workers[index]? = some before ∧ next.workers[index]? = some after ∧
      (after.replies = before.replies ∨
        ∃ command reply, service.Answers index command reply ∧ after.replies = before.replies ++ reply.render)

theorem answers_read {service : Service} {index : Nat} {reply : Reply}
    (h : service.Answers index .read reply) : reply = .ofContents service.device.buffer := by
  obtain ⟨worker, -, session, line, input, -, -, -, rfl⟩ := h
  rfl

/-- A clean service is telling. -/
theorem Clean.telling {service : Service} (h : service.Clean) : service.Telling where
  buffer := h.buffer
  legible := by
    rintro index command reply ⟨worker, -, session, line, input, -, -, -, rfl⟩
    exact Session.legible_answer session.id h.buffer command
  empty := by
    intro index reply hanswer
    obtain rfl := answers_read hanswer
    constructor
    · intro hrender
      have hempty : Reply.ofContents service.device.buffer = .empty :=
        Reply.render_injective (Reply.legible_ofContents h.buffer) trivial hrender
      cases hbuffer : service.device.buffer with
      | nil => rfl
      | cons b bytes =>
        rw [hbuffer] at hempty
        cases hempty
    · intro hbuffer
      rw [hbuffer]
      rfl
  contents := by
    intro index reply hanswer hbuffer
    obtain rfl := answers_read hanswer
    have hpayload : Reply.ofContents service.device.buffer = .payload service.device.buffer :=
      if_neg (by simpa using hbuffer)
    rw [hpayload]
    exact ⟨rfl, rfl⟩
  line := by
    rintro index command reply ⟨worker, -, session, line, input, -, -, -, rfl⟩ hread
    exact Reply.isLine_render (Session.kind_answer session.id service.device hread)
  sent := by
    intro index deed next log hwork
    obtain ⟨worker, outcome, hworker, hclean, rfl⟩ := h.deed hwork
    obtain ⟨hlt, -⟩ := List.getElem?_eq_some_iff.1 hworker
    refine ⟨worker, outcome.worker, hworker, List.getElem?_set_self hlt, ?_⟩
    rcases hclean.replies with hsame | ⟨command, reply, hanswer, hreplies⟩
    · exact Or.inl hsame
    · exact Or.inr ⟨command, reply, ⟨worker, hworker, hanswer⟩, hreplies⟩

/-- **A reply tells which reply it is.** Legible replies differ in their bytes, and on a device that held no
    newline at first every interleaving of its sessions leads to legible replies only. -/
theorem replies_tell {start : Device} (h : newline ∉ start.buffer) :
    (∀ a b : Reply, a.Legible → b.Legible → (a.render = b.render ↔ a = b)) ∧
    ∀ (moves : List Move) (service : Service), ({ device := start } : Service).replay? moves = some service →
      service.Telling := by
  constructor
  · intro a b ha hb
    constructor
    · exact Reply.render_injective ha hb
    · exact congrArg Reply.render
  · intro moves service hreplay
    exact ((clean_start h).replay hreplay).telling

/-- A session that has stored the text of another reply, and is about to read it back. -/
theorem replies_tell_spelled :
    let moves : List Move :=
      [.hand 0, .work 0 (.register none), .work 0 (.deliver (ofString "WRITE OK: bye\nRE")),
       .work 0 (.serve [] []), .work 0 (.serve [] []), .work 0 (.deliver (ofString "AD\n"))]
    newline ∉ ({ capacity := 32 } : Device).buffer ∧
      ∃ service, ({ device := { capacity := 32 } } : Service).replay? moves = some service ∧
        service.Telling ∧ service.Answers 0 .read (.payload (ofString "OK: bye")) ∧
        (Reply.payload (ofString "OK: bye")).render ≠ Reply.bye.render := by
  intro moves
  have hclean : newline ∉ ({ capacity := 32 } : Device).buffer := List.not_mem_nil
  obtain ⟨hdistinct, htelling⟩ := replies_tell hclean
  let session : Session := { id := ⟨1⟩, input := { pending := ofString "READ\n", searched := 2 } }
  let worker : Worker := { connection := 0, phase := .serving session, replies := ofString "OK: written\n" }
  have hall : (({ device := { capacity := 32 } } : Service).replay? moves).map
      (fun service => (service.device.buffer, service.workers[0]?))
        = some (ofString "OK: bye", some worker) := by decide
  obtain ⟨service, hreplay, hservice⟩ := Option.map_eq_some_iff.1 hall
  obtain ⟨hbuffer, hworker⟩ := Prod.mk.inj hservice
  have hanswer : (Session.answer session.id service.device .read).1 = .payload (ofString "OK: bye") := by
    rw [Session.answer, hbuffer]
    rfl
  refine ⟨hclean, service, hreplay, htelling moves service hreplay, ?_, ?_⟩
  · exact ⟨worker, hworker, session, ofString "READ", {}, rfl, by decide, by decide, hanswer⟩
  · intro hrender
    have hpayload : (Reply.payload (ofString "OK: bye")).Legible := ⟨by decide, by decide⟩
    cases (hdistinct _ .bye hpayload trivial).1 hrender

end Service

end DeviceBroker
