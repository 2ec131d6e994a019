import DeviceBroker.Proofs.Claiming
import DeviceBroker.Proofs.Rendering
import Mathlib.Data.List.Induction

/-!
# `Proofs.Tenure` — one writer at a time

The device remembers one identity. Its clients know nothing of that: to them a session is the writer from
the moment one of its writes was taken until it is closed, which is a matter of what was said before. This
file relates the two over every interleaving of the sessions on a device.

## Contents

* `Sharing.Act`, `Sharing.replay`, `Sharing.said` — interleavings, and what is said in them.
* `Sharing.InTenure` — **the writer**, by history.
* `owner_after`, `inTenure_append` — one more step, on the device and in history.
* `inTenure_iff_owner` — **the device knows its writer.**
* `Sharing.Exclusive`, `exclusive` — what the sessions can rely on.
-/

namespace DeviceBroker

namespace Sharing

open Bytes

/-! ## Interleavings -/

/-- One step of one of the sessions that share a device. -/
inductive Act where
  /-- The session is asked something. -/
  | request (session : SessionId) (line : Bytes)
  /-- The session is closed. -/
  | close (session : SessionId) (ending : Session.Ending)
  deriving DecidableEq

/-- What a session says to a line. -/
def said (device : Device) (session : SessionId) (line : Bytes) : Bytes :=
  (Session.answer session device (Command.parse line)).1.render

/-- The device behind a step. -/
def Act.after (device : Device) : Act → Device
  | request session line => (Session.answer session device (Command.parse line)).2.1
  | close session ending => (Session.close { id := session } device ending).1

/-- **The device behind an interleaving.** -/
def replay (start : Device) (acts : List Act) : Device :=
  acts.foldl Act.after start

/-- Serving a line is one step on the device, whether its reply can be sent or not. -/
theorem device_handleLine_eq_after (session : Session) (device : Device) (line : Bytes) :
    (session.handleLine device line).device = (Act.request session.id line).after device :=
  Session.device_handleLine session device line

theorem replay_append (start : Device) (acts : List Act) (act : Act) :
    replay start (acts ++ [act]) = act.after (replay start acts) := by
  rw [replay, List.foldl_append]
  rfl

/-! ## Tenure -/

/-- A step in which a write of the session is taken. -/
def Act.Wins (device : Device) (session : SessionId) (act : Act) : Prop :=
  ∃ line, act = .request session line ∧ (Command.parse line).isWrite = true ∧
    said device session line = ofString "OK: written\n"

/-- A step that closes the session. -/
def Act.Closes (session : SessionId) (act : Act) : Prop :=
  ∃ ending, act = .close session ending

/-- **In tenure**: a write of the session was taken, and the session was not closed since. -/
def InTenure (start : Device) (acts : List Act) (session : SessionId) : Prop :=
  ∃ before act after, acts = before ++ act :: after ∧ act.Wins (replay start before) session ∧
    ∀ later ∈ after, ¬later.Closes session

/-- A write is taken where the device is free for its session, and nowhere else. -/
theorem said_written_iff {device : Device} {session : SessionId} {line : Bytes}
    (hwrite : (Command.parse line).isWrite = true) :
    said device session line = ofString "OK: written\n" ↔ device.isFreeFor session = true := by
  constructor
  · intro hsaid
    cases hfree : device.isFreeFor session with
    | true => rfl
    | false =>
      have hother : Reply.busy.render ≠ ofString "OK: written\n" := by decide
      rw [said, Session.answer_write_busy hfree hwrite] at hsaid
      exact absurd hsaid hother
  · intro hfree
    rw [said, (Session.answer_write_free hfree hwrite).1]
    rfl

/-- A write is refused everywhere else. -/
theorem said_busy_iff {device : Device} {session : SessionId} {line : Bytes}
    (hwrite : (Command.parse line).isWrite = true) :
    said device session line = ofString "ERR: device busy\n" ↔ device.isFreeFor session = false := by
  constructor
  · intro hsaid
    cases hfree : device.isFreeFor session with
    | false => rfl
    | true =>
      have hother : Reply.written.render ≠ ofString "ERR: device busy\n" := by decide
      rw [said, (Session.answer_write_free hfree hwrite).1] at hsaid
      exact absurd hsaid hother
  · intro hfree
    rw [said, Session.answer_write_busy hfree hwrite]
    rfl

/-! ## One more step -/

/-- **The owner behind a step**: the session whose write was taken in it, or the owner before, unless that
    session was closed. -/
theorem owner_after {device : Device} {act : Act} {session : SessionId} :
    (act.after device).owner = some session
      ↔ act.Wins device session ∨ (device.owner = some session ∧ ¬act.Closes session) := by
  cases act with
  | request asked line =>
    have hopen : ¬(Act.request asked line).Closes session := by
      rintro ⟨ending, heq⟩
      cases heq
    rw [Act.after, Session.owner_answer]
    constructor
    · intro howner
      split at howner
      · next htaken =>
        obtain rfl := Option.some.inj howner
        exact Or.inl ⟨line, rfl, htaken.1, (said_written_iff htaken.1).2 htaken.2⟩
      · exact Or.inr ⟨howner, hopen⟩
    · rintro (⟨line, heq, hwrite, hsaid⟩ | ⟨howner, -⟩)
      · cases heq
        exact if_pos ⟨hwrite, (said_written_iff hwrite).1 hsaid⟩
      · split
        · next htaken =>
          -- a device that is free for one session and owned by another would be owned by both
          rcases Device.isFreeFor_iff.1 htaken.2 with hnone | hasked
          · rw [howner] at hnone
            cases hnone
          · exact hasked.symm.trans howner
        · exact howner
  | close closed ending =>
    rw [Act.after, Session.close, Device.owner_release_eq_some]
    constructor
    · rintro ⟨howner, hne⟩
      refine Or.inr ⟨howner, ?_⟩
      rintro ⟨other, heq⟩
      cases heq
      exact hne rfl
    · rintro (⟨line, heq, -⟩ | ⟨howner, hopen⟩)
      · cases heq
      · refine ⟨howner, ?_⟩
        rintro rfl
        exact hopen ⟨ending, rfl⟩

/-- **Tenure behind a step**: it begins with a write that is taken and lasts until the session is closed. -/
theorem inTenure_append {start : Device} {acts : List Act} {act : Act} {session : SessionId} :
    InTenure start (acts ++ [act]) session
      ↔ act.Wins (replay start acts) session ∨ (InTenure start acts session ∧ ¬act.Closes session) := by
  constructor
  · rintro ⟨before, won, after, hacts, hwins, hopen⟩
    -- the write that was taken is the last step, or the last step came after it
    cases after using List.reverseRecOn with
    | nil =>
      obtain ⟨rfl, hlast⟩ := List.append_inj' hacts rfl
      cases hlast
      exact Or.inl hwins
    | append_singleton after last =>
      rw [← List.cons_append, ← List.append_assoc] at hacts
      obtain ⟨rfl, hlast⟩ := List.append_inj' hacts rfl
      cases hlast
      refine Or.inr ⟨⟨before, won, after, rfl, hwins, ?_⟩, hopen act (by simp)⟩
      intro later hlater
      exact hopen later (List.mem_append_left _ hlater)
  · rintro (hwins | ⟨⟨before, won, after, rfl, hwins, hopen⟩, hact⟩)
    · exact ⟨acts, act, [], rfl, hwins, by simp⟩
    · refine ⟨before, won, after ++ [act], by simp, hwins, ?_⟩
      intro later hlater
      rcases List.mem_append.1 hlater with hbefore | hlast
      · exact hopen later hbefore
      · obtain rfl := List.mem_singleton.1 hlast
        exact hact

/-- **The device knows its writer.** Induction over the interleaving from its end: both sides change in the
    same way with every step. -/
theorem inTenure_iff_owner {start : Device} (unclaimed : start.owner = none) (acts : List Act)
    (session : SessionId) :
    InTenure start acts session ↔ (replay start acts).owner = some session := by
  induction acts using List.reverseRecOn with
  | nil =>
    constructor
    · rintro ⟨before, act, after, hacts, -⟩
      exact absurd hacts (by simp)
    · intro howner
      rw [replay, List.foldl_nil, unclaimed] at howner
      cases howner
  | append_singleton acts act ih => rw [inTenure_append, replay_append, owner_after, ih]

/-! ## What the sessions can rely on -/

/-- What a status says of a device with this many bytes. -/
def statusText (length : Nat) (writer : String) : Bytes :=
  ofString s!"BUF_LEN={length}, WRITER={writer}\n"

/-- The two words for whether there is a writer are told apart on the wire. -/
theorem statusText_writerWord (length : Nat) {a b : Bool} :
    statusText length (Reply.writerWord a) = statusText length (Reply.writerWord b) ↔ a = b := by
  constructor
  · intro heq
    have hstatus : ({ length, writerActive := a } : Device.Status) = { length, writerActive := b } :=
      Reply.render_status_injective heq
    exact congrArg Device.Status.writerActive hstatus
  · rintro rfl
    rfl

/-- **A status** tells whether there is an owner. -/
theorem said_status_iff (device : Device) (session : SessionId) {line : Bytes}
    (hstatus : Command.parse line = .status) (active : Bool) :
    said device session line = statusText device.buffer.length (Reply.writerWord active)
      ↔ device.owner.isSome = active := by
  have hsaid : said device session line
      = statusText device.buffer.length (Reply.writerWord device.owner.isSome) := by
    rw [said, hstatus]
    rfl
  rw [hsaid, statusText_writerWord]

/-- **Exclusive writing**: what is said behind an interleaving, and what the next step does to a tenure. -/
structure Exclusive (start : Device) (acts : List Act) : Prop where
  /-- The session in tenure is the owner that the device knows. -/
  owner : ∀ session, InTenure start acts session ↔ (replay start acts).owner = some session
  /-- No two sessions are in tenure. -/
  single : ∀ session other, InTenure start acts session → InTenure start acts other → session = other
  /-- A status says that the writer is active if and only if a session is in tenure. -/
  active : ∀ session line, Command.parse line = .status →
    (said (replay start acts) session line = statusText (replay start acts).buffer.length "active"
      ↔ ∃ writer, InTenure start acts writer)
  /-- It says that there is none if and only if no session is. -/
  inactive : ∀ session line, Command.parse line = .status →
    (said (replay start acts) session line = statusText (replay start acts).buffer.length "none"
      ↔ ¬∃ writer, InTenure start acts writer)
  /-- A write is refused if and only if another session is in tenure. -/
  busy : ∀ session line, (Command.parse line).isWrite = true →
    (said (replay start acts) session line = ofString "ERR: device busy\n"
      ↔ ∃ other, other ≠ session ∧ InTenure start acts other)
  /-- A write that is refused changes nothing. -/
  unchanged : ∀ session line, (Command.parse line).isWrite = true →
    said (replay start acts) session line = ofString "ERR: device busy\n" →
    replay start (acts ++ [.request session line]) = replay start acts
  /-- A write is taken if its session is in tenure or none is. -/
  written : ∀ session line, (Command.parse line).isWrite = true →
    (InTenure start acts session ∨ ¬∃ writer, InTenure start acts writer) →
    said (replay start acts) session line = ofString "OK: written\n"
  /-- Nothing but the close of the session ends its tenure. -/
  lasting : ∀ session act, InTenure start acts session → ¬act.Closes session →
    InTenure start (acts ++ [act]) session ∧ (replay start (acts ++ [act])).owner = some session
  /-- The close of the session ends it. -/
  ended : ∀ session ending, ¬InTenure start (acts ++ [.close session ending]) session

/-- **One writer at a time.** On a device that was unclaimed at first, whatever its sessions do. -/
theorem exclusive {start : Device} (unclaimed : start.owner = none) (acts : List Act) :
    Exclusive start acts := by
  have howner := inTenure_iff_owner unclaimed acts
  have hsome : (∃ writer, InTenure start acts writer) ↔ (replay start acts).owner.isSome = true := by
    simp only [howner, Option.isSome_iff_exists]
  -- history is said in terms of the device, and then each part is about one command on it
  have hbusy : ∀ session, (∃ other, other ≠ session ∧ InTenure start acts other)
      ↔ (replay start acts).isFreeFor session = false := by
    intro session
    simp only [howner, Device.isFreeFor_eq_false_iff]
  refine ⟨howner, ?_, ?_, ?_, ?_, ?_, ?_, ?_, ?_⟩
  · intro session other hsession hother
    exact Option.some.inj (((howner session).1 hsession).symm.trans ((howner other).1 hother))
  · intro session line hstatus
    rw [hsome]
    exact said_status_iff _ session hstatus true
  · intro session line hstatus
    rw [hsome, Bool.not_eq_true]
    exact said_status_iff _ session hstatus false
  · intro session line hwrite
    rw [said_busy_iff hwrite, hbusy]
  · intro session line hwrite hsaid
    rw [replay_append, Act.after, Session.answer_write_busy ((said_busy_iff hwrite).1 hsaid) hwrite]
  · intro session line hwrite hfree
    rw [said_written_iff hwrite, Device.isFreeFor_iff]
    rcases hfree with hsession | hnobody
    · exact Or.inr ((howner session).1 hsession)
    · rw [hsome] at hnobody
      exact Or.inl (by simpa using hnobody)
  · intro session act hsession hopen
    have hlasting : InTenure start (acts ++ [act]) session := inTenure_append.2 (Or.inr ⟨hsession, hopen⟩)
    exact ⟨hlasting, (inTenure_iff_owner unclaimed _ session).1 hlasting⟩
  · intro session ending hsession
    rcases inTenure_append.1 hsession with ⟨line, heq, -⟩ | ⟨-, hopen⟩
    · cases heq
    · exact hopen ⟨ending, rfl⟩

/-- A write that is taken, one that is refused, and a close that lets the third one in. -/
theorem exclusive_handover :
    let start : Device := { capacity := 8 }
    let acts : List Act :=
      [.request ⟨1⟩ (ofString "WRITE ab"), .request ⟨2⟩ (ofString "WRITE cd"),
       .request ⟨2⟩ (ofString "CLEAR"), .close ⟨1⟩ .peerClosed, .request ⟨3⟩ (ofString "write ef")]
    start.owner = none ∧ Exclusive start acts ∧ InTenure start acts ⟨3⟩ := by
  intro start acts
  have hexclusive : Exclusive start acts := exclusive rfl acts
  exact ⟨rfl, hexclusive, (hexclusive.owner ⟨3⟩).2 (by decide)⟩

end Sharing

end DeviceBroker
