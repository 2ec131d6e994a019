import DeviceBroker.Proofs.Tenure

/-!
# `Proofs.Onlooker` — sessions that make no difference

A session may ask, and be refused, and go, without anybody else noticing. All that it takes is that it never
holds the claim and never empties the buffer: every other command leaves the device as it is, and so do a
write that is refused and the close of a session that holds nothing. Deleting such a session from an
interleaving is then a matter of deleting steps that do nothing.

## Contents

* `Sharing.Saying`, `Sharing.transcript` — what is said in an interleaving, by whom and to what.
* `Sharing.Onlooker` — a session that neither wins the claim nor clears.
* `Onlooker.still`, `Onlooker.tail` — one step of an onlooker, and one step of anybody.
* `without_onlooker` — **an onlooker makes no difference.**
-/

namespace DeviceBroker

namespace Sharing

open Bytes

/-! ## What is said -/

/-- The session that takes a step. -/
def Act.session : Act → SessionId
  | request session _ => session
  | close session _ => session

/-- A line of a session and the reply to it. -/
structure Saying where
  session : SessionId
  line : Bytes
  reply : Bytes
  deriving Repr, DecidableEq

/-- What is said in a step. -/
def Act.saying? (device : Device) : Act → Option Saying
  | request session line => some { session, line, reply := said device session line }
  | close .. => none

/-- **Everything that is said** in an interleaving, in order. -/
def transcript (device : Device) : List Act → List Saying
  | [] => []
  | act :: acts => (act.saying? device).toList ++ transcript (act.after device) acts

/-- Who takes a step says what is said in it. -/
theorem session_of_saying? {device : Device} {act : Act} {saying : Saying}
    (h : act.saying? device = some saying) : saying.session = act.session := by
  cases act with
  | request session line =>
    cases h
    rfl
  | close session ending => cases h

/-! ## Onlookers -/

/-- **An onlooker** does not own the device at first, none of its writes is taken, and it never asks to empty
    the buffer. -/
structure Onlooker (start : Device) (acts : List Act) (session : SessionId) : Prop where
  unowned : start.owner ≠ some session
  refused : ∀ saying ∈ transcript start acts, saying.session = session →
    (Command.parse saying.line).isWrite = true → saying.reply ≠ ofString "OK: written\n"
  clearless : ∀ saying ∈ transcript start acts, saying.session = session →
    Command.parse saying.line ≠ .clear

section Onlooker

variable {start : Device} {act : Act} {acts : List Act} {session : SessionId}

/-- An onlooker does not win the claim in the first step. -/
theorem Onlooker.not_wins (h : Onlooker start (act :: acts) session) : ¬act.Wins start session := by
  rintro ⟨line, rfl, hwrite, hsaid⟩
  exact h.refused _ List.mem_cons_self rfl hwrite hsaid

/-- **A step of an onlooker** leaves the device as it is. -/
theorem Onlooker.still (h : Onlooker start (act :: acts) session) (hact : act.session = session) :
    act.after start = start := by
  subst hact
  cases act with
  | request session line =>
    cases hwrite : (Command.parse line).isWrite with
    | true =>
      have hbusy : start.isFreeFor session = false := by
        cases hfree : start.isFreeFor session with
        | false => rfl
        | true => exact absurd ⟨line, rfl, hwrite, (said_written_iff hwrite).2 hfree⟩ h.not_wins
      rw [Act.after, Session.answer_write_busy hbusy hwrite]
    | false => exact Session.answer_still session start hwrite (h.clearless _ List.mem_cons_self rfl)
  | close session ending => exact Device.release_of_ne h.unowned

/-- **Behind any step** an onlooker is still one. -/
theorem Onlooker.tail (h : Onlooker start (act :: acts) session) :
    Onlooker (act.after start) acts session where
  unowned := by
    intro howner
    rcases owner_after.1 howner with hwins | ⟨hstart, -⟩
    · exact h.not_wins hwins
    · exact h.unowned hstart
  refused saying hsaying := h.refused saying (List.mem_append_right _ hsaying)
  clearless saying hsaying := h.clearless saying (List.mem_append_right _ hsaying)

end Onlooker

/-- **An onlooker makes no difference.** Without its steps everybody else is told the same, and the device is
    the same in the end. -/
theorem without_onlooker {start : Device} {acts : List Act} {session : SessionId}
    (h : Onlooker start acts session) :
    transcript start (acts.filter fun act => act.session ≠ session)
      = (transcript start acts).filter (fun saying => saying.session ≠ session) ∧
    replay start (acts.filter fun act => act.session ≠ session) = replay start acts := by
  induction acts generalizing start with
  | nil => exact ⟨rfl, rfl⟩
  | cons act acts ih =>
    obtain ⟨htranscript, hreplay⟩ := ih h.tail
    rw [transcript, List.filter_append, ← htranscript]
    by_cases hact : act.session = session
    · have hsilent : (act.saying? start).toList.filter (fun saying => saying.session ≠ session) = [] := by
        rw [List.filter_eq_nil_iff]
        intro saying hsaying
        have hsession := session_of_saying? (Option.mem_toList.1 hsaying)
        simp [hsession, hact]
      rw [List.filter_cons_of_neg (by simp [hact]), hsilent, List.nil_append]
      rw [h.still hact] at hreplay ⊢
      refine ⟨rfl, ?_⟩
      rw [hreplay, replay, replay, List.foldl_cons, h.still hact]
    · have hheard : (act.saying? start).toList.filter (fun saying => saying.session ≠ session)
          = (act.saying? start).toList := by
        rw [List.filter_eq_self]
        intro saying hsaying
        have hsession := session_of_saying? (Option.mem_toList.1 hsaying)
        simp [hsession, hact]
      rw [List.filter_cons_of_pos (by simp [hact]), transcript, hheard]
      exact ⟨rfl, hreplay⟩

/-- An onlooker that is refused, reads, and goes between the writes of two others. -/
theorem without_onlooker_refused :
    let start : Device := { capacity := 8 }
    let acts : List Act :=
      [.request ⟨1⟩ (ofString "WRITE ab"), .request ⟨2⟩ (ofString "WRITE x"), .request ⟨2⟩ (ofString "READ"),
       .close ⟨2⟩ .peerClosed, .close ⟨1⟩ .quit, .request ⟨3⟩ (ofString "WRITE cd"),
       .request ⟨2⟩ (ofString "QUIT"), .request ⟨1⟩ (ofString "READ")]
    Onlooker start acts ⟨2⟩ ∧
      transcript start (acts.filter fun act => act.session ≠ ⟨2⟩)
        = (transcript start acts).filter (fun saying => saying.session ≠ ⟨2⟩) ∧
      replay start (acts.filter fun act => act.session ≠ ⟨2⟩) = replay start acts ∧
      (replay start acts).buffer = ofString "abcd" := by
  intro start acts
  have honlooker : Onlooker start acts ⟨2⟩ := ⟨by decide, by decide, by decide⟩
  obtain ⟨htranscript, hreplay⟩ := without_onlooker honlooker
  exact ⟨honlooker, htranscript, hreplay, by decide⟩

end Sharing

end DeviceBroker
