import DeviceBroker.Session

/-!
# `Proofs.Claiming` — who may write, and what becomes of the claim

The claim on a device changes hands in two places only: a write takes it where it is free, and a release
gives it up where it is held. Everything about claims is derived from the lemmas of this file, which say
it once for a write, once for a release and once for the commands of a session.

## Contents

* `Device.isFreeFor_iff`, `Device.isFreeFor_eq_false_iff` — for whom a device is free.
* `Device.write_eq_append`, `Device.write_free`, `Device.write_busy`, `Device.release_eq`,
  `Device.owner_release` — the device's part.
* `Device.owner_perform_of_owner` — a request that is no release leaves a claim where it is.
* `Command.isWrite` — the one command that claims.
* `Session.answer_write_free`, `Session.answer_write_busy`, `Session.answer_other`, `Session.answer_still` —
  **every command**, by what it does to the device.
-/

namespace DeviceBroker

namespace Device

/-! ## Writing -/

theorem isFreeFor_iff {device : Device} {session : SessionId} :
    device.isFreeFor session = true ↔ device.owner = none ∨ device.owner = some session := by
  unfold isFreeFor
  cases device.owner with
  | none => simp
  | some owner => simp

theorem isFreeFor_eq_false_iff {device : Device} {session : SessionId} :
    device.isFreeFor session = false ↔ ∃ other, other ≠ session ∧ device.owner = some other := by
  unfold isFreeFor
  cases device.owner with
  | none => simp
  | some owner => simp

/-- A write where the device is free takes the claim and then appends. -/
theorem write_eq_append {device : Device} {session : SessionId} (h : device.isFreeFor session = true)
    (text : Bytes) :
    device.write session text
      = (.written (device.append text).1, { (device.append text).2 with owner := some session }) := by
  rw [write, claim, if_pos h]
  rfl

/-- **A write where the device is free** takes the claim and stores a beginning of the text. -/
theorem write_free {device : Device} {session : SessionId} (h : device.isFreeFor session = true)
    (text : Bytes) :
    ∃ stored, device.write session text
      = (.written stored,
          { device with owner := some session, buffer := device.buffer ++ text.take stored }) :=
  ⟨(device.append text).1, write_eq_append h text⟩

/-- **A write where somebody else holds the claim** changes nothing. -/
theorem write_busy {device : Device} {session : SessionId} (h : device.isFreeFor session = false)
    (text : Bytes) : device.write session text = (.busy, device) := by
  rw [write, claim, if_neg (by simp [h])]

/-! ## Releasing -/

/-- A release changes nothing but the claim. -/
theorem release_eq (device : Device) (session : SessionId) :
    device.release session = { device with owner := (device.release session).owner } := by
  unfold release
  split <;> rfl

theorem owner_release (device : Device) (session : SessionId) :
    (device.release session).owner = if device.owner = some session then none else device.owner := by
  unfold release
  split <;> rfl

/-- **A release by another** than the holder changes nothing. -/
theorem release_of_ne {device : Device} {session : SessionId} (h : device.owner ≠ some session) :
    device.release session = device :=
  if_neg h

/-- A release leaves every claim but the session's own. -/
theorem owner_release_eq_some {device : Device} {session holder : SessionId} :
    (device.release session).owner = some holder ↔ device.owner = some holder ∧ holder ≠ session := by
  rw [owner_release]
  by_cases h : device.owner = some session
  · rw [if_pos h]
    constructor
    · intro hnone
      cases hnone
    · rintro ⟨hholder, hne⟩
      exact absurd (Option.some.inj (hholder.symm.trans h)) hne
  · rw [if_neg h]
    constructor
    · intro hholder
      exact ⟨hholder, fun heq => h (heq ▸ hholder)⟩
    · exact And.left

/-- Who holds the claim keeps it, whatever the device is asked, unless that is to release it. -/
theorem owner_perform_of_owner {device : Device} {holder : SessionId} (h : device.owner = some holder)
    {request : Request} (hrequest : request ≠ .release holder) :
    (device.perform request).2.owner = some holder := by
  have hfree : ∀ session, device.isFreeFor session = true → holder = session := by
    intro session hfree
    rcases isFreeFor_iff.1 hfree with hnone | hsome
    · rw [h] at hnone
      cases hnone
    · exact Option.some.inj (h.symm.trans hsome)
  cases request with
  | claim session =>
    cases hclaim : device.isFreeFor session with
    | true =>
      rw [perform, claim, if_pos hclaim]
      exact congrArg some (hfree session hclaim).symm
    | false =>
      rw [perform, claim, if_neg (by simp [hclaim])]
      exact h
  | release session =>
    refine owner_release_eq_some.2 ⟨h, ?_⟩
    rintro rfl
    exact hrequest rfl
  | write session text =>
    cases hclaim : device.isFreeFor session with
    | true =>
      obtain ⟨stored, hstored⟩ := write_free hclaim text
      rw [perform, hstored]
      exact congrArg some (hfree session hclaim).symm
    | false =>
      rw [perform, write_busy hclaim]
      exact h
  | append text => exact h
  | read => exact h
  | clear => exact h
  | status => exact h
  | capacity => exact h
  | owner => exact h

end Device

/-! ## The commands of a session -/

/-- Whether a command is a write, which is the one command that claims the device. -/
def Command.isWrite : Command → Bool
  | write _ => true
  | read | clear | status | quit | unknown _ => false

namespace Session

/-- **A write is taken** where the device is free, and the session then holds the claim. -/
theorem answer_write_free {id : SessionId} {device : Device} {command : Command}
    (h : device.isFreeFor id = true) (hwrite : command.isWrite = true) :
    (answer id device command).1 = .written ∧ (answer id device command).2.1.owner = some id := by
  cases command with
  | write text =>
    obtain ⟨stored, hstored⟩ := device.write_free h text
    rw [answer, hstored]
    exact ⟨rfl, rfl⟩
  | read => cases hwrite
  | clear => cases hwrite
  | status => cases hwrite
  | quit => cases hwrite
  | unknown text => cases hwrite

/-- **A write is refused** where somebody else holds the claim, and the device stays as it is. -/
theorem answer_write_busy {id : SessionId} {device : Device} {command : Command}
    (h : device.isFreeFor id = false) (hwrite : command.isWrite = true) :
    answer id device command = (.busy, device, []) := by
  cases command with
  | write text => rw [answer, device.write_busy h text]
  | read => cases hwrite
  | clear => cases hwrite
  | status => cases hwrite
  | quit => cases hwrite
  | unknown text => cases hwrite

/-- **Every other command** leaves the device as it is or empties it. -/
theorem answer_other (id : SessionId) (device : Device) {command : Command} (h : command.isWrite = false) :
    (answer id device command).2.1 = device ∨ (answer id device command).2.1 = device.clear := by
  cases command with
  | write text => cases h
  | clear => exact Or.inr rfl
  | read => exact Or.inl rfl
  | status => exact Or.inl rfl
  | quit => exact Or.inl rfl
  | unknown text => exact Or.inl rfl

/-- A command that neither writes nor clears leaves the device as it is. -/
theorem answer_still (id : SessionId) (device : Device) {command : Command} (hwrite : command.isWrite = false)
    (hclear : command ≠ .clear) : (answer id device command).2.1 = device := by
  cases command with
  | write text => cases hwrite
  | clear => exact absurd rfl hclear
  | read => rfl
  | status => rfl
  | quit => rfl
  | unknown text => rfl

/-- **The claim behind a command**: a write takes it where it is free, and nothing else moves it. -/
theorem owner_answer (id : SessionId) (device : Device) (command : Command) :
    (answer id device command).2.1.owner
      = if command.isWrite = true ∧ device.isFreeFor id = true then some id else device.owner := by
  by_cases hwrite : command.isWrite = true
  · by_cases hfree : device.isFreeFor id = true
    · rw [if_pos ⟨hwrite, hfree⟩]
      exact (answer_write_free hfree hwrite).2
    · rw [if_neg fun h => hfree h.2, answer_write_busy (Bool.not_eq_true _ ▸ hfree) hwrite]
  · rw [if_neg fun h => hwrite h.1]
    rcases answer_other id device (Bool.not_eq_true _ ▸ hwrite) with hsame | hclear
    · rw [hsame]
    · rw [hclear]
      rfl

/-- Who holds the claim keeps it, whatever a session is asked. -/
theorem owner_answer_of_owner {id holder : SessionId} {device : Device} (h : device.owner = some holder)
    (command : Command) : (answer id device command).2.1.owner = some holder := by
  rw [owner_answer]
  split
  · next hclaim =>
    rcases Device.isFreeFor_iff.1 hclaim.2 with hnone | hsome
    · rw [h] at hnone
      cases hnone
    · exact hsome.symm.trans h
  · exact h

end Session

end DeviceBroker
