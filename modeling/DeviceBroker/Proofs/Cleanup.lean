import DeviceBroker.Proofs.Claiming
import DeviceBroker.Proofs.Executed

/-!
# `Proofs.Cleanup` — what a session leaves behind

Whichever way a session ends, it does not hold the claim afterwards. If it came while another session held
the claim, it was a guest: its writes were refused, all of them, and it changed nothing but that it may
have emptied the buffer.

That the other session keeps the claim is up to the others who act in between. `Spared` says that none of
them takes it away, and `spared_of_sparing` that this is so if none of them names its holder.

## Contents

* `Session.Spared` — the others leave a claim alone; `owner_course`.
* `answers_busy`, `device_withoutWrites` — the writes of a guest.
* `Session.sparing`, `spared_of_sparing` — scripts in which the others leave a claim alone.
* `Session.Guest`, `run_gives_up` — **what a session leaves behind.**
-/

namespace DeviceBroker

namespace Session

/-- Whether a deed serves a write of the session. -/
def Deed.isWrite : Deed → Bool
  | serve line => (Command.parse line).isWrite
  | ask _ | visit .. => false

/-- **Spared**: whenever somebody else acts while `holder` holds the claim, `holder` holds it afterwards. -/
def Spared (id holder : SessionId) (found : Device) (plan : List Deed) : Prop :=
  ∀ before deed, before ++ [deed] <+: plan → deed.isForeign = true →
    (course id found before).device.owner = some holder →
    (course id found (before ++ [deed])).device.owner = some holder

section Spared

variable {id holder : SessionId} {device : Device} {deed : Deed} {plan : List Deed}

theorem Spared.of_beginning {beginning : List Deed} (h : Spared id holder device plan)
    (hbeginning : beginning <+: plan) : Spared id holder device beginning := by
  intro before deed hbefore
  exact h before deed (hbefore.trans hbeginning)

theorem Spared.tail (h : Spared id holder device (deed :: plan)) :
    Spared id holder (deed.course id device).device plan := by
  intro before next hbefore
  exact h (deed :: before) next ((List.prefix_cons_inj deed).2 hbefore)

/-- **One deed** leaves a claim that is spared where it is. -/
theorem Spared.owner_head (h : Spared id holder device (deed :: plan)) (howner : device.owner = some holder) :
    (deed.course id device).device.owner = some holder := by
  cases hforeign : deed.isForeign with
  | true => exact h [] deed (List.prefix_append [deed] plan) hforeign howner
  | false =>
    cases deed with
    | serve line => exact owner_answer_of_owner howner (Command.parse line)
    | ask request => cases hforeign
    | visit other script output => cases hforeign

/-- **A claim that is spared stays.** -/
theorem Spared.owner_course (h : Spared id holder device plan) (howner : device.owner = some holder) :
    (course id device plan).device.owner = some holder := by
  induction plan generalizing device with
  | nil => exact howner
  | cons deed plan ih => exact ih h.tail (h.owner_head howner)

end Spared

/-! ## Guests -/

section Guests

variable {id holder : SessionId} {device : Device} {plan : List Deed}

/-- A device claimed by another is not free. -/
theorem isFreeFor_of_other (hother : holder ≠ id) (howner : device.owner = some holder) :
    device.isFreeFor id = false :=
  Device.isFreeFor_eq_false_iff.2 ⟨holder, hother, howner⟩

/-- **Every write of a guest is refused.** -/
theorem answers_busy (hother : holder ≠ id) (howner : device.owner = some holder)
    (h : Spared id holder device plan) :
    ∀ entry ∈ (course id device plan).answers, (Command.parse entry.1).isWrite = true → entry.2 = .busy := by
  induction plan generalizing device with
  | nil =>
    intro entry hentry
    cases hentry
  | cons deed plan ih =>
    intro entry hentry hwrite
    rw [course] at hentry
    rcases List.mem_append.1 hentry with hfirst | hrest
    · cases deed with
      | serve line =>
        obtain rfl := List.mem_singleton.1 hfirst
        exact congrArg Prod.fst (answer_write_busy (isFreeFor_of_other hother howner) hwrite)
      | ask request => cases hfirst
      | visit other script output => cases hfirst
    · exact ih (h.owner_head howner) h.tail entry hrest hwrite

/-- A line of a guest leaves the device as it is or, if it is no write, empties it. -/
theorem serve_guest (hother : holder ≠ id) (howner : device.owner = some holder) (line : Bytes) :
    ((Deed.serve line).course id device).device = device ∨
    ((Command.parse line).isWrite = false ∧ ((Deed.serve line).course id device).device = device.clear) := by
  cases hwrite : (Command.parse line).isWrite with
  | true =>
    left
    show (answer id device (Command.parse line)).2.1 = device
    rw [answer_write_busy (isFreeFor_of_other hother howner) hwrite]
  | false =>
    rcases answer_other id device hwrite with hsame | hclear
    · exact Or.inl hsame
    · exact Or.inr ⟨rfl, hclear⟩

/-- **The writes of a guest make no difference**: without them the device would be the same. -/
theorem device_withoutWrites (hother : holder ≠ id) (howner : device.owner = some holder)
    (h : Spared id holder device plan) :
    (course id device plan).device = (course id device (plan.filter fun deed => !deed.isWrite)).device := by
  induction plan generalizing device with
  | nil => rfl
  | cons deed plan ih =>
    have hrest := ih (h.owner_head howner) h.tail
    -- leaving out a write changes nothing, because making it changed nothing
    by_cases hwrite : deed.isWrite = true
    · have hstays : (deed.course id device).device = device := by
        cases deed with
        | serve line =>
          rcases serve_guest hother howner line with hsame | ⟨hno, -⟩
          · exact hsame
          · exact absurd hwrite (by simp [Deed.isWrite, hno])
        | ask request => cases hwrite
        | visit other script output => cases hwrite
      rw [List.filter_cons_of_neg (by simp [hwrite]), course]
      rw [hstays] at hrest ⊢
      exact hrest
    · rw [List.filter_cons_of_pos (by simp [hwrite]), course, course]
      exact hrest

end Guests

/-! ## Sparing by name -/

mutual

/-- **Sparing scripts**: at no depth does anybody act in the name of `holder` or release its claim. -/
def sparing (holder : SessionId) : List Step → Bool
  | [] => true
  | step :: script => step.spares holder && sparing holder script

/-- A step that spares `holder`. -/
def Step.spares (holder : SessionId) : Step → Bool
  | .device request => request ≠ .release holder
  | .session id script _ => id ≠ holder && sparing holder script
  | .data _ | .failure _ | .eof => true

end

theorem spares_of_mem {holder : SessionId} {step : Step} {script : List Step}
    (h : sparing holder script = true) (hstep : step ∈ script) : step.spares holder = true := by
  induction script with
  | nil => cases hstep
  | cons first script ih =>
    rw [sparing, Bool.and_eq_true] at h
    rcases List.mem_cons.1 hstep with rfl | hrest
    · exact h.1
    · exact ih h.2 hrest

/-- A foreign deed of a plan is a step of its script. -/
theorem mem_of_foreign {script : List Step} {plan : List Deed} (hplan : plan <+: deeds [] (reached script))
    {deed : Deed} (hdeed : deed ∈ plan) (hforeign : deed.isForeign = true) :
    ∃ step ∈ script, step.deed? = some deed := by
  have hmem : deed ∈ (deeds [] (reached script)).filter Deed.isForeign :=
    List.mem_filter.2 ⟨hplan.subset hdeed, hforeign⟩
  rw [foreign_deeds] at hmem
  obtain ⟨step, hstep, hsome⟩ := List.mem_filterMap.1 hmem
  exact ⟨step, (List.takeWhile_prefix _).subset hstep, hsome⟩

/-- **Others who do not name the holder spare it**, and so do the sessions that come and go between them:
    induction over the script, which holds the scripts of those sessions. -/
theorem spared_of_sparing (holder : SessionId) (script : List Step) (h : sparing holder script = true)
    (id : SessionId) (device : Device) {plan : List Deed} (hplan : plan <+: deeds [] (reached script)) :
    Spared id holder device plan := by
  intro before deed hbefore hforeign howner
  have hdeed : deed ∈ plan := hbefore.subset (by simp)
  obtain ⟨step, hstep, hsome⟩ := mem_of_foreign hplan hdeed hforeign
  have hspares := spares_of_mem h hstep
  rw [course_append]
  cases step with
  | device request =>
    cases hsome
    have hrequest : request ≠ .release holder := by simpa [Step.spares] using hspares
    exact Device.owner_perform_of_owner howner hrequest
  | session other steps output =>
    cases hsome
    have hboth : other ≠ holder ∧ sparing holder steps = true := by simpa [Step.spares] using hspares
    have hvisit := run_executes other output steps (course id device before).device
    have hspared := spared_of_sparing holder steps hboth.2 other (course id device before).device
      (executed_begins steps (run other output steps (course id device before).device))
    show (run other output steps (course id device before).device).device.owner = some holder
    rw [hvisit.device]
    exact Device.owner_release_eq_some.2 ⟨hspared.owner_course howner, hboth.1.symm⟩
  | data bytes => cases hsome
  | failure error => cases hsome
  | eof => cases hsome
termination_by sizeOf script
decreasing_by
  have hlt := List.sizeOf_lt_of_mem hstep
  simp only [Step.session.sizeOf_spec] at hlt
  omega

/-! ## The end of a run -/

/-- **A guest** on a device that `holder` has claimed. -/
structure Guest (id holder : SessionId) (found : Device) (script : List Step) (report : Report) : Prop where
  /-- The claim is where it was. -/
  kept : report.device.owner = some holder
  /-- Every write that was served was refused. -/
  busy : ∀ entry ∈ (course id found (executed script report)).answers,
    (Command.parse entry.1).isWrite = true → entry.2 = .busy
  /-- Every line that was served left the device as it was or, if it was no write, emptied it. -/
  untouched : ∀ before line, before ++ [.serve line] <+: executed script report →
    (course id found (before ++ [.serve line])).device = (course id found before).device ∨
    ((Command.parse line).isWrite = false ∧
      (course id found (before ++ [.serve line])).device = (course id found before).device.clear)
  /-- Without its writes the device would be the same. -/
  unwritten : report.device
    = (course id found ((executed script report).filter fun deed => !deed.isWrite)).device

/-- **What a session leaves behind**, whatever its client sends, whatever becomes of the replies and
    however it ends: no claim of its own, and the claim of another where it was. -/
theorem run_gives_up (id holder : SessionId) (output : ReplyStream) (script : List Step) (device : Device) :
    Executes id output.pending device script (run id output script device) ∧
    (run id output script device).device.owner ≠ some id ∧
    (holder ≠ id → device.owner = some holder →
      Spared id holder device (executed script (run id output script device)) →
      Guest id holder device script (run id output script device)) := by
  have hrun := run_executes id output script device
  refine ⟨hrun, ?_, ?_⟩
  · rw [hrun.device]
    exact Device.owner_release_ne _ id
  · intro hother howner hspared
    have hkept := hspared.owner_course howner
    -- the claim is another's, so giving up the session's own does nothing
    have hdevice : (run id output script device).device
        = (course id device (executed script (run id output script device))).device := by
      rw [hrun.device, Device.release_of_ne]
      rw [hkept]
      exact fun heq => hother (Option.some.inj heq)
    refine ⟨?_, answers_busy hother howner hspared, ?_, ?_⟩
    · rw [hdevice, hkept]
    · intro before line hbefore
      have hthen := (hspared.of_beginning ((List.prefix_append _ _).trans hbefore)).owner_course howner
      rw [course_append]
      exact serve_guest hother hthen line
    · rw [hdevice]
      exact device_withoutWrites hother howner hspared

/-- A guest whose second reply cannot be sent, between others who come and go. -/
theorem run_gives_up_guest :
    let found : Device := { capacity := 8, buffer := Bytes.ofString "ab", owner := some ⟨2⟩ }
    let script : List Step :=
      [.data (Bytes.ofString "WRITE x\nREA"), .session ⟨3⟩ [.data (Bytes.ofString "WRITE y\nCLEAR\n")] {},
       .device (.write ⟨2⟩ (Bytes.ofString "cd")), .data (Bytes.ofString "D\nWRITE z\n")]
    let report := run ⟨1⟩ { writes := [.all, .failure (.simple .brokenPipe)] } script found
    (⟨2⟩ : SessionId) ≠ ⟨1⟩ ∧ found.owner = some ⟨2⟩ ∧ Spared ⟨1⟩ ⟨2⟩ found (executed script report) ∧
      report.device.owner ≠ some ⟨1⟩ ∧ Guest ⟨1⟩ ⟨2⟩ found script report := by
  intro found script report
  have hspared : Spared ⟨1⟩ ⟨2⟩ found (executed script report) :=
    spared_of_sparing ⟨2⟩ script (by decide) ⟨1⟩ found (executed_begins script report)
  obtain ⟨-, hreleased, hguest⟩ :=
    run_gives_up ⟨1⟩ ⟨2⟩ { writes := [.all, .failure (.simple .brokenPipe)] } script found
  exact ⟨by decide, rfl, hspared, hreleased, hguest (by decide) rfl hspared⟩

end Session

end DeviceBroker
