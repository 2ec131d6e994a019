import DeviceBroker.Proofs.LiveOwner
import DeviceBroker.Proofs.Traceless

/-!
# `Proofs.Draining` — what a drained shutdown leaves behind

A connection is handed to a thread, and the thread enters the registry itself, later. The main thread waits
for the accept loop, so nothing is handed over any more when it cancels the sessions, but a thread may not
have entered yet. Such a thread is the only one that the cancellation can miss (apart from those whose
connection could not be cancelled in the first place), and the only one that can be left when the registry
is found empty: it enters afterwards and serves its client as if nothing had happened. If every thread has
entered when the sessions are cancelled, a drained shutdown leaves nobody behind.

## Contents

* `Service.Attached` — the registry reaches the connections of the registered sessions.
* `Service.Unhanded` — every thread has entered the registry.
* `DrainedRun` — a shutdown that finds no session.
* `DrainedRun.reaches`, `DrainedRun.ends` — whom the cancellation reaches, and who is left at the end.
* `drained_iff` — **who is missed, and just when nothing is done afterwards**.
* `not_drained_unregistered` — a connection that is served after the shutdown was found drained.
-/

namespace DeviceBroker

namespace Worker.Phase

/-- Whether a thread has done all its deeds. -/
def isFinished : Phase → Bool
  | finished _ => true
  | handed | reading _ | serving _ | ended .. | released _ => false

/-- A thread without a registered session has not begun, or has done all its deeds. -/
theorem handed_or_finished {phase : Phase} (h : phase.registered? = none) :
    phase = .handed ∨ phase.isFinished = true := by
  cases phase with
  | handed => exact Or.inl rfl
  | finished id => exact Or.inr rfl
  | _ => cases h

end Worker.Phase

/-- A thread that has finished does nothing more, and none gets back to where it began. -/
theorem Worker.Advance.between {device left : Device} {registry later : Registry} {registers : Bool}
    {before behind : Worker.Phase} (h : Worker.Advance device registry registers before behind left later) :
    before.isFinished = false ∧ behind ≠ .handed := by
  cases h with
  | enter handle => exact ⟨rfl, nofun⟩
  | work hunreleased hbehind howner =>
    constructor
    · cases before with
      | finished id => cases hunreleased
      | _ => rfl
    · rintro rfl
      cases hbehind
  | release session ending => exact ⟨rfl, nofun⟩
  | leave id => exact ⟨rfl, nofun⟩

open Worker

namespace Registry

variable {registry : Registry} {entry : SessionId × Option Nat}

/-- A session that enters does so with its handle. -/
theorem mem_enter_self (registry : Registry) (handle : Option Nat) :
    ((registry.enter handle).1, handle) ∈ (registry.enter handle).2.live :=
  List.mem_append_right _ (List.mem_singleton.2 rfl)

/-- The other sessions keep their handles. -/
theorem mem_enter_of_ne (handle : Option Nat) (hmem : entry ∈ registry.live)
    (hne : entry.1 ≠ (registry.enter handle).1) : entry ∈ (registry.enter handle).2.live :=
  List.mem_append_left _ (List.mem_filter.2 ⟨hmem, decide_eq_true hne⟩)

theorem mem_leave_of_ne {id : SessionId} (hmem : entry ∈ registry.live) (hne : entry.1 ≠ id) :
    entry ∈ (registry.leave id).live :=
  List.mem_filter.2 ⟨hmem, decide_eq_true hne⟩

end Registry

namespace Service

/-! ## The registry reaches the connections -/

/-- **The registered sessions are attached**: the registry has a handle to the connection of each, unless
    none could be made. -/
def Attached (service : Service) : Prop :=
  ∀ index id, (service.phaseOf index).registered? = some id →
    (id, some index) ∈ service.registry.live ∨ (id, none) ∈ service.registry.live

section Attached

variable {service next : Service} {allocated index : Nat} {deed : Deed} {log : List LogRecord}

/-- A thread that enters the registry has its session attached, if it can be. -/
theorem Attached.enter (h : service.Attached) (tidy : service.Tidy allocated)
    (few : allocated + 1 < UInt64.size) {handle : Option Nat} (hhandle : handle = some index ∨ handle = none)
    (hregistry : next.registry = (service.registry.enter handle).2)
    (hphases : next.phaseOf =
      advanced service.phaseOf index (.reading { id := (service.registry.enter handle).1 })) :
    next.Attached := by
  intro other id hid
  rw [hphases] at hid
  rw [hregistry]
  by_cases heq : other = index
  · rw [heq, advanced_self] at hid
    obtain rfl := Option.some.inj hid
    rw [heq]
    have hself := service.registry.mem_enter_self handle
    rcases hhandle with rfl | rfl
    · exact Or.inl hself
    · exact Or.inr hself
  · rw [advanced_ne _ heq] at hid
    -- the new identity is beyond all that were given out before
    have hne : id ≠ (service.registry.enter handle).1 := by
      rintro rfl
      have hnew : (service.registry.enter handle).1.raw.toNat = allocated + 1 := tidy.toNat_next few
      have hold := tidy.given other _ (Phase.id?_of_registered? hid)
      omega
    exact (h other id hid).imp (fun hmem => Registry.mem_enter_of_ne handle hmem hne)
      (fun hmem => Registry.mem_enter_of_ne handle hmem hne)

/-- Work that takes no new identity leaves the registered sessions attached. -/
theorem Attached.advance (h : service.Attached) (tidy : service.Tidy allocated) {phase : Phase}
    (hphases : next.phaseOf = advanced service.phaseOf index phase)
    (hadvance : Advance service.device service.registry false (service.phaseOf index) phase next.device
      next.registry) : next.Attached := by
  -- whoever is registered afterwards was registered before
  have hattached : (∀ id, phase.registered? = some id → (service.phaseOf index).registered? = some id) →
      ∀ other id, (next.phaseOf other).registered? = some id →
        (id, some other) ∈ service.registry.live ∨ (id, none) ∈ service.registry.live := by
    intro hbefore other id hid
    rw [hphases] at hid
    by_cases heq : other = index
    · rw [heq, advanced_self] at hid
      rw [heq]
      exact h index id (hbefore id hid)
    · rw [advanced_ne _ heq] at hid
      exact h other id hid
  generalize hphase : service.phaseOf index = before at hadvance hattached
  generalize hdevice : next.device = device at hadvance
  generalize hregistry : next.registry = registry at hadvance
  unfold Attached
  rw [hregistry]
  cases hadvance with
  | work hunreleased hbehind howner =>
    have hstays := (Phase.registered?_of_unreleased? hunreleased).trans
      (Phase.registered?_of_unreleased? hbehind).symm
    exact hattached fun id hid => hstays.trans hid
  | release session ending => exact hattached fun id hid => hid
  | leave left =>
    intro other id hid
    have hmem := hattached nofun other id hid
    -- the session that left was that of one thread, which is not registered any more
    have hne : id ≠ left := by
      rintro rfl
      rw [hphases] at hid
      by_cases heq : other = index
      · rw [heq, advanced_self] at hid
        cases hid
      · rw [advanced_ne _ heq] at hid
        exact heq (tidy.distinct other index id (Phase.id?_of_registered? hid) (by rw [hphase]; rfl))
    exact hmem.imp (fun hin => Registry.mem_leave_of_ne hin hne) (fun hin => Registry.mem_leave_of_ne hin hne)

/-- **Every deed** leaves the registered sessions attached. -/
theorem Attached.work (h : service.Attached) (tidy : service.Tidy allocated)
    (hwork : service.work? index deed = some (next, log))
    (few : (if deed.registers then 1 else 0) + allocated < UInt64.size) : next.Attached := by
  obtain ⟨phase, hphases, hadvance⟩ := work?_advance hwork
  cases deed with
  | register obstacle =>
    obtain ⟨worker, outcome, hworker, hperforms, rfl, -⟩ := work?_eq_some hwork
    have hphases := phaseOf_set service hworker outcome.worker outcome.device outcome.registry
    cases hperforms with
    | register obstacle hphase =>
      have hhandle : (if obstacle.isNone then some index else none) = some index ∨
          (if obstacle.isNone then some index else none) = none := by
        cases obstacle <;> simp
      rw [Deed.registers, if_pos rfl, Nat.add_comm] at few
      exact h.enter tidy few hhandle rfl hphases
  | deliver bytes => exact h.advance tidy hphases hadvance
  | serve writes flushes => exact h.advance tidy hphases hadvance
  | hangUp => exact h.advance tidy hphases hadvance
  | breakOff error => exact h.advance tidy hphases hadvance
  | release => exact h.advance tidy hphases hadvance
  | deregister => exact h.advance tidy hphases hadvance

/-- A new thread is not registered yet. -/
theorem Attached.hand (h : service.Attached) (connection : Nat) : (service.hand connection).Attached := by
  unfold Attached
  rw [phaseOf_hand]
  exact h

/-- A cancellation leaves the registry alone. -/
theorem Attached.cancelAll (h : service.Attached) : service.cancelAll.2.Attached := by
  unfold Attached
  rw [phaseOf_cancelAll]
  exact h

theorem attached_start (device : Device) : ({ device } : Service).Attached := by
  intro index id hid
  cases hid

/-- **A cancellation reaches** every registered session whose connection the registry has a handle to. -/
theorem Attached.reaches (h : service.Attached) {worker : Worker}
    (hworker : service.cancelAll.2.workers[index]? = some worker) {id : SessionId}
    (hid : worker.phase.registered? = some id) :
    worker.cancelled = true ∨ (id, none) ∈ service.cancelAll.2.registry.live := by
  have hphase := phaseOf_of_getElem? hworker
  rw [phaseOf_cancelAll] at hphase
  refine (h index id (hphase ▸ hid)).imp ?_ (fun hmem => hmem)
  intro hmem
  have hhandle : index ∈ service.registry.handles := List.mem_filterMap.2 ⟨_, hmem, rfl⟩
  unfold Service.cancelAll at hworker
  dsimp only at hworker
  rw [List.getElem?_mapIdx] at hworker
  obtain ⟨before, -, rfl⟩ := Option.map_eq_some_iff.1 hworker
  rw [if_pos (List.contains_iff_mem.2 hhandle)]

end Attached

/-! ## Threads that have entered -/

/-- **Every thread has entered** the registry. -/
def Unhanded (service : Service) : Prop :=
  ∀ (index : Nat) worker, service.workers[index]? = some worker → worker.phase ≠ .handed

/-- Every thread has done all its deeds. -/
def Finished (service : Service) : Prop :=
  ∀ (index : Nat) worker, service.workers[index]? = some worker → worker.phase.isFinished = true

section Unhanded

variable {service next : Service} {allocated index : Nat} {deed : Deed} {log : List LogRecord}

/-- No deed leads back to the beginning. -/
theorem Unhanded.work (h : service.Unhanded) (hwork : service.work? index deed = some (next, log)) :
    next.Unhanded := by
  obtain ⟨worker, outcome, hworker, hperforms, rfl, -⟩ := work?_eq_some hwork
  intro other found hfound
  dsimp only at hfound
  rw [List.getElem?_set] at hfound
  split at hfound
  · split at hfound
    · cases hfound
      exact hperforms.advance.between.2
    · cases hfound
  · exact h other found hfound

/-- A cancellation moves no thread. -/
theorem Unhanded.cancelAll (h : service.Unhanded) : service.cancelAll.2.Unhanded := by
  intro index worker hworker
  have hphase := phaseOf_of_getElem? hworker
  unfold Service.cancelAll at hworker
  dsimp only at hworker
  rw [List.getElem?_mapIdx] at hworker
  obtain ⟨before, hbefore, -⟩ := Option.map_eq_some_iff.1 hworker
  rw [← hphase, phaseOf_cancelAll, phaseOf_of_getElem? hbefore]
  exact h index before hbefore

/-- When everybody has finished, nobody does anything. -/
theorem Finished.work?_eq_none (h : service.Finished) (index : Nat) (deed : Deed) :
    service.work? index deed = none := by
  cases hwork : service.work? index deed with
  | none => rfl
  | some result =>
    obtain ⟨worker, outcome, hworker, hperforms, -, -⟩ := work?_eq_some hwork
    have hfinished := h index worker hworker
    rw [hperforms.advance.between.1] at hfinished
    cases hfinished

/-- A thread that has not entered yet can do so. -/
theorem work?_register {worker : Worker} (hworker : service.workers[index]? = some worker)
    (hphase : worker.phase = .handed) :
    ∃ entered log, service.work? index (.register none) = some (entered, log) ∧ entered ≠ service := by
  obtain ⟨outcome, hperforms⟩ :
      ∃ outcome, Performs worker index service.device service.registry (.register none) outcome :=
    ⟨_, .register none hphase⟩
  have hwork : service.work? index (.register none) =
      some ({ device := outcome.device, registry := outcome.registry,
              workers := service.workers.set index outcome.worker }, outcome.log) := by
    unfold work?
    rw [hworker]
    dsimp only
    rw [perform?_eq_some_iff.2 hperforms]
  refine ⟨_, _, hwork, fun hsame => hperforms.advance.between.2 ?_⟩
  have hset := phaseOf_set service hworker outcome.worker outcome.device outcome.registry
  rw [hsame] at hset
  rw [← hphase, ← phaseOf_of_getElem? hworker, hset, advanced_self]

/-- **An empty registry** leaves only threads that have not entered yet and those that have left. -/
theorem Tidy.handed_or_finished (tidy : service.Tidy allocated) (hnobody : service.registry.liveCount = 0)
    {worker : Worker} (hworker : service.workers[index]? = some worker) :
    worker.phase = .handed ∨ worker.phase.isFinished = true := by
  refine Phase.handed_or_finished ?_
  cases hid : worker.phase.registered? with
  | none => rfl
  | some id =>
    have hmem := tidy.registered index id ((phaseOf_of_getElem? hworker).symm ▸ hid)
    rw [List.eq_nil_of_length_eq_zero hnobody] at hmem
    cases hmem

end Unhanded

end Service

namespace Daemon

/-! ## Runs -/

/-- Whether a move takes a new identity. -/
def Move.registers : Move → Bool
  | work _ deed => deed.registers
  | signal _ | ask | look | accept _ | refuse _ | wake | raiseFlag | join | cancel | drain | giveUp => false

/-- **A daemon is managed**: its service is tidy, and the registered sessions are attached. -/
structure Managed (moves : List Move) (daemon : Daemon) : Prop where
  tidy : daemon.service.Tidy (moves.countP Move.registers)
  attached : daemon.service.Attached

section Runs

variable {before moves : List Move} {daemon next final : Daemon} {move : Move}

theorem managed_start (fresh : daemon.Fresh) : Managed [] daemon := by
  obtain ⟨device, unclaimed, hservice⟩ := fresh.service
  refine ⟨?_, ?_⟩
  · rw [hservice]
    exact Service.tidy_start unclaimed
  · rw [hservice]
    exact Service.attached_start device

theorem countP_registers (before : List Move) (move : Move) :
    (before ++ [move]).countP Move.registers =
      (if move.registers then 1 else 0) + before.countP Move.registers := by
  rw [List.countP_append, List.countP_singleton, Nat.add_comm]

/-- A move that takes no identity and has to do with no thread. -/
theorem Managed.aside (h : Managed before daemon) (hregisters : move.registers = false)
    (hservice : next.service = daemon.service) : Managed (before ++ [move]) next := by
  refine ⟨?_, ?_⟩
  · rw [countP_registers, hregisters, if_neg Bool.false_ne_true, Nat.zero_add, hservice]
    exact h.tidy
  · rw [hservice]
    exact h.attached

/-- **Every move** leaves a daemon managed, if it does not bring the counter of identities around. -/
theorem Managed.step (h : Managed before daemon) (hmoves : Moves daemon move next)
    (few : (before ++ [move]).countP Move.registers < UInt64.size) : Managed (before ++ [move]) next := by
  rw [countP_registers] at few
  cases hmoves with
  | handOver log haccepting =>
    refine ⟨?_, h.attached.hand daemon.accepted⟩
    have hstep : daemon.service.step? (.hand daemon.accepted) = some (daemon.service.hand daemon.accepted) := rfl
    rw [countP_registers]
    exact h.tidy.step hstep few
  | cancel hcancelling =>
    refine ⟨?_, h.attached.cancelAll⟩
    have hstep : daemon.service.step? .cancelAll = some daemon.service.cancelAll.2 := rfl
    rw [countP_registers]
    exact h.tidy.step hstep few
  | work log hwork =>
    refine ⟨?_, h.attached.work h.tidy hwork few⟩
    rw [countP_registers]
    exact h.tidy.work hwork few
  | signal log hwatching hhandled => exact h.aside rfl rfl
  | ask log => exact h.aside rfl rfl
  | goOn hlooking hgo => exact h.aside rfl rfl
  | obey log hlooking hstop => exact h.aside rfl rfl
  | dismiss log haccepting => exact h.aside rfl rfl
  | again haccepting hpassing => exact h.aside rfl rfl
  | fail log haccepting hpassing => exact h.aside rfl rfl
  | wake log hwaiting hwait => exact h.aside rfl rfl
  | raiseFlag hstopping => exact h.aside rfl rfl
  | join hjoining hended => exact h.aside rfl rfl
  | drain log hdraining hnobody => exact h.aside rfl rfl
  | giveUp log hdraining hsomebody => exact h.aside rfl rfl

/-- **Every run** does. -/
theorem Managed.replay (fresh : daemon.Fresh) (hreplay : daemon.replay? moves = some final)
    (few : moves.countP Move.registers < UInt64.size) : Managed moves final := by
  refine replay?_induction
    (fun moves daemon => moves.countP Move.registers < UInt64.size → Managed moves daemon)
    (fun _ => managed_start fresh) ?_ hreplay few
  intro before middle move next hmiddle hmoves few
  have hless : before.countP Move.registers < UInt64.size := by
    rw [countP_registers] at few
    omega
  exact (hmiddle hless).step hmoves few

/-- When the accept loop is over, threads that have all entered are all there will be. -/
theorem unhanded_replay (hended : daemon.accept = .ended) (hreplay : daemon.replay? moves = some final) :
    final.accept = .ended ∧ (daemon.service.Unhanded → final.service.Unhanded) := by
  refine replay?_induction
    (fun _ later => later.accept = .ended ∧ (daemon.service.Unhanded → later.service.Unhanded))
    ⟨hended, id⟩ ?_ hreplay
  rintro before middle move next ⟨hover, hentered⟩ hmoves
  obtain ⟨hstays, ⟨index, deed, log, hwork⟩ | ⟨-, hcancelled⟩ | hsame⟩ := hmoves.of_ended hover
  · exact ⟨hstays, fun hall => (hentered hall).work hwork⟩
  · exact ⟨hstays, fun hall => hcancelled ▸ (hentered hall).cancelAll⟩
  · exact ⟨hstays, fun hall => hsame ▸ hentered hall⟩

/-- When the main thread is done and every thread has finished, the service stays as it is. -/
theorem still_replay (hended : daemon.accept = .ended) {error : Option LaunchError}
    (hdone : daemon.main = .done error) (hfinished : daemon.service.Finished)
    (hreplay : daemon.replay? moves = some final) : final.service = daemon.service := by
  refine (replay?_induction
    (fun _ later => later.accept = .ended ∧ later.main = .done error ∧ later.service = daemon.service)
    ⟨hended, hdone, rfl⟩ ?_ hreplay).2.2
  rintro before middle move next ⟨hover, hmain, hsame⟩ hmoves
  obtain ⟨hstays, hmoved⟩ := hmoves.of_ended hover
  refine ⟨hstays, hmoves.of_done hmain, ?_⟩
  rcases hmoved with ⟨index, deed, log, hwork⟩ | ⟨⟨reason, hcancelling⟩, -⟩ | hkept
  · rw [hsame, hfinished.work?_eq_none] at hwork
    cases hwork
  · cases hmain.symm.trans hcancelling
  · exact hkept.trans hsame

/-! ## A drained shutdown -/

/-- **A shutdown that finds no session**, cut where the sessions are cancelled and where none is found. -/
structure DrainedRun (daemon : Daemon) (before between : List Move) (cancelled drained : Daemon) : Prop where
  cancels : daemon.replay? (before ++ [.cancel]) = some cancelled
  drains : cancelled.replay? (between ++ [.drain]) = some drained

/-- A deed that a thread can do is a run. -/
theorem replay?_work {index : Nat} {deed : Deed} {service : Service} {records : List LogRecord}
    (h : daemon.service.work? index deed = some (service, records)) :
    ∃ next, daemon.replay? [.work index deed] = some next ∧ next.service = service := by
  refine ⟨{ daemon with service }.note .session records, ?_, rfl⟩
  have hstep : daemon.step? (.work index deed) = some ({ daemon with service }.note .session records) := by
    show daemon.work? index deed = _
    unfold work?
    rw [h]
  unfold replay?
  rw [List.foldlM_cons, hstep]
  rfl

/-- **The accept loop is over** when the sessions are cancelled. -/
theorem accept_of_cancel {cancelled : Daemon} (fresh : daemon.Fresh)
    (h : daemon.replay? (before ++ [.cancel]) = some cancelled) :
    cancelled.accept = .ended := by
  have hstart : Stands daemon.socketPath daemon.tree
      (Listener.cleanUp daemon.tree daemon.socketPath).1 daemon := by
    refine ⟨rfl, fun _ => rfl, ?_, ?_⟩
    · rw [fresh.accept]
      exact nofun
    · rw [fresh.main]
      exact nofun
  refine (hstart.replay rfl h).joined ?_
  obtain ⟨middle, -, hmoves⟩ := replay?_concat h
  cases hmoves with
  | cancel hcancelling => rfl

/-- **The cancellation** reaches every thread that has entered and is not through, if its session has a
    handle to the connection. -/
theorem DrainedRun.reaches {between : List Move} {cancelled drained : Daemon} (fresh : daemon.Fresh)
    (run : DrainedRun daemon before between cancelled drained)
    (few : (before ++ between).countP Move.registers < UInt64.size) {index : Nat} {worker : Worker}
    (hworker : cancelled.service.workers[index]? = some worker) :
    worker.cancelled = true ∨ worker.phase.isFinished = true ∨ worker.phase = .handed ∨
      ∃ id, worker.phase.registered? = some id ∧ (id, none) ∈ cancelled.service.registry.live := by
  obtain ⟨cancelling, hbefore, hcancel⟩ := replay?_concat run.cancels
  have hmanaged : Managed before cancelling :=
    Managed.replay fresh hbefore
      (Nat.lt_of_le_of_lt (List.prefix_append before between).sublist.countP_le few)
  have hreached : cancelled.service = cancelling.service.cancelAll.2 := by
    cases hcancel with
    | cancel hcancelling => rfl
  cases hid : worker.phase.registered? with
  | none =>
    rcases Phase.handed_or_finished hid with hhanded | hthrough
    · exact Or.inr (Or.inr (Or.inl hhanded))
    · exact Or.inr (Or.inl hthrough)
  | some id =>
    rw [hreached] at hworker ⊢
    rcases hmanaged.attached.reaches hworker hid with hcancelled | hunattached
    · exact Or.inl hcancelled
    · exact Or.inr (Or.inr (Or.inr ⟨id, rfl, hunattached⟩))

/-- **The end of the run**: the accept loop is over and the main thread is done, each thread has finished or
    not entered yet, and all have entered if all had when the sessions were cancelled. -/
theorem DrainedRun.ends {between : List Move} {cancelled drained : Daemon} (fresh : daemon.Fresh)
    (run : DrainedRun daemon before between cancelled drained)
    (few : (before ++ between).countP Move.registers < UInt64.size) :
    drained.accept = .ended ∧ (∃ error, drained.main = .done error) ∧
    (∀ (index : Nat) worker, drained.service.workers[index]? = some worker →
      worker.phase = .handed ∨ worker.phase.isFinished = true) ∧
    (cancelled.service.Unhanded → drained.service.Unhanded) := by
  obtain ⟨draining, hbetween, hdrain⟩ := replay?_concat run.drains
  obtain ⟨hover, hentered⟩ := unhanded_replay (accept_of_cancel fresh run.cancels) hbetween
  have hwhole : daemon.replay? (before ++ [.cancel] ++ between) = some draining := by
    rw [replay?_append, run.cancels]
    exact hbetween
  have hcount : (before ++ [Move.cancel] ++ between).countP Move.registers =
      (before ++ between).countP Move.registers := by
    rw [List.countP_append, countP_registers, List.countP_append]
    exact congrArg (· + _) (Nat.zero_add _)
  have hmanaged : Managed (before ++ [.cancel] ++ between) draining :=
    Managed.replay fresh hwhole (hcount ▸ few)
  -- the last move changes neither the threads nor the accept loop
  cases hdrain with
  | drain log hdraining hnobody =>
    exact ⟨hover, ⟨_, rfl⟩,
      fun index worker hworker => hmanaged.tidy.handed_or_finished hnobody hworker, hentered⟩

/-- **Who is missed.** A cancellation reaches every thread but those that have not entered the registry yet,
    those that are through, and those whose connection the registry could get no handle to. When no session
    is found afterwards, every thread has finished, and nothing is done any more, just if every thread had
    entered by then; which is so if every thread had entered when the sessions were cancelled. -/
theorem drained_iff {between : List Move} {cancelled drained : Daemon} (fresh : daemon.Fresh)
    (run : DrainedRun daemon before between cancelled drained)
    (few : (before ++ between).countP Move.registers < UInt64.size) :
    (∀ (index : Nat) worker, cancelled.service.workers[index]? = some worker →
      worker.cancelled = true ∨ worker.phase.isFinished = true ∨ worker.phase = .handed ∨
        ∃ id, worker.phase.registered? = some id ∧ (id, none) ∈ cancelled.service.registry.live) ∧
    (drained.service.Finished ↔ drained.service.Unhanded) ∧
    ((∀ after final, drained.replay? after = some final → final.service = drained.service) ↔
      drained.service.Unhanded) ∧
    (cancelled.service.Unhanded → drained.service.Unhanded) := by
  obtain ⟨hended, ⟨error, hdone⟩, hleft, hentered⟩ := run.ends fresh few
  have hfinished : drained.service.Unhanded → drained.service.Finished :=
    fun hall index worker hworker => (hleft index worker hworker).resolve_left (hall index worker hworker)
  refine ⟨fun index worker => run.reaches fresh few, ⟨?_, hfinished⟩, ⟨?_, ?_⟩, hentered⟩
  · intro hall index worker hworker hhanded
    have hthrough := hall index worker hworker
    rw [hhanded] at hthrough
    cases hthrough
  · intro hstill index worker hworker hhanded
    obtain ⟨entered, log, hwork, hne⟩ := Service.work?_register hworker hhanded
    obtain ⟨next, hnext, hsame⟩ := replay?_work hwork
    exact hne (hsame.symm.trans (hstill _ _ hnext))
  · intro hall after final hafter
    exact still_replay hended hdone (hfinished hall) hafter

/-- A session that is cancelled before its client has said anything. -/
theorem drained_iff_cancelled :
    let daemon : Daemon :=
      Launch.running { socketPath := "/s" } (({} : FileTree).put ["s"] (.socket .stream (.daemon 0)))
        { capacity := 8 }
    let before : List Move :=
      [.look, .accept none, .ask, .work 0 (.register none), .wake, .raiseFlag, .look, .join]
    let between : List Move := [.work 0 .hangUp, .work 0 .release, .work 0 .deregister]
    daemon.Fresh ∧ (before ++ between).countP Move.registers < UInt64.size ∧
      ∃ cancelled drained, DrainedRun daemon before between cancelled drained ∧ drained.service.Finished := by
  intro daemon before between
  have fresh : daemon.Fresh := fresh_running _ _ rfl
  have few : (before ++ between).countP Move.registers < UInt64.size := by decide
  have hphases : (daemon.replay? (before ++ [.cancel])).map
      (fun daemon => daemon.service.workers.map Worker.phase) = some [.reading { id := ⟨1⟩ }] := by
    decide +kernel
  have hwhole : (daemon.replay? (before ++ [.cancel] ++ (between ++ [.drain]))).isSome = true := by
    decide +kernel
  obtain ⟨cancelled, hcancels, hcancelled⟩ := Option.map_eq_some_iff.1 hphases
  obtain ⟨drained, hdrains⟩ := Option.isSome_iff_exists.1 hwhole
  rw [replay?_append, hcancels] at hdrains
  have run : DrainedRun daemon before between cancelled drained := ⟨hcancels, hdrains⟩
  have hentered : cancelled.service.Unhanded := by
    intro index worker hworker hhanded
    have hmem : worker.phase ∈ cancelled.service.workers.map Worker.phase :=
      List.mem_map_of_mem (List.mem_of_getElem? hworker)
    rw [hcancelled, hhanded] at hmem
    cases List.mem_singleton.1 hmem
  obtain ⟨-, hfinished, -, hstays⟩ := drained_iff fresh run few
  exact ⟨fresh, few, cancelled, drained, run, hfinished.2 (hstays hentered)⟩

/-- **A connection that nobody waits for**: it is handed over before the stop, its thread enters the registry
    after the shutdown was found drained, and a request of its client is executed then. -/
theorem not_drained_unregistered :
    let daemon : Daemon :=
      Launch.running { socketPath := "/s" } (({} : FileTree).put ["s"] (.socket .stream (.daemon 0)))
        { capacity := 8 }
    let before : List Move := [.look, .accept none, .ask, .wake, .raiseFlag, .look, .join]
    let after : List Move :=
      [.work 0 (.register none), .work 0 (.deliver (Bytes.ofString "WRITE a\n")), .work 0 (.serve [] [])]
    ∃ cancelled drained final, DrainedRun daemon before [] cancelled drained ∧
      drained.main = .done none ∧
      drained.service.workers.map (fun worker => (worker.phase, worker.cancelled)) = [(.handed, false)] ∧
      drained.service.device.buffer = [] ∧
      drained.replay? after = some final ∧ final.service.device.buffer = Bytes.ofString "a" := by
  intro daemon before after
  have hcancelled : (daemon.replay? (before ++ [.cancel])).isSome = true := by decide +kernel
  have hdrained : (daemon.replay? (before ++ [.cancel] ++ [.drain])).map
      (fun daemon => (daemon.main,
        daemon.service.workers.map (fun worker => (worker.phase, worker.cancelled)),
        daemon.service.device.buffer)) = some (.done none, [(.handed, false)], []) := by
    decide +kernel
  have hfinal : (daemon.replay? (before ++ [.cancel] ++ [.drain] ++ after)).map
      (fun daemon => daemon.service.device.buffer) = some (Bytes.ofString "a") := by
    decide +kernel
  obtain ⟨cancelled, hcancels⟩ := Option.isSome_iff_exists.1 hcancelled
  obtain ⟨drained, hdrains, hlooks⟩ := Option.map_eq_some_iff.1 hdrained
  obtain ⟨final, hgoesOn, hbuffer⟩ := Option.map_eq_some_iff.1 hfinal
  rw [replay?_append, hdrains] at hgoesOn
  rw [replay?_append, hcancels] at hdrains
  simp only [Prod.mk.injEq] at hlooks
  obtain ⟨hmain, hworkers, hempty⟩ := hlooks
  exact ⟨cancelled, drained, final, ⟨hcancels, hdrains⟩, hmain, hworkers, hempty, hgoesOn, hbuffer⟩

end Runs

end Daemon

end DeviceBroker
