import DeviceBroker.Proofs.Histories
import DeviceBroker.Proofs.Starting

/-!
# `Proofs.FirstRequest` — the first request decides

While the main thread waits, every request is kept in the order in which it was made, and nobody who could
make one gives up his notifier without having made it. So the wait ends with the first request of the run,
whoever made it, and never because nobody is left. The phases behind the wait carry that request on, and the
error with which the daemon returns is told from it alone.

## Contents

* `Move.request?`, `FailsFirst` — requests in a run.
* `Daemon.Waits`, `Daemon.Heeds` — **the invariant**; `Heeds.step`, `Heeds.replay` preserve it.
* `first_request_decides` — **for a coordinator and for a daemon**.
-/

namespace DeviceBroker

namespace Daemon

/-! ## Requests in a run -/

/-- The request that a move makes. -/
def Move.request? : Move → Option ShutdownReason
  | signal number => some (.signal number)
  | ask => some .requested
  | refuse error =>
    if Listener.isPassing error then none else some (.acceptFailed error.kind error.message)
  | look | accept _ | work .. | wake | raiseFlag | join | cancel | drain | giveUp => none

/-- The request that the main thread acts on. -/
def MainPhase.reason? : MainPhase → Option ShutdownReason
  | waiting | done _ => none
  | stopping reason | joining reason | cancelling reason | draining reason _ => some reason

/-- **The first request of a run** is made by an accept loop that fails for good. -/
def FailsFirst (moves : List Move) (kind : ErrorKind) (message : String) : Prop :=
  ∃ before error after, moves = before ++ .refuse error :: after ∧ (∀ move ∈ before, move.request? = none) ∧
    Listener.isPassing error = false ∧ error.kind = kind ∧ error.message = message

theorem request?_eq_acceptFailed {move : Move} {kind : ErrorKind} {message : String} :
    move.request? = some (.acceptFailed kind message) ↔
      ∃ error, move = .refuse error ∧ Listener.isPassing error = false ∧ error.kind = kind ∧
        error.message = message := by
  constructor
  · intro h
    cases move with
    | refuse error =>
      dsimp only [Move.request?] at h
      split at h
      · cases h
      · next hpassing =>
        cases h
        exact ⟨error, rfl, Bool.eq_false_iff.2 hpassing, rfl, rfl⟩
    | _ => cases h
  · rintro ⟨error, rfl, hpassing, rfl, rfl⟩
    exact if_neg (by rw [hpassing]; exact Bool.false_ne_true)

theorem failsFirst_iff {moves : List Move} {kind : ErrorKind} {message : String} :
    FailsFirst moves kind message ↔
      moves.findSome? Move.request? = some (.acceptFailed kind message) := by
  rw [List.findSome?_eq_some_iff]
  constructor
  · rintro ⟨before, error, after, hmoves, hbefore, hfails⟩
    exact ⟨before, .refuse error, after, hmoves, request?_eq_acceptFailed.2 ⟨error, rfl, hfails⟩, hbefore⟩
  · rintro ⟨before, move, after, hmoves, hrequest, hbefore⟩
    obtain ⟨error, rfl, hfails⟩ := request?_eq_acceptFailed.1 hrequest
    exact ⟨before, error, after, hmoves, hbefore, hfails⟩

/-! ## The invariant -/

/-- **A daemon that waits** has kept all requests, and without one both notifiers are still there. -/
structure Waits (moves : List Move) (daemon : Daemon) : Prop where
  stopFlag : daemon.stopFlag = false
  waited : daemon.coordinator.waited = false
  requests : daemon.coordinator.requests = moves.filterMap Move.request?
  notifiers : daemon.coordinator.requests = [] → daemon.coordinator.notifiers = [true, true]

/-- **A daemon heeds the first request** of its run. -/
structure Heeds (moves : List Move) (daemon : Daemon) : Prop where
  waiting : daemon.main = .waiting → Waits moves daemon
  heard : ∀ reason, daemon.main.reason? = some reason → moves.findSome? Move.request? = some reason
  done : ∀ error, daemon.main = .done error →
    ∃ reason, moves.findSome? Move.request? = some reason ∧ error = verdict reason

section Heeds

variable {before moves : List Move} {daemon next : Daemon} {move : Move}

/-- Later moves do not change which request was the first. -/
theorem firstRequest_append {reason : ShutdownReason} (h : before.findSome? Move.request? = some reason)
    (move : Move) : (before ++ [move]).findSome? Move.request? = some reason := by
  rw [List.findSome?_append, h]
  rfl

theorem heeds_start (fresh : daemon.Fresh) : Heeds [] daemon where
  waiting _ := by
    refine ⟨fresh.stopFlag, ?_, ?_, fun _ => ?_⟩
    · rw [fresh.coordinator]
    · rw [fresh.coordinator]
      rfl
    · rw [fresh.coordinator]
  heard reason h := by
    rw [fresh.main] at h
    cases h
  done error h := by
    rw [fresh.main] at h
    cases h

namespace Waits

/-- A move that makes no request. -/
theorem unasked (h : Waits before daemon) (hrequest : move.request? = none)
    (hflag : next.stopFlag = daemon.stopFlag) (hcoordinator : next.coordinator = daemon.coordinator) :
    Waits (before ++ [move]) next where
  stopFlag := hflag.trans h.stopFlag
  waited := by rw [hcoordinator, h.waited]
  requests := by
    rw [hcoordinator, h.requests, List.filterMap_append, List.filterMap_cons_none hrequest]
    exact (List.append_nil _).symm
  notifiers := by
    rw [hcoordinator]
    exact h.notifiers

/-- A move that makes a request, after which a notifier may be dropped. -/
theorem asked (h : Waits before daemon) {reason : ShutdownReason} (hrequest : move.request? = some reason)
    (hflag : next.stopFlag = daemon.stopFlag)
    (hwaited : next.coordinator.waited = (daemon.coordinator.notify reason).2.waited)
    (hrequests : next.coordinator.requests = (daemon.coordinator.notify reason).2.requests) :
    Waits (before ++ [move]) next := by
  have hnotify : daemon.coordinator.notify reason =
      ([], { daemon.coordinator with requests := daemon.coordinator.requests ++ [reason] }) :=
    if_neg (by rw [h.waited]; exact Bool.false_ne_true)
  rw [hnotify] at hwaited hrequests
  refine ⟨hflag.trans h.stopFlag, hwaited.trans h.waited, ?_, ?_⟩
  · rw [hrequests, h.requests, List.filterMap_append, List.filterMap_cons_some hrequest]
    rfl
  · intro hnone
    rw [hrequests] at hnone
    exact absurd hnone (List.append_ne_nil_of_right_ne_nil _ (List.cons_ne_nil _ _))

/-- **The wait ends with the first request.** -/
theorem wait_eq (h : Waits before daemon) {reason : ShutdownReason} {coordinator : Coordinator}
    (hwait : daemon.coordinator.wait = (some reason, coordinator)) :
    before.findSome? Move.request? = some reason := by
  rw [← List.head?_filterMap, ← h.requests]
  unfold Coordinator.wait at hwait
  dsimp only at hwait
  split at hwait
  · next first rest hrequests =>
    cases hwait
    rw [hrequests]
    rfl
  · next hnone =>
    -- without a request both notifiers are there, so the wait would go on
    have hopen : ({ daemon.coordinator with own := false } : Coordinator).isOpen = true := by
      unfold Coordinator.isOpen
      rw [h.notifiers hnone]
      rfl
    rw [if_pos hopen] at hwait
    cases hwait

end Waits

namespace Heeds

/-- A move of another thread than the main one. -/
theorem aside (h : Heeds before daemon) (hmain : next.main = daemon.main)
    (hwaits : Waits before daemon → Waits (before ++ [move]) next) : Heeds (before ++ [move]) next where
  waiting hwaiting := hwaits (h.waiting (hmain.symm.trans hwaiting))
  heard reason hreason := firstRequest_append (h.heard reason (hmain ▸ hreason)) move
  done error hdone := by
    obtain ⟨reason, hfirst, hverdict⟩ := h.done error (hmain.symm.trans hdone)
    exact ⟨reason, firstRequest_append hfirst move, hverdict⟩

/-- The main thread goes on with the request that it has got. -/
theorem carry {reason : ShutdownReason} (hfirst : before.findSome? Move.request? = some reason)
    (hmain : next.main.reason? = some reason) : Heeds (before ++ [move]) next where
  waiting hwaiting := by
    rw [hwaiting] at hmain
    cases hmain
  heard other hother := by
    rw [hmain] at hother
    cases hother
    exact firstRequest_append hfirst move
  done error hdone := by
    rw [hdone] at hmain
    cases hmain

/-- The main thread comes to its end. -/
theorem finish {reason : ShutdownReason} (hfirst : before.findSome? Move.request? = some reason)
    (hmain : next.main = .done (verdict reason)) : Heeds (before ++ [move]) next where
  waiting hwaiting := by
    rw [hmain] at hwaiting
    cases hwaiting
  heard other hother := by
    rw [hmain] at hother
    cases hother
  done error hdone := by
    rw [hmain] at hdone
    cases hdone
    exact ⟨reason, firstRequest_append hfirst move, rfl⟩

/-- **Every move** keeps to the first request. -/
theorem step (h : Heeds before daemon) (hmoves : Moves daemon move next) : Heeds (before ++ [move]) next := by
  cases hmoves with
  | signal log hwatching hhandled => exact h.aside rfl fun hwaits => hwaits.asked rfl rfl rfl rfl
  | ask log => exact h.aside rfl fun hwaits => hwaits.asked rfl rfl rfl rfl
  | goOn hlooking hgo => exact h.aside rfl fun hwaits => hwaits.unasked rfl rfl rfl
  | obey log hlooking hstop =>
    refine h.aside rfl fun hwaits => ?_
    rw [hwaits.stopFlag] at hstop
    cases hstop
  | handOver log haccepting => exact h.aside rfl fun hwaits => hwaits.unasked rfl rfl rfl
  | dismiss log haccepting => exact h.aside rfl fun hwaits => hwaits.unasked rfl rfl rfl
  | again haccepting hpassing => exact h.aside rfl fun hwaits => hwaits.unasked (if_pos hpassing) rfl rfl
  | fail log haccepting hpassing =>
    have hrequest := request?_eq_acceptFailed.2 ⟨_, rfl, hpassing, rfl, rfl⟩
    exact h.aside rfl fun hwaits => hwaits.asked hrequest rfl rfl rfl
  | work log hwork => exact h.aside rfl fun hwaits => hwaits.unasked rfl rfl rfl
  | wake log hwaiting hwait => exact carry ((h.waiting hwaiting).wait_eq hwait) rfl
  | raiseFlag hstopping => exact carry (h.heard _ (by rw [hstopping]; rfl)) rfl
  | join hjoining hended => exact carry (h.heard _ (by rw [hjoining]; rfl)) rfl
  | cancel hcancelling => exact carry (h.heard _ (by rw [hcancelling]; rfl)) rfl
  | drain log hdraining hnobody => exact finish (h.heard _ (by rw [hdraining]; rfl)) rfl
  | giveUp log hdraining hsomebody => exact finish (h.heard _ (by rw [hdraining]; rfl)) rfl

/-- **Every run** does. -/
theorem replay {final : Daemon} (fresh : daemon.Fresh) (hreplay : daemon.replay? moves = some final) :
    Heeds moves final := by
  refine replay?_induction Heeds (heeds_start fresh) ?_ hreplay
  intro before middle move next hmiddle hmoves
  exact hmiddle.step hmoves

end Heeds

end Heeds

/-! ## The first request -/

/-- **The first request decides.** What a coordinator answers is told by its history: the wait gets the
    request that was made first, or goes on until there is one or nobody is left. And a daemon that was
    started returns with the failure of its accept loop just if that was the first request of its run. -/
theorem first_request_decides :
    (∀ history answers coordinator,
      ({} : Coordinator).replay? history = some (answers, coordinator) → ∀ operation,
        (coordinator.perform? operation).map Prod.fst = Coordinator.due history answers operation) ∧
    ∀ plan tree number daemon moves final error,
      (Launch.start plan tree number).outcome = .ready daemon → daemon.replay? moves = some final →
      final.main = .done error →
        (∀ kind message, error = some (.acceptFailed kind message) ↔ FailsFirst moves kind message) ∧
        (error ≠ none → ∃ kind message, error = some (.acceptFailed kind message)) := by
  constructor
  · intro history answers coordinator hreplay
    exact (Coordinator.recalls_start.replay hreplay).answer
  · intro plan tree number daemon moves final error hready hreplay hdone
    obtain ⟨reason, hfirst, hverdict⟩ := (Heeds.replay (Launch.fresh_of_start hready) hreplay).done error hdone
    subst hverdict
    simp only [failsFirst_iff, hfirst]
    cases reason with
    | acceptFailed kind message => simp [verdict]
    | signal number => simp [verdict]
    | requested => simp [verdict]
    | channelClosed => simp [verdict]

/-- A request whose notifier is dropped before the wait, and a daemon that is asked to stop when its accept
    loop has failed already. -/
theorem first_request_decides_dropped :
    let history : List Coordinator.Operation :=
      [.notifier, .clone 0, .notify 1 (.signal 15), .notify 0 .requested, .drop 1, .drop 0]
    let plan : Launch.Plan := { settings := .ok { socketPath := "/s" } }
    let moves : List Move :=
      [.look, .refuse (.os 24), .ask, .wake, .raiseFlag, .join, .cancel, .drain]
    (∃ answers coordinator, ({} : Coordinator).replay? history = some (answers, coordinator) ∧
      (coordinator.perform? .wait).map Prod.fst = some (.waited (some (.signal 15)))) ∧
    ∃ daemon final, (Launch.start plan {} 0).outcome = .ready daemon ∧ daemon.replay? moves = some final ∧
      final.main = .done (some (.acceptFailed (IoError.os 24).kind (IoError.os 24).message)) ∧
      FailsFirst moves (IoError.os 24).kind (IoError.os 24).message := by
  intro history plan moves
  constructor
  · have hsome : (({} : Coordinator).replay? history).isSome = true := by decide
    obtain ⟨⟨answers, coordinator⟩, hreplay⟩ := Option.isSome_iff_exists.1 hsome
    refine ⟨answers, coordinator, hreplay, ?_⟩
    have hdecided : (({} : Coordinator).replay? history).map (Coordinator.decided ∘ Prod.fst) = some false := by
      decide
    rw [hreplay] at hdecided
    rw [first_request_decides.1 history answers coordinator hreplay, Coordinator.due,
      show Coordinator.decided answers = false from Option.some.inj hdecided]
    rfl
  · let settings : Settings := { socketPath := "/s" }
    obtain ⟨telemetry, hunderstood⟩ : ∃ telemetry,
        Telemetry.ofSettings { socketPath := "/s" } = .ok telemetry := ⟨_, rfl⟩
    have hlogged : Launch.Logged plan settings telemetry := ⟨rfl, hunderstood⟩
    have hready := (Launch.listening_of_empty hlogged rfl rfl 0).ready (by decide) rfl
    have hmain : ((Launch.running settings (({} : FileTree).put ["s"] (.socket .stream (.daemon 0)))
        { capacity := settings.deviceCapacity }).replay? moves).map Daemon.main =
          some (.done (some (.acceptFailed (IoError.os 24).kind (IoError.os 24).message))) := by
      decide +kernel
    obtain ⟨final, hreplay, hdone⟩ := Option.map_eq_some_iff.1 hmain
    have hfirst := (first_request_decides.2 _ _ _ _ _ _ _ hready hreplay hdone).1
    exact ⟨_, final, hready, hreplay, hdone, (hfirst _ _).1 rfl⟩

end Daemon

end DeviceBroker
