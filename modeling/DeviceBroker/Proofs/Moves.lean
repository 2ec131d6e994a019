import DeviceBroker.Launch

/-!
# `Proofs.Moves` — what a daemon can do

A running daemon changes by moves of its threads, and each move changes few of its parts. This file says
once which ones, under which conditions, and leaves open only what is logged. An invariant of the daemon is
then a statement about the moves made so far, kept by each of these cases.

## Contents

* `Daemon.Moves`, `moves_of_step?` — **every move**, when it is possible and what it changes.
* `Moves.of_ended`, `Moves.of_done` — what is still possible when a thread has come to its end.
* `Daemon.replay?_append`, `Daemon.replay?_induction` — runs, from their end.
* `Daemon.Fresh`, `Daemon.fresh_running` — a daemon that has just been started.
-/

namespace DeviceBroker

namespace Daemon

/-! ## Moves -/

/-- The daemon once the accept loop is over: the socket is removed, and the loop's notifier is gone. -/
def closed (daemon : Daemon) (coordinator : Coordinator) (log : List LogEntry) : Daemon :=
  { daemon with
    tree := (Listener.cleanUp daemon.tree daemon.socketPath).1
    accept := .ended
    coordinator := coordinator.drop acceptor
    log }

/-- The error with which the main thread ends. -/
def verdict : ShutdownReason → Option LaunchError
  | .acceptFailed kind message => some (.acceptFailed kind message)
  | .signal _ | .requested | .channelClosed => none

/-- **A move and what it changes**, up to what is logged. -/
inductive Moves (daemon : Daemon) : Move → Daemon → Prop
  /-- A signal arrives. -/
  | signal {number : Int} (log : List LogEntry) :
      daemon.watching = true → number ∈ ShutdownReason.handledSignals →
      Moves daemon (.signal number)
        { daemon with
          watching := false
          coordinator := (daemon.coordinator.notify (.signal number)).2.drop watcher
          log }
  /-- Somebody else asks for a stop. -/
  | ask (log : List LogEntry) :
      Moves daemon .ask { daemon with coordinator := (daemon.coordinator.notify .requested).2, log }
  /-- The accept loop goes on. -/
  | goOn :
      daemon.accept = .looking → daemon.stopFlag = false →
      Moves daemon .look { daemon with accept := .accepting }
  /-- The accept loop stops as it was told. -/
  | obey (log : List LogEntry) :
      daemon.accept = .looking → daemon.stopFlag = true →
      Moves daemon .look (daemon.closed daemon.coordinator log)
  /-- A connection is handed to a thread of its own. -/
  | handOver (log : List LogEntry) :
      daemon.accept = .accepting →
      Moves daemon (.accept none)
        { daemon with
          accepted := daemon.accepted + 1
          service := daemon.service.hand daemon.accepted
          accept := .looking
          log }
  /-- A connection cannot be served and is dropped. -/
  | dismiss {obstacle : Listener.Obstacle} (log : List LogEntry) :
      daemon.accept = .accepting →
      Moves daemon (.accept (some obstacle))
        { daemon with accepted := daemon.accepted + 1, accept := .looking, log }
  /-- There is no connection yet. -/
  | again {error : IoError} :
      daemon.accept = .accepting → Listener.isPassing error = true →
      Moves daemon (.refuse error) { daemon with accept := .looking }
  /-- Accepting fails for good. -/
  | fail {error : IoError} (log : List LogEntry) :
      daemon.accept = .accepting → Listener.isPassing error = false →
      Moves daemon (.refuse error)
        (daemon.closed (daemon.coordinator.notify (.acceptFailed error.kind error.message)).2 log)
  /-- The thread of a connection does something. -/
  | work {worker : Nat} {deed : Worker.Deed} {service : Service} {records : List LogRecord}
      (log : List LogEntry) :
      daemon.service.work? worker deed = some (service, records) →
      Moves daemon (.work worker deed) { daemon with service, log }
  /-- The main thread gets the first request. -/
  | wake {reason : ShutdownReason} {coordinator : Coordinator} (log : List LogEntry) :
      daemon.main = .waiting → daemon.coordinator.wait = (some reason, coordinator) →
      Moves daemon .wake { daemon with coordinator, main := .stopping reason, log }
  /-- The main thread tells the accept loop to stop. -/
  | raiseFlag {reason : ShutdownReason} :
      daemon.main = .stopping reason →
      Moves daemon .raiseFlag { daemon with stopFlag := true, main := .joining reason }
  /-- The main thread finds the accept loop over. -/
  | join {reason : ShutdownReason} :
      daemon.main = .joining reason → daemon.accept = .ended →
      Moves daemon .join { daemon with main := .cancelling reason }
  /-- The main thread cancels the running sessions. -/
  | cancel {reason : ShutdownReason} :
      daemon.main = .cancelling reason →
      Moves daemon .cancel
        { daemon with
          service := daemon.service.cancelAll.2
          main := .draining reason daemon.service.cancelAll.1 }
  /-- The main thread finds no session running. -/
  | drain {reason : ShutdownReason} {cancelled : Nat} (log : List LogEntry) :
      daemon.main = .draining reason cancelled → daemon.service.registry.liveCount = 0 →
      Moves daemon .drain { daemon with main := .done (verdict reason), log }
  /-- The main thread waits no longer. -/
  | giveUp {reason : ShutdownReason} {cancelled : Nat} (log : List LogEntry) :
      daemon.main = .draining reason cancelled → daemon.service.registry.liveCount ≠ 0 →
      Moves daemon .giveUp { daemon with main := .done (verdict reason), log }

section Moves

variable {daemon next : Daemon}

/-- The end of the main thread, apart from what it logs. -/
theorem conclude_eq (daemon : Daemon) (reason : ShutdownReason) :
    ∃ log, daemon.conclude reason = { daemon with main := .done (verdict reason), log } := by
  cases reason with
  | acceptFailed kind message => exact ⟨daemon.log, rfl⟩
  | signal number => exact ⟨_, rfl⟩
  | requested => exact ⟨_, rfl⟩
  | channelClosed => exact ⟨_, rfl⟩

theorem moves_of_signal? {number : Int} (h : daemon.signal? number = some next) :
    Moves daemon (.signal number) next := by
  unfold signal? at h
  split at h
  · next hpossible =>
    cases h
    exact .signal _ hpossible.1 hpossible.2
  · cases h

theorem moves_of_look? (h : daemon.look? = some next) : Moves daemon .look next := by
  unfold look? at h
  split at h
  · next hlooking =>
    split at h
    · next hstop =>
      cases h
      exact .obey _ hlooking hstop
    · next hgo =>
      cases h
      exact .goOn hlooking ((Bool.not_eq_true _).mp hgo)
  · cases h

theorem moves_of_accept? {obstacle : Option Listener.Obstacle} (h : daemon.accept? obstacle = some next) :
    Moves daemon (.accept obstacle) next := by
  unfold accept? at h
  split at h
  · next haccepting =>
    cases h
    cases obstacle with
    | none => exact .handOver _ haccepting
    | some obstacle =>
      cases obstacle with
      | cannotBlock error => exact .dismiss _ haccepting
      | cannotSpawn error => exact .dismiss _ haccepting
  · cases h

theorem moves_of_refuse? {error : IoError} (h : daemon.refuse? error = some next) :
    Moves daemon (.refuse error) next := by
  unfold refuse? at h
  split at h
  · next haccepting =>
    cases h
    unfold turnAccept
    cases hpassing : Listener.isPassing error with
    | true =>
      rw [show Listener.turn (.failure error) = (true, []) from if_pos hpassing]
      exact .again haccepting hpassing
    | false =>
      rw [show Listener.turn (.failure error) = (false, _) from if_neg (by simp [hpassing])]
      exact .fail _ haccepting hpassing
  · cases h

theorem moves_of_work? {worker : Nat} {deed : Worker.Deed} (h : daemon.work? worker deed = some next) :
    Moves daemon (.work worker deed) next := by
  unfold work? at h
  split at h
  · cases h
  · next service records hwork =>
    cases h
    exact .work _ hwork

theorem moves_of_wake? (h : daemon.wake? = some next) : Moves daemon .wake next := by
  unfold wake? at h
  split at h
  · next hwaiting =>
    split at h
    · cases h
    · next reason coordinator hwait =>
      cases h
      exact .wake _ hwaiting hwait
  · cases h

theorem moves_of_raiseFlag? (h : daemon.raiseFlag? = some next) : Moves daemon .raiseFlag next := by
  unfold raiseFlag? at h
  split at h
  · next reason hmain =>
    cases h
    exact .raiseFlag hmain
  · cases h

theorem moves_of_join? (h : daemon.join? = some next) : Moves daemon .join next := by
  unfold join? at h
  split at h
  · next reason hmain =>
    split at h
    · next hended =>
      cases h
      exact .join hmain hended
    · cases h
  · cases h

theorem moves_of_cancel? (h : daemon.cancel? = some next) : Moves daemon .cancel next := by
  unfold cancel? at h
  split at h
  · next reason hmain =>
    cases h
    exact .cancel hmain
  · cases h

theorem moves_of_drain? (h : daemon.drain? = some next) : Moves daemon .drain next := by
  unfold drain? at h
  split at h
  · next reason cancelled hmain =>
    split at h
    · next hnobody =>
      cases h
      obtain ⟨log, hconclude⟩ := conclude_eq (daemon.note .main [drainedRecord cancelled]) reason
      rw [hconclude]
      exact .drain log hmain hnobody
    · cases h
  · cases h

theorem moves_of_giveUp? (h : daemon.giveUp? = some next) : Moves daemon .giveUp next := by
  unfold giveUp? at h
  split at h
  · next reason cancelled hmain =>
    dsimp only at h
    split at h
    · cases h
    · next hsomebody =>
      cases h
      obtain ⟨log, hconclude⟩ :=
        conclude_eq (daemon.note .main [undrainedRecord daemon.service.registry.liveCount]) reason
      rw [hconclude]
      exact .giveUp log hmain hsomebody
  · cases h

/-- **Every move that is made** is one of these. -/
theorem moves_of_step? {move : Move} (h : daemon.step? move = some next) : Moves daemon move next := by
  cases move with
  | signal number => exact moves_of_signal? h
  | ask =>
    cases h
    exact .ask _
  | look => exact moves_of_look? h
  | accept obstacle => exact moves_of_accept? h
  | refuse error => exact moves_of_refuse? h
  | work worker deed => exact moves_of_work? h
  | wake => exact moves_of_wake? h
  | raiseFlag => exact moves_of_raiseFlag? h
  | join => exact moves_of_join? h
  | cancel => exact moves_of_cancel? h
  | drain => exact moves_of_drain? h
  | giveUp => exact moves_of_giveUp? h

/-- **When the accept loop is over** it stays so, and nothing is handed over any more: a move is one of a
    thread, or cancels the sessions, or leaves the service alone. -/
theorem Moves.of_ended {move : Move} (hended : daemon.accept = .ended) (hmoves : Moves daemon move next) :
    next.accept = .ended ∧
      ((∃ index deed log, daemon.service.work? index deed = some (next.service, log)) ∨
        (∃ reason, daemon.main = .cancelling reason) ∧ next.service = daemon.service.cancelAll.2 ∨
        next.service = daemon.service) := by
  cases hmoves with
  | goOn hlooking hgo => cases hended.symm.trans hlooking
  | obey log hlooking hstop => cases hended.symm.trans hlooking
  | handOver log haccepting => cases hended.symm.trans haccepting
  | dismiss log haccepting => cases hended.symm.trans haccepting
  | again haccepting hpassing => cases hended.symm.trans haccepting
  | fail log haccepting hpassing => cases hended.symm.trans haccepting
  | work log hwork => exact ⟨hended, Or.inl ⟨_, _, _, hwork⟩⟩
  | cancel hcancelling => exact ⟨hended, Or.inr (Or.inl ⟨⟨_, hcancelling⟩, rfl⟩)⟩
  | _ => exact ⟨hended, Or.inr (Or.inr rfl)⟩

/-- A main thread that is done stays so. -/
theorem Moves.of_done {move : Move} {error : Option LaunchError} (hdone : daemon.main = .done error)
    (hmoves : Moves daemon move next) : next.main = .done error := by
  cases hmoves with
  | wake log hwaiting hwait => cases hdone.symm.trans hwaiting
  | raiseFlag hstopping => cases hdone.symm.trans hstopping
  | join hjoining hended => cases hdone.symm.trans hjoining
  | cancel hcancelling => cases hdone.symm.trans hcancelling
  | drain log hdraining hnobody => cases hdone.symm.trans hdraining
  | giveUp log hdraining hsomebody => cases hdone.symm.trans hdraining
  | _ => exact hdone

end Moves

/-! ## Runs -/

section Runs

variable {daemon final : Daemon}

theorem replay?_append (daemon : Daemon) (before after : List Move) :
    daemon.replay? (before ++ after) = (daemon.replay? before).bind fun middle => middle.replay? after := by
  unfold replay?
  rw [List.foldlM_append]
  rfl

/-- An invariant of the moves made so far is kept by more of them. Induction over the moves to come, with
    those that were made in front of them. -/
theorem holds_append {holds : List Move → Daemon → Prop}
    (step : ∀ before middle move next, holds before middle → Moves middle move next →
      holds (before ++ [move]) next)
    {before after : List Move} (hbefore : holds before daemon) (h : daemon.replay? after = some final) :
    holds (before ++ after) final := by
  induction after generalizing before daemon with
  | nil =>
    cases h
    rw [List.append_nil]
    exact hbefore
  | cons move after ih =>
    obtain ⟨next, hnext, hrest⟩ := Option.bind_eq_some_iff.1 h
    rw [List.append_cons]
    exact ih (step before daemon move next hbefore (moves_of_step? hnext)) hrest

/-- **An invariant of the moves made so far** holds at the end of a run. -/
theorem replay?_induction (holds : List Move → Daemon → Prop) {moves : List Move} (start : holds [] daemon)
    (step : ∀ before middle move next, holds before middle → Moves middle move next →
      holds (before ++ [move]) next)
    (h : daemon.replay? moves = some final) : holds moves final :=
  holds_append step start h

/-- The last move of a run. -/
theorem replay?_concat {moves : List Move} {move : Move} (h : daemon.replay? (moves ++ [move]) = some final) :
    ∃ middle, daemon.replay? moves = some middle ∧ Moves middle move final := by
  rw [replay?_append] at h
  obtain ⟨middle, hmiddle, hlast⟩ := Option.bind_eq_some_iff.1 h
  obtain ⟨last, hstep, hnil⟩ := Option.bind_eq_some_iff.1 hlast
  cases hnil
  exact ⟨middle, hmiddle, moves_of_step? hstep⟩

end Runs

/-! ## The start -/

/-- **A daemon that has just been started**: nobody has connected, and nobody has asked for a stop. -/
structure Fresh (daemon : Daemon) : Prop where
  service : ∃ device : Device, device.owner = none ∧ daemon.service = { device }
  accepted : daemon.accepted = 0
  accept : daemon.accept = .looking
  stopFlag : daemon.stopFlag = false
  watching : daemon.watching = true
  coordinator : daemon.coordinator = { notifiers := [true, true] }
  main : daemon.main = .waiting

/-- A daemon at the moment when its accept loop has started. -/
theorem fresh_running (settings : Settings) (tree : FileTree) {device : Device}
    (unclaimed : device.owner = none) : (Launch.running settings tree device).Fresh :=
  ⟨⟨device, unclaimed, rfl⟩, rfl, rfl, rfl, rfl, rfl, rfl⟩

end Daemon

end DeviceBroker
