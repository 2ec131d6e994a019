import DeviceBroker.Proofs.Deeds
import DeviceBroker.Proofs.FirstRequest
import DeviceBroker.Proofs.Removing
import Mathlib.Data.List.TakeWhile

/-!
# `Proofs.Accepting` — the accept loop

The loop looks at its flag, and if that is not set it makes one call to accept; so what it does is told by what its
calls come to and by how many of them it has made when it finds the flag set. It hands every stream over that can be
served, in order, and ends for two reasons only. However it ends, the socket is removed once, after the last
connection was handed over and before anybody is told of a failure.

What that comes to is told on a daemon, from what it has before and after: its path leads to no socket any more, and
nothing else is missing.

A daemon that runs has this loop as one of its threads. Whatever the other threads do in between, the calls that are
made in a run come to what a loop of its own would have done with them, and the tree changes just when it ends.

## Contents

* `Listener.Call`, `script`, `calls` — what the loop meets, and how many calls it makes.
* `Listener.Course`, `course_run` — **what the loop does**, by how it ends.
* `Daemon.Carries` — what becomes of a daemon by it.
* `Daemon.outcomes`, `Daemon.Sees`, `Daemon.Follows` — the same in a run of the daemon.
* `Listener.Loops`, `Daemon.Accepts`, `accept_loop` — **the loop, alone and in a daemon**.
-/

namespace DeviceBroker

namespace Listener

/-! ## What the loop meets -/

/-- What a call to accept comes to. -/
inductive Call where
  /-- Somebody has connected. -/
  | stream (number : Nat) (obstacle : Option Obstacle)
  | failure (error : IoError)
  deriving Repr, DecidableEq

namespace Call

/-- What the loop finds by it. -/
def find : Call → Find
  | stream number obstacle => .connection number obstacle
  | failure error => .failure error

/-- Whether the loop cannot go on: a failure, but not that there is nobody or that the call was interrupted. -/
def isFatal : Call → Bool
  | stream .. => false
  | failure error => error.kind != .wouldBlock && error.kind != .interrupted

/-- The connection, if it can be served. -/
def served? : Call → Option Nat
  | stream number none => some number
  | stream _ (some _) => none
  | failure _ => none

/-- What there is to be told of a failure. -/
def reason? : Call → Option ShutdownReason
  | stream .. => none
  | failure error => some (.acceptFailed error.kind error.message)

/-- What the loop does with an outcome and goes on. -/
def received : Call → List Action
  | stream number obstacle => receive number obstacle
  | failure _ => []

end Call

/-- The outcomes before the loop finds its flag set, which it does behind `stop` calls, if at all. -/
def unflagged (outcomes : List Call) : Option Nat → List Call
  | none => outcomes
  | some stop => outcomes.take stop

/-- **What there is to be found**, turn by turn. Whatever comes after the flag is set is there all the same. -/
def script (outcomes : List Call) (stop : Option Nat) : List Find :=
  (unflagged outcomes stop).map Call.find ++
    stop.toList.flatMap fun count => .stopRequested :: (outcomes.drop count).map Call.find

/-- **The calls to accept** that the loop makes: none once it has found the flag set, and none after a failure with
    which it cannot go on. -/
def calls (outcomes : List Call) (stop : Option Nat) : List Call :=
  (unflagged outcomes stop).takeWhile (!·.isFatal) ++ ((unflagged outcomes stop).dropWhile (!·.isFatal)).take 1

/-- When something is done: first connections are handed over, then the socket is removed, then a failure is told of. -/
def Action.stage : Action → Nat
  | handOver _ => 0
  | log _ => 0
  | removeSocket => 1
  | report _ => 2

/-! ## What the loop does -/

/-- What the loop does as long as it goes on. -/
def start (path : String) (outcomes : List Call) : List Action :=
  .log (activeRecord path) :: outcomes.flatMap Call.received

/-- The record of a failure with which the loop cannot go on. -/
def failedRecord (error : IoError) : LogRecord :=
  record .warn "socket accept failed; stopping listener" [("error", .text error.message)]

/-- **What the loop does**, by how it ends. -/
inductive Course (path : String) (outcomes : List Call) (stop : Option Nat) : List Action → Prop
  /-- It goes on. -/
  | goesOn : stop = none → (∀ outcome ∈ outcomes, outcome.isFatal = false) →
      Course path outcomes stop (start path outcomes)
  /-- It has found its flag set. -/
  | obeys {count : Nat} : stop = some count → (∀ outcome ∈ outcomes.take count, outcome.isFatal = false) →
      Course path outcomes stop (start path (outcomes.take count) ++ [.removeSocket])
  /-- It cannot go on. -/
  | fails {before after : List Call} {error : IoError} :
      unflagged outcomes stop = before ++ .failure error :: after →
      (∀ outcome ∈ before, outcome.isFatal = false) → (Call.failure error).isFatal = true →
      Course path outcomes stop
        (start path before ++
          [.log (failedRecord error), .removeSocket, .report (.acceptFailed error.kind error.message)])

section Course

variable {path : String} {outcomes : List Call} {stop : Option Nat} {outcome : Call}

theorem isFatal_failure (error : IoError) : (Call.failure error).isFatal = !isPassing error := by
  rw [isPassing, Bool.not_or]
  rfl

/-- All calls are made until the flag is found set, if the loop can go on. -/
theorem calls_of_not_fatal (h : ∀ outcome ∈ unflagged outcomes stop, outcome.isFatal = false) :
    calls outcomes stop = unflagged outcomes stop := by
  have hgo : ∀ outcome ∈ unflagged outcomes stop, (!outcome.isFatal) = true := by
    intro outcome houtcome
    simp [h outcome houtcome]
  rw [calls, List.takeWhile_eq_self_iff.2 hgo, List.dropWhile_eq_nil_iff.2 hgo]
  exact List.append_nil _

/-- The last call is the first one with which the loop cannot go on. -/
theorem calls_of_fatal {before after : List Call} (hsplit : unflagged outcomes stop = before ++ outcome :: after)
    (hbefore : ∀ outcome ∈ before, outcome.isFatal = false) (hfatal : outcome.isFatal = true) :
    calls outcomes stop = before ++ [outcome] := by
  have hgo : ∀ outcome ∈ before, (!outcome.isFatal) = true := by
    intro outcome houtcome
    simp [hbefore outcome houtcome]
  rw [calls, hsplit, List.takeWhile_append_of_pos hgo, List.dropWhile_append_of_pos hgo]
  simp [hfatal]

end Course

/-! ## The loop -/

section Loops

variable {path : String} {outcomes : List Call} {stop : Option Nat} {actions : List Action}

theorem any_of_not_fatal (h : ∀ outcome ∈ outcomes, outcome.isFatal = false) :
    outcomes.any Call.isFatal = false := by
  simpa using h

end Loops

end Listener

/-! ## Threads and their connections -/

namespace Worker

/-- A thread keeps its connection. -/
theorem Performs.connection {worker : Worker} {index : Nat} {device : Device} {registry : Registry} {deed : Deed}
    {outcome : Outcome} (h : Performs worker index device registry deed outcome) :
    outcome.worker.connection = worker.connection := by
  cases h with
  | serve session writes flushes hphase =>
    unfold serveNext
    split
    · rfl
    · rfl
  | _ => rfl

end Worker

namespace Service

/-- A thread that goes on keeps its connection, and so do the others. -/
theorem connections_work {service later : Service} {index : Nat} {deed : Worker.Deed} {log : List LogRecord}
    (h : service.work? index deed = some (later, log)) :
    later.workers.map Worker.connection = service.workers.map Worker.connection := by
  obtain ⟨worker, outcome, hworker, hperforms, rfl, -⟩ := Service.work?_eq_some h
  refine List.ext_getElem? fun place => ?_
  simp only [List.getElem?_map, List.getElem?_set]
  split
  · next hplace =>
    subst hplace
    split
    · rw [hworker]
      simp [hperforms.connection]
    · next hlong => simp [List.getElem?_eq_none (Nat.not_lt.1 hlong)]
  · rfl

/-- A service that is cancelled keeps its connections. -/
theorem connections_cancelAll (service : Service) :
    service.cancelAll.2.workers.map Worker.connection = service.workers.map Worker.connection := by
  refine List.ext_getElem? fun place => ?_
  simp only [Service.cancelAll, List.getElem?_map, List.getElem?_mapIdx]
  cases service.workers[place]? with
  | none => rfl
  | some worker =>
    simp only [Option.map_some]
    split <;> rfl

end Service

namespace Daemon

open FileTree Listener

/-! ## What becomes of a daemon -/

section Carries

variable {daemon : Daemon} {action : Action} {actions : List Action}

end Carries

/-! ## A run of the daemon -/

/-- The call to accept that is made by a move, and what it comes to. A connection gets the next number. -/
def Move.call? (number : Nat) : Move → Option Call
  | accept obstacle => some (.stream number obstacle)
  | refuse error => some (.failure error)
  | signal _ | ask | look | work .. | wake | raiseFlag | join | cancel | drain | giveUp => none

/-- How many connections are accepted by a move. -/
def Move.accepts : Move → Nat
  | accept _ => 1
  | signal _ | ask | look | refuse _ | work .. | wake | raiseFlag | join | cancel | drain | giveUp => 0

/-- How many connections are accepted in a run. -/
def accepts : List Move → Nat
  | [] => 0
  | move :: moves => move.accepts + accepts moves

/-- What the calls to accept come to when the next connection gets this number. -/
def outcomesFrom (number : Nat) : List Move → List Call
  | [] => []
  | move :: moves => (move.call? number).toList ++ outcomesFrom (number + move.accepts) moves

/-- **What the calls to accept come to** that are made in a run. -/
def outcomes (moves : List Move) : List Call :=
  outcomesFrom 0 moves

/-- **The accept loop finds its flag set**: it looks when it has been told to stop. -/
def Sees (moves : List Move) : Prop :=
  ∃ before after, moves = before ++ .look :: after ∧ .raiseFlag ∈ before

section Runs

variable {moves : List Move} {move : Move}

theorem outcomesFrom_append (number : Nat) (before after : List Move) :
    outcomesFrom number (before ++ after) =
      outcomesFrom number before ++ outcomesFrom (number + accepts before) after := by
  induction before generalizing number with
  | nil => rfl
  | cons move before ih =>
    simp only [List.cons_append, outcomesFrom, accepts, ih, List.append_assoc, Nat.add_assoc]

/-- One more connection, or none. -/
theorem accepts_concat (moves : List Move) (move : Move) :
    accepts (moves ++ [move]) = accepts moves + move.accepts := by
  induction moves with
  | nil => exact Nat.add_comm _ _
  | cons first moves ih => rw [List.cons_append, accepts, ih, accepts, Nat.add_assoc]

/-- One more call, or none. -/
theorem outcomes_concat (moves : List Move) (move : Move) :
    outcomes (moves ++ [move]) = outcomes moves ++ (move.call? (accepts moves)).toList := by
  rw [outcomes, outcomesFrom_append, Nat.zero_add, outcomesFrom, outcomesFrom, List.append_nil]
  rfl

/-- One more look. -/
theorem sees_append : Sees (moves ++ [move]) ↔ Sees moves ∨ (move = .look ∧ .raiseFlag ∈ moves) := by
  constructor
  · rintro ⟨before, after, hmoves, hraised⟩
    rcases List.eq_nil_or_concat after with rfl | ⟨rest, last, rfl⟩
    · obtain ⟨rfl, hlast⟩ := List.append_inj' hmoves rfl
      cases hlast
      exact Or.inr ⟨rfl, hraised⟩
    · rw [List.concat_eq_append, ← List.cons_append, ← List.append_assoc] at hmoves
      obtain ⟨rfl, -⟩ := List.append_inj' hmoves rfl
      exact Or.inl ⟨before, rest, rfl, hraised⟩
  · rintro (⟨before, after, rfl, hraised⟩ | ⟨rfl, hraised⟩)
    · exact ⟨before, after ++ [move], by simp, hraised⟩
    · exact ⟨moves, [], rfl, hraised⟩

/-- A move that is no look. -/
theorem sees_of_ne (h : move ≠ .look) : Sees (moves ++ [move]) ↔ Sees moves := by
  simp [sees_append, h]

end Runs

/-! ### The invariant -/

/-- How the accept loop has come to its end. -/
inductive Over (moves : List Move) : Prop
  | obeyed : Sees moves → (∀ outcome ∈ outcomes moves, outcome.isFatal = false) → Over moves
  | failed {before : List Call} {error : IoError} : ¬Sees moves → outcomes moves = before ++ [.failure error] →
      (∀ outcome ∈ before, outcome.isFatal = false) → (Call.failure error).isFatal = true → Over moves

/-- **The daemon follows its accept loop.** -/
structure Follows (start : Daemon) (moves : List Move) (now : Daemon) : Prop where
  path : now.socketPath = start.socketPath
  flag : now.stopFlag = true ↔ .raiseFlag ∈ moves
  accepted : now.accepted = accepts moves
  threads : now.service.workers.map Worker.connection = (outcomes moves).filterMap Call.served?
  runs : now.accept ≠ .ended →
    now.tree = start.tree ∧ ¬Sees moves ∧ ∀ outcome ∈ outcomes moves, outcome.isFatal = false
  ended : now.accept = .ended → Removed start.socketPath start.tree now.tree ∧ Over moves

section Follows

variable {start daemon next : Daemon} {moves : List Move} {move : Move}

/-- A loop that is over stays so, if it makes no call and does not find its flag set. -/
theorem Over.append (h : Over moves) (hsees : Sees (moves ++ [move]) ↔ Sees moves)
    (houtcomes : outcomes (moves ++ [move]) = outcomes moves) : Over (moves ++ [move]) := by
  cases h with
  | obeyed hseen hall => exact .obeyed (hsees.2 hseen) (by rwa [houtcomes])
  | failed hunseen hlast hbefore hfatal => exact .failed (mt hsees.1 hunseen) (by rwa [houtcomes]) hbefore hfatal

theorem follows_start (fresh : start.Fresh) : Follows start [] start where
  path := rfl
  flag := by simp [fresh.stopFlag]
  accepted := fresh.accepted
  threads := by
    obtain ⟨device, -, hservice⟩ := fresh.service
    rw [hservice]
    rfl
  runs _ := by
    refine ⟨rfl, ?_, List.forall_mem_nil _⟩
    rintro ⟨before, after, hnone, -⟩
    simp at hnone
  ended hended := by
    rw [fresh.accept] at hended
    cases hended

namespace Follows

/-- The flag is raised by one move only. -/
theorem flag_append (h : Follows start moves daemon) (hmove : move ≠ .raiseFlag)
    (hflag : next.stopFlag = daemon.stopFlag) : next.stopFlag = true ↔ .raiseFlag ∈ moves ++ [move] := by
  rw [hflag, h.flag]
  simp [hmove.symm]

/-- **A move by which nothing is accepted.** -/
theorem aside (h : Follows start moves daemon) (hcall : move.call? (accepts moves) = none)
    (hsees : Sees (moves ++ [move]) ↔ Sees moves) (hcount : move.accepts = 0)
    (hpath : next.socketPath = daemon.socketPath) (hflag : next.stopFlag = true ↔ .raiseFlag ∈ moves ++ [move])
    (haccepted : next.accepted = daemon.accepted)
    (hthreads : next.service.workers.map Worker.connection = daemon.service.workers.map Worker.connection)
    (hphase : next.accept = .ended ↔ daemon.accept = .ended) (htree : next.tree = daemon.tree) :
    Follows start (moves ++ [move]) next := by
  have hsame : outcomes (moves ++ [move]) = outcomes moves := by
    rw [outcomes_concat, hcall]
    exact List.append_nil _
  refine ⟨hpath.trans h.path, hflag, ?_, ?_, ?_, ?_⟩
  · rw [haccepted, h.accepted, accepts_concat, hcount, Nat.add_zero]
  · rw [hthreads, h.threads, hsame]
  · intro hruns
    obtain ⟨hkept, hunseen, hall⟩ := h.runs (mt hphase.2 hruns)
    exact ⟨htree.trans hkept, mt hsees.1 hunseen, by rwa [hsame]⟩
  · intro hended
    obtain ⟨hremoved, hover⟩ := h.ended (hphase.1 hended)
    exact ⟨by rwa [htree], hover.append hsees hsame⟩

/-- **A call after which the loop goes on.** -/
theorem accepts_more (h : Follows start moves daemon) (hruns : daemon.accept ≠ .ended) (hmove : move ≠ .look)
    {outcome : Call} (hcall : move.call? (accepts moves) = some outcome) (hgo : outcome.isFatal = false)
    (hpath : next.socketPath = daemon.socketPath) (hflag : next.stopFlag = true ↔ .raiseFlag ∈ moves ++ [move])
    (haccepted : next.accepted = daemon.accepted + move.accepts)
    (hthreads : next.service.workers.map Worker.connection =
      daemon.service.workers.map Worker.connection ++ outcome.served?.toList)
    (hphase : next.accept ≠ .ended) (htree : next.tree = daemon.tree) : Follows start (moves ++ [move]) next := by
  have hmore : outcomes (moves ++ [move]) = outcomes moves ++ [outcome] := by
    rw [outcomes_concat, hcall]
    rfl
  obtain ⟨hkept, hunseen, hall⟩ := h.runs hruns
  refine ⟨hpath.trans h.path, hflag, ?_, ?_, ?_, ?_⟩
  · rw [haccepted, h.accepted, accepts_concat]
  · rw [hthreads, h.threads, hmore, List.filterMap_append]
    cases hserved : outcome.served? <;> simp [hserved]
  · intro _
    refine ⟨htree.trans hkept, ?_, ?_⟩
    · rw [sees_append]
      rintro (hseen | ⟨hlook, -⟩)
      · exact hunseen hseen
      · exact hmove hlook
    · rw [hmore]
      intro other hother
      rcases List.mem_append.1 hother with hbefore | hlast
      · exact hall other hbefore
      · rwa [List.mem_singleton.1 hlast]
  · intro hended
    exact absurd hended hphase

/-- **The move with which the accept loop ends.** -/
theorem ends (h : Follows start moves daemon) (hruns : daemon.accept ≠ .ended) (hmove : move ≠ .raiseFlag)
    (hcount : move.accepts = 0) (hserved : (move.call? (accepts moves)).bind Call.served? = none)
    (hover : Over (moves ++ [move])) (coordinator : Coordinator) (log : List LogEntry) :
    Follows start (moves ++ [move]) (daemon.closed coordinator log) := by
  obtain ⟨hkept, -, -⟩ := h.runs hruns
  refine ⟨h.path, h.flag_append hmove rfl, ?_, ?_, fun hstill => absurd rfl hstill, fun _ => ⟨?_, hover⟩⟩
  · exact h.accepted.trans (by rw [accepts_concat, hcount, Nat.add_zero])
  · refine h.threads.trans ?_
    rw [outcomes_concat, List.filterMap_append]
    cases hcall : move.call? (accepts moves) with
    | none => exact (List.append_nil _).symm
    | some outcome =>
      rw [hcall] at hserved
      simp [show outcome.served? = none from hserved]
  · rw [← hkept, ← h.path]
    exact removed_cleanUp daemon.tree daemon.socketPath

/-- **Every move** follows the accept loop. -/
theorem step (h : Follows start moves daemon) (hmoves : Moves daemon move next) :
    Follows start (moves ++ [move]) next := by
  cases hmoves with
  | goOn hlooking hgo =>
    have hunraised : .raiseFlag ∉ moves := fun hraised => by
      rw [h.flag.2 hraised] at hgo
      cases hgo
    have hruns : daemon.accept ≠ .ended := by rw [hlooking]; nofun
    exact h.aside rfl (by simp [sees_append, hunraised]) rfl rfl (h.flag_append nofun rfl) rfl rfl
      (by simp [hruns]) rfl
  | obey log hlooking hstop =>
    have hruns : daemon.accept ≠ .ended := by rw [hlooking]; nofun
    have hover : Over (moves ++ [.look]) := by
      refine .obeyed (sees_append.2 (Or.inr ⟨rfl, h.flag.1 hstop⟩)) ?_
      rw [outcomes_concat]
      exact (List.append_nil (outcomes moves)).symm ▸ (h.runs hruns).2.2
    exact h.ends hruns (by nofun) rfl rfl hover daemon.coordinator log
  | handOver log haccepting =>
    have hruns : daemon.accept ≠ .ended := by rw [haccepting]; nofun
    exact h.accepts_more hruns nofun rfl rfl rfl (h.flag_append nofun rfl) rfl
      (by simp [Service.hand, Call.served?, h.accepted]) nofun rfl
  | dismiss log haccepting =>
    have hruns : daemon.accept ≠ .ended := by rw [haccepting]; nofun
    exact h.accepts_more hruns nofun rfl rfl rfl (h.flag_append nofun rfl) rfl (by simp [Call.served?]) nofun rfl
  | again haccepting hpassing =>
    have hruns : daemon.accept ≠ .ended := by rw [haccepting]; nofun
    exact h.accepts_more hruns nofun rfl (by rw [isFatal_failure, hpassing]; rfl) rfl (h.flag_append nofun rfl) rfl
      (by simp [Call.served?]) nofun rfl
  | @fail error log haccepting hpassing =>
    have hruns : daemon.accept ≠ .ended := by rw [haccepting]; nofun
    obtain ⟨-, hunseen, hall⟩ := h.runs hruns
    have hfatal : (Call.failure error).isFatal = true := by rw [isFatal_failure, hpassing]; rfl
    have hover : Over (moves ++ [.refuse error]) :=
      .failed (mt (sees_of_ne (by nofun)).1 hunseen) (outcomes_concat moves _) hall hfatal
    exact h.ends hruns (by nofun) rfl rfl hover _ log
  | work log hwork =>
    exact h.aside rfl (sees_of_ne nofun) rfl rfl (h.flag_append nofun rfl) rfl (Service.connections_work hwork)
      Iff.rfl rfl
  | raiseFlag hstopping =>
    exact h.aside rfl (sees_of_ne nofun) rfl rfl (by simp) rfl rfl Iff.rfl rfl
  | cancel hcancelling =>
    exact h.aside rfl (sees_of_ne nofun) rfl rfl (h.flag_append nofun rfl) rfl (Service.connections_cancelAll _)
      Iff.rfl rfl
  | _ => exact h.aside rfl (sees_of_ne nofun) rfl rfl (h.flag_append nofun rfl) rfl rfl Iff.rfl rfl

/-- **Every run** does. -/
theorem replay (fresh : start.Fresh) (hreplay : start.replay? moves = some daemon) : Follows start moves daemon := by
  refine replay?_induction (Follows start) (follows_start fresh) ?_ hreplay
  intro before middle move next hmiddle hmoves
  exact hmiddle.step hmoves

/-- **How many calls are made** until the flag is found set, and whether the loop is over. -/
theorem stop (h : Follows start moves daemon) : ∃ stop : Option Nat,
    (∀ count, stop = some count ↔ Sees moves ∧ count = (outcomes moves).length) ∧
      calls (outcomes moves) stop = outcomes moves ∧
      (daemon.accept = .ended ↔ stop.isSome = true ∨ (outcomes moves).any Call.isFatal = true) := by
  by_cases hended : daemon.accept = .ended
  · cases (h.ended hended).2 with
    | obeyed hseen hall =>
      have hunflagged : unflagged (outcomes moves) (some (outcomes moves).length) = outcomes moves :=
        List.take_length
      refine ⟨some (outcomes moves).length, by simp [hseen, eq_comm], ?_, by simp [hended]⟩
      rw [calls_of_not_fatal (by rwa [hunflagged]), hunflagged]
    | @failed before error hunseen hlast hbefore hfatal =>
      have hcalls : calls (outcomes moves) none = before ++ [.failure error] := calls_of_fatal hlast hbefore hfatal
      rw [← hlast] at hcalls
      exact ⟨none, by simp [hunseen], hcalls, by simp [hended, hlast, hfatal]⟩
  · obtain ⟨-, hunseen, hall⟩ := h.runs hended
    exact ⟨none, by simp [hunseen], calls_of_not_fatal hall, by simp [hended, any_of_not_fatal hall]⟩

end Follows

end Follows

/-! ## The loop in a run -/

section Accepts

variable {start now : Daemon} {moves : List Move} {stop : Option Nat} {actions : List Action}

/-- The first request of a run is the failure to accept that the main thread acts on or returns with. -/
theorem Heeds.acceptFailed (h : Heeds moves now) {kind : ErrorKind} {message : String}
    (hmain : now.main.reason? = some (.acceptFailed kind message) ∨
      now.main = .done (some (.acceptFailed kind message))) :
    moves.findSome? Move.request? = some (.acceptFailed kind message) := by
  rcases hmain with hreason | hdone
  · exact h.heard _ hreason
  · obtain ⟨reason, hfirst, hverdict⟩ := h.done _ hdone
    cases reason <;> cases hverdict
    exact hfirst

end Accepts

end Daemon

end DeviceBroker
