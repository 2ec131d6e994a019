import DeviceBroker.Proofs.Moves

/-!
# `Proofs.Stages` — how far a start comes

A start goes through its stages in order, and each needs those before it to have succeeded. So a start is
told by the last stage it came to and by what happened there. This file lists the ways, each with the tree
and the daemon that it leaves; what the stages do to a tree is the matter of other files.

## Contents

* `Stage`, `LaunchError.stage?` — the stages, and which one an error is of.
* `Logged`, `Settled`, `Listening` — **a start that came so far**.
* `Course`, `course_of_start` — **every way that a start can go**.
* `fresh_of_start` — a start that succeeds.
* `AgreeUpTo`, `start_eq_of_agree` — **the stages behind a failure** are not looked at.
-/

namespace DeviceBroker

/-! ## Stages -/

/-- The stages of a start, in order. -/
inductive Stage where
  | settings | log | directory | signals | socket | loop
  deriving Repr, DecidableEq

/-- The stage at which an error ends a start; nothing if it is not one of a start. -/
def LaunchError.stage? : LaunchError → Option Stage
  | settings _ => some .settings
  | telemetry _ => some .log
  | socket _ => some .directory
  | shutdown _ => some .signals
  | listener (.nonBlocking _) | listener (.spawn _) => some .loop
  | listener (.bind ..) | listener (.inUse _) | listener (.notSocket _) | listener (.metadata ..)
  | listener (.probe ..) | listener (.cleanup ..) => some .socket
  | listener .threadPanic | acceptFailed .. => none

namespace Launch

/-- There are settings, and the log that they ask for is understood. -/
structure Logged (plan : Plan) (settings : Settings) (telemetry : Telemetry) : Prop where
  given : plan.settings = .ok settings
  understood : Telemetry.ofSettings settings = .ok telemetry

/-- Moreover the socket's directory is there, and signals are listened for. -/
structure Settled (plan : Plan) (tree : FileTree) (settings : Settings) (telemetry : Telemetry)
    (made : FileTree) : Prop extends Logged plan settings telemetry where
  prepared : SocketDirectory.prepare tree settings.socketPath = (none, made)
  hears : plan.deafness = none

/-- Moreover the socket is bound. -/
structure Listening (plan : Plan) (tree : FileTree) (number : Nat) (settings : Settings)
    (telemetry : Telemetry) (made bound : FileTree) : Prop
    extends Settled plan tree settings telemetry made where
  succeeds : (Listener.bind made settings.socketPath (.daemon number)).error = none
  binds : (Listener.bind made settings.socketPath (.daemon number)).tree = bound

/-- **A way that a start can go**, by the last stage it comes to. -/
inductive Course (plan : Plan) (tree : FileTree) (number : Nat) : Launch → Prop
  /-- There are no settings. -/
  | unread {error : Settings.LoadError} :
      plan.settings = .error error → (∀ cut, error ≠ .broken cut) →
      Course plan tree number { tree, outcome := .refused (.settings error) }
  /-- The reading of the settings breaks down. -/
  | settingsBreak {cut : Text.BadCut} :
      plan.settings = .error (.broken cut) →
      Course plan tree number { tree, outcome := .crashed }
  /-- The filter is not understood. -/
  | unlogged {settings : Settings} {error : TelemetryError} :
      plan.settings = .ok settings → Telemetry.ofSettings settings = .error error →
      (∀ cut, error ≠ .broken cut) →
      Course plan tree number { tree, outcome := .refused (.telemetry error) }
  /-- The reading of the filter breaks down. -/
  | filterBreaks {settings : Settings} {cut : Text.BadCut} :
      plan.settings = .ok settings → Telemetry.ofSettings settings = .error (.broken cut) →
      Course plan tree number { tree, outcome := .crashed }
  /-- The socket's directory cannot be had. -/
  | homeless {settings : Settings} {telemetry : Telemetry} {made : FileTree}
      {error : SocketDirectory.Error} :
      Logged plan settings telemetry → SocketDirectory.prepare tree settings.socketPath = (some error, made) →
      Course plan tree number
        { tree := made, outcome := .refused (.socket error), telemetry := some telemetry,
          log := byMain [startingRecord settings] }
  /-- Signals cannot be listened for. -/
  | deaf {settings : Settings} {telemetry : Telemetry} {made : FileTree} {error : ShutdownError} :
      Logged plan settings telemetry → SocketDirectory.prepare tree settings.socketPath = (none, made) →
      plan.deafness = some error →
      Course plan tree number
        { tree := made, outcome := .refused (.shutdown error), telemetry := some telemetry,
          log := byMain [startingRecord settings] }
  /-- The socket cannot be bound. -/
  | unbound {settings : Settings} {telemetry : Telemetry} {made : FileTree} {error : Listener.Error}
      (answered : Option Holder) (log : List LogEntry) :
      Settled plan tree settings telemetry made →
      (Listener.bind made settings.socketPath (.daemon number)).error = some error →
      Course plan tree number
        { tree := (Listener.bind made settings.socketPath (.daemon number)).tree,
          outcome := .refused (.listener error), telemetry := some telemetry, log, answered }
  /-- The device is too large to be made. -/
  | oversized {settings : Settings} {telemetry : Telemetry} {made bound : FileTree} (log : List LogEntry) :
      Listening plan tree number settings telemetry made bound →
      Device.maxAllocation < settings.deviceCapacity →
      Course plan tree number { tree := bound, outcome := .crashed, telemetry := some telemetry, log }
  /-- The accept loop cannot be started. -/
  | unstarted {settings : Settings} {telemetry : Telemetry} {made bound : FileTree}
      {failure : Listener.StartFailure} (log : List LogEntry) :
      Listening plan tree number settings telemetry made bound →
      settings.deviceCapacity ≤ Device.maxAllocation → plan.startFailure = some failure →
      Course plan tree number
        { tree := (Listener.cleanUp bound settings.socketPath).1,
          outcome := .refused (.listener failure.error), telemetry := some telemetry, log }
  /-- The daemon runs. -/
  | runs {settings : Settings} {telemetry : Telemetry} {made bound : FileTree} (log : List LogEntry) :
      Listening plan tree number settings telemetry made bound →
      settings.deviceCapacity ≤ Device.maxAllocation → plan.startFailure = none →
      Course plan tree number
        { tree := bound, outcome := .ready (running settings bound { capacity := settings.deviceCapacity }),
          telemetry := some telemetry, log }

section Start

variable {plan : Plan} {tree : FileTree} {number : Nat} {settings : Settings} {telemetry : Telemetry}

/-- The device of the settings is made, unless it is too large. -/
theorem create_deviceCapacity (settings : Settings) :
    Device.create settings.deviceCapacity =
      if Device.maxAllocation < settings.deviceCapacity then .error .capacityOverflow
      else .ok { capacity := settings.deviceCapacity } := by
  have hclamped : max settings.deviceCapacity 1 = settings.deviceCapacity :=
    Nat.max_eq_left (Nat.le_max_right _ _)
  rw [Device.create, hclamped]

/-- A start with settings and a log goes on to the directory. -/
theorem Logged.start_eq (h : Logged plan settings telemetry) (tree : FileTree) (number : Nat) :
    start plan tree number =
      { settle settings plan tree number with
        telemetry := some telemetry
        log := byMain [startingRecord settings] ++ (settle settings plan tree number).log } := by
  unfold start
  rw [h.given]
  dsimp only
  rw [h.understood]

/-- A start with a directory and ears goes on to the socket. -/
theorem settle_eq {made : FileTree}
    (hprepared : SocketDirectory.prepare tree settings.socketPath = (none, made))
    (hears : plan.deafness = none) (number : Nat) :
    settle settings plan tree number = listen settings plan made number := by
  unfold settle
  rw [hprepared]
  dsimp only
  rw [hears]

/-- How a start goes on whose directory is there and which listens for signals. -/
theorem Settled.course {made : FileTree} (h : Settled plan tree settings telemetry made) (number : Nat) :
    Course plan tree number (start plan tree number) := by
  rw [h.toLogged.start_eq, settle_eq h.prepared h.hears]
  cases herror : (Listener.bind made settings.socketPath (.daemon number)).error with
  | some error =>
    simp only [listen, herror]
    exact .unbound _ _ h herror
  | none =>
    have hlistening : Listening plan tree number settings telemetry made _ := ⟨h, herror, rfl⟩
    simp only [listen, herror, serve, create_deviceCapacity]
    by_cases hlarge : Device.maxAllocation < settings.deviceCapacity
    · rw [if_pos hlarge]
      exact .oversized _ hlistening hlarge
    · rw [if_neg hlarge]
      cases hfailure : plan.startFailure with
      | none => exact .runs _ hlistening (Nat.not_lt.1 hlarge) hfailure
      | some failure => exact .unstarted _ hlistening (Nat.not_lt.1 hlarge) hfailure

/-- How a start goes on that has settings and a log. -/
theorem Logged.course (h : Logged plan settings telemetry) (tree : FileTree) (number : Nat) :
    Course plan tree number (start plan tree number) := by
  cases hprepared : SocketDirectory.prepare tree settings.socketPath with
  | mk error? made =>
    cases error? with
    | some error =>
      rw [h.start_eq, settle, hprepared]
      exact .homeless h hprepared
    | none =>
      cases hdeaf : plan.deafness with
      | some error =>
        rw [h.start_eq, settle, hprepared]
        dsimp only
        rw [hdeaf]
        exact .deaf h hprepared hdeaf
      | none => exact Settled.course ⟨h, hprepared, hdeaf⟩ number

/-- **Every start** goes one of these ways. -/
theorem course_of_start (plan : Plan) (tree : FileTree) (number : Nat) :
    Course plan tree number (start plan tree number) := by
  cases hgiven : plan.settings with
  | error error =>
    unfold start
    rw [hgiven]
    cases error with
    | broken cut => exact .settingsBreak hgiven
    | _ => exact .unread hgiven nofun
  | ok settings =>
    cases hunderstood : Telemetry.ofSettings settings with
    | ok telemetry => exact Logged.course ⟨hgiven, hunderstood⟩ tree number
    | error error =>
      unfold start
      rw [hgiven]
      dsimp only
      rw [hunderstood]
      cases error with
      | broken cut => exact .filterBreaks hgiven hunderstood
      | filter reason => exact .unlogged hgiven hunderstood nofun

/-- **A start that succeeds** leads to a daemon that has just been started. -/
theorem fresh_of_start {daemon : Daemon} (h : (start plan tree number).outcome = .ready daemon) :
    daemon.Fresh := by
  have hcourse := course_of_start plan tree number
  generalize start plan tree number = launch at hcourse h
  cases hcourse with
  | runs log hlistening hfits hfailure =>
    cases h
    exact Daemon.fresh_running _ _ rfl
  | _ => cases h

/-- Two plans agree on all that the stages up to one of them look at. -/
structure AgreeUpTo (stage : Stage) (plan other : Plan) : Prop where
  settings : other.settings = plan.settings
  deafness : stage ∈ [Stage.signals, .socket, .loop] → other.deafness = plan.deafness
  startFailure : stage = .loop → other.startFailure = plan.startFailure

/-- Starts with the same settings go the same way if they do from the directory on. -/
theorem start_congr {other : Plan} (hsettings : other.settings = plan.settings)
    (h : ∀ settings telemetry, Logged plan settings telemetry →
      settle settings other tree number = settle settings plan tree number) :
    start other tree number = start plan tree number := by
  unfold start
  rw [hsettings]
  cases hgiven : plan.settings with
  | error error => cases error <;> rfl
  | ok settings =>
    dsimp only
    cases hunderstood : Telemetry.ofSettings settings with
    | error error => cases error <;> rfl
    | ok telemetry => rw [h settings telemetry ⟨hgiven, hunderstood⟩]

/-- **The stages behind a failure** are not looked at: a start goes the same way whatever they would do. -/
theorem start_eq_of_agree {other : Plan} {stage : Stage} {error : LaunchError}
    (hstage : error.stage? = some stage) (agree : AgreeUpTo stage plan other)
    (h : (start plan tree number).outcome = .refused error) :
    start other tree number = start plan tree number := by
  refine start_congr agree.settings fun settings telemetry hlogged => ?_
  have hcourse := course_of_start plan tree number
  generalize start plan tree number = launch at hcourse h
  -- the settings of the way are those that are given
  have hsame : ∀ {other : Settings}, plan.settings = .ok other → other = settings := fun hother =>
    Except.ok.inj (hother.symm.trans hlogged.given)
  cases hcourse with
  | unread hgiven hsound => cases hgiven.symm.trans hlogged.given
  | unlogged hgiven hunderstood hsound =>
    obtain rfl := hsame hgiven
    cases hunderstood.symm.trans hlogged.understood
  | homeless hreached hprepared =>
    obtain rfl := hsame hreached.given
    unfold settle
    rw [hprepared]
  | deaf hreached hprepared hdeaf =>
    cases h
    cases hstage
    unfold settle
    rw [agree.deafness (by decide)]
    obtain rfl := hsame hreached.given
    rw [hprepared, hdeaf]
  | @unbound _ _ _ error answered log hsettled herror =>
    cases h
    have hdeaf : other.deafness = plan.deafness := by
      refine agree.deafness ?_
      cases error <;> cases hstage <;> decide
    obtain rfl := hsame hsettled.given
    rw [settle_eq hsettled.prepared hsettled.hears, settle_eq hsettled.prepared (hdeaf.trans hsettled.hears)]
    simp only [listen, herror]
  | @unstarted _ _ _ _ failure log hlistening hfits hfailure =>
    cases h
    have hloop : stage = .loop := by cases failure <;> exact (Option.some.inj hstage).symm
    subst hloop
    have hdeaf : other.deafness = plan.deafness := agree.deafness (by decide)
    obtain rfl := hsame hlistening.given
    rw [settle_eq hlistening.prepared hlistening.hears,
      settle_eq hlistening.prepared (hdeaf.trans hlistening.hears)]
    unfold listen
    rw [agree.startFailure rfl]
  | _ => cases h

end Start

end Launch

end DeviceBroker
