import DeviceBroker.Proofs.Binding
import DeviceBroker.Proofs.Growing
import DeviceBroker.Proofs.Moves
import DeviceBroker.Proofs.Stages

/-!
# `Proofs.Traceless` — what a daemon leaves behind

A start changes the tree at two stages: directories are made above the socket's path, and then a dead socket
is removed and the new one bound. The new one is removed by whoever has it when it is not needed any more:
by the start if the accept loop cannot be started, by the accept loop when it ends. The main thread waits
for the accept loop, so when a daemon has returned its socket is gone, whichever way it went.

## Contents

* `FileTree.Residue`, `Grows.residue` — **what may be different afterwards**.
* `Daemon.Stands`, `Stands.step`, `Stands.replay` — the socket stands until the accept loop ends.
* `Launch.Returns` — a daemon that comes to its end.
* `Launch.Spared` — what a start that fails at a stage has not done.
* `Launch.returns_residue` — **every way to return leaves no socket and disturbs nothing else**.
-/

namespace DeviceBroker

namespace FileTree

/-! ## What may be different afterwards -/

section Residue

variable {path : String} {before made after : FileTree}

/-- A connection to what a path leads to goes as before. -/
theorem Keeps.connectStream (keeps : Keeps before after) {place : Place} (hsome : place.node ≠ none)
    (h : before.resolve true path = .ok place) : after.connectStream path = before.connectStream path := by
  unfold FileTree.connectStream
  rw [keeps.resolve hsome h, h]

/-- Whoever answers holds a socket that the path leads to. -/
theorem resolve_of_connectStream {holder : Holder} (h : before.connectStream path = .ok holder) :
    ∃ location, before.resolve true path = .ok ⟨location, some (.socket .stream holder)⟩ := by
  unfold connectStream at h
  split at h
  · cases h
  · split at h
    · cases h
    · cases h
    · cases h
    · cases h
    · next location current _ hleads =>
      cases h
      exact ⟨location, hleads⟩
    · cases h

/-- What a dead socket's location held is that socket. -/
theorem DeadSocket.node?_eq {location : Location} (dead : DeadSocket before path location) :
    ∃ transport holder, before.node? location = some (.socket transport holder) := by
  obtain ⟨transport, holder, hleads⟩ := dead.isSocket
  exact ⟨transport, holder, node?_of_resolve hleads⟩

theorem DeadSocket.ne_nil {location : Location} (dead : DeadSocket before path location) : location ≠ [] := by
  rintro rfl
  obtain ⟨transport, holder, hnode⟩ := dead.node?_eq
  cases hnode

/-- A socket that is dead in a later tree was dead already if the path led to anything. -/
theorem DeadSocket.of_keeps (keeps : Keeps before after) {location other : Location} {node : Node}
    (dead : DeadSocket after path location) (h : before.resolve false path = .ok ⟨other, some node⟩) :
    DeadSocket before path location := by
  obtain ⟨transport, holder, hleads⟩ := dead.isSocket
  have hsome : (⟨other, some node⟩ : Place).node ≠ none := Option.some_ne_none _
  have hsame := keeps.resolve hsome h
  rw [hleads] at hsame
  cases hsame
  have hkind : (⟨location, some (.socket transport holder)⟩ : Place).node.map Node.kind ≠ some .symlink :=
    nofun
  refine ⟨⟨transport, holder, h⟩, ?_⟩
  rw [← keeps.connectStream hsome (resolve_follow hkind h)]
  exact dead.refuses

/-- **What may be different** when a daemon has returned: there may be directories above its path that were
    missing, and a dead socket that stood at the path may be gone. -/
structure Residue (path : String) (before made after : FileTree) : Prop where
  /-- Directories may have been made above the path. -/
  grows : Grows SocketDirectory.mode (Path.IsAncestor path) before made
  /-- A dead socket at the path may then have been removed. -/
  cleared : Cleared made path after
  /-- No socket is new. -/
  sockets : ∀ location transport holder, after.node? location = some (.socket transport holder) →
    before.node? location = some (.socket transport holder)
  /-- What stood anywhere stands there still, except that dead socket. -/
  others : ∀ location node, before.node? location = some node →
    after.node? location = some node ∨ made.DeadSocket path location
  /-- What the path named it names still, if that was no dead socket. -/
  named : ∀ location node, before.resolve false path = .ok ⟨location, some node⟩ →
    ¬before.DeadSocket path location → after.resolve false path = .ok ⟨location, some node⟩
  /-- Whoever listened at the path, or behind a link there, listens still. -/
  live : ∀ holder, before.connectStream path = .ok holder → after.connectStream path = .ok holder

/-- **Growing and clearing** leave nothing else behind. -/
theorem Grows.residue (grows : Grows SocketDirectory.mode (Path.IsAncestor path) before made)
    (cleared : Cleared made path after) : Residue path before made after where
  grows := grows
  cleared := cleared
  sockets := by
    intro location transport holder h
    refine grows.socket_before ?_
    rcases cleared with rfl | ⟨removed, dead, rfl⟩
    · exact h
    · by_cases heq : location = removed
      · subst heq
        rw [node?_erase_self dead.ne_nil] at h
        cases h
      · rw [← node?_erase_ne heq]
        exact h
  others := by
    intro location node h
    have hmade := grows.node location node h
    rcases cleared with rfl | ⟨removed, dead, rfl⟩
    · exact Or.inl hmade
    · by_cases heq : location = removed
      · exact Or.inr (heq ▸ dead)
      · rw [node?_erase_ne heq]
        exact Or.inl hmade
  named := by
    intro location node h hdead
    have hmade := grows.resolve (Option.some_ne_none _) h
    rcases cleared with rfl | ⟨removed, dead, rfl⟩
    · exact hmade
    · -- the path led to the socket that was removed, which was dead from the beginning
      obtain ⟨transport, holder, hleads⟩ := dead.isSocket
      cases hmade.symm.trans hleads
      exact absurd (dead.of_keeps grows.toKeeps h) hdead
  live := by
    intro holder h
    obtain ⟨location, hleads⟩ := resolve_of_connectStream h
    have hmade := grows.connectStream (Option.some_ne_none _) hleads
    rcases cleared with rfl | ⟨removed, dead, rfl⟩
    · exact hmade.trans h
    · -- a path that answers is not refused
      rw [dead.refuses, h] at hmade
      cases hmade

end Residue

end FileTree

open FileTree

namespace Daemon

/-! ## The socket of a running daemon -/

/-- Whether the main thread has found the accept loop over. -/
def MainPhase.isJoined : MainPhase → Bool
  | waiting | stopping _ | joining _ => false
  | cancelling _ | draining .. | done _ => true

/-- **The socket stands** until the accept loop ends, and the main thread waits for that. -/
structure Stands (path : String) (bound cleared : FileTree) (daemon : Daemon) : Prop where
  socketPath : daemon.socketPath = path
  listening : daemon.accept ≠ .ended → daemon.tree = bound
  removed : daemon.accept = .ended → daemon.tree = cleared
  joined : daemon.main.isJoined = true → daemon.accept = .ended

section Stands

variable {path : String} {bound cleared : FileTree} {daemon next : Daemon}

/-- When the accept loop ends, the socket is removed. -/
theorem Stands.closed (clean : (Listener.cleanUp bound path).1 = cleared)
    (h : Stands path bound cleared daemon) (hopen : daemon.accept ≠ .ended) (coordinator : Coordinator)
    (log : List LogEntry) : Stands path bound cleared (daemon.closed coordinator log) where
  socketPath := h.socketPath
  listening hne := absurd rfl hne
  removed _ := by
    show (Listener.cleanUp daemon.tree daemon.socketPath).1 = cleared
    rw [h.listening hopen, h.socketPath, clean]
  joined _ := rfl

/-- While the accept loop goes on, the socket stands. -/
theorem Stands.goesOn (h : Stands path bound cleared daemon) (hopen : daemon.accept ≠ .ended)
    (hpath : next.socketPath = daemon.socketPath) (htree : next.tree = daemon.tree)
    (hmain : next.main = daemon.main) (hstill : next.accept ≠ .ended) : Stands path bound cleared next where
  socketPath := hpath.trans h.socketPath
  listening _ := htree.trans (h.listening hopen)
  removed hended := absurd hended hstill
  joined hjoined := absurd (h.joined (hmain ▸ hjoined)) hopen

/-- **Every move** lets the socket stand, or ends the accept loop and removes it. -/
theorem Stands.step {move : Move} (clean : (Listener.cleanUp bound path).1 = cleared)
    (h : Stands path bound cleared daemon) (hmoves : Moves daemon move next) :
    Stands path bound cleared next := by
  have hlooks : daemon.accept = .looking → daemon.accept ≠ .ended := fun hlooking => by rw [hlooking]; nofun
  have haccepts : daemon.accept = .accepting → daemon.accept ≠ .ended := fun haccepting => by
    rw [haccepting]; nofun
  cases hmoves with
  | signal log hwatching hhandled => exact ⟨h.socketPath, h.listening, h.removed, h.joined⟩
  | ask log => exact ⟨h.socketPath, h.listening, h.removed, h.joined⟩
  | goOn hlooking hgo => exact h.goesOn (hlooks hlooking) rfl rfl rfl nofun
  | obey log hlooking hstop => exact h.closed clean (hlooks hlooking) _ _
  | handOver log haccepting => exact h.goesOn (haccepts haccepting) rfl rfl rfl nofun
  | dismiss log haccepting => exact h.goesOn (haccepts haccepting) rfl rfl rfl nofun
  | again haccepting hpassing => exact h.goesOn (haccepts haccepting) rfl rfl rfl nofun
  | fail log haccepting hpassing => exact h.closed clean (haccepts haccepting) _ _
  | work log hwork => exact ⟨h.socketPath, h.listening, h.removed, h.joined⟩
  | wake log hwaiting hwait => exact ⟨h.socketPath, h.listening, h.removed, nofun⟩
  | raiseFlag hstopping => exact ⟨h.socketPath, h.listening, h.removed, nofun⟩
  | join hjoining hended => exact ⟨h.socketPath, h.listening, h.removed, fun _ => hended⟩
  | cancel hcancelling =>
    exact ⟨h.socketPath, h.listening, h.removed, fun _ => h.joined (by rw [hcancelling]; rfl)⟩
  | drain log hdraining hnobody =>
    exact ⟨h.socketPath, h.listening, h.removed, fun _ => h.joined (by rw [hdraining]; rfl)⟩
  | giveUp log hdraining hsomebody =>
    exact ⟨h.socketPath, h.listening, h.removed, fun _ => h.joined (by rw [hdraining]; rfl)⟩

/-- **Every run** does. -/
theorem Stands.replay {moves : List Move} {final : Daemon}
    (clean : (Listener.cleanUp bound path).1 = cleared) (h : Stands path bound cleared daemon)
    (hreplay : daemon.replay? moves = some final) : Stands path bound cleared final := by
  refine replay?_induction (fun _ daemon => Stands path bound cleared daemon) ?_ ?_ hreplay
  · exact h
  · intro before middle move next hmiddle hmoves
    exact hmiddle.step clean hmoves

end Stands

end Daemon

namespace Launch

/-! ## Every way to return -/

/-- **A daemon returns**: its start is refused, or it runs and its main thread comes to its end. -/
inductive Returns (plan : Plan) (tree : FileTree) (number : Nat) : Option LaunchError → FileTree → Prop
  /-- A stage of the start fails. -/
  | refused {error : LaunchError} :
      (start plan tree number).outcome = .refused error →
      Returns plan tree number (some error) (start plan tree number).tree
  /-- The daemon runs until it is stopped. -/
  | stopped {daemon final : Daemon} {moves : List Daemon.Move} {error : Option LaunchError} :
      (start plan tree number).outcome = .ready daemon → daemon.replay? moves = some final →
      final.main = .done error → Returns plan tree number error final.tree

/-- **What a start that fails at a stage spares**: whatever the stages behind it would do. -/
structure Spared (stage : Stage) (path : String) (plan : Plan) (before : FileTree) (number : Nat)
    (after : FileTree) : Prop where
  /-- Without settings or a log nothing is logged, and nothing is made. -/
  unlogged : stage ∈ [Stage.settings, .log] → (start plan before number).telemetry = none ∧
    (start plan before number).log = [] ∧ after = before
  /-- Before the socket is due, nobody is asked whether he listens, and no socket is removed. -/
  unbound : stage ∉ [Stage.socket, .loop] → (start plan before number).answered = none ∧
    Grows SocketDirectory.mode (Path.IsAncestor path) before after
  /-- It does not matter what the stages behind would have come to. -/
  unasked : ∀ other, AgreeUpTo stage plan other → start other before number = start plan before number

section Returns

variable {plan : Plan} {before after made bound : FileTree} {number : Nat} {settings : Settings}
  {telemetry : Telemetry}

/-- The tree in which a path is bound has grown by directories above it. -/
theorem grows_of_prepare {error : Option SocketDirectory.Error}
    (h : SocketDirectory.prepare before settings.socketPath = (error, made)) :
    Grows SocketDirectory.mode (Path.IsAncestor settings.socketPath) before made := by
  have hgrows := SocketDirectory.grows_prepare before settings.socketPath
  rw [h] at hgrows
  exact hgrows

/-- A bound socket stands in a tree that was cleared for it, and which is left when it is removed. -/
theorem Listening.cleanUp (h : Listening plan before number settings telemetry made bound) :
    ∃ cleared, Cleared made settings.socketPath cleared ∧
      (Listener.cleanUp bound settings.socketPath).1 = cleared := by
  obtain ⟨cleared, hbound⟩ :=
    (Listener.bind_cases made settings.socketPath (.daemon number)).1 h.succeeds
  rw [h.binds] at hbound
  exact ⟨cleared, hbound.fromCleared, by rw [hbound.cleanUp]⟩

/-- A start that is refused leaves no more than it may. -/
theorem residue_of_refused {path : String} {error : LaunchError}
    (hpath : ∀ settings, plan.settings = .ok settings → settings.socketPath = path)
    (h : (start plan before number).outcome = .refused error) :
    ∃ made, Residue path before made (start plan before number).tree := by
  have hcourse := course_of_start plan before number
  generalize start plan before number = launch at hcourse h
  cases hcourse with
  | unread hgiven hsound => exact ⟨before, (Grows.refl _ _ before).residue (Or.inl rfl)⟩
  | unlogged hgiven hunderstood hsound => exact ⟨before, (Grows.refl _ _ before).residue (Or.inl rfl)⟩
  | homeless hlogged hprepared =>
    obtain rfl := hpath _ hlogged.given
    exact ⟨_, (grows_of_prepare hprepared).residue (Or.inl rfl)⟩
  | deaf hlogged hprepared hdeaf =>
    obtain rfl := hpath _ hlogged.given
    exact ⟨_, (grows_of_prepare hprepared).residue (Or.inl rfl)⟩
  | unbound answered log hsettled herror =>
    obtain rfl := hpath _ hsettled.given
    have hfailed := Option.ne_none_iff_exists'.2 ⟨_, herror⟩
    exact ⟨_, (grows_of_prepare hsettled.prepared).residue ((Listener.bind_cases _ _ _).2 hfailed)⟩
  | unstarted log hlistening hfits hfailure =>
    obtain rfl := hpath _ hlistening.given
    obtain ⟨cleared, hcleared, hclean⟩ := hlistening.cleanUp
    refine ⟨_, (grows_of_prepare hlistening.prepared).residue ?_⟩
    rw [hclean]
    exact hcleared
  | _ => cases h

/-- A daemon that ran and was stopped leaves no more than it may. -/
theorem residue_of_stopped {path : String} {daemon final : Daemon} {moves : List Daemon.Move}
    {error : Option LaunchError}
    (hpath : ∀ settings, plan.settings = .ok settings → settings.socketPath = path)
    (hready : (start plan before number).outcome = .ready daemon) (hreplay : daemon.replay? moves = some final)
    (hdone : final.main = .done error) : ∃ made, Residue path before made final.tree := by
  have hcourse := course_of_start plan before number
  generalize start plan before number = launch at hcourse hready
  cases hcourse with
  | @runs settings telemetry made bound log hlistening hfits hfailure =>
    cases hready
    obtain rfl := hpath _ hlistening.given
    obtain ⟨cleared, hcleared, hclean⟩ := hlistening.cleanUp
    have hfresh : Daemon.Stands settings.socketPath bound cleared
        (running settings bound { capacity := settings.deviceCapacity }) :=
      ⟨rfl, fun _ => rfl, fun hended => (by cases hended), fun hjoined => (by cases hjoined)⟩
    have hstands := Daemon.Stands.replay hclean hfresh hreplay
    refine ⟨_, (grows_of_prepare hlistening.prepared).residue ?_⟩
    rw [hstands.removed (hstands.joined (by rw [hdone]; rfl))]
    exact hcleared
  | _ => cases hready

/-- The error of a daemon that ran is not one of a start. -/
theorem stage?_of_done {daemon final : Daemon} {moves : List Daemon.Move} {error : Option LaunchError}
    (hwaiting : daemon.main = .waiting) (hreplay : daemon.replay? moves = some final)
    (hdone : final.main = .done error) : error.bind LaunchError.stage? = none := by
  have hverdict : ∀ reason, (Daemon.verdict reason).bind LaunchError.stage? = none := by
    intro reason
    cases reason <;> rfl
  refine Daemon.replay?_induction
    (fun _ daemon => ∀ error, daemon.main = .done error → error.bind LaunchError.stage? = none)
    ?_ ?_ hreplay error hdone
  · intro error hdone
    rw [hwaiting] at hdone
    cases hdone
  · intro before middle move next hmiddle hmoves error hdone
    cases hmoves with
    | drain log hdraining hnobody =>
      cases hdone
      exact hverdict _
    | giveUp log hdraining hsomebody =>
      cases hdone
      exact hverdict _
    | wake log hwaiting hwait => cases hdone
    | raiseFlag hstopping => cases hdone
    | join hjoining hended => cases hdone
    | cancel hcancelling => cases hdone
    | _ => exact hmiddle error hdone

/-- A listener fails at one of the last two stages. -/
theorem stage?_listener {error : Listener.Error} {stage : Stage}
    (h : (LaunchError.listener error).stage? = some stage) :
    stage ∉ [Stage.settings, .log] ∧ stage ∈ [Stage.socket, .loop] := by
  cases error <;> cases h <;> decide

/-- What a start that is refused has come to, by the stage of its error. -/
theorem effects_of_refused {path : String} {error : LaunchError} {stage : Stage}
    (hpath : ∀ settings, plan.settings = .ok settings → settings.socketPath = path)
    (h : (start plan before number).outcome = .refused error) (hstage : error.stage? = some stage) :
    (stage ∈ [Stage.settings, .log] → (start plan before number).telemetry = none ∧
      (start plan before number).log = [] ∧ (start plan before number).tree = before) ∧
    (stage ∉ [Stage.socket, .loop] → (start plan before number).answered = none ∧
      Grows SocketDirectory.mode (Path.IsAncestor path) before (start plan before number).tree) := by
  have hcourse := course_of_start plan before number
  generalize start plan before number = launch at hcourse h
  cases hcourse with
  | unread hgiven hsound => exact ⟨fun _ => ⟨rfl, rfl, rfl⟩, fun _ => ⟨rfl, .refl _ _ before⟩⟩
  | unlogged hgiven hunderstood hsound =>
    exact ⟨fun _ => ⟨rfl, rfl, rfl⟩, fun _ => ⟨rfl, .refl _ _ before⟩⟩
  | homeless hlogged hprepared =>
    cases h
    cases hstage
    obtain rfl := hpath _ hlogged.given
    exact ⟨fun hearly => absurd hearly (by decide), fun _ => ⟨rfl, grows_of_prepare hprepared⟩⟩
  | deaf hlogged hprepared hdeaf =>
    cases h
    cases hstage
    obtain rfl := hpath _ hlogged.given
    exact ⟨fun hearly => absurd hearly (by decide), fun _ => ⟨rfl, grows_of_prepare hprepared⟩⟩
  | unbound answered log hsettled herror =>
    cases h
    obtain ⟨hlate, hlast⟩ := stage?_listener hstage
    exact ⟨fun hearly => absurd hearly hlate, fun hearly => absurd hlast hearly⟩
  | unstarted log hlistening hfits hfailure =>
    cases h
    obtain ⟨hlate, hlast⟩ := stage?_listener hstage
    exact ⟨fun hearly => absurd hearly hlate, fun hearly => absurd hlast hearly⟩
  | _ => cases h

/-- A start that is refused spares what belongs to later stages. -/
theorem spared_of_refused {path : String} {error : LaunchError} {stage : Stage}
    (hpath : ∀ settings, plan.settings = .ok settings → settings.socketPath = path)
    (h : (start plan before number).outcome = .refused error) (hstage : error.stage? = some stage) :
    Spared stage path plan before number (start plan before number).tree where
  unlogged := (effects_of_refused hpath h hstage).1
  unbound := (effects_of_refused hpath h hstage).2
  unasked _ agree := start_eq_of_agree hstage agree h

/-- **Every way to return** leaves no socket and disturbs nothing else: the tree is as before, apart from
    directories above the path that were missing and a dead socket that stood at it. And a stage that fails
    keeps the later ones from doing anything. -/
theorem returns_residue {path : String} {error : Option LaunchError}
    (hpath : ∀ settings, plan.settings = .ok settings → settings.socketPath = path)
    (h : Returns plan before number error after) :
    (∃ made, Residue path before made after) ∧
    ∀ stage, error.bind LaunchError.stage? = some stage → Spared stage path plan before number after := by
  cases h with
  | refused hrefused =>
    exact ⟨residue_of_refused hpath hrefused, fun stage hstage => spared_of_refused hpath hrefused hstage⟩
  | stopped hready hreplay hdone =>
    refine ⟨residue_of_stopped hpath hready hreplay hdone, fun stage hstage => ?_⟩
    rw [stage?_of_done (fresh_of_start hready).main hreplay hdone] at hstage
    cases hstage

/-- A daemon that finds nothing but a dead socket, replaces it, and is asked to stop. -/
theorem returns_residue_stale :
    let settings : Settings := { socketPath := "/s" }
    let plan : Plan := { settings := .ok settings }
    let tree : FileTree := { entries := [(["s"], .socket .stream .nobody)] }
    (∀ settings, plan.settings = .ok settings → settings.socketPath = "/s") ∧
      ∃ after, Returns plan tree 0 none after ∧ ∃ made, Residue "/s" tree made after := by
  intro settings plan tree
  have hpath : ∀ settings, plan.settings = .ok settings → settings.socketPath = "/s" := by
    intro settings h
    cases h
    rfl
  have hleads : ∀ follow, tree.resolve follow "/s" = .ok ⟨["s"], some (.socket .stream .nobody)⟩ :=
    fun follow => resolve_eq_ok_iff.2
      ⟨by decide, .stay rfl rfl (.down ⟨⟨_, rfl⟩, rfl, by decide, by decide⟩ rfl nofun (.arrive rfl))⟩
  have hfree : (tree.erase ["s"]).resolve false "/s" = .ok ⟨["s"], none⟩ :=
    resolve_eq_ok_iff.2 ⟨by decide, .stay rfl rfl (.miss ⟨⟨_, rfl⟩, rfl, by decide, by decide⟩ rfl)⟩
  have dead : DeadSocket tree "/s" ["s"] := by
    refine ⟨⟨_, _, hleads false⟩, ?_⟩
    unfold FileTree.connectStream
    rw [hleads]
    rfl
  obtain ⟨telemetry, hunderstood⟩ : ∃ telemetry,
      Telemetry.ofSettings { socketPath := "/s" } = .ok telemetry := ⟨_, rfl⟩
  have hlogged : Logged plan settings telemetry := ⟨rfl, hunderstood⟩
  let daemon : Daemon :=
    running settings (({} : FileTree).put ["s"] (.socket .stream (.daemon 0))) { capacity := 4096 }
  have hready : (start plan tree 0).outcome = .ready daemon := by
    have hparent : Path.parent? "/s" = some "/" := by decide +kernel
    have hprepared : SocketDirectory.prepare tree settings.socketPath = (none, tree) :=
      SocketDirectory.prepare_below_root tree hparent
    have haddress : checkAddress "/s" = .ok () := rfl
    have hbind := Listener.bind_of_deadSocket (.daemon 0) dead haddress (by decide) hfree
    rw [hlogged.start_eq, settle_eq hprepared rfl, listen, hbind]
    rfl
  have hmain : (daemon.replay? [.ask, .wake, .raiseFlag, .look, .join, .cancel, .drain]).map Daemon.main =
      some (.done none) := by
    decide +kernel
  obtain ⟨final, hreplay, hdone⟩ := Option.map_eq_some_iff.1 hmain
  have hreturns : Returns plan tree 0 none final.tree := .stopped hready hreplay hdone
  exact ⟨hpath, final.tree, hreturns, (returns_residue hpath hreturns).1⟩

end Returns

end Launch

end DeviceBroker
