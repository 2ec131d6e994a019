import DeviceBroker.Proofs.Traceless

/-!
# `Proofs.Starting` — when a start ends well

With settings in hand a start should lead to a daemon, or be refused and leave no socket. Two stages can
break down instead of failing. The reading of a filter breaks down over a piece that is cut in the middle
of a character; nothing has been made by then. The device is made when the socket is already bound, and
breaks down over a capacity that no allocation can satisfy; whoever would remove the socket is not there
yet, so it stays. The settings admit both, and in every other case the start ends well.

## Contents

* `EndsWell`, `Readable`, `Oversized` — the aim, and the two ways to miss it.
* `listening_of_free`, `Listening.ready` — a start that leads to a daemon.
* `endsWell_iff` — **just when a start ends well**, and what is left behind when the device does not fit.
* `not_endsWell_oversized` — settings over which a start breaks down.
-/

namespace DeviceBroker

open FileTree

namespace Launch

/-- **A start ends well**: a daemon runs, or the start is refused and no socket is new. -/
def EndsWell (before : FileTree) (launch : Launch) : Prop :=
  (∃ daemon, launch.outcome = .ready daemon) ∨
    (∃ error, launch.outcome = .refused error) ∧
      ∀ location transport holder, launch.tree.node? location = some (.socket transport holder) →
        before.node? location = some (.socket transport holder)

/-- The reading of the filter does not break down. -/
def Readable (settings : Settings) : Prop :=
  ∀ cut, Telemetry.ofSettings settings ≠ .error (.broken cut)

/-- The start comes to the device, which cannot be made. -/
def Oversized (plan : Plan) (tree : FileTree) (number : Nat) (settings : Settings) : Prop :=
  ∃ telemetry made bound, Listening plan tree number settings telemetry made bound ∧
    Device.maxAllocation < settings.deviceCapacity

section Starting

variable {plan : Plan} {tree : FileTree} {number : Nat} {settings : Settings}

/-- A start that breaks down does not end well. -/
theorem not_endsWell_of_crashed {launch : Launch} (h : launch.outcome = .crashed) : ¬EndsWell tree launch := by
  rintro (⟨daemon, hready⟩ | ⟨⟨error, hrefused⟩, -⟩)
  · cases h.symm.trans hready
  · cases h.symm.trans hrefused

/-- A start that is refused ends well. -/
theorem endsWell_of_refused {error : LaunchError} (given : plan.settings = .ok settings)
    (h : (start plan tree number).outcome = .refused error) : EndsWell tree (start plan tree number) := by
  have hpath : ∀ other, plan.settings = .ok other → other.socketPath = settings.socketPath := by
    intro other hother
    cases given.symm.trans hother
    rfl
  obtain ⟨made, hresidue⟩ := residue_of_refused hpath h
  exact Or.inr ⟨⟨error, h⟩, hresidue.sockets⟩

/-- A filter over which the reading breaks down ends the start. -/
theorem crashed_of_filter {cut : Text.BadCut} (given : plan.settings = .ok settings)
    (h : Telemetry.ofSettings settings = .error (.broken cut)) :
    (start plan tree number).outcome = .crashed := by
  unfold start
  rw [given]
  dsimp only
  rw [h]

/-- A device that does not fit ends the start, and the bound socket stays. -/
theorem Listening.crashed {telemetry : Telemetry} {made bound : FileTree}
    (h : Listening plan tree number settings telemetry made bound)
    (hlarge : Device.maxAllocation < settings.deviceCapacity) :
    (start plan tree number).outcome = .crashed ∧ (start plan tree number).tree = bound := by
  rw [h.start_eq, settle_eq h.prepared h.hears]
  simp only [listen, h.succeeds, serve, create_deviceCapacity, if_pos hlarge, h.binds]
  exact ⟨trivial, trivial⟩

/-- A device that fits and an accept loop that starts make a daemon. -/
theorem Listening.ready {telemetry : Telemetry} {made bound : FileTree}
    (h : Listening plan tree number settings telemetry made bound)
    (hfits : settings.deviceCapacity ≤ Device.maxAllocation) (hstarts : plan.startFailure = none) :
    (start plan tree number).outcome =
      .ready (running settings bound { capacity := settings.deviceCapacity }) := by
  rw [h.start_eq, settle_eq h.prepared h.hears]
  simp only [listen, h.succeeds, serve, create_deviceCapacity, if_neg (Nat.not_lt.2 hfits), hstarts, h.binds]

/-- **A free path right below the root** is listened on. -/
theorem listening_of_free {telemetry : Telemetry} {location : Location}
    (hlogged : Logged plan settings telemetry) (hears : plan.deafness = none)
    (hparent : Path.parent? settings.socketPath = some "/")
    (haddress : checkAddress settings.socketPath = .ok ())
    (hend : endsLikeDirectory settings.socketPath = false)
    (hfree : tree.resolve false settings.socketPath = .ok ⟨location, none⟩) :
    Listening plan tree number settings telemetry tree
      (tree.put location (.socket .stream (.daemon number))) := by
  have hbind := Listener.bind_of_free (.daemon number) haddress hend hfree
  refine ⟨⟨hlogged, SocketDirectory.prepare_below_root tree hparent, hears⟩, ?_, ?_⟩
  · rw [hbind]
  · rw [hbind]

/-- There is room for a socket in an empty tree. -/
theorem listening_of_empty {telemetry : Telemetry} (hlogged : Logged plan settings telemetry)
    (hears : plan.deafness = none) (hpath : settings.socketPath = "/s") (number : Nat) :
    Listening plan {} number settings telemetry {}
      (({} : FileTree).put ["s"] (.socket .stream (.daemon number))) := by
  have hparent : Path.parent? "/s" = some "/" := by decide +kernel
  have haddress : checkAddress "/s" = .ok () := rfl
  have hfree : ({} : FileTree).resolve false "/s" = .ok ⟨["s"], none⟩ :=
    resolve_eq_ok_iff.2 ⟨by decide, .stay rfl rfl (.miss ⟨⟨_, rfl⟩, rfl, by decide, by decide⟩ rfl)⟩
  rw [← hpath] at hparent haddress hfree
  exact listening_of_free hlogged hears hparent haddress (by rw [hpath]; decide) hfree

/-- A device that does not fit ends the start, and the path leads to the socket that was bound. -/
theorem Oversized.left (h : Oversized plan tree number settings) :
    (start plan tree number).outcome = .crashed ∧
      ∃ location, (start plan tree number).tree.resolve false settings.socketPath =
        .ok ⟨location, some (.socket .stream (.daemon number))⟩ := by
  obtain ⟨telemetry, made, bound, hlistening, hlarge⟩ := h
  obtain ⟨hcrashed, htree⟩ := hlistening.crashed hlarge
  obtain ⟨cleared, hbound⟩ :=
    (Listener.bind_cases made settings.socketPath (.daemon number)).1 hlistening.succeeds
  rw [hlistening.binds] at hbound
  rw [htree]
  exact ⟨hcrashed, hbound.resolve⟩

/-- **A start ends well** just if the filter can be read and the device, if it comes to that, can be made.
    If the device cannot be made, the start breaks down and leaves the socket that it bound. -/
theorem endsWell_iff (given : plan.settings = .ok settings) :
    (EndsWell tree (start plan tree number) ↔
      Readable settings ∧ ¬Oversized plan tree number settings) ∧
    (Oversized plan tree number settings → (start plan tree number).outcome = .crashed ∧
      ∃ location, (start plan tree number).tree.resolve false settings.socketPath =
        .ok ⟨location, some (.socket .stream (.daemon number))⟩) := by
  refine ⟨⟨fun hwell => ⟨?_, ?_⟩, ?_⟩, Oversized.left⟩
  · intro cut hbroken
    exact not_endsWell_of_crashed (crashed_of_filter given hbroken) hwell
  · intro hlarge
    exact not_endsWell_of_crashed hlarge.left.1 hwell
  · rintro ⟨hreadable, hfits⟩
    have hrefused : ∀ error, (start plan tree number).outcome = .refused error →
        EndsWell tree (start plan tree number) := fun error => endsWell_of_refused given
    have hcourse := course_of_start plan tree number
    have hsame : ∀ {other : Settings}, plan.settings = .ok other → other = settings := fun hother =>
      Except.ok.inj (hother.symm.trans given)
    generalize start plan tree number = launch at hcourse hrefused ⊢
    cases hcourse with
    | settingsBreak hgiven => cases hgiven.symm.trans given
    | filterBreaks hgiven hbroken =>
      obtain rfl := hsame hgiven
      exact absurd hbroken (hreadable _)
    | oversized log hlistening hlarge =>
      obtain rfl := hsame hlistening.given
      exact absurd ⟨_, _, _, hlistening, hlarge⟩ hfits
    | runs log hlistening hsmall hfailure => exact Or.inl ⟨_, rfl⟩
    | _ => exact hrefused _ rfl

/-- The settings that nobody changed. -/
theorem endsWell_iff_default :
    let plan : Plan := { settings := .ok {} }
    plan.settings = .ok {} ∧ EndsWell {} (start plan {} 0) := by
  intro plan
  have given : plan.settings = .ok {} := rfl
  have hreadable : Readable {} := by
    intro cut hbroken
    cases hbroken
  have hfits : ¬Oversized plan {} 0 {} := by
    rintro ⟨telemetry, made, bound, -, hlarge⟩
    exact absurd hlarge (by decide)
  exact ⟨given, (endsWell_iff given).1.2 ⟨hreadable, hfits⟩⟩

/-- **A capacity that the settings admit and no allocation satisfies**: the start breaks down when the
    socket stands already. -/
theorem not_endsWell_oversized :
    let plan : Plan := { settings := .ok { socketPath := "/s", bufferCapacity := 9223372036854775808 } }
    ¬EndsWell {} (start plan {} 0) ∧ (start plan {} 0).outcome = .crashed ∧
      (start plan {} 0).tree.node? ["s"] = some (.socket .stream (.daemon 0)) := by
  intro plan
  let settings : Settings := { socketPath := "/s", bufferCapacity := 9223372036854775808 }
  obtain ⟨telemetry, hunderstood⟩ : ∃ telemetry, Telemetry.ofSettings
      { socketPath := "/s", bufferCapacity := 9223372036854775808 } = .ok telemetry := ⟨_, rfl⟩
  have hlogged : Logged plan settings telemetry := ⟨rfl, hunderstood⟩
  have hlistening := listening_of_empty hlogged rfl rfl 0
  have hlarge : Device.maxAllocation < settings.deviceCapacity := by decide
  obtain ⟨hcrashed, htree⟩ := hlistening.crashed hlarge
  refine ⟨not_endsWell_of_crashed hcrashed, hcrashed, ?_⟩
  rw [htree]
  rfl

end Starting

end Launch

end DeviceBroker
