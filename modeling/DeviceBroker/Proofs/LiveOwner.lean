import DeviceBroker.Proofs.Claiming
import DeviceBroker.Proofs.Deeds

/-!
# `Proofs.LiveOwner` — the owner of the device is running

The claim stands in the device and the running sessions in the registry, and a thread changes the two at
different times. What ties them together is the order of its deeds: it enters before it claims anything,
and it gives up its claim before it leaves. Nothing in either place says so, the threads do; the invariant
of this file is about all three.

It also needs that no identity is given out twice, which is so until the counter comes around.

## Contents

* `Phase.registered?`, `Phase.unreleased?` — what a thread stands for at each phase.
* `Worker.Advance`, `Performs.advance` — **every deed of a thread**, by what it changes.
* `Identified`, `Orderly` — **the invariant**; `Orderly.enter`, `Orderly.work`, `Orderly.release`,
  `Orderly.leave` preserve it.
* `Service.Tidy`, `Tidy.step`, `Tidy.replay` — one move, and all of them.
* `Service.OwnerIsLive`, `owner_isLive` — **the owner is running**, so a drained registry means an unclaimed
  device.
-/

namespace DeviceBroker

namespace Worker

/-! ## Phases -/

namespace Phase

/-- The session that a thread has in the registry. -/
def registered? : Phase → Option SessionId
  | handed | finished _ => none
  | reading session | serving session | ended session _ => some session.id
  | released id => some id

/-- The session whose claim a thread has not given up yet. -/
def unreleased? : Phase → Option SessionId
  | handed | released _ | finished _ => none
  | reading session | serving session | ended session _ => some session.id

theorem registered?_of_unreleased? {phase : Phase} {id : SessionId} (h : phase.unreleased? = some id) :
    phase.registered? = some id := by
  cases phase with
  | reading session => exact h
  | serving session => exact h
  | ended session ending => exact h
  | handed => cases h
  | released id => cases h
  | finished id => cases h

theorem id?_of_registered? {phase : Phase} {id : SessionId} (h : phase.registered? = some id) :
    phase.id? = some id := by
  cases phase with
  | reading session => exact h
  | serving session => exact h
  | ended session ending => exact h
  | released id => exact h
  | handed => cases h
  | finished id => cases h

end Phase

/-! ## The deeds of a thread -/

/-- Whether a deed takes a new identity. -/
def Deed.registers : Deed → Bool
  | register _ => true
  | deliver _ | serve .. | hangUp | breakOff _ | release | deregister => false

/-- **What a deed can do**, by whether it takes a new identity, to the phase of its thread, to the device
    and to the registry. -/
inductive Advance (device : Device) (registry : Registry) :
    Bool → Phase → Phase → Device → Registry → Prop
  /-- The thread enters the registry. -/
  | enter (handle : Option Nat) :
      Advance device registry true .handed (.reading { id := (registry.enter handle).1 }) device
        (registry.enter handle).2
  /-- It works for its session, which may claim the device. -/
  | work {before behind : Phase} {id : SessionId} {left : Device} :
      before.unreleased? = some id → behind.unreleased? = some id →
      (left.owner = device.owner ∨ left.owner = some id) →
      Advance device registry false before behind left registry
  /-- It gives up the claim of its session. -/
  | release (session : Session) (ending : Session.Ending) :
      Advance device registry false (.ended session ending) (.released session.id)
        (device.release session.id) registry
  /-- It leaves the registry. -/
  | leave (id : SessionId) :
      Advance device registry false (.released id) (.finished id) device (registry.leave id)

section Advance

variable {worker : Worker} {device : Device} {registry : Registry} {before : Phase} {id : SessionId}

/-- A turn of a session is work for it. -/
theorem afterTurn_advance (hbefore : before.unreleased? = some id) {turn : Session.Turn}
    (hid : turn.session.id = id) (howner : turn.device.owner = device.owner ∨ turn.device.owner = some id) :
    Advance device registry false before (worker.afterTurn turn registry).worker.phase
      (worker.afterTurn turn registry).device (worker.afterTurn turn registry).registry := by
  refine .work hbefore ?_ howner
  unfold afterTurn
  cases turn.ending with
  | none => exact congrArg some hid
  | some ending => exact congrArg some hid

/-- A line may claim the device for its session, and for nobody else. -/
theorem owner_handleLine (session : Session) (device : Device) (line : Bytes) :
    (Session.handleLine session device line).device.owner = device.owner ∨
    (Session.handleLine session device line).device.owner = some session.id := by
  rw [Session.device_handleLine, Session.owner_answer]
  split
  · exact Or.inr rfl
  · exact Or.inl rfl

/-- So is the search for the next line, whether there is one or not. -/
theorem serveNext_advance {session : Session} (hbefore : before.unreleased? = some session.id) :
    Advance device registry false before (worker.serveNext session device registry).worker.phase
      (worker.serveNext session device registry).device
      (worker.serveNext session device registry).registry := by
  unfold serveNext
  cases session.input.pop? with
  | mk line? input =>
    cases line? with
    | some line =>
      apply afterTurn_advance hbefore
      · exact Session.id_handleLine { session with input } device line
      · exact owner_handleLine { session with input } device line
    | none =>
      refine .work hbefore ?_ (Or.inl rfl)
      dsimp only
      split <;> rfl

end Advance

/-- **Every deed is of one of four kinds.** -/
theorem Performs.advance {worker : Worker} {index : Nat} {device : Device} {registry : Registry}
    {deed : Deed} {outcome : Outcome} (h : Performs worker index device registry deed outcome) :
    Advance device registry deed.registers worker.phase outcome.worker.phase outcome.device
      outcome.registry := by
  cases h with
  | register obstacle hphase =>
    rw [hphase]
    exact .enter _
  | deliver session bytes hphase hsome hshort =>
    rw [hphase]
    exact .work rfl rfl (Or.inl rfl)
  | hangUp session hphase =>
    rw [hphase]
    exact afterTurn_advance rfl rfl (Or.inl rfl)
  | breakOff session error hphase hinterrupted =>
    rw [hphase]
    exact afterTurn_advance rfl rfl (Or.inl rfl)
  | serve session writes flushes hphase =>
    rw [hphase]
    exact serveNext_advance rfl
  | release session ending hphase =>
    rw [hphase]
    exact .release session ending
  | deregister id hphase =>
    rw [hphase]
    exact .leave id

end Worker

open Worker

/-! ## The invariant -/

/-- **Identities** come from the counter and belong to one thread each. -/
structure Identified (registry : Registry) (phases : Nat → Phase) (allocated : Nat) : Prop where
  /-- The counter counts. -/
  next : registry.nextId = UInt64.ofNat (allocated + 1)
  /-- Every identity in use was given out. -/
  given : ∀ index id, (phases index).id? = some id → id.raw.toNat ≤ allocated
  /-- No two threads have the same identity. -/
  distinct : ∀ index other id, (phases index).id? = some id → (phases other).id? = some id → index = other

/-- **Orderly**: the registered sessions are in the registry, and the owner of the device is one whose claim
    has not been given up. -/
structure Orderly (device : Device) (registry : Registry) (phases : Nat → Phase) (allocated : Nat) : Prop
    extends Identified registry phases allocated where
  /-- Whoever entered the registry and did not leave it is in it. -/
  registered : ∀ index id, (phases index).registered? = some id → id ∈ registry.live.map Prod.fst
  /-- The owner of the device has not given up its claim. -/
  owner : ∀ id, device.owner = some id → ∃ index, (phases index).unreleased? = some id

/-- The phases after one thread went on. -/
def advanced (phases : Nat → Phase) (index : Nat) (phase : Phase) : Nat → Phase :=
  fun other => if other = index then phase else phases other

@[simp] theorem advanced_self (phases : Nat → Phase) (index : Nat) (phase : Phase) :
    advanced phases index phase index = phase :=
  if_pos rfl

theorem advanced_ne (phases : Nat → Phase) {index other : Nat} (h : other ≠ index) (phase : Phase) :
    advanced phases index phase other = phases other :=
  if_neg h

/-- A function of the phases does not change if it does not for the thread that went on. -/
theorem map_advanced {α : Type} (f : Phase → α) (phases : Nat → Phase) {index : Nat} (phase : Phase)
    (h : f phase = f (phases index)) (other : Nat) :
    f (advanced phases index phase other) = f (phases other) := by
  by_cases heq : other = index
  · rw [heq, advanced_self, h]
  · rw [advanced_ne phases heq]

/-! ## The registry -/

namespace Registry

/-- A session that enters is in the registry, and nobody else is missing. -/
theorem mem_enter (registry : Registry) (handle : Option Nat) (id : SessionId) :
    id ∈ (registry.enter handle).2.live.map Prod.fst
      ↔ id ∈ registry.live.map Prod.fst ∨ id = (registry.enter handle).1 := by
  simp only [enter, allocate, List.map_append, List.mem_append, List.mem_map, List.mem_filter,
    List.map_cons, List.map_nil, List.mem_singleton]
  constructor
  · rintro (⟨entry, ⟨hentry, -⟩, rfl⟩ | heq)
    · exact Or.inl ⟨entry, hentry, rfl⟩
    · exact Or.inr heq
  · rintro (⟨entry, hentry, rfl⟩ | heq)
    · by_cases hsame : entry.1 = ⟨registry.nextId⟩
      · exact Or.inr hsame
      · exact Or.inl ⟨entry, ⟨hentry, decide_eq_true hsame⟩, rfl⟩
    · exact Or.inr heq

/-- A session that leaves is missing, and nobody else is. -/
theorem mem_leave (registry : Registry) (left id : SessionId) :
    id ∈ (registry.leave left).live.map Prod.fst ↔ id ∈ registry.live.map Prod.fst ∧ id ≠ left := by
  simp only [leave, List.mem_map, List.mem_filter]
  constructor
  · rintro ⟨entry, ⟨hentry, hne⟩, rfl⟩
    exact ⟨⟨entry, hentry, rfl⟩, by simpa using hne⟩
  · rintro ⟨⟨entry, hentry, rfl⟩, hne⟩
    exact ⟨entry, ⟨hentry, by simpa using hne⟩, rfl⟩

end Registry

/-! ## What preserves it -/

section Identified

variable {registry : Registry} {phases : Nat → Phase} {allocated index : Nat}

/-- An identity is given out to nobody. -/
theorem Identified.allocate (h : Identified registry phases allocated) :
    Identified registry.allocate.2 phases (allocated + 1) where
  next := by
    show registry.nextId + 1 = _
    rw [h.next, UInt64.ofNat_add (allocated + 1) 1]
    rfl
  given index id hid := Nat.le_succ_of_le (h.given index id hid)
  distinct := h.distinct

/-- Threads that keep their identities keep them apart. -/
theorem Identified.keep (h : Identified registry phases allocated) {later : Registry} {behind : Nat → Phase}
    (hnext : later.nextId = registry.nextId) (hid : ∀ other, (behind other).id? = (phases other).id?) :
    Identified later behind allocated where
  next := hnext.trans h.next
  given other id hother := h.given other id ((hid other).symm.trans hother)
  distinct one other id hone hother :=
    h.distinct one other id ((hid one).symm.trans hone) ((hid other).symm.trans hother)

/-- The next identity is the one that the counter says, until it comes around. -/
theorem Identified.toNat_next (h : Identified registry phases allocated)
    (few : allocated + 1 < UInt64.size) :
    registry.nextId.toNat = allocated + 1 := by
  rw [h.next, UInt64.toNat_ofNat']
  exact Nat.mod_eq_of_lt few

/-- **A new thread** gets an identity that no other thread has. -/
theorem Identified.enter (h : Identified registry phases allocated) (few : allocated + 1 < UInt64.size)
    (handle : Option Nat) :
    Identified (registry.enter handle).2
      (advanced phases index (.reading { id := (registry.enter handle).1 })) (allocated + 1) := by
  have hnew : (registry.enter handle).1.raw.toNat = allocated + 1 := h.toNat_next few
  -- the new identity is beyond all that were given out before
  have hfresh : ∀ other id, (phases other).id? = some id → id ≠ (registry.enter handle).1 := by
    rintro other id hid rfl
    have hle := h.given other _ hid
    omega
  refine ⟨h.allocate.next, ?_, ?_⟩
  · intro other id hid
    by_cases heq : other = index
    · rw [heq, advanced_self] at hid
      cases hid
      exact Nat.le_of_eq hnew
    · rw [advanced_ne phases heq] at hid
      exact Nat.le_succ_of_le (h.given other id hid)
  · intro one other id hone hother
    by_cases hi : one = index
    · by_cases hj : other = index
      · rw [hi, hj]
      · rw [hi, advanced_self] at hone
        rw [advanced_ne phases hj] at hother
        exact absurd (Option.some.inj hone).symm (hfresh other id hother)
    · by_cases hj : other = index
      · rw [hj, advanced_self] at hother
        rw [advanced_ne phases hi] at hone
        exact absurd (Option.some.inj hother).symm (hfresh one id hone)
      · rw [advanced_ne phases hi] at hone
        rw [advanced_ne phases hj] at hother
        exact h.distinct one other id hone hother

end Identified

namespace Orderly

variable {device : Device} {registry : Registry} {phases : Nat → Phase} {allocated index : Nat}

/-- An identity is given out to nobody. -/
theorem allocate (h : Orderly device registry phases allocated) :
    Orderly device registry.allocate.2 phases (allocated + 1) where
  toIdentified := h.toIdentified.allocate
  registered := h.registered
  owner := h.owner

/-- **A thread enters the registry** under a new identity. -/
theorem enter (h : Orderly device registry phases allocated) (hphase : phases index = .handed)
    (few : allocated + 1 < UInt64.size) (handle : Option Nat) :
    Orderly device (registry.enter handle).2
      (advanced phases index (.reading { id := (registry.enter handle).1 })) (allocated + 1) where
  toIdentified := h.toIdentified.enter few handle
  registered := by
    intro other id hid
    rw [Registry.mem_enter]
    by_cases heq : other = index
    · rw [heq, advanced_self] at hid
      exact Or.inr (Option.some.inj hid).symm
    · rw [advanced_ne phases heq] at hid
      exact Or.inl (h.registered other id hid)
  owner := by
    intro id howner
    obtain ⟨other, hother⟩ := h.owner id howner
    -- the thread of the owner is not the new one, which had no session yet
    refine ⟨other, ?_⟩
    rw [advanced_ne phases, hother]
    rintro rfl
    rw [hphase] at hother
    cases hother

/-- **A thread works** for its session and may claim the device for it. -/
theorem work (h : Orderly device registry phases allocated) {phase : Phase} {id : SessionId} {left : Device}
    (hbefore : (phases index).unreleased? = some id) (hbehind : phase.unreleased? = some id)
    (howner : left.owner = device.owner ∨ left.owner = some id) :
    Orderly left registry (advanced phases index phase) allocated := by
  have hentered := Phase.registered?_of_unreleased? hbefore
  have hstays := Phase.registered?_of_unreleased? hbehind
  have hunreleased := map_advanced Phase.unreleased? phases phase (hbehind.trans hbefore.symm)
  have hregistered := map_advanced Phase.registered? phases phase (hstays.trans hentered.symm)
  have hid := map_advanced Phase.id? phases phase
    ((Phase.id?_of_registered? hstays).trans (Phase.id?_of_registered? hentered).symm)
  refine ⟨h.toIdentified.keep rfl hid, ?_, ?_⟩
  · intro other given
    rw [hregistered]
    exact h.registered other given
  · intro holder hholder
    simp only [hunreleased]
    rcases howner with hsame | hclaimed
    · exact h.owner holder (hsame.symm.trans hholder)
    · exact ⟨index, hbefore.trans (hclaimed.symm.trans hholder)⟩

/-- **A thread gives up the claim** of its session. -/
theorem release (h : Orderly device registry phases allocated) {session : Session} {ending : Session.Ending}
    (hphase : phases index = .ended session ending) :
    Orderly (device.release session.id) registry (advanced phases index (.released session.id))
      allocated := by
  have hregistered := map_advanced Phase.registered? phases (.released session.id) (by rw [hphase]; rfl)
  have hid := map_advanced Phase.id? phases (.released session.id) (by rw [hphase]; rfl)
  refine ⟨h.toIdentified.keep rfl hid, ?_, ?_⟩
  · intro other given
    rw [hregistered]
    exact h.registered other given
  · intro holder hholder
    obtain ⟨howner, hne⟩ := Device.owner_release_eq_some.1 hholder
    obtain ⟨other, hother⟩ := h.owner holder howner
    -- the thread of the holder is not the one that released, whose session is another
    refine ⟨other, ?_⟩
    rw [advanced_ne phases, hother]
    rintro rfl
    rw [hphase] at hother
    exact hne (Option.some.inj hother).symm

/-- **A thread leaves the registry.** Everybody else stays in it, for nobody else has the identity. -/
theorem leave (h : Orderly device registry phases allocated) {id : SessionId}
    (hphase : phases index = .released id) :
    Orderly device (registry.leave id) (advanced phases index (.finished id)) allocated := by
  have hunreleased := map_advanced Phase.unreleased? phases (.finished id) (by rw [hphase]; rfl)
  have hid := map_advanced Phase.id? phases (.finished id) (by rw [hphase]; rfl)
  refine ⟨h.toIdentified.keep rfl hid, ?_, ?_⟩
  · intro other given hgiven
    by_cases heq : other = index
    · rw [heq, advanced_self] at hgiven
      cases hgiven
    · rw [advanced_ne phases heq] at hgiven
      refine (Registry.mem_leave registry id given).2 ⟨h.registered other given hgiven, ?_⟩
      rintro rfl
      exact heq (h.distinct other index given (Phase.id?_of_registered? hgiven) (by rw [hphase]; rfl))
  · intro holder hholder
    simp only [hunreleased]
    exact h.owner holder hholder

/-- **The owner is running**, in an orderly state. -/
theorem owner_mem_live (h : Orderly device registry phases allocated) {id : SessionId}
    (howner : device.owner = some id) : id ∈ registry.live.map Prod.fst := by
  obtain ⟨index, hindex⟩ := h.owner id howner
  exact h.registered index id (Phase.registered?_of_unreleased? hindex)

end Orderly

/-! ## Services -/

namespace Service

/-- How far a thread has come; one that was not started yet counts as just handed its connection. -/
def phaseOf (service : Service) (index : Nat) : Phase :=
  match service.workers[index]? with
  | some worker => worker.phase
  | none => .handed

/-- Whether a move gives out an identity. -/
def Move.allocates : Move → Bool
  | .allocate => true
  | .work _ deed => deed.registers
  | .hand _ | .cancelAll => false

/-- **A tidy service** has given out this many identities and is orderly. -/
def Tidy (service : Service) (allocated : Nat) : Prop :=
  Orderly service.device service.registry service.phaseOf allocated

/-- A new thread has not come further than one that is not there. -/
theorem phaseOf_hand (service : Service) (connection : Nat) :
    (service.hand connection).phaseOf = service.phaseOf := by
  funext index
  unfold phaseOf hand
  dsimp only
  rw [List.getElem?_append]
  by_cases hlt : index < service.workers.length
  · rw [if_pos hlt]
  · rw [if_neg hlt, List.getElem?_eq_none (Nat.not_lt.1 hlt)]
    cases index - service.workers.length with
    | zero => rfl
    | succ more => rfl

/-- A cancellation moves no thread. -/
theorem phaseOf_cancelAll (service : Service) : service.cancelAll.2.phaseOf = service.phaseOf := by
  funext index
  unfold phaseOf cancelAll
  dsimp only
  rw [List.getElem?_mapIdx]
  cases service.workers[index]? with
  | none => rfl
  | some worker =>
    dsimp only [Option.map]
    split <;> rfl

/-- A deed moves its thread and no other. -/
theorem phaseOf_set (service : Service) {index : Nat} {worker : Worker}
    (hworker : service.workers[index]? = some worker) (moved : Worker) (device : Device)
    (registry : Registry) :
    phaseOf { device, registry, workers := service.workers.set index moved }
      = advanced service.phaseOf index moved.phase := by
  obtain ⟨hlt, -⟩ := List.getElem?_eq_some_iff.1 hworker
  funext other
  unfold phaseOf advanced
  dsimp only
  rw [List.getElem?_set]
  by_cases heq : index = other
  · rw [if_pos heq, if_pos hlt, if_pos heq.symm]
  · rw [if_neg heq, if_neg (Ne.symm heq)]

/-- **A deed** that is done is a step of its thread. -/
theorem work?_advance {service next : Service} {index : Nat} {deed : Worker.Deed} {log : List LogRecord}
    (h : service.work? index deed = some (next, log)) :
    ∃ phase, next.phaseOf = advanced service.phaseOf index phase ∧
      Advance service.device service.registry deed.registers (service.phaseOf index) phase next.device
        next.registry := by
  obtain ⟨worker, outcome, hworker, hperforms, rfl, -⟩ := work?_eq_some h
  refine ⟨outcome.worker.phase, phaseOf_set service hworker _ _ _, ?_⟩
  have hadvance := hperforms.advance
  unfold phaseOf
  rw [hworker]
  exact hadvance

/-- **One deed** keeps a service tidy: one case for each kind of deed. -/
theorem Tidy.work {service next : Service} {index allocated : Nat} {deed : Worker.Deed}
    {log : List LogRecord} (h : service.Tidy allocated) (hwork : service.work? index deed = some (next, log))
    (few : (if deed.registers then 1 else 0) + allocated < UInt64.size) :
    next.Tidy ((if deed.registers then 1 else 0) + allocated) := by
  obtain ⟨phase, hphases, hadvance⟩ := work?_advance hwork
  unfold Tidy at h ⊢
  rw [hphases]
  -- the kinds of deed say all that matters here, so the services themselves can be forgotten
  generalize hbefore : service.phaseOf index = before at hadvance
  generalize deed.registers = registers at hadvance few ⊢
  generalize next.device = device at hadvance ⊢
  generalize next.registry = registry at hadvance ⊢
  cases hadvance with
  | enter handle =>
    rw [if_pos rfl, Nat.add_comm] at few ⊢
    exact h.enter hbefore few handle
  | work hunreleased hbehind howner =>
    rw [if_neg Bool.false_ne_true, Nat.zero_add]
    exact h.work (hbefore ▸ hunreleased) hbehind howner
  | release session ending =>
    rw [if_neg Bool.false_ne_true, Nat.zero_add]
    exact h.release hbefore
  | leave id =>
    rw [if_neg Bool.false_ne_true, Nat.zero_add]
    exact h.leave hbefore

/-- **One move** keeps a service tidy, if it does not bring the counter around. -/
theorem Tidy.step {service next : Service} {allocated : Nat} {move : Move} (h : service.Tidy allocated)
    (hstep : service.step? move = some next)
    (few : (if move.allocates then 1 else 0) + allocated < UInt64.size) :
    next.Tidy ((if move.allocates then 1 else 0) + allocated) := by
  cases move with
  | hand connection =>
    obtain rfl := Option.some.inj hstep
    unfold Tidy
    rw [phaseOf_hand]
    show Orderly service.device service.registry service.phaseOf (0 + allocated)
    rw [Nat.zero_add]
    exact h
  | cancelAll =>
    obtain rfl := Option.some.inj hstep
    unfold Tidy
    rw [phaseOf_cancelAll]
    show Orderly service.device service.registry service.phaseOf (0 + allocated)
    rw [Nat.zero_add]
    exact h
  | allocate =>
    obtain rfl := Option.some.inj hstep
    show Orderly service.device service.registry.allocate.2 service.phaseOf (1 + allocated)
    rw [Nat.add_comm]
    exact h.allocate
  | work index deed =>
    obtain ⟨⟨reached, log⟩, hwork, rfl⟩ := Option.map_eq_some_iff.1 hstep
    exact h.work hwork few

/-- **All moves** keep it tidy. Induction over the interleaving. -/
theorem Tidy.replay {moves : List Move} {service next : Service} {allocated : Nat}
    (h : service.Tidy allocated) (hreplay : service.replay? moves = some next)
    (few : allocated + moves.countP Move.allocates < UInt64.size) :
    next.Tidy (allocated + moves.countP Move.allocates) := by
  induction moves generalizing service allocated with
  | nil =>
    obtain rfl := Option.some.inj hreplay
    exact h
  | cons move moves ih =>
    obtain ⟨middle, hstep, hrest⟩ := Option.bind_eq_some_iff.1 hreplay
    rw [List.countP_cons, Nat.add_comm (moves.countP _), ← Nat.add_assoc, Nat.add_comm allocated] at few ⊢
    exact ih (h.step hstep (by omega)) hrest few

/-- A service begins tidy. -/
theorem tidy_start {device : Device} (unclaimed : device.owner = none) : ({ device } : Service).Tidy 0 where
  next := rfl
  given index id hid := by cases hid
  distinct index other id hid := by cases hid
  registered index id hid := by cases hid
  owner id howner := by
    rw [unclaimed] at howner
    cases howner

/-! ## The owner -/

/-- **The owner is live**: it is running, its claim is not given up, and nobody owns a drained device. -/
structure OwnerIsLive (service : Service) : Prop where
  registered : ∀ id, service.device.owner = some id → id ∈ service.registry.live.map Prod.fst
  /-- One thread has the owner's session, and has not given up its claim. -/
  unreleased : ∀ id, service.device.owner = some id →
    ∃ index worker, service.workers[index]? = some worker ∧ worker.phase.unreleased? = some id ∧
      ∀ (other : Nat) (same : Worker), service.workers[other]? = some same → same.phase.id? = some id →
        other = index
  drained : service.registry.liveCount = 0 → service.device.owner = none

theorem phaseOf_of_getElem? {service : Service} {index : Nat} {worker : Worker}
    (h : service.workers[index]? = some worker) : service.phaseOf index = worker.phase := by
  rw [phaseOf, h]

/-- In a tidy service the owner is live. -/
theorem Tidy.ownerIsLive {service : Service} {allocated : Nat} (h : service.Tidy allocated) :
    service.OwnerIsLive where
  registered id howner := h.owner_mem_live howner
  unreleased := by
    intro id howner
    obtain ⟨index, hindex⟩ := h.owner id howner
    cases hworker : service.workers[index]? with
    | none =>
      rw [phaseOf, hworker] at hindex
      cases hindex
    | some worker =>
      have hid := Phase.id?_of_registered? (Phase.registered?_of_unreleased? hindex)
      refine ⟨index, worker, hworker, ?_, ?_⟩
      · rw [← phaseOf_of_getElem? hworker]
        exact hindex
      · intro other same hsame hother
        rw [← phaseOf_of_getElem? hsame] at hother
        exact h.distinct other index id hother hid
  drained := by
    intro hcount
    have hlive : service.registry.live = [] := List.eq_nil_of_length_eq_zero hcount
    cases howner : service.device.owner with
    | none => rfl
    | some id =>
      have hmem := h.owner_mem_live howner
      rw [hlive] at hmem
      cases hmem

/-- What can be seen of an interleaving while it goes on. -/
def SeenIn (start : Service) (moves : List Move) (look : Service) : Prop :=
  ∃ before, before <+: moves ∧ start.replay? before = some look

/-- **The owner is live**, in every state that an interleaving reaches; and when waiting for the sessions to
    end finds that there are none, then at the look that finds it the device is unclaimed. -/
theorem owner_isLive {device : Device} (unclaimed : device.owner = none) {moves : List Move}
    (few : moves.countP Move.allocates < UInt64.size) :
    (∀ service, SeenIn { device } moves service → service.OwnerIsLive) ∧
    ∀ first later, (∀ look ∈ first :: later, SeenIn { device } moves look) →
      Registry.drained first.registry (later.map Service.registry) = true →
      ∃ look ∈ first :: later, look.registry.liveCount = 0 ∧ look.device.owner = none := by
  have hlive : ∀ service, SeenIn { device } moves service → service.OwnerIsLive := by
    rintro service ⟨before, hbefore, hreplay⟩
    have hcount : before.countP Move.allocates ≤ moves.countP Move.allocates := hbefore.sublist.countP_le
    exact ((tidy_start unclaimed).replay hreplay (by omega)).ownerIsLive
  refine ⟨hlive, ?_⟩
  intro first later hlooks hdrained
  have hregistries : (first :: later).any (fun look => look.registry.liveCount == 0) = true := by
    rw [Registry.drained, ← List.map_cons, List.any_map] at hdrained
    exact hdrained
  obtain ⟨look, hlook, hzero⟩ := List.any_eq_true.1 hregistries
  have hcount : look.registry.liveCount = 0 := by simpa using hzero
  exact ⟨look, hlook, hcount, (hlive look (hlooks look hlook)).drained hcount⟩

/-- A session that claims the device and one that does not, and both in the registry. -/
theorem owner_isLive_two :
    let moves : List Move :=
      [.hand 0, .hand 1, .work 1 (.register none), .allocate, .work 0 (.register none),
       .work 0 (.deliver (Bytes.ofString "WRITE ab\n")), .work 0 (.serve [] []), .cancelAll,
       .work 1 .hangUp, .work 1 .release]
    ({ capacity := 8 } : Device).owner = none ∧ moves.countP Move.allocates < UInt64.size ∧
      ∃ service, SeenIn { device := { capacity := 8 } } moves service ∧
        service.device.owner = some ⟨3⟩ ∧ ⟨3⟩ ∈ service.registry.live.map Prod.fst := by
  intro moves
  have few : moves.countP Move.allocates < UInt64.size := by decide
  have hall : (({ device := { capacity := 8 } } : Service).replay? moves).map
      (fun service => service.device.owner) = some (some ⟨3⟩) := by decide
  obtain ⟨service, hreplay, howner⟩ := Option.map_eq_some_iff.1 hall
  have hseen : SeenIn { device := { capacity := 8 } } moves service :=
    ⟨moves, List.prefix_refl moves, hreplay⟩
  have unclaimed : ({ capacity := 8 } : Device).owner = none := rfl
  have hlive := (owner_isLive unclaimed few).1 service hseen
  exact ⟨unclaimed, few, service, hseen, howner, hlive.registered ⟨3⟩ howner⟩

end Service

end DeviceBroker
