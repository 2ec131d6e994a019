import DeviceBroker.Proofs.Roster
import Mathlib.Data.Set.Card

/-!
# `Proofs.Tracking` — the registry tracks who is running

What the registry tells is told as the history would tell it: identities come in order and are never given out
twice, those who are running are listed and counted, and whoever has left is never listed again. Cancelling reaches
the connections of just those who are running and whose handle could be made. It leaves them on the list, and no
reader is left waiting on them.

Somebody who waits for the sessions to end looks at the registry behind some of the operations; what is done
between the looks is not told to it.

## Contents

* `Switchboard.eq_of_identity`, `not_running_of_leave` — identities are new, and whoever has left has left.
* `Kept.liveCount_eq`, `Kept.length_handles` — numbers.
* `Switchboard.Ending`, `ending_replay`, `Finishes` — **a connection that was shut down**, whatever happens since.
* `Registry.Reaches`, `wait_eq_true_iff`, `wait_eq_false_iff`, `drained_of_wait` — what a wait comes to.
* `Switchboard.Tracks`, `replay_tracks` — **the registry tracks who is running**.
-/

namespace DeviceBroker

namespace Switchboard

open Connection

/-! ## Identities -/

section Identities

variable {history before after other rest : List Operation} {operation second : Operation} {id : SessionId}
  {cloned : Bool}

/-- **The next identity** is the next number. -/
theorem toNat_of_identity (few : issued before + 1 < UInt64.size)
    (h : ((replay before).perform operation).1 = .identity id) : id.raw.toNat = issued before + 1 :=
  (kept_replay before few).toNat_eq_of_identity few h

/-- The identities given out before. -/
theorem issued_lt (before : List Operation) (hissues : operation.issues = true) (after : List Operation) :
    issued before < issued (before ++ operation :: after) := by
  have hle := issued_le_append (before ++ [operation]) after
  rw [issued_append, if_pos hissues, List.append_assoc] at hle
  exact hle

/-- **No identity is given out twice.** -/
theorem eq_of_identity (few : issued history + 1 < UInt64.size) (hfirst : history = before ++ operation :: after)
    (hsecond : history = other ++ second :: rest) (hid : ((replay before).perform operation).1 = .identity id)
    (hsame : ((replay other).perform second).1 = .identity id) :
    before = other ∧ operation = second ∧ after = rest := by
  have hissues := (Kept.perform_eq_identity_iff.1 hid).1
  have hagain := (Kept.perform_eq_identity_iff.1 hsame).1
  have hbefore : issued before < issued history := by
    rw [hfirst]
    exact issued_lt before hissues after
  have hother : issued other < issued history := by
    rw [hsecond]
    exact issued_lt other hagain rest
  have hnumber := toNat_of_identity (by omega) hid
  have hnumber' := toNat_of_identity (by omega) hsame
  rw [hfirst] at hsecond
  rcases List.append_eq_append_iff.1 hsecond with ⟨between, rfl, hrest⟩ | ⟨between, rfl, hrest⟩
  · cases between with
    | nil =>
      obtain ⟨rfl, rfl⟩ := List.cons.inj hrest
      exact ⟨by simp, rfl, rfl⟩
    | cons first between =>
      obtain ⟨rfl, -⟩ := List.cons.inj hrest
      have hlt := issued_lt before hissues between
      omega
  · cases between with
    | nil =>
      obtain ⟨rfl, rfl⟩ := List.cons.inj hrest
      exact ⟨by simp, rfl, rfl⟩
    | cons first between =>
      obtain ⟨rfl, -⟩ := List.cons.inj hrest
      have hlt := issued_lt other hagain between
      omega

/-- **An identity alone** does not make anybody run. -/
theorem not_running_of_allocate (few : issued history + 1 < UInt64.size)
    (hhistory : history = before ++ .allocate :: after)
    (hid : ((replay before).perform .allocate).1 = .identity id) : ¬Running history id := by
  rintro ⟨cloned, other, rest, hother, hsame, -⟩
  cases (eq_of_identity few hhistory hother hid hsame).2.1

/-- **Whoever has left** is never running again. -/
theorem not_running_of_leave (few : issued history + 1 < UInt64.size)
    (hhistory : history = before ++ .leave id :: after) (hissued : Issued before id) : ¬Running history id := by
  rintro ⟨cloned, other, rest, hother, hsame, hstays⟩
  obtain ⟨front, operation, back, rfl, hid⟩ := hissued
  have hfront : history = front ++ operation :: (back ++ .leave id :: after) := by
    rw [hhistory, List.append_assoc, List.cons_append]
  obtain ⟨-, -, rfl⟩ := eq_of_identity few hfront hother hid hsame
  simp at hstays

end Identities

/-! ## Numbers -/

/-- A list without repetitions has as many members as there are. -/
theorem ncard_eq_length {α : Type} {entries : List α} {p : α → Prop} (hnodup : entries.Nodup)
    (h : ∀ entry, entry ∈ entries ↔ p entry) : {entry | p entry}.ncard = entries.length := by
  classical
  have hset : {entry | p entry} = (entries.toFinset : Set α) := by
    ext entry
    simp [h]
  rw [hset, Set.ncard_coe_finset, List.toFinset_card_of_nodup hnodup]

namespace Kept

variable {history : List Operation} {board : Switchboard} {id : SessionId}

/-- **As many are listed** as are running. -/
theorem liveCount_eq (kept : Kept history board) : board.registry.liveCount = {id | Running history id}.ncard := by
  rw [ncard_eq_length kept.apart fun _ => kept.mem_live, List.length_map]
  rfl

/-- **As many handles are used** as there are of those who are running. -/
theorem length_handles (kept : Kept history board) :
    board.registry.handles.length = {id | RunningAs true history id}.ncard := by
  have hlisted : ∀ id, id ∈ (board.registry.live.filter fun entry => entry.2.isSome).map Prod.fst ↔
      RunningAs true history id := by
    intro id
    rw [List.mem_map]
    constructor
    · rintro ⟨⟨listed, handle⟩, hentry, rfl⟩
      obtain ⟨hlive, hhandle⟩ := List.mem_filter.1 hentry
      obtain ⟨index, rfl⟩ := Option.isSome_iff_exists.1 hhandle
      exact ((kept.cloned listed index).1 hlive).1
    · intro hrunning
      obtain ⟨index, hknown⟩ := kept.entered true id hrunning
      exact ⟨(id, some index), List.mem_filter.2 ⟨(kept.cloned id index).2 ⟨hrunning, hknown⟩, rfl⟩, rfl⟩
  have hnodup : ((board.registry.live.filter fun entry => entry.2.isSome).map Prod.fst).Nodup :=
    kept.apart.sublist (List.filter_sublist.map _)
  rw [ncard_eq_length hnodup hlisted, List.length_map, Registry.handles, List.length_filterMap_eq_countP,
    List.countP_eq_length_filter]

/-- **Who is not running** is not missed. -/
theorem leave_eq (kept : Kept history board) (h : ¬Running history id) : board.leave id = board := by
  have hunlisted := mt kept.mem_live.1 h
  have hhandle : board.registry.handle? id = none := by
    cases hhandle : board.registry.handle? id with
    | none => rfl
    | some index => exact absurd ⟨true, (kept.handle?_eq_some_iff.1 hhandle).1⟩ h
  unfold leave
  rw [hhandle]
  simp only [Registry.leave, filter_ne_key hunlisted]

end Kept

/-! ## After the end -/

/-- How much a read of one end asks for. -/
def Operation.draws (id : SessionId) (side : Side) : Operation → Nat
  | act other (.poll one limit) => if other = id ∧ one = side then limit else 0
  | _ => 0

/-- How much the reads of one end have asked for. -/
def drawn (id : SessionId) (side : Side) (operations : List Operation) : Nat :=
  (operations.map (Operation.draws id side)).sum

/-- **A connection that was shut down**, and what was done since: what was queued is read, and nothing comes. -/
structure Ending (first : Connection) (id : SessionId) (since : List Operation) (connection : Connection) : Prop where
  shut : ∀ side, (connection.endpoint side).shut = true
  inbox : ∀ side, (connection.endpoint side).inbox = (first.endpoint side).inbox.drop (drawn id side since)
  reset : ∀ side, (connection.endpoint side).wasReset = true → (first.endpoint side).wasReset = true

/-- Nobody leaves a session or closes an end of its connection. -/
def Stays (id : SessionId) (operation : Operation) : Prop :=
  operation ≠ .leave id ∧ ∀ side, operation ≠ .act id (.drop side)

/-- **One end winds up**: its reads find what is left of its queue, and then the end of the stream, or first an
    error if it is left `alone`. Nothing can be sent. -/
structure Finishes (board : Switchboard) (id : SessionId) (side : Side) (left : Bytes) (alone : Prop) : Prop where
  reads : left ≠ [] → ∀ limit,
    (board.perform (.act id (.poll side limit))).1 = .result (.polled (.bytes (left.take limit)))
  ends : left = [] → ∀ limit, (board.perform (.act id (.poll side limit))).1 = .result (.polled .ended) ∨
    ((board.perform (.act id (.poll side limit))).1 = .result (.polled (.failure resetByPeer)) ∧ alone)
  mute : ∀ bytes, (board.perform (.act id (.send side bytes))).1 = .result (.unsent brokenPipe)

theorem Finishes.mono {board : Switchboard} {id : SessionId} {side : Side} {left : Bytes} {alone lone : Prop}
    (finishes : Finishes board id side left alone) (h : alone → lone) : Finishes board id side left lone where
  reads := finishes.reads
  ends hleft limit := (finishes.ends hleft limit).imp_right fun hfails => ⟨hfails.1, h hfails.2⟩
  mute := finishes.mute

section Ending

variable {first connection later : Connection} {id : SessionId} {since history : List Operation}
  {operation : Operation} {side : Side}

@[simp]
theorem drawn_append (id : SessionId) (side : Side) (since : List Operation) (operation : Operation) :
    drawn id side (since ++ [operation]) = drawn id side since + operation.draws id side := by
  simp [drawn]

theorem ending_shutdown (first : Connection) (id : SessionId) : Ending first id [] first.shutdown where
  shut side := by simp
  inbox side := by simp [drawn]
  reset side h := by simpa using h

/-- Reading what is left. -/
theorem Ending.poll (ending : Ending first id since connection) (side : Side) (limit : Nat) :
    Ending first id (since ++ [.act id (.poll side limit)]) (connection.act (.poll side limit)).2 := by
  have hpoll := fun one => endpoint_poll connection side one limit
  refine ⟨?_, ?_, ?_⟩
  · intro one
    exact (hpoll one).2.2.1.trans (ending.shut one)
  · intro one
    refine (hpoll one).1.trans ?_
    rw [ending.inbox one, drawn_append]
    by_cases hsame : side = one
    · simp [Operation.draws, hsame, List.drop_drop]
    · simp [Operation.draws, hsame]
  · intro one hreset
    exact ending.reset one ((hpoll one).2.2.2 hreset)

/-- **One operation** after the end, be it on the connection or elsewhere. -/
theorem Ending.evolves (ending : Ending first id since connection) (hstays : Stays id operation)
    (h : Evolves history id connection operation later) : Ending first id (since ++ [operation]) later := by
  cases h with
  | acted act =>
    cases act with
    | poll side limit => exact ending.poll side limit
    | drop side => exact absurd rfl (hstays.2 side)
    | send side bytes =>
      have hnothing : (connection.act (.send side bytes)).2 = connection := by
        simp [Connection.act, send, ending.shut side]
      rw [hnothing]
      refine ⟨ending.shut, ?_, ending.reset⟩
      intro one
      rw [drawn_append]
      exact ending.inbox one
  | left hrunning => exact absurd rfl hstays.1
  | cancelled hrunning =>
    refine ⟨?_, ?_, ?_⟩
    · intro side
      simp
    · intro side
      rw [endpoint_shutdown, drawn_append]
      exact ending.inbox side
    · intro side hreset
      exact ending.reset side (by simpa using hreset)
  | kept helsewhere hspared =>
    refine ⟨ending.shut, ?_, ending.reset⟩
    intro side
    have hdraws : operation.draws id side = 0 := by
      unfold Operation.draws
      split
      · next other one limit =>
        refine if_neg ?_
        rintro ⟨rfl, -⟩
        exact helsewhere _ rfl
      · rfl
    rw [drawn_append, hdraws]
    exact ending.inbox side

/-- Whoever has a connection keeps it. -/
theorem mem_known_perform {board : Switchboard} {index : Nat} (hknown : (id, index) ∈ board.known)
    (operation : Operation) : (id, index) ∈ (board.perform operation).2.known := by
  cases operation with
  | allocate => exact hknown
  | liveCount => exact hknown
  | enter cloned => exact List.mem_cons_of_mem _ hknown
  | cancelAll =>
    show (id, index) ∈ board.cancelAll.2.known
    rwa [cancelAll_known]
  | leave other =>
    simp only [perform, leave]
    split
    · exact hknown
    · exact hknown
  | act other act =>
    simp only [perform]
    split
    · exact hknown
    · exact hknown

/-- **From the end on**: a connection that was shut down, whatever happens to it and elsewhere. Induction over the
    operations since. -/
theorem ending_replay {before : List Operation} {index : Nat}
    (few : issued (before ++ .cancelAll :: since) + 1 < UInt64.size) (hrunning : RunningAs true before id)
    (hknown : (id, index) ∈ (replay before).known) (hplace : (replay before).connections[index]? = some first)
    (hstays : ∀ operation ∈ since, Stays id operation) :
    ∃ connection, (replay (before ++ .cancelAll :: since)).find? id = some (index, connection) ∧
      Ending first id since connection := by
  induction since using List.reverseRecOn with
  | nil =>
    have hbefore := Nat.lt_of_le_of_lt (Nat.succ_le_succ (issued_le_append before _)) few
    obtain ⟨connection, hthere, hevolves⟩ := (kept_replay before hbefore).evolves hknown hplace .cancelAll
    have hshut : connection = first.shutdown := by
      cases hevolves with
      | cancelled => rfl
      | kept hnone hspared => exact absurd rfl (hspared hrunning).2
    subst hshut
    refine ⟨first.shutdown, (kept_replay _ few).find?_eq_some_iff.2 ⟨?_, ?_⟩, ending_shutdown first id⟩
    · rw [replay_append]
      exact mem_known_perform hknown _
    · rw [replay_append]
      exact hthere
  | append_singleton since operation ih =>
    rw [← List.cons_append, ← List.append_assoc] at few ⊢
    have hbefore := Nat.lt_of_le_of_lt (Nat.succ_le_succ (issued_le_append _ [operation])) few
    obtain ⟨connection, hfound, hending⟩ :=
      ih hbefore fun other hother => hstays other (List.mem_append_left _ hother)
    obtain ⟨hthere, hconnection⟩ := (kept_replay _ hbefore).find?_eq_some_iff.1 hfound
    obtain ⟨later, hlater, hevolves⟩ := (kept_replay _ hbefore).evolves hthere hconnection operation
    refine ⟨later, (kept_replay _ few).find?_eq_some_iff.2 ⟨?_, ?_⟩, ?_⟩
    · rw [replay_append]
      exact mem_known_perform hthere _
    · rw [replay_append]
      exact hlater
    · exact hending.evolves (hstays operation (List.mem_append_right _ List.mem_cons_self)) hevolves

/-- What is done on a connection that is found. -/
theorem perform_act {board : Switchboard} {index : Nat} (hfound : board.find? id = some (index, connection))
    (act : Act) : (board.perform (.act id act)).1 = .result (connection.act act).1 := by
  simp only [perform, hfound]

/-- **An end that was shut down** reads what is left, and then the end. -/
theorem finishes_of_shut {board : Switchboard} {index : Nat} (hfound : board.find? id = some (index, connection))
    (hshut : (connection.endpoint side).shut = true) :
    Finishes board id side (connection.endpoint side).inbox ((connection.endpoint side).wasReset = true) := by
  have hpoll : ∀ limit,
      (board.perform (.act id (.poll side limit))).1 = .result (.polled (connection.poll side limit).1) :=
    fun limit => perform_act hfound _
  refine ⟨?_, ?_, ?_⟩
  · intro hleft limit
    have hpolls := polls_poll connection side limit
    rw [hpoll]
    generalize connection.poll side limit = polled at hpolls
    cases hpolls with
    | queued hqueue => rfl
    | reset hqueue hreset => exact absurd hqueue hleft
    | idle hqueue hreset => exact absurd hqueue hleft
  · intro hleft limit
    have hpolls := polls_poll connection side limit
    rw [hpoll]
    generalize connection.poll side limit = polled at hpolls
    cases hpolls with
    | queued hqueue => exact absurd hleft hqueue
    | reset hqueue hreset => exact Or.inr ⟨rfl, hreset⟩
    | idle hqueue hreset =>
      rw [hshut]
      exact Or.inl rfl
  · intro bytes
    rw [perform_act hfound]
    simp [Connection.act, send, hshut]

/-- A connection one of whose ends is held has not reset the other one. -/
theorem Paired.wasReset (paired : Paired history id connection) (hrunning : RunningAs true history id) {side : Side}
    (hheld : Held history id side.other) : (connection.endpoint side).wasReset = false := by
  have hclient := paired.client
  have hserver := paired.server hrunning
  refine Bool.eq_false_iff.2 fun hreset => ?_
  have hnobody := paired.sound side hreset
  cases side with
  | client =>
    have hcount : history.count (.act id (.drop .server)) ≤ 1 := hheld
    simp only [Side.other, endpoint] at hnobody
    omega
  | server =>
    have hcount : history.count (.act id (.drop .client)) = 0 := List.count_eq_zero.2 hheld
    simp only [Side.other, endpoint] at hnobody
    omega

end Ending

end Switchboard

/-! ## Waiting -/

namespace Registry

/-- **A wait comes to a look**, unless all sessions had ended by one before: no look before it was late. -/
def Reaches {α : Type} (late : α → Bool) (looks : List α) (look : α) : Prop :=
  ∃ before after, looks = before ++ look :: after ∧ ∀ earlier ∈ before, late earlier = false

section Waiting

variable {α : Type} {late : α → Bool} {looks : List α} {first look : α}

/-- The first look is always come to, and those behind it if it is not late. -/
theorem reaches_cons :
    Reaches late (first :: looks) look ↔ look = first ∨ (late first = false ∧ Reaches late looks look) := by
  constructor
  · rintro ⟨before, after, hlooks, hearly⟩
    cases before with
    | nil => exact Or.inl (List.cons.inj hlooks).1.symm
    | cons one before =>
      obtain ⟨rfl, rfl⟩ := List.cons.inj hlooks
      exact Or.inr ⟨hearly first List.mem_cons_self, before, after, rfl,
        fun earlier hearlier => hearly earlier (List.mem_cons_of_mem _ hearlier)⟩
  · rintro (rfl | ⟨hfirst, before, after, rfl, hearly⟩)
    · exact ⟨[], looks, rfl, nofun⟩
    · refine ⟨first :: before, after, rfl, ?_⟩
      intro earlier hearlier
      rcases List.mem_cons.1 hearlier with rfl | hearlier
      · exact hfirst
      · exact hearly earlier hearlier

theorem not_reaches_nil : ¬Reaches late [] look := by
  rintro ⟨before, after, hnone, -⟩
  simp at hnone

/-- **A wait ends well** just if nobody was running at one of its looks. Induction over the looks. -/
theorem wait_eq_true_iff (seen : α → Look) (looks : List α) :
    wait (looks.map seen) = some true ↔
      ∃ look, Reaches (fun look => (seen look).late) looks look ∧ (seen look).registry.liveCount = 0 := by
  induction looks with
  | nil => simp [wait, not_reaches_nil]
  | cons first looks ih =>
    simp only [List.map_cons, wait, reaches_cons, beq_iff_eq]
    by_cases hnobody : (seen first).registry.liveCount = 0
    · simp only [hnobody, if_true, true_iff]
      exact ⟨first, Or.inl rfl, hnobody⟩
    · cases hlate : (seen first).late with
      | true => simp [hnobody]
      | false => simp [hnobody, ih]

/-- **A wait gives up** just if somebody was running at all its looks and one of them was late. -/
theorem wait_eq_false_iff (seen : α → Look) (looks : List α) :
    wait (looks.map seen) = some false ↔
      (∃ look, Reaches (fun look => (seen look).late) looks look ∧ (seen look).late = true) ∧
        ∀ look, Reaches (fun look => (seen look).late) looks look → (seen look).registry.liveCount ≠ 0 := by
  induction looks with
  | nil => simp [wait, not_reaches_nil]
  | cons first looks ih =>
    simp only [List.map_cons, wait, reaches_cons, beq_iff_eq]
    by_cases hnobody : (seen first).registry.liveCount = 0
    · simp [hnobody]
    · cases hlate : (seen first).late with
      | true => simp [hnobody, hlate]
      | false => simp [hnobody, hlate, ih]

/-- What is found by a wait that is over, among the looks that it has taken. -/
theorem drained_of_wait {looks : List Look} {result : Bool} (h : wait looks = some result) :
    ∃ first later rest, looks = first :: (later ++ rest) ∧
      drained first.registry (later.map Look.registry) = result := by
  induction looks with
  | nil => cases h
  | cons first looks ih =>
    unfold wait at h
    split at h
    · next hnobody =>
      cases h
      exact ⟨first, [], looks, rfl, by simp [drained, hnobody]⟩
    · next hsomebody =>
      split at h
      · cases h
        exact ⟨first, [], looks, rfl, by simp [drained, hsomebody]⟩
      · obtain ⟨second, later, rest, rfl, hdrained⟩ := ih h
        refine ⟨first, second :: later, rest, rfl, ?_⟩
        rw [← hdrained]
        simp [drained, hsomebody]

end Waiting

end Registry

namespace Switchboard

/-! ## The whole -/

/-- A look at the registry behind the first operations of a history. -/
structure Glance where
  behind : Nat
  /-- Whether the time is up then. -/
  late : Bool

/-- What is seen. -/
def Glance.look (history : List Operation) (glance : Glance) : Registry.Look where
  registry := (replay (history.take glance.behind)).registry
  late := glance.late

/-- **The registry tracks who is running.** -/
structure Tracks (history : List Operation) : Prop where
  /-- The identities are 1, 2 and so on. -/
  identities : ∀ before operation after, history = before ++ operation :: after → operation.issues = true →
    ∃ id, ((replay before).perform operation).1 = .identity id ∧ id.raw.toNat = issued before + 1
  /-- Those who are running are listed. -/
  lists : ∀ id, id ∈ (replay history).registry.live.map Prod.fst ↔ Running history id
  /-- An identity alone does not make anybody run. -/
  allocates : ∀ before after id, history = before ++ .allocate :: after →
    ((replay before).perform .allocate).1 = .identity id → ¬Running history id
  /-- Who is not running is not missed. -/
  ignores : ∀ id, ¬Running history id → (replay history).perform (.leave id) = (.done, replay history)
  /-- Who has left does not come back. -/
  forgets : ∀ before after id, history = before ++ .leave id :: after → Issued before id → ¬Running history id
  /-- Those who are running are counted. -/
  counts : (replay history).perform .liveCount = (.count {id | Running history id}.ncard, replay history)
  /-- Cancelling counts those whose handle could be made, forgets nobody, and comes to the same again. -/
  cancels : ((replay history).perform .cancelAll).1 = .count {id | RunningAs true history id}.ncard ∧
    (replay (history ++ [.cancelAll])).registry = (replay history).registry ∧
    (replay (history ++ [.cancelAll])).perform .cancelAll = (replay history).perform .cancelAll
  /-- It leaves all other connections as they are. -/
  spares : ∀ id, ¬RunningAs true history id → (replay (history ++ [.cancelAll])).find? id = (replay history).find? id
  /-- After it, both ends of each connection read what was queued, whatever else goes on, and then the end; nothing
      can be sent. A read fails before that only if nobody is left on the other side. -/
  ends : ∀ before since id, history = before ++ .cancelAll :: since → RunningAs true before id →
    (∀ operation ∈ since, Stays id operation) →
    ∃ index connection, (replay before).find? id = some (index, connection) ∧
      ∀ side, Finishes (replay history) id side ((connection.endpoint side).inbox.drop (drawn id side since))
        (¬Held before id side.other)
  /-- A wait ends well just if nobody is running at one of its looks, the first of which is always taken. -/
  drains : ∀ glances : List Glance, Registry.wait (glances.map (Glance.look history)) = some true ↔
    ∃ glance, Registry.Reaches Glance.late glances glance ∧ ∀ id, ¬Running (history.take glance.behind) id
  /-- It gives up just if one is late and somebody is running at all of them. -/
  expires : ∀ glances : List Glance, Registry.wait (glances.map (Glance.look history)) = some false ↔
    (∃ glance, Registry.Reaches Glance.late glances glance ∧ glance.late = true) ∧
      ∀ glance, Registry.Reaches Glance.late glances glance → ∃ id, Running (history.take glance.behind) id

section Whole

variable {history before since : List Operation} {id : SessionId}

/-- Nobody is listed just if nobody is running. -/
theorem Kept.liveCount_eq_zero {board : Switchboard} (kept : Kept history board) :
    board.registry.liveCount = 0 ↔ ∀ id, ¬Running history id := by
  simp only [← kept.mem_live]
  rw [Registry.liveCount, List.length_eq_zero_iff, ← List.map_eq_nil_iff, List.eq_nil_iff_forall_not_mem]

/-- A look behind the first operations. -/
theorem liveCount_look (few : issued history + 1 < UInt64.size) (glance : Glance) :
    (glance.look history).registry.liveCount = 0 ↔ ∀ id, ¬Running (history.take glance.behind) id := by
  have hle : issued (history.take glance.behind) ≤ issued history := by
    have hparts := issued_le_append (history.take glance.behind) (history.drop glance.behind)
    rwa [List.take_append_drop] at hparts
  exact (kept_replay _ (Nat.lt_of_le_of_lt (Nat.succ_le_succ hle) few)).liveCount_eq_zero

theorem perform_cancelAll (board : Switchboard) :
    board.perform .cancelAll = (.count board.cancelAll.1, board.cancelAll.2) :=
  rfl

/-- **Connections that are not reached** by cancelling. -/
theorem find?_cancelAll (few : issued history + 1 < UInt64.size) (h : ¬RunningAs true history id) :
    (replay (history ++ [.cancelAll])).find? id = (replay history).find? id := by
  have kept := kept_replay history few
  rw [replay_append]
  show (replay history).cancelAll.2.find? id = _
  unfold find?
  rw [cancelAll_known]
  split
  · rfl
  · next entry index hentry =>
    obtain ⟨hknown, rfl⟩ := (find?_key_iff kept.named).1 hentry
    rw [getElem?_cancelAll, if_neg (mt (kept.mem_handles_iff hknown).1 h)]

/-- **Both ends of a connection** after it was cancelled. -/
theorem finishes_replay (few : issued (before ++ .cancelAll :: since) + 1 < UInt64.size)
    (hrunning : RunningAs true before id) (hstays : ∀ operation ∈ since, Stays id operation) :
    ∃ index connection, (replay before).find? id = some (index, connection) ∧
      ∀ side, Finishes (replay (before ++ .cancelAll :: since)) id side
        ((connection.endpoint side).inbox.drop (drawn id side since)) (¬Held before id side.other) := by
  have hbefore := Nat.lt_of_le_of_lt (Nat.succ_le_succ (issued_le_append before _)) few
  have kept := kept_replay before hbefore
  obtain ⟨index, hknown⟩ := kept.entered true id hrunning
  have hplace := List.getElem?_eq_getElem (kept.index_lt hknown)
  obtain ⟨connection, hfound, hending⟩ := ending_replay few hrunning hknown hplace hstays
  refine ⟨index, _, kept.find?_eq_some_iff.2 ⟨hknown, hplace⟩, fun side => ?_⟩
  rw [← hending.inbox side]
  refine (finishes_of_shut hfound (hending.shut side)).mono fun hreset hheld => ?_
  have hwhole := (kept.paired id index _ hknown hplace).wasReset hrunning hheld
  rw [hending.reset side hreset] at hwhole
  cases hwhole

/-- **The registry tracks who is running**, until the counter comes around. -/
theorem replay_tracks (history : List Operation) (few : issued history < 2 ^ 64 - 1) : Tracks history := by
  have hsize : UInt64.size = 2 ^ 64 := rfl
  have hfew : issued history + 1 < UInt64.size := by omega
  have kept := kept_replay history hfew
  refine ⟨?_, ?_, ?_, ?_, ?_, ?_, ?_, ?_, ?_, ?_, ?_⟩
  · rintro before operation after rfl hissues
    have hbefore := Nat.lt_of_le_of_lt (Nat.succ_le_succ (issued_le_append before _)) hfew
    have hid : ((replay before).perform operation).1 = .identity ⟨(replay before).registry.nextId⟩ :=
      Kept.perform_eq_identity_iff.2 ⟨hissues, rfl⟩
    exact ⟨_, hid, toNat_of_identity hbefore hid⟩
  · exact fun id => kept.mem_live
  · exact fun before after id => not_running_of_allocate hfew
  · intro id hidle
    show (Answer.done, (replay history).leave id) = _
    rw [kept.leave_eq hidle]
  · exact fun before after id => not_running_of_leave hfew
  · rw [← kept.liveCount_eq]
    rfl
  · rw [← kept.length_handles, replay_append, perform_cancelAll]
    refine ⟨rfl, cancelAll_registry _, ?_⟩
    rw [perform_cancelAll, cancelAll_cancelAll]
  · exact fun id => find?_cancelAll hfew
  · rintro before since id rfl hrunning hstays
    exact finishes_replay hfew hrunning hstays
  · intro glances
    rw [Registry.wait_eq_true_iff]
    simp only [liveCount_look hfew]
    rfl
  · intro glances
    rw [Registry.wait_eq_false_iff]
    simp only [ne_eq, liveCount_look hfew, not_forall, not_not]
    rfl

/-- Somebody who was never cloned, somebody who has left, and somebody who was never there. -/
theorem replay_tracks_mixed :
    let history : List Operation := [.allocate, .enter true, .act ⟨2⟩ (.send .client [72]), .leave ⟨7⟩, .enter false,
      .cancelAll, .act ⟨2⟩ (.poll .server 1), .leave ⟨2⟩, .cancelAll]
    issued history < 2 ^ 64 - 1 ∧ Tracks history := by
  intro history
  have few : issued history < 2 ^ 64 - 1 := by decide
  exact ⟨few, replay_tracks history few⟩

end Whole

end Switchboard

end DeviceBroker