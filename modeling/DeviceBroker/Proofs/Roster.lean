import DeviceBroker.Proofs.Ends
import DeviceBroker.Registry
import Mathlib.Data.List.Induction
import Mathlib.Data.List.Nodup

/-!
# `Proofs.Roster` — who is running, by the history and by the registry

A history says by itself who is running: whoever entered and has not left since. The registry keeps a list and a
counter instead, and handles of its own to the ends that the sessions use. Until the counter comes around the two
say the same, whatever else is done in between: identities are new when they are given out, each session that
enters gets a connection of its own, and the registry holds the connection of everybody who is running.

## Contents

* `Switchboard.Issued`, `Running`, `RunningAs`, `Held` — what a history says.
* `Switchboard.Kept` — **the invariant**: the list, the connections and who holds them.
* `Switchboard.Evolves`, `Kept.evolves` — what one operation does to the connection of a session.
* `Kept.perform`, `kept_replay` — one operation, and a whole history.
-/

namespace DeviceBroker

namespace Switchboard

/-! ## What a history says -/

/-- Whether an operation gives out an identity. -/
def Operation.issues : Operation → Bool
  | allocate => true
  | enter _ => true
  | _ => false

/-- How many identities a history has given out. -/
def issued (history : List Operation) : Nat :=
  history.countP Operation.issues

/-- **A history has given out an identity.** -/
def Issued (history : List Operation) (id : SessionId) : Prop :=
  ∃ before operation after, history = before ++ operation :: after ∧
    ((replay before).perform operation).1 = .identity id

/-- **A session is running** after a history, and the registry got a handle to its connection or did not: it entered
    under its identity, and it has not left since. -/
def RunningAs (cloned : Bool) (history : List Operation) (id : SessionId) : Prop :=
  ∃ before after, history = before ++ .enter cloned :: after ∧
    ((replay before).perform (.enter cloned)).1 = .identity id ∧ .leave id ∉ after

/-- **A session is running** after a history. -/
def Running (history : List Operation) (id : SessionId) : Prop :=
  ∃ cloned, RunningAs cloned history id

/-- **An end is held** while its session runs and the registry has a handle: the client's end until the client closes
    it, and the session's end even when the session has closed it, which can be done but once. -/
def Held (history : List Operation) (id : SessionId) : Connection.Side → Prop
  | .client => .act id (.drop .client) ∉ history
  | .server => history.count (.act id (.drop .server)) ≤ 1

section Histories

variable {history before after : List Operation} {operation : Operation} {id : SessionId} {cloned : Bool}

@[simp]
theorem replay_append (history : List Operation) (operation : Operation) :
    replay (history ++ [operation]) = ((replay history).perform operation).2 := by
  rw [replay, List.foldl_append]
  rfl

@[simp]
theorem issued_append (history : List Operation) (operation : Operation) :
    issued (history ++ [operation]) = issued history + if operation.issues then 1 else 0 := by
  simp [issued, List.countP_append, List.countP_singleton]

theorem issued_le_append (before after : List Operation) : issued before ≤ issued (before ++ after) := by
  simp [issued, List.countP_append]

/-- The last operation of a history, and those before. -/
theorem append_eq_append_cons {last : Operation} (h : history ++ [last] = before ++ operation :: after) :
    (after = [] ∧ before = history ∧ operation = last) ∨
      ∃ rest, after = rest ++ [last] ∧ history = before ++ operation :: rest := by
  rcases List.eq_nil_or_concat after with rfl | ⟨rest, final, rfl⟩
  · obtain ⟨hhistory, hlast⟩ := List.append_inj' h rfl
    cases hlast
    exact Or.inl ⟨rfl, hhistory.symm, rfl⟩
  · rw [List.concat_eq_append, ← List.cons_append, ← List.append_assoc] at h
    obtain ⟨hhistory, hlast⟩ := List.append_inj' h rfl
    cases hlast
    exact Or.inr ⟨rest, List.concat_eq_append .., hhistory⟩

/-- **One operation more**, as the history tells it. -/
theorem runningAs_append :
    RunningAs cloned (history ++ [operation]) id ↔
      (RunningAs cloned history id ∧ operation ≠ .leave id) ∨
        (operation = .enter cloned ∧ ((replay history).perform operation).1 = .identity id) := by
  constructor
  · rintro ⟨before, after, hhistory, henters, hstays⟩
    rcases append_eq_append_cons hhistory with ⟨-, rfl, rfl⟩ | ⟨rest, rfl, rfl⟩
    · exact Or.inr ⟨rfl, henters⟩
    · simp only [List.mem_append, List.mem_singleton, not_or] at hstays
      exact Or.inl ⟨⟨before, rest, rfl, henters, hstays.1⟩, Ne.symm hstays.2⟩
  · rintro (⟨⟨before, after, rfl, henters, hstays⟩, hother⟩ | ⟨rfl, henters⟩)
    · refine ⟨before, after ++ [operation], by simp, henters, ?_⟩
      simp only [List.mem_append, List.mem_singleton, not_or]
      exact ⟨hstays, Ne.symm hother⟩
    · exact ⟨history, [], rfl, henters, nofun⟩

end Histories

open Connection

/-! ## The invariant -/

/-- Looking up a key that stands in a list but once. -/
theorem find?_key_iff {α β : Type} [DecidableEq α] {entries : List (α × β)} {key : α} {entry : α × β}
    (h : (entries.map Prod.fst).Nodup) :
    entries.find? (·.1 = key) = some entry ↔ entry ∈ entries ∧ entry.1 = key := by
  constructor
  · intro hfound
    exact ⟨List.mem_of_find?_eq_some hfound, by simpa using List.find?_some hfound⟩
  · rintro ⟨hentry, rfl⟩
    cases hfound : entries.find? (·.1 = entry.1) with
    | none => simpa using List.find?_eq_none.1 hfound entry hentry
    | some found =>
      have hkey : found.1 = entry.1 := by simpa using List.find?_some hfound
      rw [List.inj_on_of_nodup_map h (List.mem_of_find?_eq_some hfound) hentry hkey]

/-- Removing a key that does not stand in a list. -/
theorem filter_ne_key {α β : Type} [DecidableEq α] {entries : List (α × β)} {key : α}
    (h : key ∉ entries.map Prod.fst) : entries.filter (·.1 ≠ key) = entries := by
  refine List.filter_eq_self.2 fun entry hentry => ?_
  have hother : entry.1 ≠ key := by
    rintro rfl
    exact h (List.mem_map_of_mem hentry)
  simpa using hother

/-- **The connection of a session**: who holds its ends. -/
structure Paired (history : List Operation) (id : SessionId) (connection : Connection) : Prop where
  sound : connection.Sound
  client : 1 ≤ connection.client.holders + history.count (.act id (.drop .client))
  /-- The registry holds the session's end once more. -/
  server : RunningAs true history id →
    2 ≤ connection.server.holders + history.count (.act id (.drop .server))

/-- **The registry after a history.** -/
structure Kept (history : List Operation) (board : Switchboard) : Prop where
  /-- The counter counts. -/
  next : board.registry.nextId = UInt64.ofNat (issued history + 1)
  /-- Everybody who is running is listed, once, with the handle of its connection if there is one. -/
  uncloned : ∀ id, (id, none) ∈ board.registry.live ↔ RunningAs false history id
  cloned : ∀ id index, (id, some index) ∈ board.registry.live ↔ RunningAs true history id ∧ (id, index) ∈ board.known
  apart : (board.registry.live.map Prod.fst).Nodup
  /-- Everybody who entered has a connection of its own, and an identity that was given out. -/
  entered : ∀ cloned id, RunningAs cloned history id → ∃ index, (id, index) ∈ board.known
  given : ∀ id index, (id, index) ∈ board.known → id.raw.toNat ≤ issued history
  named : (board.known.map Prod.fst).Nodup
  placed : board.known.map Prod.snd = (List.range board.connections.length).reverse
  paired : ∀ id index connection, (id, index) ∈ board.known → board.connections[index]? = some connection →
    Paired history id connection

namespace Kept

variable {history : List Operation} {operation : Operation} {board : Switchboard} {id other : SessionId}
  {index place : Nat} {connection : Connection} {cloned : Bool}

theorem empty : Kept [] {} where
  next := rfl
  uncloned := by
    intro id
    constructor
    · nofun
    · rintro ⟨before, after, hnone, -⟩
      simp at hnone
  cloned := by
    intro id index
    constructor
    · nofun
    · rintro ⟨⟨before, after, hnone, -⟩, -⟩
      simp at hnone
  apart := List.nodup_nil
  entered := by
    rintro cloned id ⟨before, after, hnone, -⟩
    simp at hnone
  given := nofun
  named := List.nodup_nil
  placed := rfl
  paired := nofun

/-! ### Who is listed -/

/-- **The list** is that of those who are running. -/
theorem mem_live (kept : Kept history board) : id ∈ board.registry.live.map Prod.fst ↔ Running history id := by
  rw [List.mem_map]
  constructor
  · rintro ⟨⟨listed, handle⟩, hlive, rfl⟩
    cases handle with
    | none => exact ⟨false, (kept.uncloned listed).1 hlive⟩
    | some index => exact ⟨true, ((kept.cloned listed index).1 hlive).1⟩
  · rintro ⟨cloned, hrunning⟩
    cases cloned with
    | false => exact ⟨(id, none), (kept.uncloned id).2 hrunning, rfl⟩
    | true =>
      obtain ⟨index, hknown⟩ := kept.entered true id hrunning
      exact ⟨(id, some index), (kept.cloned id index).2 ⟨hrunning, hknown⟩, rfl⟩

/-- The place of a connection that somebody has. -/
theorem index_lt (kept : Kept history board) (hknown : (id, index) ∈ board.known) :
    index < board.connections.length := by
  have hplace : index ∈ board.known.map Prod.snd := List.mem_map_of_mem hknown
  rw [kept.placed] at hplace
  simpa using hplace

/-- Nobody has two connections. -/
theorem index_eq (kept : Kept history board) (hknown : (id, index) ∈ board.known)
    (hother : (id, place) ∈ board.known) :
    index = place :=
  congrArg Prod.snd (List.inj_on_of_nodup_map kept.named hknown hother rfl)

/-- No two have the same connection. -/
theorem id_eq (kept : Kept history board) (hknown : (id, index) ∈ board.known)
    (hother : (other, index) ∈ board.known) : id = other := by
  have hplaces : (board.known.map Prod.snd).Nodup := by
    rw [kept.placed]
    exact List.nodup_reverse.2 List.nodup_range
  exact congrArg Prod.fst (List.inj_on_of_nodup_map hplaces hknown hother rfl)

/-- **Where a session's connection is found.** -/
theorem find?_eq_some_iff (kept : Kept history board) :
    board.find? id = some (index, connection) ↔
      (id, index) ∈ board.known ∧ board.connections[index]? = some connection := by
  unfold find?
  constructor
  · intro hfound
    split at hfound
    · cases hfound
    · next entry place hentry =>
      obtain ⟨hknown, rfl⟩ := (find?_key_iff kept.named).1 hentry
      cases hplace : board.connections[place]? with
      | none => simp [hplace] at hfound
      | some there =>
        rw [hplace] at hfound
        cases hfound
        exact ⟨hknown, hplace⟩
  · rintro ⟨hknown, hplace⟩
    have hentry : board.known.find? (·.1 = id) = some (id, index) := (find?_key_iff kept.named).2 ⟨hknown, rfl⟩
    rw [hentry]
    simp [hplace]

/-- The handle of somebody who is running. -/
theorem handle?_eq_some_iff (kept : Kept history board) :
    board.registry.handle? id = some index ↔ RunningAs true history id ∧ (id, index) ∈ board.known := by
  rw [← kept.cloned, Registry.handle?, Option.bind_eq_some_iff]
  constructor
  · rintro ⟨⟨listed, handle⟩, hfound, rfl⟩
    obtain ⟨hlive, rfl⟩ := (find?_key_iff kept.apart).1 hfound
    exact hlive
  · intro hlive
    exact ⟨(id, some index), (find?_key_iff kept.apart).2 ⟨hlive, rfl⟩, rfl⟩

/-! ### Identities -/

/-- Identities are given out by the counter. -/
theorem perform_eq_identity_iff :
    (board.perform operation).1 = .identity id ↔ operation.issues = true ∧ id = ⟨board.registry.nextId⟩ := by
  cases operation with
  | act other act =>
    simp only [perform]
    split <;> simp [Operation.issues]
  | _ => simp [perform, allocate, enter, Registry.allocate, Registry.enter, Operation.issues, eq_comm]

/-- The next identity, until the counter comes around. -/
theorem toNat_next (kept : Kept history board) (few : issued history + 1 < UInt64.size) :
    board.registry.nextId.toNat = issued history + 1 := by
  rw [kept.next, UInt64.toNat_ofNat']
  exact Nat.mod_eq_of_lt few

/-- **A new identity** is one more than all before. -/
theorem toNat_eq_of_identity (kept : Kept history board) (few : issued history + 1 < UInt64.size)
    (h : (board.perform operation).1 = .identity id) : id.raw.toNat = issued history + 1 := by
  obtain ⟨-, rfl⟩ := perform_eq_identity_iff.1 h
  exact kept.toNat_next few

/-- Whoever has entered does not enter again. -/
theorem ne_identity (kept : Kept history board) (few : issued history + 1 < UInt64.size)
    (hknown : (id, index) ∈ board.known) : (board.perform operation).1 ≠ .identity id := by
  intro h
  have hnew := kept.toNat_eq_of_identity few h
  have hgiven := kept.given id index hknown
  omega

end Kept

/-! ## What becomes of a connection -/

/-- **What one operation does to the connection of a session.** -/
inductive Evolves (history : List Operation) (id : SessionId) (connection : Connection) :
    Operation → Connection → Prop
  /-- Something is done on it. -/
  | acted (act : Act) : Evolves history id connection (.act id act) (connection.act act).2
  /-- The registry closes its handle. -/
  | left : RunningAs true history id → Evolves history id connection (.leave id) (connection.letGo .server)
  /-- The registry shuts it down. -/
  | cancelled : RunningAs true history id → Evolves history id connection .cancelAll connection.shutdown
  /-- Nothing is done to it. -/
  | kept {operation : Operation} : (∀ act, operation ≠ .act id act) →
      (RunningAs true history id → operation ≠ .leave id ∧ operation ≠ .cancelAll) →
      Evolves history id connection operation connection

/-! ### Cancelling -/

section Cancelling

variable {board : Switchboard}

/-- Shutting connections down leaves everything else as it is. -/
theorem foldl_shutdown (handles : List Nat) (board : Switchboard) :
    handles.foldl (fun board index => board.modify index Connection.shutdown) board =
      { board with connections :=
          (handles.foldl (fun board index => board.modify index Connection.shutdown) board).connections } := by
  induction handles generalizing board with
  | nil => rfl
  | cons index handles ih =>
    rw [List.foldl_cons, ih]
    rfl

/-- **The connections that are shut down**, be it once or again. -/
theorem getElem?_foldl_shutdown (handles : List Nat) (board : Switchboard) (index : Nat) :
    (handles.foldl (fun board index => board.modify index Connection.shutdown) board).connections[index]? =
      if index ∈ handles then board.connections[index]?.map Connection.shutdown else board.connections[index]? := by
  induction handles generalizing board with
  | nil => simp
  | cons first handles ih =>
    rw [List.foldl_cons, ih]
    simp only [modify, List.getElem?_modify, List.mem_cons]
    by_cases hfirst : first = index
    · subst hfirst
      simp [shutdown_comp_shutdown]
    · simp [hfirst, Ne.symm hfirst]

@[simp]
theorem cancelAll_registry (board : Switchboard) : board.cancelAll.2.registry = board.registry := by
  rw [cancelAll, foldl_shutdown]

@[simp]
theorem cancelAll_known (board : Switchboard) : board.cancelAll.2.known = board.known := by
  rw [cancelAll, foldl_shutdown]

theorem getElem?_cancelAll (board : Switchboard) (index : Nat) :
    board.cancelAll.2.connections[index]? =
      if index ∈ board.registry.handles then board.connections[index]?.map Connection.shutdown
      else board.connections[index]? :=
  getElem?_foldl_shutdown ..

@[simp]
theorem length_cancelAll (board : Switchboard) : board.cancelAll.2.connections.length = board.connections.length := by
  have hfold : ∀ (handles : List Nat) (board : Switchboard),
      (handles.foldl (fun board index => board.modify index Connection.shutdown) board).connections.length =
        board.connections.length := by
    intro handles board
    induction handles generalizing board with
    | nil => rfl
    | cons index handles ih =>
      rw [List.foldl_cons, ih]
      simp [modify]
  exact hfold _ board

/-- **Cancelling again** comes to the same. -/
theorem cancelAll_cancelAll (board : Switchboard) : board.cancelAll.2.cancelAll = board.cancelAll := by
  have hconnections : board.cancelAll.2.cancelAll.2.connections = board.cancelAll.2.connections := by
    refine List.ext_getElem? fun index => ?_
    rw [getElem?_cancelAll, cancelAll_registry, getElem?_cancelAll]
    split
    · rw [Option.map_map, shutdown_comp_shutdown]
    · rfl
  have hboard : ∀ one other : Switchboard, one.registry = other.registry → one.connections = other.connections →
      one.known = other.known → one = other := by
    rintro ⟨⟩ ⟨⟩ rfl rfl rfl
    rfl
  refine Prod.ext ?_ (hboard _ _ (by simp) hconnections (by simp))
  show board.cancelAll.2.registry.handles.length = board.registry.handles.length
  rw [cancelAll_registry]

theorem mem_handles {registry : Registry} {index : Nat} :
    index ∈ registry.handles ↔ ∃ id, (id, some index) ∈ registry.live := by
  simp [Registry.handles]

end Cancelling

namespace Kept

variable {history : List Operation} {operation : Operation} {board : Switchboard} {id other : SessionId}
  {index place : Nat} {connection : Connection} {cloned : Bool}

/-- The handles are those of the connections of who is running. -/
theorem mem_handles_iff (kept : Kept history board) (hknown : (id, index) ∈ board.known) :
    index ∈ board.registry.handles ↔ RunningAs true history id := by
  rw [mem_handles]
  constructor
  · rintro ⟨other, hlive⟩
    obtain ⟨hrunning, hother⟩ := (kept.cloned other index).1 hlive
    rwa [kept.id_eq hknown hother]
  · intro hrunning
    exact ⟨id, (kept.cloned id index).2 ⟨hrunning, hknown⟩⟩

/-- **What becomes of a connection** by one operation. -/
theorem evolves (kept : Kept history board) (hknown : (id, index) ∈ board.known)
    (hplace : board.connections[index]? = some connection) (operation : Operation) :
    ∃ later, (board.perform operation).2.connections[index]? = some later ∧
      Evolves history id connection operation later := by
  cases operation with
  | allocate => exact ⟨connection, hplace, .kept nofun (fun _ => ⟨nofun, nofun⟩)⟩
  | liveCount => exact ⟨connection, hplace, .kept nofun (fun _ => ⟨nofun, nofun⟩)⟩
  | enter cloned =>
    refine ⟨connection, ?_, .kept nofun (fun _ => ⟨nofun, nofun⟩)⟩
    show (board.connections ++ _)[index]? = some connection
    rw [List.getElem?_append_left (kept.index_lt hknown), hplace]
  | cancelAll =>
    show ∃ later, board.cancelAll.2.connections[index]? = some later ∧ _
    rw [getElem?_cancelAll, hplace]
    by_cases hrunning : RunningAs true history id
    · rw [if_pos ((kept.mem_handles_iff hknown).2 hrunning)]
      exact ⟨_, rfl, .cancelled hrunning⟩
    · rw [if_neg (mt (kept.mem_handles_iff hknown).1 hrunning)]
      exact ⟨_, rfl, .kept nofun fun h => absurd h hrunning⟩
  | leave other =>
    show ∃ later, (board.leave other).connections[index]? = some later ∧ _
    unfold leave
    cases hhandle : board.registry.handle? other with
    | none =>
      refine ⟨connection, hplace, .kept nofun fun hrunning => ⟨?_, nofun⟩⟩
      rintro hleaves
      cases hleaves
      rw [kept.handle?_eq_some_iff.2 ⟨hrunning, hknown⟩] at hhandle
      cases hhandle
    | some place =>
      obtain ⟨hrunning, hother⟩ := kept.handle?_eq_some_iff.1 hhandle
      simp only [modify, List.getElem?_modify, hplace]
      by_cases hsame : place = index
      · subst hsame
        obtain rfl := kept.id_eq hknown hother
        exact ⟨connection.letGo .server, by simp, .left hrunning⟩
      · refine ⟨connection, by simp [hsame], .kept nofun fun _ => ⟨?_, nofun⟩⟩
        rintro hleaves
        cases hleaves
        exact hsame (kept.index_eq hother hknown)
  | act other act =>
    simp only [perform]
    cases hfound : board.find? other with
    | none =>
      refine ⟨connection, hplace, .kept ?_ (fun _ => ⟨nofun, nofun⟩)⟩
      rintro one hacts
      cases hacts
      rw [kept.find?_eq_some_iff.2 ⟨hknown, hplace⟩] at hfound
      cases hfound
    | some found =>
      obtain ⟨place, there⟩ := found
      obtain ⟨hother, hthere⟩ := kept.find?_eq_some_iff.1 hfound
      simp only [modify, List.getElem?_modify, hplace]
      by_cases hsame : place = index
      · subst hsame
        obtain rfl := kept.id_eq hknown hother
        cases hplace.symm.trans hthere
        exact ⟨(connection.act act).2, by simp, .acted act⟩
      · refine ⟨connection, by simp [hsame], .kept ?_ (fun _ => ⟨nofun, nofun⟩)⟩
        rintro one hacts
        cases hacts
        exact hsame (kept.index_eq hother hknown)

/-- Who entered before is not made to run by anything. -/
theorem runningAs_of_append (kept : Kept history (replay history)) (few : issued history + 1 < UInt64.size)
    (hknown : (id, index) ∈ (replay history).known) (h : RunningAs cloned (history ++ [operation]) id) :
    RunningAs cloned history id := by
  rcases runningAs_append.1 h with ⟨hrunning, -⟩ | ⟨-, henters⟩
  · exact hrunning
  · exact absurd henters (kept.ne_identity few hknown)

/-- **One operation** keeps a connection as it has to be. -/
theorem paired_evolves (kept : Kept history (replay history)) (few : issued history + 1 < UInt64.size)
    (hknown : (id, index) ∈ (replay history).known) {later : Connection} (paired : Paired history id connection)
    (h : Evolves history id connection operation later) : Paired (history ++ [operation]) id later := by
  have hran : RunningAs true (history ++ [operation]) id →
      2 ≤ connection.server.holders + history.count (.act id (.drop .server)) :=
    fun hrunning => paired.server (kept.runningAs_of_append few hknown hrunning)
  have hcount : ∀ other, history.count other ≤ (history ++ [operation]).count other := by
    intro other
    rw [List.count_append]
    exact Nat.le_add_right _ _
  cases h with
  | acted act =>
    have hdrops : ∀ side, (history ++ [Operation.act id act]).count (.act id (.drop side)) =
        history.count (.act id (.drop side)) + if act = .drop side then 1 else 0 := by
      intro side
      simp [List.count_append, List.count_singleton]
    have hclient := holders_le_act connection act .client
    have hserver := holders_le_act connection act .server
    simp only [endpoint] at hclient hserver
    refine ⟨paired.sound.act act, ?_, ?_⟩
    · have hbefore := paired.client
      rw [hdrops]
      omega
    · intro hrunning
      have hbefore := hran hrunning
      rw [hdrops]
      omega
  | left hrunning =>
    refine ⟨paired.sound.letGo .server, ?_, ?_⟩
    · have hother := (holders_letGo connection .server).2
      simp only [Side.other, endpoint] at hother
      rw [hother]
      exact Nat.le_trans paired.client (Nat.add_le_add_left (hcount _) _)
    · intro hstill
      rcases runningAs_append.1 hstill with ⟨-, hstays⟩ | ⟨henters, -⟩
      · exact absurd rfl hstays
      · cases henters
  | cancelled hrunning =>
    exact ⟨paired.sound.shutdown, Nat.le_trans paired.client (Nat.add_le_add_left (hcount _) _),
      fun hstill => Nat.le_trans (hran hstill) (Nat.add_le_add_left (hcount _) _)⟩
  | kept =>
    exact ⟨paired.sound, Nat.le_trans paired.client (Nat.add_le_add_left (hcount _) _),
      fun hstill => Nat.le_trans (hran hstill) (Nat.add_le_add_left (hcount _) _)⟩

/-! ### One operation -/

/-- The connection of somebody who had entered before. -/
theorem paired_perform (kept : Kept history (replay history)) (few : issued history + 1 < UInt64.size)
    (hknown : (id, index) ∈ (replay history).known)
    (hplace : ((replay history).perform operation).2.connections[index]? = some connection) :
    Paired (history ++ [operation]) id connection := by
  have hbefore := List.getElem?_eq_getElem (kept.index_lt hknown)
  obtain ⟨later, hlater, hevolves⟩ := kept.evolves hknown hbefore operation
  cases hplace.symm.trans hlater
  exact kept.paired_evolves few hknown (kept.paired id index _ hknown hbefore) hevolves

/-- An operation by which nobody enters or leaves. -/
theorem perform_of_same (kept : Kept history (replay history)) (few : issued history + 1 < UInt64.size)
    (henter : ∀ cloned, operation ≠ .enter cloned) (hleave : ∀ id, operation ≠ .leave id)
    (hnext : ((replay history).perform operation).2.registry.nextId =
      UInt64.ofNat (issued (history ++ [operation]) + 1))
    (hlive : ((replay history).perform operation).2.registry.live = (replay history).registry.live)
    (hknown : ((replay history).perform operation).2.known = (replay history).known)
    (hlength : ((replay history).perform operation).2.connections.length = (replay history).connections.length) :
    Kept (history ++ [operation]) ((replay history).perform operation).2 := by
  have hrunning : ∀ cloned id, RunningAs cloned (history ++ [operation]) id ↔ RunningAs cloned history id := by
    intro cloned id
    rw [runningAs_append]
    simp [henter cloned, hleave id]
  refine ⟨hnext, ?_, ?_, ?_, ?_, ?_, ?_, ?_, ?_⟩
  · intro id
    rw [hlive, hrunning]
    exact kept.uncloned id
  · intro id index
    rw [hlive, hknown, hrunning]
    exact kept.cloned id index
  · rw [hlive]
    exact kept.apart
  · intro cloned id hran
    rw [hknown]
    exact kept.entered cloned id ((hrunning cloned id).1 hran)
  · intro id index hentered
    rw [hknown] at hentered
    exact Nat.le_trans (kept.given id index hentered) (issued_le_append _ _)
  · rw [hknown]
    exact kept.named
  · rw [hknown, hlength]
    exact kept.placed
  · intro id index connection hentered hplace
    rw [hknown] at hentered
    exact kept.paired_perform few hentered hplace

/-- The next identity is nobody's yet. -/
theorem unknown_next (kept : Kept history (replay history)) (few : issued history + 1 < UInt64.size) (index : Nat) :
    (⟨(replay history).registry.nextId⟩, index) ∉ (replay history).known := by
  intro hknown
  have hidentity : ((replay history).perform .allocate).1 = .identity ⟨(replay history).registry.nextId⟩ := rfl
  exact kept.ne_identity few hknown hidentity

/-- Nobody is running under the next identity. -/
theorem idle_next (kept : Kept history (replay history)) (few : issued history + 1 < UInt64.size) (cloned : Bool) :
    ¬RunningAs cloned history ⟨(replay history).registry.nextId⟩ := by
  intro hrunning
  obtain ⟨index, hknown⟩ := kept.entered cloned _ hrunning
  exact kept.unknown_next few index hknown

/-- A connection that has just been made is held by both ends, and once more if the registry got a handle. -/
theorem paired_made (h : RunningAs true history id → cloned = true) :
    Paired history id (if cloned then ({} : Connection).hold .server else {}) := by
  refine ⟨?_, ?_, ?_⟩
  · intro side hreset
    cases cloned <;> cases side <;> cases hreset
  · cases cloned <;> exact Nat.le_add_right 1 _
  · intro hrunning
    rw [h hrunning]
    exact Nat.le_add_right 2 _

/-- **Somebody enters** under a new identity. -/
theorem perform_enter (kept : Kept history (replay history)) (few : issued history + 1 < UInt64.size)
    (cloned : Bool) : Kept (history ++ [.enter cloned]) ((replay history).perform (.enter cloned)).2 := by
  let board := replay history
  let new : SessionId := ⟨board.registry.nextId⟩
  let index := board.connections.length
  have hrunning : ∀ as other, RunningAs as (history ++ [.enter cloned]) other ↔
      RunningAs as history other ∨ (as = cloned ∧ other = new) := by
    intro as other
    rw [runningAs_append, perform_eq_identity_iff]
    simp [Operation.issues, new, board, eq_comm]
  have hfresh : ∀ place, (new, place) ∉ board.known := kept.unknown_next few
  have hidle : ∀ as, ¬RunningAs as history new := kept.idle_next few
  have hunlisted : new ∉ board.registry.live.map Prod.fst := by
    rw [kept.mem_live]
    rintro ⟨as, hran⟩
    exact hidle as hran
  have hlive : (board.perform (.enter cloned)).2.registry.live =
      board.registry.live ++ [(new, if cloned then some index else none)] := by
    show board.registry.live.filter (·.1 ≠ new) ++ _ = _
    rw [filter_ne_key hunlisted]
  have hknown : (board.perform (.enter cloned)).2.known = (new, index) :: board.known := rfl
  refine ⟨?_, ?_, ?_, ?_, ?_, ?_, ?_, ?_, ?_⟩
  · show board.registry.nextId + 1 = _
    rw [kept.next, issued_append]
    exact (UInt64.ofNat_add (issued history + 1) 1).symm
  · intro other
    rw [hlive, hrunning, List.mem_append, kept.uncloned]
    cases cloned <;> simp
  · intro other place
    rw [hlive, hrunning, hknown, List.mem_append, kept.cloned, List.mem_singleton, List.mem_cons]
    constructor
    · rintro (⟨hran, hentered⟩ | hnew)
      · exact ⟨Or.inl hran, Or.inr hentered⟩
      · cases cloned with
        | true =>
          cases hnew
          exact ⟨Or.inr ⟨rfl, rfl⟩, Or.inl rfl⟩
        | false => cases hnew
    · rintro ⟨hran | ⟨rfl, rfl⟩, hnew | hentered⟩
      · cases hnew
        exact absurd hran (hidle true)
      · exact Or.inl ⟨hran, hentered⟩
      · cases hnew
        exact Or.inr rfl
      · exact absurd hentered (hfresh place)
  · rw [hlive, List.map_append]
    exact List.nodup_append.2 ⟨kept.apart, List.nodup_singleton _, by
      rintro one hone other hother rfl
      obtain rfl : one = new := by simpa using hother
      exact hunlisted hone⟩
  · intro as other hran
    rw [hknown]
    rcases (hrunning as other).1 hran with hran | ⟨-, rfl⟩
    · obtain ⟨place, hentered⟩ := kept.entered as other hran
      exact ⟨place, List.mem_cons_of_mem _ hentered⟩
    · exact ⟨index, List.mem_cons_self⟩
  · intro other place hentered
    rw [hknown] at hentered
    rcases List.mem_cons.1 hentered with hnew | hentered
    · cases hnew
      rw [kept.toNat_next few, issued_append]
      exact Nat.le_refl _
    · exact Nat.le_trans (kept.given other place hentered) (issued_le_append _ _)
  · rw [hknown, List.map_cons]
    refine List.nodup_cons.2 ⟨?_, kept.named⟩
    intro hnew
    obtain ⟨⟨other, place⟩, hentered, rfl⟩ := List.mem_map.1 hnew
    exact hfresh place hentered
  · have hlength : (board.perform (.enter cloned)).2.connections.length = index + 1 := by
      show (board.connections ++ [_]).length = _
      simp [index]
    rw [hknown, hlength, List.range_succ, List.reverse_append, List.map_cons, kept.placed]
    rfl
  · intro other place connection hentered hplace
    rw [hknown] at hentered
    rcases List.mem_cons.1 hentered with hnew | hentered
    · cases hnew
      have hmade : (board.perform (.enter cloned)).2.connections[index]? =
          some (if cloned then ({} : Connection).hold .server else {}) :=
        List.getElem?_concat_length
      cases hplace.symm.trans hmade
      refine paired_made fun hran => ?_
      rcases (hrunning true new).1 hran with hbefore | ⟨htrue, -⟩
      · exact absurd hbefore (hidle true)
      · exact htrue.symm
    · exact kept.paired_perform few hentered hplace

/-- **Somebody leaves**, or somebody who is not running is told to. -/
theorem perform_leave (kept : Kept history (replay history)) (few : issued history + 1 < UInt64.size)
    (id : SessionId) : Kept (history ++ [.leave id]) ((replay history).perform (.leave id)).2 := by
  have hrunning : ∀ as other,
      RunningAs as (history ++ [.leave id]) other ↔ RunningAs as history other ∧ other ≠ id := by
    intro as other
    rw [runningAs_append]
    simp [eq_comm]
  have hframe : ((replay history).perform (.leave id)).2.registry = (replay history).registry.leave id ∧
      ((replay history).perform (.leave id)).2.known = (replay history).known ∧
      ((replay history).perform (.leave id)).2.connections.length = (replay history).connections.length := by
    simp only [Switchboard.perform, leave]
    split
    · exact ⟨rfl, rfl, rfl⟩
    · simp [modify]
  obtain ⟨hregistry, hknown, hlength⟩ := hframe
  have hlive : ∀ entry, entry ∈ ((replay history).perform (.leave id)).2.registry.live ↔
      entry ∈ (replay history).registry.live ∧ entry.1 ≠ id := by
    intro entry
    rw [hregistry]
    simp [Registry.leave]
  refine ⟨?_, ?_, ?_, ?_, ?_, ?_, ?_, ?_, ?_⟩
  · rw [hregistry, issued_append]
    exact kept.next
  · intro other
    rw [hlive, hrunning, kept.uncloned]
  · intro other place
    rw [hlive, hrunning, hknown, kept.cloned]
    exact and_right_comm
  · rw [hregistry]
    exact kept.apart.sublist (List.filter_sublist.map _)
  · intro as other hran
    rw [hknown]
    exact kept.entered as other ((hrunning as other).1 hran).1
  · intro other place hentered
    rw [hknown] at hentered
    exact Nat.le_trans (kept.given other place hentered) (issued_le_append _ _)
  · rw [hknown]
    exact kept.named
  · rw [hknown, hlength]
    exact kept.placed
  · intro other place connection hentered hplace
    rw [hknown] at hentered
    exact kept.paired_perform few hentered hplace

/-- **One operation** keeps the invariant. -/
theorem perform (kept : Kept history (replay history)) (few : issued history + 1 < UInt64.size)
    (operation : Operation) : Kept (history ++ [operation]) ((replay history).perform operation).2 := by
  have hnext : operation.issues = false →
      (replay history).registry.nextId = UInt64.ofNat (issued (history ++ [operation]) + 1) := by
    intro hnone
    rw [issued_append, hnone]
    exact kept.next
  cases operation with
  | enter cloned => exact kept.perform_enter few cloned
  | leave id => exact kept.perform_leave few id
  | allocate =>
    refine kept.perform_of_same few nofun nofun ?_ rfl rfl rfl
    show (replay history).registry.nextId + 1 = _
    rw [kept.next, issued_append]
    exact (UInt64.ofNat_add (issued history + 1) 1).symm
  | liveCount => exact kept.perform_of_same few nofun nofun (hnext rfl) rfl rfl rfl
  | cancelAll =>
    refine kept.perform_of_same few nofun nofun ?_ ?_ (cancelAll_known _) ?_
    · show (replay history).cancelAll.2.registry.nextId = _
      rw [cancelAll_registry, hnext rfl]
    · show (replay history).cancelAll.2.registry.live = _
      rw [cancelAll_registry]
    · exact length_cancelAll (replay history)
  | act id act =>
    have hframe : ((replay history).perform (.act id act)).2.registry = (replay history).registry ∧
        ((replay history).perform (.act id act)).2.known = (replay history).known ∧
        ((replay history).perform (.act id act)).2.connections.length = (replay history).connections.length := by
      simp only [Switchboard.perform]
      split
      · exact ⟨rfl, rfl, rfl⟩
      · simp [modify]
    obtain ⟨hregistry, hknown, hlength⟩ := hframe
    refine kept.perform_of_same few nofun nofun ?_ ?_ hknown hlength
    · rw [hregistry, hnext rfl]
    · rw [hregistry]

end Kept

/-- **The invariant holds after every history** until the counter comes around. Induction over the operations. -/
theorem kept_replay (history : List Operation) (few : issued history + 1 < UInt64.size) :
    Kept history (replay history) := by
  induction history using List.reverseRecOn with
  | nil => exact .empty
  | append_singleton history operation ih =>
    have hbefore := Nat.lt_of_le_of_lt (Nat.succ_le_succ (issued_le_append history [operation])) few
    rw [replay_append]
    exact (ih hbefore).perform hbefore operation

end Switchboard

end DeviceBroker
