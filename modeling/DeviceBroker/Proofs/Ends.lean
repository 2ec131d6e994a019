import DeviceBroker.Connection

/-!
# `Proofs.Ends` — the two ends of a connection

Whatever is done on a connection, an end is reset only if nobody is left on the other side, for only the last
handle that is closed resets anybody. So as long as both ends are held, a read finds bytes or waits for them, and
when the connection has been shut down it finds the end of the stream instead.

## Contents

* `Connection.Polls`, `endpoint_poll` — **what a read finds** and what it leaves.
* `Connection.Sound`, `Sound.act` — **nobody is reset by somebody who is still there**.
* `Connection.holders_le_act` — handles are closed one at a time.
-/

namespace DeviceBroker

namespace Connection

/-- An end that was reset has nobody left on the other side. -/
def Sound (connection : Connection) : Prop :=
  ∀ side, (connection.endpoint side).wasReset = true → (connection.endpoint side.other).holders = 0

section Sound

variable {connection : Connection} {side : Side}

@[simp]
theorem endpoint_modify_self (connection : Connection) (side : Side) (change : Endpoint → Endpoint) :
    (connection.modify side change).endpoint side = change (connection.endpoint side) := by
  cases side <;> rfl

@[simp]
theorem endpoint_modify_other (connection : Connection) (side : Side) (change : Endpoint → Endpoint) :
    (connection.modify side change).endpoint side.other = connection.endpoint side.other := by
  cases side <;> rfl

@[simp]
theorem endpoint_other_modify (connection : Connection) (side : Side) (change : Endpoint → Endpoint) :
    (connection.modify side.other change).endpoint side = connection.endpoint side := by
  cases side <;> rfl

@[simp]
theorem other_other (side : Side) : side.other.other = side := by
  cases side <;> rfl

theorem eq_or_eq_other (one side : Side) : one = side ∨ one = side.other := by
  cases one <;> cases side <;> simp [Side.other]

@[simp]
theorem endpoint_shutdown (connection : Connection) (side : Side) :
    connection.shutdown.endpoint side = { connection.endpoint side with shut := true } := by
  cases side <;> rfl

/-- Shutting down again comes to the same. -/
theorem shutdown_comp_shutdown : Connection.shutdown ∘ Connection.shutdown = Connection.shutdown :=
  funext fun _ => rfl

/-- One handle less. -/
theorem holders_letGo (connection : Connection) (side : Side) :
    ((connection.letGo side).endpoint side).holders = (connection.endpoint side).holders - 1 ∧
      ((connection.letGo side).endpoint side.other).holders = (connection.endpoint side.other).holders := by
  simp only [letGo]
  split
  · simp
  · simp

theorem Sound.letGo (sound : connection.Sound) (side : Side) : (connection.letGo side).Sound := by
  obtain ⟨hhere, hthere⟩ := holders_letGo connection side
  intro one hreset
  rcases eq_or_eq_other one side with rfl | rfl
  · rw [hthere]
    refine sound one ?_
    simp only [Connection.letGo] at hreset
    split at hreset
    · simpa using hreset
    · simpa using hreset
  · rw [other_other, hhere]
    simp only [Connection.letGo] at hreset
    split at hreset
    · next hlast => rw [hlast]
    · have hnobody := sound side.other (by simpa using hreset)
      rw [other_other] at hnobody
      rw [hnobody]

theorem Sound.shutdown (sound : connection.Sound) : connection.shutdown.Sound := by
  intro side hreset
  have hnobody := sound side (by simpa using hreset)
  simpa using hnobody

/-- **What a read finds**, and what it leaves. -/
inductive Polls (connection : Connection) (side : Side) (limit : Nat) : Polled × Connection → Prop
  | queued : (connection.endpoint side).inbox ≠ [] →
      Polls connection side limit (.bytes ((connection.endpoint side).inbox.take limit),
        connection.modify side fun e => { e with inbox := e.inbox.drop limit })
  | reset : (connection.endpoint side).inbox = [] → (connection.endpoint side).wasReset = true →
      Polls connection side limit (.failure resetByPeer, connection.modify side fun e => { e with wasReset := false })
  | idle : (connection.endpoint side).inbox = [] → (connection.endpoint side).wasReset = false →
      Polls connection side limit (if (connection.endpoint side).shut then .ended else .nothing, connection)

theorem polls_poll (connection : Connection) (side : Side) (limit : Nat) :
    Polls connection side limit (connection.poll side limit) := by
  simp only [poll]
  cases hqueue : (connection.endpoint side).inbox with
  | cons byte queue =>
    have hsome : (connection.endpoint side).inbox ≠ [] := by simp [hqueue]
    rw [← hqueue]
    simpa [hqueue] using @Polls.queued connection side limit hsome
  | nil =>
    cases hreset : (connection.endpoint side).wasReset with
    | true => simpa using @Polls.reset connection side limit hqueue hreset
    | false =>
      have hidle := @Polls.idle connection side limit hqueue hreset
      cases hshut : (connection.endpoint side).shut with
      | true => simpa [hshut] using hidle
      | false => simpa [hshut] using hidle

/-- A read takes bytes off the queue of its own end. -/
theorem endpoint_poll (connection : Connection) (side one : Side) (limit : Nat) :
    ((connection.poll side limit).2.endpoint one).inbox =
        (if side = one then (connection.endpoint one).inbox.drop limit else (connection.endpoint one).inbox) ∧
      ((connection.poll side limit).2.endpoint one).holders = (connection.endpoint one).holders ∧
      ((connection.poll side limit).2.endpoint one).shut = (connection.endpoint one).shut ∧
      (((connection.poll side limit).2.endpoint one).wasReset = true → (connection.endpoint one).wasReset = true) := by
  have hpolls := polls_poll connection side limit
  generalize connection.poll side limit = polled at hpolls
  have hother : side ≠ side.other := by cases side <;> simp [Side.other]
  cases hpolls with
  | queued hqueue => rcases eq_or_eq_other one side with rfl | rfl <;> simp [hother]
  | reset hqueue hreset => rcases eq_or_eq_other one side with rfl | rfl <;> simp [hother, hqueue]
  | idle hqueue hreset => rcases eq_or_eq_other one side with rfl | rfl <;> simp [hother, hqueue]

/-- Reading and writing leaves the handles as they are, and resets nobody. -/
theorem traffic_act (connection : Connection) (act : Act) (htraffic : ∀ side, act ≠ .drop side) (side : Side) :
    ((connection.act act).2.endpoint side).holders = (connection.endpoint side).holders ∧
      (((connection.act act).2.endpoint side).wasReset = true → (connection.endpoint side).wasReset = true) := by
  cases act with
  | drop one => exact absurd rfl (htraffic one)
  | poll one limit =>
    obtain ⟨-, hholders, -, hreset⟩ := endpoint_poll connection one side limit
    exact ⟨hholders, hreset⟩
  | send one bytes =>
    cases hshut : (connection.endpoint one).shut with
    | true => simp [Connection.act, send, hshut]
    | false => rcases eq_or_eq_other side one with rfl | rfl <;> simp [Connection.act, send, hshut]

/-- Whatever is done on an end, no more than one handle is closed. -/
theorem holders_le_act (connection : Connection) (act : Act) (side : Side) :
    (connection.endpoint side).holders ≤
      ((connection.act act).2.endpoint side).holders + if act = .drop side then 1 else 0 := by
  cases act with
  | drop one =>
    obtain ⟨hhere, hthere⟩ := holders_letGo connection one
    rcases eq_or_eq_other side one with rfl | rfl
    · simp only [Connection.act, hhere, if_true]
      omega
    · simp only [Connection.act, hthere]
      exact Nat.le_add_right _ _
  | poll one limit =>
    rw [(traffic_act connection (.poll one limit) nofun side).1]
    exact Nat.le_add_right _ _
  | send one bytes =>
    rw [(traffic_act connection (.send one bytes) nofun side).1]
    exact Nat.le_add_right _ _

/-- **Nobody is reset by somebody who is still there**, whatever is done. -/
theorem Sound.act (sound : connection.Sound) (act : Act) : (connection.act act).2.Sound := by
  have htraffic : (∀ side, act ≠ .drop side) → (connection.act act).2.Sound := by
    intro htraffic side hreset
    rw [(traffic_act connection act htraffic side.other).1]
    exact sound side ((traffic_act connection act htraffic side).2 hreset)
  cases act with
  | drop side => exact sound.letGo side
  | poll side limit => exact htraffic nofun
  | send side bytes => exact htraffic nofun

end Sound

end Connection

end DeviceBroker
