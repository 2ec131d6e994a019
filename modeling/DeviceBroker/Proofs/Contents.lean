import DeviceBroker.Proofs.Claiming
import Mathlib.Algebra.GroupWithZero.Nat
import Mathlib.Data.List.DropRight

/-!
# `Proofs.Contents` — what the buffer holds

The device cuts each text as it comes, by the room that is left just then. Seen over a whole history this is
one cut: the buffer holds the beginning of everything that was given since it was last emptied, as far as it
fits. So after a text was cut there is room for nothing more until the buffer is emptied again.

## Contents

* `Device.after`, `Device.history` — requests one after the other, and their answers.
* `Device.Deposit`, `Device.deposits` — the texts given since the buffer was last emptied.
* `Device.Change`, `perform_change` — **every request**, by what it does to the buffer.
* `Device.Holds`, `Holds.perform`, `Holds.after` — the invariant, one request and a whole history.
* `Device.Accounts`, `accounts_after` — **what the answers say** about the buffer.
-/

namespace DeviceBroker

namespace Device

/-! ## Histories -/

/-- The device behind some requests. -/
def after (device : Device) (requests : List Request) : Device :=
  requests.foldl (fun device request => (device.perform request).2) device

/-- **The history** of some requests: each of them with its answer. -/
def history (device : Device) : List Request → List (Request × Answer)
  | [] => []
  | request :: requests =>
    (request, (device.perform request).1) :: history (device.perform request).2 requests

theorem after_append (device : Device) (requests : List Request) (request : Request) :
    device.after (requests ++ [request]) = ((device.after requests).perform request).2 := by
  rw [after, List.foldl_append]
  rfl

theorem history_append (device : Device) (requests : List Request) (request : Request) :
    device.history (requests ++ [request])
      = device.history requests ++ [(request, ((device.after requests).perform request).1)] := by
  induction requests generalizing device with
  | nil => rfl
  | cons first requests ih =>
    rw [List.cons_append, history, history, ih]
    rfl

/-- A text that was taken, and how many of its bytes the answer says were stored. -/
structure Deposit where
  text : Bytes
  stored : Nat
  deriving Repr, DecidableEq

/-- The deposit that a request and its answer tell of: a text that was appended, or one whose write was not
    refused. -/
def deposit? : Request × Answer → Option Deposit
  | (.append text, .stored count) => some { text, stored := count }
  | (.write _ text, .outcome (.written stored)) => some { text, stored }
  | _ => none

/-- **The deposits** of a history since the buffer was last emptied. -/
def deposits (entries : List (Request × Answer)) : List Deposit :=
  (entries.rtakeWhile fun entry => entry.1 ≠ .clear).filterMap deposit?

theorem deposits_clear (entries : List (Request × Answer)) {entry : Request × Answer}
    (h : entry.1 = .clear) : deposits (entries ++ [entry]) = [] := by
  rw [deposits, List.rtakeWhile_concat_neg _ _ _ (by simp [h])]
  rfl

theorem deposits_append (entries : List (Request × Answer)) {entry : Request × Answer}
    (h : entry.1 ≠ .clear) :
    deposits (entries ++ [entry]) = deposits entries ++ (deposit? entry).toList := by
  rw [deposits, List.rtakeWhile_concat_pos _ _ _ (by simp [h]), List.filterMap_append, ← deposits]
  rfl

/-! ## One request -/

/-- The deposit of a text as far as it fits. -/
def intake (device : Device) (text : Bytes) : Deposit :=
  { text, stored := (device.append text).1 }

/-- **What a request and its answer do to the buffer**: they empty it, or they put the stored bytes of a
    deposit behind it, or they leave it. -/
inductive Change (device : Device) : Request × Answer → Bytes → Prop
  | cleared {entry : Request × Answer} : entry.1 = .clear → Change device entry []
  | stored {entry : Request × Answer} (text : Bytes) :
      entry.1 ≠ .clear → deposit? entry = some (device.intake text) →
      Change device entry (device.buffer ++ text.take (device.intake text).stored)
  | kept {entry : Request × Answer} :
      entry.1 ≠ .clear → deposit? entry = none → Change device entry device.buffer

/-- **Every request** changes the buffer in one of these ways, and no request changes the capacity. -/
theorem perform_change (device : Device) (request : Request) :
    Change device (request, (device.perform request).1) (device.perform request).2.buffer ∧
    (device.perform request).2.capacity = device.capacity := by
  cases request with
  | claim session =>
    cases hfree : device.isFreeFor session with
    | true =>
      rw [perform, claim, if_pos hfree]
      exact ⟨.kept (by simp) rfl, rfl⟩
    | false =>
      rw [perform, claim, if_neg (by simp [hfree])]
      exact ⟨.kept (by simp) rfl, rfl⟩
  | release session =>
    rw [perform, release_eq]
    exact ⟨.kept (by simp) rfl, rfl⟩
  | append text => exact ⟨.stored text (by simp) rfl, rfl⟩
  | write session text =>
    cases hfree : device.isFreeFor session with
    | true =>
      rw [perform, write_eq_append hfree]
      exact ⟨.stored text (by simp) rfl, rfl⟩
    | false =>
      rw [perform, write_busy hfree]
      exact ⟨.kept (by simp) rfl, rfl⟩
  | clear => exact ⟨.cleared rfl, rfl⟩
  | read => exact ⟨.kept (by simp) rfl, rfl⟩
  | status => exact ⟨.kept (by simp) rfl, rfl⟩
  | capacity => exact ⟨.kept (by simp) rfl, rfl⟩
  | owner => exact ⟨.kept (by simp) rfl, rfl⟩

/-! ## The invariant -/

/-- **The device holds** the beginning of some deposits. -/
structure Holds (capacity : Nat) (given : List Deposit) (device : Device) : Prop where
  size : device.capacity = capacity
  positive : 0 < capacity
  /-- As much of all texts as fits, one byte of the capacity left free. -/
  buffer : device.buffer = (given.flatMap Deposit.text).take (capacity - 1)
  /-- The counts add up. -/
  total : (given.map Deposit.stored).sum = device.buffer.length
  /-- A text is cut only if no room is left. -/
  full : ∀ deposit ∈ given, deposit.stored < deposit.text.length → device.room = 0
  /-- Nothing is stored behind a text that was cut. -/
  cut : given.Pairwise fun earlier later => earlier.stored < earlier.text.length → later.stored = 0

section Holds

variable {capacity : Nat} {given : List Deposit} {device next : Device}

/-- The buffer is shorter than the capacity, and the room is what remains. -/
theorem Holds.room_eq (h : Holds capacity given device) :
    device.buffer.length + device.room + 1 = capacity := by
  have hlength : device.buffer.length ≤ capacity - 1 := by
    rw [h.buffer, List.length_take]
    exact Nat.min_le_left _ _
  have hpositive := h.positive
  rw [room, h.size]
  omega

/-- Emptied. -/
theorem Holds.cleared (h : Holds capacity given device) (hsize : next.capacity = device.capacity)
    (hbuffer : next.buffer = []) : Holds capacity [] next where
  size := hsize.trans h.size
  positive := h.positive
  buffer := by rw [hbuffer, List.flatMap_nil, List.take_nil]
  total := by rw [hbuffer]; rfl
  full deposit hdeposit := by cases hdeposit
  cut := List.Pairwise.nil

/-- Left as it was. -/
theorem Holds.kept (h : Holds capacity given device) (hsize : next.capacity = device.capacity)
    (hbuffer : next.buffer = device.buffer) : Holds capacity given next where
  size := hsize.trans h.size
  positive := h.positive
  buffer := hbuffer.trans h.buffer
  total := by rw [hbuffer, h.total]
  full := by
    intro deposit hdeposit hshort
    rw [room, hsize, hbuffer]
    exact h.full deposit hdeposit hshort
  cut := h.cut

/-- The room that is left behind everything that was given. -/
theorem Holds.room_eq_sub (h : Holds capacity given device) :
    device.room = capacity - 1 - (given.flatMap Deposit.text).length := by
  rw [room, h.size, h.buffer, List.length_take]
  omega

/-- **One more text**: the cut of the longer list is the cut of the text by the room that is left. -/
theorem Holds.stored (h : Holds capacity given device) (hsize : next.capacity = device.capacity)
    (text : Bytes) (hbuffer : next.buffer = device.buffer ++ text.take (device.intake text).stored) :
    Holds capacity (given ++ [device.intake text]) next := by
  have hstored : (device.intake text).stored = min text.length device.room := rfl
  have hroom := h.room_eq
  have hlength : next.buffer.length = device.buffer.length + (device.intake text).stored := by
    rw [hbuffer, List.length_append, List.length_take]
    omega
  have hnext : next.room = device.room - (device.intake text).stored := by
    rw [room, hsize, h.size, hlength]
    omega
  refine ⟨hsize.trans h.size, h.positive, ?_, ?_, ?_, ?_⟩
  · have hcut : text.take (device.intake text).stored
        = text.take (capacity - 1 - (given.flatMap Deposit.text).length) := by
      rw [List.take_eq_take_iff, hstored, h.room_eq_sub]
      omega
    rw [hbuffer, h.buffer, hcut, List.flatMap_append, List.flatMap_singleton, List.take_append]
    rfl
  · rw [List.map_append, List.sum_append, h.total, hlength]
    rfl
  · intro deposit hdeposit hshort
    rcases List.mem_append.1 hdeposit with hearlier | hlast
    · have hnone := h.full deposit hearlier hshort
      omega
    · obtain rfl := List.mem_singleton.1 hlast
      have htext : (device.intake text).text = text := rfl
      rw [htext] at hshort
      omega
  · rw [List.pairwise_append]
    refine ⟨h.cut, List.pairwise_singleton _ _, ?_⟩
    intro earlier hearlier later hlater hshort
    obtain rfl := List.mem_singleton.1 hlater
    have hnone := h.full earlier hearlier hshort
    omega

/-- **One request** keeps it: one case for each kind of change. -/
theorem Holds.perform {entries : List (Request × Answer)} (h : Holds capacity (deposits entries) device)
    (request : Request) :
    Holds capacity (deposits (entries ++ [(request, (device.perform request).1)]))
      (device.perform request).2 := by
  obtain ⟨hchange, hsize⟩ := perform_change device request
  generalize (request, (device.perform request).1) = entry at hchange ⊢
  generalize hnext : (device.perform request).2 = next at hchange hsize ⊢
  generalize hbuffer : next.buffer = buffer at hchange
  cases hchange with
  | cleared hclear =>
    rw [deposits_clear entries hclear]
    exact h.cleared hsize hbuffer
  | stored text hclear hdeposit =>
    rw [deposits_append entries hclear, hdeposit]
    exact h.stored hsize text hbuffer
  | kept hclear hdeposit =>
    rw [deposits_append entries hclear, hdeposit, Option.toList_none, List.append_nil]
    exact h.kept hsize hbuffer

/-- **A whole history** keeps it. Induction over the requests from their end. -/
theorem Holds.after (h : Holds capacity [] device) (requests : List Request) :
    Holds capacity (deposits (device.history requests)) (device.after requests) := by
  induction requests using List.reverseRecOn with
  | nil => exact h
  | append_singleton requests request ih =>
    rw [history_append, after_append]
    exact ih.perform request

end Holds

/-! ## What the answers say -/

/-- **The answers of a device** account for what was given to it. -/
structure Accounts (capacity : Nat) (given : List Deposit) (device : Device) : Prop where
  /-- A read gives all texts, as far as they fit. -/
  read : (device.perform .read).1 = .contents ((given.flatMap Deposit.text).take (capacity - 1))
  /-- A status gives the length of that, -/
  status : (device.perform .status).1
    = .status { length := ((given.flatMap Deposit.text).take (capacity - 1)).length,
                writerActive := device.owner.isSome }
  /-- which is less than the capacity, -/
  length_lt : ((given.flatMap Deposit.text).take (capacity - 1)).length < capacity
  /-- and the sum of the counts that were returned. -/
  total : (given.map Deposit.stored).sum = ((given.flatMap Deposit.text).take (capacity - 1)).length
  /-- A count that is returned is what the buffer grows by. -/
  growth : ∀ request deposit, deposit? (request, (device.perform request).1) = some deposit →
    (device.perform request).2.buffer.length = device.buffer.length + deposit.stored
  /-- Behind a text that was cut nothing is stored. -/
  cut : given.Pairwise fun earlier later => earlier.stored < earlier.text.length → later.stored = 0
  /-- No subtraction goes below zero: with the room and the free byte the buffer makes up the capacity. -/
  room : device.buffer.length + device.room + 1 = capacity
  /-- No text is cut behind its end, and what is stored of it fits. -/
  slice : ∀ text, (device.append text).1 ≤ text.length ∧ (device.append text).1 ≤ device.room

/-- A device that holds the beginning of some deposits accounts for them. -/
theorem Holds.accounts {capacity : Nat} {given : List Deposit} {device : Device}
    (h : Holds capacity given device) : Accounts capacity given device where
  read := congrArg Answer.contents h.buffer
  status := by
    rw [← h.buffer]
    rfl
  length_lt := by
    have hroom := h.room_eq
    rw [← h.buffer]
    omega
  total := by rw [← h.buffer, h.total]
  growth := by
    intro request deposit hdeposit
    obtain ⟨hchange, -⟩ := perform_change device request
    generalize (request, (device.perform request).1) = entry at hchange hdeposit
    generalize (device.perform request).2.buffer = buffer at hchange ⊢
    cases hchange with
    | cleared hclear =>
      obtain ⟨request, answer⟩ := entry
      obtain rfl : request = .clear := hclear
      cases hdeposit
    | stored text hclear hsome =>
      obtain rfl := Option.some.inj (hsome.symm.trans hdeposit)
      have hstored : (device.intake text).stored ≤ text.length := Nat.min_le_left _ _
      rw [List.length_append, List.length_take]
      omega
    | kept hclear hnone =>
      rw [hnone] at hdeposit
      cases hdeposit
  cut := h.cut
  room := h.room_eq
  slice text := ⟨Nat.min_le_left _ _, Nat.min_le_right _ _⟩

/-- A new device holds nothing. -/
theorem holds_create {capacity : Nat} (h : capacity ≤ maxAllocation) :
    ∃ device, create capacity = .ok device ∧ Holds (max capacity 1) [] device := by
  refine ⟨_, create_eq_ok h, rfl, ?_, ?_, rfl, ?_, List.Pairwise.nil⟩
  · exact Nat.le_max_right capacity 1
  · rw [List.flatMap_nil, List.take_nil]
  · intro deposit hdeposit
    cases hdeposit

/-- **The answers account for the buffer**, whatever a new device is asked: it holds what fits of everything
    that was given since it was last emptied. -/
theorem accounts_after {capacity : Nat} (h : capacity ≤ maxAllocation) :
    ∃ device, create capacity = .ok device ∧
      ∀ requests, Accounts (max capacity 1) (deposits (device.history requests)) (device.after requests) := by
  obtain ⟨device, hcreate, hholds⟩ := holds_create h
  exact ⟨device, hcreate, fun requests => (hholds.after requests).accounts⟩

/-- A text that is cut, a write that is refused, and another beginning behind a clear. -/
theorem accounts_after_cut :
    let requests : List Request :=
      [.append [97], .clear, .write ⟨1⟩ [98, 99], .write ⟨2⟩ [100], .append [101, 102], .write ⟨1⟩ [103]]
    4 ≤ maxAllocation ∧ ∃ device, create 4 = .ok device ∧
      (∀ requests, Accounts 4 (deposits (device.history requests)) (device.after requests)) ∧
      deposits (device.history requests) = [⟨[98, 99], 2⟩, ⟨[101, 102], 1⟩, ⟨[103], 0⟩] := by
  intro requests
  have hsmall : 4 ≤ maxAllocation := by decide
  obtain ⟨device, hcreate, haccounts⟩ := accounts_after hsmall
  refine ⟨hsmall, device, hcreate, haccounts, ?_⟩
  obtain rfl : { capacity := 4 } = device := Except.ok.inj hcreate
  decide

end Device

end DeviceBroker
