import DeviceBroker.Shutdown

/-!
# `Proofs.Histories` — what a coordinator answers, by what has been done with it

A coordinator remembers the requests that nobody has taken yet, the notifiers that still exist and how far
the wait has come. All that can be told from the operations done so far and the answers to them, without a
look at the coordinator, and so can the answer to the next operation: the wait gets the first request ever
made, if there was one; without one it goes on as long as some notifier is left, and is told that nobody is
left otherwise; requests are logged once the wait is over, and not before.

## Contents

* `made`, `alive`, `reasons`, `decided` — **what a history tells**.
* `Coordinator.due` — **what an operation is due to answer** after a history.
* `Recalls`, `Recalls.step`, `Recalls.replay` — a coordinator recalls its history.
* `Recalls.answer` — and it answers what is due.
-/

namespace DeviceBroker.Coordinator

/-! ## What a history tells -/

/-- Whether an operation makes a notifier. -/
def Operation.makes : Operation → Bool
  | notifier | clone _ => true
  | drop _ | notify .. | wait => false

/-- The reason for which an operation requests a stop. -/
def Operation.reason? : Operation → Option ShutdownReason
  | notify _ reason => some reason
  | notifier | clone _ | drop _ | wait => none

/-- Whether an answer ends the wait. -/
def Answer.decides : Answer → Bool
  | waited (some _) => true
  | waited none | number _ | done | logged _ => false

/-- How many notifiers were made. -/
def made (history : List Operation) : Nat :=
  history.countP Operation.makes

/-- Whether a notifier was made and not dropped. -/
def alive (history : List Operation) (number : Nat) : Bool :=
  decide (number < made history) && !history.contains (.drop number)

/-- Whether any notifier is left. -/
def anyAlive (history : List Operation) : Bool :=
  (List.range (made history)).any (alive history)

/-- The requests, oldest first. -/
def reasons (history : List Operation) : List ShutdownReason :=
  history.filterMap Operation.reason?

/-- Whether the wait is over. -/
def decided (answers : List Answer) : Bool :=
  answers.any Answer.decides

/-- What the wait is due to get: **the first request**, and without one nothing as long as any notifier is
    left. -/
def awaited? (history : List Operation) : Option ShutdownReason :=
  match reasons history with
  | reason :: _ => some reason
  | [] => if anyAlive history then none else some .channelClosed

/-- **What an operation is due to answer** after a history; nothing if it is not possible then. -/
def due (history : List Operation) (answers : List Answer) : Operation → Option Answer
  | .notifier => if history.contains .wait then none else some (.number (made history))
  | .clone number => if alive history number then some (.number (made history)) else none
  | .drop number => if alive history number then some .done else none
  | .notify number _ =>
    if alive history number then some (.logged (if decided answers then [ignored] else [])) else none
  | .wait => if decided answers then none else some (.waited (awaited? history))

section Append

variable (history : List Operation)

theorem made_append (operation : Operation) :
    made (history ++ [operation]) = made history + if operation.makes then 1 else 0 := by
  unfold made
  rw [List.countP_append, List.countP_singleton]

theorem reasons_append (operation : Operation) :
    reasons (history ++ [operation]) = reasons history ++ operation.reason?.toList := by
  unfold reasons
  rw [List.filterMap_append]
  cases h : operation.reason? with
  | none => rw [List.filterMap_cons_none h]; rfl
  | some reason => rw [List.filterMap_cons_some h]; rfl

theorem decided_append (answers : List Answer) (answer : Answer) :
    decided (answers ++ [answer]) = (decided answers || answer.decides) := by
  unfold decided
  rw [List.any_append]
  simp

/-- **Which notifiers there are** after one more operation: a new one at most, and without the one dropped. -/
theorem alive_append {history : List Operation} (hdropped : ∀ number, .drop number ∈ history → number < made history)
    (operation : Operation) (number : Nat) :
    alive (history ++ [operation]) number =
      ((alive history number || (operation.makes && number == made history)) && operation != .drop number) := by
  have hnew : .drop (made history) ∉ history := fun hmem => absurd (hdropped _ hmem) (Nat.lt_irrefl _)
  unfold alive
  rw [made_append, Bool.eq_iff_iff]
  cases operation <;> grind [Operation.makes]

/-- Only what was made is dropped, if that holds of the last operation too. -/
theorem dropped_append {history : List Operation} (hdropped : ∀ number, .drop number ∈ history → number < made history)
    {operation : Operation} (hlast : ∀ number, operation = .drop number → number < made history) (number : Nat)
    (hmem : .drop number ∈ history ++ [operation]) : number < made (history ++ [operation]) := by
  have hle : made history ≤ made (history ++ [operation]) := by
    rw [made_append]
    exact Nat.le_add_right _ _
  rcases List.mem_append.1 hmem with hbefore | hnow
  · exact Nat.lt_of_lt_of_le (hdropped number hbefore) hle
  · exact Nat.lt_of_lt_of_le (hlast number (List.mem_singleton.1 hnow).symm) hle

theorem contains_wait_append (operation : Operation) :
    (history ++ [operation]).contains .wait = (history.contains .wait || operation == .wait) := by
  grind

end Append

/-! ## The notifiers -/

section Notifiers

variable (coordinator : Coordinator)

theorem lt_of_isAlive {number : Nat} (h : coordinator.isAlive number = true) :
    number < coordinator.notifiers.length := by
  unfold isAlive at h
  obtain ⟨hlt, -⟩ := List.getElem?_eq_some_iff.1 (beq_iff_eq.1 h)
  exact hlt

/-- A new notifier is there, and so are those that were. -/
theorem isAlive_notifier (number : Nat) :
    coordinator.notifier.2.isAlive number =
      (coordinator.isAlive number || number == coordinator.notifiers.length) := by
  unfold isAlive notifier
  dsimp only
  rw [List.getElem?_append]
  split
  · next hlt => simp [Nat.ne_of_lt hlt]
  · next hle =>
    rw [List.getElem?_eq_none (Nat.not_lt.1 hle)]
    rcases Nat.eq_or_lt_of_le (Nat.not_lt.1 hle) with heq | hlt
    · simp [← heq]
    · have hmore : number - coordinator.notifiers.length ≠ 0 := by omega
      have hne : number ≠ coordinator.notifiers.length := by omega
      simp [hmore, hne]

/-- A notifier that is dropped is gone, and no other one is. -/
theorem isAlive_drop (dropped number : Nat) :
    (coordinator.drop dropped).isAlive number = (coordinator.isAlive number && number != dropped) := by
  unfold isAlive drop
  dsimp only
  rw [List.getElem?_set]
  split
  · next heq =>
    subst heq
    split <;> simp
  · next hne => simp [Ne.symm hne]

/-- Whether any notifier is left. -/
theorem any_notifiers : coordinator.notifiers.any id = true ↔ ∃ number, coordinator.isAlive number = true := by
  unfold isAlive
  simp [List.any_eq_true, List.mem_iff_getElem?]

end Notifiers

/-! ## A coordinator recalls its history -/

/-- **A coordinator recalls** the operations done with it and the answers to them. -/
structure Recalls (history : List Operation) (answers : List Answer) (coordinator : Coordinator) : Prop where
  length : coordinator.notifiers.length = made history
  isAlive : ∀ number, coordinator.isAlive number = alive history number
  /-- Only what was made is dropped. -/
  dropped : ∀ number, .drop number ∈ history → number < made history
  own : coordinator.own = !history.contains .wait
  waited : coordinator.waited = decided answers
  requests : decided answers = false → coordinator.requests = reasons history

theorem recalls_start : Recalls [] [] {} where
  length := rfl
  isAlive number := by simp [Coordinator.isAlive, alive, made]
  dropped number h := by cases h
  own := rfl
  waited := rfl
  requests _ := rfl

namespace Recalls

variable {history : List Operation} {answers : List Answer} {coordinator next : Coordinator}

theorem isOpen (h : Recalls history answers coordinator) :
    coordinator.notifiers.any id = anyAlive history := by
  rw [Bool.eq_iff_iff, any_notifiers]
  unfold anyAlive
  simp only [List.any_eq_true, List.mem_range, h.isAlive]
  constructor
  · rintro ⟨number, halive⟩
    refine ⟨number, ?_, halive⟩
    rw [← h.length]
    exact lt_of_isAlive coordinator ((h.isAlive number).trans halive)
  · rintro ⟨number, -, halive⟩
    exact ⟨number, halive⟩

/-- The wait gets what it is due to. -/
theorem wait (h : Recalls history answers coordinator) (hopen : decided answers = false) :
    coordinator.wait.1 = awaited? history := by
  unfold Coordinator.wait awaited? Coordinator.isOpen
  dsimp only
  rw [h.requests hopen, Bool.false_or, h.isOpen]
  cases reasons history with
  | cons reason rest => rfl
  | nil => cases anyAlive history <;> rfl

/-- **It answers what is due.** -/
theorem answer (h : Recalls history answers coordinator) (operation : Operation) :
    (coordinator.perform? operation).map Prod.fst = due history answers operation := by
  cases operation with
  | notifier =>
    unfold perform? due
    dsimp only
    rw [h.own]
    cases history.contains .wait with
    | true => rfl
    | false => exact congrArg (fun number => some (Answer.number number)) h.length
  | clone number =>
    unfold perform? due
    dsimp only
    rw [h.isAlive]
    cases alive history number with
    | false => rfl
    | true => exact congrArg (fun number => some (Answer.number number)) h.length
  | drop number =>
    unfold perform? due
    dsimp only
    rw [h.isAlive]
    cases alive history number <;> rfl
  | notify number reason =>
    unfold perform? due notify
    dsimp only
    rw [h.isAlive, h.waited]
    cases alive history number <;> cases decided answers <;> rfl
  | wait =>
    unfold perform? due
    dsimp only
    rw [h.waited]
    cases hdecided : decided answers with
    | true => rfl
    | false => exact congrArg (fun reason => some (Answer.waited reason)) (h.wait hdecided)

/-! ## What preserves it -/

/-- A notifier is made. -/
theorem newNotifier (h : Recalls history answers coordinator) {operation : Operation} {answer : Answer}
    (hmakes : operation.makes = true) (hdecides : answer.decides = false) :
    Recalls (history ++ [operation]) (answers ++ [answer]) coordinator.notifier.2 := by
  have hreason : operation.reason? = none := by cases operation <;> first | rfl | cases hmakes
  have hwait : (operation == .wait) = false := by cases operation <;> first | rfl | cases hmakes
  have hdrop : ∀ number, operation ≠ .drop number := by
    rintro number rfl
    cases hmakes
  refine ⟨?_, ?_, ?_, ?_, ?_, ?_⟩
  · rw [made_append, if_pos hmakes, ← h.length]
    exact List.length_append
  · intro number
    rw [isAlive_notifier, alive_append h.dropped, h.isAlive, h.length, hmakes, bne_iff_ne.2 (hdrop number),
      Bool.and_true, Bool.true_and]
  · exact dropped_append h.dropped fun number heq => absurd heq (hdrop number)
  · rw [contains_wait_append, hwait, Bool.or_false]
    exact h.own
  · rw [decided_append, hdecides, Bool.or_false]
    exact h.waited
  · rw [decided_append, hdecides, Bool.or_false, reasons_append, hreason]
    exact fun hopen => (h.requests hopen).trans (List.append_nil _).symm

/-- A notifier is dropped. -/
theorem dropNotifier (h : Recalls history answers coordinator) {number : Nat}
    (halive : coordinator.isAlive number = true) :
    Recalls (history ++ [.drop number]) (answers ++ [.done]) (coordinator.drop number) where
  length := by
    rw [made_append, ← h.length]
    exact List.length_set
  isAlive other := by
    rw [isAlive_drop, alive_append h.dropped, h.isAlive, Operation.makes, Bool.false_and, Bool.or_false]
    by_cases heq : other = number
    · rw [heq]
      simp
    · have hne : Operation.drop number ≠ .drop other := fun hsame => heq (Operation.drop.inj hsame).symm
      rw [bne_iff_ne.2 heq, bne_iff_ne.2 hne]
  dropped := by
    refine dropped_append h.dropped fun other heq => ?_
    cases heq
    rw [← h.length]
    exact lt_of_isAlive coordinator halive
  own := by
    rw [contains_wait_append]
    exact h.own.trans (congrArg _ (Bool.or_false _).symm)
  waited := by
    rw [decided_append]
    exact h.waited.trans (Bool.or_false _).symm
  requests := by
    rw [decided_append, reasons_append, Answer.decides, Bool.or_false]
    exact fun hopen => (h.requests hopen).trans (List.append_nil _).symm

/-- The notifiers stay as they are. -/
theorem sameNotifiers (h : Recalls history answers coordinator) {operation : Operation} {answer : Answer}
    (hmakes : operation.makes = false) (hdrop : ∀ number, operation ≠ .drop number)
    (hsame : next.notifiers = coordinator.notifiers)
    (own : next.own = !(history ++ [operation]).contains .wait)
    (waited : next.waited = decided (answers ++ [answer]))
    (requests : decided (answers ++ [answer]) = false → next.requests = reasons (history ++ [operation])) :
    Recalls (history ++ [operation]) (answers ++ [answer]) next where
  length := by
    rw [made_append, hmakes, hsame]
    exact h.length
  isAlive number := by
    rw [alive_append h.dropped, hmakes, bne_iff_ne.2 (hdrop number), Bool.false_and, Bool.or_false,
      Bool.and_true, ← h.isAlive]
    unfold Coordinator.isAlive
    rw [hsame]
  dropped := dropped_append h.dropped fun number heq => absurd heq (hdrop number)
  own := own
  waited := waited
  requests := requests

/-- A stop is requested. -/
theorem notify (h : Recalls history answers coordinator) (number : Nat) (reason : ShutdownReason) :
    Recalls (history ++ [.notify number reason]) (answers ++ [.logged (coordinator.notify reason).1])
      (coordinator.notify reason).2 := by
  have hown : coordinator.own = !(history ++ [Operation.notify number reason]).contains .wait := by
    rw [contains_wait_append]
    exact h.own.trans (congrArg _ (Bool.or_false _).symm)
  have hdecided : ∀ records, decided (answers ++ [.logged records]) = decided answers := fun records => by
    rw [decided_append]
    exact Bool.or_false _
  unfold Coordinator.notify
  split
  · next hwaited =>
    refine h.sameNotifiers rfl nofun rfl hown ?_ ?_
    · rw [hdecided]
      exact h.waited
    · rw [hdecided, ← h.waited, hwaited]
      exact nofun
  · next hwaited =>
    refine h.sameNotifiers rfl nofun rfl hown ?_ ?_
    · rw [hdecided]
      exact h.waited
    · rw [hdecided, reasons_append]
      exact fun hopen => congrArg (· ++ [reason]) (h.requests hopen)

/-- Somebody begins to wait, or looks whether he still has to. -/
theorem waitOnce (h : Recalls history answers coordinator) (hwaited : coordinator.waited = false) :
    Recalls (history ++ [.wait]) (answers ++ [.waited coordinator.wait.1]) coordinator.wait.2 := by
  have hown : false = !(history ++ [Operation.wait]).contains .wait := by
    rw [contains_wait_append, beq_self_eq_true, Bool.or_true]
    rfl
  have hopen : decided answers = false := h.waited.symm.trans hwaited
  unfold Coordinator.wait
  dsimp only
  cases hrequests : coordinator.requests with
  | cons reason rest =>
    refine h.sameNotifiers rfl nofun rfl hown ?_ ?_
    · rw [decided_append]
      exact (Bool.or_true _).symm
    · rw [decided_append]
      exact fun hnever => absurd hnever (by simp [Answer.decides])
  | nil =>
    dsimp only
    split
    · refine h.sameNotifiers rfl nofun rfl hown ?_ ?_
      · rw [decided_append]
        exact h.waited.trans (Bool.or_false _).symm
      · rw [reasons_append]
        exact fun _ => hrequests.symm.trans ((h.requests hopen).trans (List.append_nil _).symm)
    · refine h.sameNotifiers rfl nofun rfl hown ?_ ?_
      · rw [decided_append]
        exact (Bool.or_true _).symm
      · rw [decided_append]
        exact fun hnever => absurd hnever (by simp [Answer.decides])

/-- **One operation** is recalled. -/
theorem step (h : Recalls history answers coordinator) {operation : Operation} {answer : Answer}
    (hperform : coordinator.perform? operation = some (answer, next)) :
    Recalls (history ++ [operation]) (answers ++ [answer]) next := by
  cases operation with
  | notifier =>
    dsimp only [perform?] at hperform
    split at hperform
    · cases hperform
      exact h.newNotifier rfl rfl
    · cases hperform
  | clone number =>
    dsimp only [perform?] at hperform
    split at hperform
    · cases hperform
      exact h.newNotifier rfl rfl
    · cases hperform
  | drop number =>
    dsimp only [perform?] at hperform
    split at hperform
    · next halive =>
      cases hperform
      exact h.dropNotifier halive
    · cases hperform
  | notify number reason =>
    dsimp only [perform?] at hperform
    split at hperform
    · cases hperform
      exact h.notify number reason
    · cases hperform
  | wait =>
    dsimp only [perform?] at hperform
    split at hperform
    · cases hperform
    · next hwaited =>
      cases hperform
      exact h.waitOnce (Bool.eq_false_iff.2 hwaited)

/-- **Every history** is recalled. Induction over the operations to come, behind those that were done. -/
theorem replay {operations : List Operation} {more : List Answer} (h : Recalls history answers coordinator)
    (hreplay : coordinator.replay? operations = some (more, next)) :
    Recalls (history ++ operations) (answers ++ more) next := by
  induction operations generalizing history answers coordinator more with
  | nil =>
    cases hreplay
    rw [List.append_nil, List.append_nil]
    exact h
  | cons operation operations ih =>
    unfold replay? at hreplay
    split at hreplay
    · cases hreplay
    · next answer middle hperform =>
      split at hreplay
      · cases hreplay
      · next rest final hrest =>
        cases hreplay
        rw [List.append_cons, List.append_cons answers]
        exact ih (h.step hperform) hrest

end Recalls

end DeviceBroker.Coordinator
