import DeviceBroker.Proofs.Sending
import Mathlib.Algebra.GroupWithZero.Nat

/-!
# `Proofs.Attempts` — one write after the other

Sending a reply takes a number of writes and at most one flush. Here each of them is told by itself: what is
offered to it, and what it answers. A write that takes a part of what it is offered is followed by one that is
offered the rest, an interrupted one by the same again, and any other failure by nothing.

From the calls of one attempt follows what can be said of many. What the stream accepts is a beginning of every
reply, in the order of the replies; an attempt that fails leaves its beginning in front of the next reply, and has
no other effect on it.

## Contents

* `ReplyStream.write` — one write.
* `ReplyStream.Pushes`, `ReplyStream.pushes_writeAll` — the writes of one reply, one by one.
* `Attempt`, `Attempts`, `ReplyStream.attempts_sendAll` — **the calls of all replies**.
* `Attempt.Accounted`, `Attempts.accepted_eq` — what an attempt comes to, and where the bytes are.
* `Attempts.repend` — what is pending makes no difference to what is called.
* `ReplyStream.sendAll_accounts` — **replies reach the stream once and in order**.
-/

namespace DeviceBroker

namespace ReplyStream

/-! ## The writes of one reply -/

/-- **One write**: how many of the bytes offered the stream takes, or its failure. -/
def write (stream : ReplyStream) (bytes : Bytes) : Except IoError Nat × ReplyStream :=
  match stream.writes with
  | [] => (.ok bytes.length, { stream with pending := stream.pending ++ bytes })
  | .all :: writes => (.ok bytes.length, { stream with writes, pending := stream.pending ++ bytes })
  | .atMost count :: writes =>
    (.ok (min count bytes.length), { stream with writes, pending := stream.pending ++ bytes.take count })
  | .failure error :: writes => (.error error, { stream with writes })

/-- How many bytes a write took. -/
def count : Except IoError Nat → Nat
  | .ok count => count
  | .error _ => 0

/-- How many bytes some writes took together. -/
def total (answers : List (Except IoError Nat)) : Nat :=
  (answers.map count).sum

/-- Whether a write fails: it takes nothing, or it is not merely interrupted. -/
def Fails : Except IoError Nat → Prop
  | .ok count => count = 0
  | .error error => error.isInterrupted = false

/-- **The writes of one reply**, with their answers in order, the failure that ends them and the stream that
    they leave. -/
inductive Pushes : ReplyStream → Bytes → List (Except IoError Nat) → Option IoError → ReplyStream → Prop
  /-- Nothing is left to be written. -/
  | done {stream : ReplyStream} : Pushes stream [] [] none stream
  /-- A write takes nothing. -/
  | stuck {stream after : ReplyStream} {bytes : Bytes} :
      bytes ≠ [] → stream.write bytes = (.ok 0, after) → Pushes stream bytes [.ok 0] (some writeZero) after
  /-- A write takes a part, and the rest is offered next. -/
  | taken {stream next after : ReplyStream} {bytes : Bytes} {count : Nat} {answers : List (Except IoError Nat)}
      {failure : Option IoError} :
      count ≠ 0 → stream.write bytes = (.ok count, next) →
      Pushes next (bytes.drop count) answers failure after →
      Pushes stream bytes (.ok count :: answers) failure after
  /-- A write is interrupted, and the same is offered again. -/
  | again {stream next after : ReplyStream} {bytes : Bytes} {error : IoError} {answers : List (Except IoError Nat)}
      {failure : Option IoError} :
      bytes ≠ [] → stream.write bytes = (.error error, next) → error.isInterrupted = true →
      Pushes next bytes answers failure after →
      Pushes stream bytes (.error error :: answers) failure after
  /-- A write fails. -/
  | broken {stream after : ReplyStream} {bytes : Bytes} {error : IoError} :
      bytes ≠ [] → stream.write bytes = (.error error, after) → error.isInterrupted = false →
      Pushes stream bytes [.error error] (some error) after

/-- **Writing a reply takes such writes.** Induction over the plan, which has one entry for each write. -/
theorem pushes_writeAll (stream : ReplyStream) (bytes : Bytes) :
    ∃ answers, Pushes stream bytes answers (stream.writeAll bytes).1 (stream.writeAll bytes).2 := by
  obtain ⟨plan, flushes, pending⟩ := stream
  induction plan generalizing bytes pending with
  | nil =>
    cases bytes with
    | nil => exact ⟨[], by simpa [writeAll, offer] using Pushes.done⟩
    | cons b bytes =>
      refine ⟨[.ok (b :: bytes).length], .taken (Nat.succ_ne_zero _) rfl ?_⟩
      simpa [writeAll, offer] using Pushes.done
  | cons result plan ih =>
    cases bytes with
    | nil => exact ⟨[], by simpa [writeAll, offer] using Pushes.done⟩
    | cons b bytes =>
      cases result with
      | all =>
        refine ⟨[.ok (b :: bytes).length], .taken (Nat.succ_ne_zero _) rfl ?_⟩
        simpa [writeAll, offer] using Pushes.done
      | atMost count =>
        by_cases hcount : count = 0
        · subst hcount
          refine ⟨[.ok 0], ?_⟩
          have hwrite : (⟨.atMost 0 :: plan, flushes, pending⟩ : ReplyStream).write (b :: bytes)
              = (.ok 0, ⟨plan, flushes, pending⟩) := by
            simp [write]
          simpa [writeAll, offer] using Pushes.stuck (List.cons_ne_nil b bytes) hwrite
        · obtain ⟨answers, hpushes⟩ := ih ((b :: bytes).drop count) (pending ++ (b :: bytes).take count)
          have hmin : min count (b :: bytes).length ≠ 0 := by
            rw [List.length_cons]
            omega
          have hdrop : (b :: bytes).drop (min count (b :: bytes).length) = (b :: bytes).drop count := by
            rw [List.drop_eq_drop_iff]
            omega
          refine ⟨.ok (min count (b :: bytes).length) :: answers, .taken hmin rfl ?_⟩
          rw [hdrop]
          simpa [writeAll, offer, hcount] using hpushes
      | failure error =>
        cases hinterrupted : error.isInterrupted with
        | true =>
          obtain ⟨answers, hpushes⟩ := ih (b :: bytes) pending
          refine ⟨.error error :: answers, .again (List.cons_ne_nil b bytes) rfl hinterrupted ?_⟩
          simpa [writeAll, offer, hinterrupted] using hpushes
        | false =>
          refine ⟨[.error error], ?_⟩
          have hwrite : (⟨.failure error :: plan, flushes, pending⟩ : ReplyStream).write (b :: bytes)
              = (.error error, ⟨plan, flushes, pending⟩) := rfl
          simpa [writeAll, offer, hinterrupted]
            using Pushes.broken (List.cons_ne_nil b bytes) hwrite hinterrupted

section Write

variable {stream next : ReplyStream} {bytes : Bytes}

/-- A write that takes bytes takes the first ones, and they wait for the next flush. -/
theorem write_ok {count : Nat} (h : stream.write bytes = (.ok count, next)) :
    count ≤ bytes.length ∧ next.pending = stream.pending ++ bytes.take count ∧ next.flushes = stream.flushes := by
  unfold write at h
  split at h
  · cases h
    exact ⟨Nat.le_refl _, by simp, rfl⟩
  · cases h
    exact ⟨Nat.le_refl _, by simp, rfl⟩
  · cases h
    refine ⟨Nat.min_le_right _ _, ?_, rfl⟩
    simp [List.take_eq_take_iff]
  · cases h

/-- A write that fails takes nothing. -/
theorem write_error {error : IoError} (h : stream.write bytes = (.error error, next)) :
    next.pending = stream.pending ∧ next.flushes = stream.flushes := by
  unfold write at h
  split at h
  · cases h
  · cases h
  · cases h
  · cases h
    exact ⟨rfl, rfl⟩

/-- **Streams with the same plan**, whatever waits in them. -/
structure SamePlan (a b : ReplyStream) : Prop where
  writes : b.writes = a.writes
  flushes : b.flushes = a.flushes

/-- What waits makes no difference to a write. -/
theorem SamePlan.write {other : ReplyStream} {answer : Except IoError Nat} (same : SamePlan stream other)
    (h : stream.write bytes = (answer, next)) :
    ∃ left, other.write bytes = (answer, left) ∧ SamePlan next left := by
  unfold ReplyStream.write at h ⊢
  rw [same.writes]
  split at h
  · cases h
    exact ⟨_, rfl, rfl, same.flushes⟩
  · cases h
    exact ⟨_, rfl, rfl, same.flushes⟩
  · cases h
    exact ⟨_, rfl, rfl, same.flushes⟩
  · cases h
    exact ⟨_, rfl, rfl, same.flushes⟩

theorem writeAll_nil (stream : ReplyStream) : stream.writeAll [] = (none, stream) := by
  simp [writeAll, offer_nil]

/-- After a write that took a part, the rest is written. -/
theorem writeAll_of_taken {count : Nat} (hcount : count ≠ 0) (h : stream.write bytes = (.ok count, next)) :
    stream.writeAll bytes = next.writeAll (bytes.drop count) := by
  obtain ⟨plan, flushes, pending⟩ := stream
  cases bytes with
  | nil =>
    have hle := (write_ok h).1
    exact absurd (Nat.le_zero.1 hle) hcount
  | cons b bytes =>
    cases plan with
    | nil =>
      cases h
      rw [List.drop_length, writeAll_nil]
      rfl
    | cons result plan =>
      cases result with
      | all =>
        cases h
        rw [List.drop_length, writeAll_nil]
        simp [writeAll, offer]
      | atMost most =>
        cases h
        have hmost : most ≠ 0 := by
          rintro rfl
          simp at hcount
        have hdrop : (b :: bytes).drop (min most (b :: bytes).length) = (b :: bytes).drop most := by
          rw [List.drop_eq_drop_iff]
          omega
        rw [hdrop]
        simp [writeAll, offer, hmost]
      | failure error => cases h

/-- After an interrupted write, the same is written. -/
theorem writeAll_of_again {error : IoError} (hbytes : bytes ≠ []) (h : stream.write bytes = (.error error, next))
    (hinterrupted : error.isInterrupted = true) : stream.writeAll bytes = next.writeAll bytes := by
  obtain ⟨plan, flushes, pending⟩ := stream
  cases plan with
  | nil => cases h
  | cons result plan =>
    cases result with
    | all => cases h
    | atMost most => cases h
    | failure error =>
      cases h
      simp [writeAll, offer, hinterrupted]

/-- A write that takes nothing is the last one. -/
theorem writeAll_of_stuck (hbytes : bytes ≠ []) (h : stream.write bytes = (.ok 0, next)) :
    stream.writeAll bytes = (some writeZero, next) := by
  obtain ⟨plan, flushes, pending⟩ := stream
  have hlength : bytes.length ≠ 0 := by simpa using hbytes
  unfold write at h
  split at h
  · next hplan => exact absurd (by simpa using congrArg Prod.fst h) hlength
  · next hplan => exact absurd (by simpa using congrArg Prod.fst h) hlength
  · next most plan hplan =>
    obtain rfl : most = 0 := by
      have hmin : min most bytes.length = 0 := by simpa using congrArg Prod.fst h
      omega
    cases h
    cases hplan
    simp [writeAll, offer]
  · cases h

/-- A write that fails is the last one, if it is not merely interrupted. -/
theorem writeAll_of_broken {error : IoError} (hbytes : bytes ≠ []) (h : stream.write bytes = (.error error, next))
    (hfails : error.isInterrupted = false) : stream.writeAll bytes = (some error, next) := by
  obtain ⟨plan, flushes, pending⟩ := stream
  cases plan with
  | nil => cases h
  | cons result plan =>
    cases result with
    | all => cases h
    | atMost most => cases h
    | failure error =>
      cases h
      simp [writeAll, offer, hfails]

end Write

/-! ## What the writes come to -/

namespace Pushes

variable {stream after : ReplyStream} {bytes : Bytes} {answers : List (Except IoError Nat)} {failure : Option IoError}

/-- These writes are those of the reply. -/
theorem writeAll_eq (h : Pushes stream bytes answers failure after) : stream.writeAll bytes = (failure, after) := by
  induction h with
  | done => exact writeAll_nil _
  | stuck hbytes hwrite => exact writeAll_of_stuck hbytes hwrite
  | taken hcount hwrite hrest ih => rw [writeAll_of_taken hcount hwrite, ih]
  | again hbytes hwrite hinterrupted hrest ih => rw [writeAll_of_again hbytes hwrite hinterrupted, ih]
  | broken hbytes hwrite hfails => exact writeAll_of_broken hbytes hwrite hfails

/-- **Where the bytes are**: as many as were taken wait behind what waited before, and nothing was flushed. -/
theorem pending_eq (h : Pushes stream bytes answers failure after) :
    after.pending = stream.pending ++ bytes.take (total answers) ∧ after.flushes = stream.flushes := by
  induction h with
  | done => exact ⟨by simp [total], rfl⟩
  | stuck hbytes hwrite =>
    obtain ⟨-, hpending, hflushes⟩ := write_ok hwrite
    exact ⟨by simpa [total, count] using hpending, hflushes⟩
  | @taken stream next after bytes count answers failure hcount hwrite hrest ih =>
    obtain ⟨hle, hpending, hflushes⟩ := write_ok hwrite
    refine ⟨?_, ih.2.trans hflushes⟩
    have htake : bytes.take count ++ (bytes.drop count).take (total answers)
        = bytes.take (total (.ok count :: answers)) := by
      show _ = bytes.take (count + total answers)
      rw [List.take_add]
    rw [ih.1, hpending, List.append_assoc, htake]
  | again hbytes hwrite hinterrupted hrest ih =>
    obtain ⟨hpending, hflushes⟩ := write_error hwrite
    refine ⟨?_, ih.2.trans hflushes⟩
    rw [ih.1, hpending]
    simp [total, count]
  | broken hbytes hwrite hfails =>
    obtain ⟨hpending, hflushes⟩ := write_error hwrite
    exact ⟨by simpa [total, count] using hpending, hflushes⟩

/-- **How many bytes are taken**: all of them, or fewer if a write failed. -/
theorem total_cases (h : Pushes stream bytes answers failure after) :
    (failure = none ∧ total answers = bytes.length) ∨ (failure ≠ none ∧ total answers < bytes.length) := by
  have hsome : ∀ {bytes : Bytes}, bytes ≠ [] → 0 < bytes.length := fun hne => List.length_pos_iff.2 hne
  induction h with
  | done => exact Or.inl ⟨rfl, rfl⟩
  | stuck hbytes hwrite => exact Or.inr ⟨nofun, hsome hbytes⟩
  | @taken stream next after bytes count answers failure hcount hwrite hrest ih =>
    obtain ⟨hle, -, -⟩ := write_ok hwrite
    have htotal : total (.ok count :: answers) = count + total answers := rfl
    rw [List.length_drop] at ih
    rcases ih with ⟨hnone, hall⟩ | ⟨hfailed, hfewer⟩
    · exact Or.inl ⟨hnone, by omega⟩
    · exact Or.inr ⟨hfailed, by omega⟩
  | again hbytes hwrite hinterrupted hrest ih => simpa [total, count] using ih
  | broken hbytes hwrite hfails => exact Or.inr ⟨nofun, hsome hbytes⟩

/-- What a write that fails is reported as. -/
def fault : Except IoError Nat → IoError
  | .ok _ => writeZero
  | .error error => error

/-- **A failure** is that of a write: if there is none no write fails, else one does and it is reported. -/
theorem failure_cases (h : Pushes stream bytes answers failure after) :
    (failure = none ∧ ∀ answer ∈ answers, ¬Fails answer) ∨
      (∃ answer ∈ answers, Fails answer) ∧ ∀ answer ∈ answers, Fails answer → failure = some (fault answer) := by
  induction h with
  | done => exact Or.inl ⟨rfl, by simp⟩
  | stuck hbytes hwrite => exact Or.inr ⟨⟨_, List.mem_singleton_self _, rfl⟩, by simp [fault]⟩
  | @taken stream next after bytes count answers failure hcount hwrite hrest ih =>
    have hpasses : ¬Fails (.ok count) := hcount
    rcases ih with ⟨hnone, hall⟩ | ⟨⟨answer, hmem, hfails⟩, hall⟩
    · exact Or.inl ⟨hnone, List.forall_mem_cons.2 ⟨hpasses, hall⟩⟩
    · refine Or.inr ⟨⟨answer, List.mem_cons_of_mem _ hmem, hfails⟩, ?_⟩
      exact List.forall_mem_cons.2 ⟨fun hfails => absurd hfails hpasses, hall⟩
  | @again stream next after bytes error answers failure hbytes hwrite hinterrupted hrest ih =>
    have hpasses : ¬Fails (.error error) := by simp [Fails, hinterrupted]
    rcases ih with ⟨hnone, hall⟩ | ⟨⟨answer, hmem, hfails⟩, hall⟩
    · exact Or.inl ⟨hnone, List.forall_mem_cons.2 ⟨hpasses, hall⟩⟩
    · refine Or.inr ⟨⟨answer, List.mem_cons_of_mem _ hmem, hfails⟩, ?_⟩
      exact List.forall_mem_cons.2 ⟨fun hfails => absurd hfails hpasses, hall⟩
  | broken hbytes hwrite hfails => exact Or.inr ⟨⟨_, List.mem_singleton_self _, hfails⟩, by simp [fault]⟩

/-- What waits makes no difference to the writes. -/
theorem samePlan (h : Pushes stream bytes answers failure after) {other : ReplyStream}
    (same : SamePlan stream other) : ∃ left, Pushes other bytes answers failure left ∧ SamePlan after left := by
  induction h generalizing other with
  | done => exact ⟨other, .done, same⟩
  | stuck hbytes hwrite =>
    obtain ⟨left, hother, hleft⟩ := same.write hwrite
    exact ⟨left, .stuck hbytes hother, hleft⟩
  | taken hcount hwrite hrest ih =>
    obtain ⟨next, hother, hnext⟩ := same.write hwrite
    obtain ⟨left, hpushes, hleft⟩ := ih hnext
    exact ⟨left, .taken hcount hother hpushes, hleft⟩
  | again hbytes hwrite hinterrupted hrest ih =>
    obtain ⟨next, hother, hnext⟩ := same.write hwrite
    obtain ⟨left, hpushes, hleft⟩ := ih hnext
    exact ⟨left, .again hbytes hother hinterrupted hpushes, hleft⟩
  | broken hbytes hwrite hfails =>
    obtain ⟨left, hother, hleft⟩ := same.write hwrite
    exact ⟨left, .broken hbytes hother hfails, hleft⟩

end Pushes

/-! ## Flushing -/

/-- **A flush delivers all that waits**, or leaves it. -/
theorem flush_cases {stream after : ReplyStream} {answer : Except IoError Bytes} (h : stream.flush = (answer, after)) :
    (answer = .ok stream.pending ∧ after.pending = []) ∨
      (∃ error, answer = .error error) ∧ after.pending = stream.pending := by
  unfold flush at h
  split at h
  · cases h
    exact Or.inr ⟨⟨_, rfl⟩, rfl⟩
  · cases h
    exact Or.inl ⟨rfl, rfl⟩
  · cases h
    exact Or.inl ⟨rfl, rfl⟩

/-- The failure of a flush or of a whole attempt. -/
def failure? : Except IoError Bytes → Option IoError
  | .ok _ => none
  | .error error => some error

/-- What waits makes a difference to what a flush delivers only. -/
theorem SamePlan.flush {stream other after : ReplyStream} {answer : Except IoError Bytes}
    (same : SamePlan stream other) (h : stream.flush = (answer, after)) :
    ∃ others left, other.flush = (others, left) ∧ failure? others = failure? answer ∧ SamePlan after left := by
  unfold ReplyStream.flush at h ⊢
  rw [same.flushes]
  split at h
  · cases h
    exact ⟨_, _, rfl, rfl, same.writes, rfl⟩
  · cases h
    exact ⟨_, _, rfl, rfl, same.writes, rfl⟩
  · cases h
    exact ⟨_, _, rfl, rfl, same.writes, rfl⟩

end ReplyStream

open ReplyStream

/-! ## Attempts -/

/-- **An attempt** to send a reply, call by call. -/
structure Attempt where
  reply : Reply
  /-- The answers of the writes, in order. -/
  writes : List (Except IoError Nat)
  /-- The answer of the flush, if it was called. -/
  flush : Option (Except IoError Bytes)
  /-- What the sender is told. -/
  result : Except IoError Bytes

namespace Attempt

/-- What the stream accepts of the reply. -/
def accepted (attempt : Attempt) : Bytes :=
  attempt.reply.render.take (total attempt.writes)

/-- All that can be seen of an attempt, but for the bytes that a flush delivers. -/
def conduct (attempt : Attempt) : Reply × List (Except IoError Nat) × Option (Option IoError) × Option IoError :=
  (attempt.reply, attempt.writes, attempt.flush.map failure?, failure? attempt.result)

/-- **An attempt over a stream**: the reply is written, and it is flushed if no write failed. -/
inductive Over : ReplyStream → Attempt → ReplyStream → Prop
  /-- A write fails, and that is all. -/
  | unwritten {stream after : ReplyStream} {reply : Reply} {writes : List (Except IoError Nat)} {error : IoError} :
      Pushes stream reply.render writes (some error) after →
      Over stream ⟨reply, writes, none, .error error⟩ after
  /-- All is written, and the flush decides. -/
  | written {stream middle after : ReplyStream} {reply : Reply} {writes : List (Except IoError Nat)}
      {result : Except IoError Bytes} :
      Pushes stream reply.render writes none middle → middle.flush = (result, after) →
      Over stream ⟨reply, writes, some result, result⟩ after

/-- **What an attempt comes to.** -/
structure Accounted (attempt : Attempt) : Prop where
  /-- The writes take a beginning of the reply. -/
  begins : attempt.accepted <+: attempt.reply.render
  /-- It is as long as what they say they took. -/
  counted : attempt.accepted.length = total attempt.writes
  /-- It is the whole reply just if no write fails. -/
  whole : attempt.accepted = attempt.reply.render ↔ ∀ answer ∈ attempt.writes, ¬Fails answer
  /-- The attempt succeeds just if the stream accepts the whole reply and the flush succeeds. -/
  succeeds : (∃ bytes, attempt.result = .ok bytes) ↔
    attempt.accepted = attempt.reply.render ∧ ∃ bytes, attempt.flush = some (.ok bytes)
  /-- A write that takes nothing is reported as such. -/
  stuck : .ok 0 ∈ attempt.writes → attempt.result = .error writeZero ∧ writeZero.kind = .writeZero
  /-- So is any other failure of a write. -/
  broken : ∀ error, .error error ∈ attempt.writes → error.isInterrupted = false → attempt.result = .error error
  /-- An interrupted write is never reported: without a flush, the failure is another one. -/
  retried : ∀ error, attempt.flush = none → attempt.result = .error error → error.isInterrupted = false
  /-- A flush that fails is reported, interrupted or not. -/
  unflushed : ∀ error, attempt.flush = some (.error error) → attempt.result = .error error
  /-- A failed attempt called no flush, unless it is the flush that failed. -/
  failed : ∀ error, attempt.result = .error error →
    attempt.flush = none ∨ attempt.flush = some (.error error)

namespace Over

variable {stream after : ReplyStream} {attempt : Attempt}

/-- An attempt is the sending of its reply. -/
theorem send_eq (h : Over stream attempt after) : stream.send attempt.reply.render = (attempt.result, after) := by
  unfold send
  cases h with
  | unwritten hpushes => rw [hpushes.writeAll_eq]
  | written hpushes hflush =>
    rw [hpushes.writeAll_eq]
    exact hflush

/-- Sending a reply is an attempt. -/
theorem exists_of_send (stream : ReplyStream) (reply : Reply) :
    ∃ attempt, attempt.reply = reply ∧ Over stream attempt (stream.send reply.render).2 := by
  obtain ⟨answers, hpushes⟩ := pushes_writeAll stream reply.render
  have hwritten := hpushes.writeAll_eq
  cases hfailure : (stream.writeAll reply.render).1 with
  | some error =>
    rw [hfailure] at hpushes
    have hover := Over.unwritten hpushes
    exact ⟨_, rfl, by rw [hover.send_eq]; exact hover⟩
  | none =>
    rw [hfailure] at hpushes
    have hover := Over.written hpushes rfl
    exact ⟨_, rfl, by rw [hover.send_eq]; exact hover⟩

/-- The stream accepts as much as the writes say, and the whole reply just if none of them failed. -/
theorem accepted_of_pushes {reply : Reply} {writes : List (Except IoError Nat)} {failure : Option IoError}
    (h : Pushes stream reply.render writes failure after) :
    (reply.render.take (total writes)).length = total writes ∧
      (reply.render.take (total writes) = reply.render ↔ failure = none) := by
  have hle : total writes ≤ reply.render.length := by
    rcases h.total_cases with ⟨-, hall⟩ | ⟨-, hfewer⟩
    · exact Nat.le_of_eq hall
    · exact Nat.le_of_lt hfewer
  have hlength : (reply.render.take (total writes)).length = total writes := by
    rw [List.length_take, Nat.min_eq_left hle]
  refine ⟨hlength, ?_⟩
  rcases h.total_cases with ⟨hnone, hall⟩ | ⟨hfailed, hfewer⟩
  · rw [hall, List.take_length]
    exact iff_of_true rfl hnone
  · refine iff_of_false (fun hwhole => ?_) hfailed
    rw [hwhole] at hlength
    omega

/-- An attempt in which a write fails. -/
theorem accounted_unwritten {reply : Reply} {writes : List (Except IoError Nat)} {error : IoError}
    (h : Pushes stream reply.render writes (some error) after) : Accounted ⟨reply, writes, none, .error error⟩ := by
  obtain ⟨hcounted, hwhole⟩ := accepted_of_pushes h
  obtain ⟨⟨answer, hmem, hfails⟩, hall⟩ := h.failure_cases.resolve_left nofun
  have hreports : ∀ answer ∈ writes, Fails answer → error = Pushes.fault answer := fun answer hmem hfails =>
    Option.some.inj (hall answer hmem hfails)
  refine
    { begins := List.take_prefix _ _
      counted := hcounted
      whole := hwhole.trans (iff_of_false nofun fun hpass => hpass answer hmem hfails)
      succeeds := ⟨nofun, fun ⟨_, bytes, hflush⟩ => nomatch hflush⟩
      stuck := fun hzero => ⟨congrArg Except.error (hreports _ hzero rfl), rfl⟩
      broken := fun fault hfault hfails => congrArg Except.error (hreports _ hfault hfails)
      retried := fun fault _ hresult => ?_
      unflushed := nofun
      failed := fun fault _ => Or.inl rfl }
  -- the failure is that of a write that takes nothing, or of one that is not merely interrupted
  cases hresult
  rw [hreports answer hmem hfails]
  cases answer with
  | ok count => rfl
  | error other => exact hfails

/-- An attempt in which all is written. -/
theorem accounted_written {reply : Reply} {writes : List (Except IoError Nat)} {result : Except IoError Bytes}
    (h : Pushes stream reply.render writes none after) : Accounted ⟨reply, writes, some result, result⟩ := by
  obtain ⟨hcounted, hwhole⟩ := accepted_of_pushes h
  have hpass : ∀ answer ∈ writes, ¬Fails answer := by
    rcases h.failure_cases with ⟨-, hpass⟩ | ⟨⟨answer, hmem, hfails⟩, hall⟩
    · exact hpass
    · cases hall answer hmem hfails
  exact
    { begins := List.take_prefix _ _
      counted := hcounted
      whole := iff_of_true (hwhole.2 rfl) hpass
      succeeds := ⟨fun ⟨bytes, hresult⟩ => ⟨hwhole.2 rfl, bytes, congrArg some hresult⟩,
        fun ⟨_, bytes, hresult⟩ => ⟨bytes, Option.some.inj hresult⟩⟩
      stuck := fun hzero => absurd rfl (hpass _ hzero)
      broken := fun fault hfault hfails => absurd hfails (hpass _ hfault)
      retried := nofun
      unflushed := fun fault hresult => Option.some.inj hresult
      failed := fun fault hresult => Or.inr (congrArg some hresult) }

/-- **An attempt is accounted for.** -/
theorem accounted (h : Over stream attempt after) : attempt.Accounted := by
  cases h with
  | unwritten hpushes => exact accounted_unwritten hpushes
  | written hpushes hflush => exact accounted_written hpushes

/-- **Where the bytes of an attempt are**: what was accepted waits behind what waited before, or all of that was
    delivered. -/
theorem pending_eq (h : Over stream attempt after) :
    sent attempt.result ++ after.pending = stream.pending ++ attempt.accepted := by
  cases h with
  | unwritten hpushes => exact hpushes.pending_eq.1
  | written hpushes hflush =>
    have hmiddle := hpushes.pending_eq.1
    rcases flush_cases hflush with ⟨rfl, hempty⟩ | ⟨⟨error, rfl⟩, hkept⟩
    · rw [hempty, List.append_nil]
      exact hmiddle
    · rw [hkept]
      exact hmiddle

/-- What waits makes no difference to an attempt. -/
theorem samePlan (h : Over stream attempt after) {other : ReplyStream} (same : SamePlan stream other) :
    ∃ another left, Over other another left ∧ another.conduct = attempt.conduct ∧ SamePlan after left := by
  cases h with
  | unwritten hpushes =>
    obtain ⟨left, hother, hleft⟩ := hpushes.samePlan same
    exact ⟨_, left, .unwritten hother, rfl, hleft⟩
  | written hpushes hflush =>
    obtain ⟨middle, hother, hmiddle⟩ := hpushes.samePlan same
    obtain ⟨result, left, hothers, hfailure, hleft⟩ := hmiddle.flush hflush
    refine ⟨_, left, .written hother hothers, ?_, hleft⟩
    simp [conduct, hfailure]

end Over

end Attempt

/-- **Attempts in turn**, each over the stream that the one before it left. -/
inductive Attempts : ReplyStream → List Attempt → ReplyStream → Prop
  | none {stream : ReplyStream} : Attempts stream [] stream
  | next {stream middle after : ReplyStream} {attempt : Attempt} {attempts : List Attempt} :
      attempt.Over stream middle → Attempts middle attempts after → Attempts stream (attempt :: attempts) after

namespace Attempts

variable {stream after : ReplyStream} {attempts : List Attempt}

/-- Attempts in turn are the sending of their replies. -/
theorem sendAll_eq (h : Attempts stream attempts after) :
    stream.sendAll (attempts.map Attempt.reply) = (attempts.map Attempt.result, after) := by
  induction h with
  | none => rfl
  | next hover hrest ih =>
    rw [List.map_cons, sendAll, hover.send_eq]
    dsimp only
    rw [ih]
    rfl

/-- **Sending replies in turn** takes such attempts. -/
theorem exists_of_sendAll (stream : ReplyStream) (replies : List Reply) :
    ∃ attempts, attempts.map Attempt.reply = replies ∧ Attempts stream attempts (stream.sendAll replies).2 := by
  induction replies generalizing stream with
  | nil => exact ⟨[], rfl, .none⟩
  | cons reply replies ih =>
    obtain ⟨attempt, hreply, hover⟩ := Attempt.Over.exists_of_send stream reply
    obtain ⟨attempts, hreplies, hattempts⟩ := ih (stream.send reply.render).2
    exact ⟨attempt :: attempts, by rw [List.map_cons, hreply, hreplies], .next hover hattempts⟩

/-- Each attempt is accounted for. -/
theorem accounted (h : Attempts stream attempts after) : ∀ attempt ∈ attempts, attempt.Accounted := by
  induction h with
  | none => simp
  | next hover hrest ih => exact List.forall_mem_cons.2 ⟨hover.accounted, ih⟩

/-- **Where the bytes are**: what was delivered and what waits is what waited at first and what was accepted, in
    this order. -/
theorem pending_eq (h : Attempts stream attempts after) :
    (attempts.map Attempt.result).flatMap sent ++ after.pending
      = stream.pending ++ attempts.flatMap Attempt.accepted := by
  induction h with
  | none => simp
  | next hover hrest ih =>
    rw [List.map_cons, List.flatMap_cons, List.flatMap_cons, List.append_assoc, ih, ← List.append_assoc,
      hover.pending_eq, List.append_assoc]

/-- **What waits makes no difference** to attempts, but for the bytes that are delivered. -/
theorem samePlan (h : Attempts stream attempts after) {other : ReplyStream} (same : SamePlan stream other) :
    ∃ others left, Attempts other others left ∧ others.map Attempt.conduct = attempts.map Attempt.conduct := by
  induction h generalizing other with
  | none => exact ⟨[], other, .none, rfl⟩
  | next hover hrest ih =>
    obtain ⟨another, middle, hother, hconduct, hmiddle⟩ := hover.samePlan same
    obtain ⟨others, left, hothers, hconducts⟩ := ih hmiddle
    exact ⟨another :: others, left, .next hother hothers, by rw [List.map_cons, List.map_cons, hconduct, hconducts]⟩

end Attempts

/-- **Replies reach the stream once and in order.** Each is attempted, each attempt is accounted for, and the stream
    holds or has delivered what the attempts had accepted, in their order. What waits in front of a reply, be it
    left by an attempt that failed, changes nothing about the attempts that follow. -/
theorem ReplyStream.sendAll_accounts (stream : ReplyStream) (replies : List Reply) :
    ∃ attempts, Attempts stream attempts (stream.sendAll replies).2 ∧
      attempts.map Attempt.reply = replies ∧ attempts.map Attempt.result = (stream.sendAll replies).1 ∧
      (∀ attempt ∈ attempts, attempt.Accounted) ∧
      (stream.sendAll replies).1.flatMap sent ++ (stream.sendAll replies).2.pending
        = stream.pending ++ attempts.flatMap Attempt.accepted ∧
      ∀ pending, ∃ others, Attempts { stream with pending } others ({ stream with pending }.sendAll replies).2 ∧
        others.map Attempt.conduct = attempts.map Attempt.conduct := by
  obtain ⟨attempts, hreplies, hattempts⟩ := Attempts.exists_of_sendAll stream replies
  have hresults : attempts.map Attempt.result = (stream.sendAll replies).1 := by
    rw [← hreplies, hattempts.sendAll_eq]
  refine ⟨attempts, hattempts, hreplies, hresults, hattempts.accounted, ?_, ?_⟩
  · rw [← hresults]
    exact hattempts.pending_eq
  · intro pending
    have same : SamePlan stream { stream with pending } := ⟨rfl, rfl⟩
    obtain ⟨others, left, hothers, hconducts⟩ := hattempts.samePlan same
    have hagain : others.map Attempt.reply = replies := by
      rw [← hreplies]
      simpa [Attempt.conduct, Function.comp_def] using congrArg (List.map Prod.fst) hconducts
    refine ⟨others, ?_, hconducts⟩
    have hleft := hothers.sendAll_eq
    rw [hagain] at hleft
    rwa [hleft]

end DeviceBroker
