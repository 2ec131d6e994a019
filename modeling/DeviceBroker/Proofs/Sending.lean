import DeviceBroker.ReplyStream

/-!
# `Proofs.Sending` — what a stream makes of a reply

A stream goes by a plan that may fail at any write or flush. Whatever the plan, what it passes on is a
beginning of what it was given; a plan in which nothing fails passes on everything.

## Contents

* `WriteResult.accepts`, `ReplyStream.Healthy` — a stream that takes everything, in whatever pieces.
* `ReplyStream.offer_accepted` — all writes of a reply together.
* `ReplyStream.Healthy.send` — **it delivers every reply whole**, and stays healthy.
* `ReplyStream.offer_taken`, `ReplyStream.send_sent` — **any stream** passes on a beginning of what is sent.
-/

namespace DeviceBroker

/-- Whether a write takes something or is tried again. -/
def WriteResult.accepts : WriteResult → Bool
  | all => true
  | atMost count => 0 < count
  | failure error => error.isInterrupted

namespace ReplyStream

/-- **A healthy stream** takes everything offered in the end and delivers everything taken, and nothing
    waits in it. -/
structure Healthy (stream : ReplyStream) : Prop where
  writes : ∀ result ∈ stream.writes, result.accepts = true
  flushes : ∀ result ∈ stream.flushes, result = .delivered
  pending : stream.pending = []

theorem offer_nil (plan : List WriteResult) : offer plan [] = (none, plan, []) := by
  rw [offer]

/-- **A plan that accepts** takes all bytes, and what is left of it accepts as well. Induction over the
    writes, each of which takes some of the bytes that are still to be taken. -/
theorem offer_accepted {plan : List WriteResult} (h : ∀ result ∈ plan, result.accepts = true)
    (bytes : Bytes) :
    ∃ left, offer plan bytes = (none, left, bytes) ∧ ∀ result ∈ left, result.accepts = true := by
  induction plan generalizing bytes with
  | nil =>
    refine ⟨[], ?_, h⟩
    cases bytes with
    | nil => rfl
    | cons b bytes => rw [offer]; simp
  | cons result plan ih =>
    have hplan : ∀ later ∈ plan, later.accepts = true := by
      intro later hlater
      exact h later (List.mem_cons_of_mem _ hlater)
    have hresult : result.accepts = true := h result List.mem_cons_self
    cases bytes with
    | nil => exact ⟨result :: plan, offer_nil _, h⟩
    | cons b bytes =>
      cases result with
      | all => exact ⟨plan, by rw [offer]; simp, hplan⟩
      | atMost count =>
        have hcount : count ≠ 0 := Nat.pos_iff_ne_zero.1 (of_decide_eq_true hresult)
        obtain ⟨left, hoffer, hleft⟩ := ih hplan ((b :: bytes).drop count)
        refine ⟨left, ?_, hleft⟩
        rw [offer, if_neg hcount, hoffer]
        · dsimp only
          rw [List.take_append_drop]
        · simp
      | failure error =>
        have hinterrupted : error.isInterrupted = true := hresult
        obtain ⟨left, hoffer, hleft⟩ := ih hplan (b :: bytes)
        refine ⟨left, ?_, hleft⟩
        rw [offer, if_pos hinterrupted, hoffer]
        simp

/-! ## Any stream -/

/-- **What writes take** is a beginning of what they are offered, and all of it if none fails. Induction over
    the writes. -/
theorem offer_taken (plan : List WriteResult) (bytes : Bytes) :
    (offer plan bytes).2.2 <+: bytes ∧ ((offer plan bytes).1 = none → (offer plan bytes).2.2 = bytes) := by
  induction plan generalizing bytes with
  | nil =>
    cases bytes with
    | nil => exact ⟨List.nil_prefix, fun _ => rfl⟩
    | cons b bytes => exact ⟨⟨[], List.append_nil _⟩, fun _ => rfl⟩
  | cons result plan ih =>
    cases bytes with
    | nil =>
      rw [offer_nil]
      exact ⟨List.nil_prefix, fun _ => rfl⟩
    | cons b bytes =>
      cases result with
      | all => exact ⟨⟨[], List.append_nil _⟩, fun _ => rfl⟩
      | atMost count =>
        obtain ⟨htaken, hall⟩ := ih ((b :: bytes).drop count)
        rw [offer]
        · split
          · exact ⟨List.nil_prefix, fun hnone => by cases hnone⟩
          · constructor
            · have hboth := (List.prefix_append_right_inj ((b :: bytes).take count)).2 htaken
              rwa [List.take_append_drop] at hboth
            · intro hnone
              show (b :: bytes).take count ++ (offer plan ((b :: bytes).drop count)).2.2 = b :: bytes
              rw [hall hnone, List.take_append_drop]
        · simp
      | failure error =>
        rw [offer]
        · split
          · exact ih (b :: bytes)
          · exact ⟨List.nil_prefix, fun hnone => by cases hnone⟩
        · simp

/-- What a flush delivered. -/
def sent : Except IoError Bytes → Bytes
  | .ok delivered => delivered
  | .error _ => []

/-- **What is delivered and what waits** after a reply was sent is a beginning of what waited before and the
    reply; and if nothing failed it is all of that, and nothing waits. -/
theorem send_sent (stream : ReplyStream) (bytes : Bytes) :
    sent (stream.send bytes).1 ++ (stream.send bytes).2.pending <+: stream.pending ++ bytes ∧
    ∀ delivered, (stream.send bytes).1 = .ok delivered →
      delivered = stream.pending ++ bytes ∧ (stream.send bytes).2.pending = [] := by
  obtain ⟨htaken, hall⟩ := offer_taken stream.writes bytes
  unfold send writeAll
  generalize offer stream.writes bytes = offered at htaken hall ⊢
  obtain ⟨failure, left, taken⟩ := offered
  have hwaits : stream.pending ++ taken <+: stream.pending ++ bytes :=
    (List.prefix_append_right_inj stream.pending).2 htaken
  cases failure with
  | some error =>
    refine ⟨hwaits, ?_⟩
    intro delivered hdelivered
    cases hdelivered
  | none =>
    obtain rfl : taken = bytes := hall rfl
    dsimp only
    unfold flush
    dsimp only
    split
    · refine ⟨hwaits, ?_⟩
      intro delivered hdelivered
      cases hdelivered
    · refine ⟨⟨[], by simp [sent]⟩, ?_⟩
      intro delivered hdelivered
      cases hdelivered
      exact ⟨rfl, rfl⟩
    · refine ⟨⟨[], by simp [sent]⟩, ?_⟩
      intro delivered hdelivered
      cases hdelivered
      exact ⟨rfl, rfl⟩

/-! ## Healthy streams -/

/-- **A healthy stream delivers** what is sent, all of it and at once. -/
theorem Healthy.send {stream : ReplyStream} (h : stream.Healthy) (bytes : Bytes) :
    ∃ left, stream.send bytes = (.ok bytes, left) ∧ left.Healthy := by
  obtain ⟨writes, flushes, pending⟩ := stream
  obtain ⟨hwrites, hflushes, rfl⟩ := h
  obtain ⟨plan, hoffer, hplan⟩ := offer_accepted hwrites bytes
  cases flushes with
  | nil =>
    refine ⟨{ writes := plan, flushes := [], pending := [] }, ?_, hplan, hflushes, rfl⟩
    simp [ReplyStream.send, writeAll, flush, hoffer]
  | cons result flushes =>
    obtain rfl : result = .delivered := hflushes result List.mem_cons_self
    refine ⟨{ writes := plan, flushes, pending := [] }, ?_, hplan, ?_, rfl⟩
    · simp [ReplyStream.send, writeAll, flush, hoffer]
    · intro result hmem
      exact hflushes result (List.mem_cons_of_mem _ hmem)

end ReplyStream

end DeviceBroker
