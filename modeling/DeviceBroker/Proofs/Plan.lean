import DeviceBroker.Proofs.Lines
import DeviceBroker.Session.Script

/-!
# `Proofs.Plan` — what a script asks of the device

A script settles the order in which the device is used before any of it is used: which lines its data
completes, and where between them somebody else acts. The plan of a script says that order from the bytes
alone, without reads, buffers or replies. How far a session follows its plan is decided when it runs.

## Contents

* `Session.Deed` — one use of the device.
* `Session.reached`, `Session.heard`, `Session.carried` — the part of a script that is read, and its bytes.
* `Session.deeds` — **the plan** of a script; `deeds_append`, `lines_deeds`, `foreign_deeds`.
* `upTo` — a list up to the first element of a kind.
-/

namespace DeviceBroker

/-- The elements of a list up to the first one that satisfies `p`, that one included. -/
def upTo {α : Type} (p : α → Bool) : List α → List α
  | [] => []
  | a :: rest => if p a then [a] else a :: upTo p rest

theorem upTo_append {α : Type} (p : α → Bool) (a b : List α) :
    upTo p (a ++ b) = if a.any p then upTo p a else a ++ upTo p b := by
  induction a with
  | nil => rfl
  | cons x a ih =>
    by_cases hx : p x
    · simp [upTo, hx]
    · by_cases hany : a.any p
      · simp [upTo, hx, ih, hany]
      · simp [upTo, hx, ih, hany]

theorem upTo_of_any_eq_false {α : Type} {p : α → Bool} {l : List α} (h : l.any p = false) :
    upTo p l = l := by
  have happend := upTo_append p l []
  rw [List.append_nil, h, if_neg Bool.false_ne_true] at happend
  exact happend.trans (List.append_nil l)

theorem mem_of_mem_upTo {α : Type} {p : α → Bool} {a : α} {l : List α} (h : a ∈ upTo p l) : a ∈ l := by
  induction l with
  | nil => exact h
  | cons x l ih =>
    rw [upTo] at h
    split at h
    · exact List.mem_cons.2 (Or.inl (List.mem_singleton.1 h))
    · exact List.mem_cons.2 ((List.mem_cons.1 h).imp id ih)

theorem any_upTo {α : Type} (p : α → Bool) (l : List α) : (upTo p l).any p = l.any p := by
  induction l with
  | nil => rfl
  | cons x l ih =>
    by_cases hx : p x
    · simp [upTo, hx]
    · simp [upTo, hx, ih]

/-- Picking out parts of a list and cutting it go together, if the parts tell where to cut. -/
theorem filterMap_upTo {α β : Type} {p : α → Bool} {q : β → Bool} {f : α → Option β}
    (h : ∀ a, p a = (f a).any q) (l : List α) : (upTo p l).filterMap f = upTo q (l.filterMap f) := by
  induction l with
  | nil => rfl
  | cons a l ih =>
    cases hf : f a with
    | none =>
      have hp : p a = false := by rw [h, hf]; rfl
      simp [upTo, hp, hf, ih]
    | some b =>
      have hp : p a = q b := by rw [h, hf]; rfl
      by_cases hq : q b
      · simp [upTo, hp, hf, hq]
      · simp [upTo, hp, hf, hq, ih]

namespace Session

/-- One use of the device. -/
inductive Deed where
  /-- A line of the session is served. -/
  | serve (line : Bytes)
  /-- Somebody else makes a request. -/
  | ask (request : Device.Request)
  /-- Another session comes and goes. -/
  | visit (id : SessionId) (script : List Step) (output : ReplyStream)

namespace Deed

/-- The line that is served, if one is. -/
def line? : Deed → Option Bytes
  | serve line => some line
  | ask _ | visit .. => none

/-- Whether somebody else than the session acts. -/
def isForeign : Deed → Bool
  | serve _ => false
  | ask _ | visit .. => true

/-- Whether the deed serves a request to quit. -/
def quits : Deed → Bool
  | serve line => Command.parse line = .quit
  | ask _ | visit .. => false

end Deed

/-! ## The part of a script that is read -/

/-- The bytes that a step brings. -/
def Step.bytes : Step → Bytes
  | data bytes => bytes
  | failure _ | device _ | session .. | eof => []

/-- The deed of somebody else in a step. -/
def Step.deed? : Step → Option Deed
  | device request => some (.ask request)
  | session id script output => some (.visit id script output)
  | data _ | failure _ | eof => none

/-- Whether no read goes beyond a step. -/
def Step.isLast : Step → Bool
  | eof => true
  | failure error => !error.isInterrupted
  | data _ | device _ | session .. => false

/-- The steps before the stream ends. -/
def reached (script : List Step) : List Step :=
  script.takeWhile fun step => !step.isLast

/-- How the stream of a script ends. -/
def lastEnding (script : List Step) : Ending :=
  match script.find? Step.isLast with
  | some (.failure error) => .failed (.read error)
  | _ => .peerClosed

/-- All bytes that some steps bring. -/
def heard (steps : List Step) : Bytes :=
  steps.flatMap Step.bytes

@[simp] theorem heard_cons (step : Step) (steps : List Step) :
    heard (step :: steps) = step.bytes ++ heard steps :=
  List.flatMap_cons

/-! ## The plan -/

/-- The lines whose newlines stand in `bytes`, if `seen` came before. -/
def carried (seen bytes : Bytes) : List Bytes :=
  (Bytes.lines (seen ++ bytes)).drop (Bytes.lines seen).length

/-- **The plan** of some steps, if the bytes in `seen` came before them: data serves the lines that it
    completes, and a step of somebody else stands where it stands. -/
def deeds (seen : Bytes) : List Step → List Deed
  | [] => []
  | step :: steps =>
    (carried seen step.bytes).map .serve ++ step.deed?.toList ++ deeds (seen ++ step.bytes) steps

theorem lines_append_carried (seen bytes : Bytes) :
    Bytes.lines (seen ++ bytes) = Bytes.lines seen ++ carried seen bytes := by
  rw [carried, Bytes.lines_append, List.drop_left]

/-- What data completes depends on the unfinished line before it only. -/
theorem carried_eq (seen bytes : Bytes) :
    carried seen bytes = Bytes.lines (Bytes.remainder seen ++ bytes) := by
  rw [carried, Bytes.lines_append, List.drop_left]

@[simp] theorem carried_nil (seen : Bytes) : carried seen [] = [] := by
  rw [carried, List.append_nil, List.drop_length]

/-- **A plan can be cut wherever its script is cut.** -/
theorem deeds_append (seen : Bytes) (before after : List Step) :
    deeds seen (before ++ after) = deeds seen before ++ deeds (seen ++ heard before) after := by
  induction before generalizing seen with
  | nil => simp [deeds, heard]
  | cons step before ih =>
    simp only [List.cons_append, deeds, ih, heard_cons, List.append_assoc]

/-- **The lines of a plan** are the lines that its bytes complete. -/
theorem lines_deeds (seen : Bytes) (steps : List Step) :
    (deeds seen steps).filterMap Deed.line? = carried seen (heard steps) := by
  induction steps generalizing seen with
  | nil => simp [deeds, heard]
  | cons step steps ih =>
    have hserved : ((carried seen step.bytes).map Deed.serve).filterMap Deed.line?
        = carried seen step.bytes := by
      rw [List.filterMap_map]
      exact List.filterMap_some
    have hforeign : step.deed?.toList.filterMap Deed.line? = [] := by
      cases step <;> rfl
    have hlines := lines_append_carried seen (heard (step :: steps))
    -- both sides are what follows the lines of `seen` among the lines of everything
    rw [heard_cons, ← List.append_assoc, lines_append_carried, lines_append_carried,
      List.append_assoc] at hlines
    rw [deeds, List.filterMap_append, List.filterMap_append, hserved, hforeign, ih, heard_cons,
      List.append_nil]
    exact List.append_cancel_left hlines

/-- The lines of a plan from the beginning are the lines of its bytes. -/
theorem lines_deeds_nil (steps : List Step) :
    (deeds [] steps).filterMap Deed.line? = Bytes.lines (heard steps) := by
  rw [lines_deeds, carried_eq, Bytes.remainder_nil, List.nil_append]

/-- **The foreign deeds of a plan** are those of its steps. -/
theorem foreign_deeds (seen : Bytes) (steps : List Step) :
    (deeds seen steps).filter Deed.isForeign = steps.filterMap Step.deed? := by
  induction steps generalizing seen with
  | nil => rfl
  | cons step steps ih =>
    have hserved : ((carried seen step.bytes).map Deed.serve).filter Deed.isForeign = [] := by
      rw [List.filter_eq_nil_iff]
      intro deed hdeed
      obtain ⟨line, -, rfl⟩ := List.mem_map.1 hdeed
      simp [Deed.isForeign]
    rw [deeds, List.filter_append, List.filter_append, hserved, ih, List.nil_append]
    cases step <;> rfl

end Session

end DeviceBroker
