import DeviceBroker.Reply
import Mathlib.Data.List.Basic
import Mathlib.Data.List.Nodup

/-!
# `Proofs.Rendering` — telling replies apart by their bytes

The contents of the buffer are sent as they are, so nothing but their bytes can set them off against the other
replies, and they may spell any of these. What sets them off is the newline: every other reply ends with
one, and contents that hold none are never mistaken for one of them. Among the others the device's summary
is known by its first byte, and its number and its word are on different sides of a comma.

## Contents

* `Bytes.digit_of_mem`, `Bytes.not_mem_number`, `Bytes.toString_injective` — numbers in decimal.
* `Bytes.IsLine` — one newline, and that at the end.
* `Reply.Legible` — contents that are not empty and hold no newline, and every other reply.
* `Reply.Kind`, `Reply.kindOf_render` — **the kind of a reply** is read off its bytes.
* `Reply.isLine_render` — every reply but the contents is a line.
* `Reply.render_status_injective`, `Reply.render_injective` — **no two legible replies have the same bytes.**
-/

namespace DeviceBroker

namespace Bytes

/-! ## Numbers -/

/-- The byte behind the number of a summary. -/
def comma : UInt8 := 44

/-- **The bytes of a number** in decimal are those of its digits. -/
theorem digit_of_mem {n : Nat} {b : UInt8} (h : b ∈ ofString (toString n)) : 48 ≤ b ∧ b ≤ 57 := by
  obtain ⟨c, hc, hb⟩ := List.mem_flatMap.1 h
  rw [Nat.toString_eq_repr, Nat.toList_repr] at hc
  have hdigit : c.isDigit = true := Nat.isDigit_of_mem_toDigits (by decide) (by decide) hc
  obtain ⟨hlow, hhigh⟩ : 48 ≤ c.val.toNat ∧ c.val.toNat ≤ 57 := Char.isDigit_iff_toNat.1 hdigit
  rw [String.utf8EncodeChar, if_pos (by omega)] at hb
  obtain rfl := List.mem_singleton.1 hb
  have hbyte : (UInt8.ofNat c.val.toNat).toNat = c.val.toNat := by
    rw [UInt8.toNat_ofNat']
    exact Nat.mod_eq_of_lt (by omega)
  rw [UInt8.le_iff_toNat_le, UInt8.le_iff_toNat_le, hbyte]
  exact ⟨hlow, hhigh⟩

theorem not_mem_number {b : UInt8} (h : b < 48) (n : Nat) : b ∉ ofString (toString n) :=
  fun hmem => absurd (digit_of_mem hmem).1 (UInt8.not_le.2 h)

/-- Numbers are told apart by their digits. -/
theorem toString_injective {m n : Nat} (h : toString m = toString n) : m = n := by
  rw [Nat.toString_eq_repr, Nat.toString_eq_repr, ← String.toList_inj, Nat.toList_repr, Nat.toList_repr] at h
  rw [← Nat.ofDigitChars_ten_toDigits (n := m), h, Nat.ofDigitChars_ten_toDigits]

/-! ## Lines -/

/-- **A line**: exactly one newline, and that is the last byte. -/
structure IsLine (bytes : Bytes) : Prop where
  once : bytes.count newline = 1
  last : bytes.getLast? = some newline

instance (bytes : Bytes) : Decidable (IsLine bytes) :=
  decidable_of_iff (bytes.count newline = 1 ∧ bytes.getLast? = some newline)
    ⟨fun h => ⟨h.1, h.2⟩, fun h => ⟨h.once, h.last⟩⟩

theorem IsLine.newline_mem {bytes : Bytes} (h : IsLine bytes) : newline ∈ bytes :=
  List.mem_of_getLast? h.last

/-- Bytes without a newline stand in front of a line. -/
theorem IsLine.append {bytes : Bytes} (h : IsLine bytes) {front : Bytes} (hfront : newline ∉ front) :
    IsLine (front ++ bytes) where
  once := by rw [List.count_append, List.count_eq_zero.2 hfront, h.once]
  last := by rw [List.getLast?_append, h.last]; rfl

end Bytes

namespace Reply

open Bytes

/-! ## Replies that can be read -/

/-- **Legible replies**: contents must not be empty or hold a newline. -/
def Legible : Reply → Prop
  | payload bytes => bytes ≠ [] ∧ newline ∉ bytes
  | written | busy | cleared | bye | status _ | empty | unknownCommand => True

/-- The answer to a read of a buffer without newlines is legible. -/
theorem legible_ofContents {bytes : Bytes} (h : newline ∉ bytes) : (ofContents bytes).Legible := by
  cases bytes with
  | nil => exact trivial
  | cons b bytes => exact ⟨List.cons_ne_nil b bytes, h⟩

/-- The three kinds of replies. -/
inductive Kind where
  /-- The contents of the buffer. -/
  | contents
  /-- The device's summary. -/
  | summary
  /-- A text that is always the same. -/
  | phrase
  deriving DecidableEq

/-- The kind of a reply. -/
def kind : Reply → Kind
  | payload _ => .contents
  | status _ => .summary
  | written | busy | cleared | bye | empty | unknownCommand => .phrase

/-- Every reply but the contents is legible. -/
theorem legible_of_kind {reply : Reply} (h : reply.kind ≠ .contents) : reply.Legible := by
  cases reply with
  | payload bytes => exact absurd rfl h
  | _ => exact trivial

/-- The replies that are phrases. -/
def phrases : List Reply :=
  [written, busy, cleared, bye, empty, unknownCommand]

theorem mem_phrases {reply : Reply} (h : reply.kind = .phrase) : reply ∈ phrases := by
  cases reply with
  | payload bytes => cases h
  | status status => cases h
  | written => decide
  | busy => decide
  | cleared => decide
  | bye => decide
  | empty => decide
  | unknownCommand => decide

/-! ## The summary -/

/-- What stands behind the number of a summary. -/
def statusTail (active : Bool) : Bytes :=
  ofString ", WRITER=" ++ (ofString (writerWord active) ++ ofString "\n")

/-- **The bytes of a summary**, cut where its number begins and where it ends. -/
theorem render_status (length : Nat) (active : Bool) :
    (status { length, writerActive := active }).render
      = ofString "BUF_LEN=" ++ (ofString (toString length) ++ statusTail active) := by
  unfold statusTail
  simp only [← ofString_append, ← String.append_assoc]
  rfl

/-- A comma stands behind the number, and there is no other. -/
theorem statusTail_eq (active : Bool) :
    ∃ word, statusTail active = comma :: word ∧ comma ∉ word := by
  cases active with
  | true => exact ⟨ofString " WRITER=active\n", rfl, by decide⟩
  | false => exact ⟨ofString " WRITER=none\n", rfl, by decide⟩

theorem isLine_status (length : Nat) (active : Bool) :
    IsLine (status { length, writerActive := active }).render := by
  have htail : ∀ active, IsLine (statusTail active) := by decide
  have hnumber : newline ∉ ofString (toString length) := not_mem_number (by decide) length
  rw [render_status]
  exact ((htail active).append hnumber).append (by decide)

/-- **A summary** tells its number and its word. -/
theorem render_status_injective {a b : Device.Status} (h : (status a).render = (status b).render) :
    a = b := by
  obtain ⟨length, active⟩ := a
  obtain ⟨length', active'⟩ := b
  obtain ⟨word, hword, hclear⟩ := statusTail_eq active
  obtain ⟨word', hword', -⟩ := statusTail_eq active'
  have htails : ∀ one other, statusTail one = statusTail other → one = other := by decide
  rw [render_status, render_status, hword, hword'] at h
  -- the number ends at the only comma
  obtain ⟨hlength, -, hactive⟩ :=
    (List.append_cons_inj_of_notMem (not_mem_number (by decide) length) hclear).1 (List.append_cancel_left h)
  have htail : statusTail active = statusTail active' := by rw [hword, hword', hactive]
  rw [toString_injective (ofString_injective hlength), htails active active' htail]

/-! ## All replies -/

/-- **Every reply but the contents** is a line. -/
theorem isLine_render {reply : Reply} (h : reply.kind ≠ .contents) : IsLine reply.render := by
  cases hkind : reply.kind with
  | contents => exact absurd hkind h
  | summary =>
    cases reply with
    | status status => exact isLine_status status.length status.writerActive
    | _ => cases hkind
  | phrase =>
    have hall : ∀ reply ∈ phrases, IsLine reply.render := by decide
    exact hall reply (mem_phrases hkind)

/-- The kind that bytes look like: contents have no newline, and a summary begins with a `B`. -/
def kindOf (bytes : Bytes) : Kind :=
  if newline ∉ bytes then .contents
  else if bytes.head? = some 66 then .summary
  else .phrase

/-- **The kind of a reply is read off its bytes.** -/
theorem kindOf_render {reply : Reply} (h : reply.Legible) : kindOf reply.render = reply.kind := by
  cases hkind : reply.kind with
  | contents =>
    cases reply with
    | payload bytes => exact if_pos h.2
    | _ => cases hkind
  | summary =>
    have hline : IsLine reply.render := isLine_render (by rw [hkind]; decide)
    rw [kindOf, if_neg (not_not_intro hline.newline_mem)]
    cases reply with
    | status status =>
      rw [if_pos]
      rw [render_status status.length status.writerActive]
      rfl
    | _ => cases hkind
  | phrase =>
    have hall : ∀ reply ∈ phrases, kindOf reply.render = .phrase := by decide
    exact hall reply (mem_phrases hkind)

/-- **No two legible replies have the same bytes.** -/
theorem render_injective {a b : Reply} (ha : a.Legible) (hb : b.Legible) (h : a.render = b.render) :
    a = b := by
  have hkinds : a.kind = b.kind := by rw [← kindOf_render ha, h, kindOf_render hb]
  -- within a kind the contents are their own bytes, and the phrases are few enough to look at
  cases hkind : a.kind with
  | contents =>
    cases a with
    | payload bytes =>
      cases b with
      | payload others => exact congrArg payload h
      | _ => cases hkinds
    | _ => cases hkind
  | summary =>
    cases a with
    | status summary =>
      cases b with
      | status other => exact congrArg status (render_status_injective h)
      | _ => cases hkinds
    | _ => cases hkind
  | phrase =>
    have hnodup : (phrases.map render).Nodup := by decide
    exact List.inj_on_of_nodup_map hnodup (mem_phrases hkind) (mem_phrases (hkinds.symm.trans hkind)) h

end Reply

end DeviceBroker
