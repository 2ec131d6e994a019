import DeviceBroker.LineBuffer

/-!
# `Proofs.Lines` — the lines of a whole byte string

The buffer gives its lines out one at a time while bytes still arrive. Here the lines of a byte string are
said all at once: cut it at every newline, take the return off each piece, and leave out the last piece,
which no newline ended. What the buffer does is then compared with that.

## Contents

* `Bytes.lines`, `Bytes.remainder` — the lines, and what stands behind the last newline.
* `Bytes.cut_induction` — a byte string has no newline, or it is a piece, a newline, and a shorter string.
* `Bytes.lines_append`, `Bytes.remainder_append` — a string that arrives in two pieces.
* `LineBuffer.Sound` — no newline stands where a buffer has searched; `Sound.pop?_cut`, `Sound.popped` — the
  lines that such a buffer gives out.
-/

namespace DeviceBroker

namespace Bytes

/-- **The lines** of a byte string, without their terminators. Bytes behind the last newline are no line. -/
def lines (bytes : Bytes) : List Bytes :=
  (bytes.splitOn newline).dropLast.map stripReturn

/-- The bytes behind the last newline, or all of them if there is none. -/
def remainder (bytes : Bytes) : Bytes :=
  (bytes.splitOn newline).getLast (List.splitOn_ne_nil newline bytes)

/-! ## One line off the front -/

/-- **Induction over the lines** of a byte string: it has no newline, or a first line stands before the
    rest of it. -/
@[elab_as_elim]
theorem cut_induction {motive : Bytes → Prop} (unended : ∀ bytes, newline ∉ bytes → motive bytes)
    (line : ∀ head rest, newline ∉ head → motive rest → motive (head ++ newline :: rest)) :
    ∀ bytes, motive bytes := by
  intro bytes
  induction hlen : bytes.length using Nat.strongRecOn generalizing bytes with
  | ind n ih =>
    by_cases h : newline ∈ bytes
    · obtain ⟨head, rest, rfl, hhead⟩ := List.eq_append_cons_of_mem h
      have hlt : rest.length < n := by
        rw [← hlen, List.length_append, List.length_cons]
        omega
      exact line head rest hhead (ih rest.length hlt rest rfl)
    · exact unended bytes h

theorem lines_of_not_mem {bytes : Bytes} (h : newline ∉ bytes) : lines bytes = [] := by
  simp [lines, List.splitOn_eq_singleton h]

theorem remainder_of_not_mem {bytes : Bytes} (h : newline ∉ bytes) : remainder bytes = bytes := by
  simp [remainder, List.splitOn_eq_singleton h]

theorem lines_cut {head : Bytes} (rest : Bytes) (h : newline ∉ head) :
    lines (head ++ newline :: rest) = stripReturn head :: lines rest := by
  unfold lines
  rw [List.splitOn_append_cons_self_of_not_mem h,
    List.dropLast_cons_of_ne_nil (List.splitOn_ne_nil newline rest), List.map_cons]

theorem remainder_cut {head : Bytes} (rest : Bytes) (h : newline ∉ head) :
    remainder (head ++ newline :: rest) = remainder rest := by
  unfold remainder
  simp only [List.splitOn_append_cons_self_of_not_mem h]
  exact List.getLast_cons (List.splitOn_ne_nil newline rest)

@[simp] theorem remainder_nil : remainder [] = [] := remainder_of_not_mem List.not_mem_nil

/-! ## Pieces -/

theorem newline_not_mem_remainder (bytes : Bytes) : newline ∉ remainder bytes := by
  induction bytes using cut_induction with
  | unended bytes h => rwa [remainder_of_not_mem h]
  | line head rest h ih => rwa [remainder_cut rest h]

/-- The remainder stands at the end. -/
theorem remainder_suffix (bytes : Bytes) : remainder bytes <:+ bytes := by
  induction bytes using cut_induction with
  | unended bytes h => exact ⟨[], by rw [remainder_of_not_mem h, List.nil_append]⟩
  | line head rest h ih =>
    rw [remainder_cut rest h]
    exact ih.trans ((List.suffix_cons newline rest).trans (List.suffix_append head _))

/-- **The lines of two pieces** are those of the first, and then those that the second one completes. -/
theorem lines_append (a b : Bytes) : lines (a ++ b) = lines a ++ lines (remainder a ++ b) := by
  induction a using cut_induction with
  | unended a h => rw [lines_of_not_mem h, remainder_of_not_mem h, List.nil_append]
  | line head rest h ih =>
    rw [List.append_assoc, List.cons_append, lines_cut _ h, lines_cut rest h, remainder_cut rest h, ih,
      List.cons_append]

theorem remainder_append (a b : Bytes) : remainder (a ++ b) = remainder (remainder a ++ b) := by
  induction a using cut_induction with
  | unended a h => rw [remainder_of_not_mem h]
  | line head rest h ih =>
    rw [List.append_assoc, List.cons_append, remainder_cut _ h, remainder_cut rest h, ih]

end Bytes

/-! ## The buffer -/

namespace LineBuffer

open Bytes

/-- **A sound buffer** has looked only at bytes that it holds, and found no newline among them. -/
structure Sound (buffer : LineBuffer) : Prop where
  searched_le : buffer.searched ≤ buffer.pending.length
  clean : newline ∉ buffer.pending.take buffer.searched

theorem sound_unsearched (pending : Bytes) : Sound { pending } := by
  constructor
  · exact Nat.zero_le _
  · simp

theorem sound_searched {pending : Bytes} (h : newline ∉ pending) :
    Sound { pending, searched := pending.length } := by
  constructor
  · exact Nat.le_refl _
  · simpa using h

/-- Bytes that arrive stand behind those that were searched. -/
theorem Sound.push {buffer : LineBuffer} (h : buffer.Sound) (bytes : Bytes) :
    (buffer.push bytes).Sound := by
  constructor
  · show buffer.searched ≤ (buffer.pending ++ bytes).length
    rw [List.length_append]
    exact Nat.le_trans h.searched_le (Nat.le_add_right _ _)
  · show newline ∉ (buffer.pending ++ bytes).take buffer.searched
    rw [List.take_append_of_le_length h.searched_le]
    exact h.clean

/-- A sound buffer stops its search inside the first line. -/
theorem Sound.searched_le_head {buffer : LineBuffer} (h : buffer.Sound) {head rest : Bytes}
    (hpending : buffer.pending = head ++ newline :: rest) : buffer.searched ≤ head.length := by
  apply Nat.le_of_not_lt
  intro hlt
  apply h.clean
  rw [hpending, List.take_append]
  obtain ⟨n, hn⟩ := Nat.exists_eq_add_of_lt hlt
  have hrest : buffer.searched - head.length = n + 1 := by omega
  simp [hrest]

/-- Nothing is found where there is no newline, wherever the search begins. -/
theorem findIdx?_drop_of_not_mem {bytes : Bytes} (h : newline ∉ bytes) (searched : Nat) :
    (bytes.drop searched).findIdx? (· == newline) = none := by
  rw [List.findIdx?_eq_none_iff]
  intro b hb
  have hne : b ≠ newline := fun he => h (he ▸ List.mem_of_mem_drop hb)
  simpa using hne

/-- Without a newline nothing is given out, and the next search starts at the end. -/
theorem pop?_of_not_mem {buffer : LineBuffer} (h : newline ∉ buffer.pending) :
    buffer.pop? = (none, { buffer with searched := buffer.pending.length }) := by
  simp only [pop?, findIdx?_drop_of_not_mem h]

theorem newline_not_mem_stripReturn {line : Bytes} (h : newline ∉ line) : newline ∉ stripReturn line := by
  unfold stripReturn
  split
  · exact fun hmem => h ((List.dropLast_sublist line).mem hmem)
  · exact h

/-- **The first line** leaves a sound buffer, and the bytes behind it stay, not searched yet. -/
theorem Sound.pop?_cut {buffer : LineBuffer} (h : buffer.Sound) {head rest : Bytes}
    (hhead : newline ∉ head) (hpending : buffer.pending = head ++ newline :: rest) :
    buffer.pop? = (some (stripReturn head), { pending := rest }) := by
  have hle : buffer.searched ≤ head.length := h.searched_le_head hpending
  -- the search begins inside the first line, so what it passes over is the rest of that line
  have hfound : (buffer.pending.drop buffer.searched).findIdx? (· == newline)
      = some (head.length - buffer.searched) := by
    rw [hpending, List.drop_append_of_le_length hle, List.findIdx?_append, findIdx?_drop_of_not_mem hhead]
    simp [List.findIdx?_cons]
  have hstop : buffer.searched + (head.length - buffer.searched) = head.length := by omega
  simp only [pop?, hfound, hstop]
  simp [hpending]

/-- **What a sound buffer gives out** holds no newline, and what stays in it is sound. -/
theorem Sound.popped {buffer : LineBuffer} (h : buffer.Sound) :
    (∀ line, buffer.pop?.1 = some line → newline ∉ line) ∧ buffer.pop?.2.Sound := by
  by_cases hmem : newline ∈ buffer.pending
  · obtain ⟨head, rest, hpending, hhead⟩ := List.eq_append_cons_of_mem hmem
    rw [h.pop?_cut hhead hpending]
    refine ⟨?_, sound_unsearched rest⟩
    intro line hline
    obtain rfl := Option.some.inj hline
    exact newline_not_mem_stripReturn hhead
  · rw [pop?_of_not_mem hmem]
    refine ⟨?_, sound_searched hmem⟩
    intro line hline
    cases hline

end LineBuffer

end DeviceBroker
