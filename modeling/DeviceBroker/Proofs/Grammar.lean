import DeviceBroker.Command
import DeviceBroker.Proofs.Decoding
import DeviceBroker.Proofs.Searching

/-!
# `Proofs.Grammar` — what a line means

The grammar of requests has a rule for a write and one for each word. Whatever follows a rule is parsed as
the rule says, no line follows two rules that say different things, and a line that follows none is kept as
the text that it is. A write on the wire is its line and a terminator, so cutting and parsing give the
payload back, however the bytes arrive.

## Contents

* `Bytes.SameLetter`, `Bytes.Alike` — equality up to ASCII case, byte by byte; `sameLetters_iff_alike`.
* `Command.Spells` — the grammar.
* `parse_write_of_alike`, `parse_of_word`, `Spells.parse_eq`, `spells_or_unknown` — every rule is parsed, and
  nothing else.
* `Command.Grammatical`, `grammatical` — all of it for one line.
* `total_terminated` — one line on the wire; `parse_inverts_wire` — **framing and parsing undo writing.**
-/

namespace DeviceBroker

namespace Bytes

/-- **The same letter**, or the same byte: only a letter matches another byte, which is the same letter in the
    other case. -/
def SameLetter (a b : UInt8) : Prop :=
  a = b ∨ (65 ≤ a ∧ a ≤ 90 ∧ b = a + 32) ∨ (65 ≤ b ∧ b ≤ 90 ∧ a = b + 32)

/-- **Equal up to ASCII case**, byte by byte. -/
def Alike (a b : Bytes) : Prop :=
  List.Forall₂ SameLetter a b

theorem lower_eq_iff {a b : UInt8} : lower a = lower b ↔ SameLetter a b := by
  unfold lower SameLetter
  simp only [← UInt8.toNat_inj, UInt8.le_iff_toNat_le]
  have ha := a.toNat_lt
  have hb := b.toNat_lt
  split <;> split <;> simp_all <;> omega

theorem sameLetters_iff_alike {a b : Bytes} : sameLetters a b = true ↔ Alike a b := by
  rw [sameLetters_iff, ← List.forall₂_eq_eq_eq, List.forall₂_map_left_iff, List.forall₂_map_right_iff, Alike]
  simp only [lower_eq_iff]

/-- Bytes that are alike have the same small letters. -/
theorem Alike.map_lower {a b : Bytes} (h : Alike a b) : a.map lower = b.map lower :=
  sameLetters_iff.1 (sameLetters_iff_alike.2 h)

/-- A byte that is no letter is where its counterpart is. -/
theorem Alike.not_mem {a b : Bytes} (h : Alike a b) {byte : UInt8} (hbyte : lower byte ∉ b.map lower) :
    byte ∉ a := by
  intro hmem
  rw [← h.map_lower] at hbyte
  exact hbyte (List.mem_map_of_mem hmem)

end Bytes

namespace Command

open Bytes

/-! ## The grammar -/

/-- **The grammar** of requests: what a line spells, its terminator removed. -/
inductive Spells : Bytes → Command → Prop
  | write {head : Bytes} (payload : Bytes) (h : Alike head (ofString "WRITE ")) :
    Spells (head ++ payload) (.write payload)
  | read {line : Bytes} (h : Alike line (ofString "READ")) : Spells line .read
  | clear {line : Bytes} (h : Alike line (ofString "CLEAR")) : Spells line .clear
  | status {line : Bytes} (h : Alike line (ofString "STATUS")) : Spells line .status
  | exit {line : Bytes} (h : Alike line (ofString "EXIT")) : Spells line .quit
  | quit {line : Bytes} (h : Alike line (ofString "QUIT")) : Spells line .quit

/-- A payload stands behind what is alike to the word and its space. -/
theorem payload?_eq_some_iff {line payload : Bytes} :
    payload? line = some payload ↔ ∃ head, Alike head writePrefix ∧ line = head ++ payload := by
  unfold payload?
  constructor
  · intro h
    split at h
    · next hlong =>
      obtain rfl := Option.some.inj h
      exact ⟨_, sameLetters_iff_alike.1 hlong.2, (List.take_append_drop _ line).symm⟩
    · cases h
  · rintro ⟨head, halike, rfl⟩
    have hlength : writePrefix.length = head.length := halike.length_eq.symm
    have hle : head.length ≤ (head ++ payload).length := (List.prefix_append head payload).length_le
    rw [hlength, List.take_left, List.drop_left, if_pos ⟨hle, sameLetters_iff_alike.2 halike⟩]

/-- What is found among the words depends on the small letters of a line only. -/
theorem ofWord?_eq (line : Bytes) :
    ofWord? line = (words.find? fun entry => line.map lower == entry.1.map lower).map (·.2) :=
  rfl

/-- No word begins like a write, and no two words are alike. -/
theorem words_apart : ∀ entry ∈ words,
    ¬(writePrefix.length ≤ entry.1.length ∧
      (entry.1.map lower).take writePrefix.length = writePrefix.map lower) ∧
    (words.find? fun other => entry.1.map lower == other.1.map lower) = some entry := by
  decide

/-- **A line that is alike to a word** is parsed as that word. -/
theorem parse_of_word {line word : Bytes} {command : Command} (h : Alike line word)
    (hword : (word, command) ∈ words) : parse line = command := by
  obtain ⟨hhead, hfind⟩ := words_apart _ hword
  have hpayload : payload? line = none := by
    rw [payload?, if_neg]
    rwa [sameLetters_iff, List.map_take, h.map_lower, h.length_eq]
  have hofWord : ofWord? line = some command := by
    rw [ofWord?_eq, h.map_lower, hfind]
    rfl
  simp only [parse, hpayload, hofWord]

/-- **A line that begins like a write** is parsed as one, with all that stands behind as its payload. -/
theorem parse_write_of_alike {head : Bytes} (h : Alike head (ofString "WRITE ")) (payload : Bytes) :
    parse (head ++ payload) = .write payload := by
  have hpayload : payload? (head ++ payload) = some payload :=
    payload?_eq_some_iff.2 ⟨head, h, rfl⟩
  simp only [parse, hpayload]

/-- A word is spelled by what is alike to it. -/
theorem spells_of_word {line word : Bytes} {command : Command} (h : Alike line word)
    (hword : (word, command) ∈ words) : Spells line command := by
  simp only [words, List.mem_cons, Prod.mk.injEq, List.not_mem_nil, or_false] at hword
  rcases hword with ⟨rfl, rfl⟩ | ⟨rfl, rfl⟩ | ⟨rfl, rfl⟩ | ⟨rfl, rfl⟩ | ⟨rfl, rfl⟩
  · exact .read h
  · exact .clear h
  · exact .status h
  · exact .exit h
  · exact .quit h

/-- **What follows a rule** is parsed as the rule says. -/
theorem Spells.parse_eq {line : Bytes} {command : Command} (h : Spells line command) :
    parse line = command := by
  cases h with
  | write payload halike => exact parse_write_of_alike halike payload
  | read halike => exact parse_of_word halike (by simp [words])
  | clear halike => exact parse_of_word halike (by simp [words])
  | status halike => exact parse_of_word halike (by simp [words])
  | exit halike => exact parse_of_word halike (by simp [words])
  | quit halike => exact parse_of_word halike (by simp [words])

/-- **What is parsed follows a rule**, or it is kept as text. -/
theorem spells_or_unknown (line : Bytes) :
    Spells line (parse line) ∨ parse line = .unknown (Utf8.decodeLossy line) := by
  unfold parse
  cases hpayload : payload? line with
  | some payload =>
    obtain ⟨head, halike, rfl⟩ := payload?_eq_some_iff.1 hpayload
    exact Or.inl (.write payload halike)
  | none =>
    cases hword : ofWord? line with
    | none => exact Or.inr rfl
    | some command =>
      obtain ⟨⟨word, other⟩, hfound, rfl⟩ := Option.map_eq_some_iff.1 hword
      have hsame := List.find?_some hfound
      have halike : Alike line word := sameLetters_iff_alike.1 hsame
      exact Or.inl (spells_of_word halike (List.mem_of_find?_eq_some hfound))

/-- No rule spells an unknown request. -/
theorem not_spells_unknown {line : Bytes} {text : String} : ¬Spells line (.unknown text) :=
  nofun

/-- **What a line means**, in full. -/
structure Grammatical (line : Bytes) : Prop where
  /-- A line is parsed as a request just if it follows that request's rule. -/
  spelled : ∀ command, Spells line command ↔ parse line = command ∧ ∀ text, command ≠ .unknown text
  /-- No line follows the rules of two requests. -/
  exclusive : ∀ a b, Spells line a → Spells line b → a = b
  /-- Only a line that follows no rule is unknown, and it is kept as text. -/
  unknown : ∀ text, parse line = .unknown text ↔
    (∀ command, ¬Spells line command) ∧ text = Utf8.decodeLossy line
  /-- The text that is kept has the bytes of the line just if these are well-formed. -/
  kept : ∀ text, parse line = .unknown text → (ofString text = line ↔ Utf8.WellFormed line)

/-- **Parsing accepts the grammar** and nothing else. -/
theorem grammatical (line : Bytes) : Grammatical line where
  spelled command := by
    constructor
    · intro h
      refine ⟨h.parse_eq, ?_⟩
      rintro text rfl
      exact not_spells_unknown h
    · rintro ⟨rfl, hknown⟩
      exact (spells_or_unknown line).resolve_right (hknown _)
  exclusive a b ha hb := ha.parse_eq.symm.trans hb.parse_eq
  unknown text := by
    constructor
    · intro h
      have hnone : ∀ command, ¬Spells line command := by
        intro command hspells
        have hcommand : command = .unknown text := hspells.parse_eq.symm.trans h
        exact not_spells_unknown (hcommand ▸ hspells)
      have hkept := (spells_or_unknown line).resolve_left (hnone _)
      exact ⟨hnone, Command.unknown.inj (h.symm.trans hkept)⟩
    · rintro ⟨hnone, rfl⟩
      exact (spells_or_unknown line).resolve_left (hnone _)
  kept text h := by
    have hspells : ¬Spells line (parse line) := h ▸ not_spells_unknown
    have hkept := (spells_or_unknown line).resolve_left hspells
    obtain rfl := Command.unknown.inj (h.symm.trans hkept)
    exact Utf8.ofString_decodeLossy_iff line

/-! ## A write on the wire -/

/-- What a line begins with stays when its return is removed. -/
theorem stripReturn_append {head : Bytes} (h : carriageReturn ∉ head) (line : Bytes) :
    stripReturn (head ++ line) = head ++ stripReturn line := by
  cases hlast : line.getLast? with
  | none =>
    obtain rfl := List.getLast?_eq_none_iff.1 hlast
    have hhead : head.getLast? ≠ some carriageReturn := fun hend => h (List.mem_of_getLast? hend)
    rw [List.append_nil, stripReturn, if_neg hhead]
    exact (List.append_nil head).symm
  | some b =>
    obtain ⟨front, rfl⟩ := List.getLast?_eq_some_iff.1 hlast
    rw [stripReturn, stripReturn, ← List.append_assoc, List.getLast?_concat, List.getLast?_concat,
      List.dropLast_concat, List.dropLast_concat]
    split
    · rfl
    · exact List.append_assoc head front [b]

/-- **One line on the wire**, in any pieces: it is the only line, without its return, and nothing is left. -/
theorem total_terminated {line : Bytes} (h : newline ∉ line) {operations : List LineBuffer.Operation}
    (hkeep : .discard ∉ operations) (hwire : LineBuffer.pushed operations = line ++ [newline]) :
    LineBuffer.total {} operations = ([stripReturn line], []) := by
  have hnew : LineBuffer.Sound {} := LineBuffer.sound_unsearched []
  rw [hnew.total hkeep, hwire, List.nil_append, lines_cut [] h, remainder_cut [] h, remainder_nil,
    lines_of_not_mem List.not_mem_nil]

/-- **Framing and parsing undo writing.** Every line is parsed by the grammar. A write whose payload has no
    newline, sent with a return and a newline in whatever pieces, is one line, and that is parsed as a write
    of exactly this payload; sent with a newline alone it loses the return that its payload may end in. -/
theorem parse_inverts_wire :
    (∀ line, Grammatical line) ∧
    ∀ (head payload : Bytes) (operations : List LineBuffer.Operation),
      Alike head (ofString "WRITE ") → newline ∉ payload → .discard ∉ operations →
      (LineBuffer.pushed operations = head ++ payload ++ [carriageReturn, newline] →
        ∃ line, LineBuffer.total {} operations = ([line], []) ∧ parse line = .write payload) ∧
      (LineBuffer.pushed operations = head ++ payload ++ [newline] →
        ∃ line, LineBuffer.total {} operations = ([line], []) ∧ parse line = .write (stripReturn payload)) := by
  refine ⟨grammatical, ?_⟩
  intro head payload operations halike hpayload hkeep
  have hline : newline ∉ head ++ payload := by
    rw [List.mem_append, not_or]
    exact ⟨halike.not_mem (by decide), hpayload⟩
  constructor
  · intro hwire
    have hreturned : newline ∉ head ++ payload ++ [carriageReturn] := by
      rw [List.mem_append, not_or]
      exact ⟨hline, by decide⟩
    have htotal := total_terminated hreturned hkeep (by rw [hwire]; simp)
    rw [stripReturn_concat] at htotal
    exact ⟨_, htotal, parse_write_of_alike halike payload⟩
  · intro hwire
    have htotal := total_terminated hline hkeep hwire
    rw [stripReturn_append (halike.not_mem (by decide))] at htotal
    exact ⟨_, htotal, parse_write_of_alike halike (stripReturn payload)⟩

/-- A payload that ends in a return, its terminator cut in two and a line asked for too early. -/
theorem parse_inverts_wire_returned :
    let operations : List LineBuffer.Operation :=
      [.push (ofString "wRi"), .next, .push (ofString "te a\r\r"), .next, .push (ofString "\n")]
    LineBuffer.pushed operations = ofString "wRite " ++ ofString "a\r" ++ [carriageReturn, newline] ∧
    ∃ line, LineBuffer.total {} operations = ([line], []) ∧ parse line = .write (ofString "a\r") := by
  intro operations
  have hwire : LineBuffer.pushed operations
      = ofString "wRite " ++ ofString "a\r" ++ [carriageReturn, newline] := by decide
  have halike : Alike (ofString "wRite ") (ofString "WRITE ") := sameLetters_iff_alike.1 (by decide)
  obtain ⟨-, hinverts⟩ := parse_inverts_wire
  exact ⟨hwire, (hinverts _ _ operations halike (by decide) (by decide)).1 hwire⟩

end Command

end DeviceBroker
