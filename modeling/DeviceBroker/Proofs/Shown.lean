import DeviceBroker.Proofs.Nesting
import DeviceBroker.Settings.Document

/-!
# `Proofs.Shown` — the value of a setting as it may be written

A setting's value can be written in several ways: the characters of a text by themselves or by escapes, and
everything with blanks around it. However it is written, the reader of the setting reads this value.

The reader of a setting may also meet a value that is not one of that setting's. Then there is an error, or the
reader gets just as far as the value reaches. So what it does to the rest of a document can be told without asking
what the value is.

## Contents

* `Settings.Shows`, `Shows.isWritten` — **how a setting's value may be written**.
* `spells_escape`, `isNumber_toDigits`, `shows_written` — the way in which it is written is one of them.
* `Draft.fill`, `readField_shows` — **it is read as that value**.
* `Exact`, `exact_readField` — **a reader gets as far as the value reaches**.
-/

namespace DeviceBroker

namespace Json

/-! ## Texts as they are written -/

theorem digit?_digitChar : ∀ k < 16, Text.Hexadecimal.digit? (Nat.digitChar k) = some k := by
  decide

/-- A character is said by the way in which it is written. -/
theorem spells_escape (c : Char) {rest said : List Char} (h : Spells rest said) :
    Spells (Quoted.escape c ++ rest) (c :: said) := by
  unfold Quoted.escape
  split
  · exact .short rfl h
  · exact .short rfl h
  · exact .short rfl h
  · exact .short rfl h
  · exact .short rfl h
  · exact .short rfl h
  · exact .short rfl h
  · next hquote hbackslash _ _ _ _ _ =>
    split
    · next hcontrol =>
      -- a control character without a name is written by its number
      have hhex : Hex c.toNat ['0', '0', Nat.digitChar (c.toNat / 16), Nat.digitChar (c.toNat % 16)] := by
        have hnumber : ((0 * 16 + 0) * 16 + c.toNat / 16) * 16 + c.toNat % 16 = c.toNat := by omega
        have hdigits := @Hex.digits '0' '0' _ _ 0 0 _ _ rfl rfl (digit?_digitChar (c.toNat / 16) (by omega))
          (digit?_digitChar (c.toNat % 16) (by omega))
        rwa [hnumber] at hdigits
      have hchar : Char.ofNat c.toNat = c := Char.ofNat_toNat c
      have hspells := Spells.number hhex (by simp [isHighHalf]; omega) (by simp [isLowHalf]; omega) h
      rwa [hchar] at hspells
    · next hcontrol => exact .plain ⟨hquote, hbackslash, by simpa [isControl] using hcontrol⟩ h

theorem spells_flatMap (text : List Char) : Spells (text.flatMap Quoted.escape) text := by
  induction text with
  | nil => exact .nil
  | cons c rest ih => exact spells_escape c ih

theorem toList_quote (text : String) :
    (Quoted.quote text).toList = '"' :: (text.toList.flatMap Quoted.escape ++ ['"']) := by
  simp [Quoted.quote]

/-! ## Whole numbers as they are written -/

theorem digitChar_ne_zero : ∀ k < 10, 0 < k → Nat.digitChar k ≠ '0' := by
  decide

/-- Only zero begins with a zero. -/
theorem head?_toDigits {n : Nat} (h : 0 < n) : (Nat.toDigits 10 n).head? ≠ some '0' := by
  induction n using Nat.strongRecOn with
  | ind n ih =>
    by_cases hsmall : n < 10
    · rw [Nat.toDigits_of_lt_base hsmall]
      intro heq
      exact digitChar_ne_zero n hsmall h (Option.some.inj heq)
    · have hfront := ih (n / 10) (Nat.div_lt_self h (by decide)) (by omega)
      rw [Nat.toDigits_of_base_le (by decide) (Nat.le_of_not_lt hsmall)]
      cases hdigits : Nat.toDigits 10 (n / 10) with
      | nil => exact absurd hdigits Nat.toDigits_ne_nil
      | cons d tail =>
        rw [hdigits] at hfront
        exact hfront

theorem isNumber_toDigits (n : Nat) :
    IsNumber { whole := Nat.toDigits 10 n } (Nat.toDigits 10 n) := by
  have hdigits : IsDigits (Nat.toDigits 10 n) :=
    ⟨Nat.toDigits_ne_nil, fun c hc => Nat.isDigit_of_mem_toDigits (by decide) (by decide) hc⟩
  have hzero : (Nat.toDigits 10 n).head? = some '0' → (Nat.toDigits 10 n).length = 1 := by
    intro hhead
    by_cases h : 0 < n
    · exact absurd hhead (head?_toDigits h)
    · rw [Nat.eq_zero_of_not_pos h]
      rfl
  have hnumber := IsNumber.mk hdigits hzero .none .none
  rwa [List.append_nil, List.append_nil] at hnumber

theorem le_ofDigitChars (ds : List Char) (value : Nat) : value ≤ Nat.ofDigitChars 10 ds value := by
  induction ds generalizing value with
  | nil => exact Nat.le_refl _
  | cons d rest ih =>
    rw [Nat.ofDigitChars_cons]
    exact Nat.le_trans (by omega) (ih _)

/-- Digits add up to their number if that fits 64 bits. -/
theorem accumulate_eq {ds : List Char} {value : Nat} (h : Nat.ofDigitChars 10 ds value ≤ maxNatural) :
    accumulate value ds = (Nat.ofDigitChars 10 ds value, []) := by
  induction ds generalizing value with
  | nil => rfl
  | cons d rest ih =>
    rw [Nat.ofDigitChars_cons] at h ⊢
    have hnext : value * 10 + digitValue d = 10 * value + (d.toNat - '0'.toNat) := by
      rw [Nat.mul_comm, digitValue]
    rw [accumulate, hnext, if_neg (Nat.not_lt.2 (Nat.le_trans (le_ofDigitChars rest _) h)), ih h]

/-- **A number of 64 bits is read as itself.** -/
theorem readNumber_toDigits {n : Nat} (h : n ≤ maxNatural) {rest : List Char} (hrest : Ends rest) :
    readNumber false (Nat.toDigits 10 n ++ rest) = .ok (.natural n, rest) := by
  have hvalue : accumulate 0 (Nat.toDigits 10 n) = (n, []) := by
    have heq : Nat.ofDigitChars 10 (Nat.toDigits 10 n) 0 = n := Nat.ofDigitChars_ten_toDigits
    rw [accumulate_eq (by rwa [heq]), heq]
  unfold readNumber
  rw [scanNumber_append (isNumber_toDigits n) hrest]
  simp [Lexeme.value, hvalue]

end Json

namespace Settings

open Json

/-! ## Values of settings -/

/-- **How the value of a setting may be written.** -/
inductive Shows (settings : Settings) : Field → List Char → Prop
  | socketPath {inside : List Char} (h : Spells inside settings.socketPath.toList) :
      Shows settings .socketPath ('"' :: (inside ++ ['"']))
  | logFilter {inside : List Char} (h : Spells inside settings.logFilter.toList) :
      Shows settings .logFilter ('"' :: (inside ++ ['"']))
  | logFormat {inside : List Char} (h : Spells inside settings.logFormat.name.toList) :
      Shows settings .logFormat ('"' :: (inside ++ ['"']))
  | yes (h : settings.verbose = true) : Shows settings .verbose ['t', 'r', 'u', 'e']
  | no (h : settings.verbose = false) : Shows settings .verbose ['f', 'a', 'l', 's', 'e']
  | bufferCapacity : Shows settings .bufferCapacity (Nat.toDigits 10 settings.bufferCapacity.toNat)

theorem Shows.isWritten {settings : Settings} {field : Field} {text : List Char} (h : settings.Shows field text) :
    Written .value text := by
  cases h with
  | socketPath h => exact .string h.isString
  | logFilter h => exact .string h.isString
  | logFormat h => exact .string h.isString
  | yes => exact .yes
  | no => exact .no
  | bufferCapacity => exact .number (isNumber_toDigits _)

/-- **The value of a setting is written** in a way in which it may be. -/
theorem shows_written (settings : Settings) (field : Field) :
    settings.Shows field (settings.written field).toList := by
  cases field with
  | socketPath =>
    show settings.Shows .socketPath (Quoted.quote settings.socketPath).toList
    rw [toList_quote]
    exact .socketPath (spells_flatMap _)
  | logFilter =>
    show settings.Shows .logFilter (Quoted.quote settings.logFilter).toList
    rw [toList_quote]
    exact .logFilter (spells_flatMap _)
  | logFormat =>
    show settings.Shows .logFormat (Quoted.quote settings.logFormat.name).toList
    rw [toList_quote]
    exact .logFormat (spells_flatMap _)
  | verbose =>
    show settings.Shows .verbose (if settings.verbose then "true" else "false").toList
    cases h : settings.verbose with
    | true => exact .yes h
    | false => exact .no h
  | bufferCapacity =>
    show settings.Shows .bufferCapacity (toString settings.bufferCapacity.toNat).toList
    rw [Nat.toString_eq_repr, Nat.toList_repr]
    exact .bufferCapacity

/-- A draft with one more setting. -/
def Draft.fill (draft : Draft) (settings : Settings) : Field → Draft
  | .socketPath => { draft with socketPath := some settings.socketPath }
  | .logFilter => { draft with logFilter := some settings.logFilter }
  | .logFormat => { draft with logFormat := some settings.logFormat }
  | .verbose => { draft with verbose := some settings.verbose }
  | .bufferCapacity => { draft with bufferCapacity := some settings.bufferCapacity }

section Reading

variable {settings : Settings} {draft : Draft} {field : Field} {front text inside rest : List Char}

/-- A text in quotes is read as what it says. -/
theorem readString_quoted {said : String} (h : Spells inside said.toList) :
    readString [] (inside ++ ['"'] ++ rest) = .ok (said, rest) := by
  rw [List.append_assoc, List.singleton_append, readString_append h]
  simp

theorem readText_quoted {said : String} (hfront : Blanks front) (h : Spells inside said.toList) (expected : String) :
    readText expected (front ++ ('"' :: (inside ++ ['"']) ++ rest)) = .ok (said, rest) := by
  unfold readText
  rw [skipBlanks_append hfront, List.cons_append, skipBlanks_cons rfl]
  exact readString_quoted h

theorem readFormat_quoted {format : LogFormat} (hfront : Blanks front) (h : Spells inside format.name.toList) :
    readFormat (front ++ ('"' :: (inside ++ ['"']) ++ rest)) = .ok (format, rest) := by
  unfold readFormat
  rw [skipBlanks_append hfront, List.cons_append, skipBlanks_cons rfl]
  show readFormatName (inside ++ ['"'] ++ rest) = _
  unfold readFormatName
  rw [readString_quoted h]
  simp only [decodeFormatName, LogFormat.ofName?_name]

theorem readCapacity_toDigits (hfront : Blanks front) (hrest : Ends rest) (capacity : UInt64) :
    readCapacity (front ++ (Nat.toDigits 10 capacity.toNat ++ rest)) = .ok (capacity, rest) := by
  have hfits : capacity.toNat ≤ maxNatural := Nat.le_sub_one_of_lt capacity.toNat_lt
  have hnumber := readNumber_toDigits hfits hrest
  obtain ⟨d, tail, hdigits, hd⟩ := (isNumber_toDigits capacity.toNat).head
  rw [hdigits, List.cons_append] at hnumber ⊢
  have hsign : d ≠ '-' := ne_of_isDigit hd rfl
  unfold readCapacity
  rw [skipBlanks_append hfront, skipBlanks_cons (isBlank_digit hd)]
  dsimp only
  rw [if_pos (Or.inr hd), if_neg hsign, decide_eq_false hsign, hnumber]
  show Except.ok (UInt64.ofNat capacity.toNat, rest) = _
  rw [UInt64.ofNat_toNat]

/-- **A setting's value is read as that value**, however it is written, and nothing behind it is touched. -/
theorem readField_shows (hfront : Blanks front) (h : settings.Shows field text) (hrest : Ends rest) :
    readField draft field (front ++ (text ++ rest)) = .ok (draft.fill settings field, rest) := by
  cases h with
  | socketPath h => rw [readField, readText_quoted hfront h]; rfl
  | logFilter h => rw [readField, readText_quoted hfront h]; rfl
  | logFormat h => rw [readField, readFormat_quoted hfront h]; rfl
  | yes h =>
    unfold readField readBool
    rw [skipBlanks_append hfront, Draft.fill, h]
    rfl
  | no h =>
    unfold readField readBool
    rw [skipBlanks_append hfront, Draft.fill, h]
    rfl
  | bufferCapacity => rw [readField, readCapacity_toDigits hfront hrest]; rfl

end Reading

/-! ## Values of any kind -/

/-- **A reader that gets as far as the value reaches**, if it gets anywhere. -/
def Exact {α : Type} (read : List Char → Read α) : Prop :=
  ∀ front text rest value behind, Blanks front → Written .value text → Ends rest →
    read (front ++ (text ++ rest)) = .ok (value, behind) → behind = rest

theorem Exact.map {α β : Type} {read : List Char → Read α} (h : Exact read) (f : α → β) :
    Exact fun text => (read text).map fun (value, rest) => (f value, rest) := by
  intro front text rest value behind hfront hvalue hrest hread
  obtain ⟨⟨found, after⟩, hfound, hpair⟩ := map_eq_ok hread
  cases hpair
  exact h _ _ _ _ _ hfront hvalue hrest hfound

theorem exact_readText (expected : String) : Exact (readText expected) := by
  intro front text rest said behind hfront h _ hread
  unfold readText at hread
  rw [skipBlanks_append hfront, h.skipBlanks_eq] at hread
  split at hread
  · next tail heq =>
    obtain ⟨text, rfl, rfl⟩ := h.exists_cons heq
    obtain ⟨inside, hinside, rfl⟩ := h.of_quote
    rw [List.append_assoc] at hread
    exact readString_exact hinside hread
  · cases hread

theorem exact_readBool : Exact readBool := by
  intro front text rest value behind hfront h _ hread
  unfold readBool at hread
  rw [skipBlanks_append hfront, h.skipBlanks_eq] at hread
  split at hread
  · next tail heq =>
    obtain ⟨text, rfl, rfl⟩ := h.exists_cons heq
    obtain rfl := h.of_t
    cases hread
    rfl
  · next tail heq =>
    obtain ⟨text, rfl, rfl⟩ := h.exists_cons heq
    obtain rfl := h.of_f
    cases hread
    rfl
  · cases hread

theorem exact_readCapacity : Exact readCapacity := by
  intro front text rest value behind hfront h hrest hread
  unfold readCapacity at hread
  rw [skipBlanks_append hfront, h.skipBlanks_eq] at hread
  split at hread
  · cases hread
  · next c tail heq =>
    obtain ⟨text, rfl, rfl⟩ := h.exists_cons heq
    split at hread
    · next hc =>
      split at hread
      · cases hread
      · next number after hnumber =>
        obtain ⟨_, -, hpair⟩ := map_eq_ok hread
        cases hpair
        by_cases hsign : c = '-'
        · subst hsign
          obtain ⟨lexeme, hlexeme⟩ := h.of_minus
          exact readNumber_exact hlexeme hrest hnumber
        · rw [if_neg hsign] at hnumber
          obtain ⟨lexeme, hlexeme⟩ := h.of_digit (hc.resolve_left hsign)
          exact readNumber_exact hlexeme hrest hnumber
    · cases hread

theorem readFormatName_exact {inside rest behind : List Char} {format : LogFormat} (h : IsString inside)
    (hread : readFormatName (inside ++ '"' :: rest) = .ok (format, behind)) : behind = rest := by
  unfold readFormatName at hread
  split at hread
  · cases hread
  · next name after hname =>
    split at hread
    · cases hread
      exact readString_exact h hname
    · cases hread

theorem expect_append {blanks : List Char} (h : Blanks blanks) {c d : Char} (hd : isBlank d = false)
    (rest : List Char) : expect c (blanks ++ d :: rest) = if d = c then .ok rest else .error .malformed := by
  unfold expect
  rw [skipBlanks_append h, skipBlanks_cons hd]

/-- Behind the key of a format's object stands nothing but nothing, and the object ends. -/
theorem readNull_exact {text rest behind : List Char} {d : Char} (h : Written .padded text)
    (hread : readNull (text ++ d :: rest) = .ok behind) : ∃ back, Blanks back ∧ behind = back ++ d :: rest := by
  cases h with
  | @padded front text back hfront hvalue hback =>
    unfold readNull at hread
    rw [List.append_assoc, List.append_assoc, skipBlanks_append hfront, hvalue.skipBlanks_eq] at hread
    split at hread
    · next tail heq =>
      obtain ⟨text, rfl, rfl⟩ := hvalue.exists_cons heq
      obtain rfl := hvalue.of_n
      cases hread
      exact ⟨back, hback, rfl⟩
    · cases hread

/-- An object that is read as a format has one member and ends behind it. -/
theorem readFormatObject_member {text rest behind : List Char} {d : Char} {format : LogFormat}
    (h : Written .member text) (hd : isBlank d = false)
    (hread : readFormatObject (text ++ d :: rest) = .ok (format, behind)) : d = '}' ∧ behind = rest := by
  cases h with
  | @member front key back text hfront hkey hback hvalue =>
    unfold readFormatObject at hread
    obtain ⟨⟨named, r₁⟩, h₁, hread⟩ := bind_eq_ok hread
    obtain ⟨r₂, h₂, hread⟩ := bind_eq_ok hread
    obtain ⟨r₃, h₃, hread⟩ := bind_eq_ok hread
    obtain ⟨r₄, h₄, hread⟩ := bind_eq_ok hread
    cases hread
    unfold readFormatKey at h₁
    simp only [List.append_assoc, List.cons_append] at h₁
    rw [skipBlanks_append hfront, skipBlanks_cons rfl] at h₁
    obtain rfl := readFormatName_exact hkey h₁
    rw [expect_append hback rfl, if_pos rfl] at h₂
    cases h₂
    obtain ⟨tail, htail, rfl⟩ := readNull_exact hvalue h₃
    rw [expect_append htail hd] at h₄
    split at h₄
    · next hbrace =>
      cases h₄
      exact ⟨hbrace, rfl⟩
    · cases h₄

theorem readFormatObject_exact {inside rest behind : List Char} {format : LogFormat} (h : Written .members inside)
    (hread : readFormatObject (inside ++ '}' :: rest) = .ok (format, behind)) : behind = rest := by
  cases h with
  | lastMember hmember => exact (readFormatObject_member hmember rfl hread).2
  | memberThen hmember _ =>
    rw [List.append_assoc, List.cons_append] at hread
    have hcomma := (readFormatObject_member hmember rfl hread).1
    cases hcomma

theorem exact_readFormat : Exact readFormat := by
  intro front text rest format behind hfront h _ hread
  unfold readFormat at hread
  rw [skipBlanks_append hfront, h.skipBlanks_eq] at hread
  split at hread
  · cases hread
  · next tail heq =>
    obtain ⟨text, rfl, rfl⟩ := h.exists_cons heq
    obtain ⟨inside, hinside, rfl⟩ := h.of_quote
    rw [List.append_assoc] at hread
    exact readFormatName_exact hinside hread
  · next tail heq =>
    obtain ⟨text, rfl, rfl⟩ := h.exists_cons heq
    rcases h.of_brace with ⟨blanks, hblanks, rfl⟩ | ⟨inside, hinside, rfl⟩
    · -- an empty object names no format
      rw [List.append_assoc] at hread
      unfold readFormatObject readFormatKey at hread
      rw [skipBlanks_append hblanks, List.singleton_append, skipBlanks_cons rfl] at hread
      cases hread
    · rw [List.append_assoc] at hread
      exact readFormatObject_exact hinside hread
  · cases hread

/-- **The reader of a setting gets as far as the value reaches**, whatever value it is. -/
theorem exact_readField (draft : Draft) (field : Field) : Exact (readField draft field) := by
  cases field with
  | socketPath => exact (exact_readText pathExpected).map fun value => { draft with socketPath := some value }
  | logFilter => exact (exact_readText textExpected).map fun value => { draft with logFilter := some value }
  | logFormat => exact exact_readFormat.map fun value => { draft with logFormat := some value }
  | verbose => exact exact_readBool.map fun value => { draft with verbose := some value }
  | bufferCapacity => exact exact_readCapacity.map fun value => { draft with bufferCapacity := some value }

/-- A setting that was read is in the draft, and what was in it stays. -/
theorem has_readField {draft next : Draft} {field : Field} {text behind : List Char}
    (h : readField draft field text = .ok (next, behind)) (other : Field) :
    next.has other = (other == field || draft.has other) := by
  cases field <;> obtain ⟨⟨value, after⟩, -, hpair⟩ := map_eq_ok h <;> cases hpair <;> cases other <;> rfl

end Settings

end DeviceBroker
