import DeviceBroker.Json.Token

/-!
# `Proofs.Leaves` — strings and numbers as they may be written

The readers of leaves are programs; here stands the notation that they read, apart from them. A string's inside is
characters and escapes, and it *says* a text if no half of a character stands alone in it. A number is digits, with
a fraction or an exponent or without.

A leaf is read off the front of a text up to where it ends and no further, whatever stands behind it; only behind a
number there must be nothing that could belong to it.

## Contents

* `Blanks`, `skipBlanks_append` — what may stand between tokens.
* `Hex`, `IsString`, `Spells` — the insides of strings, and what they say.
* `skipString_append`, `readString_append`, `readString_exact` — **strings end at their quote**.
* `IsDigits`, `Fraction`, `Exponent`, `IsNumber` — numbers.
* `Ends`, `scanNumber_append` — **numbers end where nothing continues them**.
-/

namespace DeviceBroker.Json

/-! ## Blanks -/

/-- A text of blanks alone. -/
def Blanks (text : List Char) : Prop :=
  ∀ c ∈ text, isBlank c = true

theorem blanks_nil : Blanks [] :=
  nofun

theorem skipBlanks_append {blanks : List Char} (h : Blanks blanks) (text : List Char) :
    skipBlanks (blanks ++ text) = skipBlanks text :=
  List.dropWhile_append_of_pos h

theorem skipBlanks_cons {c : Char} (h : isBlank c = false) (text : List Char) :
    skipBlanks (c :: text) = c :: text :=
  List.dropWhile_cons_of_neg (by simp [h])

/-! ## Strings -/

theorem skipString_quote (rest : List Char) : skipString ('"' :: rest) = .ok rest := by
  rw [skipString]

theorem readString_quote (seen rest : List Char) :
    readString seen ('"' :: rest) = .ok (String.ofList seen.reverse, rest) := by
  rw [readString]

/-- Four digits in base sixteen, and their number. -/
inductive Hex : Nat → List Char → Prop
  | digits {a b c d : Char} {x y z w : Nat} (ha : Text.Hexadecimal.digit? a = some x)
      (hb : Text.Hexadecimal.digit? b = some y) (hc : Text.Hexadecimal.digit? c = some z)
      (hd : Text.Hexadecimal.digit? d = some w) : Hex (((x * 16 + y) * 16 + z) * 16 + w) [a, b, c, d]

/-- A character that stands in a string by itself. -/
structure IsPlain (c : Char) : Prop where
  noQuote : c ≠ '"'
  noBackslash : c ≠ '\\'
  noControl : isControl c = false

/-- **The inside of a string**: characters and escapes. -/
inductive IsString : List Char → Prop
  | nil : IsString []
  | plain {c : Char} {rest : List Char} (hc : IsPlain c) (h : IsString rest) : IsString (c :: rest)
  | short {e c : Char} {rest : List Char} (he : simpleEscape? e = some c) (h : IsString rest) :
      IsString ('\\' :: e :: rest)
  | number {n : Nat} {digits rest : List Char} (hn : Hex n digits) (h : IsString rest) :
      IsString ('\\' :: 'u' :: (digits ++ rest))

/-- **What the inside of a string says.** The halves of a character written as two escapes stand together. -/
inductive Spells : List Char → List Char → Prop
  | nil : Spells [] []
  | plain {c : Char} {rest said : List Char} (hc : IsPlain c) (h : Spells rest said) :
      Spells (c :: rest) (c :: said)
  | short {e c : Char} {rest said : List Char} (he : simpleEscape? e = some c) (h : Spells rest said) :
      Spells ('\\' :: e :: rest) (c :: said)
  | number {n : Nat} {digits rest said : List Char} (hn : Hex n digits) (hhigh : isHighHalf n = false)
      (hlow : isLowHalf n = false) (h : Spells rest said) :
      Spells ('\\' :: 'u' :: (digits ++ rest)) (Char.ofNat n :: said)
  | pair {n m : Nat} {high low rest said : List Char} (hn : Hex n high) (hhigh : isHighHalf n = true)
      (hm : Hex m low) (hlow : isLowHalf m = true) (h : Spells rest said) :
      Spells ('\\' :: 'u' :: (high ++ '\\' :: 'u' :: (low ++ rest)))
        (Char.ofNat ((n - 0xD800) * 1024 + (m - 0xDC00) + 0x10000) :: said)

/-- What says something is a string. -/
theorem Spells.isString {inside said : List Char} (h : Spells inside said) : IsString inside := by
  induction h with
  | nil => exact .nil
  | plain hc _ ih => exact .plain hc ih
  | short he _ ih => exact .short he ih
  | number hn _ _ _ ih => exact .number hn ih
  | pair hn _ hm _ _ ih => exact .number hn (.number hm ih)

theorem Hex.hexEscape_append {n : Nat} {digits : List Char} (h : Hex n digits) (rest : List Char) :
    hexEscape (digits ++ rest) = .ok (n, rest) := by
  cases h with
  | digits ha hb hc hd =>
    show hexEscape (_ :: _ :: _ :: _ :: rest) = _
    simp only [hexEscape, ha, hb, hc, hd]

/-- No escape by a number is an escape by a letter. -/
theorem ne_u_of_simpleEscape? {e c : Char} (h : simpleEscape? e = some c) : e ≠ 'u' := by
  rintro rfl
  cases h

theorem not_isLowHalf_of_isHighHalf {n : Nat} (h : isHighHalf n = true) : isLowHalf n = false := by
  simp only [isHighHalf, isLowHalf, Bool.and_eq_true, decide_eq_true_eq, Bool.and_eq_false_iff,
    decide_eq_false_iff_not] at h ⊢
  omega

section Skipping

variable {c e : Char} {rest : List Char}

theorem skipString_plain (hc : IsPlain c) : skipString (c :: rest) = skipString rest := by
  rw [skipString]
  · rw [if_neg (by simp [hc.noControl])]
  · exact fun h => absurd h hc.noQuote
  · exact fun h => absurd h hc.noBackslash
  · exact fun _ h => absurd h hc.noBackslash
  · exact fun _ _ h => absurd h hc.noBackslash

theorem skipString_short (he : simpleEscape? e = some c) : skipString ('\\' :: e :: rest) = skipString rest := by
  rw [skipString]
  · rw [if_pos (by simp [he])]
  · exact ne_u_of_simpleEscape? he

theorem skipString_number {text : List Char} {n : Nat} (h : hexEscape text = .ok (n, rest)) :
    skipString ('\\' :: 'u' :: text) = skipString rest := by
  rw [skipString]
  split
  · next fault hfault =>
    rw [h] at hfault
    cases hfault
  · next found hfound =>
    rw [h] at hfound
    cases hfound
    rfl

end Skipping

/-- **A string is skipped** up to its closing quote. -/
theorem skipString_append {inside : List Char} (h : IsString inside) (rest : List Char) :
    skipString (inside ++ '"' :: rest) = .ok rest := by
  induction h with
  | nil => exact skipString_quote rest
  | plain hc _ ih => exact (skipString_plain hc).trans ih
  | short he _ ih => exact (skipString_short he).trans ih
  | @number n digits behind hn _ ih =>
    show skipString ('\\' :: 'u' :: ((digits ++ behind) ++ '"' :: rest)) = .ok rest
    rw [List.append_assoc]
    exact (skipString_number (hn.hexEscape_append _)).trans ih

/-! ## Reading strings -/

section Reading

variable {c e : Char} {seen rest text : List Char}

theorem readString_plain (hc : IsPlain c) : readString seen (c :: rest) = readString (c :: seen) rest := by
  rw [readString]
  · rw [if_neg (by simp [hc.noControl])]
  · exact fun h => absurd h hc.noQuote
  · exact fun h => absurd h hc.noBackslash
  · exact fun _ h => absurd h hc.noBackslash
  · exact fun _ _ h => absurd h hc.noBackslash

theorem readString_short (he : simpleEscape? e = some c) :
    readString seen ('\\' :: e :: rest) = readString (c :: seen) rest := by
  rw [readString]
  · rw [he]
  · exact ne_u_of_simpleEscape? he

theorem readString_number (h : unicodeEscape text = .ok (c, rest)) :
    readString seen ('\\' :: 'u' :: text) = readString (c :: seen) rest := by
  rw [readString]
  split
  · next fault hfault =>
    rw [h] at hfault
    cases hfault
  · next found hfound =>
    rw [h] at hfound
    cases hfound
    rfl

theorem readString_fault {fault : ReadError} (h : unicodeEscape text = .error fault) :
    readString seen ('\\' :: 'u' :: text) = .error fault := by
  rw [readString]
  split
  · next other hother =>
    rw [h] at hother
    cases hother
    rfl
  · next found hfound =>
    rw [h] at hfound
    cases hfound

end Reading

theorem unicodeEscape_append {n : Nat} {digits : List Char} (hn : Hex n digits) (hhigh : isHighHalf n = false)
    (hlow : isLowHalf n = false) (rest : List Char) :
    unicodeEscape (digits ++ rest) = .ok (Char.ofNat n, rest) := by
  simp only [unicodeEscape, hn.hexEscape_append, hhigh, hlow, Bool.false_eq_true, if_false]

theorem unicodeEscape_pair {n m : Nat} {high low : List Char} (hn : Hex n high) (hhigh : isHighHalf n = true)
    (hm : Hex m low) (hlow : isLowHalf m = true) (rest : List Char) :
    unicodeEscape (high ++ '\\' :: 'u' :: (low ++ rest))
      = .ok (Char.ofNat ((n - 0xD800) * 1024 + (m - 0xDC00) + 0x10000), rest) := by
  simp only [unicodeEscape, lowHalf, hn.hexEscape_append, hm.hexEscape_append, hhigh, hlow,
    not_isLowHalf_of_isHighHalf hhigh, Bool.false_eq_true, if_false, if_true]

/-- **A string is read as what it says**, up to its closing quote. -/
theorem readString_append {inside said : List Char} (h : Spells inside said) (seen rest : List Char) :
    readString seen (inside ++ '"' :: rest) = .ok (String.ofList (seen.reverse ++ said), rest) := by
  induction h generalizing seen with
  | nil =>
    rw [List.append_nil]
    exact readString_quote seen rest
  | @plain c inside said hc _ ih =>
    refine ((readString_plain hc).trans (ih (c :: seen))).trans ?_
    rw [List.reverse_cons, List.append_assoc, List.singleton_append]
  | @short e c inside said he _ ih =>
    refine ((readString_short he).trans (ih (c :: seen))).trans ?_
    rw [List.reverse_cons, List.append_assoc, List.singleton_append]
  | @number n digits inside said hn hhigh hlow _ ih =>
    show readString seen ('\\' :: 'u' :: ((digits ++ inside) ++ '"' :: rest)) = _
    rw [List.append_assoc, readString_number (unicodeEscape_append hn hhigh hlow _), ih, List.reverse_cons,
      List.append_assoc, List.singleton_append]
  | @pair n m high low inside said hn hhigh hm hlow _ ih =>
    show readString seen ('\\' :: 'u' :: ((high ++ '\\' :: 'u' :: (low ++ inside)) ++ '"' :: rest)) = _
    rw [List.append_assoc, List.cons_append, List.cons_append, List.append_assoc,
      readString_number (unicodeEscape_pair hn hhigh hm hlow _), ih, List.reverse_cons, List.append_assoc,
      List.singleton_append]

/-- The second half of a character ends where an escape inside the string ends. -/
theorem lowHalf_exact {inside rest behind : List Char} {n : Nat} (h : IsString inside)
    (hread : lowHalf (inside ++ '"' :: rest) = .ok (n, behind)) :
    ∃ inner, IsString inner ∧ behind = inner ++ '"' :: rest := by
  cases h with
  | nil => cases hread
  | @plain c inside hc hinside =>
    simp only [List.cons_append] at hread
    unfold lowHalf at hread
    split at hread
    · next heq => exact absurd (List.cons.inj heq).1 hc.noBackslash
    · cases hread
    · cases hread
    · cases hread
  | @short e c inside he hinside =>
    simp only [List.cons_append] at hread
    unfold lowHalf at hread
    split at hread
    · next heq =>
      injection heq with _ heq
      injection heq with heq _
      exact absurd heq (ne_u_of_simpleEscape? he)
    · cases hread
    · cases hread
    · cases hread
  | @number m digits inside hm hinside =>
    simp only [List.cons_append, List.append_assoc, lowHalf, hm.hexEscape_append] at hread
    split at hread
    · cases hread
      exact ⟨inside, hinside, rfl⟩
    · cases hread

/-- An escape inside a string is read up to where an escape ends. -/
theorem unicodeEscape_exact {n : Nat} {digits inside rest behind : List Char} {c : Char} (hn : Hex n digits)
    (h : IsString inside) (hread : unicodeEscape (digits ++ (inside ++ '"' :: rest)) = .ok (c, behind)) :
    ∃ inner, IsString inner ∧ behind = inner ++ '"' :: rest := by
  simp only [unicodeEscape, hn.hexEscape_append] at hread
  split at hread
  · cases hread
  · split at hread
    · split at hread
      · cases hread
      · next hlow =>
        obtain ⟨-, hbehind⟩ := Prod.mk.inj (Except.ok.inj hread)
        rw [← hbehind]
        exact lowHalf_exact h hlow
    · cases hread
      exact ⟨inside, h, rfl⟩

/-- **A string that is read ends at its quote**, whatever it says. -/
theorem readString_exact {seen inside rest behind : List Char} {said : String} (h : IsString inside)
    (hread : readString seen (inside ++ '"' :: rest) = .ok (said, behind)) : behind = rest := by
  -- two escapes may be read as one character, so the induction is on the length and not on the string's parts
  induction hlength : inside.length using Nat.strongRecOn generalizing inside seen with
  | ind length ih =>
    subst hlength
    cases h with
    | nil =>
      cases (readString_quote seen rest).symm.trans hread
      rfl
    | @plain c inside hc hinside =>
      exact ih _ (Nat.lt_succ_self _) hinside ((readString_plain hc).symm.trans hread) rfl
    | @short e c inside he hinside =>
      exact ih _ (Nat.lt_succ_of_lt (Nat.lt_succ_self _)) hinside ((readString_short he).symm.trans hread) rfl
    | @number n digits inside hn hinside =>
      cases hescape : unicodeEscape (digits ++ (inside ++ '"' :: rest)) with
      | error fault =>
        rw [← List.append_assoc] at hescape
        have hfault := (readString_fault hescape).symm.trans hread
        cases hfault
      | ok found =>
        obtain ⟨c, tail⟩ := found
        obtain ⟨inner, hinner, rfl⟩ := unicodeEscape_exact hn hinside hescape
        have hshorter := length_unicodeEscape_lt hescape
        rw [← List.append_assoc] at hescape
        refine ih _ ?_ hinner ((readString_number hescape).symm.trans hread) rfl
        simp only [List.length_cons, List.length_append] at hshorter ⊢
        omega

/-! ## Numbers -/

/-- One digit or more. -/
structure IsDigits (text : List Char) : Prop where
  ne_nil : text ≠ []
  all : ∀ c ∈ text, c.isDigit = true

/-- A fraction, or none: its digits, and how it is written. -/
inductive Fraction : List Char → List Char → Prop
  | none : Fraction [] []
  | some {ds : List Char} (h : IsDigits ds) : Fraction ds ('.' :: ds)

/-- An exponent, or none: its sign and digits, and how it is written. -/
inductive Exponent : Option (Bool × List Char) → List Char → Prop
  | none : Exponent none []
  | bare {mark : Char} {ds : List Char} (hmark : mark = 'e' ∨ mark = 'E') (h : IsDigits ds) :
      Exponent (some (false, ds)) (mark :: ds)
  | plus {mark : Char} {ds : List Char} (hmark : mark = 'e' ∨ mark = 'E') (h : IsDigits ds) :
      Exponent (some (false, ds)) (mark :: '+' :: ds)
  | minus {mark : Char} {ds : List Char} (hmark : mark = 'e' ∨ mark = 'E') (h : IsDigits ds) :
      Exponent (some (true, ds)) (mark :: '-' :: ds)

/-- **A number without its sign**, and how it is written. A zero in front stands alone. -/
inductive IsNumber : Lexeme → List Char → Prop
  | mk {whole fraction point power : List Char} {exponent : Option (Bool × List Char)} (hwhole : IsDigits whole)
      (hzero : whole.head? = some '0' → whole.length = 1) (hpoint : Fraction fraction point)
      (hpower : Exponent exponent power) : IsNumber { whole, fraction, exponent } (whole ++ (point ++ power))

/-- Whether a character may go on with a number. -/
def continuesNumber (c : Char) : Bool :=
  c.isDigit || ['.', 'e', 'E'].contains c

/-- **What a number may end before.** -/
def Ends (rest : List Char) : Prop :=
  ∀ c, rest.head? = some c → continuesNumber c = false

theorem Ends.noDigit {rest : List Char} (h : Ends rest) {c : Char} (hc : rest.head? = some c) :
    c.isDigit = false := by
  have hcontinues := h c hc
  simp only [continuesNumber, Bool.or_eq_false_iff] at hcontinues
  exact hcontinues.1

theorem Ends.noMark {rest : List Char} (h : Ends rest) {c : Char} (hc : rest.head? = some c) :
    c ≠ '.' ∧ c ≠ 'e' ∧ c ≠ 'E' := by
  have hcontinues := h c hc
  refine ⟨?_, ?_, ?_⟩ <;> rintro rfl <;> cases hcontinues

theorem digits_append {ds rest : List Char} (h : IsDigits ds)
    (hrest : ∀ c, rest.head? = some c → c.isDigit = false) (missing : ReadError) :
    digits missing (ds ++ rest) = .ok (ds, rest) := by
  have htake : (ds ++ rest).takeWhile Char.isDigit = ds := by
    rw [List.takeWhile_append_of_pos h.all]
    cases rest with
    | nil => rw [List.takeWhile_nil, List.append_nil]
    | cons c tail => rw [List.takeWhile_cons_of_neg (by simp [hrest c rfl]), List.append_nil]
  have hdrop : (ds ++ rest).dropWhile Char.isDigit = rest := by
    rw [List.dropWhile_append_of_pos h.all]
    cases rest with
    | nil => rfl
    | cons c tail => rw [List.dropWhile_cons_of_neg (by simp [hrest c rfl])]
  cases ds with
  | nil => exact absurd rfl h.ne_nil
  | cons d tail =>
    unfold digits
    rw [List.cons_append] at htake hdrop ⊢
    dsimp only
    rw [if_pos (h.all d List.mem_cons_self), htake, hdrop]

theorem wholePart_append {whole rest : List Char} (h : IsDigits whole)
    (hzero : whole.head? = some '0' → whole.length = 1) (hrest : ∀ c, rest.head? = some c → c.isDigit = false)
    (missing : ReadError) : wholePart missing (whole ++ rest) = .ok (whole, rest) := by
  unfold wholePart
  rw [digits_append h hrest]
  refine if_neg ?_
  rintro ⟨hhead, hlength⟩
  have hone := hzero hhead
  omega

theorem fractionPart_append {fraction point rest : List Char} (h : Fraction fraction point)
    (hrest : ∀ c, rest.head? = some c → c.isDigit = false ∧ c ≠ '.') (missing : ReadError) :
    fractionPart missing (point ++ rest) = .ok (fraction, rest) := by
  cases h with
  | none =>
    rw [List.nil_append]
    unfold fractionPart
    split
    · exact absurd rfl (hrest '.' rfl).2
    · rfl
  | some hdigits => exact digits_append hdigits (fun c hc => (hrest c hc).1) missing

theorem exponentSign_digits {ds : List Char} (h : IsDigits ds) (rest : List Char) :
    exponentSign (ds ++ rest) = (false, ds ++ rest) := by
  cases ds with
  | nil => exact absurd rfl h.ne_nil
  | cons d tail =>
    have hd := h.all d List.mem_cons_self
    rw [List.cons_append]
    unfold exponentSign
    split
    · next heq =>
      cases heq
      cases hd
    · next heq =>
      cases heq
      cases hd
    · rfl

theorem exponentPart_of_sign {mark : Char} {tail ds rest : List Char} {negative : Bool}
    (hmark : mark = 'e' ∨ mark = 'E') (hsign : exponentSign tail = (negative, ds ++ rest)) (h : IsDigits ds)
    (hrest : Ends rest) (missing : ReadError) :
    exponentPart missing (mark :: tail) = .ok (some (negative, ds), rest) := by
  unfold exponentPart
  dsimp only
  rw [if_pos hmark, hsign]
  dsimp only
  rw [digits_append h fun c hc => hrest.noDigit hc]

theorem exponentPart_append {exponent : Option (Bool × List Char)} {power rest : List Char}
    (h : Exponent exponent power) (hrest : Ends rest) (missing : ReadError) :
    exponentPart missing (power ++ rest) = .ok (exponent, rest) := by
  cases h with
  | none =>
    cases rest with
    | nil => rfl
    | cons c tail =>
      have hc := hrest.noMark rfl
      exact if_neg fun hmark => hmark.elim hc.2.1 hc.2.2
  | bare hmark hdigits => exact exponentPart_of_sign hmark (exponentSign_digits hdigits rest) hdigits hrest missing
  | plus hmark hdigits => exact exponentPart_of_sign hmark rfl hdigits hrest missing
  | minus hmark hdigits => exact exponentPart_of_sign hmark rfl hdigits hrest missing

/-- An exponent begins with its mark. -/
theorem Exponent.head {exponent : Option (Bool × List Char)} {power rest : List Char} (h : Exponent exponent power)
    (hrest : Ends rest) {c : Char} (hc : (power ++ rest).head? = some c) : c.isDigit = false ∧ c ≠ '.' := by
  cases h with
  | none => exact ⟨hrest.noDigit hc, (hrest.noMark hc).1⟩
  | bare hmark _ =>
    cases hc
    rcases hmark with rfl | rfl <;> decide
  | plus hmark _ =>
    cases hc
    rcases hmark with rfl | rfl <;> decide
  | minus hmark _ =>
    cases hc
    rcases hmark with rfl | rfl <;> decide

/-- **A number is scanned** up to where nothing continues it. -/
theorem scanNumber_append {lexeme : Lexeme} {text rest : List Char} (h : IsNumber lexeme text) (hrest : Ends rest)
    (missing : ReadError) : scanNumber missing (text ++ rest) = .ok (lexeme, rest) := by
  cases h with
  | @mk whole fraction point power exponent hwhole hzero hpoint hpower =>
    have hbehind : ∀ c, (point ++ (power ++ rest)).head? = some c → c.isDigit = false := by
      intro c hc
      cases hpoint with
      | none => exact (hpower.head hrest hc).1
      | some _ =>
        cases hc
        rfl
    unfold scanNumber
    rw [List.append_assoc, List.append_assoc, wholePart_append hwhole hzero hbehind]
    dsimp only
    rw [fractionPart_append hpoint fun c hc => hpower.head hrest hc]
    dsimp only
    rw [exponentPart_append hpower hrest]

theorem skipNumber_append {lexeme : Lexeme} {text rest : List Char} (h : IsNumber lexeme text)
    (hrest : Ends rest) : skipNumber (text ++ rest) = .ok rest := by
  unfold skipNumber
  rw [scanNumber_append h hrest]
  rfl

/-- A number that is read ends where it is scanned to, whatever it is. -/
theorem readNumber_exact {lexeme : Lexeme} {text rest behind : List Char} {negative : Bool} {number : Number}
    (h : IsNumber lexeme text) (hrest : Ends rest)
    (hread : readNumber negative (text ++ rest) = .ok (number, behind)) : behind = rest := by
  unfold readNumber at hread
  rw [scanNumber_append h hrest] at hread
  dsimp only at hread
  split at hread
  · cases hread
    rfl
  · cases hread

/-- A number begins with a digit. -/
theorem IsNumber.head {lexeme : Lexeme} {text : List Char} (h : IsNumber lexeme text) :
    ∃ d tail, text = d :: tail ∧ d.isDigit = true := by
  cases h with
  | @mk whole fraction point power exponent hwhole hzero hpoint hpower =>
    cases whole with
    | nil => exact absurd rfl hwhole.ne_nil
    | cons d tail => exact ⟨d, tail ++ (point ++ power), rfl, hwhole.all d List.mem_cons_self⟩

end DeviceBroker.Json
