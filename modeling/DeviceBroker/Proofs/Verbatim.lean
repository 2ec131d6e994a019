import DeviceBroker.Settings.Variable
import Mathlib.Data.List.TakeWhile

/-!
# `Proofs.Verbatim` — texts that a variable says as they stand

What a variable says is guessed from the form of its text, and most texts have no form but their own. Here it is
told exactly which ones: a text stands for itself unless blanks surround it, a comma makes it a list, it is a
truth word or a number, or it is a whole value in brackets or quotes.

A text in quotes never says itself, since what it says is shorter. That needs a look at the backslashes, because
the first one puts the beginning of the text in the place of what was read: that beginning has no more characters
than were read.

## Contents

* `trim_eq_self_iff`, `trim_of_all` — texts without blanks around them.
* `isNumber`, `isEnclosed`, `isNumeral_of_isNumber` — the forms of a text.
* `length_value_le`, `length_value_lt` — what is said is no longer than what says it, and shorter in quotes.
* `value_of_bare` — a text without brackets and quotes.
* `StandsForItself`, `read_eq_self_iff` — **the texts that are said as they stand**.
* `read_of_natural` — a text of digits is a number.
-/

namespace DeviceBroker

namespace Text

/-! ## Blanks around a text -/

theorem length_trimEnd_le (text : List Char) : (trimEnd text).length ≤ text.length := by
  unfold trimEnd
  rw [List.length_reverse]
  exact Nat.le_trans (List.length_dropWhile_le _ _) (Nat.le_of_eq List.length_reverse)

theorem length_trim_le (text : List Char) : (trim text).length ≤ text.length :=
  Nat.le_trans (length_trimEnd_le _) (List.length_dropWhile_le _ _)

/-- Trimming either shortens a text or leaves it alone. -/
theorem trim_eq_of_length {text : List Char} (h : text.length ≤ (trim text).length) : trim text = text := by
  have hstart : trimStart text = text := by
    refine (List.dropWhile_suffix _).eq_of_length (Nat.le_antisymm (List.length_dropWhile_le _ _) ?_)
    exact Nat.le_trans h (length_trimEnd_le _)
  unfold trim at h ⊢
  rw [hstart] at h ⊢
  unfold trimEnd at h ⊢
  rw [List.length_reverse] at h
  have hend : text.reverse.dropWhile isBlank = text.reverse := by
    refine (List.dropWhile_suffix _).eq_of_length (Nat.le_antisymm (List.length_dropWhile_le _ _) ?_)
    rwa [List.length_reverse]
  rw [hend, List.reverse_reverse]

/-- A text that is not blank at its ends is left alone, and no other one is. -/
theorem trim_eq_self_iff {text : List Char} :
    trim text = text ↔ (∀ c, text.head? = some c → isBlank c = false) ∧
      ∀ c, text.getLast? = some c → isBlank c = false := by
  constructor
  · intro h
    have hstart : trimStart text = text := by
      refine (List.dropWhile_suffix _).eq_of_length (Nat.le_antisymm (List.length_dropWhile_le _ _) ?_)
      have hlength := length_trimEnd_le (trimStart text)
      rwa [show trimEnd (trimStart text) = text from h] at hlength
    have hend : text.reverse.dropWhile isBlank = text.reverse := by
      have hreverse := congrArg List.reverse h
      unfold trim trimEnd at hreverse
      rwa [hstart, List.reverse_reverse] at hreverse
    constructor
    · intro c hc
      have hhead := List.head?_dropWhile_not isBlank text
      rwa [show text.dropWhile isBlank = text from hstart, hc] at hhead
    · intro c hc
      rw [← List.head?_reverse] at hc
      have hhead := List.head?_dropWhile_not isBlank text.reverse
      rwa [hend, hc] at hhead
  · rintro ⟨hhead, hlast⟩
    have hstart : trimStart text = text := by
      cases text with
      | nil => rfl
      | cons c rest => exact List.dropWhile_cons_of_neg (by simp [hhead c rfl])
    unfold trim
    rw [hstart]
    unfold trimEnd
    cases hreverse : text.reverse with
    | nil => simp [List.reverse_eq_nil_iff.1 hreverse]
    | cons c rest =>
      have hc : text.getLast? = some c := by rw [← List.head?_reverse, hreverse]; rfl
      rw [List.dropWhile_cons_of_neg (by simp [hlast c hc]), ← hreverse, List.reverse_reverse]

theorem trim_of_all {text : List Char} (h : ∀ c ∈ text, isBlank c = false) : trim text = text :=
  trim_eq_self_iff.2 ⟨fun c hc => h c (List.mem_of_head? hc), fun c hc => h c (List.mem_of_getLast? hc)⟩

/-- A letter, a digit or another visible character of ASCII is not blank. -/
theorem isBlank_of_visible {c : Char} (h : '!'.toNat ≤ c.toNat ∧ c.toNat ≤ '~'.toNat) : isBlank c = false := by
  have hlow : 33 ≤ c.toNat := h.1
  have hhigh : c.toNat ≤ 126 := h.2
  simp only [isBlank, inRanges, blankRanges, List.any_cons, List.any_nil, Bool.or_false, Bool.or_eq_false_iff,
    Bool.and_eq_false_iff, decide_eq_false_iff_not]
  omega

/-! ## Parts of a text -/

/-- The front of a text has no more characters than bytes. -/
theorem length_splitAt_le {here place : Nat} {text front back : List Char}
    (h : splitAt here place text = .ok (front, back)) : front.length ≤ place - here := by
  induction text generalizing here front with
  | nil => cases h; exact Nat.zero_le _
  | cons c rest ih =>
    rw [splitAt] at h
    split at h
    · cases h
      exact Nat.zero_le _
    · split at h
      · cases h
      · next hhere hfits =>
        split at h
        · cases h
        · next found =>
          cases h
          have hsize := c.utf8Size_pos
          have hrest := ih found
          rw [List.length_cons]
          omega

theorem length_between_le {text part : List Char} {stop : Nat} (h : between text 0 stop = .ok part) :
    part.length ≤ stop := by
  unfold between at h
  split at h
  · cases h
  · split at h
    · cases h
    · next found =>
      cases h
      exact length_splitAt_le found

end Text

namespace Settings.Variable

/-! ## What is said is no longer than what says it -/

theorem length_say_le {whole said next : List Char} {index : Nat} {isFirst : Bool} {meant : Option Char}
    (hsaid : said.length ≤ index) (h : say (atBackslash whole index isFirst said) meant = .ok next) :
    next.length ≤ index + 1 := by
  have hback : ∀ back, atBackslash whole index isFirst said = .ok back → back.length ≤ index := by
    intro back hback
    unfold atBackslash at hback
    split at hback
    · cases hback
    · next front hfront =>
      cases hback
      split
      · rw [List.length_reverse]
        exact Text.length_between_le hfront
      · exact hsaid
  unfold say at h
  split at h
  · cases h
  · cases h
  · next back c heq =>
    cases h
    rw [List.length_cons]
    exact Nat.succ_le_succ (hback _ heq)

theorem length_unescapeFrom_le {whole said inside out : List Char} {index : Nat} {isFirst : Bool}
    (hsaid : said.length ≤ index) (h : unescapeFrom whole index isFirst said inside = .ok out) :
    out.length ≤ index + inside.length := by
  fun_induction unescapeFrom whole index isFirst said inside with
  | case1 index isFirst said =>
    cases h
    rwa [List.length_reverse]
  | case2 => cases h
  | case3 index isFirst said a b c d rest next found ih =>
    have hnext := length_say_le hsaid found
    have hout := ih (by omega) h
    simp only [List.length_cons]
    omega
  | case4 => cases h
  | case5 index isFirst said a b c d e f g h rest next found ih =>
    have hnext := length_say_le hsaid found
    have hout := ih (by omega) ‹_›
    simp only [List.length_cons]
    omega
  | case6 => cases h
  | case7 index isFirst said c rest _ _ next found ih =>
    have hnext := length_say_le hsaid found
    have hout := ih (by omega) h
    simp only [List.length_cons]
    omega
  | case8 index isFirst said c rest _ _ _ _ ih =>
    have hout := ih (Nat.succ_le_succ hsaid) h
    simp only [List.length_cons]
    omega
  | case9 => cases h

theorem length_splitQuoted {seen text inside rest : List Char}
    (h : splitQuoted seen text = some (inside, rest)) :
    inside.length + rest.length + 1 = seen.length + text.length := by
  fun_induction splitQuoted seen text with
  | case1 => cases h
  | case2 seen rest =>
    cases h
    simp only [List.length_reverse, List.length_cons]
    omega
  | case3 seen c rest ih =>
    have hrest := ih h
    simp only [List.length_cons] at hrest ⊢
    omega
  | case4 seen c rest _ _ ih =>
    have hrest := ih h
    simp only [List.length_cons] at hrest ⊢
    omega

theorem length_quoted_lt {text said rest : List Char} (h : quoted text = .ok (said, rest)) :
    said.length < text.length := by
  unfold quoted at h
  split at h
  · cases h
  · next inside behind hsplit =>
    split at h
    · cases h
    · next hsaid =>
      cases h
      have hinside := length_splitQuoted hsplit
      have hout := length_unescapeFrom_le (Nat.zero_le _) hsaid
      simp only [List.length_nil] at hinside
      omega

/-! ## The forms of a text -/

/-- Whether a text is a number. -/
def isNumber (text : List Char) : Bool :=
  (integer? text).isSome || (text.contains '.' && (Floating.read? text).isSome)

/-- Whether a text begins like a value in brackets or quotes. -/
def isEnclosed : List Char → Bool
  | c :: _ => ['[', '\x7b', '"', '\''].contains c
  | [] => false

/-- A text that is no number is plainly itself, and one that is a number is not. -/
theorem plain_eq_text_iff {text : List Char} {said : String} :
    plain text = .text said ↔ isNumber text = false ∧ String.ofList text = said := by
  unfold plain isNumber
  cases hinteger : integer? text with
  | some number => split <;> simp
  | none =>
    cases hdot : text.contains '.' with
    | false => simp
    | true => cases Floating.read? text <;> simp

theorem exists_of_isEnclosed {text : List Char} (h : isEnclosed text = true) :
    ∃ c inside, text = c :: inside ∧ (c = '[' ∨ c = '\x7b' ∨ c = '"' ∨ c = '\'') := by
  cases text with
  | nil => cases h
  | cons c inside =>
    refine ⟨c, inside, rfl, ?_⟩
    simpa [isEnclosed] using h

/-- The characters that numbers are written with. -/
def isNumeral (c : Char) : Bool :=
  c.isDigit || ['+', '-', '.', 'e', 'E'].contains c

theorem isNumeral_of_isDigit {c : Char} (h : c.isDigit = true) : isNumeral c = true := by
  simp [isNumeral, h]

theorem isDigit_of_addDigits {text : List Char} {value number : Nat}
    (h : Natural.addDigits value text = .ok number) : ∀ c ∈ text, c.isDigit = true := by
  induction text generalizing value with
  | nil => exact nofun
  | cons c rest ih =>
    rw [Natural.addDigits] at h
    split at h
    · cases h
    · next next found =>
      have hc : c.isDigit = true := by
        unfold Natural.addDigit at found
        split at found
        · cases found
        · next hdigit => simpa using hdigit
      intro d hd
      rcases List.mem_cons.1 hd with rfl | hd
      · exact hc
      · exact ih h d hd

/-- What is read as a natural number is digits, and a plus sign in front of them at most. -/
theorem digit_or_plus_of_read {text : List Char} {number : Nat} (h : Natural.read text = .ok number) :
    ∀ c ∈ text, c.isDigit = true ∨ c = '+' := by
  unfold Natural.read at h
  split at h
  · cases h
  · cases h
  · next digits _ =>
    intro c hc
    rcases List.mem_cons.1 hc with rfl | hc
    · exact Or.inr rfl
    · exact Or.inl (isDigit_of_addDigits h c hc)
  · exact fun c hc => Or.inl (isDigit_of_addDigits h c hc)

theorem isNumeral_of_natural {text : List Char} {number : Nat} (h : Natural.read text = .ok number) :
    ∀ c ∈ text, isNumeral c = true := by
  intro c hc
  rcases digit_or_plus_of_read h c hc with hdigit | rfl
  · exact isNumeral_of_isDigit hdigit
  · rfl

theorem isNumeral_of_integer? {text : List Char} {number : Int} (h : integer? text = some number) :
    ∀ c ∈ text, isNumeral c = true := by
  unfold integer? at h
  split at h
  · next found => exact isNumeral_of_natural found
  · split at h
    · next digits =>
      split at h
      · cases h
      · split at h
        · next found =>
          intro c hc
          rcases List.mem_cons.1 hc with rfl | hc
          · rfl
          · exact isNumeral_of_natural found c hc
        · cases h
    · cases h

theorem isDigit_of_isDigits {text : List Char} (h : Floating.isDigits text = true) :
    ∀ c ∈ text, c.isDigit = true := by
  simp only [Floating.isDigits, Bool.and_eq_true, List.all_eq_true] at h
  exact h.2

/-- Behind the sign stands the rest of the text. -/
theorem mem_splitSign {text : List Char} {c : Char} (h : c ∈ text) :
    c = '-' ∨ c = '+' ∨ c ∈ (Floating.splitSign text).2 := by
  unfold Floating.splitSign
  split
  · rcases List.mem_cons.1 h with rfl | h
    · exact Or.inl rfl
    · exact Or.inr (Or.inr h)
  · rcases List.mem_cons.1 h with rfl | h
    · exact Or.inr (Or.inl rfl)
    · exact Or.inr (Or.inr h)
  · exact Or.inr (Or.inr h)

theorem isNumeral_of_mantissa? {text : List Char} {parts : Nat × Nat}
    (h : Floating.mantissa? text = some parts) : ∀ c ∈ text, isNumeral c = true := by
  unfold Floating.mantissa? at h
  dsimp only at h
  split at h
  · next hdigits =>
    have hall := isDigit_of_isDigits hdigits
    intro c hc
    rw [← List.takeWhile_append_dropWhile (p := (· ≠ '.')) (l := text)] at hc
    rcases List.mem_append.1 hc with hwhole | hbehind
    · exact isNumeral_of_isDigit (hall c (List.mem_append_left _ hwhole))
    · -- the first character behind the whole part is the point
      cases hdrop : text.dropWhile (· ≠ '.') with
      | nil => rw [hdrop] at hbehind; cases hbehind
      | cons d fraction =>
        have hpoint := List.head?_dropWhile_not (· ≠ '.') text
        rw [hdrop] at hbehind hpoint hall
        rcases List.mem_cons.1 hbehind with rfl | hfraction
        · have hdot : c = '.' := by simpa using hpoint
          subst hdot
          rfl
        · exact isNumeral_of_isDigit (hall c (List.mem_append_right _ hfraction))
  · cases h

theorem isNumeral_of_exponent? {text : List Char} {exponent : Int}
    (hmark : ∀ c, text.head? = some c → Floating.isExponentMark c = true)
    (h : Floating.exponent? text = some exponent) : ∀ c ∈ text, isNumeral c = true := by
  unfold Floating.exponent? at h
  split at h
  · exact nofun
  · next mark rest =>
    dsimp only at h
    split at h
    · next hdigits =>
      intro c hc
      rcases List.mem_cons.1 hc with rfl | hc
      · have hc := hmark c rfl
        simp only [Floating.isExponentMark, Bool.or_eq_true, beq_iff_eq] at hc
        rcases hc with rfl | rfl <;> rfl
      · rcases mem_splitSign hc with rfl | rfl | hc
        · rfl
        · rfl
        · exact isNumeral_of_isDigit (isDigit_of_isDigits hdigits c hc)
    · cases h

/-- A floating-point number with a point in it is no word, but digits with signs and marks. -/
theorem isNumeral_of_floating {text : List Char} {number : Binary64} (hdot : '.' ∈ text)
    (h : Floating.read? text = some number) : ∀ c ∈ text, isNumeral c = true := by
  have hrest : '.' ∈ (Floating.splitSign text).2 := by
    rcases mem_splitSign hdot with h | h | h
    · cases h
    · cases h
    · exact h
  have hlower : '.' ∈ (Floating.splitSign text).2.map Char.toLower := List.mem_map.2 ⟨'.', hrest, by decide⟩
  have hnoword : ∀ word : String, '.' ∉ word.toList →
      String.ofList ((Floating.splitSign text).2.map Char.toLower) ≠ word := by
    rintro word hword rfl
    rw [String.toList_ofList] at hword
    exact hword hlower
  have hinf : Floating.infinityWords.contains
      (String.ofList ((Floating.splitSign text).2.map Char.toLower)) = false := by
    simp [Floating.infinityWords, hnoword "inf" (by decide), hnoword "infinity" (by decide)]
  unfold Floating.read? at h
  dsimp only at h
  rw [hinf, if_neg Bool.false_ne_true, if_neg (hnoword _ (by decide))] at h
  split at h
  · next digits places exponent hmantissa hexponent =>
    intro c hc
    rcases mem_splitSign hc with rfl | rfl | hc
    · rfl
    · rfl
    · rw [← List.takeWhile_append_dropWhile (p := (!Floating.isExponentMark ·))
        (l := (Floating.splitSign text).2)] at hc
      rcases List.mem_append.1 hc with hc | hc
      · exact isNumeral_of_mantissa? hmantissa c hc
      · refine isNumeral_of_exponent? (fun d hd => ?_) hexponent c hc
        have hmark := List.head?_dropWhile_not (!Floating.isExponentMark ·) (Floating.splitSign text).2
        rw [hd] at hmark
        simpa using hmark
  · cases h

theorem isNumeral_of_isNumber {text : List Char} (h : isNumber text = true) : ∀ c ∈ text, isNumeral c = true := by
  unfold isNumber at h
  rcases Bool.or_eq_true_iff.1 h with h | h
  · obtain ⟨number, hnumber⟩ := Option.isSome_iff_exists.1 h
    exact isNumeral_of_integer? hnumber
  · obtain ⟨hdot, hread⟩ := Bool.and_eq_true_iff.1 h
    obtain ⟨number, hnumber⟩ := Option.isSome_iff_exists.1 hread
    exact isNumeral_of_floating (by simpa using hdot) hnumber

/-! ## Values -/

theorem map_eq_ok_iff {ε α β : Type} {result : Except ε α} {f : α → β} {b : β} :
    result.map f = .ok b ↔ ∃ a, result = .ok a ∧ f a = b := by
  cases result <;> simp [Except.map]

theorem isBlank_of_isBlank {c : Char} (h : isBlank c = true) : Text.isBlank c = true := by
  simp only [isBlank, Bool.or_eq_true, beq_iff_eq] at h
  rcases h with (((rfl | rfl) | rfl) | rfl) | rfl <;> rfl

/-- Behind no part of a text without blanks around it stand blanks alone. -/
theorem skip_ne_nil {text rest : List Char} (htrim : Text.trim text = text) (hsuffix : rest <:+ text)
    (hne : rest ≠ []) : skip rest ≠ [] := by
  intro hskip
  have hblank := List.dropWhile_eq_nil_iff.1 hskip _ (List.getLast_mem hne)
  have hlast : text.getLast? = some (rest.getLast hne) := by
    obtain ⟨front, rfl⟩ := hsuffix
    rw [List.getLast?_append, List.getLast?_eq_some_getLast hne]
    rfl
  have hvisible := (Text.trim_eq_self_iff.1 htrim).2 _ hlast
  rw [isBlank_of_isBlank hblank] at hvisible
  cases hvisible

theorem skip_of_trimmed {text : List Char} (htrim : Text.trim text = text) : skip text = text := by
  cases text with
  | nil => rfl
  | cons c rest =>
    refine List.dropWhile_cons_of_neg fun hblank => ?_
    have hvisible := (Text.trim_eq_self_iff.1 htrim).1 c rfl
    rw [isBlank_of_isBlank hblank] at hvisible
    cases hvisible

/-- A value that is a text has no brackets. -/
theorem leaf_of_value {fuel : Nat} {text rest : List Char} {said : String}
    (h : value fuel text = .ok (.text said, rest)) : ∃ behind, leaf (skip text) = .ok (.text said, behind) := by
  cases fuel with
  | zero => cases h
  | succ fuel =>
    rw [value] at h
    dsimp only at h
    obtain ⟨⟨found, behind⟩, hfound, heq⟩ := map_eq_ok_iff.1 h
    cases heq
    split at hfound
    · obtain ⟨_, -, htable⟩ := map_eq_ok_iff.1 hfound
      cases htable
    · obtain ⟨_, -, hlist⟩ := map_eq_ok_iff.1 hfound
      cases hlist
    · exact ⟨behind, hfound⟩

/-- A text without brackets says no more characters than it has, and fewer if it is in quotes. -/
theorem length_leaf {text rest : List Char} {said : String} (h : leaf text = .ok (.text said, rest)) :
    said.toList.length ≤ text.length ∧ (isEnclosed text = true → said.toList.length < text.length) := by
  unfold leaf at h
  split at h
  · cases h
  · cases h
  · obtain ⟨⟨inside, behind⟩, hquoted, heq⟩ := map_eq_ok_iff.1 h
    cases heq
    have hlength := length_quoted_lt hquoted
    rw [String.toList_ofList, List.length_cons]
    exact ⟨by omega, fun _ => by omega⟩
  · next inside =>
    obtain ⟨⟨c, behind⟩, hcharacter, heq⟩ := map_eq_ok_iff.1 h
    cases heq
    unfold character at hcharacter
    split at hcharacter
    · cases hcharacter
      simp
    · cases hcharacter
  · next hquote hcharacter =>
    injection h with h
    obtain ⟨hplain, -⟩ := Prod.mk.inj h
    obtain ⟨-, hsaid⟩ := plain_eq_text_iff.1 hplain
    rw [← hsaid, String.toList_ofList]
    have hfront := Text.length_trim_le (text.takeWhile (!isSeparator ·))
    refine ⟨Nat.le_trans hfront (List.takeWhile_prefix _).length_le, fun henclosed => ?_⟩
    -- an opening bracket is a separator, so nothing stands in front of it
    obtain ⟨c, inside, rfl, hc⟩ := exists_of_isEnclosed henclosed
    rcases hc with rfl | rfl | rfl | rfl
    · exact Nat.lt_of_le_of_lt hfront (Nat.succ_pos _)
    · exact Nat.lt_of_le_of_lt hfront (Nat.succ_pos _)
    · exact absurd rfl (hquote inside)
    · exact absurd rfl (hcharacter inside)

/-- A value is a text of no more characters than say it, and of fewer if they are in quotes. -/
theorem length_value_le {fuel : Nat} {text rest : List Char} {said : String}
    (h : value fuel text = .ok (.text said, rest)) : said.toList.length ≤ text.length := by
  obtain ⟨behind, hleaf⟩ := leaf_of_value h
  exact Nat.le_trans (length_leaf hleaf).1 (List.dropWhile_suffix _).length_le

theorem length_value_lt {fuel : Nat} {text rest : List Char} {said : String} (htrim : Text.trim text = text)
    (henclosed : isEnclosed text = true) (h : value fuel text = .ok (.text said, rest)) :
    said.toList.length < text.length := by
  obtain ⟨behind, hleaf⟩ := leaf_of_value h
  rw [skip_of_trimmed htrim] at hleaf
  exact (length_leaf hleaf).2 henclosed

/-! ## Values without brackets and quotes -/

/-- A text without brackets and quotes begins with a truth word, or is plain up to the first separator. -/
theorem leaf_of_bare {text : List Char} (hbare : isEnclosed text = false) :
    (∃ word rest, text = word ++ rest ∧ (word = "true".toList ∨ word = "false".toList) ∧
      ∃ truth, leaf text = .ok (.bool truth, rest)) ∨
    leaf text = .ok (plain (Text.trim (text.takeWhile (!isSeparator ·))), text.dropWhile (!isSeparator ·)) := by
  unfold leaf
  split
  · next rest => exact Or.inl ⟨_, rest, rfl, Or.inl rfl, true, rfl⟩
  · next rest => exact Or.inl ⟨_, rest, rfl, Or.inr rfl, false, rfl⟩
  · cases hbare
  · cases hbare
  · exact Or.inr rfl

/-- A text without brackets and quotes is a value, and what stands behind it. -/
theorem value_of_bare {text : List Char} (htrim : Text.trim text = text) (hbare : isEnclosed text = false) :
    value (bound text) text = (leaf text).map fun (found, rest) => (found, skip rest) := by
  rw [bound, value]
  dsimp only
  rw [skip_of_trimmed htrim]
  split
  · cases hbare
  · cases hbare
  · rfl

/-- **What a text without brackets and quotes says**, unless it is a truth word: if nothing is left over, then what
    it plainly stands for. -/
theorem exists_value_of_bare {text : List Char} (htrim : Text.trim text = text)
    (hbare : isEnclosed text = false) (htrue : isWord text "true" = false) (hfalse : isWord text "false" = false) :
    ∃ found rest, value (bound text) text = .ok (found, rest) ∧ (rest = [] → found = plain text) := by
  rw [value_of_bare htrim hbare]
  rcases leaf_of_bare hbare with ⟨word, rest, rfl, hword, truth, hleaf⟩ | hleaf
  · rw [hleaf]
    refine ⟨_, _, rfl, fun hskip => ?_⟩
    -- nothing behind a truth word means that it is the whole text
    by_contra
    refine skip_ne_nil htrim (List.suffix_append _ _) ?_ hskip
    rintro rfl
    rw [List.append_nil] at htrue hfalse
    rcases hword with rfl | rfl
    · exact absurd htrue (by decide)
    · exact absurd hfalse (by decide)
  · rw [hleaf]
    refine ⟨_, _, rfl, fun hskip => ?_⟩
    have hbehind : text.dropWhile (!isSeparator ·) = [] := by
      by_contra hne
      exact skip_ne_nil htrim (List.dropWhile_suffix _) hne hskip
    have hwhole := List.takeWhile_append_dropWhile (p := (!isSeparator ·)) (l := text)
    rw [hbehind, List.append_nil] at hwhole
    rw [hwhole, htrim]

theorem visible_of_isNumeral {c : Char} (h : isNumeral c = true) : '!'.toNat ≤ c.toNat ∧ c.toNat ≤ '~'.toNat := by
  unfold isNumeral at h
  rcases Bool.or_eq_true_iff.1 h with h | h
  · simp only [Char.isDigit, Bool.and_eq_true, decide_eq_true_eq] at h
    have hlow : 48 ≤ c.toNat := h.1
    have hhigh : c.toNat ≤ 57 := h.2
    exact ⟨Nat.le_trans (by decide) hlow, Nat.le_trans hhigh (by decide)⟩
  · simp only [List.contains_eq_mem, decide_eq_true_eq, List.mem_cons, List.not_mem_nil, or_false] at h
    rcases h with rfl | rfl | rfl | rfl | rfl <;> decide

/-- Numerals neither separate nor enclose. -/
theorem isSeparator_of_isNumeral {c : Char} (h : isNumeral c = true) : isSeparator c = false := by
  cases hseparator : isSeparator c with
  | false => rfl
  | true =>
    simp only [isSeparator, List.contains_eq_mem, decide_eq_true_eq, List.mem_cons, List.not_mem_nil,
      or_false] at hseparator
    rcases hseparator with rfl | rfl | rfl | rfl | rfl <;> cases h

theorem isEnclosed_of_numerals {text : List Char} (h : ∀ c ∈ text, isNumeral c = true) :
    isEnclosed text = false := by
  by_contra henclosed
  obtain ⟨c, inside, rfl, hc⟩ := exists_of_isEnclosed (by simpa using henclosed)
  have hnumeral := h c List.mem_cons_self
  rcases hc with rfl | rfl | rfl | rfl <;> cases hnumeral

theorem trim_of_numerals {text : List Char} (h : ∀ c ∈ text, isNumeral c = true) : Text.trim text = text :=
  Text.trim_of_all fun c hc => Text.isBlank_of_visible (visible_of_isNumeral (h c hc))

/-- **A text of numerals** has no form but that of a number. -/
theorem value_of_numerals {text : List Char} (h : ∀ c ∈ text, isNumeral c = true) :
    value (bound text) text = .ok (plain text, []) := by
  have htrim := trim_of_numerals h
  have hbare := isEnclosed_of_numerals h
  have hwhole : text.takeWhile (!isSeparator ·) = text :=
    List.takeWhile_eq_self_iff.2 fun c hc => by rw [isSeparator_of_isNumeral (h c hc)]; rfl
  have hbehind : text.dropWhile (!isSeparator ·) = [] :=
    List.dropWhile_eq_nil_iff.2 fun c hc => by rw [isSeparator_of_isNumeral (h c hc)]; rfl
  rw [value_of_bare htrim hbare]
  rcases leaf_of_bare hbare with ⟨word, rest, rfl, hword, -⟩ | hleaf
  · -- truth words have letters that no number has
    rcases hword with rfl | rfl
    · exact absurd (h 't' (by simp)) (by decide)
    · exact absurd (h 'f' (by simp)) (by decide)
  · rw [hleaf, hwhole, hbehind, htrim]
    rfl

/-! ## Texts that stand for themselves -/

/-- **A text that stands for itself**: it has no form that means something else. -/
structure StandsForItself (text : List Char) : Prop where
  /-- No blanks surround it. -/
  trimmed : Text.trim text = text
  /-- It has no commas, unless it begins like a value in brackets or quotes. -/
  notList : ',' ∈ text → isEnclosed text = true
  /-- It is no truth word in any case. -/
  notTruth : isWord text "true" = false ∧ isWord text "false" = false
  /-- It is no number. -/
  notNumber : isNumber text = false
  /-- If it begins like a value in brackets or quotes, that value does not end where the text ends. -/
  notWhole : isEnclosed text = true → ∀ found, value (bound text) text ≠ .ok (found, [])
  /-- No backslash breaks the reading of it down. -/
  notBroken : isEnclosed text = true → ∀ cut, value (bound text) text ≠ .error (.cut cut)

theorem isCommaList_eq_false_iff {text : List Char} :
    isCommaList text = false ↔ (',' ∈ text → isEnclosed text = true) := by
  cases text with
  | nil => simp [isCommaList]
  | cons c rest =>
    simp only [isCommaList, isEnclosed, Bool.and_eq_false_iff, Bool.not_eq_false', List.contains_eq_mem,
      decide_eq_false_iff_not, imp_iff_not_or]

/-- What a text is read as that is no list and no truth word. -/
theorem read_of_not_word {text : String} (htrim : Text.trim text.toList = text.toList)
    (hlist : isCommaList text.toList = false) (htrue : isWord text.toList "true" = false)
    (hfalse : isWord text.toList "false" = false) :
    read text = match value (bound text.toList) text.toList with
      | .ok (found, []) => .ok found
      | .error (.cut cut) => .error cut
      | _ => .ok (.text text) := by
  unfold read
  dsimp only
  rw [htrim, hlist, htrue, hfalse, String.ofList_toList]
  rfl

/-- A text that is read as itself has no blanks around it. -/
theorem trim_of_read {text : String} (h : read text = .ok (.text text)) :
    Text.trim text.toList = text.toList := by
  unfold read at h
  dsimp only at h
  split at h
  · cases h
  · split at h
    · cases h
    · split at h
      · cases h
      · split at h
        · next found hvalue =>
          cases h
          exact Text.trim_eq_of_length (length_value_le hvalue)
        · cases h
        · injection h with h
          injection h with h
          rw [← String.toList_inj, String.toList_ofList] at h
          exact h

/-- A text that is read as itself is no list and no truth word. -/
theorem forms_of_read {text : String} (h : read text = .ok (.text text)) :
    isCommaList text.toList = false ∧ isWord text.toList "true" = false ∧ isWord text.toList "false" = false := by
  have htrim := trim_of_read h
  unfold read at h
  dsimp only at h
  rw [htrim] at h
  split at h
  · cases h
  · split at h
    · cases h
    · split at h
      · cases h
      · simp_all

/-- **The texts that are said as they stand** are the ones that have no other form. -/
theorem read_eq_self_iff {text : String} : read text = .ok (.text text) ↔ StandsForItself text.toList := by
  constructor
  · intro h
    have htrim := trim_of_read h
    obtain ⟨hlist, htrue, hfalse⟩ := forms_of_read h
    rw [read_of_not_word htrim hlist htrue hfalse] at h
    refine ⟨htrim, isCommaList_eq_false_iff.1 hlist, ⟨htrue, hfalse⟩, ?_, ?_, ?_⟩
    · by_contra hnumber
      rw [Bool.not_eq_false] at hnumber
      rw [value_of_numerals (isNumeral_of_isNumber hnumber)] at h
      have hplain := (plain_eq_text_iff.1 (Except.ok.inj h)).1
      rw [hnumber] at hplain
      cases hplain
    · intro henclosed found hvalue
      rw [hvalue] at h
      cases h
      exact absurd (length_value_lt htrim henclosed hvalue) (Nat.lt_irrefl _)
    · intro _ cut hvalue
      rw [hvalue] at h
      cases h
  · intro h
    rw [read_of_not_word h.trimmed (isCommaList_eq_false_iff.2 h.notList) h.notTruth.1 h.notTruth.2]
    cases henclosed : isEnclosed text.toList with
    | true =>
      split
      · next found hvalue => exact absurd hvalue (h.notWhole henclosed found)
      · next cut hvalue => exact absurd hvalue (h.notBroken henclosed cut)
      · rfl
    | false =>
      obtain ⟨found, rest, hvalue, hplain⟩ :=
        exists_value_of_bare h.trimmed henclosed h.notTruth.1 h.notTruth.2
      rw [hvalue]
      cases rest with
      | nil =>
        rw [hplain rfl]
        exact congrArg Except.ok (plain_eq_text_iff.2 ⟨h.notNumber, String.ofList_toList⟩)
      | cons c rest => rfl

/-! ## Digits and letters -/

theorem toLower_eq_or (c : Char) : c.toLower = c ∨ ('A' ≤ c ∧ c ≤ 'Z') := by
  unfold Char.toLower
  split
  · next hupper => exact Or.inr hupper
  · exact Or.inl rfl

theorem isNumeral_toLower {c : Char} (h : isNumeral c = true) : isNumeral c.toLower = true := by
  rcases toLower_eq_or c with hlower | ⟨hlow, hhigh⟩
  · rwa [hlower]
  · unfold isNumeral at h
    rcases Bool.or_eq_true_iff.1 h with hdigit | hmark
    · simp only [Char.isDigit, Bool.and_eq_true, decide_eq_true_eq] at hdigit
      exact absurd (Nat.le_trans hlow hdigit.2) (by decide)
    · simp only [List.contains_eq_mem, decide_eq_true_eq, List.mem_cons, List.not_mem_nil, or_false] at hmark
      rcases hmark with rfl | rfl | rfl | rfl | rfl <;> decide

theorem isAlpha_of_toLower {c : Char} (h : c.toLower.isAlpha = true) : c.isAlpha = true := by
  rcases toLower_eq_or c with hlower | hupper
  · rwa [hlower] at h
  · unfold Char.isAlpha Char.isUpper
    rw [Bool.or_eq_true, decide_eq_true_eq]
    exact Or.inl hupper

/-- Truth words have letters that no number has. -/
theorem isWord_of_numerals {text : List Char} (h : ∀ c ∈ text, isNumeral c = true) {word : String}
    (hword : ∃ c ∈ word.toList, isNumeral c = false) : isWord text word = false := by
  by_contra heq
  simp only [isWord, Bool.not_eq_false, beq_iff_eq] at heq
  obtain ⟨c, hc, hfalse⟩ := hword
  rw [← heq] at hc
  obtain ⟨d, hd, rfl⟩ := List.mem_map.1 hc
  rw [isNumeral_toLower (h d hd)] at hfalse
  cases hfalse

/-- **A text of digits** is read as its number. -/
theorem read_of_natural {text : String} {number : Nat} (h : Natural.read text.toList = .ok number) :
    read text = .ok (.integer number) := by
  have hnumerals := isNumeral_of_natural h
  have hcomma : ',' ∉ text.toList := fun hmem => absurd (hnumerals ',' hmem) (by decide)
  have hdot : '.' ∉ text.toList := fun hmem =>
    (digit_or_plus_of_read h '.' hmem).elim (fun hdigit => by cases hdigit) nofun
  have hplain : plain text.toList = .integer number := by
    have hinteger : integer? text.toList = some (number : Int) := by
      unfold integer?
      rw [h]
    unfold plain
    rw [hinteger, show text.toList.contains '.' = false by simpa using hdot]
    rfl
  rw [read_of_not_word (trim_of_numerals hnumerals) (isCommaList_eq_false_iff.2 fun hmem => absurd hmem hcomma)
    (isWord_of_numerals hnumerals ⟨'t', by decide, by decide⟩)
    (isWord_of_numerals hnumerals ⟨'f', by decide, by decide⟩), value_of_numerals hnumerals, hplain]

theorem visible_of_isAlpha {c : Char} (h : c.isAlpha = true) : '!'.toNat ≤ c.toNat ∧ c.toNat ≤ '~'.toNat := by
  unfold Char.isAlpha Char.isUpper Char.isLower at h
  simp only [Bool.or_eq_true, Bool.and_eq_true, decide_eq_true_eq] at h
  rcases h with ⟨hlow, hhigh⟩ | ⟨hlow, hhigh⟩
  · exact ⟨Nat.le_trans (by decide) hlow, Nat.le_trans hhigh (by decide)⟩
  · exact ⟨Nat.le_trans (by decide) hlow, Nat.le_trans hhigh (by decide)⟩

/-- **A text of letters** stands for itself, unless it is a truth word or has only such letters as numbers have. -/
theorem standsForItself_of_letters {text : List Char} (h : ∀ c ∈ text, c.isAlpha = true)
    (hletter : ∃ c ∈ text, isNumeral c = false) (htrue : isWord text "true" = false)
    (hfalse : isWord text "false" = false) : StandsForItself text := by
  have hbare : isEnclosed text = false := by
    by_contra henclosed
    obtain ⟨c, inside, rfl, hc⟩ := exists_of_isEnclosed (by simpa using henclosed)
    have halpha := h c List.mem_cons_self
    rcases hc with rfl | rfl | rfl | rfl <;> cases halpha
  refine ⟨Text.trim_of_all fun c hc => Text.isBlank_of_visible (visible_of_isAlpha (h c hc)), ?_,
    ⟨htrue, hfalse⟩, ?_, ?_, ?_⟩
  · intro hcomma
    exact absurd (h ',' hcomma) (by decide)
  · by_contra hnumber
    obtain ⟨c, hc, hnumeral⟩ := hletter
    rw [isNumeral_of_isNumber (by simpa using hnumber) c hc] at hnumeral
    cases hnumeral
  · intro henclosed
    rw [hbare] at henclosed
    cases henclosed
  · intro henclosed
    rw [hbare] at henclosed
    cases henclosed

end Settings.Variable

end DeviceBroker
