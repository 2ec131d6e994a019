import DeviceBroker.Json.Skip
import DeviceBroker.Proofs.Leaves

/-!
# `Proofs.Nesting` — whole values, however deep

A value is a leaf or a list or an object of values, with blanks wherever they are allowed. Whatever it is, it can be
skipped: the reader that keeps open brackets in a list comes out behind it with the same brackets open as before.

## Contents

* `Part`, `Written` — **the notation of values**, and of what stands between brackets.
* `Written.starts` — what any part of a value begins with.
* `skipWithin_leaf` and the lemmas behind it — one step of skipping.
* `Skips`, `Written.skips` — **every value is skipped as a whole**; `skipValue_append` — at the outermost level.
-/

namespace DeviceBroker.Json

/-- The parts of a text that are written by rules. -/
inductive Part where
  /-- A value. -/
  | value
  /-- A value with blanks around it. -/
  | padded
  /-- The inside of a list that is not empty. -/
  | elements
  /-- A key and its value. -/
  | member
  /-- The inside of an object that is not empty. -/
  | members
  deriving DecidableEq

/-- **How values are written.** -/
inductive Written : Part → List Char → Prop
  | null : Written .value ['n', 'u', 'l', 'l']
  | yes : Written .value ['t', 'r', 'u', 'e']
  | no : Written .value ['f', 'a', 'l', 's', 'e']
  | number {lexeme : Lexeme} {text : List Char} (h : IsNumber lexeme text) : Written .value text
  | negative {lexeme : Lexeme} {text : List Char} (h : IsNumber lexeme text) : Written .value ('-' :: text)
  | string {inside : List Char} (h : IsString inside) : Written .value ('"' :: (inside ++ ['"']))
  | emptyList {blanks : List Char} (h : Blanks blanks) : Written .value ('[' :: (blanks ++ [']']))
  | list {inside : List Char} (h : Written .elements inside) : Written .value ('[' :: (inside ++ [']']))
  | emptyTable {blanks : List Char} (h : Blanks blanks) : Written .value ('{' :: (blanks ++ ['}']))
  | table {inside : List Char} (h : Written .members inside) : Written .value ('{' :: (inside ++ ['}']))
  | padded {front text back : List Char} (hfront : Blanks front) (h : Written .value text) (hback : Blanks back) :
      Written .padded (front ++ (text ++ back))
  | lastElement {text : List Char} (h : Written .padded text) : Written .elements text
  | element {text rest : List Char} (h : Written .padded text) (hrest : Written .elements rest) :
      Written .elements (text ++ ',' :: rest)
  | member {front key back text : List Char} (hfront : Blanks front) (hkey : IsString key) (hback : Blanks back)
      (h : Written .padded text) : Written .member (front ++ '"' :: (key ++ '"' :: (back ++ ':' :: text)))
  | lastMember {text : List Char} (h : Written .member text) : Written .members text
  | memberThen {text rest : List Char} (h : Written .member text) (hrest : Written .members rest) :
      Written .members (text ++ ',' :: rest)

/-! ## What stands in front -/

/-- **A text that begins a value or a key**, behind blanks, and closes no bracket. -/
inductive Starts : List Char → Prop
  | mk {front : List Char} {c : Char} {rest : List Char} (hfront : Blanks front) (hblank : isBlank c = false)
      (hlist : c ≠ ']') (htable : c ≠ '}') : Starts (front ++ c :: rest)

theorem Starts.append {text : List Char} (h : Starts text) (rest : List Char) : Starts (text ++ rest) := by
  cases h with
  | mk hfront hblank hlist htable =>
    rw [List.append_assoc, List.cons_append]
    exact .mk hfront hblank hlist htable

theorem starts_cons {c : Char} {rest : List Char} (hblank : isBlank c = false) (hlist : c ≠ ']') (htable : c ≠ '}') :
    Starts (c :: rest) :=
  .mk blanks_nil hblank hlist htable

theorem starts_append {front text : List Char} (hfront : Blanks front) (h : Starts text) : Starts (front ++ text) := by
  cases h with
  | mk hother hblank hlist htable =>
    rw [← List.append_assoc]
    refine .mk ?_ hblank hlist htable
    intro c hc
    exact (List.mem_append.1 hc).elim (hfront c) (hother c)

theorem ne_of_isDigit {d c : Char} (hd : d.isDigit = true) (hc : c.isDigit = false) : d ≠ c := by
  rintro rfl
  rw [hd] at hc
  cases hc

theorem isBlank_digit {d : Char} (hd : d.isDigit = true) : isBlank d = false := by
  have hspace := ne_of_isDigit (c := ' ') hd rfl
  have hline := ne_of_isDigit (c := '\n') hd rfl
  have htab := ne_of_isDigit (c := '\t') hd rfl
  have hreturn := ne_of_isDigit (c := '\r') hd rfl
  simp [isBlank, hspace, hline, htab, hreturn]

/-- A digit begins a value. -/
theorem starts_digit {d : Char} {rest : List Char} (hd : d.isDigit = true) : Starts (d :: rest) :=
  starts_cons (isBlank_digit hd) (ne_of_isDigit hd rfl) (ne_of_isDigit hd rfl)

/-- **Every part of a value begins something.** -/
theorem Written.starts {part : Part} {text : List Char} (h : Written part text) : Starts text := by
  induction h with
  | number hnumber =>
    obtain ⟨d, tail, rfl, hd⟩ := hnumber.head
    exact starts_digit hd
  | padded hfront _ hback ih => exact starts_append hfront (ih.append _)
  | lastElement _ ih => exact ih
  | element _ _ ih _ => exact ih.append _
  | member hfront _ _ _ _ => exact .mk hfront rfl (by decide) (by decide)
  | lastMember _ ih => exact ih
  | memberThen _ _ ih _ => exact ih.append _
  | null => exact starts_cons rfl (by decide) (by decide)
  | yes => exact starts_cons rfl (by decide) (by decide)
  | no => exact starts_cons rfl (by decide) (by decide)
  | negative => exact starts_cons rfl (by decide) (by decide)
  | string => exact starts_cons rfl (by decide) (by decide)
  | emptyList => exact starts_cons rfl (by decide) (by decide)
  | list => exact starts_cons rfl (by decide) (by decide)
  | emptyTable => exact starts_cons rfl (by decide) (by decide)
  | table => exact starts_cons rfl (by decide) (by decide)

theorem Starts.skipBlanks_eq {text : List Char} (h : Starts text) :
    ∃ c rest, skipBlanks text = c :: rest ∧ c ≠ ']' ∧ c ≠ '}' := by
  cases h with
  | @mk front c rest hfront hblank hlist htable =>
    exact ⟨c, rest, (skipBlanks_append hfront _).trans (skipBlanks_cons hblank rest), hlist, htable⟩

/-! ## Steps of skipping -/

/-- What skipping does at the front of a value. -/
theorem skipWithin_eq (within : List Bracket) (text : List Char) :
    skipWithin within text =
      match skipOpening text with
      | .error fault => .error fault
      | .ok (.leaf rest) => skipBehind within rest
      | .ok (.bracket bracket rest) =>
        match skipBlanks rest with
        | [] => .error .truncated
        | c :: behind =>
          if c = bracket.closer then skipBehind within behind
          else
            match bracket with
            | .list => skipWithin (.list :: within) rest
            | .table =>
              match skipKey rest with
              | .error fault => .error fault
              | .ok value => skipWithin (.table :: within) value := by
  rw [skipWithin]
  split
  · next hopening => rw [hopening]
  · next hopening => rw [hopening]
  · next bracket rest hopening =>
    split
    · next hfront => simp only [hopening, hfront]
    · next c behind hfront =>
      split
      · next hc => simp only [hopening, hfront, if_pos hc]
      · next hc =>
        cases bracket with
        | list => simp only [hopening, hfront, if_neg hc]
        | table =>
          dsimp only
          split
          · next hkey => simp only [hopening, hfront, if_neg hc, hkey]
          · next hkey => simp only [hopening, hfront, if_neg hc, hkey]

/-- What skipping does behind a value. -/
theorem skipBehind_eq (bracket : Bracket) (outer : List Bracket) (text : List Char) :
    skipBehind (bracket :: outer) text =
      match skipBlanks text with
      | [] => .error .truncated
      | c :: rest =>
        if c = ',' then
          match bracket with
          | .list => skipWithin (.list :: outer) rest
          | .table =>
            match skipKey rest with
            | .error fault => .error fault
            | .ok value => skipWithin (.table :: outer) value
        else if c = bracket.closer then skipBehind outer rest
        else .error .malformed := by
  rw [skipBehind]
  split
  · next hfront => rw [hfront]
  · next c rest hfront =>
    rw [hfront]
    dsimp only
    split
    · cases bracket with
      | list => rfl
      | table =>
        dsimp only
        split
        · next hkey => rw [hkey]
        · next hkey => rw [hkey]
    · rfl

theorem skipBehind_nil (text : List Char) : skipBehind [] text = .ok text := by
  rw [skipBehind]

section Steps

variable {within outer : List Bracket} {bracket : Bracket} {text rest behind value : List Char} {c : Char}

theorem skipWithin_leaf (h : skipOpening text = .ok (.leaf rest)) :
    skipWithin within text = skipBehind within rest := by
  rw [skipWithin_eq, h]

theorem skipWithin_closed (h : skipOpening text = .ok (.bracket bracket rest))
    (hfront : skipBlanks rest = bracket.closer :: behind) :
    skipWithin within text = skipBehind within behind := by
  rw [skipWithin_eq, h]
  dsimp only
  rw [hfront]
  exact if_pos rfl

theorem skipWithin_list (h : skipOpening text = .ok (.bracket .list rest)) (hrest : Starts rest) :
    skipWithin within text = skipWithin (.list :: within) rest := by
  obtain ⟨c, behind, hfront, hc, -⟩ := hrest.skipBlanks_eq
  rw [skipWithin_eq, h]
  dsimp only
  rw [hfront]
  exact if_neg hc

theorem skipWithin_table (h : skipOpening text = .ok (.bracket .table rest)) (hrest : Starts rest)
    (hkey : skipKey rest = .ok value) : skipWithin within text = skipWithin (.table :: within) value := by
  obtain ⟨c, behind, hfront, -, hc⟩ := hrest.skipBlanks_eq
  rw [skipWithin_eq, h]
  dsimp only
  rw [hfront, hkey]
  exact if_neg hc

theorem skipBehind_blanks {blanks : List Char} (h : Blanks blanks) :
    skipBehind (bracket :: outer) (blanks ++ text) = skipBehind (bracket :: outer) text := by
  rw [skipBehind_eq, skipBehind_eq, skipBlanks_append h]

theorem skipBehind_list : skipBehind (.list :: outer) (',' :: rest) = skipWithin (.list :: outer) rest := by
  rw [skipBehind_eq, skipBlanks_cons rfl]
  exact if_pos rfl

theorem skipBehind_table (hkey : skipKey rest = .ok value) :
    skipBehind (.table :: outer) (',' :: rest) = skipWithin (.table :: outer) value := by
  rw [skipBehind_eq, skipBlanks_cons rfl]
  dsimp only
  rw [if_pos rfl, hkey]

theorem skipBehind_closer : skipBehind (bracket :: outer) (bracket.closer :: rest) = skipBehind outer rest := by
  rw [skipBehind_eq, skipBlanks_cons (by cases bracket <;> rfl)]
  dsimp only
  rw [if_neg (by cases bracket <;> decide), if_pos rfl]

end Steps

/-! ## Openings -/

section Openings

variable {text rest : List Char}

theorem skipOpening_string {inside : List Char} (h : IsString inside) :
    skipOpening ('"' :: (inside ++ '"' :: rest)) = .ok (.leaf rest) := by
  have hstring : skipOpening ('"' :: (inside ++ '"' :: rest)) = Opening.ofLeaf (skipString (inside ++ '"' :: rest)) :=
    rfl
  rw [hstring, skipString_append h]
  rfl

theorem skipOpening_negative {lexeme : Lexeme} (h : IsNumber lexeme text) (hrest : Ends rest) :
    skipOpening ('-' :: (text ++ rest)) = .ok (.leaf rest) := by
  have hnumber : skipOpening ('-' :: (text ++ rest)) = Opening.ofLeaf (skipNumber (text ++ rest)) := rfl
  rw [hnumber, skipNumber_append h hrest]
  rfl

theorem skipOpening_digit {d : Char} (hd : d.isDigit = true) :
    skipOpening (d :: rest) = Opening.ofLeaf (skipNumber (d :: rest)) := by
  unfold skipOpening
  rw [skipBlanks_cons (isBlank_digit hd)]
  dsimp only
  split
  · cases hd
  · cases hd
  · cases hd
  · cases hd
  · cases hd
  · cases hd
  · cases hd
  · exact if_pos hd

theorem skipOpening_number {lexeme : Lexeme} (h : IsNumber lexeme text) (hrest : Ends rest) :
    skipOpening (text ++ rest) = .ok (.leaf rest) := by
  have hskip := skipNumber_append h hrest
  obtain ⟨d, tail, rfl, hd⟩ := h.head
  rw [List.cons_append] at hskip ⊢
  rw [skipOpening_digit hd, hskip]
  rfl

/-- Blanks in front of a value do not matter. -/
theorem skipOpening_blanks {blanks : List Char} (h : Blanks blanks) :
    skipOpening (blanks ++ text) = skipOpening text := by
  unfold skipOpening
  rw [skipBlanks_append h]

theorem skipKey_member {front key back value : List Char} (hfront : Blanks front) (hkey : IsString key)
    (hback : Blanks back) : skipKey (front ++ '"' :: (key ++ '"' :: (back ++ ':' :: value))) = .ok value := by
  unfold skipKey
  rw [skipBlanks_append hfront, skipBlanks_cons rfl]
  simp only [skipString_append hkey, skipBlanks_append hback]
  rw [skipBlanks_cons rfl]
  rfl

end Openings

/-! ## Whole values -/

/-- What stands behind a value inside brackets. -/
def Delimits (c : Char) : Prop :=
  c = ',' ∨ c = ']' ∨ c = '}'

theorem ends_of_delimits {c : Char} {rest : List Char} (h : Delimits c) : Ends (c :: rest) := by
  intro d hd
  cases hd
  rcases h with rfl | rfl | rfl <;> rfl

/-- A number may end before blanks. -/
theorem ends_append {blanks rest : List Char} (h : Blanks blanks) (hrest : Ends rest) : Ends (blanks ++ rest) := by
  cases blanks with
  | nil => exact hrest
  | cons c tail =>
    intro d hd
    cases hd
    have hblank := h c List.mem_cons_self
    simp only [isBlank, Bool.or_eq_true, beq_iff_eq] at hblank
    rcases hblank with ((rfl | rfl) | rfl) | rfl <;> rfl

/-- **How a part is skipped**: behind it the same brackets are open as in front of it, and behind the inside of a
    bracket that bracket is closed. -/
def Skips : Part → List Char → Prop
  | .value, text => ∀ within rest, Ends rest → skipWithin within (text ++ rest) = skipBehind within rest
  | .padded, text => ∀ bracket outer c rest, Delimits c →
      skipWithin (bracket :: outer) (text ++ c :: rest) = skipBehind (bracket :: outer) (c :: rest)
  | .elements, text => ∀ outer rest, skipWithin (.list :: outer) (text ++ ']' :: rest) = skipBehind outer rest
  | .member, text => ∀ outer c rest, Delimits c → ∃ value, skipKey (text ++ c :: rest) = .ok value ∧
      skipWithin (.table :: outer) value = skipBehind (.table :: outer) (c :: rest)
  | .members, text => ∀ outer rest, ∃ value, skipKey (text ++ '}' :: rest) = .ok value ∧
      skipWithin (.table :: outer) value = skipBehind outer rest

/-- **Every value is skipped as a whole**, by induction on how it is written. -/
theorem Written.skips {part : Part} {text : List Char} (h : Written part text) : Skips part text := by
  induction h with
  | null => exact fun within rest _ => skipWithin_leaf rfl
  | yes => exact fun within rest _ => skipWithin_leaf rfl
  | no => exact fun within rest _ => skipWithin_leaf rfl
  | number hnumber => exact fun within rest hrest => skipWithin_leaf (skipOpening_number hnumber hrest)
  | negative hnumber => exact fun within rest hrest => skipWithin_leaf (skipOpening_negative hnumber hrest)
  | @string inside hinside =>
    intro within rest _
    rw [List.cons_append, List.append_assoc]
    exact skipWithin_leaf (skipOpening_string hinside)
  | @emptyList blanks hblanks =>
    intro within rest _
    rw [List.cons_append, List.append_assoc]
    refine skipWithin_closed rfl ?_
    rw [skipBlanks_append hblanks]
    exact skipBlanks_cons rfl rest
  | @list inside hinside ih =>
    intro within rest _
    rw [List.cons_append, List.append_assoc]
    exact (skipWithin_list rfl (hinside.starts.append _)).trans (ih within rest)
  | @emptyTable blanks hblanks =>
    intro within rest _
    rw [List.cons_append, List.append_assoc]
    refine skipWithin_closed rfl ?_
    rw [skipBlanks_append hblanks]
    exact skipBlanks_cons rfl rest
  | @table inside hinside ih =>
    intro within rest _
    rw [List.cons_append, List.append_assoc]
    obtain ⟨value, hkey, hvalue⟩ := ih within rest
    exact (skipWithin_table rfl (hinside.starts.append _) hkey).trans hvalue
  | @padded front text back hfront _ hback ih =>
    intro bracket outer c rest hc
    -- inside a bracket something always stands behind a value, and no number goes on there
    have hvalue := ih (bracket :: outer) (back ++ c :: rest) (ends_append hback (ends_of_delimits hc))
    rw [List.append_assoc, List.append_assoc, skipWithin_eq, skipOpening_blanks hfront, ← skipWithin_eq, hvalue,
      skipBehind_blanks hback]
  | lastElement _ ih =>
    intro outer rest
    exact (ih .list outer ']' rest (Or.inr (Or.inl rfl))).trans skipBehind_closer
  | @element text inside _ _ ih ihrest =>
    intro outer rest
    rw [List.append_assoc, List.cons_append]
    exact ((ih .list outer ',' _ (Or.inl rfl)).trans skipBehind_list).trans (ihrest outer rest)
  | @member front key back text hfront hkey hback _ ih =>
    intro outer c rest hc
    refine ⟨text ++ c :: rest, ?_, ih .table outer c rest hc⟩
    have hmember := @skipKey_member front key back (text ++ c :: rest) hfront hkey hback
    simpa only [List.append_assoc, List.cons_append] using hmember
  | lastMember _ ih =>
    intro outer rest
    obtain ⟨value, hkey, hvalue⟩ := ih outer '}' rest (Or.inr (Or.inr rfl))
    exact ⟨value, hkey, hvalue.trans skipBehind_closer⟩
  | @memberThen text inside _ _ ih ihrest =>
    intro outer rest
    rw [List.append_assoc, List.cons_append]
    -- the key behind the comma is read before the brackets are looked at again
    obtain ⟨value, hkey, hvalue⟩ := ih outer ',' (inside ++ '}' :: rest) (Or.inl rfl)
    obtain ⟨next, hnext, hbehind⟩ := ihrest outer rest
    exact ⟨value, hkey, hvalue.trans ((skipBehind_table hnext).trans hbehind)⟩

/-- **A value with blanks around it is skipped** up to the blanks behind it. -/
theorem skipValue_append {text : List Char} (h : Written .padded text) {c : Char} (hc : Delimits c)
    (rest : List Char) : ∃ back, Blanks back ∧ skipValue (text ++ c :: rest) = .ok (back ++ c :: rest) := by
  cases h with
  | @padded front text back hfront hvalue hback =>
    refine ⟨back, hback, ?_⟩
    have hskips := hvalue.skips [] (back ++ c :: rest) (ends_append hback (ends_of_delimits hc))
    unfold skipValue
    rw [List.append_assoc, List.append_assoc, skipWithin_eq, skipOpening_blanks hfront, ← skipWithin_eq, hskips,
      skipBehind_nil]

/-! ## What a value begins with -/

section Heads

variable {text rest tail : List Char} {c : Char}

/-- A value begins with no blank. -/
theorem Written.skipBlanks_eq (h : Written .value text) : skipBlanks (text ++ rest) = text ++ rest := by
  have hhead : ∃ c tail, text = c :: tail ∧ isBlank c = false := by
    cases h with
    | number hnumber =>
      obtain ⟨d, tail, rfl, hd⟩ := hnumber.head
      exact ⟨d, tail, rfl, isBlank_digit hd⟩
    | null => exact ⟨_, _, rfl, rfl⟩
    | yes => exact ⟨_, _, rfl, rfl⟩
    | no => exact ⟨_, _, rfl, rfl⟩
    | negative => exact ⟨_, _, rfl, rfl⟩
    | string => exact ⟨_, _, rfl, rfl⟩
    | emptyList => exact ⟨_, _, rfl, rfl⟩
    | list => exact ⟨_, _, rfl, rfl⟩
    | emptyTable => exact ⟨_, _, rfl, rfl⟩
    | table => exact ⟨_, _, rfl, rfl⟩
  obtain ⟨c, tail, rfl, hc⟩ := hhead
  exact skipBlanks_cons hc _

/-- A value has a first character of its own, whatever stands behind it. -/
theorem Written.exists_cons (h : Written .value text) (heq : text ++ rest = c :: tail) :
    ∃ inside, text = c :: inside ∧ tail = inside ++ rest := by
  cases text with
  | nil =>
    obtain ⟨c, tail, hskip, -⟩ := h.starts.skipBlanks_eq
    cases hskip
  | cons d inside =>
    obtain ⟨rfl, rfl⟩ := List.cons.inj heq
    exact ⟨inside, rfl, rfl⟩

/-- No number begins with anything but a digit. -/
theorem not_isNumber_cons (hc : c.isDigit = false) {lexeme : Lexeme} : ¬IsNumber lexeme (c :: text) := by
  intro h
  obtain ⟨d, tail, heq, hd⟩ := h.head
  cases heq
  rw [hc] at hd
  cases hd

theorem Written.of_quote (h : Written .value ('"' :: text)) : ∃ inside, IsString inside ∧ text = inside ++ ['"'] := by
  cases h with
  | number hnumber => exact absurd hnumber (not_isNumber_cons rfl)
  | string hinside => exact ⟨_, hinside, rfl⟩

theorem Written.of_n (h : Written .value ('n' :: text)) : text = ['u', 'l', 'l'] := by
  cases h with
  | number hnumber => exact absurd hnumber (not_isNumber_cons rfl)
  | null => rfl

theorem Written.of_t (h : Written .value ('t' :: text)) : text = ['r', 'u', 'e'] := by
  cases h with
  | number hnumber => exact absurd hnumber (not_isNumber_cons rfl)
  | yes => rfl

theorem Written.of_f (h : Written .value ('f' :: text)) : text = ['a', 'l', 's', 'e'] := by
  cases h with
  | number hnumber => exact absurd hnumber (not_isNumber_cons rfl)
  | no => rfl

theorem Written.of_minus (h : Written .value ('-' :: text)) : ∃ lexeme, IsNumber lexeme text := by
  cases h with
  | number hnumber => exact absurd hnumber (not_isNumber_cons rfl)
  | negative hnumber => exact ⟨_, hnumber⟩

theorem Written.of_digit (hc : c.isDigit = true) (h : Written .value (c :: text)) :
    ∃ lexeme, IsNumber lexeme (c :: text) := by
  cases h with
  | number hnumber => exact ⟨_, hnumber⟩
  | null => cases hc
  | yes => cases hc
  | no => cases hc
  | negative => cases hc
  | string => cases hc
  | emptyList => cases hc
  | list => cases hc
  | emptyTable => cases hc
  | table => cases hc

theorem Written.of_brace (h : Written .value ('{' :: text)) :
    (∃ blanks, Blanks blanks ∧ text = blanks ++ ['}']) ∨
      ∃ inside, Written .members inside ∧ text = inside ++ ['}'] := by
  cases h with
  | number hnumber => exact absurd hnumber (not_isNumber_cons rfl)
  | emptyTable hblanks => exact Or.inl ⟨_, hblanks, rfl⟩
  | table hinside => exact Or.inr ⟨_, hinside, rfl⟩

end Heads

end DeviceBroker.Json
