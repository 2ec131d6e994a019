import DeviceBroker.Json.Token

/-!
# `Json.Skip` — finding the end of a value

A value that nobody asks for is skipped. How deep it is nested does not matter: the brackets that are
open are kept in a list.

## Contents

* `Bracket` — an open bracket.
* `skipKey` — a key with its colon.
* `skipValue` — a value, and what closes the brackets that were open before it.
-/

namespace DeviceBroker.Json

/-- An open bracket. -/
inductive Bracket where
  | list | table
  deriving Repr, DecidableEq

/-- The character that closes a bracket. -/
def Bracket.closer : Bracket → Char
  | list => ']'
  | table => '}'

/-- Skips blanks, a key and its colon. -/
def skipKey (text : List Char) : Except ReadError (List Char) :=
  match skipBlanks text with
  | [] => .error .truncated
  | '"' :: rest =>
    match skipString rest with
    | .error e => .error e
    | .ok rest =>
      match skipBlanks rest with
      | [] => .error .truncated
      | ':' :: rest => .ok rest
      | _ => .error .malformed
  | _ => .error .malformed

theorem length_skipKey_lt {text rest : List Char} (h : skipKey text = .ok rest) :
    rest.length < text.length := by
  unfold skipKey at h
  have h₀ := length_skipBlanks_le text
  split at h
  · cases h
  · split at h
    · cases h
    · next found =>
      have h₁ := length_skipString_lt found
      split at h
      · cases h
      · next r _ tail front =>
        have h₂ := length_skipBlanks_le r
        rw [front, List.length_cons] at h₂
        cases h
        simp_all; omega
      · cases h
  · cases h

/-- What begins at the front of a text where a value is due. -/
inductive Opening where
  /-- A value without parts, and the text behind it. -/
  | leaf (rest : List Char)
  /-- A bracket, and the text behind it. -/
  | bracket (bracket : Bracket) (rest : List Char)
  deriving Repr, DecidableEq

/-- The text behind an opening. -/
def Opening.rest : Opening → List Char
  | leaf rest => rest
  | bracket _ rest => rest

/-- A leaf that ends where the reader says. -/
def Opening.ofLeaf (result : Except ReadError (List Char)) : Except ReadError Opening :=
  result.map Opening.leaf

/-- Skips a leaf, or an opening bracket. -/
def skipOpening (text : List Char) : Except ReadError Opening :=
  match skipBlanks text with
  | [] => .error .truncated
  | c :: rest =>
    match c with
    | 'n' => Opening.ofLeaf (literal ['u', 'l', 'l'] rest)
    | 't' => Opening.ofLeaf (literal ['r', 'u', 'e'] rest)
    | 'f' => Opening.ofLeaf (literal ['a', 'l', 's', 'e'] rest)
    | '"' => Opening.ofLeaf (skipString rest)
    | '-' => Opening.ofLeaf (skipNumber rest)
    | '[' => .ok (.bracket .list rest)
    | '{' => .ok (.bracket .table rest)
    | c => if c.isDigit then Opening.ofLeaf (skipNumber (c :: rest)) else .error .malformed

theorem length_skipOpening_lt {text : List Char} {opening : Opening}
    (h : skipOpening text = .ok opening) : opening.rest.length < text.length := by
  have ofLeaf_ok : ∀ {result : Except ReadError (List Char)},
      Opening.ofLeaf result = .ok opening → ∃ rest, result = .ok rest ∧ opening = .leaf rest := by
    intro result hr
    cases result with
    | error e => simp [Opening.ofLeaf, Except.map] at hr
    | ok rest => exact ⟨rest, rfl, by simpa [Opening.ofLeaf, Except.map] using hr.symm⟩
  unfold skipOpening at h
  have h₀ := length_skipBlanks_le text
  split at h
  · cases h
  · next c rest hc =>
    rw [hc, List.length_cons] at h₀
    split at h
    · obtain ⟨r, hr, rfl⟩ := ofLeaf_ok h
      have := length_literal_le hr
      simp only [Opening.rest]; omega
    · obtain ⟨r, hr, rfl⟩ := ofLeaf_ok h
      have := length_literal_le hr
      simp only [Opening.rest]; omega
    · obtain ⟨r, hr, rfl⟩ := ofLeaf_ok h
      have := length_literal_le hr
      simp only [Opening.rest]; omega
    · obtain ⟨r, hr, rfl⟩ := ofLeaf_ok h
      have := length_skipString_lt hr
      simp only [Opening.rest]; omega
    · obtain ⟨r, hr, rfl⟩ := ofLeaf_ok h
      have := length_skipNumber_lt hr
      simp only [Opening.rest]; omega
    · cases h; simp only [Opening.rest]; omega
    · cases h; simp only [Opening.rest]; omega
    · split at h
      · obtain ⟨r, hr, rfl⟩ := ofLeaf_ok h
        have := length_skipNumber_lt hr
        simp only [List.length_cons, Opening.rest] at *; omega
      · cases h

mutual

/-- Skips a value and whatever closes the brackets in `within`, innermost first. -/
def skipWithin (within : List Bracket) (text : List Char) : Except ReadError (List Char) :=
  match _opening : skipOpening text with
  | .error e => .error e
  | .ok (.leaf rest) => skipBehind within rest
  | .ok (.bracket bracket rest) =>
    match _front : skipBlanks rest with
    | [] => .error .truncated
    | c :: behind =>
      if c = bracket.closer then skipBehind within behind
      else
        match bracket with
        | .list => skipWithin (.list :: within) rest
        | .table =>
          match _key : skipKey rest with
          | .error e => .error e
          | .ok rest => skipWithin (.table :: within) rest
termination_by text.length
decreasing_by
  · have := length_skipOpening_lt _opening
    simpa [Opening.rest] using this
  · have h₁ := length_skipOpening_lt _opening
    have h₂ := length_skipBlanks_le rest
    rw [_front] at h₂
    simp [Opening.rest] at h₁ h₂; omega
  · have := length_skipOpening_lt _opening
    simpa [Opening.rest] using this
  · have h₁ := length_skipOpening_lt _opening
    have h₂ := length_skipKey_lt _key
    simp [Opening.rest] at h₁; omega

/-- Skips what stands behind a value inside the brackets in `within`. -/
def skipBehind (within : List Bracket) (text : List Char) : Except ReadError (List Char) :=
  match within with
  | [] => .ok text
  | bracket :: outer =>
    match _front : skipBlanks text with
    | [] => .error .truncated
    | c :: rest =>
      if c = ',' then
        match bracket with
        | .list => skipWithin (.list :: outer) rest
        | .table =>
          match _key : skipKey rest with
          | .error e => .error e
          | .ok rest => skipWithin (.table :: outer) rest
      else if c = bracket.closer then skipBehind outer rest
      else .error .malformed
termination_by text.length
decreasing_by
  · have h₂ := length_skipBlanks_le text
    rw [_front] at h₂
    simp at h₂; omega
  · have h₁ := length_skipKey_lt _key
    have h₂ := length_skipBlanks_le text
    rw [_front] at h₂
    simp at h₂; omega
  · have h₂ := length_skipBlanks_le text
    rw [_front] at h₂
    simp at h₂; omega

end

/-- **Skips a value.** -/
def skipValue (text : List Char) : Except ReadError (List Char) :=
  skipWithin [] text

/-- Both skipping functions return a shorter text: what stands behind a value may be nothing, a value
    never is. -/
theorem length_skip (size : Nat) :
    (∀ {within text rest}, text.length ≤ size → skipWithin within text = .ok rest →
      rest.length < text.length) ∧
    (∀ {within text rest}, text.length ≤ size → skipBehind within text = .ok rest →
      rest.length ≤ text.length) := by
  induction size with
  | zero =>
    refine ⟨fun hs h => ?_, fun hs h => ?_⟩
    · rw [List.length_eq_zero_iff.1 (Nat.le_zero.1 hs)] at h
      simp [skipWithin, skipOpening, skipBlanks] at h
    · rw [List.length_eq_zero_iff.1 (Nat.le_zero.1 hs)] at h ⊢
      unfold skipBehind at h
      split at h
      · cases h; simp
      · simp [skipBlanks] at h
  | succ size ih =>
    obtain ⟨ihWithin, ihBehind⟩ := ih
    refine ⟨fun {within text rest} hs h => ?_, fun {within text rest} hs h => ?_⟩
    · unfold skipWithin at h
      split at h
      · cases h
      · next r found =>
        have h₁ := length_skipOpening_lt found
        simp only [Opening.rest] at h₁
        have := ihBehind (by omega) h
        omega
      · next bracket r found =>
        have h₁ := length_skipOpening_lt found
        simp only [Opening.rest] at h₁
        split at h
        · cases h
        · next c behind front =>
          have h₂ := length_skipBlanks_le r
          rw [front, List.length_cons] at h₂
          split at h
          · have := ihBehind (by omega) h
            omega
          · split at h
            · have := ihWithin (by omega) h
              omega
            · split at h
              · cases h
              · next key =>
                have := length_skipKey_lt key
                have := ihWithin (by omega) h
                omega
    · unfold skipBehind at h
      split at h
      · cases h; exact Nat.le_refl _
      · split at h
        · cases h
        · next c behind front =>
          have h₂ := length_skipBlanks_le text
          rw [front, List.length_cons] at h₂
          split at h
          · split at h
            · have := ihWithin (by omega) h
              omega
            · split at h
              · cases h
              · next key =>
                have := length_skipKey_lt key
                have := ihWithin (by omega) h
                omega
          · split at h
            · have := ihBehind (by omega) h
              omega
            · cases h

theorem length_skipValue_lt {text rest : List Char} (h : skipValue text = .ok rest) :
    rest.length < text.length :=
  (length_skip text.length).1 (Nat.le_refl _) h

end DeviceBroker.Json
