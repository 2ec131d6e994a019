import DeviceBroker.Proofs.Shown
import Mathlib.Data.List.DropRight
import Mathlib.Data.List.Forall2
import Mathlib.Data.List.Nodup
import Mathlib.Data.List.ReduceOption

/-!
# `Proofs.Shapes` — objects and lists of settings, read one value after the other

A document is an object or a list, and either is read from front to back with a draft of what was read so far. Here
is one step of each, and what all steps together come to: for members and values that show settings, the draft that
holds these; for any others, what can be told from the fact that they were read at all.

## Contents

* `restrict`, `Draft.holding` — some settings of others.
* `Member`, `Enclosed`, `IsObject`, `IsList` — **how documents are written**.
* `Presents`, `Says` — what values and members say.
* `readMembers_step`, `readMembers_listed`, `readMembers_listed_again` — members that say something.
* `Adds`, `distinct_of_readMembers` — members of any kind: **none is read that names a setting again**.
* `readElements_step`, `readElements_listed`, `length_le_of_readElements` — the values of a list.
-/

namespace DeviceBroker

namespace Settings

open Json

/-! ## Settings taken from others -/

/-- **Some settings of others**, and the defaults elsewhere. -/
def restrict (settings : Settings) (given : List Field) : Settings where
  socketPath := if .socketPath ∈ given then settings.socketPath else default.socketPath
  logFilter := if .logFilter ∈ given then settings.logFilter else default.logFilter
  logFormat := if .logFormat ∈ given then settings.logFormat else default.logFormat
  verbose := if .verbose ∈ given then settings.verbose else default.verbose
  bufferCapacity := if .bufferCapacity ∈ given then settings.bufferCapacity else default.bufferCapacity

theorem restrict_congr (settings : Settings) {given others : List Field} (h : ∀ field, field ∈ given ↔ field ∈ others) :
    settings.restrict given = settings.restrict others := by
  simp only [restrict, h]

theorem restrict_all (settings : Settings) {given : List Field} (h : ∀ field, field ∈ given) :
    settings.restrict given = settings := by
  simp only [restrict, h, if_true]

/-- The draft that holds some settings of others. -/
def Draft.holding (settings : Settings) (given : List Field) : Draft where
  socketPath := if .socketPath ∈ given then some settings.socketPath else none
  logFilter := if .logFilter ∈ given then some settings.logFilter else none
  logFormat := if .logFormat ∈ given then some settings.logFormat else none
  verbose := if .verbose ∈ given then some settings.verbose else none
  bufferCapacity := if .bufferCapacity ∈ given then some settings.bufferCapacity else none

theorem getD_ite {α : Type} (p : Prop) [Decidable p] (a b : α) :
    (if p then some a else none).getD b = if p then a else b := by
  split <;> rfl

section Holding

variable (settings : Settings) (given : List Field)

theorem Draft.complete_holding : (holding settings given).complete = settings.restrict given := by
  simp only [complete, holding, restrict, getD_ite]
  -- what a draft is completed with is what nobody has set
  rfl

theorem Draft.has_holding (field : Field) : (holding settings given).has field = decide (field ∈ given) := by
  cases field <;> simp only [has, holding] <;> split <;> simp [*]

theorem Draft.fill_holding (field : Field) :
    (holding settings given).fill settings field = holding settings (given ++ [field]) := by
  cases field <;> simp [fill, holding]

end Holding

/-! ## Documents -/

/-- **A member of an object** as it is written: any key and any value, and blanks wherever they are allowed. -/
structure Member where
  front : List Char
  /-- The inside of the key. -/
  key : List Char
  back : List Char
  /-- The value and the blanks around it. -/
  value : List Char
  isFront : Blanks front
  isKey : IsString key
  isBack : Blanks back
  isValue : Written .padded value

namespace Member

/-- The text of a member behind the quote of its key. -/
def behindQuote (member : Member) : List Char :=
  member.key ++ '"' :: (member.back ++ ':' :: member.value)

/-- The text of a member. -/
def text (member : Member) : List Char :=
  member.front ++ '"' :: member.behindQuote

/-- A member whose key is a setting's name, however that is written. -/
def Names (member : Member) (field : Field) : Prop :=
  Spells member.key field.key.toList

end Member

/-- Texts behind the first one, each behind a comma. -/
def listed (texts : List (List Char)) : List Char :=
  texts.flatMap (',' :: ·)

/-- **Texts between brackets**, with commas between them. -/
inductive Enclosed (opening closing : Char) : List (List Char) → List Char → Prop
  | empty {blanks : List Char} (h : Blanks blanks) : Enclosed opening closing [] (opening :: (blanks ++ [closing]))
  | full (text : List Char) (texts : List (List Char)) :
      Enclosed opening closing (text :: texts) (opening :: (text ++ (listed texts ++ [closing])))

/-- **A document** whose brackets enclose some texts. -/
def IsDocument (opening closing : Char) (texts : List (List Char)) (document : String) : Prop :=
  ∃ front inside back, Blanks front ∧ Enclosed opening closing texts inside ∧ Blanks back ∧
    document.toList = front ++ (inside ++ back)

/-- **An object** with some members. -/
def IsObject (members : List Member) (document : String) : Prop :=
  IsDocument '{' '}' (members.map Member.text) document

/-- **A list** with some values, each with the blanks around it. -/
def IsList (values : List (List Char)) (document : String) : Prop :=
  IsDocument '[' ']' values document

/-- **A setting's value with blanks around it.** -/
inductive Presents (settings : Settings) (field : Field) : List Char → Prop
  | mk {front text back : List Char} (hfront : Blanks front) (h : settings.Shows field text) (hback : Blanks back) :
      Presents settings field (front ++ (text ++ back))

/-- **What a member says**: the value of a setting, or something that nobody asks for. -/
inductive Says (settings : Settings) : Member → Option Field → Prop
  | known {member : Member} {field : Field} (hkey : member.Names field)
      (hvalue : settings.Presents field member.value) : Says settings member (some field)
  | foreign {member : Member} {name : String} (hkey : Spells member.key name.toList)
      (hname : Field.ofKey? name = none) : Says settings member none

/-! ## Steps through an object -/

section Objects

variable {settings : Settings} {draft next : Draft} {isFirst : Bool} {text rest blanks : List Char}

theorem readMembers_eq (draft : Draft) (isFirst : Bool) (text : List Char) :
    readMembers draft isFirst text =
      match nextMember isFirst text with
      | .error fault => .error fault
      | .ok (false, rest) => .ok (draft, rest)
      | .ok (true, rest) =>
        match readString [] rest with
        | .error fault => .error fault
        | .ok (key, rest) =>
          match readMember draft key rest with
          | .error fault => .error fault
          | .ok (next, rest) => readMembers next false rest := by
  rw [readMembers]
  split
  · next hnext => simp only [hnext]
  · next hnext => simp only [hnext]
  · next hnext =>
    split
    · next hkey => simp only [hnext, hkey]
    · next hkey =>
      split
      · next hvalue => simp only [hnext, hkey, hvalue]
      · next hvalue => simp only [hnext, hkey, hvalue]

/-- Blanks in front of a member do not matter. -/
theorem readMembers_blanks (h : Blanks blanks) :
    readMembers draft isFirst (blanks ++ text) = readMembers draft isFirst text := by
  rw [readMembers_eq, readMembers_eq, nextMember, nextMember, skipBlanks_append h]

theorem readMembers_end : readMembers draft isFirst ('}' :: rest) = .ok (draft, rest) := by
  have hnext : nextMember isFirst ('}' :: rest) = .ok (false, rest) := by
    unfold nextMember
    rw [skipBlanks_cons rfl]
    rfl
  rw [readMembers_eq, hnext]

theorem nextMember_first (member : Member) :
    nextMember true (member.text ++ rest) = .ok (true, member.behindQuote ++ rest) := by
  unfold nextMember Member.text
  rw [List.append_assoc, skipBlanks_append member.isFront, List.cons_append, skipBlanks_cons rfl]
  rfl

theorem nextMember_comma (member : Member) :
    nextMember false (',' :: (member.text ++ rest)) = .ok (true, member.behindQuote ++ rest) := by
  unfold nextMember Member.text
  rw [skipBlanks_cons rfl, List.append_assoc, List.cons_append]
  show (expect '"' (member.front ++ '"' :: (member.behindQuote ++ rest))).map _ = _
  rw [expect_append member.isFront rfl]
  rfl

/-- A setting's value is read up to the blanks behind it. -/
theorem readField_presents {field : Field} (h : settings.Presents field text) {c : Char} (hc : Delimits c)
    (draft : Draft) (rest : List Char) :
    ∃ back, Blanks back ∧
      readField draft field (text ++ c :: rest) = .ok (draft.fill settings field, back ++ c :: rest) := by
  cases h with
  | @mk front text back hfront hshows hback =>
    refine ⟨back, hback, ?_⟩
    rw [List.append_assoc, List.append_assoc]
    exact readField_shows hfront hshows (ends_append hback (ends_of_delimits hc))

/-- The key of a member is read as what it says. -/
theorem readString_key {member : Member} {key : String} (hkey : Spells member.key key.toList) :
    readString [] (member.behindQuote ++ rest) = .ok (key, member.back ++ ':' :: (member.value ++ rest)) := by
  unfold Member.behindQuote
  rw [List.append_assoc, List.cons_append, List.append_assoc, List.cons_append, readString_append hkey]
  simp

theorem expect_colon (member : Member) : expect ':' (member.back ++ ':' :: rest) = .ok rest := by
  rw [expect_append member.isBack rfl, if_pos rfl]

/-- **A member is read as what it says**, if that was not said before. -/
theorem readMembers_member {member : Member} {said : Option Field} (h : settings.Says member said)
    (hnew : ∀ field, said = some field → draft.has field = false) {c : Char} (hc : Delimits c)
    (hnext : nextMember isFirst text = .ok (true, member.behindQuote ++ c :: rest)) :
    readMembers draft isFirst text = readMembers (said.elim draft (draft.fill settings)) false (c :: rest) := by
  rw [readMembers_eq, hnext]
  dsimp only
  cases h with
  | @known field hkey hvalue =>
    obtain ⟨back, hback, hread⟩ := readField_presents hvalue hc draft rest
    have hmember : readMember draft field.key (member.back ++ ':' :: (member.value ++ c :: rest))
        = .ok (draft.fill settings field, back ++ c :: rest) := by
      unfold readMember
      rw [Field.ofKey?_key, expect_colon]
      dsimp only
      rw [if_neg (by simp [hnew field rfl])]
      exact hread
    rw [readString_key hkey]
    dsimp only
    rw [hmember]
    exact readMembers_blanks hback
  | @foreign name hkey hname =>
    obtain ⟨back, hback, hskip⟩ := skipValue_append member.isValue hc rest
    have hmember : readMember draft name (member.back ++ ':' :: (member.value ++ c :: rest))
        = .ok (draft, back ++ c :: rest) := by
      unfold readMember
      rw [hname, expect_colon]
      show (skipValue (member.value ++ c :: rest) >>= fun rest => pure (draft, rest)) = _
      rw [hskip]
      rfl
    rw [readString_key hkey]
    dsimp only
    rw [hmember]
    exact readMembers_blanks hback

/-- **A member that says again what was said before is refused**, and the error names its key. -/
theorem readMembers_again {member : Member} {field : Field} (hkey : member.Names field)
    (hold : draft.has field = true) (hnext : nextMember isFirst text = .ok (true, member.behindQuote ++ rest)) :
    readMembers draft isFirst text = .error (.mismatch (.duplicate field.key)) := by
  have hmember : readMember draft field.key (member.back ++ ':' :: (member.value ++ rest))
      = .error (.mismatch (.duplicate field.key)) := by
    unfold readMember
    rw [Field.ofKey?_key]
    exact if_pos hold
  rw [readMembers_eq, hnext]
  dsimp only
  rw [readString_key hkey]
  dsimp only
  rw [hmember]

/-- Behind a text between brackets stands a comma or the closing bracket. -/
theorem exists_delimits (texts : List (List Char)) {closing : Char} (hclosing : Delimits closing) (rest : List Char) :
    ∃ c tail, listed texts ++ closing :: rest = c :: tail ∧ Delimits c := by
  cases texts with
  | nil => exact ⟨closing, rest, rfl, hclosing⟩
  | cons text texts => exact ⟨',', text ++ listed texts ++ closing :: rest, rfl, Or.inl rfl⟩

theorem listed_cons (text : List Char) (texts : List (List Char)) :
    listed (text :: texts) ++ rest = ',' :: (text ++ (listed texts ++ rest)) := by
  simp [listed]

/-- One member of an object that says nothing again. -/
theorem readMembers_step {member : Member} {said : Option Field} (h : settings.Says member said) (given : List Field)
    (hnew : (given ++ said.toList).Nodup) {texts : List (List Char)}
    (hnext : nextMember isFirst text = .ok (true, member.behindQuote ++ (listed texts ++ '}' :: rest))) :
    readMembers (Draft.holding settings given) isFirst text
      = readMembers (Draft.holding settings (given ++ said.toList)) false (listed texts ++ '}' :: rest) := by
  obtain ⟨c, tail, hbehind, hc⟩ := exists_delimits texts (Or.inr (Or.inr rfl)) rest
  rw [hbehind] at hnext ⊢
  rw [readMembers_member h ?_ hc hnext]
  · cases said with
    | none => rw [Option.toList_none, List.append_nil]; rfl
    | some field => rw [Option.elim_some, Draft.fill_holding]; rfl
  · rintro field rfl
    rw [Draft.has_holding, decide_eq_false_iff_not]
    intro hold
    exact List.disjoint_of_nodup_append hnew hold (List.mem_singleton_self field)

theorem reduceOption_cons (field? : Option Field) (said : List (Option Field)) :
    (field? :: said).reduceOption = field?.toList ++ said.reduceOption := by
  cases field? <;> simp

/-- **The members behind the first one** are read one after the other. -/
theorem readMembers_listed {members : List Member} {said : List (Option Field)}
    (h : List.Forall₂ settings.Says members said) (given : List Field) (hgiven : (given ++ said.reduceOption).Nodup) :
    readMembers (Draft.holding settings given) false (listed (members.map Member.text) ++ '}' :: rest)
      = .ok (Draft.holding settings (given ++ said.reduceOption), rest) := by
  induction h generalizing given with
  | nil => rw [List.reduceOption_nil, List.append_nil]; exact readMembers_end
  | @cons member field? members said hmember _ ih =>
    rw [reduceOption_cons, ← List.append_assoc] at hgiven ⊢
    rw [List.map_cons, listed_cons, readMembers_step hmember given hgiven.of_append_left (nextMember_comma member)]
    exact ih (given ++ field?.toList) hgiven

/-- **A setting said again** by one of the members behind the first one is refused by its name. -/
theorem readMembers_listed_again {members : List Member} {said : List (Option Field)}
    (h : List.Forall₂ settings.Says members said) (given : List Field) (hgiven : given.Nodup)
    (hagain : ¬(given ++ said.reduceOption).Nodup) :
    ∃ field : Field, readMembers (Draft.holding settings given) false
        (listed (members.map Member.text) ++ '}' :: rest) = .error (.mismatch (.duplicate field.key)) := by
  induction h generalizing given with
  | nil => exact absurd (by rwa [List.reduceOption_nil, List.append_nil]) hagain
  | @cons member field? members said hmember _ ih =>
    rw [reduceOption_cons, ← List.append_assoc] at hagain
    rw [List.map_cons, listed_cons]
    -- either this member repeats a setting or a later one does
    by_cases hnew : (given ++ field?.toList).Nodup
    · rw [readMembers_step hmember given hnew (nextMember_comma member)]
      exact ih (given ++ field?.toList) hnew hagain
    · cases hmember with
      | @known field hkey _ =>
        refine ⟨field, readMembers_again hkey ?_ (nextMember_comma member)⟩
        rw [Draft.has_holding, decide_eq_true_iff]
        by_contra hfresh
        exact hnew (List.nodup_append_comm.1 (List.nodup_cons.2 ⟨hfresh, hgiven⟩))
      | foreign => exact absurd (by rwa [Option.toList_none, List.append_nil]) hnew

end Objects

/-! ## Objects with any values -/

section Any

variable {draft next done : Draft} {isFirst : Bool} {text rest behind : List Char}

/-- The reader of a setting gets as far as a value with blanks around it reaches, but for the last blanks. -/
theorem readField_padded {field : Field} (h : Written .padded text) {c : Char} (hc : Delimits c)
    (hread : readField draft field (text ++ c :: rest) = .ok (next, behind)) :
    ∃ back, Blanks back ∧ behind = back ++ c :: rest := by
  cases h with
  | @padded front text back hfront hvalue hback =>
    rw [List.append_assoc, List.append_assoc] at hread
    have hends : Ends (back ++ c :: rest) := ends_append hback (ends_of_delimits hc)
    exact ⟨back, hback, exact_readField draft field _ _ _ _ _ hfront hvalue hends hread⟩

/-- **A member that is read** says nothing again, and what it says is in the draft behind it. -/
structure Adds (draft next : Draft) (member : Member) : Prop where
  isNew : ∀ field, member.Names field → draft.has field = false
  added : ∀ field, member.Names field → next.has field = true
  stays : ∀ field, draft.has field = true → next.has field = true

/-- What nobody has said behind a member is not what that member says. -/
theorem Adds.distinct {member other : Member} (h : Adds draft next member)
    (hnew : ∀ field, other.Names field → next.has field = false) (field : Field) (hnames : member.Names field) :
    ¬other.Names field := by
  intro hagain
  have hadded := h.added field hnames
  rw [hnew field hagain] at hadded
  cases hadded

/-- A setting's name says nothing but this name. -/
theorem Member.Names.key_eq {member : Member} {field : Field} (h : member.Names field) {key : String}
    (hread : readString [] (member.behindQuote ++ rest) = .ok (key, behind)) : key = field.key := by
  rw [readString_key h] at hread
  cases hread
  rfl

theorem adds_of_readMember {member : Member} {key : String} {c : Char} (hc : Delimits c)
    (hkey : ∀ field, member.Names field → key = field.key)
    (hread : readMember draft key (member.back ++ ':' :: (member.value ++ c :: rest)) = .ok (next, behind)) :
    Adds draft next member ∧ ∃ back, Blanks back ∧ behind = back ++ c :: rest := by
  unfold readMember at hread
  rw [expect_colon] at hread
  split at hread
  · next hforeign =>
    obtain ⟨back, hback, hskip⟩ := skipValue_append member.isValue hc rest
    have hbehind : (.ok (draft, back ++ c :: rest) : Except ReadError (Draft × List Char)) = .ok (next, behind) := by
      rw [← hread]
      show _ = (skipValue (member.value ++ c :: rest) >>= fun rest => pure (draft, rest))
      rw [hskip]
      rfl
    cases hbehind
    have hnone : ∀ field, ¬member.Names field := by
      intro field hnames
      rw [hkey field hnames, Field.ofKey?_key] at hforeign
      cases hforeign
    exact ⟨⟨fun field h => absurd h (hnone field), fun field h => absurd h (hnone field), fun _ h => h⟩,
      back, hback, rfl⟩
  · next found hfound =>
    split at hread
    · cases hread
    · next hnew =>
      have hbehind := readField_padded member.isValue hc hread
      have hsame : ∀ field, member.Names field → field = found := by
        intro field hnames
        rw [hkey field hnames, Field.ofKey?_key] at hfound
        exact Option.some.inj hfound
      refine ⟨⟨?_, ?_, ?_⟩, hbehind⟩
      · intro field hnames
        rw [hsame field hnames]
        simpa using hnew
      · intro field hnames
        rw [has_readField hread, hsame field hnames]
        simp
      · intro field hold
        rw [has_readField hread, hold]
        simp

/-- One member of an object that can be read, whatever it says. -/
theorem adds_of_readMembers {member : Member} {c : Char} (hc : Delimits c)
    (hnext : nextMember isFirst text = .ok (true, member.behindQuote ++ c :: rest))
    (hread : readMembers draft isFirst text = .ok (done, behind)) :
    ∃ next, Adds draft next member ∧ readMembers next false (c :: rest) = .ok (done, behind) := by
  rw [readMembers_eq, hnext] at hread
  dsimp only at hread
  split at hread
  · cases hread
  · next key after hkey =>
    have hnames : ∀ field, member.Names field → key = field.key := fun field h => h.key_eq hkey
    have hafter : after = member.back ++ ':' :: (member.value ++ c :: rest) := by
      unfold Member.behindQuote at hkey
      rw [List.append_assoc, List.cons_append, List.append_assoc, List.cons_append] at hkey
      exact readString_exact member.isKey hkey
    subst hafter
    split at hread
    · cases hread
    · next next tail hmember =>
      obtain ⟨hadds, back, hback, rfl⟩ := adds_of_readMember hc hnames hmember
      rw [readMembers_blanks hback] at hread
      exact ⟨next, hadds, hread⟩

/-- **No two members of an object that can be read name the same setting.** -/
theorem distinct_of_readMembers {members : List Member}
    (hread : readMembers draft false (listed (members.map Member.text) ++ '}' :: rest) = .ok (done, behind)) :
    (∀ member ∈ members, ∀ field, member.Names field → draft.has field = false) ∧
      members.Pairwise fun a b => ∀ field, a.Names field → ¬b.Names field := by
  induction members generalizing draft with
  | nil => exact ⟨nofun, .nil⟩
  | cons member members ih =>
    obtain ⟨c, tail, hbehind, hc⟩ := exists_delimits (members.map Member.text) (Or.inr (Or.inr rfl)) rest
    rw [List.map_cons, listed_cons, hbehind] at hread
    obtain ⟨next, hadds, hrest⟩ := adds_of_readMembers hc (nextMember_comma member) hread
    rw [← hbehind] at hrest
    obtain ⟨hnew, hdistinct⟩ := ih hrest
    refine ⟨?_, List.pairwise_cons.2 ⟨fun other hother => hadds.distinct (hnew other hother), hdistinct⟩⟩
    -- nothing that the draft holds in front of this member is lost behind it
    intro other hother field hnames
    rcases List.mem_cons.1 hother with rfl | hother
    · exact hadds.isNew field hnames
    · by_contra hold
      have hstays := hadds.stays field (by simpa using hold)
      rw [hnew other hother field hnames] at hstays
      cases hstays

end Any

/-! ## Lists -/

section Lists

variable {settings : Settings} {draft done : Draft} {isFirst : Bool} {text value rest blanks behind : List Char}
  {field : Field} {fields : List Field}

theorem nextElement_blanks (h : Blanks blanks) : nextElement isFirst (blanks ++ text) = nextElement isFirst text := by
  rw [nextElement, nextElement, skipBlanks_append h]

theorem nextElement_end : nextElement isFirst (']' :: rest) = .ok (false, rest) := by
  unfold nextElement
  rw [skipBlanks_cons rfl]
  rfl

theorem nextElement_first (h : Starts text) : nextElement true text = .ok (true, skipBlanks text) := by
  obtain ⟨c, tail, hskip, hc, -⟩ := h.skipBlanks_eq
  unfold nextElement
  rw [hskip]
  split
  · next heq => cases heq
  · next heq => exact absurd (List.cons.inj heq).1 hc
  · next heq =>
    cases heq
    rfl

theorem nextElement_comma (h : Starts text) : nextElement false (',' :: text) = .ok (true, skipBlanks text) := by
  obtain ⟨c, tail, hskip, hc, -⟩ := h.skipBlanks_eq
  unfold nextElement
  rw [skipBlanks_cons rfl]
  split
  · next heq => cases heq
  · next heq => exact absurd (List.cons.inj heq).1 (by decide)
  · next heq =>
    cases heq
    rw [if_neg Bool.false_ne_true, if_pos rfl, hskip]
    split
    · next heq => cases heq
    · next heq => exact absurd (List.cons.inj heq).1 hc
    · rfl

theorem readElements_blanks (h : Blanks blanks) :
    readElements draft isFirst fields (blanks ++ text) = readElements draft isFirst fields text := by
  cases fields with
  | nil => rw [readElements, readElements, expect, expect, skipBlanks_append h]
  | cons field fields => rw [readElements, readElements, nextElement_blanks h]

/-- The reader of a setting skips blanks by itself. -/
theorem readField_skipBlanks : readField draft field (skipBlanks text) = readField draft field text := by
  have hskip : skipBlanks (skipBlanks text) = skipBlanks text := List.dropWhile_idempotent _ _
  cases field with
  | socketPath => rw [readField, readField, readText, readText, hskip]
  | logFilter => rw [readField, readField, readText, readText, hskip]
  | logFormat => rw [readField, readField, readFormat, readFormat, hskip]
  | verbose => rw [readField, readField, readBool, readBool, hskip]
  | bufferCapacity => rw [readField, readField, readCapacity, readCapacity, hskip]

/-- **One value of a list** is read as that of the setting whose turn it is. -/
theorem readElements_step (h : settings.Presents field value) {c : Char} (hc : Delimits c)
    (hnext : nextElement isFirst text = .ok (true, skipBlanks (value ++ c :: rest))) :
    readElements draft isFirst (field :: fields) text
      = readElements (draft.fill settings field) false fields (c :: rest) := by
  obtain ⟨back, hback, hread⟩ := readField_presents h hc draft rest
  rw [readElements, hnext]
  dsimp only
  rw [readField_skipBlanks, hread]
  exact readElements_blanks hback

/-- Where a list ends, all settings whose turn has not come are left out. -/
theorem readElements_end : readElements draft false fields (']' :: rest) = .ok (draft, rest) := by
  cases fields with
  | nil =>
    have hexpect : expect ']' (']' :: rest) = .ok rest := by
      rw [show ']' :: rest = [] ++ ']' :: rest from rfl, expect_append blanks_nil rfl, if_pos rfl]
    rw [readElements, hexpect]
    rfl
  | cons field fields => rw [readElements, nextElement_end]

theorem Presents.starts (h : settings.Presents field value) : Starts value := by
  cases h with
  | mk hfront hshows hback => exact starts_append hfront (hshows.isWritten.starts.append _)

/-- **The values of a list behind the first one** are read in the order of the settings. -/
theorem readElements_listed {values : List (List Char)} (h : List.Forall₂ settings.Presents fields values)
    (given others : List Field) :
    readElements (Draft.holding settings given) false (fields ++ others) (listed values ++ ']' :: rest)
      = .ok (Draft.holding settings (given ++ fields), rest) := by
  induction h generalizing given with
  | nil => rw [List.append_nil]; exact readElements_end
  | @cons field value fields values hvalue _ ih =>
    obtain ⟨c, tail, hbehind, hc⟩ := exists_delimits values (Or.inr (Or.inl rfl)) rest
    have hstep := ih (given ++ [field])
    rw [listed_cons]
    rw [hbehind] at hstep ⊢
    rw [List.cons_append, readElements_step hvalue hc (nextElement_comma (hvalue.starts.append _)),
      Draft.fill_holding, hstep, List.append_assoc, List.singleton_append]

/-- **A list that can be read has no more values than there are settings.** -/
theorem length_le_of_readElements {values : List (List Char)} (h : ∀ value ∈ values, Written .padded value)
    (hread : readElements draft false fields (listed values ++ ']' :: rest) = .ok (done, behind)) :
    values.length ≤ fields.length := by
  induction values generalizing draft fields with
  | nil => exact Nat.zero_le _
  | cons value values ih =>
    obtain ⟨c, tail, hbehind, hc⟩ := exists_delimits values (Or.inr (Or.inl rfl)) rest
    have hvalue := h value List.mem_cons_self
    rw [listed_cons, hbehind] at hread
    cases fields with
    | nil =>
      -- no setting is left, and a comma is not the end of the list
      have hexpect : expect ']' (',' :: (value ++ c :: tail)) = .error .malformed := by
        rw [show ',' :: (value ++ c :: tail) = [] ++ ',' :: (value ++ c :: tail) from rfl,
          expect_append blanks_nil rfl, if_neg (by decide)]
      rw [readElements, hexpect] at hread
      cases hread
    | cons field fields =>
      rw [readElements, nextElement_comma (hvalue.starts.append _)] at hread
      dsimp only at hread
      rw [readField_skipBlanks] at hread
      split at hread
      · cases hread
      · next next after hfield =>
        obtain ⟨back, hback, rfl⟩ := readField_padded hvalue hc hfield
        rw [readElements_blanks hback, ← hbehind] at hread
        exact Nat.succ_le_succ (ih (fun other hother => h other (List.mem_cons_of_mem _ hother)) hread)

end Lists

end Settings

end DeviceBroker
