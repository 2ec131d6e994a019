import DeviceBroker.Proofs.Shapes

/-!
# `Proofs.Fieldwise` — documents say of each setting what they hold

A document is an object with some settings in any order and other keys anywhere, or a list of the first few. Of
every setting that it holds its value counts, and of every other one the default, in whichever shape, whatever
stands under the other keys and however all of it is written. What is written is read back.

## Contents

* `IsObject.read_cons`, `IsList.read_cons` — documents, from the first member or value on.
* `readDocument_of_members`, `readDocument_of_presents` — **what a document is read as**.
* `readDocument_of_again`, `not_readDocument_of_names`, `not_readDocument_of_length` — what is refused.
* `Enters`, `exists_isObject` — settings as they are written, among other entries.
* `Fieldwise`, `ofJson_fieldwise` — **every setting by itself**.
-/

namespace DeviceBroker

namespace Settings

open Json

/-! ## Whole documents -/

section Documents

variable {settings : Settings} {draft : Draft} {front back rest : List Char} {document : String}

theorem readDocument_object (h : Blanks front) : readDocument (front ++ '{' :: rest) = readMembers {} true rest := by
  unfold readDocument
  rw [skipBlanks_append h, skipBlanks_cons rfl]
  rfl

theorem readDocument_list (h : Blanks front) :
    readDocument (front ++ '[' :: rest) = readElements {} true Field.all rest := by
  unfold readDocument
  rw [skipBlanks_append h, skipBlanks_cons rfl]
  rfl

/-- An object without members says nothing. -/
theorem IsObject.read_nil (h : IsObject [] document) :
    ∃ back, Blanks back ∧ readDocument document.toList = .ok ({}, back) := by
  obtain ⟨front, inside, back, hfront, hinside, hback, hdocument⟩ := h
  refine ⟨back, hback, ?_⟩
  rw [List.map_nil] at hinside
  cases hinside with
  | @empty blanks hblanks =>
    rw [hdocument, List.cons_append, List.append_assoc, readDocument_object hfront, readMembers_blanks hblanks]
    exact readMembers_end

/-- An object with members is read from the first one on. -/
theorem IsObject.read_cons {member : Member} {members : List Member} (h : IsObject (member :: members) document) :
    ∃ back, Blanks back ∧ readDocument document.toList
      = readMembers {} true (member.text ++ (listed (members.map Member.text) ++ '}' :: back)) := by
  obtain ⟨front, inside, back, hfront, hinside, hback, hdocument⟩ := h
  refine ⟨back, hback, ?_⟩
  rw [List.map_cons] at hinside
  cases hinside with
  | full =>
    rw [hdocument, List.cons_append, List.append_assoc, List.append_assoc, readDocument_object hfront]
    rfl

/-- A list without values says nothing. -/
theorem IsList.read_nil (h : IsList [] document) :
    ∃ back, Blanks back ∧ readDocument document.toList = .ok ({}, back) := by
  obtain ⟨front, inside, back, hfront, hinside, hback, hdocument⟩ := h
  refine ⟨back, hback, ?_⟩
  cases hinside with
  | @empty blanks hblanks =>
    rw [hdocument, List.cons_append, List.append_assoc, readDocument_list hfront, readElements_blanks hblanks]
    rfl

/-- A list with values is read from the first one on. -/
theorem IsList.read_cons {value : List Char} {values : List (List Char)} (h : IsList (value :: values) document) :
    ∃ back, Blanks back ∧
      readDocument document.toList = readElements {} true Field.all (value ++ (listed values ++ ']' :: back)) := by
  obtain ⟨front, inside, back, hfront, hinside, hback, hdocument⟩ := h
  refine ⟨back, hback, ?_⟩
  cases hinside with
  | full =>
    rw [hdocument, List.cons_append, List.append_assoc, List.append_assoc, readDocument_list hfront]
    rfl

theorem ofJson_of_draft (hread : readDocument document.toList = .ok (draft, back)) (hback : Blanks back) :
    ofJson document = .ok draft.complete := by
  have hskip : skipBlanks back = [] := List.dropWhile_eq_nil_iff.2 hback
  unfold ofJson
  rw [hread]
  dsimp only
  rw [hskip]
  rfl

theorem Draft.holding_nil (settings : Settings) : holding settings [] = {} := by
  simp [holding]

/-- **An object whose members say each setting once at most** is read as what they say. -/
theorem readDocument_of_members {members : List Member} {said : List (Option Field)}
    (h : List.Forall₂ settings.Says members said) (hnew : said.reduceOption.Nodup)
    (hobject : IsObject members document) :
    ∃ back, Blanks back ∧ readDocument document.toList = .ok (Draft.holding settings said.reduceOption, back) := by
  cases h with
  | nil => exact hobject.read_nil
  | @cons member field? members said hmember hmembers =>
    obtain ⟨back, hback, hread⟩ := hobject.read_cons
    refine ⟨back, hback, ?_⟩
    rw [reduceOption_cons] at hnew ⊢
    -- the first member has no comma in front, so its step is apart from those of the others
    rw [hread, ← Draft.holding_nil settings,
      readMembers_step hmember [] hnew.of_append_left (nextMember_first member)]
    exact readMembers_listed hmembers _ hnew

/-- **An object that says a setting twice** is refused by its name. -/
theorem readDocument_of_again {members : List Member} {said : List (Option Field)}
    (h : List.Forall₂ settings.Says members said) (hagain : ¬said.reduceOption.Nodup)
    (hobject : IsObject members document) :
    ∃ field : Field, readDocument document.toList = .error (.mismatch (.duplicate field.key)) := by
  cases h with
  | nil => exact absurd List.nodup_nil hagain
  | @cons member field? members said hmember hmembers =>
    obtain ⟨back, -, hread⟩ := hobject.read_cons
    rw [reduceOption_cons] at hagain
    have hone : field?.toList.Nodup := by cases field? <;> simp
    obtain ⟨field, hrest⟩ := readMembers_listed_again hmembers field?.toList hone hagain
    refine ⟨field, ?_⟩
    rw [hread, ← Draft.holding_nil settings, readMembers_step hmember [] hone (nextMember_first member)]
    exact hrest

/-- **A list of the first few settings** is read as these. -/
theorem readDocument_of_presents {given others : List Field} (hall : Field.all = given ++ others)
    {values : List (List Char)} (h : List.Forall₂ settings.Presents given values) (hlist : IsList values document) :
    ∃ back, Blanks back ∧ readDocument document.toList = .ok (Draft.holding settings given, back) := by
  cases h with
  | nil =>
    rw [Draft.holding_nil]
    exact hlist.read_nil
  | @cons field value given values hvalue hvalues =>
    obtain ⟨back, hback, hread⟩ := hlist.read_cons
    obtain ⟨c, tail, hbehind, hc⟩ := exists_delimits values (Or.inr (Or.inl rfl)) back
    have hrest : readElements (Draft.holding settings [field]) false (given ++ others)
        (listed values ++ ']' :: back) = .ok (Draft.holding settings (field :: given), back) :=
      readElements_listed hvalues [field] others
    refine ⟨back, hback, ?_⟩
    rw [hbehind] at hread hrest
    rw [hread, hall, List.cons_append, readElements_step hvalue hc (nextElement_first (hvalue.starts.append _)),
      ← Draft.holding_nil settings, Draft.fill_holding]
    exact hrest

/-- **An object in which two members name the same setting is no document.** -/
theorem not_readDocument_of_names {members : List Member} (hobject : IsObject members document) {a b : Member}
    (htwo : [a, b].Sublist members) {field : Field} (ha : a.Names field) (hb : b.Names field) (done : Draft)
    (behind : List Char) : readDocument document.toList ≠ .ok (done, behind) := by
  intro hdone
  cases members with
  | nil => cases htwo
  | cons member members =>
    obtain ⟨back, -, hread⟩ := hobject.read_cons
    obtain ⟨c, tail, hbehind, hc⟩ := exists_delimits (members.map Member.text) (Or.inr (Or.inr rfl)) back
    rw [hread, hbehind] at hdone
    obtain ⟨next, hadds, hrest⟩ := adds_of_readMembers hc (nextMember_first member) hdone
    rw [← hbehind] at hrest
    obtain ⟨hnew, hdistinct⟩ := distinct_of_readMembers hrest
    have hpairwise : (member :: members).Pairwise fun a b => ∀ field, a.Names field → ¬b.Names field :=
      List.pairwise_cons.2 ⟨fun other hother => hadds.distinct (hnew other hother), hdistinct⟩
    exact List.pairwise_iff_forall_sublist.1 hpairwise htwo field ha hb

/-- **A list of more values than there are settings is no document.** -/
theorem not_readDocument_of_length {values : List (List Char)} (hlist : IsList values document)
    (hvalues : ∀ value ∈ values, Written .padded value) (hlong : Field.all.length < values.length) (done : Draft)
    (behind : List Char) : readDocument document.toList ≠ .ok (done, behind) := by
  intro hdone
  cases values with
  | nil => cases hlong
  | cons value values =>
    obtain ⟨back, -, hread⟩ := hlist.read_cons
    obtain ⟨c, tail, hbehind, hc⟩ := exists_delimits values (Or.inr (Or.inl rfl)) back
    have hvalue := hvalues value List.mem_cons_self
    have hothers : ∀ other ∈ values, Written .padded other := fun other h => hvalues other (List.mem_cons_of_mem _ h)
    rw [hread, hbehind, Field.all, readElements, nextElement_first (hvalue.starts.append _)] at hdone
    dsimp only at hdone
    rw [readField_skipBlanks] at hdone
    split at hdone
    · cases hdone
    · next next after hfield =>
      -- whatever the first value was taken for, the reader stands behind it
      obtain ⟨blanks, hblanks, rfl⟩ := readField_padded hvalue hc hfield
      rw [readElements_blanks hblanks, ← hbehind] at hdone
      exact absurd (Nat.succ_le_succ (length_le_of_readElements hothers hdone)) (Nat.not_le.2 hlong)

theorem exists_fault (h : ∀ done behind, readDocument document.toList ≠ .ok (done, behind)) :
    ∃ fault, ofJson document = .error fault := by
  unfold ofJson
  cases hread : readDocument document.toList with
  | error fault => exact ⟨fault, rfl⟩
  | ok found => exact absurd hread (h found.1 found.2)

end Documents

/-! ## Settings as they are written -/

/-- A member without blanks. -/
def Member.plain (name value : String) (h : Written .value value.toList) : Member where
  front := []
  key := name.toList.flatMap Quoted.escape
  back := []
  value := value.toList
  isFront := blanks_nil
  isKey := (spells_flatMap _).isString
  isBack := blanks_nil
  isValue := by simpa using Written.padded blanks_nil h blanks_nil

theorem Member.text_plain {name value : String} (h : Written .value value.toList) :
    (plain name value h).text = (Quoted.quote name ++ ":" ++ value).toList := by
  simp [text, behindQuote, plain, Quoted.quote]

/-- **An entry of an object that is written**: the value of a setting as it is written, or any value under a name
    that nobody asks for. -/
inductive Enters (settings : Settings) : String × String → Option Field → Prop
  | setting (field : Field) : Enters settings (field.key, settings.written field) (some field)
  | foreign {name value : String} (hname : Field.ofKey? name = none) (hvalue : Written .value value.toList) :
      Enters settings (name, value) none

section Writing

variable {settings : Settings} {entries : List (String × String)} {said : List (Option Field)}

/-- An entry is a member that says the same. -/
theorem Enters.exists_says {entry : String × String} {field? : Option Field} (h : settings.Enters entry field?) :
    ∃ member : Member, settings.Says member field? ∧
      member.text = (Quoted.quote entry.1 ++ ":" ++ entry.2).toList := by
  cases h with
  | setting field =>
    have hshows := shows_written settings field
    have hvalue := Presents.mk blanks_nil hshows blanks_nil
    rw [List.nil_append, List.append_nil] at hvalue
    exact ⟨.plain _ _ hshows.isWritten, .known (spells_flatMap _) hvalue, Member.text_plain _⟩
  | foreign hname hvalue => exact ⟨.plain _ _ hvalue, .foreign (spells_flatMap _) hname, Member.text_plain _⟩

theorem exists_members (h : List.Forall₂ settings.Enters entries said) :
    ∃ members : List Member, List.Forall₂ settings.Says members said ∧
      members.map Member.text = entries.map fun entry => (Quoted.quote entry.1 ++ ":" ++ entry.2).toList := by
  induction h with
  | nil => exact ⟨[], .nil, rfl⟩
  | cons hentry _ ih =>
    obtain ⟨member, hmember, htext⟩ := hentry.exists_says
    obtain ⟨members, hmembers, htexts⟩ := ih
    exact ⟨member :: members, .cons hmember hmembers, by rw [List.map_cons, List.map_cons, htext, htexts]⟩

theorem intercalate_comma (text : List Char) (texts : List (List Char)) :
    [','].intercalate (text :: texts) = text ++ listed texts := by
  induction texts generalizing text with
  | nil => simp [listed]
  | cons next texts ih =>
    rw [List.intercalate_cons_cons, ih]
    simp [listed]

theorem toList_object (entries : List (String × String)) :
    (Quoted.object entries).toList = '{' :: ([','].intercalate
      (entries.map fun entry => (Quoted.quote entry.1 ++ ":" ++ entry.2).toList) ++ ['}']) := by
  simp only [Quoted.object, String.toList_append, String.toList_intercalate, List.map_map, Function.comp_def]
  rfl

/-- **Entries that are written** are an object whose members say the same. -/
theorem exists_isObject (h : List.Forall₂ settings.Enters entries said) :
    ∃ members, List.Forall₂ settings.Says members said ∧ IsObject members (Quoted.object entries) := by
  obtain ⟨members, hmembers, htexts⟩ := exists_members h
  refine ⟨members, hmembers, [], _, [], blanks_nil, ?_, blanks_nil, (List.append_nil _).symm⟩
  rw [toList_object, ← htexts]
  cases members with
  | nil => exact .empty blanks_nil
  | cons member members =>
    rw [List.map_cons, intercalate_comma, List.append_assoc]
    exact .full _ _

/-- Settings are written as entries of themselves. -/
theorem forall₂_enters (settings : Settings) (given : List Field) :
    List.Forall₂ settings.Enters (given.map fun field => (field.key, settings.written field)) (given.map some) := by
  induction given with
  | nil => exact .nil
  | cons field given ih => exact .cons (.setting field) ih

end Writing

/-! ## Field by field -/

/-- **A decoder that takes each setting by itself.** -/
structure Fieldwise (decode : String → Except ReadError Settings) : Prop where
  /-- An object that says some settings once each, in any order and among any other members, is these settings, and
  the defaults elsewhere. -/
  object : ∀ (settings : Settings) (members : List Member) (said : List (Option Field)) (document : String),
    List.Forall₂ settings.Says members said → said.reduceOption.Nodup → IsObject members document →
    decode document = .ok (settings.restrict said.reduceOption)
  /-- An object that says all settings is these settings. -/
  whole : ∀ (settings : Settings) (members : List Member) (said : List (Option Field)) (document : String),
    List.Forall₂ settings.Says members said → said.reduceOption.Nodup → (∀ field, some field ∈ said) →
    IsObject members document → decode document = .ok settings
  /-- A list of the first few values is the settings whose values these are, and the defaults elsewhere. -/
  list : ∀ (settings : Settings) (k : Nat) (values : List (List Char)) (document : String),
    List.Forall₂ settings.Presents (Field.all.take k) values → IsList values document →
    decode document = .ok (settings.restrict (Field.all.take k))
  /-- A list is the same as an object that says just the settings in the list. -/
  alike : ∀ (settings : Settings) (k : Nat) (values : List (List Char)) (members : List Member)
    (said : List (Option Field)) (list object : String),
    List.Forall₂ settings.Presents (Field.all.take k) values → IsList values list →
    List.Forall₂ settings.Says members said → said.reduceOption.Perm (Field.all.take k) → IsObject members object →
    decode list = decode object
  /-- An object with two members of one setting's name is refused, whatever their values are. -/
  repeated : ∀ (members : List Member) (document : String) (a b : Member) (field : Field),
    IsObject members document → [a, b].Sublist members → a.Names field → b.Names field →
    ∃ fault, decode document = .error fault
  /-- Where the values are those of settings, the error names a setting that was repeated. -/
  named : ∀ (settings : Settings) (members : List Member) (said : List (Option Field)) (document : String),
    List.Forall₂ settings.Says members said → ¬said.reduceOption.Nodup → IsObject members document →
    ∃ field : Field, decode document = .error (.mismatch (.duplicate field.key))
  /-- A list of more values than there are settings is refused, whatever the values are. -/
  tooLong : ∀ (values : List (List Char)) (document : String),
    (∀ value ∈ values, Written .padded value) → IsList values document → Field.all.length < values.length →
    ∃ fault, decode document = .error fault
  /-- Settings as they are written are read back, in any order and among any other entries. -/
  written : ∀ (settings : Settings) (entries : List (String × String)) (said : List (Option Field)),
    List.Forall₂ settings.Enters entries said → said.reduceOption.Nodup →
    decode (Quoted.object entries) = .ok (settings.restrict said.reduceOption)
  /-- All settings as they are written are read back. -/
  inverse : ∀ settings : Settings, decode settings.toJson = .ok settings

theorem ofJson_object {settings : Settings} {members : List Member} {said : List (Option Field)} {document : String}
    (h : List.Forall₂ settings.Says members said) (hnew : said.reduceOption.Nodup)
    (hobject : IsObject members document) :
    ofJson document = .ok (settings.restrict said.reduceOption) := by
  obtain ⟨back, hback, hread⟩ := readDocument_of_members h hnew hobject
  rw [ofJson_of_draft hread hback, Draft.complete_holding]

theorem ofJson_list {settings : Settings} {k : Nat} {values : List (List Char)} {document : String}
    (h : List.Forall₂ settings.Presents (Field.all.take k) values) (hlist : IsList values document) :
    ofJson document = .ok (settings.restrict (Field.all.take k)) := by
  obtain ⟨back, hback, hread⟩ := readDocument_of_presents (List.take_append_drop k Field.all).symm h hlist
  rw [ofJson_of_draft hread hback, Draft.complete_holding]

theorem ofJson_written {settings : Settings} {entries : List (String × String)} {said : List (Option Field)}
    (h : List.Forall₂ settings.Enters entries said) (hnew : said.reduceOption.Nodup) :
    ofJson (Quoted.object entries) = .ok (settings.restrict said.reduceOption) := by
  obtain ⟨members, hmembers, hobject⟩ := exists_isObject h
  exact ofJson_object hmembers hnew hobject

theorem nodup_all : Field.all.Nodup := by
  decide

theorem mem_all (field : Field) : field ∈ Field.all := by
  cases field <;> decide

/-- **Documents are decoded field by field**, in either shape, and what is written is read back. -/
theorem ofJson_fieldwise : Fieldwise ofJson where
  object _ _ _ _ h hnew hobject := ofJson_object h hnew hobject
  whole settings members said document h hnew hall hobject := by
    rw [ofJson_object h hnew hobject]
    exact congrArg _ (restrict_all settings fun field => List.reduceOption_mem_iff.2 (hall field))
  list _ _ _ _ h hlist := ofJson_list h hlist
  alike settings k values members said list object hvalues hlist hmembers hperm hobject := by
    have hnew : said.reduceOption.Nodup := hperm.nodup_iff.2 (nodup_all.sublist (List.take_sublist k _))
    rw [ofJson_list hvalues hlist, ofJson_object hmembers hnew hobject]
    exact congrArg _ (restrict_congr settings fun _ => hperm.mem_iff.symm)
  repeated members document a b field hobject htwo ha hb :=
    exists_fault (not_readDocument_of_names hobject htwo ha hb)
  named settings members said document h hagain hobject := by
    obtain ⟨field, hread⟩ := readDocument_of_again h hagain hobject
    refine ⟨field, ?_⟩
    unfold ofJson
    rw [hread]
  tooLong values document hvalues hlist hlong := exists_fault (not_readDocument_of_length hlist hvalues hlong)
  written settings entries said h hnew := ofJson_written h hnew
  inverse settings := by
    have hall : (Field.all.map some).reduceOption = Field.all := rfl
    have hread := ofJson_written (forall₂_enters settings Field.all) (hall.symm ▸ nodup_all)
    rw [hall, restrict_all settings mem_all] at hread
    exact hread

/-- A foreign member, a name with an escape, and blanks. -/
example : ofJson "\x7b\"seen\":[1,\x7b\x7d], \"verb\\u006fse\" : true\x7d" = .ok { verbose := true } := by
  decide +kernel

end Settings

end DeviceBroker
