import DeviceBroker.Proofs.Binding
import DeviceBroker.Proofs.Growing

/-!
# `Proofs.Upward` — a path and the paths above it

The path above another one is a beginning of it, cut off in front of a separator; so a walk along the longer
path first does what a walk along the shorter one does. Two things follow. If the longer path leads anywhere, the
shorter one leads to a directory. And where the shorter one leads nowhere, the longer one fails alike.

The root is the one path that is above others without being cut off in front of a separator. It always leads
to a directory.

## Contents

* `Path.Begins`, `splitParent?_cases` — **the path above is a beginning of the path**.
* `FileTree.Walks.front`, `Walks.beyond`, `walk_front_error` — walks along a beginning of the names.
* `FileTree.resolve_front`, `resolve_front_error` — the same for where paths lead.
* `FileTree.isDirectory_parent`, `isDirectory_above` — **what is above a path that leads somewhere**.
* `FileTree.resolve_parent_error` — **what is below a path that leads nowhere**.
-/

namespace DeviceBroker

namespace Path

/-! ## Beginnings of a path -/

/-- **A beginning of a path** that ends in front of a separator. -/
def Begins (front path : List Char) : Prop :=
  ∃ rest, path = front ++ separator :: rest

namespace Begins

variable {front path : List Char}

theorem trans {whole : List Char} (h : Begins front path) (hpath : Begins path whole) : Begins front whole := by
  obtain ⟨rest, rfl⟩ := h
  obtain ⟨more, rfl⟩ := hpath
  exact ⟨rest ++ separator :: more, by simp⟩

theorem append_left (lead : List Char) (h : Begins front path) : Begins (lead ++ front) (lead ++ path) := by
  obtain ⟨rest, rfl⟩ := h
  exact ⟨rest, by simp⟩

end Begins

/-- What stands before the last part of a text, which is written backwards. -/
theorem splitLast_cases (backwards : List Char) :
    (splitLast backwards).2 = [] ∨ Begins (splitLast backwards).2.reverse backwards.reverse := by
  have hparts : backwards.takeWhile (· ≠ separator) ++ backwards.dropWhile (· ≠ separator) = backwards :=
    List.takeWhile_append_dropWhile
  unfold splitLast
  cases hrest : backwards.dropWhile (· ≠ separator) with
  | nil => exact Or.inl rfl
  | cons first rest =>
    have hfirst : first = separator := by
      have hstops := List.head?_dropWhile_not (· ≠ separator) backwards
      rw [hrest] at hstops
      simpa using hstops
    right
    refine ⟨(backwards.takeWhile (· ≠ separator)).reverse, ?_⟩
    rw [hrest, hfirst] at hparts
    have hforwards := congrArg List.reverse hparts
    simpa using hforwards.symm

@[simp]
theorem dropIdle_nil : dropIdle [] = [] := by
  rw [dropIdle]
  rfl

/-- What is left of a text, which is written backwards, without the parts at its end that say nothing. -/
theorem dropIdle_cases (backwards : List Char) :
    dropIdle backwards = [] ∨ dropIdle backwards = backwards ∨
      Begins (dropIdle backwards).reverse backwards.reverse := by
  fun_induction dropIdle backwards with
  | case1 => exact Or.inl rfl
  | case2 backwards hsome hidle ih =>
    rcases splitLast_cases backwards with hnone | hbefore
    · left
      rw [hnone, dropIdle_nil]
    · rcases ih with hnone | hall | hbegins
      · exact Or.inl hnone
      · exact Or.inr (Or.inr (by rwa [hall]))
      · exact Or.inr (Or.inr (hbegins.trans hbefore))
  | case3 => exact Or.inr (Or.inl rfl)

/-- What is left of a text without its last part and the parts that say nothing around it. -/
theorem dropLast_cases (body : List Char) :
    dropIdle (splitLast (dropIdle body.reverse)).2 = [] ∨
      Begins (dropIdle (splitLast (dropIdle body.reverse)).2).reverse body := by
  have hkept : ∀ {front : List Char}, Begins front (dropIdle body.reverse).reverse → Begins front body := by
    intro front hfront
    rcases dropIdle_cases body.reverse with hnone | hall | hbegins
    · rw [hnone] at hfront
      obtain ⟨rest, hrest⟩ := hfront
      simp at hrest
    · rwa [hall, List.reverse_reverse] at hfront
    · rw [List.reverse_reverse] at hbegins
      exact hfront.trans hbegins
  rcases splitLast_cases (dropIdle body.reverse) with hnone | hbefore
  · left
    rw [hnone, dropIdle_nil]
  · rcases dropIdle_cases (splitLast (dropIdle body.reverse)).2 with hnone | hall | hbegins
    · exact Or.inl hnone
    · right
      rw [hall]
      exact hkept hbefore
    · exact Or.inr (hkept (hbegins.trans hbefore))

theorem lead_append_drop (path : List Char) : lead path ++ path.drop (lead path).length = path := by
  unfold lead
  split <;> rfl

/-- The part of a path that cannot be removed, with something behind it. -/
theorem lead_cases {path : List Char} (h : path.drop (lead path).length ≠ []) :
    lead path = [] ∨ lead path = ['/'] ∨ Begins (lead path) path := by
  revert h
  unfold lead
  split
  · exact fun _ => Or.inr (Or.inl rfl)
  · exact fun h => absurd rfl h
  · next rest => exact fun _ => Or.inr (Or.inr ⟨rest, rfl⟩)
  · exact fun _ => Or.inl rfl

/-- **The path above** is nothing, or the root, or a beginning of the path. -/
theorem splitParent?_cases {path last parent : List Char} (h : splitParent? path = some (last, parent)) :
    parent = [] ∨ parent = ['/'] ∨ Begins parent path := by
  have hpath := lead_append_drop path
  have hlead := @lead_cases path
  simp only [splitParent?] at h
  generalize path.drop (lead path).length = body at h hpath hlead
  have hlast := dropLast_cases body
  split at h
  · split at h
    · cases h
      exact Or.inl rfl
    · cases h
  · next hsome =>
    obtain ⟨-, rfl⟩ := Prod.mk.inj (Option.some.inj h)
    have hbody : body ≠ [] := by
      rintro rfl
      simp at hsome
    rcases hlast with hnone | hbegins
    · rw [hnone, List.reverse_nil, List.append_nil]
      exact hlead hbody
    · right
      right
      have hwhole := hbegins.append_left (lead path)
      rwa [hpath] at hwhole

/-- There is nothing above nothing. -/
theorem eq_nil_of_above {above : List Char} (h : Above above []) : above = [] := by
  cases h with
  | self => rfl
  | further hsplit habove => cases Nat.not_lt_zero _ (length_parent_lt hsplit)

end Path

namespace FileTree

variable {tree : FileTree}

/-! ## Walks along a beginning -/

section Walks

variable {follow : Bool} {floor : Option Location} {links : Nat} {here : Location} {place : Place}

/-- A walk that takes a name stands in a directory. -/
theorem Walks.directory_of_cons {name : String} {rest : List String}
    (h : Walks tree follow floor links here (name :: rest) place) :
    ∃ mode, tree.node? here = some (.directory mode) := by
  cases h with
  | stay hnode hidle hrest => exact ⟨_, hnode⟩
  | up hnode hfloor hrest => exact ⟨_, hnode⟩
  | miss hdown hnone => exact hdown.directory
  | link hdown hlink hfollow => exact hdown.directory
  | restart hdown hlink hlast habsolute hfloor hrest => exact hdown.directory
  | turn hdown hlink hlast hrelative hrest => exact hdown.directory
  | down hdown hnext hother hrest => exact hdown.directory

/-- **A walk that arrives has come by a directory** at each of its names. Induction over its steps. -/
theorem Walks.front {parts front back : List String} (h : Walks tree follow floor links here parts place)
    (hparts : parts = front ++ back) (hback : back ≠ []) :
    ∃ location mode, Walks tree true floor links here front ⟨location, some (.directory mode)⟩ := by
  -- where no name of the front is left, the walk has a name of the back to take
  have hstand : ∀ {links : Nat} {here : Location} {parts : List String} {place : Place},
      Walks tree follow floor links here parts place → parts = [] ++ back →
      ∃ location mode, Walks tree true floor links here [] ⟨location, some (.directory mode)⟩ := by
    intro links here parts place h hparts
    cases back with
    | nil => exact absurd rfl hback
    | cons name rest =>
      rw [List.nil_append] at hparts
      subst hparts
      obtain ⟨mode, hmode⟩ := h.directory_of_cons
      exact ⟨here, mode, .arrive hmode⟩
  have hsingle : ∀ {name first : String} {front : List String}, [name] ≠ first :: front ++ back := by
    intro name first front heq
    rw [List.cons_append, List.cons.injEq] at heq
    exact hback (List.append_eq_nil_iff.1 heq.2.symm).2
  induction h generalizing front with
  | arrive hnode => exact absurd (List.append_eq_nil_iff.1 hparts.symm).2 hback
  | stay hnode hidle hrest ih =>
    cases front with
    | nil => exact hstand (.stay hnode hidle hrest) hparts
    | cons name front =>
      obtain ⟨rfl, hfront⟩ := List.cons.inj hparts
      obtain ⟨location, mode, hwalks⟩ := ih hfront
      exact ⟨location, mode, .stay hnode hidle hwalks⟩
  | up hnode hfloor hrest ih =>
    cases front with
    | nil => exact hstand (.up hnode hfloor hrest) hparts
    | cons name front =>
      obtain ⟨rfl, hfront⟩ := List.cons.inj hparts
      obtain ⟨location, mode, hwalks⟩ := ih hfront
      exact ⟨location, mode, .up hnode hfloor hwalks⟩
  | miss hdown hnone =>
    cases front with
    | nil => exact hstand (.miss hdown hnone) hparts
    | cons name front => exact absurd hparts hsingle
  | link hdown hlink hfollow =>
    cases front with
    | nil => exact hstand (.link hdown hlink hfollow) hparts
    | cons name front => exact absurd hparts hsingle
  | restart hdown hlink hlast habsolute hfloor hrest ih =>
    cases front with
    | nil => exact hstand (.restart hdown hlink hlast habsolute hfloor hrest) hparts
    | cons name front =>
      obtain ⟨rfl, rfl⟩ := List.cons.inj hparts
      obtain ⟨location, mode, hwalks⟩ := ih (List.append_assoc ..).symm
      exact ⟨location, mode, .restart hdown hlink (fun _ => rfl) habsolute hfloor hwalks⟩
  | turn hdown hlink hlast hrelative hrest ih =>
    cases front with
    | nil => exact hstand (.turn hdown hlink hlast hrelative hrest) hparts
    | cons name front =>
      obtain ⟨rfl, rfl⟩ := List.cons.inj hparts
      obtain ⟨location, mode, hwalks⟩ := ih (List.append_assoc ..).symm
      exact ⟨location, mode, .turn hdown hlink (fun _ => rfl) hrelative hwalks⟩
  | down hdown hnext hother hrest ih =>
    cases front with
    | nil => exact hstand (.down hdown hnext hother hrest) hparts
    | cons name front =>
      obtain ⟨rfl, hfront⟩ := List.cons.inj hparts
      obtain ⟨location, mode, hwalks⟩ := ih hfront
      exact ⟨location, mode, .down hdown hnext hother hwalks⟩

/-- **A walk to a directory goes on** to a name that is free there. Induction over its steps. -/
theorem Walks.beyond {location : Location} {mode : Nat} {name : String} {parts : List String}
    (hdown : LeadsDown tree location name) (hfree : tree.node? (location ++ [name]) = none)
    (h : Walks tree true floor links here parts place) (hplace : place = ⟨location, some (.directory mode)⟩) :
    Walks tree follow floor links here (parts ++ [name]) ⟨location ++ [name], none⟩ := by
  have hmore : ∀ {rest : List String}, rest ++ [name] = [] → follow = true := by
    intro rest hnone
    simp at hnone
  induction h with
  | arrive hnode =>
    cases hplace
    exact .miss hdown hfree
  | stay hnode hidle hrest ih => exact .stay hnode hidle (ih hplace)
  | up hnode hfloor hrest ih => exact .up hnode hfloor (ih hplace)
  | miss hlast hnone => cases hplace
  | link hlast hlink hfollow => cases hfollow
  | restart hstep hlink hlast habsolute hfloor hrest ih =>
    have hwalks := ih hplace
    rw [List.append_assoc] at hwalks
    exact .restart hstep hlink hmore habsolute hfloor hwalks
  | turn hstep hlink hlast hrelative hrest ih =>
    have hwalks := ih hplace
    rw [List.append_assoc] at hwalks
    exact .turn hstep hlink hmore hrelative hwalks
  | down hstep hnext hother hrest ih => exact .down hstep hnext hother (ih hplace)

/-- **A walk that fails** is not mended by names behind it. Induction over its turns. -/
theorem walk_front_error {follow further : Bool} {parts back : List String} {error : IoError} (hback : back ≠ [])
    (h : tree.walk follow floor links here parts = .error error) :
    tree.walk further floor links here (parts ++ back) = .error error := by
  have hmore : ∀ rest : List String, (rest ++ back).isEmpty = false := by
    intro rest
    simp [hback]
  fun_induction walk tree follow floor links here parts with
  | case1 links here node hnode => cases h
  | case2 links here hnone =>
    cases back with
    | nil => exact absurd rfl hback
    | cons name rest => rw [List.nil_append, walk, hnone, h]
  | case3 links here name rest hnone => rw [List.cons_append, walk, hnone, h]
  | case4 links here name rest node hnode hfile =>
    rw [List.cons_append, walk, hnode, h]
    simp only [hfile, if_true]
  | case5 links here name rest node hnode hdirectory hidle ih =>
    rw [List.cons_append, walk, hnode]
    simp only [hdirectory, hidle, if_true, ih h]
    rfl
  | case6 links here rest node hnode hdirectory hfloor hidle =>
    rw [List.cons_append, walk, hnode, h]
    simp only [hdirectory, hidle, hfloor, if_true]
    rfl
  | case7 links here rest node hnode hdirectory hfloor hidle ih =>
    rw [List.cons_append, walk, hnode]
    simp only [hdirectory, hidle, hfloor, if_true, if_false, ih h]
    rfl
  | case8 links here name rest node hnode hdirectory hidle hup hlong =>
    rw [List.cons_append, walk, hnode, h]
    simp only [hdirectory, hidle, hup, hlong, if_true, if_false]
    rfl
  | case9 links here name rest node hnode hdirectory hidle hup hshort hnone hlast => cases h
  | case10 links here name rest node hnode hdirectory hidle hup hshort hnone hlast =>
    rw [List.cons_append, (leadsDown_of_tests hnode hdirectory hidle hup hshort).walk_cons, hnone, h]
    simp only [hmore]
    rfl
  | case11 links here name rest node hnode hdirectory hidle hup hshort target hlink hlast => cases h
  | case12 here name rest node hnode hdirectory hidle hup hshort target hlink hlast =>
    rw [List.cons_append, (leadsDown_of_tests hnode hdirectory hidle hup hshort).walk_cons, hlink, h]
    simp only [hmore]
    rfl
  | case13 here name rest node hnode hdirectory hidle hup hshort target hlink hlast links habsolute hfloor =>
    rw [List.cons_append, (leadsDown_of_tests hnode hdirectory hidle hup hshort).walk_cons, hlink, h]
    simp only [hmore, habsolute, hfloor]
    rfl
  | case14 here name rest node hnode hdirectory hidle hup hshort target hlink hlast links habsolute hfloor ih =>
    rw [List.cons_append, (leadsDown_of_tests hnode hdirectory hidle hup hshort).walk_cons, hlink]
    simp only [hmore, habsolute, hfloor, ← List.append_assoc, ih h]
    rfl
  | case15 here name rest node hnode hdirectory hidle hup hshort target hlink hlast links hrelative ih =>
    rw [List.cons_append, (leadsDown_of_tests hnode hdirectory hidle hup hshort).walk_cons, hlink]
    simp only [hmore, hrelative, ← List.append_assoc, ih h]
    rfl
  | case16 links here name rest node hnode hdirectory hidle hup hshort next hkind hnext ih =>
    rw [List.cons_append, (leadsDown_of_tests hnode hdirectory hidle hup hshort).walk_cons, hnext]
    cases next with
    | symlink target => exact absurd rfl (hkind target)
    | directory mode => exact ih h
    | file contents => exact ih h
    | socket transport holder => exact ih h

end Walks

/-! ## Where beginnings of a path lead -/

section Begins

variable {short long : String}

theorem eq_append_of_begins (h : Path.Begins short.toList long.toList) : ∃ rest : String, long = short ++ rest := by
  obtain ⟨rest, hlong⟩ := h
  refine ⟨String.ofList (Path.separator :: rest), ?_⟩
  rw [← String.toList_inj, hlong, String.toList_append, String.toList_ofList]

theorem hasNul_of_begins (h : Path.Begins short.toList long.toList) (hnul : hasNul long = false) :
    hasNul short = false := by
  obtain ⟨rest, hlong⟩ := h
  unfold hasNul at hnul ⊢
  rw [hlong] at hnul
  simp only [List.contains_eq_mem, List.mem_append, not_or, decide_eq_false_iff_not] at hnul ⊢
  exact hnul.1

theorem utf8ByteSize_le_of_begins (h : Path.Begins short.toList long.toList) :
    short.utf8ByteSize ≤ long.utf8ByteSize := by
  obtain ⟨rest, rfl⟩ := eq_append_of_begins h
  rw [String.utf8ByteSize_append]
  exact Nat.le_add_right _ _

theorem startOf_of_begins (h : Path.Begins short.toList long.toList) (hsome : short ≠ "") :
    tree.startOf long = tree.startOf short := by
  have hhead : long.toList.head? = short.toList.head? := by
    obtain ⟨rest, hlong⟩ := h
    rw [hlong]
    cases hshort : short.toList with
    | nil => exact absurd (by simpa using hshort) hsome
    | cons first others => rfl
  unfold startOf Path.isAbsolute
  rw [hhead]

theorem names_of_begins (h : Path.Begins short.toList long.toList) :
    ∃ back, back ≠ [] ∧ names long = names short ++ back := by
  obtain ⟨rest, hlong⟩ := h
  refine ⟨(Path.parts rest).map String.ofList, ?_, ?_⟩
  · simp [Path.parts, List.splitOnP_ne_nil]
  · unfold names Path.parts
    rw [hlong, List.splitOnP_append_cons _ _ (by decide), List.map_append]

/-- The system's answer for a path that it takes is that of a walk. -/
theorem resolve_eq_walk {follow : Bool} {path : String} (hsome : path ≠ "") (hshort : path.utf8ByteSize < maxPath) :
    tree.resolve follow path = tree.walk follow none maxLinks (tree.startOf path) (names path) := by
  have hempty : path.isEmpty = false := by simpa using hsome
  unfold resolve
  rw [hempty, if_neg Bool.false_ne_true, if_neg (Nat.not_le.2 hshort)]
  rfl

/-- **A path that leads somewhere**, be it to a free place, has directories at its beginnings. -/
theorem resolve_front {follow : Bool} {place : Place} (hbegins : Path.Begins short.toList long.toList)
    (hsome : short ≠ "") (h : tree.resolve follow long = .ok place) :
    ∃ location mode, tree.resolve true short = .ok ⟨location, some (.directory mode)⟩ := by
  obtain ⟨⟨-, hlength⟩, hwalks⟩ := resolve_eq_ok_iff.1 h
  obtain ⟨back, hback, hnames⟩ := names_of_begins hbegins
  rw [startOf_of_begins hbegins hsome] at hwalks
  obtain ⟨location, mode, hfront⟩ := hwalks.front hnames hback
  have hempty : short.isEmpty = false := by simpa using hsome
  have hshort := Nat.lt_of_le_of_lt (utf8ByteSize_le_of_begins hbegins) hlength
  exact ⟨location, mode, resolve_eq_ok_iff.2 ⟨⟨hempty, hshort⟩, hfront⟩⟩

/-- **A path that leads nowhere** is the beginning of paths that fail alike, unless they are too long. -/
theorem resolve_front_error {follow : Bool} (further : Bool) {error : IoError}
    (hbegins : Path.Begins short.toList long.toList) (hsome : short ≠ "")
    (h : tree.resolve follow short = .error error) :
    tree.resolve further long = .error error ∨ tree.resolve further long = .error nameTooLong := by
  have hlong : long ≠ "" := by
    obtain ⟨rest, rfl⟩ := eq_append_of_begins hbegins
    simp [hsome]
  by_cases hlength : long.utf8ByteSize < maxPath
  · obtain ⟨back, hback, hnames⟩ := names_of_begins hbegins
    have hshort := Nat.lt_of_le_of_lt (utf8ByteSize_le_of_begins hbegins) hlength
    rw [resolve_eq_walk hsome hshort] at h
    left
    rw [resolve_eq_walk hlong hlength, startOf_of_begins hbegins hsome, hnames]
    exact walk_front_error hback h
  · have hempty : long.isEmpty = false := by simpa using hlong
    right
    unfold resolve
    rw [hempty, if_neg Bool.false_ne_true, if_pos (Nat.not_lt.1 hlength)]

end Begins

/-! ## What is above a path -/

section Above

variable {path parent last : List Char}

/-- **A path that leads to a directory.** -/
theorem isDirectory_iff {path : String} :
    tree.isDirectory path = true ↔
      hasNul path = false ∧ ∃ location mode, tree.resolve true path = .ok ⟨location, some (.directory mode)⟩ := by
  unfold isDirectory locate
  constructor
  · intro h
    cases hnul : hasNul path with
    | true => simp [hnul] at h
    | false =>
      refine ⟨rfl, ?_⟩
      cases hleads : tree.resolve true path with
      | error error => simp [hnul, hleads] at h
      | ok place =>
        obtain ⟨location, node⟩ := place
        cases node with
        | none => simp [hnul, hleads] at h
        | some node =>
          simp only [hnul, hleads] at h
          obtain ⟨mode, rfl⟩ := exists_mode_of_isDirectory h
          exact ⟨location, mode, rfl⟩
  · rintro ⟨hnul, location, mode, hleads⟩
    simp [hnul, hleads, Node.isDirectory, Node.kind]

/-- A path above one that can be passed to the system can be passed to it. -/
theorem hasNul_parent (hsplit : Path.splitParent? path = some (last, parent))
    (hnul : hasNul (String.ofList path) = false) : hasNul (String.ofList parent) = false := by
  rcases Path.splitParent?_cases hsplit with rfl | rfl | hbegins
  · decide
  · decide
  · exact hasNul_of_begins (by simpa using hbegins) hnul

theorem isDirectory_root (tree : FileTree) : tree.isDirectory "/" = true := by
  unfold isDirectory
  rw [locate_root]
  rfl

/-- **Above a path that leads somewhere** is a directory. -/
theorem isDirectory_parent {follow : Bool} {place : Place} (hsplit : Path.splitParent? path = some (last, parent))
    (hsome : parent ≠ []) (hnul : hasNul (String.ofList path) = false)
    (h : tree.resolve follow (String.ofList path) = .ok place) : tree.isDirectory (String.ofList parent) = true := by
  rcases Path.splitParent?_cases hsplit with hnone | rfl | hbegins
  · exact absurd hnone hsome
  · exact isDirectory_root tree
  · have hfront : Path.Begins (String.ofList parent).toList (String.ofList path).toList := by simpa using hbegins
    have hne : String.ofList parent ≠ "" := by simpa using hsome
    exact isDirectory_iff.2 ⟨hasNul_parent hsplit hnul, resolve_front hfront hne h⟩

/-- **Below a path that leads nowhere** everything fails alike, unless it is too long. -/
theorem resolve_parent_error {follow further : Bool} {error fault : IoError}
    (hsplit : Path.splitParent? path = some (last, parent)) (hsome : parent ≠ [])
    (hparent : tree.resolve follow (String.ofList parent) = .error error)
    (h : tree.resolve further (String.ofList path) = .error fault) : fault = error ∨ fault = nameTooLong := by
  rcases Path.splitParent?_cases hsplit with hnone | rfl | hbegins
  · exact absurd hnone hsome
  · have hroot : tree.resolve follow "/" = .ok ⟨[], some root⟩ :=
      resolve_eq_ok_iff.2 ⟨by decide, .stay rfl rfl (.stay rfl rfl (.arrive rfl))⟩
    rw [show String.ofList ['/'] = "/" from rfl, hroot] at hparent
    cases hparent
  · have hfront : Path.Begins (String.ofList parent).toList (String.ofList path).toList := by simpa using hbegins
    have hne : String.ofList parent ≠ "" := by simpa using hsome
    rcases resolve_front_error further hfront hne hparent with hsame | hlong
    · rw [h] at hsame
      exact Or.inl (Except.error.inj hsame)
    · rw [h] at hlong
      exact Or.inr (Except.error.inj hlong)

/-- **Every path above a directory** leads to a directory. Induction over the parts taken off. -/
theorem isDirectory_above {above : List Char} (habove : Path.Above above path) (hsome : above ≠ [])
    (h : tree.isDirectory (String.ofList path) = true) : tree.isDirectory (String.ofList above) = true := by
  induction habove with
  | self => exact h
  | @further path last parent hsplit hparent ih =>
    have hne : parent ≠ [] := by
      rintro rfl
      exact hsome (Path.eq_nil_of_above hparent)
    obtain ⟨hnul, location, mode, hleads⟩ := isDirectory_iff.1 h
    exact ih (isDirectory_parent hsplit hne hnul hleads)

end Above

end FileTree

end DeviceBroker
