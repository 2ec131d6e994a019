import DeviceBroker.Proofs.Providing

/-!
# `Proofs.Repeating` — preparing a directory twice

What can be made is made at the first attempt. Another one never changes anything, wherever the first one ended,
and where the first one left a directory the second one ends as well.

Only what is passed over may be told differently. The first attempt may end at a name that is taken, somewhere
above the directory, and directories that it made on the way there may lead up against that name a path that led
nowhere before. The second attempt then fails at once.

## Contents

* `FileTree.makeAll_again` — **what can be made is made at once**.
* `FileTree.makeAll_of_obstructed`, `makeAll_of_lookAt_error` — how attempts end that make nothing.
* `SocketDirectory.complaint`, `AddsAncestors`, `prepare_adds_ancestors` — **what preparing does to the tree**,
  and what it comes to the second time.
* `SocketDirectory.prepare_differs` — two attempts, the second of which fails.
-/

namespace DeviceBroker

namespace FileTree

variable {tree later : FileTree} {mode : Nat} {path last parent : List Char}

/-! ## Attempts that make nothing -/

/-- Nothing is made where the directory above is none. -/
theorem makeOne_error_of_parent (mode : Nat) (hsplit : Path.splitParent? path = some (last, parent))
    (hsome : parent ≠ [])
    (h : tree.isDirectory (String.ofList parent) = false) :
    ∃ error, tree.makeOne mode (String.ofList path) = .error error := by
  have htried := tried_makeOne tree mode (String.ofList path)
  have hnowhere : tree.isDirectory (String.ofList parent) ≠ true := by simp [h]
  cases hone : tree.makeOne mode (String.ofList path) with
  | error error => exact ⟨error, rfl⟩
  | ok made =>
    rw [hone] at htried
    cases htried with
    | made hnul hfree => exact absurd (isDirectory_parent hsplit hsome hnul hfree) hnowhere
    | stood hdirectory => exact absurd (isDirectory_above (.further hsplit .self) hsome hdirectory) hnowhere

/-- Where something is missing, the directory above is made first. -/
theorem makeAll_of_missing {error : IoError} (hone : tree.makeOne mode (String.ofList path) = .error error)
    (hkind : error.kind = .notFound) (hsplit : Path.splitParent? path = some (last, parent)) :
    tree.makeAll mode path =
      match tree.makeAll mode parent with
      | (some error, later) => (some error, later)
      | (none, later) =>
        match later.makeOne mode (String.ofList path) with
        | .ok made => (none, made)
        | .error error => (some error, later) := by
  have hsome : path ≠ [] := by
    rintro rfl
    exact Nat.not_lt_zero _ (Path.length_parent_lt hsplit)
  rw [makeAll, if_neg hsome, hone]
  simp only [hkind, ne_eq, not_true_eq_false, if_false]
  split
  · next hnone => cases hnone.symm.trans hsplit
  · next hsplit' =>
    cases hsplit.symm.trans hsplit'
    rfl

/-- If neither a directory nor what is above it can be made, nothing is. -/
theorem makeAll_of_error {error : IoError} (hone : tree.makeOne mode (String.ofList path) = .error error)
    (hsplit : Path.splitParent? path = some (last, parent)) (habove : (tree.makeAll mode parent).2 = tree) :
    (tree.makeAll mode path).2 = tree := by
  by_cases hkind : error.kind = .notFound
  · rw [makeAll_of_missing hone hkind hsplit]
    rcases hall : tree.makeAll mode parent with ⟨source | source, between⟩
    · rw [hall] at habove
      obtain rfl : between = tree := habove
      simp only [hone]
    · rw [hall] at habove
      exact habove
  · have hsome : path ≠ [] := by
      rintro rfl
      exact Nat.not_lt_zero _ (Path.length_parent_lt hsplit)
    rw [makeAll, if_neg hsome, hone]
    simp only [hkind, ne_eq, not_false_eq_true, if_true]

/-- **What can be made is made at once**: attempts that follow change nothing, wherever the first one ended.
    Induction over the paths above. -/
theorem makeAll_again {result : Option IoError} (h : tree.makeAll mode path = (result, later)) :
    (later.makeAll mode path).2 = later := by
  have hmade : ∀ {before later : FileTree} {path : List Char}, path ≠ [] →
      before.makeOne mode (String.ofList path) = .ok later → (later.makeAll mode path).2 = later := by
    intro before later path hsome hone
    rw [makeAll, if_neg hsome, makeOne_of_isDirectory (isDirectory_of_makeOne hone)]
  fun_induction makeAll tree mode path generalizing result later with
  | case1 =>
    cases h
    rw [makeAll, if_pos rfl]
  | case2 path hpath made hone =>
    cases h
    exact hmade hpath hone
  | case3 path hpath fault hone hkind =>
    cases h
    rw [makeAll, if_neg hpath, hone]
    simp only [hkind, ne_eq, not_false_eq_true, if_true]
  | case4 path hpath fault hone hkind hnone =>
    cases h
    rw [makeAll, if_neg hpath, hone]
    simp only [hkind, if_false]
    split
    · rfl
    · next hsplit => cases hnone.symm.trans hsplit
  | case5 path hpath fault hone hkind last parent hsplit above between hall ih =>
    cases h
    have hsome : parent ≠ [] := by
      rintro rfl
      rw [makeAll] at hall
      cases hall
    obtain ⟨error, hagain⟩ := makeOne_error_of_parent mode hsplit hsome (not_isDirectory_of_makeAll hall)
    exact makeAll_of_error hagain hsplit (ih hall)
  | case6 path hpath fault hone hkind last parent hsplit between hall made hagain ih =>
    cases h
    exact hmade hpath hagain
  | case7 path hpath fault hone hkind last parent hsplit between hall again hagain ih =>
    cases h
    exact makeAll_of_error hagain hsplit (ih hall)

/-- What a path names that leads nowhere. -/
theorem lookAt_of_resolve_error {path : String} {error : IoError} (hnul : hasNul path = false)
    (h : tree.resolve false path = .error error) : tree.lookAt path = .error error := by
  simp [lookAt, hnul, h]

/-- What a path names that leads to a free place. -/
theorem lookAt_of_free {path : String} {location : Location} (hnul : hasNul path = false)
    (h : tree.resolve false path = .ok ⟨location, none⟩) : tree.lookAt path = .error notFound := by
  simp [lookAt, hnul, h]

/-- A path that leads nowhere ends an attempt with the error of looking there. -/
theorem makeOne_of_resolve_error {path : String} {error : IoError} (hnul : hasNul path = false)
    (h : tree.resolve false path = .error error) : tree.makeOne mode path = .error error := by
  have htried := tried_makeOne tree mode path
  generalize tree.makeOne mode path = one at htried
  cases htried with
  | made hfit hfree => cases h.symm.trans hfree
  | stood hdirectory =>
    obtain ⟨node, hlook⟩ := lookAt_of_isDirectory hdirectory
    cases (lookAt_of_resolve_error hnul h).symm.trans hlook
  | taken hfit hleads hdirectory => cases h.symm.trans hleads
  | lost hfit hlost hdirectory =>
    cases h.symm.trans hlost
    rfl
  | unfit hunfit hdirectory => cases hnul.symm.trans hunfit

/-- **A path that leads nowhere for good** ends the attempts at once. -/
theorem makeAll_of_lookAt_error (mode : Nat) {error : IoError} (hsome : path ≠ [])
    (h : tree.lookAt (String.ofList path) = .error error) (hkind : error.kind ≠ .notFound) :
    tree.makeAll mode path = (some error, tree) ∧ error.kind ≠ .alreadyExists := by
  have htried := tried_makeOne tree mode (String.ofList path)
  rw [makeAll, if_neg hsome]
  generalize tree.makeOne mode (String.ofList path) = one at htried
  cases htried with
  | made hnul hfree =>
    cases h.symm.trans (lookAt_of_free hnul hfree)
    exact absurd rfl hkind
  | stood hdirectory =>
    obtain ⟨node, hlook⟩ := lookAt_of_isDirectory hdirectory
    cases h.symm.trans hlook
  | taken hnul hleads hdirectory => cases h.symm.trans (lookAt_eq_ok_iff.2 ⟨hnul, _, hleads⟩)
  | lost hnul hnowhere hdirectory =>
    cases h.symm.trans (lookAt_of_resolve_error hnul hnowhere)
    simp [hkind, kind_ne_of_resolve_error hnowhere]
  | unfit hnul hdirectory =>
    have hlook : tree.lookAt (String.ofList path) = .error nulInPath := by simp [lookAt, hnul]
    cases h.symm.trans hlook
    simp [nulInPath, IoError.kind]

/-- A path at which nothing is found. -/
theorem lookAt_missing {path : String} {error : IoError} (h : tree.lookAt path = .error error)
    (hkind : error.kind = .notFound) :
    hasNul path = false ∧
      (tree.resolve false path = .error notFound ∨ ∃ location, tree.resolve false path = .ok ⟨location, none⟩) := by
  cases hnul : hasNul path with
  | true =>
    have hlook : tree.lookAt path = .error nulInPath := by simp [lookAt, hnul]
    cases h.symm.trans hlook
    cases hkind
  | false =>
    refine ⟨rfl, ?_⟩
    cases hleads : tree.resolve false path with
    | error fault =>
      cases h.symm.trans (lookAt_of_resolve_error hnul hleads)
      exact Or.inl (congrArg Except.error (eq_notFound_of_kind hleads hkind))
    | ok place =>
      obtain ⟨location, node⟩ := place
      cases node with
      | none => exact Or.inr ⟨location, rfl⟩
      | some node => cases h.symm.trans (lookAt_eq_ok_iff.2 ⟨hnul, _, hleads⟩)

/-- Where nothing is found, nothing is made for no other reason than that. -/
theorem kind_of_makeOne_error {path : String} {error fault : IoError} (h : tree.lookAt path = .error error)
    (hkind : error.kind = .notFound) (hone : tree.makeOne mode path = .error fault) : fault.kind = .notFound := by
  obtain ⟨hfit, hmissing⟩ := lookAt_missing h hkind
  have htried := tried_makeOne tree mode path
  rw [hone] at htried
  cases htried with
  | taken hnul hleads hdirectory =>
    rcases hmissing with hnowhere | ⟨location, hfree⟩
    · cases hleads.symm.trans hnowhere
    · cases hleads.symm.trans hfree
  | lost hnul hlost hdirectory =>
    rcases hmissing with hnowhere | ⟨location, hfree⟩
    · cases hlost.symm.trans hnowhere
      rfl
    · cases hlost.symm.trans hfree
  | unfit hnul hdirectory => cases hnul.symm.trans hfit

/-- Above a path at which nothing is found, if there is no directory, nothing is found either, or the path has no
    place below what is. -/
theorem kind_of_lookAt_parent {error source : IoError} (hsplit : Path.splitParent? path = some (last, parent))
    (hsome : parent ≠ []) (hnot : tree.isDirectory (String.ofList parent) = false)
    (h : tree.lookAt (String.ofList path) = .error error) (hkind : error.kind = .notFound)
    (hparent : tree.lookAt (String.ofList parent) = .error source) : source.kind = .notFound := by
  obtain ⟨hnul, hmissing⟩ := lookAt_missing h hkind
  rcases hmissing with hnowhere | ⟨location, hfree⟩
  · have hparentnul := hasNul_parent hsplit hnul
    cases hleads : tree.resolve false (String.ofList parent) with
    | error fault =>
      cases hparent.symm.trans (lookAt_of_resolve_error hparentnul hleads)
      rcases resolve_parent_error hsplit hsome hleads hnowhere with hsame | hlong
      · rw [← hsame]
        rfl
      · cases hlong
    | ok place =>
      obtain ⟨location, node⟩ := place
      cases node with
      | none =>
        cases hparent.symm.trans (lookAt_of_free hparentnul hleads)
        rfl
      | some node => cases hparent.symm.trans (lookAt_eq_ok_iff.2 ⟨hparentnul, _, hleads⟩)
  · rw [isDirectory_parent hsplit hsome hnul hfree] at hnot
    cases hnot

/-- **A name that is taken above a path** ends the attempts, if nothing is found at the path: those further down
    find nothing above them. Induction over the parts taken off. -/
theorem makeAll_of_obstructed (mode : Nat) {above : List Char} {location : Location} {node : Node} {error : IoError}
    (habove : Path.Above above path) (hleads : tree.resolve false (String.ofList above) = .ok ⟨location, some node⟩)
    (hnot : tree.isDirectory (String.ofList above) = false)
    (h : tree.lookAt (String.ofList path) = .error error) (hkind : error.kind = .notFound) :
    tree.makeAll mode path = (some alreadyExists, tree) := by
  have habovesome : above ≠ [] := by
    rintro rfl
    cases (resolve_eq_ok_iff.1 hleads).1.1
  induction habove generalizing error with
  | self =>
    rcases (lookAt_missing h hkind).2 with hnowhere | ⟨location, hfree⟩
    · cases hleads.symm.trans hnowhere
    · cases hleads.symm.trans hfree
  | @further path last parent hsplit hparent ih =>
    have hsome : parent ≠ [] := by
      rintro rfl
      exact habovesome (Path.eq_nil_of_above hparent)
    have hnodirectory : tree.isDirectory (String.ofList parent) = false := by
      refine Bool.eq_false_iff.2 fun hdirectory => ?_
      rw [isDirectory_above hparent habovesome hdirectory] at hnot
      cases hnot
    obtain ⟨fault, hone⟩ := makeOne_error_of_parent mode hsplit hsome hnodirectory
    have hmissing := kind_of_makeOne_error h hkind hone
    have hall : tree.makeAll mode parent = (some alreadyExists, tree) := by
      cases hlook : tree.lookAt (String.ofList parent) with
      | error source => exact ih hlook (kind_of_lookAt_parent hsplit hsome hnodirectory h hkind hlook)
      | ok node =>
        rcases makeAll_of_lookAt mode hlook with hdone | htaken
        · rw [isDirectory_of_makeAll hsome hdone] at hnodirectory
          cases hnodirectory
        · exact htaken
    rw [makeAll_of_missing hone hmissing hsplit, hall]

end FileTree

open FileTree

namespace SocketDirectory

variable {tree after : FileTree} {path parent : String}

/-! ## The second time -/

/-- **What is left to be told** when a directory is prepared once more: a path to it that leads nowhere for good. -/
def complaint (tree : FileTree) (directory : String) : Option Error :=
  match tree.lookAt directory with
  | .ok _ => none
  | .error source => if source.kind = .notFound then none else some (.createDirectory directory source)

/-- **What preparing the socket's directory does to a tree**, and what doing so again comes to. -/
structure AddsAncestors (tree : FileTree) (path : String) (error : Option Error) (after : FileTree) : Prop where
  /-- Everything stands where it stood, and as it was. -/
  keeps : Keeps tree after
  /-- Whatever is new is a directory for its owner alone, to which a path above the socket's leads. -/
  adds : ∀ location node, tree.node? location = none → after.node? location = some node →
    node = .directory 0o700 ∧
      ∃ above, Path.IsAncestor path above ∧ after.resolve false above = .ok ⟨location, some node⟩
  /-- Nothing is made for a path without a directory part. -/
  spares : error = some (.missingParent path) → after = tree
  /-- Another attempt changes nothing. -/
  settles : (prepare after path).2 = after
  /-- Where the directory is, another attempt ends well. -/
  stays : ∀ parent, Path.parent? path = some parent → after.isDirectory parent = true →
    prepare after path = (none, after)
  /-- If all went well, another attempt has nothing to tell but a path that leads nowhere for good. -/
  repeats : error = none →
    ∃ parent, Path.parent? path = some parent ∧ (prepare after path).1 = complaint after parent

/-! ### By cases of what it comes to -/

/-- What is told of attempts that end badly. -/
theorem prepare_of_makeAll {source : IoError} (hparent : Path.parent? path = some parent) (hsome : parent ≠ "")
    (hall : tree.makeAll mode parent.toList = (some source, after)) :
    prepare tree path =
      (if source.kind = .alreadyExists then none else some (.createDirectory parent source), after) := by
  have hempty : parent.isEmpty = false := by simpa using hsome
  unfold prepare
  rw [hparent]
  simp only [hempty, Bool.false_eq_true, if_false, hall]
  split <;> rfl

theorem prepare_snd (hparent : Path.parent? path = some parent) (hsome : parent ≠ "") :
    (prepare tree path).2 = (tree.makeAll mode parent.toList).2 := by
  have hempty : parent.isEmpty = false := by simpa using hsome
  unfold prepare
  rw [hparent]
  simp only [hempty, Bool.false_eq_true, if_false]
  split
  · next later hall => rw [hall]
  · next error later hall =>
    rw [hall]
    split <;> rfl

section Outcome

variable {error : Option Error}

theorem Outcome.spares (h : Outcome tree path (error, after)) (hmissing : error = some (.missingParent path)) :
    after = tree := by
  cases h with
  | unplaced hunplaced => rfl
  | ready hparent hsome hall => cases hmissing
  | forgiven hparent hsome hall hkind => cases hmissing
  | refused hparent hsome hall hkind => cases hmissing

theorem Outcome.settles (h : Outcome tree path (error, after)) : (prepare after path).2 = after := by
  cases h with
  | unplaced hunplaced =>
    unfold prepare
    rcases hunplaced with hnone | hempty
    · rw [hnone]
    · rw [hempty]
      rfl
  | ready hparent hsome hall => rw [prepare_snd hparent hsome, makeAll_again hall]
  | forgiven hparent hsome hall hkind => rw [prepare_snd hparent hsome, makeAll_again hall]
  | refused hparent hsome hall hkind => rw [prepare_snd hparent hsome, makeAll_again hall]

theorem prepare_of_isDirectory (hparent : Path.parent? path = some parent) (h : tree.isDirectory parent = true) :
    prepare tree path = (none, tree) := by
  obtain ⟨node, hlook⟩ := lookAt_of_isDirectory h
  exact prepare_of_lookAt hparent hlook

/-- **A name that is taken** and was passed over once is passed over again, unless the path has come to lead up
    against it. -/
theorem complaint_of_forgiven {source : IoError} (hparent : Path.parent? path = some parent) (hsome : parent ≠ "")
    (hall : tree.makeAll mode parent.toList = (some source, after)) (hkind : source.kind = .alreadyExists) :
    (prepare after path).1 = complaint after parent := by
  obtain ⟨above, location, node, habove, -, hleads, hnot⟩ := taken_of_makeAll hkind hall
  unfold complaint
  cases hlook : after.lookAt parent with
  | ok node => rw [prepare_of_lookAt hparent hlook]
  | error fault =>
    rw [← parent.ofList_toList] at hlook
    by_cases hmissing : fault.kind = .notFound
    · have hagain := makeAll_of_obstructed mode habove hleads hnot hlook hmissing
      rw [prepare_of_makeAll hparent hsome hagain]
      simp [hmissing, show alreadyExists.kind = .alreadyExists from rfl]
    · obtain ⟨hagain, hother⟩ := makeAll_of_lookAt_error mode (by simpa using hsome) hlook hmissing
      rw [prepare_of_makeAll hparent hsome hagain]
      simp [hmissing, hother]

theorem Outcome.repeats (h : Outcome tree path (error, after)) (hwell : error = none) :
    ∃ parent, Path.parent? path = some parent ∧ (prepare after path).1 = complaint after parent := by
  cases h with
  | unplaced hunplaced => cases hwell
  | @ready parent _ hparent hsome hall =>
    refine ⟨parent, hparent, ?_⟩
    have hdirectory := isDirectory_of_makeAll (by simpa using hsome) hall
    rw [String.ofList_toList] at hdirectory
    obtain ⟨node, hlook⟩ := lookAt_of_isDirectory hdirectory
    rw [prepare_of_lookAt hparent hlook, complaint, hlook]
  | forgiven hparent hsome hall hkind => exact ⟨_, hparent, complaint_of_forgiven hparent hsome hall hkind⟩
  | refused hparent hsome hall hkind => cases hwell

end Outcome

/-- **What preparing does to a tree**: it adds directories above the socket and touches nothing else, and all that
    can be made is made at the first attempt. -/
theorem prepare_adds_ancestors (tree : FileTree) (path : String) :
    AddsAncestors tree path (prepare tree path).1 (prepare tree path).2 := by
  have houtcome := outcome_prepare tree path
  have hgrows := grows_prepare tree path
  exact ⟨hgrows.toKeeps, hgrows.made, houtcome.spares, houtcome.settles, fun _ => prepare_of_isDirectory,
    houtcome.repeats⟩

/-- **Two attempts, the second of which fails**: the path leads through a directory that is missing, back up from
    there and to a file. The first attempt makes the directory and passes over the file. -/
theorem prepare_differs :
    let tree : FileTree := { entries := [(["f"], .file [])] }
    let path := "/m/../f/b/s"
    (prepare tree path).1 = none ∧
      (prepare (prepare tree path).2 path).1 = some (.createDirectory "/m/../f/b" notADirectory) := by
  intro tree path
  let made : FileTree := { entries := [(["f"], .file []), (["m"], .directory mode)] }
  have hm : "m".utf8ByteSize = 1 := rfl
  have hf : "f".utf8ByteSize = 1 := rfl
  have hparent : Path.parent? path = some "/m/../f/b" := by decide +kernel
  -- while the directory is missing, nothing is found through it
  have hlost : ∀ rest, tree.walk false none maxLinks [] ("" :: "m" :: ".." :: rest) = .error notFound := by
    intro rest
    simp [tree, walk, node?, root, Node.isDirectory, Node.kind, isIdle, maxName, hm]
  have hbelow : tree.makeOne mode "/m/../f/b" = .error notFound := by
    refine makeOne_of_resolve_error (by decide) ?_
    rw [resolve_eq_walk (by decide) (by decide), show names "/m/../f/b" = ["", "m", "..", "f", "b"] by decide +kernel]
    exact hlost _
  have hbeside : tree.makeOne mode "/m/../f" = .error notFound := by
    refine makeOne_of_resolve_error (by decide) ?_
    rw [resolve_eq_walk (by decide) (by decide), show names "/m/../f" = ["", "m", "..", "f"] by decide +kernel]
    exact hlost _
  have hup : tree.makeOne mode "/m/.." = .error notFound := by
    refine makeOne_of_resolve_error (by decide) ?_
    rw [resolve_eq_walk (by decide) (by decide), show names "/m/.." = ["", "m", ".."] by decide +kernel]
    exact hlost _
  -- the first attempt makes it, and meets the file on its way back down
  have hmakes : tree.makeOne mode "/m" = .ok made := by
    have hfree : tree.resolve false "/m" = .ok ⟨["m"], none⟩ :=
      resolve_eq_ok_iff.2 ⟨by decide, .stay rfl rfl (.miss ⟨⟨_, rfl⟩, rfl, by decide, by decide⟩ rfl)⟩
    simp [makeOne, makeDirectory, show hasNul "/m" = false by decide, hfree, tree, made, put]
  have hstands : LeadsDown made [] "m" := ⟨⟨_, rfl⟩, rfl, by decide, by decide⟩
  have hdirectory : made.isDirectory "/m/.." = true :=
    isDirectory_iff.2 ⟨by decide, [], _, resolve_eq_ok_iff.2
      ⟨by decide, .stay rfl rfl (.down hstands rfl (by decide) (.up rfl (by decide) (.arrive rfl)))⟩⟩
  have htaken : made.makeOne mode "/m/../f" = .error alreadyExists := by
    have hleads : ∀ follow, made.resolve follow "/m/../f" = .ok ⟨["f"], some (.file [])⟩ := fun follow =>
      resolve_eq_ok_iff.2 ⟨by decide, .stay rfl rfl (.down hstands rfl (by decide) (.up rfl (by decide)
        (.down ⟨⟨_, rfl⟩, rfl, by decide, by decide⟩ rfl (by decide) (.arrive rfl))))⟩
    simp [makeOne, makeDirectory, isDirectory, locate, show hasNul "/m/../f" = false by decide, hleads,
      Node.isDirectory, Node.kind]
  have hall : tree.makeAll mode "/m/../f/b".toList = (some alreadyExists, made) := by
    have hfirst : tree.makeAll mode "/m".toList = (none, made) := by
      rw [makeAll, if_neg (by decide), String.ofList_toList, hmakes]
    have hsecond : tree.makeAll mode "/m/..".toList = (none, made) := by
      rw [makeAll_of_missing (by rwa [String.ofList_toList]) rfl
        (show Path.splitParent? "/m/..".toList = some ("..".toList, "/m".toList) by decide +kernel), hfirst]
      simp [makeOne_of_isDirectory hdirectory]
    have hthird : tree.makeAll mode "/m/../f".toList = (some alreadyExists, made) := by
      rw [makeAll_of_missing (by rwa [String.ofList_toList]) rfl
        (show Path.splitParent? "/m/../f".toList = some ("f".toList, "/m/..".toList) by decide +kernel), hsecond]
      simp [htaken]
    rw [makeAll_of_missing (by rwa [String.ofList_toList]) rfl
      (show Path.splitParent? "/m/../f/b".toList = some ("b".toList, "/m/../f".toList) by decide +kernel), hthird]
  have hfirst : prepare tree path = (none, made) := prepare_of_makeAll hparent (by decide) hall
  -- through the directory that is made, the path leads up against the file
  have hlook : made.lookAt (String.ofList "/m/../f/b".toList) = .error notADirectory := by
    rw [String.ofList_toList]
    refine lookAt_of_resolve_error (by decide) ?_
    rw [resolve_eq_walk (by decide) (by decide), show names "/m/../f/b" = ["", "m", "..", "f", "b"] by decide +kernel]
    show made.walk false none maxLinks [] ["", "m", "..", "f", "b"] = .error notADirectory
    simp [made, walk, node?, root, Node.isDirectory, Node.kind, isIdle, maxName, hm, hf]
  rw [hfirst]
  refine ⟨rfl, ?_⟩
  obtain ⟨hagain, hother⟩ := makeAll_of_lookAt_error mode (by decide) hlook (by decide)
  rw [prepare_of_makeAll hparent (by decide) hagain, if_neg hother]

end SocketDirectory

end DeviceBroker
