import DeviceBroker.Proofs.Replacing
import DeviceBroker.Proofs.Upward

/-!
# `Proofs.Providing` — when a prepared directory is there

Preparing a socket's directory ends well when the directory is there, and then sockets can stand in it. It ends
well in one more case: when a directory could not be made because its name is taken. Whether a directory has
that name was looked at before, and made the attempt a success; so the name is that of something else, and
nothing provides the directory.

What is in the way then is not new, and it may stand further up than the directory that was asked for.

## Contents

* `FileTree.Hosts`, `hosts_of_isDirectory` — directories in which sockets can stand.
* `FileTree.Tried`, `tried_makeOne` — **all that one attempt can come to**.
* `FileTree.isDirectory_of_makeAll`, `not_isDirectory_of_makeAll`, `taken_of_makeAll` — the same with the
  directories above.
* `SocketDirectory.Obstructed`, `Prepares`, `prepare_provides` — **what preparing comes to**.
* `SocketDirectory.prepare_beside_file` — a directory that is reported and not there.
-/

namespace DeviceBroker

namespace FileTree

variable {tree : FileTree} {mode : Nat}

/-! ## Directories for sockets -/

/-- **A path leads to a directory in which sockets can stand**: every name that is free there is bound, if it is
    one and makes an address with the path. -/
structure Hosts (tree : FileTree) (path : String) : Prop where
  directory : tree.isDirectory path = true
  binds : ∀ (holder : Holder) (name : String) (location : Location) (mode : Nat),
    tree.resolve true path = .ok ⟨location, some (.directory mode)⟩ →
    isIdle name = false → name ≠ ".." → Path.separator ∉ name.toList →
    tree.node? (location ++ [name]) = none → checkAddress (path ++ "/" ++ name) = .ok () →
    tree.bindStream (path ++ "/" ++ name) holder = .ok (tree.put (location ++ [name]) (.socket .stream holder))

theorem utf8ByteSize_lt_of_address {path : String} (h : checkAddress path = .ok ()) :
    path.utf8ByteSize < maxAddress := by
  unfold checkAddress at h
  split at h
  · cases h
  · split at h
    · cases h
    · next hshort => exact Nat.not_le.1 hshort

/-- The names of a path with one more. -/
theorem names_join {path name : String} (h : Path.separator ∉ name.toList) :
    names (path ++ "/" ++ name) = names path ++ [name] := by
  have hjoined : (path ++ "/" ++ name).toList = path.toList ++ Path.separator :: name.toList := by
    simp [Path.separator]
  have hsingle : ∀ c ∈ name.toList, (c == Path.separator) = false := by
    intro c hc
    simp only [beq_eq_false_iff_ne]
    rintro rfl
    exact h hc
  unfold names Path.parts
  rw [hjoined, List.splitOnP_append_cons _ _ (by decide), List.splitOnP_eq_singleton hsingle, List.map_append]
  simp

/-- **Sockets can stand in every directory.** -/
theorem hosts_of_isDirectory {path : String} (h : tree.isDirectory path = true) : Hosts tree path := by
  refine ⟨h, ?_⟩
  intro holder name location mode hleads hspeaks hup hsingle hfree haddress
  obtain ⟨⟨hsome, -⟩, hwalks⟩ := resolve_eq_ok_iff.1 hleads
  have hshort := utf8ByteSize_lt_of_address haddress
  have hsize : name.utf8ByteSize ≤ maxName := by
    rw [String.utf8ByteSize_append] at hshort
    unfold maxAddress at hshort
    unfold maxName
    omega
  have hdown : LeadsDown tree location name := ⟨⟨mode, by rw [node?_of_resolve hleads]⟩, hspeaks, hup, hsize⟩
  have hne : path ≠ "" := by
    rintro rfl
    cases hsome
  have hbegins : Path.Begins path.toList (path ++ "/" ++ name).toList := ⟨name.toList, by simp [Path.separator]⟩
  have hjoined : tree.resolve false (path ++ "/" ++ name) = .ok ⟨location ++ [name], none⟩ := by
    refine resolve_eq_ok_iff.2 ⟨⟨?_, Nat.lt_trans hshort (by decide)⟩, ?_⟩
    · simp
    · rw [startOf_of_begins hbegins hne, names_join hsingle]
      exact hwalks.beyond hdown hfree rfl
  have hend : endsLikeDirectory (path ++ "/" ++ name) = false := by
    have hname : name.toList ≠ [] := by
      intro hnone
      obtain rfl : name = "" := by simpa using hnone
      cases hspeaks
    obtain ⟨front, last, hlast⟩ := (List.eq_nil_or_concat name.toList).resolve_left hname
    have hlastsep : last ≠ Path.separator := by
      rintro rfl
      exact hsingle (by simp [hlast])
    have hjoin : (path ++ "/" ++ name).toList = (path.toList ++ '/' :: front) ++ [last] := by simp [hlast]
    unfold endsLikeDirectory
    rw [hjoin, List.getLast?_concat]
    simpa using hlastsep
  exact bindStream_of_resolve holder haddress hend hjoined

/-! ## One attempt -/

/-- The errors of a path that leads nowhere, being none that a path is itself refused for. -/
theorem walk_error {follow : Bool} {floor : Option Location} {links : Nat} {here : Location} {parts : List String}
    {error : IoError} (h : tree.walk follow floor links here parts = .error error) :
    error ∈ [notFound, notADirectory, outside, nameTooLong, tooManyLinks] := by
  fun_induction walk tree follow floor links here parts with
  | case1 | case9 | case11 => cases h
  | case2 | case3 | case4 | case6 | case8 | case10 | case12 | case13 =>
    cases h
    simp
  | case5 _ _ _ _ _ _ _ _ ih | case7 _ _ _ _ _ _ _ _ ih => exact ih h
  | case14 _ _ _ _ _ _ _ _ _ _ _ _ _ _ _ ih => exact ih h
  | case15 _ _ _ _ _ _ _ _ _ _ _ _ _ _ ih => exact ih h
  | case16 _ _ _ _ _ _ _ _ _ _ _ _ _ ih => exact ih h

theorem resolve_error {follow : Bool} {path : String} {error : IoError}
    (h : tree.resolve follow path = .error error) :
    error ∈ [notFound, notADirectory, outside, nameTooLong, tooManyLinks] := by
  unfold resolve at h
  split at h
  · cases h
    simp
  · split at h
    · cases h
      simp
    · exact walk_error h

/-- No path is refused because its name is taken. -/
theorem kind_ne_of_resolve_error {follow : Bool} {path : String} {error : IoError}
    (h : tree.resolve follow path = .error error) : error.kind ≠ .alreadyExists := by
  have hnone : ∀ error ∈ [notFound, notADirectory, outside, nameTooLong, tooManyLinks],
      error.kind ≠ .alreadyExists := by decide
  exact hnone error (resolve_error h)

/-- A path is refused for something missing in one way only. -/
theorem eq_notFound_of_kind {follow : Bool} {path : String} {error : IoError}
    (h : tree.resolve follow path = .error error) (hkind : error.kind = .notFound) : error = notFound := by
  have honly : ∀ error ∈ [notFound, notADirectory, outside, nameTooLong, tooManyLinks],
      error.kind = .notFound → error = notFound := by decide
  exact honly error (resolve_error h) hkind

/-- **What one attempt to make a directory comes to.** -/
inductive Tried (tree : FileTree) (mode : Nat) (path : String) : Except IoError FileTree → Prop
  /-- The directory is made where nothing stood. -/
  | made {location : Location} :
      hasNul path = false → tree.resolve false path = .ok ⟨location, none⟩ →
      Tried tree mode path (.ok (tree.put location (.directory mode)))
  /-- The directory was there. -/
  | stood : tree.isDirectory path = true → Tried tree mode path (.ok tree)
  /-- Something else has the name. -/
  | taken {location : Location} {node : Node} :
      hasNul path = false → tree.resolve false path = .ok ⟨location, some node⟩ → tree.isDirectory path = false →
      Tried tree mode path (.error alreadyExists)
  /-- The path leads nowhere. -/
  | lost {error : IoError} :
      hasNul path = false → tree.resolve false path = .error error → tree.isDirectory path = false →
      Tried tree mode path (.error error)
  /-- The path cannot be passed to the system. -/
  | unfit : hasNul path = true → tree.isDirectory path = false → Tried tree mode path (.error nulInPath)

/-- A directory is named by its path. -/
theorem lookAt_of_isDirectory {path : String} (h : tree.isDirectory path = true) :
    ∃ node, tree.lookAt path = .ok node := by
  obtain ⟨hnul, location, mode, hleads⟩ := isDirectory_iff.1 h
  exact lookAt_of_exists (exists?_iff.2 ⟨hnul, location, _, hleads⟩)

/-- A directory that is there will do. -/
theorem makeOne_of_isDirectory {path : String} (h : tree.isDirectory path = true) :
    tree.makeOne mode path = .ok tree := by
  obtain ⟨node, hlook⟩ := lookAt_of_isDirectory h
  obtain ⟨hnul, location, hleads⟩ := lookAt_eq_ok_iff.1 hlook
  simp [makeOne, makeDirectory, hnul, hleads, h]

theorem tried_makeOne (tree : FileTree) (mode : Nat) (path : String) :
    Tried tree mode path (tree.makeOne mode path) := by
  cases hdirectory : tree.isDirectory path with
  | true =>
    rw [makeOne_of_isDirectory hdirectory]
    exact .stood hdirectory
  | false =>
    have hone : tree.makeOne mode path = tree.makeDirectory path mode := by
      unfold makeOne
      split
      · next later hmade => exact hmade.symm
      · next error hfails => simp [hdirectory, hfails]
    rw [hone]
    unfold makeDirectory
    cases hnul : hasNul path with
    | true => exact .unfit hnul hdirectory
    | false =>
      cases hleads : tree.resolve false path with
      | error error => exact .lost hnul hleads hdirectory
      | ok place =>
        obtain ⟨location, node⟩ := place
        cases node with
        | none => exact .made hnul hleads
        | some node => exact .taken hnul hleads hdirectory

/-- **An attempt that goes well** leaves a directory. -/
theorem isDirectory_of_makeOne {path : String} {later : FileTree} (h : tree.makeOne mode path = .ok later) :
    later.isDirectory path = true := by
  have htried := tried_makeOne tree mode path
  rw [h] at htried
  cases htried with
  | made hnul hleads =>
    have hkind : (Node.directory mode).kind ≠ .symlink := nofun
    exact isDirectory_iff.2 ⟨hnul, _, mode, resolve_follow (by simpa using hkind) (resolve_put hkind hleads)⟩
  | stood hdirectory => exact hdirectory

/-- **An attempt that fails** does so because no directory is there. -/
theorem not_isDirectory_of_makeOne {path : String} {error : IoError} (h : tree.makeOne mode path = .error error) :
    tree.isDirectory path = false := by
  have htried := tried_makeOne tree mode path
  rw [h] at htried
  cases htried with
  | taken hnul hleads hdirectory => exact hdirectory
  | lost hnul hleads hdirectory => exact hdirectory
  | unfit hnul hdirectory => exact hdirectory

/-! ## All attempts -/

section All

variable {path : List Char} {later : FileTree}

/-- **What is made is there**, whichever of the directories above had to be made. -/
theorem isDirectory_of_makeAll (hsome : path ≠ []) (h : tree.makeAll mode path = (none, later)) :
    later.isDirectory (String.ofList path) = true := by
  fun_induction makeAll tree mode path with
  | case1 => exact absurd rfl hsome
  | case2 path hpath made hmade =>
    cases h
    exact isDirectory_of_makeOne hmade
  | case6 path hpath error hmade hkind last parent hsplit between hall made hagain ih =>
    cases h
    exact isDirectory_of_makeOne hagain
  | _ => cases h

/-- **If the directory is not made**, it is not there, wherever the attempts ended. Induction over the paths
    above: below what is no directory there is none. -/
theorem not_isDirectory_of_makeAll {error : IoError} (h : tree.makeAll mode path = (some error, later)) :
    later.isDirectory (String.ofList path) = false := by
  fun_induction makeAll tree mode path with
  | case1 => cases h
  | case2 path hpath made hmade => cases h
  | case3 path hpath fault hmade hkind =>
    cases h
    exact not_isDirectory_of_makeOne hmade
  | case4 path hpath fault hmade hkind hnone =>
    cases h
    exact not_isDirectory_of_makeOne hmade
  | case5 path hpath fault hmade hkind last parent hsplit above between hall ih =>
    cases h
    have hsome : parent ≠ [] := by
      rintro rfl
      rw [makeAll] at hall
      cases hall
    refine Bool.eq_false_iff.2 fun hdirectory => ?_
    obtain ⟨hnul, location, mode, hleads⟩ := isDirectory_iff.1 hdirectory
    have habove := isDirectory_parent hsplit hsome hnul hleads
    rw [ih hall] at habove
    cases habove
  | case6 path hpath fault hmade hkind last parent hsplit between hall made hagain ih => cases h
  | case7 path hpath fault hmade hkind last parent hsplit between hall again hagain ih =>
    cases h
    exact not_isDirectory_of_makeOne hagain

/-- An attempt that finds the name taken. -/
theorem taken_of_makeOne {path : String} {error : IoError} (hkind : error.kind = .alreadyExists)
    (h : tree.makeOne mode path = .error error) :
    hasNul path = false ∧ ∃ location node, tree.resolve false path = .ok ⟨location, some node⟩ := by
  have htried := tried_makeOne tree mode path
  rw [h] at htried
  cases htried with
  | taken hnul hleads hdirectory => exact ⟨hnul, _, _, hleads⟩
  | lost hnul hleads hdirectory => exact absurd hkind (kind_ne_of_resolve_error hleads)
  | unfit hnul hdirectory => cases hkind

/-- **If the attempts end at a name that is taken**, that of the directory or of one above it, it is that of
    something else. Induction over the paths above. -/
theorem taken_of_makeAll {error : IoError} (hkind : error.kind = .alreadyExists)
    (h : tree.makeAll mode path = (some error, later)) :
    ∃ above location node, Path.Above above path ∧ hasNul (String.ofList above) = false ∧
      later.resolve false (String.ofList above) = .ok ⟨location, some node⟩ ∧
      later.isDirectory (String.ofList above) = false := by
  fun_induction makeAll tree mode path with
  | case1 => cases h
  | case2 path hpath made hmade => cases h
  | case3 path hpath fault hmade hother =>
    cases h
    obtain ⟨hnul, location, node, hleads⟩ := taken_of_makeOne hkind hmade
    exact ⟨path, location, node, .self, hnul, hleads, not_isDirectory_of_makeOne hmade⟩
  | case4 path hpath fault hmade hmissing hnone =>
    cases h
    cases hkind
  | case5 path hpath fault hmade hmissing last parent hsplit above between hall ih =>
    cases h
    obtain ⟨above, location, node, habove, htaken⟩ := ih hall
    exact ⟨above, location, node, .further hsplit habove, htaken⟩
  | case6 path hpath fault hmade hmissing last parent hsplit between hall made hagain ih => cases h
  | case7 path hpath fault hmade hmissing last parent hsplit between hall again hagain ih =>
    cases h
    obtain ⟨hnul, location, node, hleads⟩ := taken_of_makeOne hkind hagain
    exact ⟨path, location, node, .self, hnul, hleads, not_isDirectory_of_makeOne hagain⟩

/-- **A name that is taken** ends the attempts, well or not, before anything is made. -/
theorem makeAll_of_lookAt (mode : Nat) {node : Node} (h : tree.lookAt (String.ofList path) = .ok node) :
    tree.makeAll mode path = (none, tree) ∨ tree.makeAll mode path = (some alreadyExists, tree) := by
  obtain ⟨hnul, location, hleads⟩ := lookAt_eq_ok_iff.1 h
  have hsome : path ≠ [] := by
    rintro rfl
    cases (resolve_eq_ok_iff.1 hleads).1.1
  have htried := tried_makeOne tree mode (String.ofList path)
  unfold makeAll
  rw [if_neg hsome]
  cases hone : tree.makeOne mode (String.ofList path) with
  | ok made =>
    rw [hone] at htried
    left
    cases htried with
    | made hfit hfree => cases hleads.symm.trans hfree
    | stood hdirectory => rfl
  | error error =>
    rw [hone] at htried
    right
    cases htried with
    | taken hfit hnamed hdirectory => rfl
    | lost hfit hnowhere hdirectory => cases hleads.symm.trans hnowhere
    | unfit hunfit hdirectory => cases hnul.symm.trans hunfit

end All

end FileTree

open FileTree

namespace SocketDirectory

variable {tree after : FileTree} {path parent : String}

/-! ## The socket's directory -/

/-- **All that preparing can come to**, by what making the directory comes to. -/
inductive Outcome (tree : FileTree) (path : String) : Option Error × FileTree → Prop
  /-- The path has no directory part. -/
  | unplaced : Path.parent? path = none ∨ Path.parent? path = some "" →
      Outcome tree path (some (.missingParent path), tree)
  /-- The directory is made, or is there. -/
  | ready {parent : String} {after : FileTree} :
      Path.parent? path = some parent → parent ≠ "" → tree.makeAll mode parent.toList = (none, after) →
      Outcome tree path (none, after)
  /-- A name is taken, which is passed over. -/
  | forgiven {parent : String} {source : IoError} {after : FileTree} :
      Path.parent? path = some parent → parent ≠ "" → tree.makeAll mode parent.toList = (some source, after) →
      source.kind = .alreadyExists → Outcome tree path (none, after)
  /-- The directory cannot be made. -/
  | refused {parent : String} {source : IoError} {after : FileTree} :
      Path.parent? path = some parent → parent ≠ "" → tree.makeAll mode parent.toList = (some source, after) →
      source.kind ≠ .alreadyExists → Outcome tree path (some (.createDirectory parent source), after)

theorem outcome_prepare (tree : FileTree) (path : String) : Outcome tree path (prepare tree path) := by
  unfold prepare
  split
  · next hnone => exact .unplaced (Or.inl hnone)
  · next parent hparent =>
    split
    · next hempty =>
      obtain rfl : parent = "" := by simpa using hempty
      exact .unplaced (Or.inr hparent)
    · next hempty =>
      have hsome : parent ≠ "" := by simpa using hempty
      split
      · next after hall => exact .ready hparent hsome hall
      · next source after hall =>
        split
        · next hkind => exact .forgiven hparent hsome hall hkind
        · next hkind => exact .refused hparent hsome hall hkind

/-- **Something is in the way** of a directory: it was there before, and the directory's path, or one above it,
    names it and leads to no directory. -/
def Obstructed (before after : FileTree) (directory : String) : Prop :=
  ∃ above location node, Path.Above above directory.toList ∧
    after.resolve false (String.ofList above) = .ok ⟨location, some node⟩ ∧
    before.node? location = some node ∧ after.isDirectory (String.ofList above) = false

/-- **What preparing the socket's directory comes to.** -/
structure Prepares (tree : FileTree) (path : String) (error : Option Error) (after : FileTree) : Prop where
  /-- A path without a directory part is refused. -/
  misses : error = some (.missingParent path) ↔ Path.parent? path = none ∨ Path.parent? path = some ""
  /-- Every other failure is that of the directory, which is not there then. -/
  fails : ∀ refusal, error = some refusal → refusal ≠ .missingParent path →
    ∃ parent source, Path.parent? path = some parent ∧ refusal = .createDirectory parent source ∧
      after.isDirectory parent = false
  /-- If all goes well, sockets can stand in the directory, just if nothing is in the way. -/
  provides : error = none → ∃ parent, Path.parent? path = some parent ∧
    (Hosts after parent ↔ ¬Obstructed tree after parent)
  /-- All goes well for a name that is taken, whatever has it. -/
  overlooks : ∀ parent node, Path.parent? path = some parent → tree.lookAt parent = .ok node →
    error = none ∧ after = tree

/-- Nothing is in the way of a directory that is there. -/
theorem not_obstructed (h : after.isDirectory parent = true) : ¬Obstructed tree after parent := by
  rintro ⟨above, location, node, habove, hleads, -, hnot⟩
  have hsome : above ≠ [] := by
    rintro rfl
    cases (resolve_eq_ok_iff.1 hleads).1.1
  have hdirectory := isDirectory_above habove hsome (by rwa [String.ofList_toList])
  rw [hnot] at hdirectory
  cases hdirectory

/-- **A name that is taken** is that of something that was there before: all that is new is directories. -/
theorem obstructed_of_taken {source : IoError} (h : tree.makeAll mode parent.toList = (some source, after))
    (hkind : source.kind = .alreadyExists) : Obstructed tree after parent := by
  obtain ⟨above, location, node, habove, hnul, hleads, hnot⟩ := taken_of_makeAll hkind h
  have hgrows := tree.grows_makeAll mode parent.toList
  rw [h] at hgrows
  have hstands := node?_of_resolve hleads
  refine ⟨above, location, node, habove, hleads, ?_, hnot⟩
  cases hbefore : tree.node? location with
  | some old =>
    rw [hgrows.node location old hbefore] at hstands
    exact hstands
  | none =>
    obtain ⟨rfl, -⟩ := hgrows.made location node hbefore hstands
    have hkind : (Node.directory mode).kind ≠ .symlink := nofun
    have hdirectory := isDirectory_iff.2 ⟨hnul, location, mode, resolve_follow (by simpa using hkind) hleads⟩
    rw [hnot] at hdirectory
    cases hdirectory

/-! ### By cases of what it comes to -/

section Outcome

variable {error : Option Error}

theorem Outcome.misses (h : Outcome tree path (error, after)) :
    error = some (.missingParent path) ↔ Path.parent? path = none ∨ Path.parent? path = some "" := by
  have hplaced : ∀ {parent : String}, Path.parent? path = some parent → parent ≠ "" →
      ¬(Path.parent? path = none ∨ Path.parent? path = some "") := by
    intro parent hparent hsome
    rw [hparent]
    simpa using hsome
  cases h with
  | unplaced hunplaced => exact ⟨fun _ => hunplaced, fun _ => rfl⟩
  | ready hparent hsome hall => exact ⟨nofun, fun h => absurd h (hplaced hparent hsome)⟩
  | forgiven hparent hsome hall hkind => exact ⟨nofun, fun h => absurd h (hplaced hparent hsome)⟩
  | refused hparent hsome hall hkind => exact ⟨nofun, fun h => absurd h (hplaced hparent hsome)⟩

theorem Outcome.fails (h : Outcome tree path (error, after)) {refusal : Error} (hrefusal : error = some refusal)
    (hother : refusal ≠ .missingParent path) :
    ∃ parent source, Path.parent? path = some parent ∧ refusal = .createDirectory parent source ∧
      after.isDirectory parent = false := by
  cases h with
  | unplaced hunplaced =>
    cases hrefusal
    exact absurd rfl hother
  | ready hparent hsome hall => cases hrefusal
  | forgiven hparent hsome hall hkind => cases hrefusal
  | refused hparent hsome hall hkind =>
    cases hrefusal
    have hnot := not_isDirectory_of_makeAll hall
    rw [String.ofList_toList] at hnot
    exact ⟨_, _, hparent, rfl, hnot⟩

theorem Outcome.provides (h : Outcome tree path (error, after)) (hwell : error = none) :
    ∃ parent, Path.parent? path = some parent ∧ (Hosts after parent ↔ ¬Obstructed tree after parent) := by
  cases h with
  | unplaced hunplaced => cases hwell
  | @ready parent _ hparent hsome hall =>
    have hdirectory := isDirectory_of_makeAll (by simpa using hsome) hall
    rw [String.ofList_toList] at hdirectory
    exact ⟨parent, hparent, fun _ => not_obstructed hdirectory, fun _ => hosts_of_isDirectory hdirectory⟩
  | @forgiven parent source _ hparent hsome hall hkind =>
    have htaken := obstructed_of_taken hall hkind
    exact ⟨parent, hparent, fun hhosts => not_obstructed hhosts.directory, fun hfree => absurd htaken hfree⟩
  | refused hparent hsome hall hkind => cases hwell

/-- **A name that is taken** is passed over. -/
theorem prepare_of_lookAt {node : Node} (hparent : Path.parent? path = some parent)
    (h : tree.lookAt parent = .ok node) : prepare tree path = (none, tree) := by
  have hsome : parent.isEmpty = false := by
    obtain ⟨-, location, hleads⟩ := lookAt_eq_ok_iff.1 h
    exact (resolve_eq_ok_iff.1 hleads).1.1
  rw [← parent.ofList_toList] at h
  unfold prepare
  rw [hparent]
  rcases makeAll_of_lookAt mode h with hall | hall
  · simp [hsome, hall]
  · simp [hsome, hall, show alreadyExists.kind = .alreadyExists from rfl]

end Outcome

/-- **What preparing comes to**: a directory in which sockets can stand, or an error, unless something is in the
    way. What has the directory's own name is always passed over. -/
theorem prepare_provides (tree : FileTree) (path : String) :
    Prepares tree path (prepare tree path).1 (prepare tree path).2 := by
  have houtcome := outcome_prepare tree path
  refine ⟨houtcome.misses, fun _ => houtcome.fails, houtcome.provides, ?_⟩
  intro parent node hparent hlook
  rw [prepare_of_lookAt hparent hlook]
  exact ⟨rfl, rfl⟩

/-- **A directory that is reported and not there**: a file has its name. -/
theorem prepare_beside_file :
    let tree : FileTree := { entries := [(["f"], .file [])] }
    (prepare tree "/f/s").1 = none ∧ Path.parent? "/f/s" = some "/f" ∧
      (prepare tree "/f/s").2.isDirectory "/f" = false ∧ (prepare tree "/f/s").2.exists? "/f" = true := by
  intro tree
  have hparent : Path.parent? "/f/s" = some "/f" := by decide +kernel
  have hleads : ∀ follow, tree.resolve follow "/f" = .ok ⟨["f"], some (.file [])⟩ := fun follow =>
    resolve_eq_ok_iff.2 ⟨by decide, .stay rfl rfl
      (.down ⟨⟨_, rfl⟩, rfl, by decide, by decide⟩ rfl nofun (.arrive rfl))⟩
  have hlook : tree.lookAt "/f" = .ok (.file []) := lookAt_eq_ok_iff.2 ⟨by decide, _, hleads false⟩
  rw [prepare_of_lookAt hparent hlook]
  refine ⟨rfl, hparent, ?_, exists?_iff.2 ⟨by decide, _, _, hleads true⟩⟩
  unfold isDirectory locate
  rw [hleads]
  rfl

end SocketDirectory

end DeviceBroker
