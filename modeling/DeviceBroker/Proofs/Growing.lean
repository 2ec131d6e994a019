import DeviceBroker.Proofs.Walking
import DeviceBroker.SocketDirectory

/-!
# `Proofs.Growing` — directories that are made

The socket's directory is tried first, then those above it, then itself once more, and an attempt may end
anywhere in between. What can be said of the tree afterwards is the same at each point: everything that
stood still stands, and whatever is new is a directory that one of the paths tried now leads to.

## Contents

* `Path.Above`, `Path.IsAncestor` — the paths above a path.
* `FileTree.Grows` — **a tree with some directories more**; `Grows.trans` puts two growths together.
* `grows_makeOne`, `grows_makeAll`, `grows_prepare` — what making directories does.
* `prepare_below_root` — when there is nothing to make.
-/

namespace DeviceBroker

namespace Path

/-- **A path or one above it**: what is left when last parts are taken off. -/
inductive Above (above : List Char) : List Char → Prop
  /-- Nothing is taken off. -/
  | self : Above above above
  /-- The last part is taken off, and perhaps more. -/
  | further {path last parent : List Char} :
      splitParent? path = some (last, parent) → Above above parent → Above above path

/-- A path above another one. -/
def IsAncestor (path above : String) : Prop :=
  ∃ parent, parent? path = some parent ∧ Above above.toList parent.toList

end Path

namespace FileTree

/-- **A tree grows** by directories of a mode, to each of which one of the paths leads. -/
structure Grows (mode : Nat) (paths : String → Prop) (before after : FileTree) : Prop
    extends Keeps before after where
  made : ∀ location node, before.node? location = none → after.node? location = some node →
    node = .directory mode ∧ ∃ path, paths path ∧ after.resolve false path = .ok ⟨location, some node⟩

namespace Grows

variable {mode : Nat} {paths : String → Prop} {before after : FileTree}

theorem refl (mode : Nat) (paths : String → Prop) (tree : FileTree) : Grows mode paths tree tree where
  toKeeps := .refl tree
  made location node hnone hsome := by
    rw [hnone] at hsome
    cases hsome

/-- Two growths make one. What the first one made, its path still leads to after the second. -/
theorem trans {later : FileTree} (first : Grows mode paths before after)
    (second : Grows mode paths after later) : Grows mode paths before later where
  toKeeps := first.toKeeps.trans second.toKeeps
  made := by
    intro location node hnone hsome
    cases hbetween : after.node? location with
    | none => exact second.made location node hbetween hsome
    | some made =>
      have hsame := second.node location made hbetween
      rw [hsome] at hsame
      cases hsame
      obtain ⟨hdirectory, path, hpath, hleads⟩ := first.made location node hnone hbetween
      exact ⟨hdirectory, path, hpath, second.resolve (Option.some_ne_none _) hleads⟩

theorem mono {more : String → Prop} (grows : Grows mode paths before after)
    (h : ∀ path, paths path → more path) : Grows mode more before after where
  toKeeps := grows.toKeeps
  made location node hnone hsome := by
    obtain ⟨hdirectory, path, hpath, hleads⟩ := grows.made location node hnone hsome
    exact ⟨hdirectory, path, h path hpath, hleads⟩

/-- A directory is made where a path led to nothing. -/
theorem put {tree : FileTree} {path : String} {location : Location} (hpath : paths path)
    (h : tree.resolve false path = .ok ⟨location, none⟩) :
    Grows mode paths tree (tree.put location (.directory mode)) where
  toKeeps := keeps_put (node?_of_resolve h) _
  made := by
    intro other node hnone hsome
    by_cases heq : other = location
    · subst heq
      rw [node?_put_self (ne_nil_of_fresh hnone)] at hsome
      cases hsome
      have hkind : (Node.directory mode).kind ≠ .symlink := nofun
      exact ⟨rfl, path, hpath, resolve_put hkind h⟩
    · rw [node?_put_ne heq, hnone] at hsome
      cases hsome

/-- No socket is made. -/
theorem socket_before (grows : Grows mode paths before after) {location : Location} {transport : Transport}
    {holder : Holder} (h : after.node? location = some (.socket transport holder)) :
    before.node? location = some (.socket transport holder) := by
  cases hbefore : before.node? location with
  | none => cases (grows.made location _ hbefore h).1
  | some node =>
    have hkept := grows.node location node hbefore
    rw [h] at hkept
    rw [hkept]

end Grows

/-! ## Making directories -/

variable {mode : Nat}

/-- One directory is made, or is there already. -/
theorem grows_makeOne {tree later : FileTree} {path : String} (h : tree.makeOne mode path = .ok later) :
    Grows mode (· = path) tree later := by
  unfold makeOne at h
  split at h
  · next made hmade =>
    cases h
    unfold makeDirectory at hmade
    split at hmade
    · cases hmade
    · split at hmade
      · cases hmade
      · cases hmade
      · next location hleads =>
        cases hmade
        exact .put rfl hleads
  · split at h
    · cases h
      exact .refl _ _ tree
    · cases h

/-- **A directory and those above it** are made, as far as it goes. Induction over the paths above. -/
theorem grows_makeAll (tree : FileTree) (mode : Nat) (path : List Char) :
    Grows mode (fun above => Path.Above above.toList path) tree (tree.makeAll mode path).2 := by
  have hself : ∀ {path : List Char} (above : String), above = String.ofList path →
      Path.Above above.toList path := by
    rintro path above rfl
    rw [String.toList_ofList]
    exact .self
  fun_induction makeAll tree mode path with
  | case1 => exact .refl _ _ tree
  | case2 path hpath later hmade => exact (grows_makeOne hmade).mono hself
  | case3 path hpath error hmade hkind => exact .refl _ _ tree
  | case4 path hpath error hmade hkind hnone => exact .refl _ _ tree
  | case5 path hpath error hmade hkind last parent hsplit fault later hall ih =>
    rw [hall] at ih
    exact ih.mono fun above habove => .further hsplit habove
  | case6 path hpath error hmade hkind last parent hsplit later hall made hagain ih =>
    rw [hall] at ih
    exact (ih.mono fun above habove => .further hsplit habove).trans ((grows_makeOne hagain).mono hself)
  | case7 path hpath error hmade hkind last parent hsplit later hall fault hagain ih =>
    rw [hall] at ih
    exact ih.mono fun above habove => .further hsplit habove

end FileTree

/-! ## The socket's directory -/

namespace SocketDirectory

/-- **The socket's directory is prepared**, or not: the tree grows by directories above the socket. -/
theorem grows_prepare (tree : FileTree) (path : String) :
    FileTree.Grows mode (Path.IsAncestor path) tree (prepare tree path).2 := by
  unfold prepare
  split
  · exact .refl _ _ tree
  · next parent hparent =>
    split
    · exact .refl _ _ tree
    · have hgrows := (tree.grows_makeAll mode parent.toList).mono fun above habove =>
        (⟨parent, hparent, habove⟩ : Path.IsAncestor path above)
      split
      · next later hall =>
        rw [hall] at hgrows
        exact hgrows
      · next fault later hall =>
        rw [hall] at hgrows
        split
        · exact hgrows
        · exact hgrows

/-- The root is there, so nothing is made for a socket right below it. -/
theorem prepare_below_root (tree : FileTree) {path : String} (h : Path.parent? path = some "/") :
    prepare tree path = (none, tree) := by
  have hroot : ∀ follow, tree.resolve follow "/" = .ok ⟨[], some FileTree.root⟩ := fun follow =>
    FileTree.resolve_eq_ok_iff.2 ⟨by decide, .stay rfl rfl (.stay rfl rfl (.arrive rfl))⟩
  have hone : tree.makeOne mode "/" = .ok tree := by
    unfold FileTree.makeOne FileTree.makeDirectory FileTree.isDirectory FileTree.locate
    rw [hroot, hroot]
    rfl
  unfold prepare
  rw [h]
  unfold FileTree.makeAll
  simp [hone]

end SocketDirectory

end DeviceBroker
