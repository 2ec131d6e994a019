import DeviceBroker.Proofs.Replacing

/-!
# `Proofs.Removing` — what is left of a path that is removed

Removing takes away the one thing that the path itself names: a link and not what it leads to, and never a
directory. Afterwards the path names nothing, and everything else stands where it stood.

What is said here is said about what stands where before and after, so it does not matter how it was brought about.

## Contents

* `FileTree.Removable`, `FileTree.Removed` — **what is taken, and what is left**.
* `FileTree.remove_cases` — removing by its cases.
* `Listener.removed_cleanUp` — **a listener that is done** leaves just that.
-/

namespace DeviceBroker

namespace FileTree

/-- **What stands at a location is what a path names**, and it is no directory. -/
def Removable (tree : FileTree) (path : String) (location : Location) : Prop :=
  hasNul path = false ∧ ∃ node, tree.resolve false path = .ok ⟨location, some node⟩ ∧ node.isDirectory = false

/-- **What becomes of a tree** when a path is removed. -/
structure Removed (path : String) (before after : FileTree) : Prop where
  /-- What the path names is gone. -/
  taken : ∀ location, before.Removable path location → after.node? location = none
  /-- Everything else stands where it stood. -/
  others : ∀ location, ¬before.Removable path location → after.node? location = before.node? location
  workingDirectory : after.workingDirectory = before.workingDirectory
  /-- The path names nothing any more, except a directory. -/
  vacant : ∀ node, after.lookAt path = .ok node → node.isDirectory = true
  /-- Where a socket was, nothing is found. -/
  unfound : ∀ transport holder, before.lookAt path = .ok (.socket transport holder) →
    after.lookAt path = .error notFound
  /-- Where there was nothing to be taken, nothing happens. -/
  untouched : (∀ location, ¬before.Removable path location) → after = before

section Removed

variable {tree : FileTree} {path : String} {location : Location}

/-- A path names one thing at most. -/
theorem Removable.unique {other : Location} (h : tree.Removable path location) (hother : tree.Removable path other) :
    other = location := by
  obtain ⟨-, node, hleads, -⟩ := h
  obtain ⟨-, another, hothers, -⟩ := hother
  cases hleads.symm.trans hothers
  rfl

/-- The root is a directory. -/
theorem Removable.ne_nil (h : tree.Removable path location) : location ≠ [] := by
  rintro rfl
  obtain ⟨-, node, hleads, hleaf⟩ := h
  cases node?_of_resolve hleads
  cases hleaf

/-- What a path names is a directory, or it can be removed. -/
theorem isDirectory_of_lookAt {node : Node} (hnone : ∀ location, ¬tree.Removable path location)
    (h : tree.lookAt path = .ok node) : node.isDirectory = true := by
  obtain ⟨hnul, location, hleads⟩ := lookAt_eq_ok_iff.1 h
  cases hleaf : node.isDirectory with
  | true => rfl
  | false => exact absurd ⟨hnul, node, hleads, hleaf⟩ (hnone location)

/-- What is left of a tree was there before. -/
theorem keeps_of_erase (h : location ≠ []) : Keeps (tree.erase location) tree := by
  refine ⟨rfl, fun other node hnode => ?_⟩
  have hne : other ≠ location := by
    rintro rfl
    rw [node?_erase_self h] at hnode
    cases hnode
  rwa [node?_erase_ne hne] at hnode

/-- **What the path names is taken away.** -/
theorem Removable.removed (h : tree.Removable path location) : Removed path tree (tree.erase location) where
  taken other hother := by
    rw [h.unique hother]
    exact node?_erase_self h.ne_nil
  others other hother := by
    refine node?_erase_ne ?_
    rintro rfl
    exact hother h
  workingDirectory := rfl
  vacant node hlook := by
    -- the path would have led there before, which is where nothing stands now
    obtain ⟨-, other, hother⟩ := lookAt_eq_ok_iff.1 hlook
    obtain ⟨-, taken, hleads, -⟩ := id h
    have hbefore := (keeps_of_erase h.ne_nil).resolve (Option.some_ne_none _) hother
    cases hleads.symm.trans hbefore
    cases (node?_erase_self h.ne_nil).symm.trans (node?_of_resolve hother)
  unfound transport holder hlook := by
    obtain ⟨hnul, other, hsocket⟩ := lookAt_eq_ok_iff.1 hlook
    obtain rfl : other = location := h.unique ⟨hnul, _, hsocket, rfl⟩
    unfold lookAt
    -- the path leads to where the socket stood, or fails because nothing stands on the way
    rcases resolve_erase hsocket with hfree | ⟨hfails, -⟩
    · rw [hnul, hfree]
      rfl
    · rw [hnul, hfails]
      rfl
  untouched hnone := absurd h (hnone location)

/-- **Nothing is taken away** where the path names nothing but a directory. -/
theorem removed_self (hnone : ∀ location, ¬tree.Removable path location) : Removed path tree tree where
  taken location h := absurd h (hnone location)
  others _ _ := rfl
  workingDirectory := rfl
  vacant _ hlook := isDirectory_of_lookAt hnone hlook
  unfound _ _ hlook := by cases isDirectory_of_lookAt hnone hlook
  untouched _ := rfl

/-- **Removing** takes what there is to be taken, or fails. -/
theorem remove_cases (tree : FileTree) (path : String) :
    (∃ location, tree.Removable path location ∧ tree.remove path = .ok (tree.erase location)) ∨
      (∀ location, ¬tree.Removable path location) ∧ ∃ error, tree.remove path = .error error := by
  unfold remove
  cases hnul : hasNul path with
  | true =>
    refine Or.inr ⟨?_, _, rfl⟩
    rintro location ⟨hpath, -⟩
    cases hnul.symm.trans hpath
  | false =>
    cases hleads : tree.resolve false path with
    | error error =>
      refine Or.inr ⟨?_, _, rfl⟩
      rintro location ⟨-, node, h, -⟩
      cases hleads.symm.trans h
    | ok place =>
      obtain ⟨location, _ | node⟩ := place
      · refine Or.inr ⟨?_, _, rfl⟩
        rintro other ⟨-, node, h, -⟩
        cases hleads.symm.trans h
      · cases hdirectory : node.isDirectory with
        | true =>
          refine Or.inr ⟨?_, isADirectory, by simp [hdirectory]⟩
          rintro other ⟨-, another, h, hleaf⟩
          cases hleads.symm.trans h
          cases hdirectory.symm.trans hleaf
        | false => exact Or.inl ⟨location, ⟨hnul, node, hleads, hdirectory⟩, by simp [hdirectory]⟩

end Removed

end FileTree

/-- **A listener that is done** has removed its path. -/
theorem Listener.removed_cleanUp (tree : FileTree) (path : String) :
    FileTree.Removed path tree (cleanUp tree path).1 := by
  unfold cleanUp
  rcases tree.remove_cases path with ⟨location, h, hremove⟩ | ⟨hnone, error, hremove⟩
  · rw [hremove]
    exact h.removed
  · have hkept : FileTree.Removed path tree tree := FileTree.removed_self hnone
    rw [hremove]
    dsimp only
    split
    · exact hkept
    · exact hkept

end DeviceBroker
