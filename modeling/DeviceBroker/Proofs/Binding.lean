import DeviceBroker.Listener
import DeviceBroker.Proofs.Walking

/-!
# `Proofs.Binding` — a socket is bound and removed

Two things can happen to a tree when a path is bound: a dead socket is taken away, and the new socket is
put where nothing stands. A socket is dead if the path itself names it, not by a link, and it refuses a
connection. What was bound is removed by the same path, and the tree is then what it was just before.

## Contents

* `DeadSocket`, `Cleared` — a socket that may be replaced, and a tree without it.
* `bindStream_eq_ok`, `remove_put` — the system's part.
* `Listener.Bound`, `Listener.bind_cases` — **what binding does to a tree**.
* `Listener.bind_of_free`, `Listener.bind_of_deadSocket` — when it succeeds.
* `Listener.Bound.cleanUp` — **what was bound leaves no trace**.
-/

namespace DeviceBroker

namespace FileTree

/-! ## Dead sockets -/

/-- **A dead socket** stands at a location: the path itself names it, and it refuses a connection. -/
structure DeadSocket (tree : FileTree) (path : String) (location : Location) : Prop where
  isSocket : ∃ transport holder, tree.resolve false path = .ok ⟨location, some (.socket transport holder)⟩
  refuses : tree.connectStream path = .error connectionRefused

/-- **The tree is cleared for a path**: it is as it was, or a dead socket at the path is gone. -/
def Cleared (tree : FileTree) (path : String) (cleared : FileTree) : Prop :=
  cleared = tree ∨ ∃ location, tree.DeadSocket path location ∧ cleared = tree.erase location

section System

variable {tree : FileTree} {path : String}

theorem hasNul_of_checkAddress (h : checkAddress path = .ok ()) : hasNul path = false := by
  unfold checkAddress at h
  split at h
  · cases h
  · next hnul => exact Bool.eq_false_iff.2 hnul

/-- A path that does not end like that of a directory has nothing to take off. -/
theorem withoutEnd_eq (h : endsLikeDirectory path = false) : withoutEnd path = path := by
  unfold endsLikeDirectory at h
  unfold withoutEnd
  have hkept : path.toList.reverse.dropWhile (· == Path.separator) = path.toList.reverse := by
    cases hbackwards : path.toList.reverse with
    | nil => rfl
    | cons last rest =>
      have hlast : path.toList.getLast? = some last := by
        rw [List.getLast?_eq_head?_reverse, hbackwards]
        rfl
      rw [hlast] at h
      exact List.dropWhile_cons_of_neg (by simpa using h)
  rw [hkept, List.reverse_reverse, String.ofList_toList]

/-- **What binding a path does**: a socket stands where nothing stood. -/
theorem bindStream_eq_ok {bound : FileTree} {holder : Holder} (h : tree.bindStream path holder = .ok bound) :
    hasNul path = false ∧ ∃ location, tree.resolve false path = .ok ⟨location, none⟩ ∧
      bound = tree.put location (.socket .stream holder) := by
  unfold bindStream at h
  split at h
  · cases h
  · next haddress =>
    split at h
    · cases h
    · cases h
    · next location hleads =>
      split at h
      · cases h
      · next hend =>
        rw [withoutEnd_eq (Bool.eq_false_iff.2 hend)] at hleads
        cases h
        exact ⟨hasNul_of_checkAddress haddress, location, hleads, rfl⟩

/-- **A path where nothing stood** is bound, if it is an address and not like that of a directory. -/
theorem bindStream_of_resolve {location : Location} (holder : Holder) (haddress : checkAddress path = .ok ())
    (hend : endsLikeDirectory path = false) (h : tree.resolve false path = .ok ⟨location, none⟩) :
    tree.bindStream path holder = .ok (tree.put location (.socket .stream holder)) := by
  unfold bindStream
  rw [haddress, withoutEnd_eq hend, h, hend]
  rfl

/-- **What was put is removed** by the path that it was put at. -/
theorem remove_put {location : Location} {node : Node} (hkind : node.kind ≠ .symlink)
    (hdirectory : node.isDirectory = false) (hnul : hasNul path = false)
    (h : tree.resolve false path = .ok ⟨location, none⟩) :
    (tree.put location node).remove path = .ok tree := by
  unfold remove
  rw [hnul, if_neg Bool.false_ne_true, resolve_put hkind h]
  simp only [hdirectory, put_erase (node?_of_resolve h)]
  rfl

/-- **What is looked at** is what the path names, itself not followed if it is a link. -/
theorem lookAt_eq_ok_iff {node : Node} :
    tree.lookAt path = .ok node ↔
      hasNul path = false ∧ ∃ location, tree.resolve false path = .ok ⟨location, some node⟩ := by
  unfold lookAt
  constructor
  · intro h
    split at h
    · cases h
    · next hnul =>
      refine ⟨Bool.eq_false_iff.2 hnul, ?_⟩
      split at h
      · cases h
      · cases h
      · next location standing hleads =>
        cases h
        exact ⟨location, hleads⟩
  · rintro ⟨hnul, location, hleads⟩
    rw [hnul, if_neg Bool.false_ne_true, hleads]

end System

end FileTree

open FileTree

namespace Listener

/-! ## Binding -/

section Binding

variable {tree : FileTree} {path : String} {holder : Holder}

/-- A path that is no address is not a dead socket. -/
theorem isDead_checkAddress {error : IoError} (h : checkAddress path = .error error) : isDead error = false := by
  unfold checkAddress at h
  split at h
  · cases h
    rfl
  · split at h
    · cases h
      rfl
    · cases h

/-- A socket that means that nobody listens refuses the connection. -/
theorem connectStream_dead {location : Location} {transport : Transport} {current : Holder} {error : IoError}
    (hleads : tree.resolve false path = .ok ⟨location, some (.socket transport current)⟩)
    (h : tree.connectStream path = .error error) (hdead : isDead error = true) :
    error = connectionRefused := by
  have hkind : (⟨location, some (.socket transport current)⟩ : Place).node.map Node.kind ≠ some .symlink :=
    nofun
  unfold connectStream at h
  rw [resolve_follow hkind hleads] at h
  split at h
  · next refused haddress =>
    cases h
    rw [isDead_checkAddress haddress] at hdead
    cases hdead
  · -- somebody holds the socket: then a stream accepts, and a datagram socket fails in another way
    have hheld : current ≠ .nobody → isDead error = false := by
      intro hsomebody
      cases current with
      | nobody => exact absurd rfl hsomebody
      | stranger => cases transport <;> cases h; rfl
      | daemon number => cases transport <;> cases h; rfl
    by_cases hnobody : current = .nobody
    · subst hnobody
      cases h
      rfl
    · rw [hheld hnobody] at hdead
      cases hdead

/-- **A bound path**: the tree was cleared for it, nothing stood there, and the new socket does. -/
structure Bound (tree : FileTree) (path : String) (holder : Holder) (cleared bound : FileTree) : Prop where
  fromCleared : Cleared tree path cleared
  withoutNul : hasNul path = false
  stands : ∃ location, cleared.resolve false path = .ok ⟨location, none⟩ ∧
    bound = cleared.put location (.socket .stream holder)

/-- Binding the path itself, in a tree cleared for it. -/
theorem claimPath_bound (holder : Holder) {cleared : FileTree} (hcleared : Cleared tree path cleared) :
    ((claimPath cleared path holder).error = none →
      Bound tree path holder cleared (claimPath cleared path holder).tree) ∧
    ((claimPath cleared path holder).error ≠ none → (claimPath cleared path holder).tree = cleared) := by
  unfold claimPath
  cases hbind : cleared.bindStream path holder with
  | error source => exact ⟨nofun, fun _ => rfl⟩
  | ok bound =>
    obtain ⟨hnul, hput⟩ := bindStream_eq_ok hbind
    exact ⟨fun _ => ⟨hcleared, hnul, hput⟩, fun h => absurd rfl h⟩

/-- **Binding**, by what stands at the path: either the tree is cleared and the socket put, or there is an
    error and the tree is cleared at most. -/
theorem bind_cases (tree : FileTree) (path : String) (holder : Holder) :
    ((bind tree path holder).error = none →
      ∃ cleared, Bound tree path holder cleared (bind tree path holder).tree) ∧
    ((bind tree path holder).error ≠ none → Cleared tree path (bind tree path holder).tree) := by
  have hsame : Cleared tree path tree := Or.inl rfl
  unfold bind
  split
  · have hclaim := claimPath_bound holder hsame
    exact ⟨fun h => ⟨tree, hclaim.1 h⟩, fun h => Or.inl (hclaim.2 h)⟩
  · split
    · exact ⟨nofun, fun _ => hsame⟩
    · next transport current hlook =>
      obtain ⟨hnul, location, hleads⟩ := lookAt_eq_ok_iff.1 hlook
      split
      · exact ⟨nofun, fun _ => hsame⟩
      · next source hrefused =>
        split
        · next hdead =>
          have hremove : tree.remove path = .ok (tree.erase location) := by
            unfold FileTree.remove
            rw [hnul, if_neg Bool.false_ne_true, hleads]
            rfl
          rw [connectStream_dead hleads hrefused hdead] at hrefused
          have hcleared : Cleared tree path (tree.erase location) :=
            Or.inr ⟨location, ⟨⟨transport, current, hleads⟩, hrefused⟩, rfl⟩
          have hclaim := claimPath_bound holder hcleared
          rw [hremove]
          refine ⟨fun h => ⟨tree.erase location, hclaim.1 h⟩, fun h => ?_⟩
          show Cleared tree path (claimPath (tree.erase location) path holder).tree
          rw [hclaim.2 h]
          exact hcleared
        · exact ⟨nofun, fun _ => hsame⟩
    · exact ⟨nofun, fun _ => hsame⟩

/-- **A free path is bound.** -/
theorem bind_of_free {location : Location} (holder : Holder) (haddress : checkAddress path = .ok ())
    (hend : endsLikeDirectory path = false) (hfree : tree.resolve false path = .ok ⟨location, none⟩) :
    bind tree path holder = { tree := tree.put location (.socket .stream holder) } := by
  have hkind : (⟨location, none⟩ : Place).node.map Node.kind ≠ some .symlink := nofun
  have hexists : tree.exists? path = false := by
    unfold exists? locate
    rw [hasNul_of_checkAddress haddress, resolve_follow hkind hfree]
    rfl
  simp only [bind, claimPath, hexists, bindStream_of_resolve holder haddress hend hfree]
  rfl

/-- **A dead socket is replaced**, if the path is free then. -/
theorem bind_of_deadSocket {location : Location} (holder : Holder) (dead : DeadSocket tree path location)
    (haddress : checkAddress path = .ok ()) (hend : endsLikeDirectory path = false)
    (hfree : (tree.erase location).resolve false path = .ok ⟨location, none⟩) :
    bind tree path holder =
      { tree := (tree.erase location).put location (.socket .stream holder), log := [staleRecord path] } := by
  obtain ⟨transport, current, hleads⟩ := dead.isSocket
  have hnul := hasNul_of_checkAddress haddress
  have hkind : (⟨location, some (.socket transport current)⟩ : Place).node.map Node.kind ≠ some .symlink :=
    nofun
  have hexists : tree.exists? path = true := by
    unfold exists? locate
    rw [hnul, resolve_follow hkind hleads]
    rfl
  have hlook : tree.lookAt path = .ok (.socket transport current) :=
    lookAt_eq_ok_iff.2 ⟨hnul, location, hleads⟩
  have hremove : tree.remove path = .ok (tree.erase location) := by
    unfold FileTree.remove
    rw [hnul, hleads]
    rfl
  have hdead : isDead connectionRefused = true := by decide
  simp only [bind, claimPath, hexists, hlook, dead.refuses, hdead, hremove,
    bindStream_of_resolve holder haddress hend hfree]
  rfl

/-- A bound path leads to its socket. -/
theorem Bound.resolve {cleared bound : FileTree} (h : Bound tree path holder cleared bound) :
    ∃ location, bound.resolve false path = .ok ⟨location, some (.socket .stream holder)⟩ := by
  obtain ⟨location, hleads, rfl⟩ := h.stands
  have hkind : (Node.socket .stream holder).kind ≠ .symlink := nofun
  exact ⟨location, resolve_put hkind hleads⟩

/-- **What was bound leaves no trace** when it is removed. -/
theorem Bound.cleanUp {cleared bound : FileTree} (h : Bound tree path holder cleared bound) :
    cleanUp bound path = (cleared, []) := by
  obtain ⟨location, hleads, rfl⟩ := h.stands
  have hkind : (Node.socket .stream holder).kind ≠ .symlink := nofun
  unfold Listener.cleanUp
  rw [remove_put hkind rfl h.withoutNul hleads]

end Binding

end Listener

end DeviceBroker
