import DeviceBroker.FileTree

/-!
# `FileTree.Listing` — what stands below a directory

A listing names everything below a directory by its path from there, in the order of these paths. Links
are listed and not followed.

## Contents

* `FileTree.ListedEntry`, `FileTree.listing`.
-/

namespace DeviceBroker.FileTree

/-- One line of a listing. -/
structure ListedEntry where
  /-- The path from the directory that is listed. -/
  path : String
  kind : NodeKind
  /-- The permissions of a directory; other nodes show none. -/
  mode? : Option Nat
  deriving Repr, DecidableEq

/-- The permissions that a node shows. -/
def shownMode? : Node → Option Nat
  | .directory mode => some mode
  | _ => none

/-- The line of an entry, if it stands below the directory at `above`. -/
def listed? (above : Location) (entry : Location × Node) : Option ListedEntry :=
  if above.isPrefixOf entry.1 && above.length < entry.1.length then
    some { path := "/".intercalate (entry.1.drop above.length), kind := entry.2.kind,
           mode? := shownMode? entry.2 }
  else none

/-- **Everything below a directory**, in the order of the paths. -/
def listing (tree : FileTree) (above : Location) : List ListedEntry :=
  (tree.entries.filterMap (listed? above)).mergeSort fun a b => a.path ≤ b.path

end DeviceBroker.FileTree
