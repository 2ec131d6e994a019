import DeviceBroker.FileTree

/-!
# `FileTree.Ancestors` — a directory and those above it

A directory is tried first, and only if something above it is missing the directory above it is made, and
then the directory itself once more. Directories that exist already will do and stay as they are. What
was made stays, also if the attempt fails further down.

## Contents

* `FileTree.makeOne` — one directory.
* `FileTree.makeAll` — a directory and those above it.
* `FileTree.withAncestors`, `FileTree.ofDirectory` — trees that hold what a path needs.
-/

namespace DeviceBroker.FileTree

/-- Makes one directory; a directory that is there already will do. -/
def makeOne (tree : FileTree) (mode : Nat) (path : String) : Except IoError FileTree :=
  match tree.makeDirectory path mode with
  | .ok tree => .ok tree
  | .error error => if tree.isDirectory path then .ok tree else .error error

/-- The error of a path with nothing above it. -/
def noAncestor : IoError :=
  .custom .uncategorized "failed to create whole tree"

/-- **Makes a directory and those above it** that are missing. -/
def makeAll (tree : FileTree) (mode : Nat) (path : List Char) : Option IoError × FileTree :=
  if path = [] then (none, tree)
  else
    match makeOne tree mode (String.ofList path) with
    | .ok tree => (none, tree)
    | .error error =>
      if error.kind ≠ .notFound then (some error, tree)
      else
        match _found : Path.splitParent? path with
        | none => (some noAncestor, tree)
        | some (_, parent) =>
          match makeAll tree mode parent with
          | (some error, tree) => (some error, tree)
          | (none, tree) =>
            match makeOne tree mode (String.ofList path) with
            | .ok tree => (none, tree)
            | .error error => (some error, tree)
termination_by path.length
decreasing_by exact Path.length_parent_lt _found

/-- The tree with the directories above a path, as far as they can be made. -/
def withAncestors (tree : FileTree) (mode : Nat) (path : String) : FileTree :=
  match Path.parent? path with
  | none => tree
  | some parent => (tree.makeAll mode parent.toList).2

/-- **A tree with one directory** and those above it, the directory being the working directory. -/
def ofDirectory (mode : Nat) (directory : Location) : FileTree where
  entries := (List.range directory.length).map fun above =>
    (directory.take (above + 1), .directory mode)
  workingDirectory := directory

end DeviceBroker.FileTree
