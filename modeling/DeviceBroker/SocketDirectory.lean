import DeviceBroker.FileTree.Ancestors

/-!
# `SocketDirectory` — the directory in which the socket will stand

Before the socket is bound, the directory that will hold it is made, and every directory above it that is
missing. Directories that are made can be entered by their owner alone; those that exist stay as they
are. A socket path without a directory part is refused.

That something else already stands where a directory is due is not reported here: binding the socket
will.

## Contents

* `SocketDirectory.Error`.
* `SocketDirectory.prepare` — the directory of a socket path.
-/

namespace DeviceBroker.SocketDirectory

/-- Why the directory is not ready. -/
inductive Error where
  /-- The path names no directory. -/
  | missingParent (path : String)
  /-- The directory could not be made. -/
  | createDirectory (path : String) (source : IoError)
  deriving Repr, DecidableEq

namespace Error

/-- The wording of an error. -/
def message : Error → String
  | missingParent path => s!"socket path '{path}' has no parent directory"
  | createDirectory path source =>
    s!"failed to create socket directory '{path}': {source.message}"

/-- The failure underneath. -/
def source? : Error → Option IoError
  | missingParent _ => none
  | createDirectory _ source => some source

end Error

/-- The mode of directories that are made: their owner may do everything, nobody else anything. -/
def mode : Nat := 0o700

/-- **Prepares the directory** of a socket path. -/
def prepare (tree : FileTree) (path : String) : Option Error × FileTree :=
  match Path.parent? path with
  | none => (some (.missingParent path), tree)
  | some parent =>
    if parent.isEmpty then (some (.missingParent path), tree)
    else
      match tree.makeAll mode parent.toList with
      | (none, tree) => (none, tree)
      | (some error, tree) =>
        if error.kind = .alreadyExists then (none, tree)
        else (some (.createDirectory parent error), tree)

end DeviceBroker.SocketDirectory
