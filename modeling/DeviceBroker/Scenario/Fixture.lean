import DeviceBroker.FileTree.Ancestors

/-!
# `Scenario.Fixture` — what stands around before a daemon starts

A scenario begins with a directory of its own, which is also the working directory. Things are put there
one after the other, each with the directories above it. Sockets may be bound and closed again, or held
by somebody who is no daemon.

## Contents

* `Fixture`, `Fixture.install` — one thing and how it is put in place.
* `Fixture.mode`, `Fixture.surroundings` — the scenario's directory.
-/

namespace DeviceBroker

/-- One thing that is put somewhere. -/
inductive Fixture where
  /-- A file with contents. -/
  | file (contents : Bytes)
  /-- A directory. -/
  | directory
  /-- A socket; somebody listens on it only if it is kept open. -/
  | socket (transport : Transport) (isOpen : Bool)
  /-- A symbolic link. -/
  | symlink (target : String)
  deriving Repr, DecidableEq

namespace Fixture

/-- The permissions of directories that are made for fixtures. -/
def mode : Nat := 0o755

/-- The tree before anything is put into the scenario's directory. -/
def surroundings (directory : Location) : FileTree :=
  FileTree.ofDirectory mode directory

/-- The holder of a socket that is kept open or not. -/
def holder (isOpen : Bool) : Holder :=
  if isOpen then .stranger else .nobody

/-- **Puts a fixture in place**, and the directories above it. -/
def install (tree : FileTree) (path : String) (fixture : Fixture) : FileTree :=
  let tree := tree.withAncestors mode path
  match fixture with
  | file contents => tree.writeFile path contents
  | directory => (tree.makeAll mode path.toList).2
  | socket transport isOpen => tree.putNew path (.socket transport (holder isOpen))
  | symlink target => tree.putNew path (.symlink target)

end Fixture

end DeviceBroker
