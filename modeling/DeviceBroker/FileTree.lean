import DeviceBroker.Bytes
import DeviceBroker.IoError
import DeviceBroker.Path

/-!
# `FileTree` — directories, files, sockets and links

The part of the world that the daemon changes by starting and stopping. A tree maps locations to what
stands there; a location is the list of names that leads to it from the root. Paths are resolved the way
the system resolves them: part by part, through symbolic links, from the working directory unless they
start at the root. A name can also be looked up in a directory that no link may lead out of.

Every operation that changes a tree changes one location of it.

## Contents

* `Node`, `FileTree`, `FileTree.node?` — what stands where.
* `FileTree.walk`, `FileTree.resolve` — where a path leads.
* `isDirectory`, `exists?`, `lookAt`, `entry?`, `locate`, `beneath` — looking.
* `makeDirectory`, `remove`, `bindStream`, `connectStream` — acting, with the system's errors.
* `abandon`, `putNew`, `writeFile` — what others do.
-/

namespace DeviceBroker

/-- The kinds of sockets that have names. -/
inductive Transport where
  /-- Connections are made to it. -/
  | stream
  /-- Single messages are sent to it. -/
  | datagram
  deriving Repr, DecidableEq

/-- Who holds a socket open. -/
inductive Holder where
  /-- Nobody any more. -/
  | nobody
  /-- Somebody else. -/
  | stranger
  /-- The daemon of this number. -/
  | daemon (number : Nat)
  deriving Repr, DecidableEq

/-- What stands at a location. -/
inductive Node where
  | directory (mode : Nat)
  | file (contents : Bytes)
  | socket (transport : Transport) (holder : Holder)
  | symlink (target : String)
  deriving Repr, DecidableEq

/-- The kinds of nodes. -/
inductive NodeKind where
  | directory | file | socket | symlink
  deriving Repr, DecidableEq

namespace Node

/-- The kind of a node. -/
def kind : Node → NodeKind
  | directory _ => .directory
  | file _ => .file
  | socket .. => .socket
  | symlink _ => .symlink

/-- Whether a node is a directory. -/
def isDirectory (node : Node) : Bool :=
  node.kind == .directory

end Node

/-- The names that lead to a node from the root. -/
abbrev Location := List String

/-- A tree of nodes, with the working directory. The root is always a directory. -/
structure FileTree where
  entries : List (Location × Node) := []
  /-- Where paths start that do not start at the root. -/
  workingDirectory : Location := []
  deriving Repr, DecidableEq

namespace FileTree

/-- The root. -/
def root : Node := .directory 0o755

/-- **What stands at a location.** -/
def node? (tree : FileTree) (location : Location) : Option Node :=
  if location = [] then some root
  else (tree.entries.find? fun entry => entry.1 = location).map (·.2)

/-- Puts a node at a location. -/
def put (tree : FileTree) (location : Location) (node : Node) : FileTree :=
  { tree with entries := tree.entries.filter (·.1 ≠ location) ++ [(location, node)] }

/-- Takes away what stands at a location. -/
def erase (tree : FileTree) (location : Location) : FileTree :=
  { tree with entries := tree.entries.filter (·.1 ≠ location) }

theorem find?_others {entries : List (Location × Node)} {location other : Location}
    (h : other ≠ location) :
    (entries.filter (·.1 ≠ location)).find? (·.1 = other) = entries.find? (·.1 = other) := by
  rw [List.find?_filter]
  congr 1
  funext entry
  grind

theorem find?_removed {entries : List (Location × Node)} {location : Location} :
    (entries.filter (·.1 ≠ location)).find? (·.1 = location) = none := by
  simp

theorem node?_erase_ne {tree : FileTree} {location other : Location} (h : other ≠ location) :
    (tree.erase location).node? other = tree.node? other := by
  simp only [node?, erase, find?_others h]

theorem node?_erase_self {tree : FileTree} {location : Location} (h : location ≠ []) :
    (tree.erase location).node? location = none := by
  simp only [node?, erase, h, if_false, find?_removed, Option.map_none]

theorem node?_put_ne {tree : FileTree} {location other : Location} {node : Node}
    (h : other ≠ location) : (tree.put location node).node? other = tree.node? other := by
  simp only [node?, put, List.find?_append, find?_others h]
  simp [Ne.symm h]

theorem node?_put_self {tree : FileTree} {location : Location} {node : Node} (h : location ≠ []) :
    (tree.put location node).node? location = some node := by
  simp only [node?, put, h, if_false, List.find?_append, find?_removed]
  simp

/-! ## Where paths lead -/

/-- The errors of resolving and changing. -/
def notFound : IoError := .os 2

/-- See `notFound`. -/
def alreadyExists : IoError := .os 17

/-- See `notFound`. -/
def notADirectory : IoError := .os 20

/-- See `notFound`. -/
def isADirectory : IoError := .os 21

/-- See `notFound`. -/
def invalidArgument : IoError := .os 22

/-- See `notFound`. -/
def nameTooLong : IoError := .os 36

/-- See `notFound`. -/
def tooManyLinks : IoError := .os 40

/-- See `notFound`. -/
def wrongTransport : IoError := .os 91

/-- See `notFound`. -/
def addressInUse : IoError := .os 98

/-- See `notFound`. -/
def connectionRefused : IoError := .os 111

/-- The error of a link that leads out of the directory that it must not leave. -/
def outside : IoError :=
  .custom .permissionDenied "a path led outside of the filesystem"

/-- How many links one path may lead through. -/
def maxLinks : Nat := 40

/-- How many bytes one name may have. -/
def maxName : Nat := 255

/-- Paths have fewer bytes than this. -/
def maxPath : Nat := 4096

/-- Where a path leads. -/
structure Place where
  location : Location
  /-- What stands there; nothing if only the directory around it exists. -/
  node : Option Node
  deriving Repr, DecidableEq

/-- The parts of a path as names. -/
def names (path : String) : List String :=
  (Path.parts path.toList).map String.ofList

/-- Whether a part of a path leads nowhere else. -/
def isIdle (name : String) : Bool :=
  name == "" || name == "."

/-- **Walks** from a location along names. A link on the way is followed; a link at the end only if
    `follow` says so, or if something stands behind it. If there is a `floor`, a location that the walk
    starts at or below, nothing may lead out of it. -/
def walk (tree : FileTree) (follow : Bool) (floor : Option Location) (links : Nat)
    (here : Location) : List String → Except IoError Place
  | [] =>
    match tree.node? here with
    | some node => .ok { location := here, node := some node }
    | none => .error notFound
  | name :: rest =>
    match tree.node? here with
    | none => .error notFound
    | some node =>
      if !node.isDirectory then .error notADirectory
      else if isIdle name then walk tree follow floor links here rest
      else if name = ".." then
        if floor = some here then .error outside
        else walk tree follow floor links here.dropLast rest
      else if maxName < name.utf8ByteSize then .error nameTooLong
      else
        match tree.node? (here ++ [name]) with
        | none =>
          if rest.isEmpty then .ok { location := here ++ [name], node := none } else .error notFound
        | some (.symlink target) =>
          if rest.isEmpty && !follow then
            .ok { location := here ++ [name], node := some (.symlink target) }
          else
            match links with
            | 0 => .error tooManyLinks
            | links + 1 =>
              if Path.isAbsolute target.toList then
                if floor.isSome then .error outside
                else walk tree follow floor links [] (names target ++ rest)
              else walk tree follow floor links here (names target ++ rest)
        | some _ => walk tree follow floor links (here ++ [name]) rest
termination_by parts => (links, parts.length)

/-- **Where a path leads.** -/
def resolve (tree : FileTree) (follow : Bool) (path : String) : Except IoError Place :=
  if path.isEmpty then .error notFound
  else if maxPath ≤ path.utf8ByteSize then .error nameTooLong
  else
    walk tree follow none maxLinks
      (if Path.isAbsolute path.toList then [] else tree.workingDirectory) (names path)

/-! ## Looking -/

/-- Whether a path holds the character that no path can hold. -/
def hasNul (path : String) : Bool :=
  path.toList.contains '\x00'

/-- The error of a path that cannot be passed to the system. -/
def nulInPath : IoError :=
  .custom .invalidInput "file name contained an unexpected NUL byte"

/-- **What a path names**, itself not followed if it is a link. -/
def lookAt (tree : FileTree) (path : String) : Except IoError Node :=
  if hasNul path then .error nulInPath
  else
    match tree.resolve false path with
    | .error error => .error error
    | .ok { node := none, .. } => .error notFound
    | .ok { node := some node, .. } => .ok node

/-- What a path names, if it can be looked at. -/
def entry? (tree : FileTree) (path : String) : Option Node :=
  match tree.lookAt path with
  | .ok node => some node
  | .error _ => none

/-- **Where a path leads** through all links, and to what. -/
def locate (tree : FileTree) (path : String) : Except IoError (Location × Node) :=
  if hasNul path then .error nulInPath
  else
    match tree.resolve true path with
    | .error error => .error error
    | .ok { node := none, .. } => .error notFound
    | .ok { location, node := some node } => .ok (location, node)

/-- **What a name leads to** through all links, in a directory that none of them may lead out of. -/
def beneath (tree : FileTree) (directory : Location) (name : String) : Except IoError Node :=
  if hasNul name then .error invalidArgument
  else
    match tree.walk true (some directory) maxLinks directory [name] with
    | .error error => .error error
    | .ok { node := none, .. } => .error notFound
    | .ok { node := some node, .. } => .ok node

/-- Whether a path leads to anything. -/
def exists? (tree : FileTree) (path : String) : Bool :=
  match tree.locate path with
  | .ok _ => true
  | .error _ => false

/-- Whether a path leads to a directory. -/
def isDirectory (tree : FileTree) (path : String) : Bool :=
  match tree.locate path with
  | .ok (_, node) => node.isDirectory
  | .error _ => false

/-- A location as a path. -/
def render (location : Location) : String :=
  if location.isEmpty then "/" else String.join (location.map ("/" ++ ·))

/-! ## Acting -/

/-- **Makes a directory.** -/
def makeDirectory (tree : FileTree) (path : String) (mode : Nat) : Except IoError FileTree :=
  if hasNul path then .error nulInPath
  else
    match tree.resolve false path with
    | .error e => .error e
    | .ok { node := some _, .. } => .error alreadyExists
    | .ok { location, node := none } => .ok (tree.put location (.directory mode))

/-- **Removes** what a path names, unless it is a directory. -/
def remove (tree : FileTree) (path : String) : Except IoError FileTree :=
  if hasNul path then .error nulInPath
  else
    match tree.resolve false path with
    | .error e => .error e
    | .ok { node := none, .. } => .error notFound
    | .ok { location, node := some node } =>
      if node.isDirectory then .error isADirectory else .ok (tree.erase location)

/-- Socket addresses have fewer bytes than this. -/
def maxAddress : Nat := 108

/-- A path as the address of a socket. -/
def checkAddress (path : String) : Except IoError Unit :=
  if hasNul path then .error (.custom .invalidInput "paths must not contain interior null bytes")
  else if maxAddress ≤ path.utf8ByteSize then
    .error (.custom .invalidInput "path must be shorter than SUN_LEN")
  else .ok ()

/-- Whether a path ends like that of a directory. -/
def endsLikeDirectory (path : String) : Bool :=
  path.toList.getLast? == some Path.separator

/-- A path without the separators at its end. -/
def withoutEnd (path : String) : String :=
  String.ofList (path.toList.reverse.dropWhile (· == Path.separator)).reverse

/-- **Binds a listening stream socket** to a path where nothing stands. A path that ends like that of a
    directory cannot be made a socket; what stands at its name is found all the same.

    For the empty path the system would choose a name itself, outside of the tree. Nobody gets that far with it:
    it has no parent, so `SocketDirectory.prepare` refuses it before anything is bound. -/
def bindStream (tree : FileTree) (path : String) (holder : Holder) : Except IoError FileTree :=
  match checkAddress path with
  | .error e => .error e
  | .ok () =>
    match tree.resolve false (withoutEnd path) with
    | .error e => .error e
    | .ok { node := some _, .. } => .error addressInUse
    | .ok { location, node := none } =>
      if endsLikeDirectory path then .error notFound
      else .ok (tree.put location (.socket .stream holder))

/-- **Connects** to the stream socket that a path leads to, and tells who holds it. -/
def connectStream (tree : FileTree) (path : String) : Except IoError Holder :=
  match checkAddress path with
  | .error e => .error e
  | .ok () =>
    match tree.resolve true path with
    | .error e => .error e
    | .ok { node := none, .. } => .error notFound
    | .ok { node := some (.socket _ .nobody), .. } => .error connectionRefused
    | .ok { node := some (.socket .datagram _), .. } => .error wrongTransport
    | .ok { node := some (.socket .stream holder), .. } => .ok holder
    | .ok { node := some _, .. } => .error connectionRefused

/-- A node after the end of a holder. -/
def withoutHolder (holder : Holder) : Node → Node
  | .socket transport current => .socket transport (if current = holder then .nobody else current)
  | node => node

/-- **The end of a holder**: the sockets stay where they are, and nobody holds them any more. -/
def abandon (tree : FileTree) (holder : Holder) : FileTree :=
  { tree with entries := tree.entries.map fun (location, node) => (location, withoutHolder holder node) }

/-- Puts a node where a path leads, if nothing stands there. -/
def putNew (tree : FileTree) (path : String) (node : Node) : FileTree :=
  match tree.resolve false path with
  | .ok { location, node := none } => tree.put location node
  | _ => tree

/-- Writes a file, over one that may be there. -/
def writeFile (tree : FileTree) (path : String) (contents : Bytes) : FileTree :=
  match tree.resolve true path with
  | .ok { location, node := none } => tree.put location (.file contents)
  | .ok { location, node := some (.file _) } => tree.put location (.file contents)
  | _ => tree

/-- The bytes of the file that a path leads to. -/
def fileContents? (tree : FileTree) (path : String) : Option Bytes :=
  match tree.locate path with
  | .ok (_, .file contents) => some contents
  | _ => none

end FileTree

end DeviceBroker
