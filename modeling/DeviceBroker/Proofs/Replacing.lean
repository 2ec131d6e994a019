import DeviceBroker.Proofs.Binding

/-!
# `Proofs.Replacing` — what binding replaces

Binding a path may take away one thing, a dead socket, and only if the path itself names it: what stands
behind a link is left alone, be it dead or not. Where a dead socket was removed, the path leads to the very
place that is free now, so the new socket stands where the old one stood.

That a dead socket is replaced for certain takes a tree in which everything stands in a directory. In any other
the working directory could be below the socket, and nothing would lead there once the socket is gone.

## Contents

* `FileTree.lookAt_of_exists` — a path that leads to something names something.
* `FileTree.Grounded`, `FileTree.resolve_erase` — the path of a socket when that is gone.
* `Listener.Blames`, `Listener.Outcome`, `Listener.outcome_bind` — **all that binding can come to**.
* `Listener.ReplacesDead`, `Listener.bind_replaces_dead` — **nothing but a dead socket is ever replaced**.
-/

namespace DeviceBroker

namespace FileTree

/-! ## What is no socket -/

theorem directory_ne_socket {mode : Nat} : (Node.directory mode).kind ≠ .socket := by
  intro h
  cases h

theorem file_ne_socket {contents : Bytes} : (Node.file contents).kind ≠ .socket := by
  intro h
  cases h

theorem symlink_ne_socket {target : String} : (Node.symlink target).kind ≠ .socket := by
  intro h
  cases h

/-! ## What a path names -/

section Names

variable {tree : FileTree} {path : String} {place : Place}

/-- **A walk that follows links to something** has something named on its way: the first link at the end, or
    else what it arrives at. Induction over the steps. -/
theorem Walks.named {floor : Option Location} {links : Nat} {here : Location} {parts : List String}
    (h : Walks tree true floor links here parts place) (hsome : place.node ≠ none) :
    ∃ named, Walks tree false floor links here parts named ∧ named.node ≠ none := by
  induction h with
  | arrive hnode => exact ⟨_, .arrive hnode, hsome⟩
  | stay hnode hidle hrest ih =>
    obtain ⟨named, hwalks, hnamed⟩ := ih hsome
    exact ⟨named, .stay hnode hidle hwalks, hnamed⟩
  | up hnode hfloor hrest ih =>
    obtain ⟨named, hwalks, hnamed⟩ := ih hsome
    exact ⟨named, .up hnode hfloor hwalks, hnamed⟩
  | miss hdown hnone => exact absurd rfl hsome
  | link hdown hlink hfollow => cases hfollow
  | @restart links here name target rest place hdown hlink hlast habsolute hfloor hrest ih =>
    obtain ⟨named, hwalks, hnamed⟩ := ih hsome
    by_cases hend : rest = []
    · subst hend
      exact ⟨_, .link hdown hlink rfl, nofun⟩
    · exact ⟨named, .restart hdown hlink (fun h => absurd h hend) habsolute hfloor hwalks, hnamed⟩
  | @turn links here name target rest place hdown hlink hlast hrelative hrest ih =>
    obtain ⟨named, hwalks, hnamed⟩ := ih hsome
    by_cases hend : rest = []
    · subst hend
      exact ⟨_, .link hdown hlink rfl, nofun⟩
    · exact ⟨named, .turn hdown hlink (fun h => absurd h hend) hrelative hwalks, hnamed⟩
  | down hdown hnext hother hrest ih =>
    obtain ⟨named, hwalks, hnamed⟩ := ih hsome
    exact ⟨named, .down hdown hnext hother hwalks, hnamed⟩

/-- **A path that leads to something**, through links or not. -/
theorem exists?_iff :
    tree.exists? path = true ↔
      hasNul path = false ∧ ∃ location node, tree.resolve true path = .ok ⟨location, some node⟩ := by
  unfold exists? locate
  constructor
  · intro h
    cases hnul : hasNul path with
    | true => simp [hnul] at h
    | false =>
      refine ⟨rfl, ?_⟩
      cases hleads : tree.resolve true path with
      | error error => simp [hnul, hleads] at h
      | ok place =>
        obtain ⟨location, node⟩ := place
        cases node with
        | none => simp [hnul, hleads] at h
        | some node => exact ⟨location, node, rfl⟩
  · rintro ⟨hnul, location, node, hleads⟩
    simp [hnul, hleads]

/-- **A path that leads to something names something.** -/
theorem lookAt_of_exists (h : tree.exists? path = true) : ∃ node, tree.lookAt path = .ok node := by
  obtain ⟨hnul, location, node, hleads⟩ := exists?_iff.1 h
  obtain ⟨hpath, hwalks⟩ := resolve_eq_ok_iff.1 hleads
  obtain ⟨⟨named, standing⟩, hnamed, hsome⟩ := hwalks.named nofun
  cases standing with
  | none => exact absurd rfl hsome
  | some node => exact ⟨node, lookAt_eq_ok_iff.2 ⟨hnul, named, resolve_eq_ok_iff.2 ⟨hpath, hnamed⟩⟩⟩

/-- What is no link is what the path leads to. -/
theorem exists_of_lookAt {node : Node} (hkind : node.kind ≠ .symlink) (h : tree.lookAt path = .ok node) :
    tree.exists? path = true := by
  obtain ⟨hnul, location, hleads⟩ := lookAt_eq_ok_iff.1 h
  have hnot : (⟨location, some node⟩ : Place).node.map Node.kind ≠ some .symlink := by simpa using hkind
  exact exists?_iff.2 ⟨hnul, location, node, resolve_follow hnot hleads⟩

/-- A walk whose last name is empty ends at a directory. Induction over the steps, the last of which stays. -/
theorem Walks.ends_at_directory {follow : Bool} {floor : Option Location} {links : Nat} {here : Location}
    {parts : List String} (h : Walks tree follow floor links here parts place)
    (hlast : parts.getLast? = some "") : ∃ mode, place.node = some (.directory mode) := by
  have hrest : ∀ {name : String} {rest : List String}, (name :: rest).getLast? = some "" → rest ≠ [] →
      rest.getLast? = some "" := by
    intro name rest hend hne
    rwa [List.getLast?_cons_of_ne_nil hne] at hend
  have hspeaks : ∀ {here : Location} {name : String} {rest : List String}, LeadsDown tree here name →
      (name :: rest).getLast? = some "" → rest ≠ [] := by
    rintro here name rest hdown hend rfl
    obtain rfl : name = "" := by simpa using hend
    cases hdown.speaks
  induction h with
  | arrive hnode => cases hlast
  | @stay links here name rest place mode hnode hidle hwalks ih =>
    by_cases hend : rest = []
    · subst hend
      cases hwalks with
      | arrive hsame => exact ⟨mode, by rw [← hsame, hnode]⟩
    · exact ih (hrest hlast hend)
  | @up links here rest place mode hnode hfloor hwalks ih =>
    by_cases hend : rest = []
    · subst hend
      simp at hlast
    · exact ih (hrest hlast hend)
  | miss hdown hnone => exact absurd rfl (hspeaks hdown hlast)
  | link hdown hlink hfollow => exact absurd rfl (hspeaks hdown hlast)
  | restart hdown hlink hend habsolute hfloor hwalks ih =>
    have hne := hspeaks hdown hlast
    exact ih (by rw [List.getLast?_append, hrest hlast hne]; rfl)
  | turn hdown hlink hend hrelative hwalks ih =>
    have hne := hspeaks hdown hlast
    exact ih (by rw [List.getLast?_append, hrest hlast hne]; rfl)
  | down hdown hnext hother hwalks ih => exact ih (hrest hlast (hspeaks hdown hlast))

/-- The last name of a path that ends like that of a directory is empty. -/
theorem getLast?_names (h : endsLikeDirectory path = true) : (names path).getLast? = some "" := by
  have hlast : path.toList.getLast? = some Path.separator := by simpa [endsLikeDirectory] using h
  obtain ⟨front, hfront⟩ := List.getLast?_eq_some_iff.1 hlast
  unfold names Path.parts
  rw [hfront, List.splitOnP_append_cons front [] (by decide)]
  simp

/-- **A path that leads to a socket** does not end like that of a directory. -/
theorem endsLikeDirectory_of_socket {follow : Bool} {location : Location} {transport : Transport} {holder : Holder}
    (h : tree.resolve follow path = .ok ⟨location, some (.socket transport holder)⟩) :
    endsLikeDirectory path = false := by
  refine Bool.eq_false_iff.2 fun hends => ?_
  obtain ⟨mode, hmode⟩ := (resolve_eq_ok_iff.1 h).2.ends_at_directory (getLast?_names hends)
  cases hmode

end Names

/-! ## A socket that is gone -/

section Erase

variable {tree : FileTree} {location : Location} {transport : Transport} {holder : Holder}

/-- **Whatever stands somewhere stands in a directory.** -/
def Grounded (tree : FileTree) : Prop :=
  ∀ location name, tree.node? (location ++ [name]) ≠ none → ∃ mode, tree.node? location = some (.directory mode)

/-- Above what stands somewhere is a directory, the root being above itself. -/
theorem Grounded.above (grounded : tree.Grounded) {here : Location} {node : Node}
    (h : tree.node? here = some node) : ∃ mode, tree.node? here.dropLast = some (.directory mode) := by
  rcases List.eq_nil_or_concat here with rfl | ⟨front, name, rfl⟩
  · exact ⟨_, rfl⟩
  · rw [List.concat_eq_append] at h ⊢
    rw [List.dropLast_concat]
    exact grounded front name (by simp [h])

/-- Nothing leads on from a socket. -/
theorem Walks.eq_nil_of_socket {follow : Bool} {floor : Option Location} {links : Nat} {parts : List String}
    {place : Place} (hsocket : tree.node? location = some (.socket transport holder))
    (h : Walks tree follow floor links location parts place) : parts = [] := by
  have hnot : ∀ mode, tree.node? location ≠ some (.directory mode) := by
    intro mode hmode
    rw [hsocket] at hmode
    cases hmode
  have hdown : ∀ name, ¬LeadsDown tree location name := by
    intro name h
    obtain ⟨mode, hmode⟩ := h.directory
    exact hnot mode hmode
  cases h with
  | arrive hnode => rfl
  | stay hnode hidle hrest => exact absurd hnode (hnot _)
  | up hnode hfloor hrest => exact absurd hnode (hnot _)
  | miss h hnone => exact absurd h (hdown _)
  | link h hlink hfollow => exact absurd h (hdown _)
  | restart h hlink hlast habsolute hfloor hrest => exact absurd h (hdown _)
  | turn h hlink hlast hrelative hrest => exact absurd h (hdown _)
  | down h hnext hother hrest => exact absurd h (hdown _)

/-- **A walk to a socket that is gone** ends where the socket stood, or finds nothing. The latter takes a walk
    that came to the socket from below, or started there. Induction over the steps: what they stood on before
    the last one was no socket, so it still stands. -/
theorem walk_erase (hsocket : tree.node? location = some (.socket transport holder)) {links : Nat}
    {here : Location} {parts : List String} {place : Place} (h : Walks tree false none links here parts place)
    (hplace : place = ⟨location, some (.socket transport holder)⟩) :
    (tree.erase location).walk false none links here parts = .ok ⟨location, none⟩ ∨
      ((tree.erase location).walk false none links here parts = .error notFound ∧
        (tree.Grounded → here = location ∧ parts = [])) := by
  have hroot : location ≠ [] := by
    rintro rfl
    cases hsocket
  have hgone : (tree.erase location).node? location = none := node?_erase_self hroot
  have hother : ∀ {other : Location} {node : Node}, tree.node? other = some node → node.kind ≠ .socket →
      other ≠ location := by
    rintro other node hnode hkind rfl
    rw [hsocket] at hnode
    cases hnode
    exact hkind rfl
  have hkeeps : ∀ {other : Location} {node : Node}, tree.node? other = some node → node.kind ≠ .socket →
      (tree.erase location).node? other = some node := by
    intro other node hnode hkind
    rw [node?_erase_ne (hother hnode hkind), hnode]
  have hleads : ∀ {here : Location} {name : String}, LeadsDown tree here name →
      here ≠ location ∧ LeadsDown (tree.erase location) here name := by
    intro here name hdown
    obtain ⟨mode, hmode⟩ := hdown.directory
    exact ⟨hother hmode directory_ne_socket, { hdown with directory := ⟨mode, hkeeps hmode directory_ne_socket⟩ }⟩
  induction h with
  | arrive hnode =>
    cases hplace
    right
    refine ⟨?_, fun _ => ⟨rfl, rfl⟩⟩
    rw [walk, hgone]
  | stay hnode hidle hrest ih =>
    have hne := hother hnode directory_ne_socket
    rw [walk, hkeeps hnode directory_ne_socket]
    simp only [Node.isDirectory, Node.kind, hidle]
    rcases ih hplace with hfree | ⟨hfails, hback⟩
    · exact Or.inl hfree
    · exact Or.inr ⟨hfails, fun grounded => absurd (hback grounded).1 hne⟩
  | up hnode hfloor hrest ih =>
    rw [walk, hkeeps hnode directory_ne_socket]
    simp only [Node.isDirectory, Node.kind]
    rcases ih hplace with hfree | ⟨hfails, hback⟩
    · exact Or.inl hfree
    · refine Or.inr ⟨hfails, fun grounded => ?_⟩
      obtain ⟨mode, hmode⟩ := grounded.above hnode
      exact absurd (hback grounded).1 (hother hmode directory_ne_socket)
  | miss hdown hnone => cases hplace
  | link hdown hlink hfollow => cases hplace
  | restart hdown hlink hlast habsolute hfloor hrest ih =>
    rw [(hleads hdown).2.walk_cons, hkeeps hlink symlink_ne_socket]
    simp only [isEmpty_and_not hlast, habsolute]
    rcases ih hplace with hfree | ⟨hfails, hback⟩
    · exact Or.inl hfree
    · exact Or.inr ⟨hfails, fun grounded => absurd (hback grounded).1.symm hroot⟩
  | turn hdown hlink hlast hrelative hrest ih =>
    obtain ⟨hne, hstill⟩ := hleads hdown
    rw [hstill.walk_cons, hkeeps hlink symlink_ne_socket]
    simp only [isEmpty_and_not hlast, hrelative]
    rcases ih hplace with hfree | ⟨hfails, hback⟩
    · exact Or.inl hfree
    · exact Or.inr ⟨hfails, fun grounded => absurd (hback grounded).1 hne⟩
  | @down links here name rest place next hdown hnext hkind hrest ih =>
    obtain ⟨-, hstill⟩ := hleads hdown
    by_cases hend : here ++ [name] = location
    · -- this is the step onto the socket, and it is the last one
      subst hend
      obtain rfl := hrest.eq_nil_of_socket hsocket
      left
      rw [hstill.walk_cons, hgone]
      rfl
    · have hstep : (tree.erase location).walk false none links here (name :: rest)
          = (tree.erase location).walk false none links (here ++ [name]) rest := by
        rw [hstill.walk_cons, node?_erase_ne hend, hnext]
        cases next with
        | symlink target => exact absurd rfl hkind
        | directory mode => rfl
        | file contents => rfl
        | socket transport holder => rfl
      rw [hstep]
      rcases ih hplace with hfree | ⟨hfails, hback⟩
      · exact Or.inl hfree
      · exact Or.inr ⟨hfails, fun grounded => absurd (hback grounded).1 hend⟩

/-- **The path of a socket that is gone** leads to where it stood, and in a grounded tree for certain. -/
theorem resolve_erase {path : String}
    (h : tree.resolve false path = .ok ⟨location, some (.socket transport holder)⟩) :
    (tree.erase location).resolve false path = .ok ⟨location, none⟩ ∨
      ((tree.erase location).resolve false path = .error notFound ∧ ¬tree.Grounded) := by
  obtain ⟨⟨hsome, hshort⟩, hwalks⟩ := resolve_eq_ok_iff.1 h
  have hnames : names path ≠ [] := by
    simp [names, Path.parts, List.splitOnP_ne_nil]
  have hresolve : (tree.erase location).resolve false path
      = (tree.erase location).walk false none maxLinks (tree.startOf path) (names path) := by
    unfold resolve
    rw [hsome, if_neg Bool.false_ne_true, if_neg (Nat.not_le.2 hshort)]
    rfl
  rw [hresolve]
  rcases walk_erase (node?_of_resolve h) hwalks rfl with hfree | ⟨hfails, hback⟩
  · exact Or.inl hfree
  · exact Or.inr ⟨hfails, fun grounded => hnames (hback grounded).2⟩

end Erase

/-! ## Dead sockets -/

section Dead

variable {tree : FileTree} {path : String} {location : Location}

/-- A socket can refuse a connection only at an address. -/
theorem DeadSocket.address (dead : DeadSocket tree path location) : checkAddress path = .ok () := by
  have hrefuses := dead.refuses
  unfold connectStream at hrefuses
  split at hrefuses
  · next error haddress =>
    cases hrefuses
    unfold checkAddress at haddress
    split at haddress
    · cases haddress
    · split at haddress <;> cases haddress
  · next haddress => exact haddress

theorem DeadSocket.lookAt (dead : DeadSocket tree path location) :
    ∃ transport holder, tree.lookAt path = .ok (.socket transport holder) := by
  obtain ⟨transport, holder, hleads⟩ := dead.isSocket
  exact ⟨transport, holder, lookAt_eq_ok_iff.2 ⟨hasNul_of_checkAddress dead.address, location, hleads⟩⟩

/-- A dead socket is something that the path leads to. -/
theorem DeadSocket.exists (dead : DeadSocket tree path location) : tree.exists? path = true := by
  obtain ⟨transport, current, hsocket⟩ := dead.lookAt
  have hkind : (Node.socket transport current).kind ≠ .symlink := nofun
  exact exists_of_lookAt hkind hsocket

/-- A dead socket is removed by its path. -/
theorem DeadSocket.remove (dead : DeadSocket tree path location) :
    tree.remove path = .ok (tree.erase location) := by
  obtain ⟨transport, current, hleads⟩ := dead.isSocket
  unfold FileTree.remove
  rw [hasNul_of_checkAddress dead.address, hleads]
  rfl

/-- **Where a dead socket was removed** the path can be bound again, unless nothing leads there any more. -/
theorem DeadSocket.bindStream_erase (dead : DeadSocket tree path location) (holder : Holder) :
    ((tree.erase location).resolve false path = .ok ⟨location, none⟩ ∧
        (tree.erase location).bindStream path holder
          = .ok ((tree.erase location).put location (.socket .stream holder))) ∨
      ((tree.erase location).bindStream path holder = .error notFound ∧ ¬tree.Grounded) := by
  obtain ⟨transport, current, hleads⟩ := dead.isSocket
  have hend := endsLikeDirectory_of_socket hleads
  rcases resolve_erase hleads with hfree | ⟨hfails, hloose⟩
  · exact Or.inl ⟨hfree, bindStream_of_resolve holder dead.address hend hfree⟩
  · refine Or.inr ⟨?_, hloose⟩
    unfold bindStream
    rw [dead.address, withoutEnd_eq hend, hfails]

theorem checkAddress_of_bindStream {holder : Holder} {bound : FileTree}
    (h : tree.bindStream path holder = .ok bound) : checkAddress path = .ok () := by
  unfold bindStream at h
  split at h
  · cases h
  · next haddress => exact haddress

/-- **A socket that somebody holds** is connected to. -/
theorem connectStream_of_resolve {holder : Holder} (haddress : checkAddress path = .ok ())
    (h : tree.resolve false path = .ok ⟨location, some (.socket .stream holder)⟩) (hheld : holder ≠ .nobody) :
    tree.connectStream path = .ok holder := by
  have hkind : (⟨location, some (.socket .stream holder)⟩ : Place).node.map Node.kind ≠ some .symlink := nofun
  unfold connectStream
  rw [haddress, resolve_follow hkind h]
  cases holder with
  | nobody => exact absurd rfl hheld
  | stranger => rfl
  | daemon number => rfl

end Dead

end FileTree

open FileTree

namespace Listener

/-! ## What binding comes to -/

/-- **What is blamed** for a path that is taken. -/
inductive Blames (tree : FileTree) (path : String) : Error → Prop
  /-- What the path names is no socket. -/
  | notSocket {node : Node} :
      tree.lookAt path = .ok node → node.kind ≠ .socket → Blames tree path (.notSocket path)
  /-- Somebody answers at the socket. -/
  | inUse {transport : Transport} {current answering : Holder} :
      tree.lookAt path = .ok (.socket transport current) → tree.connectStream path = .ok answering →
      Blames tree path (.inUse path)
  /-- Connecting to the socket fails, but not as it does at a dead one. -/
  | probe {transport : Transport} {current : Holder} {source : IoError} :
      tree.lookAt path = .ok (.socket transport current) → tree.connectStream path = .error source →
      source.kind ≠ .connectionRefused → source.kind ≠ .notFound → Blames tree path (.probe path source)

/-- **All that binding can come to.** -/
inductive Outcome (tree : FileTree) (path : String) (holder : Holder) : Binding → Prop
  /-- Nothing stood at the path, and the socket stands there now. -/
  | fresh {location : Location} :
      checkAddress path = .ok () → tree.resolve false path = .ok ⟨location, none⟩ →
      Outcome tree path holder { tree := tree.put location (.socket .stream holder) }
  /-- The socket stands where a dead one stood. -/
  | replaced {location : Location} :
      DeadSocket tree path location → (tree.erase location).resolve false path = .ok ⟨location, none⟩ →
      Outcome tree path holder
        { tree := (tree.erase location).put location (.socket .stream holder), log := [staleRecord path] }
  /-- The dead socket is gone, and nothing leads to its place any more. -/
  | lost {location : Location} {source : IoError} :
      DeadSocket tree path location → ¬tree.Grounded →
      Outcome tree path holder
        { tree := tree.erase location, log := [staleRecord path], error := some (.bind path source) }
  /-- The path leads to nothing and cannot be bound. -/
  | unbound {source : IoError} :
      tree.exists? path = false → tree.bindStream path holder = .error source →
      Outcome tree path holder { tree, error := some (.bind path source) }
  /-- What the path leads to is left alone. -/
  | spared {error : Error} {answered : Option Holder} :
      tree.exists? path = true → Blames tree path error →
      Outcome tree path holder { tree, error := some error, answered }

section Outcome

variable {tree : FileTree} {path : String} {holder : Holder} {after : Binding}

/-- What is blamed is not a dead socket. -/
theorem Blames.not_dead {error : Error} (h : Blames tree path error) (location : Location) :
    ¬DeadSocket tree path location := by
  intro dead
  obtain ⟨transport, current, hsocket⟩ := dead.lookAt
  cases h with
  | notSocket hlook hkind =>
    rw [hsocket] at hlook
    cases hlook
    exact hkind rfl
  | inUse hlook hanswers =>
    rw [dead.refuses] at hanswers
    cases hanswers
  | probe hlook hfails hrefused hmissing =>
    rw [dead.refuses] at hfails
    cases hfails
    exact hrefused rfl

/-- **Binding the path of a dead socket.** -/
theorem outcome_of_dead {location : Location} (dead : DeadSocket tree path location) :
    Outcome tree path holder (bind tree path holder) := by
  obtain ⟨transport, current, hsocket⟩ := dead.lookAt
  have hbind : bind tree path holder
      = { claimPath (tree.erase location) path holder with log := [staleRecord path] } := by
    have hdead : isDead connectionRefused = true := by decide
    simp only [bind, dead.exists, hsocket, dead.refuses, hdead, dead.remove]
    rfl
  rw [hbind]
  unfold claimPath
  rcases dead.bindStream_erase holder with ⟨hfree, hput⟩ | ⟨hfails, hloose⟩
  · rw [hput]
    exact .replaced dead hfree
  · rw [hfails]
    exact .lost dead hloose

/-- **Binding**, case by case. -/
theorem outcome_bind (tree : FileTree) (path : String) (holder : Holder) :
    Outcome tree path holder (bind tree path holder) := by
  cases hexists : tree.exists? path with
  | false =>
    simp only [bind, hexists, claimPath]
    cases hput : tree.bindStream path holder with
    | error source => exact .unbound hexists hput
    | ok bound =>
      obtain ⟨hnul, location, hfree, rfl⟩ := bindStream_eq_ok hput
      exact .fresh (checkAddress_of_bindStream hput) hfree
  | true =>
    obtain ⟨node, hlook⟩ := lookAt_of_exists hexists
    have hother : node.kind ≠ .socket → Outcome tree path holder (bind tree path holder) := by
      intro hkind
      have hbind : bind tree path holder = { tree, error := some (.notSocket path) } := by
        simp only [bind, hexists, hlook]
        cases node with
        | socket transport current => exact absurd rfl hkind
        | directory mode => rfl
        | file contents => rfl
        | symlink target => rfl
      rw [hbind]
      exact .spared hexists (.notSocket hlook hkind)
    cases node with
    | directory mode => exact hother directory_ne_socket
    | file contents => exact hother file_ne_socket
    | symlink target => exact hother symlink_ne_socket
    | socket transport current =>
      obtain ⟨hnul, location, hleads⟩ := lookAt_eq_ok_iff.1 hlook
      cases hconnect : tree.connectStream path with
      | ok answering =>
        simp only [bind, hexists, hlook, hconnect]
        exact .spared hexists (.inUse hlook hconnect)
      | error source =>
        cases hdead : isDead source with
        | true =>
          rw [connectStream_dead hleads hconnect hdead] at hconnect
          exact outcome_of_dead ⟨⟨transport, current, hleads⟩, hconnect⟩
        | false =>
          simp only [bind, hexists, hlook, hconnect, hdead]
          have hkinds : source.kind ≠ .connectionRefused ∧ source.kind ≠ .notFound := by
            simpa [isDead] using hdead
          exact .spared hexists (.probe hlook hconnect hkinds.1 hkinds.2)

/-! ## Nothing but dead sockets -/

/-- **Nothing but a dead socket is replaced.** -/
structure ReplacesDead (tree : FileTree) (path : String) (holder : Holder) (after : Binding) : Prop where
  /-- What is gone is a dead socket, and the path itself names it. -/
  removes : ∀ location node, tree.node? location = some node → after.tree.node? location ≠ some node →
    DeadSocket tree path location
  /-- Anything else that the path leads to is left alone, and the error says what is wrong with it. -/
  spares : tree.exists? path = true → (∀ location, ¬DeadSocket tree path location) →
    after.tree = tree ∧ ∃ error, after.error = some error ∧ Blames tree path error
  /-- If it succeeds, the path names the new socket, which answers for its holder. Nothing or a dead socket
      stood there, and all else is as it was. -/
  binds : after.error = none → ∃ location,
    after.tree.resolve false path = .ok ⟨location, some (.socket .stream holder)⟩ ∧
    (holder ≠ .nobody → after.tree.connectStream path = .ok holder) ∧
    (tree.resolve false path = .ok ⟨location, none⟩ ∨ DeadSocket tree path location) ∧
    ∀ other, other ≠ location → after.tree.node? other = tree.node? other
  /-- Whatever it comes to, nothing changes but what the path itself names. -/
  confined : after.tree.workingDirectory = tree.workingDirectory ∧
    ∀ other, after.tree.node? other ≠ tree.node? other → ∃ node, tree.resolve false path = .ok ⟨other, node⟩
  /-- A free path is bound. -/
  takes : ∀ location, checkAddress path = .ok () → endsLikeDirectory path = false →
    tree.resolve false path = .ok ⟨location, none⟩ → after.error = none
  /-- A dead socket is replaced. -/
  replaces : tree.Grounded → ∀ location, DeadSocket tree path location → after.error = none

namespace Outcome

/-- **What changes** is the place that the path names, if nothing or a dead socket stood there. -/
theorem changes (h : Outcome tree path holder after) :
    after.tree.workingDirectory = tree.workingDirectory ∧
      ∀ other, after.tree.node? other ≠ tree.node? other →
        tree.resolve false path = .ok ⟨other, none⟩ ∨ DeadSocket tree path other := by
  cases h with
  | @fresh location haddress hfree =>
    refine ⟨rfl, fun other hchanged => ?_⟩
    obtain rfl : other = location := Decidable.byContradiction fun hne => hchanged (node?_put_ne hne)
    exact Or.inl hfree
  | @replaced location dead hfree =>
    refine ⟨rfl, fun other hchanged => ?_⟩
    obtain rfl : other = location :=
      Decidable.byContradiction fun hne => hchanged ((node?_put_ne hne).trans (node?_erase_ne hne))
    exact Or.inr dead
  | @lost location source dead hloose =>
    refine ⟨rfl, fun other hchanged => ?_⟩
    obtain rfl : other = location := Decidable.byContradiction fun hne => hchanged (node?_erase_ne hne)
    exact Or.inr dead
  | unbound hexists hfails => exact ⟨rfl, fun other hchanged => absurd rfl hchanged⟩
  | spared hexists hblames => exact ⟨rfl, fun other hchanged => absurd rfl hchanged⟩

/-- Where something stood and something else stands, or nothing, a dead socket stood. -/
theorem removes (h : Outcome tree path holder after) {location : Location} {node : Node}
    (hstood : tree.node? location = some node) (hgone : after.tree.node? location ≠ some node) :
    DeadSocket tree path location := by
  rw [← hstood] at hgone
  rcases h.changes.2 location hgone with hfree | dead
  · rw [node?_of_resolve hfree] at hstood
    cases hstood
  · exact dead

/-- What the path leads to is left alone, unless it is a dead socket. -/
theorem spares (h : Outcome tree path holder after) (hexists : tree.exists? path = true)
    (hdead : ∀ location, ¬DeadSocket tree path location) :
    after.tree = tree ∧ ∃ error, after.error = some error ∧ Blames tree path error := by
  cases h with
  | fresh haddress hfree =>
    obtain ⟨node, hlook⟩ := lookAt_of_exists hexists
    obtain ⟨hnul, location, hleads⟩ := lookAt_eq_ok_iff.1 hlook
    rw [hfree] at hleads
    cases hleads
  | replaced dead hfree => exact absurd dead (hdead _)
  | lost dead hloose => exact absurd dead (hdead _)
  | unbound hnothing hfails =>
    rw [hexists] at hnothing
    cases hnothing
  | spared hexists hblames => exact ⟨rfl, _, rfl, hblames⟩

/-- **What succeeds** leaves the new socket at the path. -/
theorem binds (h : Outcome tree path holder after) (hsucceeds : after.error = none) :
    ∃ location, after.tree.resolve false path = .ok ⟨location, some (.socket .stream holder)⟩ ∧
      (holder ≠ .nobody → after.tree.connectStream path = .ok holder) ∧
      (tree.resolve false path = .ok ⟨location, none⟩ ∨ DeadSocket tree path location) ∧
      ∀ other, other ≠ location → after.tree.node? other = tree.node? other := by
  have hkind : (Node.socket .stream holder).kind ≠ .symlink := nofun
  cases h with
  | fresh haddress hfree =>
    have hleads := resolve_put hkind hfree
    exact ⟨_, hleads, connectStream_of_resolve haddress hleads, Or.inl hfree, fun other => node?_put_ne⟩
  | replaced dead hfree =>
    have hleads := resolve_put hkind hfree
    refine ⟨_, hleads, connectStream_of_resolve dead.address hleads, Or.inr dead, fun other hne => ?_⟩
    exact (node?_put_ne hne).trans (node?_erase_ne hne)
  | lost dead hloose => cases hsucceeds
  | unbound hexists hfails => cases hsucceeds
  | spared hexists hblames => cases hsucceeds

/-- A free path is bound, if it can be the address of a socket. -/
theorem takes (h : Outcome tree path holder after) {location : Location} (haddress : checkAddress path = .ok ())
    (hend : endsLikeDirectory path = false) (hfree : tree.resolve false path = .ok ⟨location, none⟩) :
    after.error = none := by
  cases h with
  | fresh haddress hfree => rfl
  | replaced dead hcleared => rfl
  | lost dead hloose =>
    obtain ⟨transport, current, hleads⟩ := dead.isSocket
    rw [hfree] at hleads
    cases hleads
  | unbound hexists hfails =>
    rw [bindStream_of_resolve holder haddress hend hfree] at hfails
    cases hfails
  | spared hexists hblames =>
    obtain ⟨node, hlook⟩ := lookAt_of_exists hexists
    obtain ⟨hnul, location, hleads⟩ := lookAt_eq_ok_iff.1 hlook
    rw [hfree] at hleads
    cases hleads

/-- A dead socket is replaced, if everything stands in a directory. -/
theorem replaces (h : Outcome tree path holder after) (grounded : tree.Grounded) {location : Location}
    (dead : DeadSocket tree path location) : after.error = none := by
  cases h with
  | fresh haddress hfree => rfl
  | replaced dead hfree => rfl
  | lost dead hloose => exact absurd grounded hloose
  | unbound hexists hfails =>
    rw [dead.exists] at hexists
    cases hexists
  | spared hexists hblames => exact absurd dead (hblames.not_dead location)

end Outcome

end Outcome

/-- **Binding replaces dead sockets and nothing else**, whatever the tree and the path are. -/
theorem bind_replaces_dead (tree : FileTree) (path : String) (holder : Holder) :
    ReplacesDead tree path holder (bind tree path holder) := by
  have houtcome := outcome_bind tree path holder
  refine ⟨fun _ _ => houtcome.removes, houtcome.spares, houtcome.binds, ⟨houtcome.changes.1, ?_⟩,
    fun _ => houtcome.takes, fun grounded _ => houtcome.replaces grounded⟩
  intro other hchanged
  rcases houtcome.changes.2 other hchanged with hfree | dead
  · exact ⟨none, hfree⟩
  · obtain ⟨transport, current, hleads⟩ := dead.isSocket
    exact ⟨_, hleads⟩

end Listener

end DeviceBroker
