import DeviceBroker.FileTree

/-!
# `Proofs.Walking` — where paths lead when the tree has changed

A walk fails in many ways and arrives by few steps. The steps are the constructors of a relation here, so
that what is said about a walk that arrives is said step by step, and its failures need not be looked at.

A walk that arrives at something has stood on something all the way. So it arrives there in every later
tree that keeps what stood in the earlier one, and putting something where nothing stood changes no walk
but those that ended just there.

## Contents

* `Walks`, `walk_eq_ok_iff`, `resolve_eq_ok_iff` — **the walks that arrive**, step by step.
* `node?_of_resolve`, `resolve_follow` — what stands at the end of a walk.
* `Keeps`, `Keeps.resolve` — **later trees that keep everything**.
* `put_erase`, `keeps_put`, `resolve_put` — something is put where nothing stood.
-/

namespace DeviceBroker.FileTree

/-! ## Walks that arrive -/

/-- A directory from which a name leads down. -/
structure LeadsDown (tree : FileTree) (here : Location) (name : String) : Prop where
  directory : ∃ mode, tree.node? here = some (.directory mode)
  speaks : isIdle name = false
  notUp : name ≠ ".."
  short : name.utf8ByteSize ≤ maxName

/-- **The walks that arrive**, by their first steps. -/
inductive Walks (tree : FileTree) (follow : Bool) (floor : Option Location) :
    Nat → Location → List String → Place → Prop
  /-- No name is left. -/
  | arrive {links : Nat} {here : Location} {node : Node} :
      tree.node? here = some node → Walks tree follow floor links here [] ⟨here, some node⟩
  /-- The name leads nowhere else. -/
  | stay {links : Nat} {here : Location} {name : String} {rest : List String} {place : Place} {mode : Nat} :
      tree.node? here = some (.directory mode) → isIdle name = true →
      Walks tree follow floor links here rest place →
      Walks tree follow floor links here (name :: rest) place
  /-- The name leads to the directory above. -/
  | up {links : Nat} {here : Location} {rest : List String} {place : Place} {mode : Nat} :
      tree.node? here = some (.directory mode) → floor ≠ some here →
      Walks tree follow floor links here.dropLast rest place →
      Walks tree follow floor links here (".." :: rest) place
  /-- Nothing has the last name. -/
  | miss {links : Nat} {here : Location} {name : String} :
      LeadsDown tree here name → tree.node? (here ++ [name]) = none →
      Walks tree follow floor links here [name] ⟨here ++ [name], none⟩
  /-- The last name is that of a link, which is not followed. -/
  | link {links : Nat} {here : Location} {name target : String} :
      LeadsDown tree here name → tree.node? (here ++ [name]) = some (.symlink target) → follow = false →
      Walks tree follow floor links here [name] ⟨here ++ [name], some (.symlink target)⟩
  /-- A link leads on from the root. -/
  | restart {links : Nat} {here : Location} {name target : String} {rest : List String} {place : Place} :
      LeadsDown tree here name → tree.node? (here ++ [name]) = some (.symlink target) →
      (rest = [] → follow = true) → Path.isAbsolute target.toList = true → floor = none →
      Walks tree follow floor links [] (names target ++ rest) place →
      Walks tree follow floor (links + 1) here (name :: rest) place
  /-- A link leads on from the directory that it stands in. -/
  | turn {links : Nat} {here : Location} {name target : String} {rest : List String} {place : Place} :
      LeadsDown tree here name → tree.node? (here ++ [name]) = some (.symlink target) →
      (rest = [] → follow = true) → Path.isAbsolute target.toList = false →
      Walks tree follow floor links here (names target ++ rest) place →
      Walks tree follow floor (links + 1) here (name :: rest) place
  /-- The name is that of something else than a link. -/
  | down {links : Nat} {here : Location} {name : String} {rest : List String} {place : Place} {node : Node} :
      LeadsDown tree here name → tree.node? (here ++ [name]) = some node → node.kind ≠ .symlink →
      Walks tree follow floor links (here ++ [name]) rest place →
      Walks tree follow floor links here (name :: rest) place

theorem exists_mode_of_isDirectory {node : Node} (h : node.isDirectory = true) :
    ∃ mode, node = .directory mode := by
  cases node with
  | directory mode => exact ⟨mode, rfl⟩
  | file contents => cases h
  | socket transport holder => cases h
  | symlink target => cases h

section Walks

variable {tree : FileTree} {follow : Bool} {floor : Option Location} {links : Nat} {here : Location}
  {parts : List String} {place : Place}

/-- The tests that a walk makes before it takes a name. -/
theorem leadsDown_of_tests {name : String} {node : Node} (hnode : tree.node? here = some node)
    (hdirectory : ¬(!node.isDirectory) = true) (hidle : ¬isIdle name = true) (hup : ¬name = "..")
    (hshort : ¬maxName < name.utf8ByteSize) : LeadsDown tree here name := by
  obtain ⟨mode, rfl⟩ := exists_mode_of_isDirectory (by simpa using hdirectory)
  exact ⟨⟨mode, hnode⟩, by simpa using hidle, hup, Nat.not_lt.1 hshort⟩

/-- A walk that arrives takes these steps. -/
theorem walks_of_walk (h : tree.walk follow floor links here parts = .ok place) :
    Walks tree follow floor links here parts place := by
  fun_induction walk tree follow floor links here parts generalizing place with
  | case1 links here node hnode =>
    cases h
    exact .arrive hnode
  | case5 links here name rest node hnode hdirectory hidle ih =>
    obtain ⟨mode, rfl⟩ := exists_mode_of_isDirectory (by simpa using hdirectory)
    exact .stay hnode hidle (ih h)
  | case7 links here rest node hnode hdirectory hfloor hidle ih =>
    obtain ⟨mode, rfl⟩ := exists_mode_of_isDirectory (by simpa using hdirectory)
    exact .up hnode hfloor (ih h)
  | case9 links here name rest node hnode hdirectory hidle hup hshort hnone hlast =>
    cases h
    rw [List.isEmpty_iff.1 hlast]
    exact .miss (leadsDown_of_tests hnode hdirectory hidle hup hshort) hnone
  | case11 links here name rest node hnode hdirectory hidle hup hshort target hlink hlast =>
    obtain ⟨hrest, hfollow⟩ := Bool.and_eq_true_iff.1 hlast
    cases h
    rw [List.isEmpty_iff.1 hrest]
    exact .link (leadsDown_of_tests hnode hdirectory hidle hup hshort) hlink (by simpa using hfollow)
  | case14 here name rest node hnode hdirectory hidle hup hshort target hlink hlast links habsolute hfloor ih =>
    exact .restart (leadsDown_of_tests hnode hdirectory hidle hup hshort) hlink (by simpa using hlast)
      habsolute (by simpa using hfloor) (ih h)
  | case15 here name rest node hnode hdirectory hidle hup hshort target hlink hlast links hrelative ih =>
    exact .turn (leadsDown_of_tests hnode hdirectory hidle hup hshort) hlink (by simpa using hlast)
      (by simpa using hrelative) (ih h)
  | case16 links here name rest node hnode hdirectory hidle hup hshort next hkind hnext ih =>
    refine .down (leadsDown_of_tests hnode hdirectory hidle hup hshort) hnext ?_ (ih h)
    cases next with
    | symlink target => exact absurd rfl (hkind target)
    | directory mode => exact nofun
    | file contents => exact nofun
    | socket transport holder => exact nofun
  -- the remaining cases are those of a walk that fails
  | _ => cases h

/-- What a walk does with a name that leads down. -/
theorem LeadsDown.walk_cons {name : String} (h : LeadsDown tree here name) (rest : List String) :
    tree.walk follow floor links here (name :: rest) =
      match tree.node? (here ++ [name]) with
      | none => if rest.isEmpty then .ok ⟨here ++ [name], none⟩ else .error notFound
      | some (.symlink target) =>
        if rest.isEmpty && !follow then .ok ⟨here ++ [name], some (.symlink target)⟩
        else
          match links with
          | 0 => .error tooManyLinks
          | links + 1 =>
            if Path.isAbsolute target.toList then
              if floor.isSome then .error outside
              else tree.walk follow floor links [] (names target ++ rest)
            else tree.walk follow floor links here (names target ++ rest)
      | some _ => tree.walk follow floor links (here ++ [name]) rest := by
  obtain ⟨⟨mode, hnode⟩, hidle, hup, hshort⟩ := h
  rw [walk, hnode]
  simp only [Node.isDirectory, Node.kind, hidle, hup, Nat.not_lt.2 hshort]
  rfl

theorem isEmpty_and_not {rest : List String} (h : rest = [] → follow = true) :
    (rest.isEmpty && !follow) = false := by
  cases rest with
  | nil => simp [h rfl]
  | cons name rest => rfl

/-- These steps make a walk that arrives. -/
theorem Walks.walk_eq (h : Walks tree follow floor links here parts place) :
    tree.walk follow floor links here parts = .ok place := by
  induction h with
  | arrive hnode => rw [walk, hnode]
  | stay hnode hidle hrest ih =>
    rw [walk, hnode]
    simp only [Node.isDirectory, Node.kind, hidle, ih]
    rfl
  | up hnode hfloor hrest ih =>
    rw [walk, hnode]
    simp only [Node.isDirectory, Node.kind, hfloor, ih]
    rfl
  | miss hdown hnone =>
    rw [hdown.walk_cons, hnone]
    rfl
  | link hdown hlink hfollow =>
    rw [hdown.walk_cons, hlink, hfollow]
    rfl
  | restart hdown hlink hlast habsolute hfloor hrest ih =>
    rw [hdown.walk_cons, hlink]
    simp only [isEmpty_and_not hlast, habsolute, hfloor, ← ih]
    rfl
  | turn hdown hlink hlast hrelative hrest ih =>
    rw [hdown.walk_cons, hlink]
    simp only [isEmpty_and_not hlast, hrelative, ← ih]
    rfl
  | @down links here name rest place next hdown hnext hkind hrest ih =>
    rw [hdown.walk_cons, hnext, ← ih]
    cases next with
    | symlink target => exact absurd rfl hkind
    | directory mode => rfl
    | file contents => rfl
    | socket transport holder => rfl

/-- **A walk arrives** just by these steps. -/
theorem walk_eq_ok_iff :
    tree.walk follow floor links here parts = .ok place ↔ Walks tree follow floor links here parts place :=
  ⟨walks_of_walk, Walks.walk_eq⟩

/-- Where a walk along a path starts. -/
def startOf (tree : FileTree) (path : String) : Location :=
  if Path.isAbsolute path.toList then [] else tree.workingDirectory

/-- **A path leads somewhere** if it is one, is not too long, and a walk along its names arrives. -/
theorem resolve_eq_ok_iff {path : String} :
    tree.resolve follow path = .ok place ↔
      (path.isEmpty = false ∧ path.utf8ByteSize < maxPath) ∧
        Walks tree follow none maxLinks (tree.startOf path) (names path) place := by
  rw [← walk_eq_ok_iff]
  unfold resolve
  constructor
  · intro h
    split at h
    · cases h
    · split at h
      · cases h
      · next hsome hshort => exact ⟨⟨Bool.eq_false_iff.2 hsome, Nat.not_le.1 hshort⟩, h⟩
  · rintro ⟨⟨hsome, hshort⟩, h⟩
    rw [hsome, if_neg Bool.false_ne_true, if_neg (Nat.not_le.2 hshort)]
    exact h

/-- The root is where its path leads. -/
theorem locate_root (tree : FileTree) : tree.locate "/" = .ok ([], root) := by
  have hroot : tree.resolve true "/" = .ok ⟨[], some root⟩ :=
    resolve_eq_ok_iff.2 ⟨by decide, .stay rfl rfl (.stay rfl rfl (.arrive rfl))⟩
  unfold locate
  rw [hroot]
  rfl

end Walks

/-! ## What a walk ends at -/

section Ends

variable {tree : FileTree} {follow : Bool} {place : Place}

/-- A walk tells what stands where it ends. -/
theorem Walks.node?_eq {floor : Option Location} {links : Nat} {here : Location} {parts : List String}
    (h : Walks tree follow floor links here parts place) : tree.node? place.location = place.node := by
  induction h with
  | arrive hnode => exact hnode
  | stay hnode hidle hrest ih => exact ih
  | up hnode hfloor hrest ih => exact ih
  | miss hdown hnone => exact hnone
  | link hdown hlink hfollow => exact hlink
  | restart hdown hlink hlast habsolute hfloor hrest ih => exact ih
  | turn hdown hlink hlast hrelative hrest ih => exact ih
  | down hdown hnext hother hrest ih => exact ih

/-- **A path tells what stands** where it leads. -/
theorem node?_of_resolve {path : String} (h : tree.resolve follow path = .ok place) :
    tree.node? place.location = place.node :=
  (resolve_eq_ok_iff.1 h).2.node?_eq

/-- A walk that follows no link at its end, and does not end at one, ends where one that follows does. -/
theorem Walks.following (hkind : place.node.map Node.kind ≠ some .symlink) {floor : Option Location}
    {links : Nat} {here : Location} {parts : List String}
    (h : Walks tree false floor links here parts place) : Walks tree true floor links here parts place := by
  induction h with
  | arrive hnode => exact .arrive hnode
  | stay hnode hidle hrest ih => exact .stay hnode hidle (ih hkind)
  | up hnode hfloor hrest ih => exact .up hnode hfloor (ih hkind)
  | miss hdown hnone => exact .miss hdown hnone
  | link hdown hlink hfollow => exact absurd rfl hkind
  | restart hdown hlink hlast habsolute hfloor hrest ih =>
    exact .restart hdown hlink (fun _ => rfl) habsolute hfloor (ih hkind)
  | turn hdown hlink hlast hrelative hrest ih =>
    exact .turn hdown hlink (fun _ => rfl) hrelative (ih hkind)
  | down hdown hnext hother hrest ih => exact .down hdown hnext hother (ih hkind)

/-- **A path that does not end at a link** leads to the same place whether links are followed or not. -/
theorem resolve_follow (hkind : place.node.map Node.kind ≠ some .symlink) {path : String}
    (h : tree.resolve false path = .ok place) : tree.resolve true path = .ok place := by
  obtain ⟨hpath, hwalks⟩ := resolve_eq_ok_iff.1 h
  exact resolve_eq_ok_iff.2 ⟨hpath, hwalks.following hkind⟩

end Ends

/-! ## Keeping what stands -/

/-- **A later tree keeps** what stood in an earlier one: it may hold more, and paths start where they did. -/
structure Keeps (before after : FileTree) : Prop where
  workingDirectory : after.workingDirectory = before.workingDirectory
  node : ∀ location node, before.node? location = some node → after.node? location = some node

namespace Keeps

variable {before after : FileTree}

theorem refl (tree : FileTree) : Keeps tree tree :=
  ⟨rfl, fun _ _ h => h⟩

theorem trans {later : FileTree} (first : Keeps before after) (second : Keeps after later) :
    Keeps before later where
  workingDirectory := second.workingDirectory.trans first.workingDirectory
  node location node h := second.node location node (first.node location node h)

theorem leadsDown (keeps : Keeps before after) {here : Location} {name : String}
    (h : LeadsDown before here name) : LeadsDown after here name := by
  obtain ⟨mode, hmode⟩ := h.directory
  exact { h with directory := ⟨mode, keeps.node _ _ hmode⟩ }

/-- **A walk that arrived at something** arrives there still. Induction over its steps, each of which stood
    on something that is kept. -/
theorem walks (keeps : Keeps before after) {follow : Bool} {floor : Option Location} {links : Nat}
    {here : Location} {parts : List String} {place : Place} (hsome : place.node ≠ none)
    (h : Walks before follow floor links here parts place) :
    Walks after follow floor links here parts place := by
  induction h with
  | arrive hnode => exact .arrive (keeps.node _ _ hnode)
  | stay hnode hidle hrest ih => exact .stay (keeps.node _ _ hnode) hidle (ih hsome)
  | up hnode hfloor hrest ih => exact .up (keeps.node _ _ hnode) hfloor (ih hsome)
  | miss hdown hnone => exact absurd rfl hsome
  | link hdown hlink hfollow => exact .link (keeps.leadsDown hdown) (keeps.node _ _ hlink) hfollow
  | restart hdown hlink hlast habsolute hfloor hrest ih =>
    exact .restart (keeps.leadsDown hdown) (keeps.node _ _ hlink) hlast habsolute hfloor (ih hsome)
  | turn hdown hlink hlast hrelative hrest ih =>
    exact .turn (keeps.leadsDown hdown) (keeps.node _ _ hlink) hlast hrelative (ih hsome)
  | down hdown hnext hother hrest ih =>
    exact .down (keeps.leadsDown hdown) (keeps.node _ _ hnext) hother (ih hsome)

theorem startOf (keeps : Keeps before after) (path : String) : after.startOf path = before.startOf path := by
  unfold FileTree.startOf
  rw [keeps.workingDirectory]

/-- **A path that led to something** leads there still. -/
theorem resolve (keeps : Keeps before after) {follow : Bool} {path : String} {place : Place}
    (hsome : place.node ≠ none) (h : before.resolve follow path = .ok place) :
    after.resolve follow path = .ok place := by
  obtain ⟨hpath, hwalks⟩ := resolve_eq_ok_iff.1 h
  refine resolve_eq_ok_iff.2 ⟨hpath, ?_⟩
  rw [keeps.startOf path]
  exact keeps.walks hsome hwalks

end Keeps

/-! ## Putting something where nothing stood -/

section Put

variable {tree : FileTree} {location : Location}

theorem ne_nil_of_fresh (fresh : tree.node? location = none) : location ≠ [] := by
  rintro rfl
  cases fresh

/-- **What was put is taken away again**, and the tree is as it was. -/
theorem put_erase (fresh : tree.node? location = none) (node : Node) :
    (tree.put location node).erase location = tree := by
  have habsent : ∀ entry ∈ tree.entries, entry.1 ≠ location := by
    simpa [node?, ne_nil_of_fresh fresh] using fresh
  have hsame : tree.entries.filter (·.1 ≠ location) = tree.entries :=
    List.filter_eq_self.2 fun entry hentry => decide_eq_true (habsent entry hentry)
  simp only [erase, put, List.filter_append, hsame]
  simp

variable {node : Node}

/-- What is put where nothing stood pushes nothing aside. -/
theorem keeps_put (fresh : tree.node? location = none) (node : Node) : Keeps tree (tree.put location node) := by
  refine ⟨rfl, ?_⟩
  intro other standing h
  have hne : other ≠ location := by
    rintro rfl
    rw [fresh] at h
    cases h
  rw [node?_put_ne hne, h]

/-- **A walk that missed** arrives once something is put where it ended. Induction over its steps: all but
    the last stood on something that is kept. -/
theorem Walks.put (fresh : tree.node? location = none) (hkind : node.kind ≠ .symlink) {follow : Bool}
    {floor : Option Location} {links : Nat} {here : Location} {parts : List String} {place : Place}
    (h : Walks tree follow floor links here parts place) (hplace : place = ⟨location, none⟩) :
    Walks (tree.put location node) follow floor links here parts ⟨location, some node⟩ := by
  have keeps := keeps_put fresh node
  induction h with
  | arrive hnode => cases hplace
  | stay hnode hidle hrest ih => exact .stay (keeps.node _ _ hnode) hidle (ih hplace)
  | up hnode hfloor hrest ih => exact .up (keeps.node _ _ hnode) hfloor (ih hplace)
  | miss hdown hnone =>
    cases hplace
    have hstands : (tree.put _ node).node? _ = some node := node?_put_self (ne_nil_of_fresh fresh)
    exact .down (keeps.leadsDown hdown) hstands hkind (.arrive hstands)
  | link hdown hlink hfollow => cases hplace
  | restart hdown hlink hlast habsolute hfloor hrest ih =>
    exact .restart (keeps.leadsDown hdown) (keeps.node _ _ hlink) hlast habsolute hfloor (ih hplace)
  | turn hdown hlink hlast hrelative hrest ih =>
    exact .turn (keeps.leadsDown hdown) (keeps.node _ _ hlink) hlast hrelative (ih hplace)
  | down hdown hnext hother hrest ih =>
    exact .down (keeps.leadsDown hdown) (keeps.node _ _ hnext) hother (ih hplace)

/-- **A path where nothing stood** leads to what was put there. -/
theorem resolve_put (hkind : node.kind ≠ .symlink) {follow : Bool} {path : String}
    (h : tree.resolve follow path = .ok ⟨location, none⟩) :
    (tree.put location node).resolve follow path = .ok ⟨location, some node⟩ := by
  obtain ⟨hpath, hwalks⟩ := resolve_eq_ok_iff.1 h
  exact resolve_eq_ok_iff.2 ⟨hpath, hwalks.put (node?_of_resolve h) hkind rfl⟩

end Put

end DeviceBroker.FileTree
