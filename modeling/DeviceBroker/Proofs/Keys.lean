import DeviceBroker.Settings.File
import Mathlib.Data.List.Nodup

/-!
# `Proofs.Keys` — tables with one entry a key

What a key stands for in a table that lies over another one is settled by the two entries of that key, if
no key stands twice in the upper table. None does in a table that was read: whatever is added to a table
goes to the entry that its key has.

## Contents

* `DistinctKeys` — no key stands twice.
* `Value.lookup?_put`, `Value.laid`, `Value.lookup?_overlayEntries` — **what a key stands for** in a table over
  another one.
* `Toml.distinct_set`, `Reader.distinct_step`, `Toml.distinct_read?` — documents.
* `Environment.distinct_toEntries`, `File.distinct_discover` — variables and files.
-/

namespace DeviceBroker

/-- **No key stands twice.** -/
def DistinctKeys {α : Type} (entries : List (String × α)) : Prop :=
  (entries.map Prod.fst).Nodup

theorem distinctKeys_nil {α : Type} : DistinctKeys ([] : List (String × α)) :=
  List.nodup_nil

theorem distinctKeys_cons {α : Type} {key : String} {value : α} {rest : List (String × α)} :
    DistinctKeys ((key, value) :: rest) ↔ key ∉ rest.map Prod.fst ∧ DistinctKeys rest :=
  List.nodup_cons

/-- Keys with one more, unless it is there. -/
def withKey (keys : List String) (key : String) : List String :=
  if key ∈ keys then keys else keys ++ [key]

theorem withKey_cons (first : String) (keys : List String) (key : String) :
    withKey (first :: keys) key = if first = key then first :: keys else first :: withKey keys key := by
  unfold withKey
  by_cases hfirst : first = key
  · simp [hfirst]
  · by_cases hkey : key ∈ keys
    · simp [hfirst, hkey]
    · simp [hfirst, hkey, Ne.symm hfirst]

theorem nodup_withKey {keys : List String} (h : keys.Nodup) (key : String) : (withKey keys key).Nodup := by
  unfold withKey
  split
  · exact h
  · next hkey =>
    rw [← List.concat_eq_append]
    exact List.Nodup.concat hkey h

namespace Value

@[simp] theorem lookup?_nil (key : String) : lookup? [] key = none := rfl

theorem lookup?_cons (other : String) (value : Value) (rest : Entries) (key : String) :
    lookup? ((other, value) :: rest) key = if other = key then some value else lookup? rest key := by
  unfold lookup?
  rw [List.find?_cons]
  by_cases h : other = key
  · simp [h]
  · rw [if_neg h, beq_false_of_ne h]

theorem lookup?_of_not_mem {entries : Entries} {key : String} (h : key ∉ entries.map Prod.fst) :
    lookup? entries key = none := by
  rw [lookup?, List.find?_eq_none.2, Option.map_none]
  intro entry hentry hkey
  exact h (List.mem_map.2 ⟨entry, hentry, by simpa using hkey⟩)

/-- **An entry that was put** is found under its key, and all others are found as before. -/
theorem lookup?_put (entries : Entries) (key : String) (value : Value) (other : String) :
    lookup? (put entries key value) other = if key = other then some value else lookup? entries other := by
  induction entries with
  | nil => rw [put, lookup?_cons]
  | cons entry entries ih =>
    obtain ⟨first, old⟩ := entry
    rw [put]
    by_cases hkey : first = key
    · subst hkey
      simp only [beq_self_eq_true, if_true, lookup?_cons]
      split <;> rfl
    · simp only [beq_iff_eq, hkey, if_false, lookup?_cons, ih]
      by_cases hfirst : first = other
      · have hne : key ≠ other := fun h => hkey (hfirst.trans h.symm)
        simp [hfirst, hne]
      · simp [hfirst]

theorem keys_put (entries : Entries) (key : String) (value : Value) :
    (put entries key value).map Prod.fst = withKey (entries.map Prod.fst) key := by
  induction entries with
  | nil => rfl
  | cons entry entries ih =>
    obtain ⟨first, old⟩ := entry
    rw [put, List.map_cons, withKey_cons, ← ih]
    by_cases hkey : first = key
    · simp [hkey]
    · simp [hkey]

theorem distinct_put {entries : Entries} (h : DistinctKeys entries) (key : String) (value : Value) :
    DistinctKeys (put entries key value) := by
  rw [DistinctKeys, keys_put]
  exact nodup_withKey h key

/-! ## One table over another -/

/-- What lies over what: a value that is there lies over the one below it. -/
def laid (below : Option Value) : Option Value → Option Value
  | none => below
  | some value =>
    match below with
    | none => some value
    | some old => some (overlay old value)

/-- **What a key stands for** in a table over another one: what it stands for in the upper one, laid over what
    it stands for in the lower one. Induction over the upper table, whose keys are set one by one. -/
theorem lookup?_overlayEntries {above : Entries} (h : DistinctKeys above) (below : Entries) (key : String) :
    lookup? (overlayEntries below above) key = laid (lookup? below key) (lookup? above key) := by
  induction above generalizing below with
  | nil => rw [overlayEntries]; rfl
  | cons entry above ih =>
    obtain ⟨first, value⟩ := entry
    obtain ⟨hfirst, hrest⟩ := distinctKeys_cons.1 h
    rw [overlayEntries, ih hrest, lookup?_put, lookup?_cons]
    by_cases hkey : first = key
    · subst hkey
      rw [if_pos rfl, if_pos rfl, lookup?_of_not_mem hfirst]
      cases lookup? below first <;> rfl
    · rw [if_neg hkey, if_neg hkey]

theorem distinct_overlayEntries {below : Entries} (h : DistinctKeys below) (above : Entries) :
    DistinctKeys (overlayEntries below above) := by
  induction above generalizing below with
  | nil => rwa [overlayEntries]
  | cons entry above ih =>
    obtain ⟨key, value⟩ := entry
    rw [overlayEntries]
    exact ih (distinct_put h key _)

end Value

/-! ## Documents -/

namespace Toml

theorem keys_set (nodes : Nodes) (key : String) (node : Node) :
    (set nodes key node).map Prod.fst = withKey (nodes.map Prod.fst) key := by
  induction nodes with
  | nil => rfl
  | cons entry nodes ih =>
    obtain ⟨first, old⟩ := entry
    rw [set, List.map_cons, withKey_cons, ← ih]
    by_cases hkey : first = key
    · simp [hkey]
    · simp [hkey]

theorem distinct_set {nodes : Nodes} (h : DistinctKeys nodes) (key : String) (node : Node) :
    DistinctKeys (set nodes key node) := by
  rw [DistinctKeys, keys_set]
  exact nodup_withKey h key

/-- A change that keeps keys apart. -/
def KeepsKeys (change : Nodes → Option Nodes) : Prop :=
  ∀ nodes changed, DistinctKeys nodes → change nodes = some changed → DistinctKeys changed

/-- A change further in keeps the keys of the table apart. -/
theorem keepsKeys_descend {change : Nodes → Option Nodes} (h : KeepsKeys change) (steps : List Step) :
    KeepsKeys (descend change steps) := by
  intro nodes changed hnodes hchanged
  cases steps with
  | nil => exact h nodes changed hnodes hchanged
  | cons step steps =>
    rw [descend] at hchanged
    split at hchanged
    · obtain ⟨inner, -, rfl⟩ := Option.map_eq_some_iff.1 hchanged
      exact distinct_set hnodes _ _
    · cases hchanged
    · split at hchanged
      · obtain ⟨inner, -, rfl⟩ := Option.map_eq_some_iff.1 hchanged
        exact distinct_set hnodes _ _
      · cases hchanged
    · split at hchanged
      · obtain ⟨inner, -, rfl⟩ := Option.map_eq_some_iff.1 hchanged
        exact distinct_set hnodes _ _
      · cases hchanged

theorem keepsKeys_addLeaf (key : String) (value : Value) : KeepsKeys (addLeaf key value) := by
  intro nodes changed hnodes hchanged
  unfold addLeaf at hchanged
  split at hchanged
  · cases hchanged
    exact distinct_set hnodes _ _
  · cases hchanged

theorem keepsKeys_addTable (key : String) : KeepsKeys (addTable key) := by
  intro nodes changed hnodes hchanged
  unfold addTable at hchanged
  split at hchanged
  · cases hchanged
    exact distinct_set hnodes _ _
  · cases hchanged
    exact distinct_set hnodes _ _
  · cases hchanged

theorem keepsKeys_addToSeries (key : String) : KeepsKeys (addToSeries key) := by
  intro nodes changed hnodes hchanged
  unfold addToSeries at hchanged
  split at hchanged
  · cases hchanged
    exact distinct_set hnodes _ _
  · cases hchanged
    exact distinct_set hnodes _ _
  · cases hchanged

theorem distinct_define {nodes changed : Nodes} {header path : List String} {value : Value}
    (h : DistinctKeys nodes) (hchanged : define nodes header path value = some changed) :
    DistinctKeys changed := by
  unfold define at hchanged
  split at hchanged
  · cases hchanged
  · exact keepsKeys_descend (keepsKeys_addLeaf _ _) _ nodes changed h hchanged

theorem distinct_openTable {nodes changed : Nodes} {header : List String} (h : DistinctKeys nodes)
    (hchanged : openTable nodes header = some changed) : DistinctKeys changed := by
  unfold openTable at hchanged
  split at hchanged
  · cases hchanged
  · exact keepsKeys_descend (keepsKeys_addTable _) _ nodes changed h hchanged

theorem distinct_openSeries {nodes changed : Nodes} {header : List String} (h : DistinctKeys nodes)
    (hchanged : openSeries nodes header = some changed) : DistinctKeys changed := by
  unfold openSeries at hchanged
  split at hchanged
  · cases hchanged
  · exact keepsKeys_descend (keepsKeys_addToSeries _) _ nodes changed h hchanged

namespace Reader

variable {reader next : Reader}

theorem distinct_complete {value : Value} (h : DistinctKeys reader.nodes)
    (hnext : reader.complete value = some next) : DistinctKeys next.nodes := by
  unfold complete at hnext
  split at hnext
  · obtain ⟨nodes, hnodes, rfl⟩ := Option.map_eq_some_iff.1 hnext
    exact distinct_define h hnodes
  · cases hnext
    exact h
  · obtain ⟨nodes, -, rfl⟩ := Option.map_eq_some_iff.1 hnext
    exact h

theorem distinct_push {frame : Frame} {phase : Phase} (h : DistinctKeys reader.nodes)
    (hnext : reader.push frame phase = some next) : DistinctKeys next.nodes := by
  unfold push at hnext
  split at hnext
  · cases hnext
    exact h
  · cases hnext

theorem distinct_close {c : Char} (h : DistinctKeys reader.nodes)
    (hnext : reader.close c = some next) : DistinctKeys next.nodes := by
  unfold close at hnext
  split at hnext
  · refine distinct_complete ?_ hnext
    exact h
  · refine distinct_complete ?_ hnext
    exact h
  · cases hnext

theorem distinct_atValue {token : Token} (h : DistinctKeys reader.nodes)
    (hnext : reader.atValue token = some next) : DistinctKeys next.nodes := by
  unfold atValue at hnext
  split at hnext
  · cases hnext
    exact h
  · split at hnext
    · cases hnext
      exact h
    · cases hnext
  · split at hnext
    · cases hnext
      exact h
    · cases hnext
  · exact distinct_complete h hnext
  · cases hnext
    exact h
  · exact distinct_push h hnext
  · exact distinct_push h hnext
  · exact distinct_close h hnext
  · cases hnext

theorem distinct_atBehind {token : Token} (h : DistinctKeys reader.nodes)
    (hnext : reader.atBehind token = some next) : DistinctKeys next.nodes := by
  unfold atBehind at hnext
  split at hnext
  · cases hnext
    exact h
  · split at hnext
    · cases hnext
      exact h
    · cases hnext
  · split at hnext
    · cases hnext
      exact h
    · cases hnext
  · split at hnext
    · cases hnext
      exact h
    · cases hnext
      exact h
    · cases hnext
  · exact distinct_close h hnext
  · cases hnext

theorem distinct_atLineEnd {token : Token} (h : DistinctKeys reader.nodes)
    (hnext : reader.atLineEnd token = some next) : DistinctKeys next.nodes := by
  unfold atLineEnd at hnext
  split at hnext
  · cases hnext
    exact h
  · cases hnext
    exact h
  · cases hnext
    exact h
  · cases hnext

theorem distinct_endScalar {letters : List Char} {token : Token} (h : DistinctKeys reader.nodes)
    (hnext : reader.endScalar letters token = some next) : DistinctKeys next.nodes := by
  unfold endScalar at hnext
  split at hnext
  · cases hnext
  · next ended hended =>
    obtain ⟨value, -, hcomplete⟩ := Option.bind_eq_some_iff.1 hended
    have hkept := distinct_complete h hcomplete
    split at hnext
    · exact distinct_atLineEnd hkept hnext
    · exact distinct_atBehind hkept hnext

theorem distinct_endKey {key : Key} (h : DistinctKeys reader.nodes)
    (hnext : reader.endKey key = some next) : DistinctKeys next.nodes := by
  unfold endKey at hnext
  split at hnext
  · cases hnext
  · split at hnext
    · cases hnext
      exact h
    · cases hnext
      exact h
    · cases hnext

theorem distinct_endHeader {isSeries : Bool} {header : List String} (h : DistinctKeys reader.nodes)
    (hnext : reader.endHeader isSeries header = some next) : DistinctKeys next.nodes := by
  unfold endHeader at hnext
  obtain ⟨nodes, hnodes, rfl⟩ := Option.map_eq_some_iff.1 hnext
  split at hnodes
  · exact distinct_openSeries h hnodes
  · exact distinct_openTable h hnodes

/-- A phase that is entered leaves what is defined as it is. -/
theorem distinct_enter {key? : Option Key} {phase : Key → Phase} (h : DistinctKeys reader.nodes)
    (hnext : key?.map (fun key => reader.enter (phase key)) = some next) : DistinctKeys next.nodes := by
  obtain ⟨key, -, rfl⟩ := Option.map_eq_some_iff.1 hnext
  exact h

/-- **One word** keeps the keys of the document apart. -/
theorem distinct_step {token : Token} (h : DistinctKeys reader.nodes)
    (hnext : reader.step token = some next) : DistinctKeys next.nodes := by
  unfold step at hnext
  -- a case for each phase, in the order of `step`; only the ends of headers and of values define anything
  split at hnext
  · split at hnext
    · cases hnext; exact h
    · cases hnext; exact h
    · cases hnext; exact h
    · cases hnext; exact h
    · exact distinct_enter h hnext
  · split at hnext
    · cases hnext; exact h
    · exact distinct_enter h hnext
  · split at hnext
    · split at hnext
      · cases hnext
      · split at hnext
        · cases hnext; exact h
        · exact distinct_endHeader h hnext
    · exact distinct_enter h hnext
  · split at hnext
    · exact distinct_endHeader h hnext
    · cases hnext
  · split at hnext
    · exact distinct_endKey h hnext
    · exact distinct_enter h hnext
  · exact distinct_atValue h hnext
  · split at hnext
    · cases hnext; exact h
    · cases hnext; exact h
    · split at hnext
      · cases hnext; exact h
      · exact distinct_endScalar h hnext
    · exact distinct_endScalar h hnext
  · split at hnext
    · split at hnext
      · cases hnext; exact h
      · cases hnext
    · exact distinct_endScalar h hnext
  · exact distinct_atBehind h hnext
  · split at hnext
    · cases hnext; exact h
    · split at hnext
      · exact distinct_close h hnext
      · cases hnext
    · exact distinct_enter h hnext
  · split at hnext
    · exact distinct_endKey h hnext
    · exact distinct_enter h hnext
  · exact distinct_atLineEnd h hnext

theorem distinct_steps {tokens : List Token} (h : DistinctKeys reader.nodes)
    (hnext : tokens.foldlM step reader = some next) : DistinctKeys next.nodes := by
  induction tokens generalizing reader with
  | nil =>
    cases hnext
    exact h
  | cons token tokens ih =>
    rw [List.foldlM_cons] at hnext
    obtain ⟨middle, hmiddle, hrest⟩ := Option.bind_eq_some_iff.1 hnext
    exact ih (distinct_step h hmiddle) hrest

end Reader

theorem keys_toEntries (nodes : Nodes) : (toEntries nodes).map Prod.fst = nodes.map Prod.fst := by
  induction nodes with
  | nil => rw [toEntries]; rfl
  | cons entry nodes ih =>
    obtain ⟨key, node⟩ := entry
    rw [toEntries, List.map_cons, ih]
    rfl

/-- **No key of a document stands twice.** -/
theorem distinct_read? {text : List Char} {entries : Value.Entries} (h : read? text = some entries) :
    DistinctKeys entries := by
  unfold read? at h
  dsimp only at h
  split at h
  · cases h
  · split at h
    · cases h
    · next reader hreader =>
      split at h
      · cases h
        have hnodes : DistinctKeys reader.nodes := Reader.distinct_steps distinctKeys_nil hreader
        rwa [DistinctKeys, keys_toEntries]
      · cases h

end Toml

/-! ## Sources of settings -/

namespace Settings

theorem Environment.distinct_addTo {below entries : Value.Entries} {name text : String}
    (h : DistinctKeys below) (hadd : addTo below name text = .ok entries) : DistinctKeys entries := by
  unfold addTo at hadd
  split at hadd
  · cases hadd
    exact h
  · cases hadd
    exact h
  · split at hadd
    · cases hadd
    · cases hadd
      exact Value.distinct_put h _ _

/-- **No key stands twice** among what the variables set. -/
theorem Environment.distinct_toEntries {environment : Environment} {entries : Value.Entries}
    (h : environment.toEntries = .ok entries) : DistinctKeys entries := by
  unfold toEntries at h
  -- induction on the variables, for any table that has been set so far
  have hbelow : DistinctKeys ([] : Value.Entries) := distinctKeys_nil
  generalize ([] : Value.Entries) = below at h hbelow
  induction environment generalizing below with
  | nil =>
    cases h
    exact hbelow
  | cons entry environment ih =>
    obtain ⟨name, text⟩ := entry
    rw [List.foldlM_cons] at h
    cases hadd : addTo below name text with
    | error cut =>
      simp only [hadd] at h
      cases h
    | ok added =>
      simp only [hadd] at h
      exact ih added h (distinct_addTo hbelow hadd)

namespace File

theorem distinct_ofContents {source : Source} {entries : Value.Entries}
    (h : ofContents source = .ok entries) : DistinctKeys entries := by
  unfold ofContents at h
  split at h
  · cases h
  · split at h
    · cases h
    · split at h
      · cases h
      · next hread =>
        cases h
        exact Toml.distinct_read? hread

theorem distinct_build {tree : FileTree} {fuel : Nat} {above : List String} {source : Source}
    {entries : Value.Entries} (h : build tree fuel above source = .ok entries) : DistinctKeys entries := by
  -- the chain of files goes on as long as the fuel; each file lies over the one that it is built on
  induction fuel generalizing above source entries with
  | zero =>
    rw [build] at h
    cases h
  | succ fuel ih =>
    rw [build] at h
    split at h
    · cases h
    · split at h
      · cases h
      · next own hown =>
        split at h
        · cases h
        · cases h
          exact distinct_ofContents hown
        · split at h
          · cases h
          · split at h
            · cases h
            · next below hbelow =>
              cases h
              exact Value.distinct_overlayEntries (ih hbelow) own

theorem distinct_load? {tree : FileTree} {path : String} {entries : Value.Entries}
    (h : load? tree path = .ok (some entries)) : DistinctKeys entries := by
  unfold load? at h
  split at h
  · cases h
  · cases h
  · split at h
    · cases h
    · next hbuild =>
      cases h
      exact distinct_build hbuild

theorem distinct_firstUsable {tree : FileTree} {paths : List String} {entries : Value.Entries}
    (h : (firstUsable tree paths).entries = some entries) : DistinctKeys entries := by
  induction paths with
  | nil => cases h
  | cons path paths ih =>
    rw [firstUsable] at h
    split at h
    · next hload =>
      cases h
      exact distinct_load? hload
    · exact ih h
    · exact ih h

theorem distinct_optional {tree : FileTree} {paths : List String} {entries : Value.Entries}
    (h : (optional tree paths).entries = some entries) : DistinctKeys entries := by
  unfold optional at h
  dsimp only at h
  split at h
  · exact distinct_firstUsable h
  · exact distinct_firstUsable h

/-- **No key stands twice** in the table of the file that is used. -/
theorem distinct_discover {tree : FileTree} {environment : Environment} {path : Option String}
    {entries : Value.Entries} (h : (discover tree environment path).entries = some entries) :
    DistinctKeys entries := by
  unfold discover at h
  split at h
  · exact distinct_optional h
  · next asked =>
    split at h
    · next own hrequired =>
      cases h
      unfold required at hrequired
      split at hrequired
      · next hload =>
        cases hrequired
        exact distinct_load? hload
      · cases hrequired
      · cases hrequired
    · exact distinct_optional h

end File

end Settings

end DeviceBroker
