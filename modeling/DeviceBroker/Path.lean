/-!
# `Path` — names of files

A path is a text whose parts are separated by slashes. Parts that are empty or a single point say
nothing, except a point at the very beginning.

## Contents

* `Path.parts` — the parts of a path.
* `Path.parent?` — the path without its last part.
* `Path.join` — a path taken from a directory.
* `Path.extension?` — what follows the last point of the last part.
-/

namespace DeviceBroker.Path

/-- The character between the parts of a path. -/
def separator : Char := '/'

/-- The parts of a path, empty ones included. -/
def parts (path : List Char) : List (List Char) :=
  path.splitOnP (· == separator)

/-- Whether a path starts at the root. -/
def isAbsolute (path : List Char) : Bool :=
  path.head? == some separator

/-- Whether a part says nothing. -/
def isIdle (part : List Char) : Bool :=
  part == [] || part == ['.']

/-! ## The last part -/

/-- The beginning of a path that is not one of its removable parts: the root, a leading point, or
    nothing. -/
def lead (path : List Char) : List Char :=
  match path with
  | '/' :: _ => ['/']
  | ['.'] => ['.']
  | '.' :: '/' :: _ => ['.']
  | _ => []

/-- Splits the last part off a text that is written backwards: the part, forwards, and what stood before
    its separator. -/
def splitLast (backwards : List Char) : List Char × List Char :=
  ((backwards.takeWhile (· ≠ separator)).reverse, (backwards.dropWhile (· ≠ separator)).drop 1)

theorem length_splitLast_lt {backwards : List Char} (h : backwards ≠ []) :
    (splitLast backwards).2.length < backwards.length := by
  have hs := (List.dropWhile_suffix (l := backwards) (· ≠ separator)).length_le
  have hp : 0 < backwards.length := List.length_pos_iff.2 h
  simp only [splitLast, List.length_drop]
  omega

/-- Drops parts that say nothing from the end of a text that is written backwards. -/
def dropIdle (backwards : List Char) : List Char :=
  if _h : backwards = [] then []
  else if isIdle (splitLast backwards).1 then dropIdle (splitLast backwards).2
  else backwards
termination_by backwards.length
decreasing_by exact length_splitLast_lt _h

/-- The last part of a path that says something, and the path before it. -/
def splitParent? (path : List Char) : Option (List Char × List Char) :=
  let lead := lead path
  match dropIdle (path.drop lead.length).reverse with
  | [] => if lead = ['.'] then some (['.'], []) else none
  | body =>
    let (last, before) := splitLast body
    some (last, lead ++ (dropIdle before).reverse)

theorem length_dropIdle_le (backwards : List Char) :
    (dropIdle backwards).length ≤ backwards.length := by
  fun_induction dropIdle backwards with
  | case1 => simp
  | case2 backwards h _ ih => exact Nat.le_of_lt (Nat.lt_of_le_of_lt ih (length_splitLast_lt h))
  | case3 => exact Nat.le_refl _

theorem length_lead_le (path : List Char) : (lead path).length ≤ path.length := by
  unfold lead
  split <;> simp

/-- A parent is shorter than the path it belongs to. -/
theorem length_parent_lt {path last parent : List Char}
    (h : splitParent? path = some (last, parent)) : parent.length < path.length := by
  have hl := length_lead_le path
  have hb := length_dropIdle_le (path.drop (lead path).length).reverse
  simp only [List.length_reverse, List.length_drop] at hb
  simp only [splitParent?] at h
  split at h
  · split at h
    · next hlead =>
      cases h
      rw [hlead] at hl
      exact hl
    · cases h
  · next hne =>
    simp only [Option.some.injEq, Prod.mk.injEq] at h
    have hs := length_splitLast_lt hne
    have hd := length_dropIdle_le (splitLast (dropIdle (path.drop (lead path).length).reverse)).2
    rw [← h.2]
    simp only [List.length_append, List.length_reverse]
    omega

/-- **The parent of a path**: the path without its last part. The root and the empty path have none. -/
def parent? (path : String) : Option String :=
  (splitParent? path.toList).map fun (_, parent) => String.ofList parent

/-- The name of the file that a path leads to. -/
def fileName? (path : String) : Option String :=
  match splitParent? path.toList with
  | some (last, _) => if last = ['.'] ∨ last = ['.', '.'] then none else some (String.ofList last)
  | none => none

/-- What follows the last point of the file's name, if something stands before that point. -/
def extension? (path : String) : Option String :=
  match fileName? path with
  | none => none
  | some name =>
    let backwards := name.toList.reverse
    let ending := backwards.takeWhile (· ≠ '.')
    match backwards.dropWhile (· ≠ '.') with
    | [] => none
    | [_] => none
    | _ => some (String.ofList ending.reverse)

/-- A path as seen from a directory. -/
def join (directory path : String) : String :=
  if isAbsolute path.toList then path
  else if directory.isEmpty then path
  else if directory.toList.getLast? = some separator then directory ++ path
  else directory ++ "/" ++ path

end DeviceBroker.Path
