import DeviceBroker.Value

/-!
# `Toml.Document` — tables that are defined piece by piece

A document defines its tables in pieces: a header opens a table, a point in a key opens a table inside
the present one, and a doubled header adds a table to a series. Every value and every table is defined
once. A table is *implied* if only a longer header has named it; its own header may still follow. A
table that a key with points has opened can only be added to by such keys, and a bracketed table not at
all.

## Contents

* `Toml.Node`, `Toml.Node.toValue` — tables under construction.
* `Toml.Step`, `Toml.descend` — the way to the table where something is defined.
* `Toml.define`, `Toml.openTable`, `Toml.openSeries` — values and headers.
-/

namespace DeviceBroker.Toml

/-- How a table came about. -/
inductive Origin where
  /-- A header is its name. -/
  | header
  /-- Its name is only part of longer headers. -/
  | implied
  /-- A key with points opened it. -/
  | point
  deriving Repr, DecidableEq

/-- Something that is defined. -/
inductive Node where
  | leaf (value : Value)
  | table (origin : Origin) (entries : List (String × Node))
  /-- A series of tables, each with its entries. -/
  | series (tables : List (List (String × Node)))

/-- What is defined in a table. -/
abbrev Nodes := List (String × Node)

mutual

/-- The value of what is defined. -/
def Node.toValue : Node → Value
  | .leaf value => value
  | .table _ entries => .table (toEntries entries)
  | .series tables => .list (toTables tables)

/-- The entries of a table. -/
def toEntries : List (String × Node) → Value.Entries
  | [] => []
  | (key, node) :: rest => (key, node.toValue) :: toEntries rest

/-- The tables of a series. -/
def toTables : List (List (String × Node)) → List Value
  | [] => []
  | entries :: rest => .table (toEntries entries) :: toTables rest

end

/-- What a key stands for. -/
def find? (nodes : Nodes) (key : String) : Option Node :=
  (nodes.find? (·.1 == key)).map (·.2)

/-- Gives a key a new meaning. -/
def set (nodes : Nodes) (key : String) (node : Node) : Nodes :=
  match nodes with
  | [] => [(key, node)]
  | (other, old) :: rest =>
    if other == key then (key, node) :: rest else (other, old) :: set rest key node

/-! ## The way to a table -/

/-- One step from a table into another. -/
inductive Step where
  /-- A name in a header. -/
  | header (key : String)
  /-- A name before a point in a key. -/
  | point (key : String)
  deriving Repr, DecidableEq

/-- The name of a step. -/
def Step.key : Step → String
  | header key => key
  | point key => key

/-- What a table is that a step had to make. -/
def Step.origin : Step → Origin
  | header _ => .implied
  | point _ => .point

/-- Whether a step may enter a table; `isLast` says that something is to be defined right there. -/
def Step.mayEnter (step : Step) (origin : Origin) (isLast : Bool) : Bool :=
  match step with
  | header _ => true
  | point _ => if isLast then origin == .point else origin != .header

/-- Changes the last table of a series. -/
def changeLast (tables : List Nodes) (change : Nodes → Option Nodes) : Option (List Nodes) :=
  match tables.getLast? with
  | none => none
  | some last => (change last).map fun last => tables.dropLast ++ [last]

/-- **Changes the table at the end of some steps**, making those that are missing. -/
def descend (change : Nodes → Option Nodes) : List Step → Nodes → Option Nodes
  | [], nodes => change nodes
  | step :: steps, nodes =>
    match find? nodes step.key with
    | none =>
      (descend change steps []).map fun inner => set nodes step.key (.table step.origin inner)
    | some (.leaf _) => none
    | some (.table origin inner) =>
      if step.mayEnter origin steps.isEmpty then
        (descend change steps inner).map fun inner => set nodes step.key (.table origin inner)
      else none
    | some (.series tables) =>
      if step.mayEnter .implied steps.isEmpty then
        (changeLast tables (descend change steps)).map fun tables =>
          set nodes step.key (.series tables)
      else none

/-! ## Definitions -/

/-- Adds a value under a key that is new. -/
def addLeaf (key : String) (value : Value) (nodes : Nodes) : Option Nodes :=
  match find? nodes key with
  | none => some (set nodes key (.leaf value))
  | some _ => none

/-- Opens a table by its header. -/
def addTable (key : String) (nodes : Nodes) : Option Nodes :=
  match find? nodes key with
  | none => some (set nodes key (.table .header []))
  | some (.table .implied inner) => some (set nodes key (.table .header inner))
  | some _ => none

/-- Adds a table to a series. -/
def addToSeries (key : String) (nodes : Nodes) : Option Nodes :=
  match find? nodes key with
  | none => some (set nodes key (.series [[]]))
  | some (.series tables) => some (set nodes key (.series (tables ++ [[]])))
  | some _ => none

/-- **Defines a value** in the table of a header, under a key in parts. -/
def define (nodes : Nodes) (header path : List String) (value : Value) : Option Nodes :=
  match path.getLast? with
  | none => none
  | some key =>
    descend (addLeaf key value) (header.map .header ++ path.dropLast.map .point) nodes

/-- **Opens the table** of a header. -/
def openTable (nodes : Nodes) (header : List String) : Option Nodes :=
  match header.getLast? with
  | none => none
  | some key => descend (addTable key) (header.dropLast.map .header) nodes

/-- **Adds a table to the series** of a doubled header. -/
def openSeries (nodes : Nodes) (header : List String) : Option Nodes :=
  match header.getLast? with
  | none => none
  | some key => descend (addToSeries key) (header.dropLast.map .header) nodes

end DeviceBroker.Toml
