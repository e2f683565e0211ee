import BulkProvision.Config.Value

/-!
# Building TOML tables

A TOML document is a list of statements: headers that open a table or a new row of an array of
tables, and assignments to dotted keys of the table that is open.  `Tree.build` carries them out.
A key is given a value once, a table is opened once, and what was written as a value (inline
tables and arrays included) is never added to.
-/

namespace BulkProvision

namespace Toml

/-- How a table came to be. -/
inductive Origin where
  /-- A header opened it. -/
  | header
  /-- A header opened a table below it. -/
  | implied
  /-- Dotted keys made it. -/
  | dotted
  deriving DecidableEq

/-- What a key stands for while a document is read. -/
inductive Node where
  | value (v : Config.Value)
  | table (origin : Origin) (entries : List (String × Node))
  /-- An array of tables, the last row first. -/
  | rows (rows : List (List (String × Node)))

/-- The keys of a table. -/
abbrev Entries := List (String × Node)

/-- One statement of a document. -/
inductive Statement where
  /-- Opens a table. -/
  | openTable (path : List String)
  /-- Opens a new row of an array of tables. -/
  | openRow (path : List String)
  /-- Gives a dotted key of the open table a value. -/
  | assign (path : List String) (v : Config.Value)

namespace Entries

/-- What a key stands for. -/
def find? (key : String) : Entries → Option Node
  | [] => none
  | (k, n) :: rest => if k = key then some n else find? key rest

/-- Gives a key its meaning, in place of any earlier one. -/
def set (key : String) (node : Node) : Entries → Entries
  | [] => [(key, node)]
  | (k, n) :: rest => if k = key then (k, node) :: rest else (k, n) :: set key node rest

end Entries

/-- Changes the entries a node leads on to: those of a table, or of the last row.  A table that a
header opened is not changed through dotted keys. -/
def Node.descend (dotted : Bool) (change : Entries → Option Entries) : Node → Option Node
  | .value _ => none
  | .table origin entries =>
    if dotted && origin == .header then none else (change entries).map (.table origin)
  | .rows (last :: earlier) => (change last).map fun changed => .rows (changed :: earlier)
  | .rows [] => none

/-- Changes the entries at the end of a path; tables that are missing on the way are made. -/
def changeAt (dotted : Bool) (change : Entries → Option Entries) :
    List String → Entries → Option Entries
  | [], entries => change entries
  | key :: path, entries =>
    let node := (Entries.find? key entries).getD
      (.table (if dotted then .dotted else .implied) [])
    (node.descend dotted (changeAt dotted change path)).map fun node =>
      Entries.set key node entries

/-- Whether the table at the end of a dotted path was made by dotted keys, where it exists. -/
def madeByDots : List String → Entries → Bool
  | [], _ => true
  | [key], entries =>
    match Entries.find? key entries with
    | none => true
    | some (.table .dotted _) => true
    | some _ => false
  | key :: path, entries =>
    match Entries.find? key entries with
    | some (.table _ inner) => madeByDots path inner
    | some (.rows (last :: _)) => madeByDots path last
    | _ => true

/-- Opens a table: one that is new, or that was implied so far. -/
def openTable (key : String) (entries : Entries) : Option Entries :=
  match Entries.find? key entries with
  | none => some (Entries.set key (.table .header []) entries)
  | some (.table .implied inner) => some (Entries.set key (.table .header inner) entries)
  | some _ => none

/-- Opens a new row. -/
def openRow (key : String) (entries : Entries) : Option Entries :=
  match Entries.find? key entries with
  | none => some (Entries.set key (.rows [[]]) entries)
  | some (.rows earlier) => some (Entries.set key (.rows ([] :: earlier)) entries)
  | some _ => none

/-- Gives a key a value, unless it stands for something already. -/
def assignKey (key : String) (v : Config.Value) (entries : Entries) : Option Entries :=
  match Entries.find? key entries with
  | none => some (Entries.set key (.value v) entries)
  | some _ => none

/-- Gives a dotted key a value.  The table that holds it must be the open one or made by dotted
keys. -/
def assign (path : List String) (v : Config.Value) (entries : Entries) : Option Entries :=
  match path.getLast? with
  | none => none
  | some key =>
    if madeByDots path.dropLast entries then changeAt true (assignKey key v) path.dropLast entries
    else none

/-- Carries out an action at the last key of a path. -/
def atLast (action : String → Entries → Option Entries) (path : List String)
    (entries : Entries) : Option Entries :=
  match path.getLast? with
  | none => none
  | some key => changeAt false (action key) path.dropLast entries

/-- Carries out statements, given the path of the open table. -/
def build (opened : List String) (entries : Entries) : List Statement → Option Entries
  | [] => some entries
  | .openTable path :: rest => do build path (← atLast openTable path entries) rest
  | .openRow path :: rest => do build path (← atLast openRow path entries) rest
  | .assign path v :: rest => do build opened (← changeAt false (assign path v) opened entries) rest

mutual

/-- A node as configuration. -/
def Node.toValue : Node → Config.Value
  | .value v => v
  | .table _ entries => .table (entriesToValues entries)
  | .rows written => .list (rowsToValues written).reverse

/-- Entries as configuration. -/
def entriesToValues : List (String × Node) → List (String × Config.Value)
  | [] => []
  | (key, node) :: rest => (key, node.toValue) :: entriesToValues rest

/-- Rows as configuration, in the order given. -/
def rowsToValues : List (List (String × Node)) → List Config.Value
  | [] => []
  | row :: rest => .table (entriesToValues row) :: rowsToValues rest

end

/-- The configuration that statements describe; nothing when they contradict one another. -/
def valueOf? (statements : List Statement) : Option Config.Value :=
  (build [] [] statements).map fun entries => .table (entriesToValues entries)

end Toml

end BulkProvision
