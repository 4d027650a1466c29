/-
Placard/Toml/Tree.lean

The tables of a TOML text while it is being read.

A key may be given once.  A table may be opened once by a header, also if headers of inner
tables came before, but not if dotted keys made it.  Dotted keys put values only into
tables that dotted keys made; on the way there they may pass through a table that came
about by the header of an inner one, and through the last of several rows.  Arrays and
tables in brackets are values, which nothing can be added to.
-/
import Placard.Document.Value

namespace Placard.Toml

open Document

/-- What brought a table about. -/
inductive Origin where
  /-- a header of its own -/
  | header
  /-- the header of an inner table -/
  | inner
  /-- a dotted key -/
  | dotted
deriving DecidableEq

/-- What stands under a key. -/
inductive Node where
  | leaf (v : Value)
  | table (origin : Origin) (entries : List (String × Node))
  /-- the tables that headers in double brackets have opened -/
  | rows (tables : List (List (String × Node)))

/-- The content of a table. -/
abbrev Nodes := List (String × Node)

/-- A change to the content of a table, which may be refused. -/
abbrev Change := Nodes → Option Nodes

/-! ### Looking up and changing entries -/

/-- Changes what stands under `name`; `f` is given nothing if there is nothing. -/
def Nodes.alter (name : String) (f : Option Node → Option Node) : Change
  | [] => do return [(name, ← f none)]
  | (n, node) :: rest =>
    if n = name then do return (n, ← f (some node)) :: rest
    else do return (n, node) :: (← Nodes.alter name f rest)

/-- Applies a change to the last table of a list. -/
def changeLast (f : Change) : List Nodes → Option (List Nodes)
  | [] => none
  | [t] => do return [← f t]
  | t :: rest => do return t :: (← changeLast f rest)

/-- Applies a change to the table that a header's path leads to. Tables on the way are made
where they are missing; of several rows the last one counts. -/
def within (f : Change) : List String → Change
  | [] => f
  | name :: path => Nodes.alter name fun
    | none => do return .table .inner (← within f path [])
    | some (.table origin entries) => do return .table origin (← within f path entries)
    | some (.rows tables) => do return .rows (← changeLast (within f path) tables)
    | some (.leaf _) => none

/-! ### Keys with values -/

/-- Puts a value under a key that is not in use. -/
def setNew (name : String) (v : Value) : Change :=
  Nodes.alter name fun
    | none => some (.leaf v)
    | some _ => none

/-- Puts a value under a key, or under the last of several dotted keys. -/
def set (v : Value) : List String → Change
  | [] => fun _ => none
  | [name] => setNew name v
  | name :: path => Nodes.alter name fun
    | none => do return .table .dotted (← set v path [])
    | some (.table .dotted entries) => do return .table .dotted (← set v path entries)
    | some (.table .inner entries) =>
      if path.length = 1 then none else do return .table .inner (← set v path entries)
    | some (.rows tables) =>
      if path.length = 1 then none else do return .rows (← changeLast (set v path) tables)
    | some _ => none

/-! ### Headers -/

/-- Opens the table called `name`. -/
def openTable (name : String) : Change :=
  Nodes.alter name fun
    | none => some (.table .header [])
    | some (.table .inner entries) => some (.table .header entries)
    | some _ => none

/-- Adds an empty table to the rows called `name`. -/
def openRow (name : String) : Change :=
  Nodes.alter name fun
    | none => some (.rows [[]])
    | some (.rows tables) => some (.rows (tables ++ [[]]))
    | some _ => none

/-! ### The finished document -/

mutual

/-- The value that a node has become, with sorted keys. -/
def Node.value : Node → Value
  | .leaf v => v
  | .table _ entries => .table (Entries.sort (entryValues entries))
  | .rows tables => .list (rowValues tables)

def entryValues : Nodes → Entries
  | [] => []
  | e :: rest => entryValue e :: entryValues rest

def entryValue : String × Node → String × Value
  | (name, node) => (name, node.value)

def rowValues : List Nodes → List Value
  | [] => []
  | entries :: rest => .table (Entries.sort (entryValues entries)) :: rowValues rest

end

end Placard.Toml
