/-
Placard/Toml.lean

Reading TOML.

A text is a row of lines, each of which opens a table or gives a key its value.  Values
are read with a bound on how deep brackets may nest.  `Toml.read?` answers with a table
whose keys are in order all the way down, or refuses the text.
-/
import Placard.Toml.Scalar
import Placard.Toml.Tree

namespace Placard.Toml

open Document

/-! ### Values -/

/-- The elements of an array, up to and with the closing bracket; `fuel` bounds their
number. -/
def elements (value : Reader Value) : Nat → Reader (List Value)
  | 0, _ => none
  | fuel + 1, s =>
    match skipSpace false s with
    | ']' :: rest => some ([], rest)
    | s => do
      let (v, rest) ← value s
      match skipSpace false rest with
      | ',' :: rest => do
        let (vs, rest) ← elements value fuel rest
        return (v :: vs, rest)
      | ']' :: rest => return ([v], rest)
      | _ => none

/-- The entries of a table in brackets, up to and with the closing bracket, added to those
that are there; `fuel` bounds their number. A line may end on either side of the equals
sign. -/
def entries (value : Reader Value) : Nat → Nodes → Reader Nodes
  | 0, _, _ => none
  | fuel + 1, nodes, s =>
    match skipSpace false s with
    | '\x7d' :: rest => some (nodes, rest)
    | s => do
      let (path, rest) ← keys s
      let '=' :: rest := skipSpace false rest | none
      let (v, rest) ← value (skipSpace false rest)
      let nodes ← set v path nodes
      match skipSpace false rest with
      | ',' :: rest => entries value fuel nodes rest
      | '\x7d' :: rest => return (nodes, rest)
      | _ => none

/-- A value with at most `depth` brackets around its innermost part. -/
def value (depth : Nat) : Reader Value := fun s =>
  match s with
  | '[' :: rest =>
    match depth with
    | 0 => none
    | depth + 1 => do
      let (vs, rest) ← elements (value depth) s.length rest
      return (.list vs, rest)
  | '\x7b' :: rest =>
    match depth with
    | 0 => none
    | depth + 1 => do
      let (nodes, rest) ← entries (value depth) s.length [] rest
      return (.table (Entries.sort (entryValues nodes)), rest)
  | s =>
    match Quote.ofText? s with
    | some q => do
      let (text, rest) ← anyString q s
      return (.text text, rest)
    | none => scalar s

/-! ### Lines -/

/-- The document so far, and the path of the table that was opened last. -/
structure Progress where
  root : Nodes := []
  here : List String := []

/-- Takes the path after an opening bracket, and the closing bracket. -/
def header (close : List Char) : Reader (List String) := fun s => do
  let (path, rest) ← keys s
  if rest.take close.length = close then return (path, rest.drop close.length)
  none

/-- Reads one line that is not empty. -/
def line (p : Progress) : Reader Progress
  | '[' :: '[' :: rest => do
    let (path, rest) ← header [']', ']'] rest
    let root ← within (openRow (path.getLastD "")) path.dropLast p.root
    return ({ root, here := path }, rest)
  | '[' :: rest => do
    let (path, rest) ← header [']'] rest
    let root ← within (openTable (path.getLastD "")) path.dropLast p.root
    return ({ root, here := path }, rest)
  | s => do
    let (path, rest) ← keys s
    let '=' :: rest := rest | none
    let (v, rest) ← value depthLimit (skipBlanks rest)
    let root ← within (set v path) p.here p.root
    return ({ p with root }, rest)

/-- Reads lines to the end of the text; `fuel` bounds their number. -/
def lines : Nat → Progress → List Char → Option Progress
  | 0, _, _ => none
  | fuel + 1, p, s =>
    match skipSpace false s with
    | [] => some p
    | s => do
      let (p, rest) ← line p s
      lines fuel p (← endLine? rest)

/-- Passes over a byte order mark at the start. -/
def skipMark : List Char → List Char
  | '\uFEFF' :: rest => rest
  | s => s

/-- The document that a text denotes, as a table. -/
def read? (text : String) : Option Value := do
  let s := skipMark text.toList
  let p ← lines (s.length + 1) {} s
  return .table (Entries.sort (entryValues p.root))

/-- The integers of a document proper are signed and have 64 bits. Longer ones are read all
the same, and a document with them passes where nobody needs them. -/
def isProper (v : Value) : Bool :=
  v.integersWithin (-0x8000000000000000) 0x8000000000000000

end Placard.Toml
