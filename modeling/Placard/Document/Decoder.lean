/-
Placard/Document/Decoder.lean

Reading typed values off structured ones.

A decoder answers with the value or with the first mismatch.  Records have two forms: a
table, where names that the record does not know are passed over, and a list of the
fields in order.  Fields that may be left out have a default in both forms.

A `Record` is built from its fields, `map` and `both`.  Of several wrong fields of a table
the one whose name comes first in the table's order is reported, and a missing field only
when no field is wrong; a list is read from left to right.
-/
import Placard.Document.Mismatch
import Placard.Pixel

namespace Placard.Document

/-- Where a value comes from.  It is held when it was put aside before its reader was
known, as happens to the content of a tagged variant. -/
structure Source where
  format : Format
  held : Bool := false
deriving DecidableEq, Repr

namespace Source

def json : Source := ⟨.json, false⟩

def toml : Source := ⟨.toml, false⟩

/-- The same source, holding the value. -/
def hold (s : Source) : Source := { s with held := true }

/-- Whether a list of `total` elements of which `used` were read is refused, and why. -/
def surplus? (s : Source) (used total : Nat) : Option Mismatch :=
  if used < total then
    if s.held then
      some (.wrongLength total
        (toString used ++ (if used = 1 then " element" else " elements") ++ " in sequence"))
    else match s.format with
      | .json => some (.wrongLength total "fewer elements in array")
      | .toml => none
  else none

end Source

/-- A reader of values of type `α`. -/
abbrev Decoder (α : Type) := Source → Value → Except Mismatch α

/-- Refuses `v`, which should have been `wanted`. -/
def refuse {α : Type} (v : Value) (wanted : String) : Except Mismatch α :=
  .error (.wrongType v.found wanted)

namespace Decoder

/-! ### Simple values -/

def text : Decoder String := fun _ v =>
  match v with
  | .text s => .ok s
  | v => refuse v "a string"

def path : Decoder String := fun _ v =>
  match v with
  | .text s => .ok s
  | v => refuse v "path string"

def pixel : Decoder Pixel := fun _ v =>
  match v with
  | .integer n =>
    match Pixel.ofInt? n with
    | some p => .ok p
    | none => .error (.wrongValue (.integer n) "i32")
  | v => refuse v "i32"

/-- No integer in the value has more than 64 bits, be it signed or unsigned. -/
def isNarrow (v : Value) : Bool :=
  v.integersWithin (-0x8000000000000000) 0x10000000000000000

def number : Decoder Float := fun _ v =>
  match v with
  | .number x => .ok x
  | .integer n => if isNarrow (.integer n) then .ok (Float.ofInt n) else refuse v "f64"
  | v => refuse v "f64"

/-- Reads a value that is held first, which takes integers of at most 64 bits. -/
def held {α : Type} (d : Decoder α) : Decoder α := fun s v =>
  if isNarrow v then d s.hold v else refuse v "any value"

/-! ### Lists and options -/

def list {α : Type} (item : Decoder α) : Decoder (List α) := fun s v =>
  match v with
  | .list items => items.mapM (item s)
  | v => refuse v "a sequence"

/-- Reads `null` as nothing. -/
def optional {α : Type} (d : Decoder α) : Decoder (Option α) := fun s v =>
  match v with
  | .null => .ok none
  | v => (d s v).map some

/-! ### Variants -/

/-- The content of a variant that has none: `null`, or in a held value an empty table. -/
def noContent (s : Source) : Value → Except Mismatch Unit
  | .null => .ok ()
  | .table [] => if s.held then .ok () else refuse (.table []) "unit"
  | v => refuse v "unit"

/-- A variant is a name, or a table with a single entry whose name is the variant's and
whose value is its content; `read` is given both. -/
def variant {α : Type} (read : String → Option Value → Except Mismatch α) :
    Value → Except Mismatch α
  | .text name => read name none
  | .table [(name, content)] => read name (some content)
  | .table entries => .error (.wrongValue (Value.table entries).found "map with a single key")
  | v => refuse v "string or map"

/-- One of several variants without content. -/
def choice {α : Type} (names : List (String × α)) : Decoder α := fun s =>
  variant fun name content =>
    match names.lookup name with
    | none => .error (.unknownVariant name (names.map (·.1)))
    | some a => do
      match content with
      | none => pure ()
      | some v => noContent s v
      return a

end Decoder

/-! ### Records -/

/-- The wrong fields of a table, each with its name, and the missing ones in order. -/
structure Defects where
  wrong : List (String × Mismatch)
  missing : List String

/-- The defect that is reported. -/
def Defects.first (d : Defects) : Mismatch :=
  match d.wrong with
  | e :: rest => (rest.foldl (fun least e => if e.1 < least.1 then e else least) e).2
  | [] => .missingField (d.missing.headD "")

/-- What stops the reading of a list of fields. -/
inductive ListDefect where
  | wrong (e : Mismatch)
  /-- the list ends after `used` elements -/
  | short (used : Nat)

/-- A reader of the fields that make up an `α`. -/
structure Record (α : Type) where
  /-- how many fields there are -/
  size : Nat
  ofTable : Source → Entries → Except Defects α
  /-- Reads from the front of a list of which some elements have been used already. -/
  ofList : Source → Nat → List Value → Except ListDefect (α × Nat × List Value)

namespace Record

/-- A field that has to be there. -/
def field {α : Type} (name : String) (d : Decoder α) : Record α where
  size := 1
  ofTable s entries :=
    match entries.lookup name with
    | none => .error ⟨[], [name]⟩
    | some v => (d s v).mapError fun e => ⟨[(name, e)], []⟩
  ofList s used
    | [] => .error (.short used)
    | v :: rest => do
      let a ← (d s v).mapError .wrong
      return (a, used + 1, rest)

/-- A field that is `default` when left out. -/
def fieldOr {α : Type} (name : String) (d : Decoder α) (default : α) : Record α where
  size := 1
  ofTable s entries :=
    match entries.lookup name with
    | none => .ok default
    | some v => (d s v).mapError fun e => ⟨[(name, e)], []⟩
  ofList s used
    | [] => .ok (default, used, [])
    | v :: rest => do
      let a ← (d s v).mapError .wrong
      return (a, used + 1, rest)

/-- A field that may be left out. -/
def fieldIf {α : Type} (name : String) (d : Decoder α) : Record (Option α) :=
  fieldOr name (Decoder.optional d) none

/-- The fields of both records, those of the first one in front. -/
def both {α β : Type} (a : Record α) (b : Record β) : Record (α × β) where
  size := a.size + b.size
  ofTable s entries :=
    match a.ofTable s entries, b.ofTable s entries with
    | .ok x, .ok y => .ok (x, y)
    | .error d, .ok _ => .error d
    | .ok _, .error d => .error d
    | .error d, .error e => .error ⟨d.wrong ++ e.wrong, d.missing ++ e.missing⟩
  ofList s used items := do
    let (x, used, items) ← a.ofList s used items
    let (y, used, items) ← b.ofList s used items
    return ((x, y), used, items)

def map {α β : Type} (f : α → β) (a : Record α) : Record β where
  size := a.size
  ofTable s entries := (a.ofTable s entries).map f
  ofList s used items := do
    let (x, used, items) ← a.ofList s used items
    return (f x, used, items)

/-- The expected size of the list form, in words. -/
def sizeWords (title : String) (size : Nat) : String :=
  title ++ " with " ++ toString size ++ (if size = 1 then " element" else " elements")

/-- Reads the fields off a list. -/
def decodeList {α : Type} (r : Record α) (title : String) (s : Source) (items : List Value) :
    Except Mismatch α :=
  match r.ofList s 0 items with
  | .error (.wrong e) => .error e
  | .error (.short used) => .error (.wrongLength used (sizeWords title r.size))
  | .ok (a, used, _) =>
    match s.surplus? used items.length with
    | some e => .error e
    | none => .ok a

/-- Reads the fields off a table. -/
def decodeTable {α : Type} (r : Record α) (s : Source) (entries : Entries) :
    Except Mismatch α :=
  (r.ofTable s entries).mapError Defects.first

/-- Reads a record in either form; `title` says what it is. -/
def decode {α : Type} (r : Record α) (title : String) : Decoder α := fun s v =>
  match v with
  | .table entries => r.decodeTable s entries
  | .list items => r.decodeList title s items
  | v => refuse v title

end Record

end Placard.Document
