/-
Placard/Document/Value.lean

Structured values, as a configuration or a layout file holds them.

A table is a list of named values; a name occurs once in it, and the list is kept in the
order of the names, which is the order in which a reader visits them.
-/
namespace Placard.Document

/-- A structured value. -/
inductive Value where
  | null
  | bool (b : Bool)
  | integer (n : Int)
  | number (x : Float)
  | text (s : String)
  | list (items : List Value)
  | table (entries : List (String × Value))

instance : Inhabited Value := ⟨.null⟩

/-- The named values of a table. -/
abbrev Entries := List (String × Value)

/-- Puts `value` under `name`, in the place of an earlier value of that name or else in
front of the first greater name. -/
def Entries.insert (name : String) (value : Value) : Entries → Entries
  | [] => [(name, value)]
  | (n, v) :: rest =>
    if n = name then (name, value) :: rest
    else if name < n then (name, value) :: (n, v) :: rest
    else (n, v) :: insert name value rest

/-- The entries in the order of their names; of two with one name the later one stays. -/
def Entries.sort (entries : Entries) : Entries :=
  entries.foldl (fun sorted e => Entries.insert e.1 e.2 sorted) []

mutual

/-- Every integer in the value is at least `least` and below `bound`. -/
def Value.integersWithin (least bound : Int) : Value → Bool
  | .integer n => decide (least ≤ n) && decide (n < bound)
  | .list items => itemsWithin least bound items
  | .table entries => entriesWithin least bound entries
  | _ => true

def itemsWithin (least bound : Int) : List Value → Bool
  | [] => true
  | v :: rest => v.integersWithin least bound && itemsWithin least bound rest

def entriesWithin (least bound : Int) : List (String × Value) → Bool
  | [] => true
  | (_, v) :: rest => v.integersWithin least bound && entriesWithin least bound rest

end

/-- A table of the named values that are there. -/
def Value.ofFields (fields : List (String × Option Value)) : Value :=
  .table (fields.filterMap fun f => f.2.map (f.1, ·))

end Placard.Document
