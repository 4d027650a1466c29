/-
Placard/Gallery.lean

The diagrams that are always there.

`Gallery.select` picks some of them by name.  The answer depends only on which names are
asked for, not on their order or repetition; without names all diagrams are meant.
-/
import Placard.Gallery.Architecture
import Placard.Gallery.SecurityModel
import Placard.Gallery.ControlPlane
import Placard.Gallery.LeakDetection

namespace Placard.Gallery

/-- All diagrams in the order in which they are drawn. -/
def all : List Diagram := [architecture, securityModel, controlPlane, leakDetection]

/-- The names of all diagrams. -/
def names : List String := all.map (·.name)

/-- The diagrams that are asked for; an error is the first name that no diagram has. -/
def select (wanted : List String) : Except String (List Diagram) :=
  match wanted.find? fun name => !names.contains name with
  | some name => .error name
  | none =>
    if wanted.isEmpty then .ok all else .ok (all.filter fun d => wanted.contains d.name)

end Placard.Gallery
