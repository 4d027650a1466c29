/-
Placard/Diagram/File.lean

Diagrams from layout files.
-/
import Placard.Diagram.Format
import Placard.Files
import Placard.Toml

namespace Placard

open Document

/-- Why a layout could not be read. -/
inductive LayoutError where
  | unreadable (path : String) (cause : FileError)
  | notToml (path : String)
  | mismatch (path : String) (cause : Mismatch)
  | badName (name : String)

namespace LayoutError

def message : LayoutError → String
  | unreadable path cause => "failed to read layout " ++ path ++ ": " ++ cause.message
  | notToml path => "failed to parse layout " ++ path ++ ": TOML parse error"
  | mismatch path _ => "failed to parse layout " ++ path ++ ": TOML parse error"
  | badName name => "invalid diagram name '" ++ name ++ "': use letters, digits, '_' or '-'"

/-- The error and what caused it, in words. -/
def chain (e : LayoutError) : List String :=
  e.message ::
    match e with
    | unreadable _ cause => [cause.message]
    | notToml _ | mismatch _ _ => ["TOML parse error"]
    | badName _ => []

end LayoutError

namespace Diagram

/-- Reads a diagram from the layout at `path`. -/
def load (files : Files) (path : String) : Except LayoutError Diagram := do
  let text ← (files.readText path).mapError (.unreadable path)
  let some v := Toml.read? text | throw (.notToml path)
  let d ← (decode .toml v).mapError fun e =>
    if Toml.isProper v then .mismatch path e else .notToml path
  if isName d.name then return d
  throw (.badName d.name)

end Diagram

end Placard
