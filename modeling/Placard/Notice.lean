/-
Placard/Notice.lean

What a run tells about its progress.
-/
import Placard.Config

namespace Placard

/-- How much a notice matters. -/
inductive Level where
  | debug
  | info
  | warn
deriving DecidableEq, Repr

def Level.name : Level → String
  | .debug => "DEBUG"
  | .info => "INFO"
  | .warn => "WARN"

/-- Something worth telling. -/
inductive Notice where
  | correction (c : Correction)
  | colorRefused (r : ColorRefusal)
  | fontTrial (t : FontTrial)
  | fontsChosen (t : Typography)
  | configLoaded (path : String)
  | configAbsent
  | configExpected (path : String)
  | layoutLoaded (name : String) (shapes : Nat) (path : String)
  /-- A shape of a diagram leaves the canvas. -/
  | shapeOutside (index : Nat) (diagram : String) (size : CanvasSize)
  | directoryMissing (path : String)
  | saving (diagram : String) (size : CanvasSize) (path : String)
  | saved (path : String)

namespace Notice

def level : Notice → Level
  | correction _ | colorRefused _ | fontTrial .exhausted | shapeOutside _ _ _ => .warn
  | configLoaded _ | configAbsent | directoryMissing _ | saved _ => .info
  | fontTrial _ | fontsChosen _ | configExpected _ | layoutLoaded _ _ _ | saving _ _ _ => .debug

/-- The text of a notice.  A shape outside of the canvas is named by its number; the listing of its
fields, which is added for debugging, is not modelled. -/
def message : Notice → String
  | correction c => c.message
  | colorRefused r => r.message
  | fontTrial t => t.message
  | fontsChosen t => "Typography: " ++ t.describe
  | configLoaded path => "Loaded config from " ++ path
  | configAbsent => "Config file not found, using defaults"
  | configExpected path => "Expected config at: " ++ path
  | layoutLoaded name shapes path =>
    "Loaded layout '" ++ name ++ "' (" ++ toString shapes ++ " shapes) from " ++ path
  | shapeOutside index diagram size =>
    "Shape #" ++ toString index ++ " of '" ++ diagram ++ "' extends past the " ++ size.words ++
      " canvas"
  | directoryMissing path => "Creating output directory: " ++ path
  | saving diagram size path =>
    "Saving '" ++ diagram ++ "' (" ++ size.words ++ ") to " ++ path
  | saved path => "Infographic saved: " ++ path

end Notice

end Placard
