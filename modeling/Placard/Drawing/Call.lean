/-
Placard/Drawing/Call.lean

The calls that a drawing makes on its device.

A device keeps a current path, a source color, line and font settings, and a coordinate
system; `save` and `restore` put all but the path aside and back.  Some calls can fail.
-/
import Placard.Color
import Placard.Typeface

namespace Placard

/-- A call on the drawing device. -/
inductive Call where
  | surfaceCreate (width height : Pixel)
  | contextNew
  | setSource (c : Color)
  | paint
  | fill
  | fillPreserve
  | stroke
  | save
  | restore
  | status
  | newPath
  | closePath
  | moveTo (x y : Float)
  | lineTo (x y : Float)
  | translate (x y : Float)
  | scale (x y : Float)
  | arc (x y radius start stop : Float)
  | setLineWidth (width : Float)
  /-- round joins -/
  | setLineJoin
  /-- round caps -/
  | setLineCap
  | selectFontFace (family : String) (weight : Weight)
  | setFontSize (size : Float)
  | fontExtents
  | showText (text : String)
  | showLayout (request : FontRequest) (text : String)
  | surfaceFlush
  | writePng

/-- Whether the device can refuse the call. -/
def Call.fallible : Call → Bool
  | .surfaceCreate _ _ | .contextNew | .paint | .fill | .fillPreserve | .stroke | .save
  | .restore | .status | .fontExtents | .showText _ | .writePng => true
  | _ => false

/-- The calls of a drawing step. -/
abbrev Script := List Call

end Placard
