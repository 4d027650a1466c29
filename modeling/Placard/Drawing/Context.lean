/-
Placard/Drawing/Context.lean

What the calls of a drawing do to the device's own state.

A `Context` is the state that a device keeps between calls: the pen (color, line and font
settings and the coordinate system), the pens put aside by `save`, and the current path.
`Context.after` gives the effect of a single call and `Context.replay` that of a recording;
a `restore` without a `save` before it has no effect that could be given, and where a state is
needed all the same (`Context.reached`) it changes nothing.  Whatever is put on the surface
leaves a `Mark`, which tells with which pen and along which path.

The path is not part of the pen: `save` and `restore` leave it alone.
-/
import Placard.Drawing.Call

namespace Placard

/-- A change of the coordinate system. -/
inductive Motion where
  | translate (x y : Float)
  | scale (x y : Float)

/-- The settings of a device that `save` puts aside.  Nothing stands for what the device itself
starts with, and an empty transform is the identity. -/
structure Pen where
  source : Option Color := none
  lineWidth : Option Float := none
  roundJoin : Bool := false
  roundCap : Bool := false
  face : Option (String × Weight) := none
  fontSize : Option Float := none
  /-- the changes of the coordinate system, from the first to the last -/
  transform : List Motion := []

/-- All that the extents of a font depend on. -/
structure ScaledFont where
  face : Option (String × Weight)
  size : Option Float
  transform : List Motion

/-- The font in force. -/
def Pen.scaledFont (pen : Pen) : ScaledFont := ⟨pen.face, pen.fontSize, pen.transform⟩

/-- A call that made a piece of the path, and the coordinate system that it was made in. -/
structure Piece where
  call : Call
  transform : List Motion

/-- A call that put something on the surface, with the pen and the path at that time. -/
structure Mark where
  call : Call
  pen : Pen
  path : List Piece

structure Context where
  pen : Pen := {}
  /-- the pens put aside, the latest one first -/
  saved : List Pen := []
  path : List Piece := []
  marks : List Mark := []

namespace Context

/-- The same context after something was put on the surface. -/
def mark (x : Context) (c : Call) : Context := { x with marks := x.marks ++ [⟨c, x.pen, x.path⟩] }

/-- The context after one more call. -/
def after (x : Context) (c : Call) : Option Context :=
  match c with
  | .contextNew => some { marks := x.marks }
  | .setSource color => some { x with pen := { x.pen with source := some color } }
  | .setLineWidth width => some { x with pen := { x.pen with lineWidth := some width } }
  | .setLineJoin => some { x with pen := { x.pen with roundJoin := true } }
  | .setLineCap => some { x with pen := { x.pen with roundCap := true } }
  | .selectFontFace family weight =>
    some { x with pen := { x.pen with face := some (family, weight) } }
  | .setFontSize size => some { x with pen := { x.pen with fontSize := some size } }
  | .translate a b =>
    some { x with pen := { x.pen with transform := x.pen.transform ++ [.translate a b] } }
  | .scale a b =>
    some { x with pen := { x.pen with transform := x.pen.transform ++ [.scale a b] } }
  | .save => some { x with saved := x.pen :: x.saved }
  | .restore =>
    match x.saved with
    | [] => none
    | pen :: saved => some { x with pen, saved }
  | .newPath => some { x with path := [] }
  | .moveTo _ _ | .lineTo _ _ | .arc _ _ _ _ _ | .closePath =>
    some { x with path := x.path ++ [⟨c, x.pen.transform⟩] }
  | .fill | .stroke => some { x.mark c with path := [] }
  | .fillPreserve | .paint | .showText _ | .showLayout _ _ => some (x.mark c)
  | .surfaceCreate _ _ | .status | .fontExtents | .surfaceFlush | .writePng => some x

/-- The context after some more calls. -/
def replay (x : Context) (script : Script) : Option Context := script.foldlM after x

/-- The context after one more call, if a call without an effect is let pass. -/
def next (x : Context) (c : Call) : Context := (x.after c).getD x

/-- The context that some more calls lead to. -/
def reached (x : Context) (script : Script) : Context := script.foldl next x

end Context

end Placard
