/-
Placard/Palette/Override.lean

Replacing single colors of the standard palette.

A `ColorSpec` is what a configuration may write for a color.  One that names no color
leaves the tone as it is and is reported.  `Override.theme` and `Override.refusals` both
go tone by tone, so the color of a tone depends on that tone's own setting alone.
-/
import Placard.Palette

namespace Placard

/-- What may be written for a color: a text, or three components out of 255. -/
inductive ColorSpec where
  | name (text : String)
  | rgb (r g b : UInt8)
deriving DecidableEq

/-- A text that names no color. -/
inductive ColorRefusal where
  /-- starts with `#`, and is not a hexadecimal color -/
  | notHex (text : String)
  | unknownName (text : String)
deriving DecidableEq

/-- The text of the warning. -/
def ColorRefusal.message : ColorRefusal → String
  | notHex text => "Invalid hex color '" ++ text ++ "', keeping default"
  | unknownName text => "Unknown color '" ++ text ++ "', keeping default"

namespace ColorSpec

/-- The color meant. -/
def resolve : ColorSpec → Except ColorRefusal Color
  | name text =>
    if text.toList.head? = some '#' then
      match Color.ofHex? text with
      | some c => .ok c
      | none => .error (.notHex text)
    else
      match Color.named? text with
      | some c => .ok c
      | none => .error (.unknownName text)
  | rgb r g b => .ok (Color.ofBytes r g b)

/-- The color meant, or `fallback`. -/
def colorOr (spec : ColorSpec) (fallback : Color) : Color :=
  match spec.resolve with
  | .ok c => c
  | .error _ => fallback

/-- The report of a text that names no color. -/
def refusal? (spec : ColorSpec) : Option ColorRefusal :=
  match spec.resolve with
  | .ok _ => none
  | .error e => some e

end ColorSpec

/-- The settings of a palette, one for each tone, all of them optional. -/
structure Override where
  background : Option ColorSpec := none
  surface : Option ColorSpec := none
  surfaceAlt : Option ColorSpec := none
  border : Option ColorSpec := none
  text : Option ColorSpec := none
  muted : Option ColorSpec := none
  callout : Option ColorSpec := none
  ok : Option ColorSpec := none
  info : Option ColorSpec := none
  caution : Option ColorSpec := none
  elevated : Option ColorSpec := none
  critical : Option ColorSpec := none
deriving DecidableEq

namespace Override

/-- The setting for a tone. -/
def spec? (o : Override) : Tone → Option ColorSpec
  | .background => o.background
  | .surface => o.surface
  | .surfaceAlt => o.surfaceAlt
  | .border => o.border
  | .text => o.text
  | .muted => o.muted
  | .callout => o.callout
  | .status .ok => o.ok
  | .status .info => o.info
  | .status .caution => o.caution
  | .status .elevated => o.elevated
  | .status .critical => o.critical

/-- The standard palette with every setting applied. -/
def theme (o : Override) : Theme :=
  Theme.ofTones fun t =>
    match o.spec? t with
    | some spec => spec.colorOr (Theme.standard.color t)
    | none => Theme.standard.color t

/-- The settings that name no color, in the order of the tones. -/
def refusals (o : Override) : List ColorRefusal :=
  Tone.all.filterMap fun t => (o.spec? t).bind ColorSpec.refusal?

end Override

end Placard
