/-
Placard/Palette.lean

What a shape may say about color: a status or a tone, never the color itself.

A `Theme` holds one color for each of the twelve tones, and `Theme.color` looks it up.
`Theme.standard` is the dark palette.
-/
import Placard.Color

namespace Placard

/-- The severity of a line, an arrow or a series. -/
inductive Status where
  | ok
  | info
  | caution
  | elevated
  | critical
deriving DecidableEq, Repr, Inhabited

/-- Every color that a shape may refer to. -/
inductive Tone where
  | background
  | surface
  | surfaceAlt
  | border
  | text
  | muted
  | callout
  | status (s : Status)
deriving DecidableEq, Repr

/-- The names of the statuses, mildest first. -/
def Status.names : List (String × Status) :=
  [("ok", .ok), ("info", .info), ("caution", .caution), ("elevated", .elevated),
    ("critical", .critical)]

def Status.name : Status → String
  | .ok => "ok"
  | .info => "info"
  | .caution => "caution"
  | .elevated => "elevated"
  | .critical => "critical"

/-- The names of the tones that are no statuses. -/
def Tone.names : List (String × Tone) :=
  [("background", .background), ("surface", .surface), ("surface-alt", .surfaceAlt),
    ("border", .border), ("text", .text), ("muted", .muted), ("callout", .callout)]

/-- One color for every tone. -/
structure Theme where
  background : Color
  surface : Color
  surfaceAlt : Color
  border : Color
  text : Color
  muted : Color
  callout : Color
  ok : Color
  info : Color
  caution : Color
  elevated : Color
  critical : Color

namespace Theme

/-- The color of a status. -/
def status (t : Theme) : Status → Color
  | .ok => t.ok
  | .info => t.info
  | .caution => t.caution
  | .elevated => t.elevated
  | .critical => t.critical

/-- The color of a tone. -/
def color (t : Theme) : Tone → Color
  | .background => t.background
  | .surface => t.surface
  | .surfaceAlt => t.surfaceAlt
  | .border => t.border
  | .text => t.text
  | .muted => t.muted
  | .callout => t.callout
  | .status s => t.status s

/-- The dark palette; its status hues are the named colors. -/
def standard : Theme where
  background := Color.ofBytes 0x0B 0x12 0x20
  surface := Color.ofBytes 0x11 0x1B 0x30
  surfaceAlt := Color.ofBytes 0x0F 0x17 0x2A
  border := Color.ofBytes 0x1F 0x2A 0x44
  text := Color.ofBytes 0xE5 0xE7 0xEB
  muted := Color.ofBytes 0x94 0xA3 0xB8
  callout := Color.ofBytes 0x2B 0x0E 0x15
  ok := Color.green
  info := Color.blue
  caution := Color.yellow
  elevated := Color.orange
  critical := Color.red

instance : Inhabited Theme := ⟨standard⟩

/-- The theme whose color of every tone is given by `f`. -/
def ofTones (f : Tone → Color) : Theme where
  background := f .background
  surface := f .surface
  surfaceAlt := f .surfaceAlt
  border := f .border
  text := f .text
  muted := f .muted
  callout := f .callout
  ok := f (.status .ok)
  info := f (.status .info)
  caution := f (.status .caution)
  elevated := f (.status .elevated)
  critical := f (.status .critical)

@[simp] theorem color_ofTones (f : Tone → Color) (t : Tone) : (ofTones f).color t = f t := by
  cases t with
  | status s => cases s <;> rfl
  | _ => rfl

end Theme

/-- The twelve tones in the order in which they are listed and reported. -/
def Tone.all : List Tone :=
  [.background, .surface, .surfaceAlt, .border, .text, .muted, .callout, .status .ok,
    .status .info, .status .caution, .status .elevated, .status .critical]

/-- The name of a tone among the settings of a palette. -/
def Tone.setting : Tone → String
  | .background => "background"
  | .surface => "surface"
  | .surfaceAlt => "surface_alt"
  | .border => "border"
  | .text => "text"
  | .muted => "muted"
  | .callout => "callout"
  | .status s => s.name

end Placard
