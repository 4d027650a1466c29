/-
Placard/Config/Schema.lean

The form of a settings file, described by a JSON schema.
-/
import Placard.Config.Format

namespace Placard

open Document

namespace Config

/-! ### Parts of a schema -/

/-- A schema with the given keys, in order. -/
def schemaOf (keys : List (String × Value)) : Value := .table (Entries.sort keys)

/-- The same schema with an explanation. -/
def explained (words : List String) (keys : List (String × Value)) : List (String × Value) :=
  ("description", .text (String.intercalate "\n" words)) :: keys

/-- A value of a simple type. -/
def typed (name : String) : List (String × Value) := [("type", .text name)]

/-- A value that is described elsewhere in the schema. -/
def defined (name : String) : List (String × Value) := [("$ref", .text ("#/$defs/" ++ name))]

/-- The same value with a default. -/
def defaultsTo (v : Value) (keys : List (String × Value)) : List (String × Value) :=
  keys ++ [("default", v)]

/-- A table with the given entries. -/
def tableOf (entries : List (String × List (String × Value))) : List (String × Value) :=
  typed "object" ++
    [("properties", schemaOf (entries.map fun e => (e.1, schemaOf e.2)))]

/-- A coordinate. -/
def pixelSchema : List (String × Value) := typed "integer" ++ [("format", .text "int32")]

/-- A number with a fraction. -/
def numberSchema : List (String × Value) := typed "number" ++ [("format", .text "double")]

/-! ### The tables of the settings -/

def outputSchema : Value :=
  schemaOf (explained ["Where rendered images are written."] (tableOf
    [("directory", explained
        ["Output directory, created if missing. Relative paths resolve against",
          "the working directory."]
        (defaultsTo (.text ({} : Config).directory) (typed "string")))]))

def canvasSchema : Value :=
  let standard : CanvasSize := {}
  schemaOf (explained ["Raster dimensions shared by every diagram."] (tableOf
    [("width", explained ["Image width in pixels (valid range: 64 - 8192)"]
        (defaultsTo (.integer standard.width.val) pixelSchema)),
      ("height", explained ["Image height in pixels (valid range: 64 - 8192)"]
        (defaultsTo (.integer standard.height.val) pixelSchema))]))

def fontsSchema : Value :=
  let standard : FontSettings := {}
  schemaOf (explained
    ["Font candidates and per-role pixel sizes.", "",
      "Candidates are tried in order; the first one whose file exists and whose",
      "family is known to Pango is used. When none qualifies the built-in Cairo",
      "font is used instead."]
    (tableOf
      [("candidates", explained
          ["Ordered font candidates: `\x7b family = \"DejaVu Sans\", " ++
            "path = \"/usr/share/fonts/...\" \x7d`"]
          (defaultsTo (.list (standard.candidates.map Candidate.encode))
            (typed "array" ++ [("items", schemaOf (defined "FontCandidate"))]))),
        ("title_size", explained ["Title size in pixels (valid range: 6 - 200)"]
          (defaultsTo (.number standard.sizes.title) numberSchema)),
        ("heading_size", explained ["Heading size in pixels (valid range: 6 - 200)"]
          (defaultsTo (.number standard.sizes.heading) numberSchema)),
        ("body_size", explained ["Body text size in pixels (valid range: 6 - 200)"]
          (defaultsTo (.number standard.sizes.body) numberSchema)),
        ("caption_size", explained ["Caption size in pixels (valid range: 6 - 200)"]
          (defaultsTo (.number standard.sizes.caption) numberSchema))]))

def candidateSchema : Value :=
  schemaOf (explained ["A font source to try, in priority order."] (tableOf
    [("family", explained ["Family name as known to Pango (e.g., \"DejaVu Sans\")"]
        (typed "string")),
      ("path", explained
        ["Optional font file that must exist and be a valid font for this",
          "candidate to be accepted"]
        [("type", .list [.text "string", .text "null"])])] ++
    [("required", .list [.text "family"])]))

/-- One of several forms. -/
def oneOf (forms : List (List (String × Value))) : List (String × Value) :=
  [("anyOf", .list (forms.map schemaOf))]

def paletteSchema : Value :=
  let color := oneOf [defined "ColorSpec", typed "null"]
  schemaOf (explained ["Palette overrides. Unset tones keep the built-in dark palette."]
    (tableOf (Tone.all.map fun t =>
      (t.setting,
        if t = .callout then explained ["Fill of the chart callout box"] color else color))))

def colorSchema : Value :=
  let byte := typed "integer" ++
    [("format", .text "uint8"), ("minimum", .integer 0), ("maximum", .integer 255)]
  schemaOf (explained
    ["Color specification - a hex string, a named color, or RGB values.", "", "# Examples",
      "```toml", "# Hex color", "background = \"#0B1220\"", "", "# Named color",
      "critical = \"red\"", "", "# Custom RGB color (0-255 per component)",
      "elevated = [251, 146, 60]", "```"]
    (oneOf
      [explained
          ["`#RRGGBB` or one of: red, green, blue, yellow, orange, white, black",
            "(the status hues resolve to the default theme palette)"] (typed "string"),
        explained ["RGB color as [red, green, blue] where each component is 0-255"]
          (typed "array" ++
            [("items", schemaOf byte), ("minItems", .integer 3), ("maxItems", .integer 3)])]))

/-! ### The whole schema -/

/-- The identifier of the dialect that the schema is written in. -/
def dialect : String :=
  String.intercalate "/" ["https:", "", "json-schema.org", "draft", "2020-12", "schema"]

/-- The explanation of the whole file. -/
def about : List String :=
  ["Main configuration structure containing all user settings.", "",
    "This is the root configuration type that gets deserialized from the TOML file.",
    "All fields have sensible defaults and will use those if not specified in the config file.",
    "", "# Example TOML", "```toml", "[output]", "directory = \"docs/launch\"", "", "[canvas]",
    "width = 1536", "height = 1024", "", "[fonts]", "candidates = [",
    "    \x7b family = \"DejaVu Sans\", " ++
      "path = \"/usr/share/fonts/truetype/dejavu/DejaVuSans.ttf\" \x7d,",
    "]", "body_size = 22", "", "[theme]", "background = \"#0B1220\"",
    "critical = [239, 68, 68]", "```"]

/-- The schema of the settings. -/
def schema : Value :=
  let standard : Config := {}
  schemaOf ([("$schema", .text dialect), ("title", .text "Config")] ++ explained about (tableOf
    [("output", explained ["Output location"]
        (defaultsTo (.table [("directory", .text standard.directory)])
          (defined "OutputConfig"))),
      ("canvas", explained ["Raster dimensions"]
        (defaultsTo standard.canvas.encode (defined "CanvasConfig"))),
      ("fonts", explained ["Font candidates and sizes"]
        (defaultsTo standard.fonts.encode (defined "FontConfig"))),
      ("theme", explained ["Palette overrides"]
        (defaultsTo standard.palette.encode (defined "ThemeConfig")))]) ++
    [("$defs", schemaOf
      [("OutputConfig", outputSchema), ("CanvasConfig", canvasSchema),
        ("FontConfig", fontsSchema), ("FontCandidate", candidateSchema),
        ("ThemeConfig", paletteSchema), ("ColorSpec", colorSchema)])])

end Config

end Placard
