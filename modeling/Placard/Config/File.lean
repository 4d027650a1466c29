/-
Placard/Config/File.lean

Settings from a file, and the style that they describe.
-/
import Placard.Config.Format
import Placard.Notice
import Placard.Toml

namespace Placard

open Document

/-- Why settings could not be read. -/
inductive ConfigError where
  | unreadable (path : String) (cause : FileError)
  | notToml (path : String)
  | mismatch (path : String) (cause : Mismatch)

/-- The error and what caused it, in words. -/
def ConfigError.chain : ConfigError → List String
  | unreadable path cause => ["Failed to read config from " ++ path, cause.message]
  | notToml path => ["Failed to parse config from " ++ path, "TOML parse error"]
  | mismatch path _ => ["Failed to parse config from " ++ path, "TOML parse error"]

/-- Typefaces for the settings of the fonts, and how they were found. -/
def Typography.choose (files : Files) (installed : List String) (candidates : List Candidate)
    (sizes : FontSizes) : Typography × List Notice :=
  let (face, trials) := Candidate.choose files installed candidates
  let t : Typography := ⟨face, sizes⟩
  (t, trials.map .fontTrial ++ [.fontsChosen t])

namespace Config

/-- Reads settings from the file at `path` and brings them into range.  The listing of all settings
that is told for debugging is not modelled. -/
def load (files : Files) (path : String) : Except ConfigError (Config × List Notice) := do
  let text ← (files.readText path).mapError (.unreadable path)
  let some v := Toml.read? text | throw (.notToml path)
  let c ← (decode .toml v).mapError fun e =>
    if Toml.isProper v then .mismatch path e else .notToml path
  let (c, corrections) := c.settle
  return (c, corrections.map .correction ++ [.configLoaded path])

/-- Where the settings are looked for, given the user's directory and the directory for
settings, which counts only if it is absolute. -/
def standardPath (home : String) (settings : Option String) : String :=
  let directory :=
    match settings with
    | some d => if isAbsolute d then d else joinPath home ".config"
    | none => joinPath home ".config"
  joinPath directory "infographics/config.toml"

/-- Reads settings from the file at `path` if it exists. -/
def loadIfThere (files : Files) (path : String) : Except ConfigError (Config × List Notice) :=
  if files.exists? path then load files path
  else .ok ({}, [.configAbsent, .configExpected path])

/-- The colors and fonts that the settings describe. -/
def style (files : Files) (installed : List String) (c : Config) : Style × List Notice :=
  let (typography, notices) := Typography.choose files installed c.fonts.candidates c.fonts.sizes
  (⟨c.palette.theme, typography⟩, notices ++ c.palette.refusals.map .colorRefused)

end Config

end Placard
