/-
Placard/Command.lean

The program as a function from a command line and the files to a result.

Settings and layouts are read before anything is changed: `Command.prepare` only looks at
the files.  `Command.publish` then draws the diagrams one by one and stops at the first
one that fails.
-/
import Placard.Command.Options
import Placard.Config.File
import Placard.Diagram.File
import Placard.Gallery
import Placard.Publish

namespace Placard

/-- What the program finds around it. -/
structure Surroundings where
  /-- the user's directory -/
  home : String
  /-- the directory for settings -/
  settings : Option String := none
  /-- the installed font families -/
  installed : List String := []

/-- Why a run failed. -/
inductive RunError where
  | config (cause : ConfigError)
  | unknownDiagram (name : String)
  | layout (cause : LayoutError)
  | nameTaken (path name : String)
  | publish (cause : PublishError)
  | render (diagram : String) (cause : PublishError)

namespace RunError

/-- The error and what caused it, in words. -/
def chain : RunError → List String
  | config cause => cause.chain
  | unknownDiagram name =>
    ["unknown diagram '" ++ name ++ "' (available: " ++ String.intercalate ", " Gallery.names ++
      ")"]
  | layout cause => cause.chain
  | nameTaken path name => ["layout " ++ path ++ " reuses the diagram name '" ++ name ++ "'"]
  | publish cause => cause.chain
  | render diagram cause => ("Failed to render '" ++ diagram ++ "'") :: cause.chain

/-- Puts `margin` in front of every line but the first. -/
def indent (margin : String) (text : String) : String :=
  String.ofList (text.toList.flatMap fun c => if c = '\n' then '\n' :: margin.toList else [c])

/-- The causes below the error; they are numbered if there are several. -/
def causes : List String → String
  | [] => ""
  | [cause] => "\n\nCaused by:\n    " ++ indent "    " cause
  | several =>
    "\n\nCaused by:" ++ String.join (several.mapIdx fun i cause =>
      "\n    " ++ toString i ++ ": " ++ indent "       " cause)

/-- The report of an error. -/
def report (e : RunError) : String :=
  match e.chain with
  | [] => "Error: \n"
  | top :: rest => "Error: " ++ top ++ causes rest ++ "\n"

end RunError

/-! ### Preparing a run -/

/-- What a run is going to do. -/
structure Plan where
  config : Config
  diagrams : List Diagram
  directory : String
  notices : List Notice

namespace Command

/-- Reads layouts and puts them after the diagrams that are there; no two diagrams may have
one name. -/
def addLayouts (files : Files) (diagrams : List Diagram) :
    List String → Except RunError (List Diagram × List Notice)
  | [] => .ok (diagrams, [])
  | path :: rest => do
    let d ← (Diagram.load files path).mapError .layout
    if diagrams.any fun other => other.name == d.name then throw (.nameTaken path d.name)
    let (diagrams, notices) ← addLayouts files (diagrams ++ [d]) rest
    return (diagrams, .layoutLoaded d.name d.shapes.length path :: notices)

/-- Reads the settings that are asked for. -/
def loadConfig (s : Surroundings) (files : Files) (o : Options) :
    Except ConfigError (Config × List Notice) :=
  match o.config with
  | some path => Config.load files path
  | none => Config.loadIfThere files (Config.standardPath s.home s.settings)

/-- Reads everything that the run needs. -/
def prepare (s : Surroundings) (files : Files) (o : Options) : Except RunError Plan := do
  let (config, loaded) ← (loadConfig s files o).mapError .config
  let chosen ← (Gallery.select o.only).mapError .unknownDiagram
  let (diagrams, found) ← addLayouts files chosen o.layouts
  return { config, diagrams
           directory := o.directory.getD config.directory
           notices := loaded ++ found }

/-! ### Running -/

/-- Saves every diagram in `directory`. -/
def saveAll (style : Style) (size : CanvasSize) (directory : String) :
    List Diagram → Job RunError Unit
  | [] => return ()
  | d :: rest => do
    let _ ← Job.within (.render d.name) (d.save style size directory)
    saveAll style size directory rest

/-- Carries out a plan; the answer is the path of the directory. -/
def publish (s : Surroundings) (p : Plan) : Job RunError String := do
  Job.tell p.notices
  let directory ← Job.within .publish (ensureDirectory p.directory)
  let (style, notices) := p.config.style (← Job.files) s.installed
  Job.tell notices
  saveAll style p.config.canvas directory p.diagrams
  return directory

/-- Prepares a run and carries it out. -/
def run (s : Surroundings) (o : Options) : Job RunError String := do
  let plan ← ExceptT.mk (pure (prepare s (← Job.files) o))
  publish s plan

end Command

/-! ### The program -/

/-- What a program leaves behind. -/
structure Outcome where
  code : UInt32
  output : String := ""
  errors : String := ""
  files : Files

namespace Command

/-- The name and the version of the program. -/
def versionText : String := "infographics 0.1.0\n"

/-- The explanation of the command line. -/
def helpText : String :=
  String.intercalate "\n"
    ["Renders the launch infographics as PNG images", "", "Usage: infographics [OPTIONS]", "",
      "Options:",
      "  -o, --output-dir <DIR>  Directory to write images to (overrides the config file)",
      "      --only <NAME>       Render only this built-in diagram (repeatable)",
      "      --layout <PATH>     Also render a diagram described by a TOML layout file " ++
        "(repeatable)",
      "  -c, --config <PATH>     Use this config file instead of " ++
        "~/.config/infographics/config.toml",
      "      --list              Print the built-in diagram names and exit",
      "  -h, --help              Print help",
      "  -V, --version           Print version", ""]

/-- The program, drawing on `device`. -/
def execute (s : Surroundings) (words : List String) (files : Files) (device : Device := {}) :
    Outcome :=
  match Options.ofWords words with
  | .error .help => { code := 0, output := helpText, files }
  | .error .version => { code := 0, output := versionText, files }
  | .error .misuse => { code := 2, errors := "usage", files }
  | .ok o =>
    if o.list then
      { code := 0, output := String.join (Gallery.names.map (· ++ "\n")), files }
    else
      match (run s o).run { files, device } with
      | (.ok directory, session) =>
        { code := 0, output := "updated infographics in " ++ directory ++ "\n"
          files := session.files }
      | (.error e, session) => { code := 1, errors := e.report, files := session.files }

end Command

end Placard
