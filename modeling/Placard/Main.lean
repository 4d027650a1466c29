/-
Placard/Main.lean

The program on a real system.

The files that a run may look at are read into a value first.  `Command.execute` does the
work on that value, and what has changed in it is written back.
-/
import Placard.Command

namespace Placard

/-- The location that a path names, from a starting point on. -/
def followNames (start : Location) (path : String) : Location :=
  (pathParts path).foldl
    (fun l name => if name = "." then l else if name = ".." then l.dropLast else l ++ [name])
    (if isAbsolute path then [] else start)

/-- Looks up a single location on the system. -/
def lookAt (l : Location) : IO (Option Entry) := do
  try
    return some (.file (← IO.FS.readBinFile l.path))
  catch _ =>
    try
      let _ ← IO.FS.realPath l.path
      return some .directory
    catch _ => return none

/-- Adds what there is at a path, and the directories that lead there. -/
def addPath (files : Files) (path : String) : IO Files := do
  let mut files := files
  let l := followNames files.here path
  for i in List.range l.length do
    let part := l.take (i + 1)
    if (files.at? part).isNone then
      match ← lookAt part with
      | some e => files := files.put part e
      | none => break
  return files

/-- The paths that the command line names. -/
def namedPaths (s : Surroundings) (o : Options) : List String :=
  o.config.getD (Config.standardPath s.home s.settings) :: o.layouts

/-- The paths that a plan leads to. -/
def plannedPaths (p : Plan) : List String :=
  p.directory :: p.diagrams.map (fun d => joinPath p.directory d.fileName) ++
    p.config.fonts.candidates.filterMap (·.path)

/-- Everything that a run may look at. -/
def lookAround (here : String) (s : Surroundings) (words : List String) : IO Files := do
  let empty : Files := ⟨pathParts here, []⟩
  let mut files ← addPath empty here
  match Options.ofWords words with
  | .error _ => return files
  | .ok o =>
    for path in namedPaths s o do
      files ← addPath files path
    match Command.prepare s files o with
    | .error _ => return files
    | .ok plan =>
      for path in plannedPaths plan do
        files ← addPath files path
      return files

/-- Writes down what has changed. -/
def writeBack (before after : Files) : IO Unit := do
  for (l, e) in after.entries do
    match e, before.at? l with
    | .directory, none => IO.FS.createDir l.path
    | .directory, some _ => pure ()
    | .file content, some (.file old) =>
      if content != old then IO.FS.writeBinFile l.path content
    | .file content, _ => IO.FS.writeBinFile l.path content

end Placard

open Placard in
def main (words : List String) : IO UInt32 := do
  let home := (← IO.getEnv "HOME").getD "/"
  let surroundings : Surroundings := { home, settings := ← IO.getEnv "XDG_CONFIG_HOME" }
  let before ← lookAround (← IO.currentDir).toString surroundings words
  let outcome := Command.execute surroundings words before
  writeBack before outcome.files
  IO.print outcome.output
  IO.eprint outcome.errors
  return outcome.code
