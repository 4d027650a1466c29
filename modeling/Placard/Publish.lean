/-
Placard/Publish.lean

Drawing diagrams and putting them into files.

A file is made only after everything has been drawn, so a diagram that cannot be drawn
leaves no file behind.
-/
import Placard.Diagram
import Placard.Session

namespace Placard

/-- Why no image was made. -/
inductive PublishError where
  | noDirectory (path : String) (cause : FileError)
  | notDrawn (diagram : String) (cause : DrawError)
  | noFile (path : String) (cause : FileError)
  /-- The device could not encode the image. -/
  | notEncoded

namespace PublishError

def message : PublishError → String
  | noDirectory path cause =>
    "failed to create output directory " ++ path ++ ": " ++ cause.message
  | notDrawn diagram cause => "failed to draw '" ++ diagram ++ "': " ++ cause.message
  | noFile path cause => "failed to create " ++ path ++ ": " ++ cause.message
  | notEncoded => "failed to encode PNG: Cairo error: No Memory"

/-- The error and what caused it, in words. -/
def chain (e : PublishError) : List String :=
  e.message ::
    match e with
    | noDirectory _ cause => [cause.message]
    | notDrawn _ cause => [cause.message]
    | noFile _ cause => [cause.message]
    | notEncoded => ["Cairo error: No Memory"]

end PublishError

/-- Makes sure that there is a directory at `path`; the answer is its path from the root. -/
def ensureDirectory (path : String) : Job PublishError String := do
  if !(← Job.files).exists? path then
    Job.tell [.directoryMissing path]
    Job.within (.noDirectory path) (Job.attempt fun files => files.makeDirectories path)
  match (← Job.files).canonical path with
  | .ok path => return path
  | .error _ => return path

namespace Diagram

/-- Warns of the shapes that leave the canvas. -/
def warnings (d : Diagram) (size : CanvasSize) (area : Rect) : List Notice :=
  (d.outside area).map fun index => .shapeOutside index d.name size

/-- Draws a diagram on a canvas of its own. -/
def draw (style : Style) (size : CanvasSize) (d : Diagram) : Job DrawError Unit := do
  let area ← Job.perform (Canvas.create size style.theme.background)
  Job.tell (d.warnings size area)
  Job.perform (Shape.drawAll style d.shapes)

/-- Draws a diagram and saves it in a directory; the answer is the path of the file. -/
def save (style : Style) (size : CanvasSize) (directory : String) (d : Diagram) :
    Job PublishError String := do
  Job.within (.notDrawn d.name) (d.draw style size)
  let path := joinPath directory d.fileName
  Job.tell [.saving d.name size path]
  Job.within (.notDrawn d.name) (Job.perform (Drawing.make Canvas.finish))
  let location ← Job.within (.noFile path) (Job.change fun files => files.create path)
  let image ← Job.within (fun _ => .notEncoded) (Job.perform Drawing.encode)
  Job.update fun files => files.write location image
  Job.tell [.saved path]
  return path

end Diagram

end Placard
