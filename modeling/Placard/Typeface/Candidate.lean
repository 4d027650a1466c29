/-
Placard/Typeface/Candidate.lean

Choosing the face of a drawing among candidates.

A candidate is good if its family is installed and its font file, when it names one, is a
font.  `Candidate.chooseWith` tries candidates with any loader and stops at the first one
that the loader accepts; without one the built-in face is used.  Every trial is reported.
-/
import Placard.Typeface
import Placard.Files

namespace Placard

/-- A family to try, and a font file that has to be there for it. -/
structure Candidate where
  family : String
  path : Option String
deriving DecidableEq

/-- Why a candidate was passed over. -/
inductive FontError where
  | missing (path : String)
  | unreadable (path : String) (cause : FileError)
  | unsupported (path : String)
  | unknownFamily (family : String)
deriving DecidableEq

def FontError.message : FontError → String
  | missing path => "font file " ++ path ++ " does not exist"
  | unreadable path cause => "failed to read font file " ++ path ++ ": " ++ cause.message
  | unsupported path => path ++ " is not a TrueType/OpenType font"
  | unknownFamily family => "font family '" ++ family ++ "' is not available"

/-- What happened when a candidate was tried. -/
inductive FontTrial where
  | chosen (family : String)
  | skipped (family : String) (error : FontError)
  /-- No candidate was good. -/
  | exhausted
deriving DecidableEq

def FontTrial.message : FontTrial → String
  | chosen family => "Using font '" ++ family ++ "'"
  | skipped family error => "Skipping font candidate '" ++ family ++ "': " ++ error.message
  | exhausted => "No font candidate could be loaded, using the built-in font"

/-- What font files can be told from: the first four bytes of TrueType and OpenType files
and of collections. -/
def fontSignatures : List (List UInt8) :=
  [[0x00, 0x01, 0x00, 0x00], [0x4F, 0x54, 0x54, 0x4F], [0x74, 0x72, 0x75, 0x65],
    [0x74, 0x74, 0x63, 0x66]]

/-- The same text up to the case of the letters A to Z. -/
def sameFamily (a b : String) : Bool := a.toList.map Char.toLower == b.toList.map Char.toLower

namespace Candidate

/-- The candidates tried when none are configured. -/
def standard : List Candidate :=
  [⟨"SF Pro Text", some "/System/Library/Fonts/Supplemental/SF Pro Text.ttf"⟩,
    ⟨"Arial Unicode MS", some "/System/Library/Fonts/Supplemental/Arial Unicode.ttf"⟩,
    ⟨"Arial", some "/Library/Fonts/Arial.ttf"⟩,
    ⟨"DejaVu Sans", some "/usr/share/fonts/truetype/dejavu/DejaVuSans.ttf"⟩,
    ⟨"Liberation Sans", some "/usr/share/fonts/truetype/liberation/LiberationSans-Regular.ttf"⟩]

/-- Checks that the file at `path` begins like a font. -/
def checkFile (files : Files) (path : String) : Except FontError Unit :=
  if files.exists? path then
    match files.readFirst path 4 with
    | .error e => .error (.unreadable path e)
    | .ok header => if header ∈ fontSignatures then .ok () else .error (.unsupported path)
  else .error (.missing path)

/-- The face of a candidate, given the files and the installed families. -/
def load (files : Files) (installed : List String) (c : Candidate) : Except FontError Face := do
  match c.path with
  | none => pure ()
  | some path => checkFile files path
  if installed.any fun family => sameFamily family c.family then return .family c.family
  throw (.unknownFamily c.family)

/-- Tries candidates in order with the loader `load`, until one is accepted. -/
def chooseWith {m : Type → Type} [Monad m] (load : Candidate → m (Except FontError Face)) :
    List Candidate → m (Face × List FontTrial)
  | [] => return (.builtin, [.exhausted])
  | c :: rest => do
    match ← load c with
    | .ok face => return (face, [.chosen c.family])
    | .error e =>
      let (face, trials) ← chooseWith load rest
      return (face, .skipped c.family e :: trials)

/-- The face of the first good candidate. -/
def choose (files : Files) (installed : List String) (candidates : List Candidate) :
    Face × List FontTrial :=
  Id.run (chooseWith (fun c => pure (c.load files installed)) candidates)

end Candidate

end Placard
