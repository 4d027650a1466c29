/-
Placard/Files.lean

A tree of files as a value.

A `Location` is the list of names from the root; every location that exists holds a file
or a directory.  A path is a text: it starts at the root or at the working directory, and
`Files.resolve` follows its names one by one.  Reading leaves the tree alone, and the
three operations that change it (`create`, `write`, `makeDirectory`) change one location.
-/
namespace Placard

/-- The names from the root to a file or directory. -/
abbrev Location := List String

inductive Entry where
  | file (content : ByteArray)
  | directory

/-- Why an operation on files failed. -/
inductive FileError where
  | notFound
  | notDirectory
  | isDirectory
  | alreadyThere
  | nameTooLong
  | zeroInName
  /-- The file ends too early. -/
  | tooShort
  | notText
deriving DecidableEq, Repr

def FileError.message : FileError → String
  | notFound => "No such file or directory (os error 2)"
  | notDirectory => "Not a directory (os error 20)"
  | isDirectory => "Is a directory (os error 21)"
  | alreadyThere => "File exists (os error 17)"
  | nameTooLong => "File name too long (os error 36)"
  | zeroInName => "file name contained an unexpected NUL byte"
  | tooShort => "failed to fill whole buffer"
  | notText => "stream did not contain valid UTF-8"

/-! ### Paths -/

/-- The parts of a path between the slashes. A slash at the end counts as a dot. -/
def pathParts (path : String) : List String :=
  let parts := splitSlash path.toList
  let named := parts.filter (· != "")
  if parts.getLast? = some "" then named ++ ["."] else named
where
  splitSlash : List Char → List String
    | [] => [""]
    | '/' :: rest => "" :: splitSlash rest
    | c :: rest =>
      match splitSlash rest with
      | [] => [c.toString]
      | part :: parts => (c.toString ++ part) :: parts

/-- The path starts at the root. -/
def isAbsolute (path : String) : Bool := path.toList.head? == some '/'

/-- The path of `name` inside of the directory `directory`. -/
def joinPath (directory name : String) : String :=
  if isAbsolute name ∨ directory = "" then name
  else if directory.toList.getLast? = some '/' then directory ++ name
  else directory ++ "/" ++ name

/-- The path of a location. -/
def Location.path (l : Location) : String := "/" ++ String.intercalate "/" l

/-- The path of the enclosing directory, and of the one enclosing that, and so on, down to
the last one that has a name. Dots count only in front. -/
def enclosingPaths (path : String) : List String :=
  let start := if isAbsolute path then "/" else ""
  let parts := pathParts path
  let lead := if isAbsolute path then [] else parts.take 1
  let named := lead ++ (parts.drop lead.length).filter (· != ".")
  let count := named.length
  (List.range (count - 1)).map fun i => start ++ String.intercalate "/" (named.take (count - 1 - i))

/-! ### The tree -/

/-- What exists, and the working directory. -/
structure Files where
  here : Location
  entries : List (Location × Entry)

namespace Files

/-- What is at a location; the root is a directory. -/
def at? (f : Files) (l : Location) : Option Entry :=
  if l = [] then some .directory else f.entries.lookup l

/-- Puts `e` at a location, in place of what was there. -/
def put (f : Files) (l : Location) (e : Entry) : Files :=
  if (f.entries.lookup l).isSome then
    { f with entries := f.entries.map fun p => if p.1 = l then (l, e) else p }
  else { f with entries := f.entries ++ [(l, e)] }

/-- The longest name, in bytes. -/
def nameLimit : Nat := 255

/-- The longest path, in bytes. -/
def pathLimit : Nat := 4095

/-- Follows names from a location. -/
def walk (f : Files) : Location → List String → Except FileError Location
  | l, [] => .ok l
  | l, name :: rest =>
    match f.at? l with
    | none => .error .notFound
    | some (.file _) => .error .notDirectory
    | some .directory =>
      if name = "." then f.walk l rest
      else if name = ".." then f.walk l.dropLast rest
      else if nameLimit < name.utf8ByteSize then .error .nameTooLong
      else
        match f.at? (l ++ [name]) with
        | none => .error .notFound
        | some _ => f.walk (l ++ [name]) rest

/-- Whether the system takes the text as a path at all. -/
def checkPath (path : String) : Except FileError Unit :=
  if path.toList.contains '\x00' then .error .zeroInName
  else if path = "" then .error .notFound
  else if pathLimit < path.utf8ByteSize then .error .nameTooLong
  else .ok ()

/-- Where a path starts. -/
def start (f : Files) (path : String) : Location := if isAbsolute path then [] else f.here

/-- The location of a path. -/
def resolve (f : Files) (path : String) : Except FileError Location := do
  checkPath path
  f.walk (f.start path) (pathParts path)

def exists? (f : Files) (path : String) : Bool :=
  match f.resolve path with
  | .ok _ => true
  | .error _ => false

def isDirectory (f : Files) (path : String) : Bool :=
  match f.resolve path with
  | .ok l =>
    match f.at? l with
    | some .directory => true
    | _ => false
  | .error _ => false

/-- The path that names a location without dots. -/
def canonical (f : Files) (path : String) : Except FileError String := do
  return (← f.resolve path).path

/-! ### Reading -/

/-- The content of a file. -/
def read (f : Files) (path : String) : Except FileError ByteArray := do
  match f.at? (← f.resolve path) with
  | some (.file content) => return content
  | some .directory => throw .isDirectory
  | none => throw .notFound

/-- The content of a file as text. -/
def readText (f : Files) (path : String) : Except FileError String := do
  match String.fromUTF8? (← f.read path) with
  | some text => return text
  | none => throw .notText

/-- The first `count` bytes of a file. -/
def readFirst (f : Files) (path : String) (count : Nat) : Except FileError (List UInt8) := do
  let content ← f.read path
  if content.size < count then throw .tooShort
  return (content.toList.take count)

/-- The files below the working directory, by their paths from there, in order. -/
def listing (f : Files) : List String :=
  let below := f.entries.filterMap fun p =>
    match p.2 with
    | .file _ =>
      if f.here.isPrefixOf p.1 then some (String.intercalate "/" (p.1.drop f.here.length))
      else none
    | .directory => none
  below.mergeSort fun a b => decide (a ≤ b)

/-! ### Changing -/

/-- Where a path that need not exist would be: its directory does, and the last name is
given apart. -/
def resolveNew (f : Files) (path : String) : Except FileError (Location × String) := do
  checkPath path
  let parts := pathParts path
  let directory ← f.walk (f.start path) parts.dropLast
  let name := parts.getLastD "."
  match f.at? directory with
  | some .directory =>
    if nameLimit < name.utf8ByteSize then throw .nameTooLong
    return (directory, name)
  | some (.file _) => throw .notDirectory
  | none => throw .notFound

/-- A name that stands for a directory already there. -/
def isDots (name : String) : Bool := name == "." || name == ".."

/-- Makes an empty file, or empties the one that is there; the answer is its location. -/
def create (f : Files) (path : String) : Except FileError (Location × Files) := do
  let (directory, name) ← f.resolveNew path
  if isDots name then throw .isDirectory
  let l := directory ++ [name]
  match f.at? l with
  | some .directory => throw .isDirectory
  | _ => return (l, f.put l (.file ByteArray.empty))

/-- Fills the file at a location. -/
def write (f : Files) (l : Location) (content : ByteArray) : Files := f.put l (.file content)

/-- Makes one directory. A slash at the end of the path makes no difference. -/
def makeDirectory (f : Files) (path : String) : Except FileError Files := do
  let parts := pathParts path
  let trimmed :=
    if path.toList.getLast? = some '/' ∧ 1 < parts.length then
      (if isAbsolute path then "/" else "") ++ String.intercalate "/" parts.dropLast
    else path
  let (directory, name) ← f.resolveNew trimmed
  if isDots name then throw .alreadyThere
  let l := directory ++ [name]
  match f.at? l with
  | some _ => throw .alreadyThere
  | none => return f.put l .directory

/-- Makes one directory unless there is one. -/
def ensureDirectory (f : Files) (path : String) : Except FileError Unit × Files :=
  match f.makeDirectory path with
  | .ok f => (.ok (), f)
  | .error e => (if f.isDirectory path then .ok () else .error e, f)

/-- Makes the directory at `path`, given the enclosing ones from the inside out: an
enclosing one is made only if the inner one lacks it, and stays in any case. -/
def ensureWithin (f : Files) (path : String) : List String → Except FileError Unit × Files
  | [] => f.ensureDirectory path
  | outer :: rest =>
    if f.makeDirectory path matches .error .notFound then
      match f.ensureWithin outer rest with
      | (.ok (), f) => f.ensureDirectory path
      | failed => failed
    else f.ensureDirectory path

/-- Makes a directory together with the enclosing ones that are missing. If it cannot be
made itself, the enclosing ones stay. -/
def makeDirectories (f : Files) (path : String) : Except FileError Unit × Files :=
  if path = "" then (.ok (), f) else f.ensureWithin path (enclosingPaths path)

end Files

end Placard
