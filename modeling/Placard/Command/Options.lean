/-
Placard/Command/Options.lean

What the words on a command line ask for.

Words are taken from left to right; the first one that is wrong or that asks for help ends
the reading.  An option that takes a value finds it in the same word or in the next one,
which must not look like an option itself.
-/
namespace Placard

/-- What is asked for. -/
structure Options where
  directory : Option String := none
  only : List String := []
  layouts : List String := []
  config : Option String := none
  /-- Only list the diagrams that are always there. -/
  list : Bool := false
deriving DecidableEq

/-- An option that takes a value. -/
inductive Setting where
  | directory
  | only
  | layout
  | config
deriving DecidableEq

/-- What ends the reading of a command line early. -/
inductive Interruption where
  | help
  | version
  | misuse
deriving DecidableEq

namespace Setting

/-- The long names of the options that take a value. -/
def longNames : List (String × Setting) :=
  [("output-dir", directory), ("only", only), ("layout", layout), ("config", config)]

/-- The letters that stand for such an option. -/
def letters : List (Char × Setting) := [('o', directory), ('c', config)]

/-- Paths must not be empty, and only names and layouts may be given more than once. -/
def apply (s : Setting) (value : String) (o : Options) : Except Interruption Options :=
  match s with
  | only => .ok { o with only := o.only ++ [value] }
  | layout =>
    if value = "" then .error .misuse else .ok { o with layouts := o.layouts ++ [value] }
  | directory =>
    if value = "" ∨ o.directory.isSome then .error .misuse
    else .ok { o with directory := some value }
  | config =>
    if value = "" ∨ o.config.isSome then .error .misuse
    else .ok { o with config := some value }

end Setting

namespace Options

/-- What a single word asks for. -/
inductive Word where
  /-- an option with its value -/
  | assigned (s : Setting) (value : String)
  /-- an option whose value is the next word -/
  | pending (s : Setting)
  | list
  /-- the sign that no options follow -/
  | endOfOptions
  | stop (i : Interruption)

/-- A word that starts with two dashes, without them. -/
def Word.ofLong (name : String) (value : Option String) : Word :=
  match Setting.longNames.lookup name with
  | some s =>
    match value with
    | some v => .assigned s v
    | none => .pending s
  | none =>
    if value.isSome then .stop .misuse
    else if name = "list" then .list
    else if name = "help" then .stop .help
    else if name = "version" then .stop .version
    else .stop .misuse

/-- A word that starts with one dash: its letter, and what follows it. -/
def Word.ofLetter (letter : Char) (rest : List Char) : Word :=
  if letter = 'h' then .stop .help
  else if letter = 'V' then .stop .version
  else
    match Setting.letters.lookup letter with
    | none => .stop .misuse
    | some s =>
      match rest with
      | [] => .pending s
      | '=' :: value => .assigned s (String.ofList value)
      | value => .assigned s (String.ofList value)

/-- Tells what a word asks for; one that is no option is wrong. -/
def Word.ofText (text : String) : Word :=
  match text.toList with
  | ['-', '-'] => .endOfOptions
  | '-' :: '-' :: body =>
    let value :=
      match body.dropWhile (· != '=') with
      | [] => none
      | _ :: value => some (String.ofList value)
    Word.ofLong (String.ofList (body.takeWhile (· != '='))) value
  | '-' :: letter :: rest => Word.ofLetter letter rest
  | _ => .stop .misuse

/-- A word that can be the value of the option before it: a lone dash can. -/
def canBeValue (text : String) : Bool :=
  text.toList.head? != some '-' || text == "-"

/-- Reads words on top of what has been asked for already. -/
def read (o : Options) : List String → Except Interruption Options
  | [] => .ok o
  | [text] =>
    match Word.ofText text with
    | .assigned s value => s.apply value o
    | .list => if o.list then .error .misuse else .ok { o with list := true }
    | .endOfOptions => .ok o
    | .pending _ => .error .misuse
    | .stop i => .error i
  | text :: next :: rest =>
    match Word.ofText text with
    | .assigned s value => do read (← s.apply value o) (next :: rest)
    | .list =>
      if o.list then .error .misuse else read { o with list := true } (next :: rest)
    | .pending s =>
      if canBeValue next then do read (← s.apply next o) rest else .error .misuse
    | .endOfOptions => .error .misuse
    | .stop i => .error i

/-- Reads a command line. -/
def ofWords (words : List String) : Except Interruption Options := read {} words

end Options

end Placard
