/-
Placard/Toml/Text.lean

The words of a TOML text: blanks, comments, line ends, strings and keys.

A reader takes the text from where it stands, and answers with what it read and with the
rest of the text.  Strings are read in two steps: `untilQuote` and `untilTriple` find the
end, and `unescape` replaces the escapes in between.
-/
import Placard.Document.Value
import Placard.Number.Hexadecimal

namespace Placard.Toml

/-- A reader of values of type `α`. -/
abbrev Reader (α : Type) := List Char → Option (α × List Char)

/-! ### Blanks, comments and line ends -/

def isBlank (c : Char) : Bool := c == ' ' || c == '\t'

/-- May stand in a comment or a string: no control character except for the tab. -/
def isPlain (c : Char) : Bool := c == '\t' || (decide (0x20 ≤ c.toNat) && c.toNat != 0x7F)

def skipBlanks (s : List Char) : List Char := s.dropWhile isBlank

/-- Passes over a comment, up to the end of its line. -/
def skipComment : List Char → List Char
  | '#' :: rest => rest.dropWhile isPlain
  | s => s

/-- Passes over what may end a line: blanks, a comment, and the line end itself, which the
end of the text counts as. -/
def endLine? (s : List Char) : Option (List Char) :=
  match skipComment (skipBlanks s) with
  | [] => some []
  | '\n' :: rest => some rest
  | '\r' :: '\n' :: rest => some rest
  | _ => none

/-- Passes over blanks, line ends and comments; `comment` says whether the text starts
inside of a comment. -/
def skipSpace (comment : Bool) : List Char → List Char
  | [] => []
  | c :: rest =>
    if c = '\n' then skipSpace false rest
    else if c = '\r' then if rest.head? = some '\n' then skipSpace false rest else c :: rest
    else if comment then if isPlain c then skipSpace true rest else c :: rest
    else if isBlank c then skipSpace false rest
    else if c = '#' then skipSpace true rest
    else c :: rest

/-! ### Escapes -/

/-- The character with a number written in hexadecimal. -/
def charOfHex? (digits : List Char) : Option Char := do
  let n ← digits.foldlM (fun n c => (hexDigit? c).map (16 * n + ·)) 0
  if n.isValidChar then return Char.ofNat n
  none

/-- The escapes of a single letter. -/
def shortEscapes : List (Char × Char) :=
  [('b', '\x08'), ('t', '\t'), ('n', '\n'), ('f', '\x0c'), ('r', '\r'), ('e', '\x1b'),
    ('"', '"'), ('\\', '\\')]

/-- Where the text of a string of several lines stands. -/
inductive Margin where
  | text
  /-- between a backslash and the end of its line -/
  | lineEnd
  /-- on the lines after a backslash at a line end, before the next text -/
  | indent
deriving DecidableEq

/-- The margin after a backslash and `c`, if that can stand at the end of a line. -/
def Margin.ofEnd? (c : Char) (rest : List Char) : Option Margin :=
  if isBlank c then some .lineEnd
  else if c = '\n' then some .indent
  else if c = '\r' ∧ rest.head? = some '\n' then some .lineEnd
  else none

/-- The line break, or a part of one, that starts with `c`. -/
def startsBreak (c : Char) (rest : List Char) : Bool :=
  c == '\n' || (c == '\r' && rest.head? == some '\n')

/-- Replaces escapes. Only with `lines` may the text have line breaks; a backslash at the
end of a line hides the break and all space after it. -/
def unescape (lines : Bool) : Margin → List Char → Option (List Char)
  | .lineEnd, [] => none
  | _, [] => some []
  | .lineEnd, c :: rest => do unescape lines (← Margin.ofEnd? c rest) rest
  | _, '\\' :: 'x' :: a :: b :: rest => do
    return (← charOfHex? [a, b]) :: (← unescape lines .text rest)
  | _, '\\' :: 'u' :: a :: b :: c :: d :: rest => do
    return (← charOfHex? [a, b, c, d]) :: (← unescape lines .text rest)
  | _, '\\' :: 'U' :: a :: b :: c :: d :: e :: f :: g :: h :: rest => do
    return (← charOfHex? [a, b, c, d, e, f, g, h]) :: (← unescape lines .text rest)
  | _, '\\' :: c :: rest =>
    match shortEscapes.lookup c with
    | some x => do return x :: (← unescape lines .text rest)
    | none => if lines then do unescape lines (← Margin.ofEnd? c rest) rest else none
  | m, c :: rest =>
    if m = .indent ∧ (isBlank c ∨ startsBreak c rest) then unescape lines .indent rest
    else if c ≠ '\\' ∧ (isPlain c ∨ (lines ∧ startsBreak c rest)) then do
      return c :: (← unescape lines .text rest)
    else none

/-- A text without escapes, in which only with `lines` there may be line breaks. -/
def verbatim (lines : Bool) : List Char → Option (List Char)
  | [] => some []
  | c :: rest =>
    if isPlain c ∨ (lines ∧ startsBreak c rest) then do return c :: (← verbatim lines rest)
    else none

/-! ### Strings -/

/-- The two kinds of strings: only the double quote knows escapes. -/
inductive Quote where
  | double
  | single
deriving DecidableEq

def Quote.mark : Quote → Char
  | .double => '"'
  | .single => '\''

/-- The text that the written form of a string stands for. -/
def Quote.content (q : Quote) (lines : Bool) (raw : List Char) : Option String :=
  (match q with
    | .double => unescape lines .text raw
    | .single => verbatim lines raw).map String.ofList

/-- What comes before the next quote. -/
def untilQuote (q : Quote) : Reader (List Char)
  | [] => none
  | [c] => if c = q.mark then some ([], []) else none
  | c :: d :: rest =>
    if c = q.mark then some ([], d :: rest)
    else if q = .double ∧ c = '\\' then
      (untilQuote q rest).map fun (raw, rest) => (c :: d :: raw, rest)
    else (untilQuote q (d :: rest)).map fun (raw, rest) => (c :: raw, rest)

/-- What comes before the next three quotes in a row; up to two more quotes that follow
belong to the text. -/
def untilTriple (q : Quote) : Reader (List Char)
  | [] => none
  | [_] => none
  | c :: d :: rest =>
    if c = q.mark ∧ d = q.mark ∧ rest.head? = some q.mark then
      let quotes := rest.takeWhile (· == q.mark)
      let extra := min (quotes.length - 1) 2
      some (List.replicate extra q.mark, rest.drop (extra + 1))
    else if q = .double ∧ c = '\\' then
      (untilTriple q rest).map fun (raw, rest) => (c :: d :: raw, rest)
    else (untilTriple q (d :: rest)).map fun (raw, rest) => (c :: raw, rest)

/-- A line break at the start of a string of several lines is not part of it. -/
def dropFirstBreak : List Char → List Char
  | '\n' :: rest => rest
  | '\r' :: '\n' :: rest => rest
  | s => s

/-- The quote that a text starts with. -/
def Quote.ofText? : List Char → Option Quote
  | '"' :: _ => some .double
  | '\'' :: _ => some .single
  | _ => none

/-- A string on a single line, from its first quote on. -/
def lineString (q : Quote) : Reader String := fun s => do
  let (raw, rest) ← untilQuote q (s.drop 1)
  return (← q.content false raw, rest)

/-- A string of either length, from its first quote on. -/
def anyString (q : Quote) : Reader String := fun s =>
  if s.take 3 = List.replicate 3 q.mark then do
    let (raw, rest) ← untilTriple q (s.drop 3)
    return (← q.content true (dropFirstBreak raw), rest)
  else lineString q s

/-! ### Keys -/

def isBare (c : Char) : Bool := c.isAlphanum || c == '_' || c == '-'

/-- A single key. -/
def key : Reader String := fun s =>
  match Quote.ofText? s with
  | some q => lineString q s
  | none =>
    match s.takeWhile isBare with
    | [] => none
    | name => some (String.ofList name, s.dropWhile isBare)

/-- One or more keys with dots in between, and the blanks after them; there may be at most
as many as the first argument says. -/
def keysWithin : Nat → Reader (List String)
  | 0, _ => none
  | more + 1, s => do
    let (name, rest) ← key (skipBlanks s)
    match skipBlanks rest with
    | '.' :: rest => do
      let (names, rest) ← keysWithin more rest
      return (name :: names, rest)
    | rest => return ([name], rest)

/-- How deep arrays and tables in brackets may nest, and how many keys dots may join. -/
def depthLimit : Nat := 80

/-- One or more keys with dots in between. -/
def keys : Reader (List String) := keysWithin depthLimit

end Placard.Toml
