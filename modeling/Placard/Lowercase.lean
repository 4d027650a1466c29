/-
Placard/Lowercase.lean

The lower case of a text.

Most characters have one character as their lower case, which is found among the `runs`.  The
capital I with a dot has two, and that of a capital sigma depends on where in a word it stands.
-/
import Placard.Lowercase.Runs
import Placard.Lowercase.Sigma

namespace Placard.Lowercase

/-- The lower case of a character that stands alone. -/
def ofChar (c : Char) : List Char :=
  if c.toNat < 128 then [c.toLower]
  else if c = '\u0130' then ['i', '\u0307']
  else [(runs.findSome? (·.lower? c)).getD c]

/-- The lower case of a character between `before`, which is read backwards, and `after`. -/
def inPlace (before : List Char) (c : Char) (after : List Char) : List Char :=
  if c = 'Σ' ∧ isFinal before after then ['ς'] else ofChar c

/-- The lower case of the characters that follow `before`. -/
def ofChars (before : List Char) : List Char → List Char
  | [] => []
  | c :: after => inPlace before c after ++ ofChars (c :: before) after

/-- The lower case of a text. -/
def ofString (text : String) : String := String.ofList (ofChars [] text.toList)

end Placard.Lowercase
