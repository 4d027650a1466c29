/-
Placard/Document/Mismatch.lean

The ways in which a structured value can fail to be what a reader wants, and how each is
reported.  The two file formats differ in how they write a number with a fraction.
-/
import Placard.Document.Value
import Placard.Document.Unshown
import Placard.Decimal.Text

namespace Placard.Document

/-- The format a value came from. -/
inductive Format where
  | json
  | toml
deriving DecidableEq, Repr

/-- How a number with a fraction is quoted. -/
def Format.number : Format → Float → String
  | .json => Decimal.compact
  | .toml => Decimal.pointed

/-- What a reader found in place of what it wanted. -/
inductive Found where
  | null
  | bool (b : Bool)
  | integer (n : Int)
  | number (x : Float)
  | text (s : String)
  | list
  | table
  /-- the name of a variant without its content -/
  | bareVariant

/-- The outside of a value. -/
def Value.found : Value → Found
  | null => .null
  | bool b => .bool b
  | integer n => .integer n
  | number x => .number x
  | text s => .text s
  | list _ => .list
  | table _ => .table

/-- Why a value was refused. -/
inductive Mismatch where
  | wrongType (found : Found) (wanted : String)
  | wrongValue (found : Found) (wanted : String)
  | wrongLength (count : Nat) (wanted : String)
  | unknownVariant (name : String) (known : List String)
  | missingField (name : String)
  /-- none of the forms of a value that may have several -/
  | noForm (type : String)

/-- The text between a pair of quoting marks of its own: `"` and `\` are escaped, and so
are the characters that cannot be shown. -/
def quoted (s : String) : String :=
  "\"" ++ String.join (s.toList.map escape) ++ "\""
where
  escape (c : Char) : String :=
    if c = '"' then "\\\""
    else if c = '\\' then "\\\\"
    else if c = '\n' then "\\n"
    else if c = '\r' then "\\r"
    else if c = '\t' then "\\t"
    else if c = '\x00' then "\\0"
    else if isUnshown c then
      "\\u\x7b" ++ String.ofList (Nat.toDigits 16 c.toNat) ++ "\x7d"
    else c.toString

namespace Found

/-- What was found, in words. -/
def words (format : Format) : Found → String
  | null => "null"
  | bool b => "boolean `" ++ (if b then "true" else "false") ++ "`"
  | integer n => "integer `" ++ toString n ++ "`"
  | number x => "floating point `" ++ format.number x ++ "`"
  | text s => "string " ++ quoted s
  | list => "sequence"
  | table => "map"
  | bareVariant => "unit variant"

end Found

namespace Mismatch

/-- The variants to choose from, in words. -/
def choices : List String → String
  | [] => "there are no variants"
  | [a] => "expected `" ++ a ++ "`"
  | [a, b] => "expected `" ++ a ++ "` or `" ++ b ++ "`"
  | names => "expected one of " ++ String.intercalate ", " (names.map fun n => "`" ++ n ++ "`")

/-- The report of a mismatch. -/
def message (format : Format) : Mismatch → String
  | wrongType found wanted => "invalid type: " ++ found.words format ++ ", expected " ++ wanted
  | wrongValue found wanted => "invalid value: " ++ found.words format ++ ", expected " ++ wanted
  | wrongLength count wanted => "invalid length " ++ toString count ++ ", expected " ++ wanted
  | unknownVariant name known => "unknown variant `" ++ name ++ "`, " ++ choices known
  | missingField name => "missing field `" ++ name ++ "`"
  | noForm type => "data did not match any variant of untagged enum " ++ type

end Mismatch

end Placard.Document
