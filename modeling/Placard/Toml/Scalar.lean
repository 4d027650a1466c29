/-
Placard/Toml/Scalar.lean

The values that are written without quotes or brackets: truth values, numbers, and dates
and times.
-/
import Placard.Toml.Text
import Placard.Decimal.Nearest

namespace Placard.Toml

open Document

/-! ### Integers -/

/-- The digits of a row in which single underscores may stand between two digits. -/
def digitRow (isDigit : Char → Bool) : List Char → Option (List Char)
  | [] => none
  | [c] => if isDigit c then some [c] else none
  | c :: d :: rest =>
    if isDigit c then
      if d = '_' then (digitRow isDigit rest).map (c :: ·)
      else (digitRow isDigit (d :: rest)).map (c :: ·)
    else none

/-- Decimal digits that do not start with a superfluous zero. -/
def wholeDigits (s : List Char) : Option (List Char) := do
  let digits ← digitRow Char.isDigit s
  if digits.head? = some '0' ∧ 1 < digits.length then none
  return digits

/-- The number that digits of another base denote. -/
def ofBase (base : Nat) (s : List Char) : Option Nat := do
  let digits ← digitRow (fun c => (hexDigit? c).any (· < base)) s
  digits.foldlM (fun n c => (hexDigit? c).map (base * n + ·)) 0

/-- The bases other than ten, by the letter after the leading zero. -/
def bases : List (Char × Nat) := [('x', 16), ('o', 8), ('b', 2)]

/-- An integer of at most 128 bits. -/
def integer? (n : Int) : Option Value :=
  if -0x80000000000000000000000000000000 ≤ n ∧ n < 0x100000000000000000000000000000000 then
    some (.integer n)
  else none

/-! ### Numbers with a fraction or an exponent -/

/-- The power of ten after the letter E. -/
def power? : List Char → Option Int
  | '-' :: s => do return -(Decimal.ofDigits (← digitRow Char.isDigit s) : Int)
  | '+' :: s => do return Decimal.ofDigits (← digitRow Char.isDigit s)
  | s => do return Decimal.ofDigits (← digitRow Char.isDigit s)

def isExponentMark (c : Char) : Bool := c == 'e' || c == 'E'

/-- A number with a fraction, an exponent, or both. -/
def fraction? (negative : Bool) (s : List Char) : Option Value := do
  let mantissa := s.takeWhile (!isExponentMark ·)
  let exponent ←
    match s.dropWhile (!isExponentMark ·) with
    | [] => pure 0
    | _ :: rest => power? rest
  let whole ← wholeDigits (mantissa.takeWhile (· != '.'))
  let places ←
    match mantissa.dropWhile (· != '.') with
    | [] => pure []
    | _ :: rest => digitRow Char.isDigit rest
  let d : Decimal.Scaled := ⟨Decimal.ofDigits (whole ++ places), exponent - places.length⟩
  let x := d.nearest
  if x.isFinite then return .number (if negative then -x else x)
  none

/-- A number after its sign. -/
def unsigned? (negative : Bool) (s : List Char) : Option Value :=
  if s = ['i', 'n', 'f'] then some (.number (if negative then -(1 / 0) else 1 / 0))
  else if s = ['n', 'a', 'n'] then some (.number (0 / 0))
  else if s.any fun c => c == '.' || isExponentMark c then fraction? negative s
  else do
    let n : Int := Decimal.ofDigits (← wholeDigits s)
    integer? (if negative then -n else n)

/-- A number of any kind; one of another base has no sign. -/
def number? : List Char → Option Value
  | '-' :: s => unsigned? true s
  | '+' :: s => unsigned? false s
  | '0' :: c :: s =>
    match bases.lookup c with
    | some base => do integer? (← ofBase base s)
    | none => unsigned? false ('0' :: c :: s)
  | s => unsigned? false s

/-! ### Dates and times -/

/-- The number that two digits denote, if it lies in the given range. -/
def pair? (a b : Char) (least greatest : Nat) : Option Nat :=
  let n := Decimal.ofDigits [a, b]
  if a.isDigit ∧ b.isDigit ∧ least ≤ n ∧ n ≤ greatest then some n else none

/-- How many days a month has. -/
def daysIn (year month : Nat) : Nat :=
  if month = 2 then
    if year % 4 = 0 ∧ (year % 100 ≠ 0 ∨ year % 400 = 0) then 29 else 28
  else if month = 4 ∨ month = 6 ∨ month = 9 ∨ month = 11 then 30
  else 31

/-- Passes over a date. -/
def skipDate? : List Char → Option (List Char)
  | a :: b :: c :: d :: '-' :: m :: n :: '-' :: x :: y :: rest => do
    let century ← pair? a b 0 99
    let year ← pair? c d 0 99
    let month ← pair? m n 1 12
    let _ ← pair? x y 1 (daysIn (100 * century + year) month)
    return rest
  | _ => none

/-- Passes over a fraction of a second. -/
def skipPlaces? : List Char → Option (List Char)
  | '.' :: c :: rest => if c.isDigit then some (rest.dropWhile Char.isDigit) else none
  | '.' :: [] => none
  | s => some s

/-- Passes over a time of day; the seconds may be left out. -/
def skipTime? : List Char → Option (List Char)
  | a :: b :: ':' :: m :: n :: ':' :: x :: y :: rest => do
    let _ ← pair? a b 0 23
    let _ ← pair? m n 0 59
    let _ ← pair? x y 0 60
    skipPlaces? rest
  | a :: b :: ':' :: m :: n :: rest => do
    let _ ← pair? a b 0 23
    let _ ← pair? m n 0 59
    return rest
  | _ => none

/-- The rest of a text after date and time is a time zone, or nothing. -/
def isZone : List Char → Bool
  | [] => true
  | ['Z'] => true
  | ['z'] => true
  | [sign, a, b, ':', m, n] =>
    (sign == '+' || sign == '-') && (pair? a b 0 23).isSome && (pair? m n 0 59).isSome
  | _ => false

/-- A date with or without a time, or a time alone. -/
def isMoment (s : List Char) : Bool :=
  match skipDate? s with
  | some [] => true
  | some (c :: rest) =>
    (c == 'T' || c == 't' || c == ' ') && (skipTime? rest).any isZone
  | none => skipTime? s == some []

/-- A moment is a table with its text under a name of its own. -/
def moment (s : List Char) : Value :=
  .table [("$__toml_private_datetime", .text (String.ofList s))]

/-! ### All of them -/

/-- The value that a word denotes. -/
def scalar? (s : List Char) : Option Value :=
  if s = ['t', 'r', 'u', 'e'] then some (.bool true)
  else if s = ['f', 'a', 'l', 's', 'e'] then some (.bool false)
  else if isMoment s then some (moment s)
  else number? s

/-- A character of a word. -/
def isWordChar (c : Char) : Bool := isBare c || c == '+' || c == '.' || c == ':'

/-- A word, and a second one if the first is a date and a single blank and a digit follow:
the two are one moment. -/
def scalar : Reader Value := fun s => do
  let word := s.takeWhile isWordChar
  let rest := s.dropWhile isWordChar
  match skipDate? word, rest with
  | some [], ' ' :: c :: rest =>
    if c.isDigit then
      let time := (c :: rest).takeWhile isWordChar
      return (← scalar? (word ++ ' ' :: time), (c :: rest).dropWhile isWordChar)
    else return (← scalar? word, ' ' :: c :: rest)
  | _, rest => return (← scalar? word, rest)

end Placard.Toml
