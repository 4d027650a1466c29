/-
Placard/Decimal/Text.lean

The written forms of floating-point numbers.

All of them write the shortest digits that read back, except `tenths`, which rounds the
exact value to one place.  `plain` never uses an exponent and drops an empty fraction;
`pointed` keeps at least one digit after the point; `compact` changes to an exponent
outside of the range from 10⁻⁵ to 10¹⁶.  Where two shortest decimals are equally near,
`plain` and `pointed` take the greater one and `compact` the even one.
-/
import Placard.Decimal.Shortest

namespace Placard.Decimal

/-- A minus sign for a negative number, zero included. -/
def sign (negative : Bool) : String := if negative then "-" else ""

/-- The text of an infinity. -/
def infinity (negative : Bool) : String := sign negative ++ "inf"

/-- Positional, without an empty fraction: `1`, `-0`, `0.05`. -/
def plain (x : Float) : String :=
  match Exact.ofFloat x with
  | .nan => "NaN"
  | .infinite s => infinity s
  | .finite s m q =>
    let (whole, fraction) := (shortest .greater m q).positional
    sign s ++ whole ++ (if fraction.isEmpty then "" else "." ++ fraction)

/-- Digits in positional form, with at least one of them after the point. -/
def Scaled.pointedText (d : Scaled) (negative : Bool) : String :=
  let (whole, fraction) := d.positional
  sign negative ++ whole ++ "." ++ (if fraction.isEmpty then "0" else fraction)

/-- Positional, with at least one digit after the point: `1.0`, `-0.0`. -/
def pointed (x : Float) : String :=
  match Exact.ofFloat x with
  | .nan => "NaN"
  | .infinite s => infinity s
  | .finite s m q => (shortest .greater m q).pointedText s

/-- Positional with at least one digit after the point for magnitudes from 10⁻⁵ up to
10¹⁶, and with a signed exponent outside of them: `1.0`, `1e+16`, `1.5e-7`. -/
def compact (x : Float) : String :=
  match Exact.ofFloat x with
  | .nan => "NaN"
  | .infinite s => infinity s
  | .finite s m q =>
    let d := shortest .even m q
    let text := Nat.toDigits 10 d.digits
    let lead := (text.length : Int) + d.exponent - 1
    if d.digits = 0 ∨ (-5 ≤ lead ∧ lead < 16) then d.pointedText s
    else
      let mantissa := match text with
        | [c] => String.ofList [c]
        | c :: rest => String.ofList (c :: '.' :: rest)
        | [] => ""
      sign s ++ mantissa ++ "e" ++ (if 0 ≤ lead then "+" else "") ++ toString lead

/-- Rounded to one place, a half going to the even neighbour: `5.8`, `200.2`, `-0.0`. -/
def tenths (x : Float) : String :=
  match Exact.ofFloat x with
  | .nan => "NaN"
  | .infinite s => infinity s
  | .finite s m q =>
    let num := 10 * Exact.numerator m q
    let den := Exact.denominator q
    let low := num / den
    let n := match compare (2 * (num % den)) den with
      | .lt => low
      | .gt => low + 1
      | .eq => low + low % 2
    sign s ++ toString (n / 10) ++ "." ++ toString (n % 10)

end Placard.Decimal
