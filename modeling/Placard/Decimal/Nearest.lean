/-
Placard/Decimal/Nearest.lean

The floating-point number nearest to a decimal.

Decimals that are certainly too large or too small are sorted out first, so an exponent of
many digits costs nothing.
-/
import Placard.Decimal.Shortest

namespace Placard.Decimal

/-- Every positive number below `10^(-330)` rounds to zero. -/
def leastPower : Int := -330

/-- Every number from `10^310` on is out of range. -/
def greatestPower : Int := 310

/-- The number nearest to `d`; infinity if it is out of range. -/
def Scaled.nearest (d : Scaled) : Float :=
  let top := (digitCount d.digits : Int) + d.exponent
  if d.digits = 0 ∨ top < leastPower then 0
  else if greatestPower < top then 1 / 0
  else if d.exponent < 0 then Float.ofScientific d.digits true (-d.exponent).toNat
  else Float.ofScientific d.digits false d.exponent.toNat

/-- The number that a row of decimal digits denotes. -/
def ofDigits (digits : List Char) : Nat :=
  digits.foldl (fun n c => 10 * n + (c.toNat - '0'.toNat)) 0

end Placard.Decimal
