/-
Placard/Number/Binary64.lean

The exact value of a 64-bit floating-point number, and rounding it to integers.

`Exact.ofFloat` reads sign, magnitude and power of two off the bits.  Everything that
has to be exact is computed from it in integers: the floor, the nearest integer, and
(in `Placard.Decimal`) the decimal digits.
-/
import Placard.Pixel

namespace Placard

/-- What a floating-point number stands for: `finite s m q` is `± m · 2^q`. -/
inductive Exact where
  | nan
  | infinite (negative : Bool)
  | finite (negative : Bool) (m : Nat) (q : Int)
deriving DecidableEq, Repr

namespace Exact

/-- The value that the 64 bits `b` encode. -/
def ofBits (b : UInt64) : Exact :=
  let negative := b.toNat / Nat.pow 2 63 == 1
  let e : Nat := b.toNat / Nat.pow 2 52 % Nat.pow 2 11
  let f : Nat := b.toNat % Nat.pow 2 52
  if e = 2047 then
    if f = 0 then infinite negative else nan
  else if e = 0 then finite negative f (-1074)
  else finite negative (Nat.pow 2 52 + f) ((e : Int) - 1075)

/-- The value of `x`. -/
def ofFloat (x : Float) : Exact := ofBits x.toBits

/-- Numerator of the magnitude `m · 2^q`. -/
def numerator (m : Nat) (q : Int) : Nat := m * Nat.pow 2 q.toNat

/-- Denominator of the magnitude `m · 2^q`. -/
def denominator (q : Int) : Nat := Nat.pow 2 (-q).toNat

/-- The greatest integer not above `± m · 2^q`. -/
def floorOf (negative : Bool) (m : Nat) (q : Int) : Int :=
  let n : Int := if negative then -(numerator m q : Int) else numerator m q
  n.fdiv (denominator q : Int)

/-- The integer nearest to `m · 2^q`; of two, the greater. -/
def nearestNat (m : Nat) (q : Int) : Nat :=
  (2 * numerator m q + denominator q) / (2 * denominator q)

/-- The floor as a coordinate: infinities end at the edge of the grid, and what is no
number is at zero. -/
def floorPixel : Exact → Pixel
  | nan => 0
  | infinite true => Pixel.clamp Pixel.least
  | infinite false => Pixel.clamp Pixel.greatest
  | finite s m q => Pixel.clamp (floorOf s m q)

/-- The nearest integer as a coordinate, halves going away from zero. -/
def nearestPixel : Exact → Pixel
  | nan => 0
  | infinite true => Pixel.clamp Pixel.least
  | infinite false => Pixel.clamp Pixel.greatest
  | finite true m q => Pixel.clamp (-(nearestNat m q : Int))
  | finite false m q => Pixel.clamp (nearestNat m q)

end Exact

/-- `x` rounded to a whole number, halves going away from zero; the sign of zero stays,
and what is not finite is left alone. -/
def roundWhole (x : Float) : Float :=
  match Exact.ofFloat x with
  | .finite true m q => -(Float.ofNat (Exact.nearestNat m q))
  | .finite false m q => Float.ofNat (Exact.nearestNat m q)
  | _ => x

end Placard
