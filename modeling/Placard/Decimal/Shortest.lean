/-
Placard/Decimal/Shortest.lean

The shortest decimal that reads back as a given floating-point number.

A positive value `m · 2^q` stands for the interval of reals that round to it.
`readsBack` decides membership of a decimal in that interval by comparing naturals, and
`shortest` tries grids of one, two, … seventeen digits: on each it looks at the two
neighbours of the value, takes the first grid with a neighbour in the interval, and of
two such neighbours the nearer one.  Of two that are equally near a `Tie` chooses.
-/
import Placard.Number.Binary64

namespace Placard.Decimal

open Placard.Exact (numerator denominator)

/-- The number `digits · 10^exponent`. -/
structure Scaled where
  digits : Nat
  exponent : Int
deriving DecidableEq, Repr

/-- Compares `a · 10^i` with `n · 2^j`. -/
def compareScaled (a : Nat) (i : Int) (n : Nat) (j : Int) : Ordering :=
  compare (a * Nat.pow 10 i.toNat * Nat.pow 2 (-j).toNat)
    (n * Nat.pow 2 j.toNat * Nat.pow 10 (-i).toNat)

/-- The neighbour below `m · 2^q` is half as far away as the one above: this happens at
the powers of two, except in the lowest binade. -/
def narrowBelow (m : Nat) (q : Int) : Bool := m == Nat.pow 2 52 && decide (-1074 < q)

/-- `d` lies in the interval of the reals that round to `m · 2^q`; the ends belong to it
exactly when `m` is even. -/
def readsBack (m : Nat) (q : Int) (d : Scaled) : Bool :=
  let low := if narrowBelow m q then 4 * m - 1 else 4 * m - 2
  let closed := m % 2 == 0
  let atLow := compareScaled d.digits d.exponent low (q - 2)
  let atHigh := compareScaled d.digits d.exponent (4 * m + 2) (q - 2)
  (atLow == .gt || (closed && atLow == .eq)) && (atHigh == .lt || (closed && atHigh == .eq))

/-- How many decimal digits `n` has; zero has one. -/
def digitCount (n : Nat) : Nat := (Nat.toDigits 10 n).length

/-- The least `k` with `m · 2^q < 10^k`, for a positive value. -/
def scale (m : Nat) (q : Int) : Int :=
  let whole := numerator m q / denominator q
  if whole = 0 then 1 - (digitCount (denominator q / numerator m q) : Int)
  else digitCount whole

/-- The value divided by `10^j`, rounded down. -/
def floorOnGrid (m : Nat) (q j : Int) : Nat :=
  numerator m q * Nat.pow 10 (-j).toNat / (denominator q * Nat.pow 10 j.toNat)

/-- Which of two neighbours stands for a value in the middle between them. -/
inductive Tie where
  /-- the one with the greater digits -/
  | greater
  /-- the one whose digits are an even number -/
  | even
deriving DecidableEq, Repr

/-- Whether the value stands for the point after `a · 10^j` rather than for that point
itself: it does if it lies beyond the middle of the two, and in the middle as `tie` says. -/
def pastMiddle (tie : Tie) (m : Nat) (q j : Int) (a : Nat) : Bool :=
  match compareScaled (2 * a + 1) j m (q + 1) with
  | .lt => true
  | .gt => false
  | .eq => tie == .greater || a % 2 == 1

/-- The better of the two neighbours on the grid `10^j`, if one of them reads back. -/
def onGrid? (tie : Tie) (m : Nat) (q j : Int) : Option Scaled :=
  let a := floorOnGrid m q j
  let below : Scaled := ⟨a, j⟩
  let above : Scaled := ⟨a + 1, j⟩
  match readsBack m q below, readsBack m q above with
  | true, true => some (if pastMiddle tie m q j a then above else below)
  | true, false => some below
  | false, true => some above
  | false, false => none

/-- Moves trailing zeros of the digits into the exponent. -/
def stripZeros : Nat → Scaled → Scaled
  | 0, d => d
  | fuel + 1, d =>
    if d.digits % 10 = 0 then stripZeros fuel ⟨d.digits / 10, d.exponent + 1⟩ else d

/-- The value itself, written out in full. -/
def exactly (m : Nat) (q : Int) : Scaled :=
  if 0 ≤ q then ⟨m * Nat.pow 2 q.toNat, 0⟩ else ⟨m * Nat.pow 5 (-q).toNat, q⟩

/-- The shortest decimal that reads back as `m · 2^q`, without trailing zeros; zero for
zero. -/
def shortest (tie : Tie) (m : Nat) (q : Int) : Scaled :=
  if m = 0 then ⟨0, 0⟩
  else
    let top := scale m q
    match (List.range 17).findSome? fun n => onGrid? tie m q (top - (n + 1 : Nat)) with
    | some d => stripZeros 18 d
    | none => exactly m q

/-- The digits with a point after the first `whole` of them; zeros are added on either
side where the digits do not reach. -/
def Scaled.positional (d : Scaled) : String × String :=
  let text := Nat.toDigits 10 d.digits
  let whole := (text.length : Int) + d.exponent
  if 0 ≤ d.exponent then
    (String.ofList (text ++ List.replicate d.exponent.toNat '0'), "")
  else if 0 < whole then
    (String.ofList (text.take whole.toNat), String.ofList (text.drop whole.toNat))
  else
    ("0", String.ofList (List.replicate (-whole).toNat '0' ++ text))

end Placard.Decimal
