/-
**The shortest decimal of a binary number.**

A binary number is shown with the fewest decimal digits that still read back as the same number,
and of those with the digits nearest to it, the larger of two equally near.  The reals that round to
`m · 2 ^ e` are an interval; its ends belong to it if `m` is even.  For one, two, … digits the two
neighbours of the number on the grid of decimals with so many digits are tried; a grid that has a
point in the interval has such a neighbour in it.

Main definitions:

* `Binary64.interval` — the numbers that round to a given one;
* `Binary64.shortest` — the digits and the power of ten of the shortest decimal;
* `Binary64.positional` — that decimal, written without an exponent.
-/

import Interconnect.Decimal.Binary64

set_option autoImplicit false

namespace Interconnect.Binary64

-- powers are those of the core library, whatever else is imported
attribute [local instance (high)] instPowNat

/-- The number and its interval in units of a quarter of the last binary place. -/
structure Interval where
  /-- The lower end. -/
  lower : Nat
  /-- The number. -/
  value : Nat
  /-- The upper end. -/
  upper : Nat
  /-- Whether the ends belong to the interval. -/
  closed : Bool
  deriving DecidableEq, Repr

/-- The interval of a number.  Below a power of two the numbers are twice as dense. -/
def interval (x : Binary64) : Interval :=
  { lower := 4 * x.mantissa - (if x.mantissa = 2 ^ (52 : Nat) ∧ -1074 < x.exponent then 1 else 2)
    value := 4 * x.mantissa
    upper := 4 * x.mantissa + 2
    closed := x.mantissa % 2 == 0 }

/-- Whether the decimal `n · 10 ^ k` is in an interval with the unit `2 ^ e`. -/
def Interval.holds (i : Interval) (e : Int) (n : Nat) (k : Int) : Bool :=
  -- Both sides are brought to one denominator, a product of powers of two and ten.
  let two := 2 ^ (if 0 ≤ e then e.toNat else 0)
  let half := 2 ^ (if 0 ≤ e then 0 else (-e).toNat)
  let ten := 10 ^ (if 0 ≤ k then k.toNat else 0)
  let tenth := 10 ^ (if 0 ≤ k then 0 else (-k).toNat)
  let point := n * ten * half
  let lower := i.lower * two * tenth
  let upper := i.upper * two * tenth
  if i.closed then lower ≤ point && point ≤ upper else lower < point && point < upper

/-- The number in units of `10 ^ k`, as a quotient. -/
def gridRatio (x : Binary64) (k : Int) : Nat × Nat :=
  let n := x.mantissa * 2 ^ (if 0 ≤ x.exponent then x.exponent.toNat else 0)
  let d := 2 ^ (if 0 ≤ x.exponent then 0 else (-x.exponent).toNat)
  if 0 ≤ k then (n, d * 10 ^ k.toNat) else (n * 10 ^ (-k).toNat, d)

/-- The nearest point in the interval on the grid of multiples of `10 ^ k`; of two the larger. -/
def onGrid? (x : Binary64) (k : Int) : Option Nat :=
  let (n, d) := x.gridRatio k
  let below := n / d
  let candidates := if 2 * (n % d) < d then [below, below + 1] else [below + 1, below]
  candidates.find? fun p => 0 < p && x.interval.holds (x.exponent - 2) p k

/-- An exponent of ten that the number does not reach; the next lower one it reaches, or the one
below that. -/
def magnitude (x : Binary64) : Int :=
  let (n, d) := x.gridRatio 0
  ((Nat.toDigits 10 n).length : Int) - (Nat.toDigits 10 d).length + 1

/-- The fewest digits that read back, as a number of units of a power of ten.  Seventeen digits are
always enough. -/
def shortest (x : Binary64) : Nat × Int :=
  let grids := (List.range 19).map fun (i : Nat) => x.magnitude - (i : Int)
  (grids.findSome? fun k => (x.onGrid? k).map fun p => (p, k)).getD (0, 0)

/-- The decimal in positional notation, with a digit on either side of the point. -/
def positional (x : Binary64) : String :=
  if x.mantissa = 0 then "0.0"
  else
    let (n, k) := x.shortest
    if 0 ≤ k then toString (n * 10 ^ k.toNat) ++ ".0"
    else
      let places := (-k).toNat
      let digits := Nat.toDigits 10 n
      let padded := List.replicate (places + 1 - digits.length) '0' ++ digits
      let whole := padded.take (padded.length - places)
      let fraction := (padded.drop (padded.length - places)).reverse.dropWhile (· == '0')
      String.ofList (whole ++ '.' :: (if fraction.isEmpty then ['0'] else fraction.reverse))

end Interconnect.Binary64
