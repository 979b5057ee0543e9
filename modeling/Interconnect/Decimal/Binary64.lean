/-
**The nearest binary floating-point number.**

A number with a point or an exponent in a configuration is read as a double-precision number before
it is refused, and the message shows the number that was read.  So a decimal has to be rounded to
the nearest number of the form `m · 2 ^ e` with at most 53 binary digits, a tie going to the even
one.  All of this is done exactly, on natural numbers.

Main definitions:

* `Binary64` — a non-negative finite number `m · 2 ^ e`;
* `Binary64.ofRatio?` — the number nearest to a quotient, unless it is too large;
* `Binary64.ofDecimal?` — the number nearest to `n · 10 ^ k`.
-/

set_option autoImplicit false

namespace Interconnect

-- powers are those of the core library, whatever else is imported
attribute [local instance (high)] instPowNat

/-- A non-negative finite number of double precision: `mantissa · 2 ^ exponent`. -/
structure Binary64 where
  /-- At most 53 binary digits; exactly 53 unless the exponent is the least one. -/
  mantissa : Nat
  /-- From -1074 to 971. -/
  exponent : Int
  deriving DecidableEq, Repr

namespace Binary64

/-- Zero. -/
def zero : Binary64 := ⟨0, -1074⟩

/-- The natural number nearest to a quotient; a tie goes to the even one. -/
def roundDiv (n d : Nat) : Nat :=
  let q := n / d
  let r := n % d
  if 2 * r < d then q
  else if d < 2 * r then q + 1
  else if q % 2 = 0 then q else q + 1

/-- A quotient divided by a power of two, as a quotient. -/
def scale (n d : Nat) (e : Int) : Nat × Nat :=
  if 0 ≤ e then (n, d * 2 ^ e.toNat) else (n * 2 ^ (-e).toNat, d)

/-- The least exponent for which a positive quotient has at most 53 binary digits in front of the
point, and not below the least exponent of all. -/
def exponentFor (n d : Nat) : Int :=
  let e : Int := (n.log2 : Int) - d.log2 - 53
  let e := if (scale n d e).1 / (scale n d e).2 < 2 ^ (53 : Nat) then e else e + 1
  max e (-1074)

/-- The number nearest to a quotient, if it is not beyond the largest number. -/
def ofRatio? (n d : Nat) : Option Binary64 :=
  if n = 0 then some zero
  else
    let e := exponentFor n d
    let m := roundDiv (scale n d e).1 (scale n d e).2
    let x : Binary64 := if m = 2 ^ (53 : Nat) then ⟨2 ^ (52 : Nat), e + 1⟩ else ⟨m, e⟩
    if x.exponent ≤ 971 then some x else none

/-- The number nearest to `n · 10 ^ k`, if it is not beyond the largest number.  Decimals that are
far out of range are told apart by the number of their digits. -/
def ofDecimal? (n : Nat) (k : Int) : Option Binary64 :=
  let digits : Int := (Nat.toDigits 10 n).length
  if n = 0 then some zero
  else if 310 < digits + k then none
  else if digits + k < -330 then some zero
  else if 0 ≤ k then ofRatio? (n * 10 ^ k.toNat) 1
  else ofRatio? n (10 ^ (-k).toNat)

end Binary64

end Interconnect
