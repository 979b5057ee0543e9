/-
**What an unquoted scalar means.**

An unquoted scalar in a YAML text is a null, a truth value, an integer, a floating-point number or a
text, by its characters alone.  A text that would be taken for something else has to be quoted when
it is written.

Main definitions:

* `Yaml.Resolved` — the kinds of values with what was read;
* `Yaml.resolve` — what an unquoted scalar means;
* `Yaml.unsigned?`, `Yaml.negative?`, `Yaml.float?` — the forms of numbers;
* `Yaml.isAmbiguous` — whether a text has to be quoted to stay a text.
-/

import Interconnect.Decimal.Shortest
import Interconnect.Text.Numeral

set_option autoImplicit false

namespace Interconnect.Yaml

-- powers are those of the core library, whatever else is imported
attribute [local instance (high)] instPowNat

/-! ### Words -/

/-- The words for null. -/
def isNullWord (text : String) : Bool := ["~", "null", "Null", "NULL"].contains text

/-- The words for truth values. -/
def bool? (text : String) : Option Bool :=
  if ["true", "True", "TRUE"].contains text then some true
  else if ["false", "False", "FALSE"].contains text then some false
  else none

/-! ### Integers -/

/-- The value of a digit, letters of both cases standing for the digits from ten on. -/
def digitValue (c : Char) : Nat :=
  if c.isDigit then c.toNat - '0'.toNat
  else if 'a' ≤ c ∧ c ≤ 'z' then c.toNat - 'a'.toNat + 10
  else if 'A' ≤ c ∧ c ≤ 'Z' then c.toNat - 'A'.toNat + 10
  else 36

/-- The number that a non-empty list of digits denotes in a base. -/
def inBase? (base : Nat) (cs : List Char) : Option Nat :=
  if ¬ cs.isEmpty ∧ cs.all (fun c => digitValue c < base) then
    some (cs.foldl (fun n c => n * base + digitValue c) 0)
  else none

/-- Whether a text is a zero with more digits behind it, perhaps with a sign in front.  Such a text
is no number. -/
def hasLeadingZero (cs : List Char) : Bool :=
  match cs with
  | '-' :: '0' :: c :: rest => (c :: rest).all Char.isDigit
  | '+' :: '0' :: c :: rest => (c :: rest).all Char.isDigit
  | '0' :: c :: rest => (c :: rest).all Char.isDigit
  | _ => false

/-- The number that digits denote, in the base that the characters in front of them say. -/
def magnitude? : List Char → Option Nat
  | '0' :: 'x' :: cs => inBase? 16 cs
  | '0' :: 'o' :: cs => inBase? 8 cs
  | '0' :: 'b' :: cs => inBase? 2 cs
  | cs => if hasLeadingZero cs then none else inBase? 10 cs

/-- A non-negative integer, perhaps with a plus sign. -/
def unsigned? : List Char → Option Nat
  | '+' :: cs => magnitude? cs
  | cs => magnitude? cs

/-- The magnitude of an integer with a minus sign. -/
def negative? : List Char → Option Nat
  | '-' :: cs => magnitude? cs
  | _ => none

/-- An integer that fits into 128 bits. -/
def integer? (cs : List Char) : Option Int :=
  match (unsigned? cs).filter (· < 2 ^ (128 : Nat)),
    (negative? cs).filter (· ≤ 2 ^ (127 : Nat)) with
  | some n, _ => some n
  | none, some n => some (-n)
  | none, none => none

/-! ### Floating-point numbers -/

/-- A floating-point number. -/
inductive FloatValue where
  /-- A finite number with its sign, which zero has as well. -/
  | finite (negative : Bool) (magnitude : Binary64)
  /-- An infinity. -/
  | infinite (negative : Bool)
  /-- Not a number. -/
  | notANumber
  deriving DecidableEq, Repr

instance : ToString FloatValue where
  toString
    | .finite negative x => (if negative then "-" else "") ++ x.positional
    | .infinite negative => (if negative then "-" else "") ++ "inf"
    | .notANumber => "NaN"

/-- The exponent behind the digits of a decimal: nothing, or the letter and a signed numeral. -/
def decimalExponent? : List Char → Option Int
  | [] => some 0
  | e :: cs =>
      if e = 'e' ∨ e = 'E' then
        match cs with
        | '-' :: ds => (inBase? 10 ds).map fun n => -(n : Int)
        | '+' :: ds => (inBase? 10 ds).map fun n => (n : Int)
        | ds => (inBase? 10 ds).map fun n => (n : Int)
      else none

/-- A decimal `n · 10 ^ k` without a sign: digits with a point among them or at an end, and perhaps
an exponent. -/
def decimal? (cs : List Char) : Option (Nat × Int) := do
  let whole := cs.takeWhile Char.isDigit
  let rest := cs.dropWhile Char.isDigit
  let (fraction, rest) :=
    match rest with
    | '.' :: rest => (rest.takeWhile Char.isDigit, rest.dropWhile Char.isDigit)
    | rest => ([], rest)
  let n ← inBase? 10 (whole ++ fraction)
  let k ← decimalExponent? rest
  return (n, k - fraction.length)

/-- A finite number with an optional sign. -/
def finite? (cs : List Char) : Option FloatValue := do
  let (negative, digits) :=
    match cs with
    | '-' :: ds => (true, ds)
    | '+' :: ds => (false, ds)
    | ds => (false, ds)
  let (n, k) ← decimal? digits
  return .finite negative (← Binary64.ofDecimal? n k)

/-- A floating-point number: a finite decimal or one of the words for the others. -/
def float? (text : String) : Option FloatValue :=
  if [".inf", ".Inf", ".INF", "+.inf", "+.Inf", "+.INF"].contains text then some (.infinite false)
  else if ["-.inf", "-.Inf", "-.INF"].contains text then some (.infinite true)
  else if [".nan", ".NaN", ".NAN"].contains text then some .notANumber
  else finite? text.toList

/-! ### Resolution -/

/-- What a scalar means. -/
inductive Resolved where
  | null
  | bool (value : Bool)
  | integer (value : Int)
  | float (value : FloatValue)
  | text
  deriving DecidableEq, Repr

/-- What an unquoted scalar means.  The order matters for integers, which are decimals as well. -/
def resolve (text : String) : Resolved :=
  if text.isEmpty ∨ isNullWord text then .null
  else
    match bool? text with
    | some b => .bool b
    | none =>
        match integer? text.toList with
        | some n => .integer n
        | none =>
            if hasLeadingZero text.toList then .text
            else
              match float? text with
              | some x => .float x
              | none => .text

/-- Whether an unquoted text would be taken for something else, or for a number by other readers. -/
def isAmbiguous (text : String) : Bool :=
  resolve text != .text || hasLeadingZero text.toList

end Interconnect.Yaml
