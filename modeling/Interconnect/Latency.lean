/-
**Latencies.**

The delay of a link or a router port is a whole number of picoseconds that fits into 64 bits.  It
is written as a decimal number with an optional fraction, blanks, and a unit: `1ns`, `2.5 us`.

Reading is exact.  The digits of the fraction are taken one at a time, each worth a tenth of the
place before it; when the place is down to one picosecond, only zeros may follow.  Writing uses the
largest unit that leaves a whole number.

Main definitions:

* `TimeUnit` — the five units, with their symbols and sizes;
* `Latency` — a number of picoseconds below `2 ^ 64`;
* `Latency.Written` — a latency as it is written, split into digits and unit;
* `Latency.parse` and the `ToString` instance — reading and writing;
* `LatencyError` — a refused text, with the reason.
-/

import Interconnect.Text.Blank
import Interconnect.Text.Digit
import Interconnect.Text.Numeral

set_option autoImplicit false

namespace Interconnect

-- powers are those of the core library, whatever else is imported
attribute [local instance (high)] instPowNat

open Text

/-! ### Units -/

/-- The units in which latencies are written. -/
inductive TimeUnit where
  | second
  | millisecond
  | microsecond
  | nanosecond
  | picosecond
  deriving DecidableEq, Repr

namespace TimeUnit

/-- All units, the largest first. -/
def all : List TimeUnit := [second, millisecond, microsecond, nanosecond, picosecond]

/-- The symbol of a unit. -/
def symbol : TimeUnit → String
  | second => "s"
  | millisecond => "ms"
  | microsecond => "us"
  | nanosecond => "ns"
  | picosecond => "ps"

/-- The size of a unit. -/
def picoseconds : TimeUnit → Nat
  | second => 10 ^ (12 : Nat)
  | millisecond => 10 ^ (9 : Nat)
  | microsecond => 10 ^ (6 : Nat)
  | nanosecond => 10 ^ (3 : Nat)
  | picosecond => 1

/-- The unit with a given symbol. -/
def ofSymbol? (cs : List Char) : Option TimeUnit := all.find? fun u => u.symbol.toList == cs

theorem ofSymbol?_symbol (u : TimeUnit) : ofSymbol? u.symbol.toList = some u := by
  cases u <;> decide

theorem mem_all (u : TimeUnit) : u ∈ all := by cases u <;> decide

theorem picoseconds_pos (u : TimeUnit) : 0 < u.picoseconds := by cases u <;> decide

end TimeUnit

/-! ### Errors -/

/-- What is wrong with the text of a latency. -/
inductive LatencyDefect where
  /-- The text has another form, or its value needs more than 64 bits. -/
  | malformed
  /-- The value is not a whole number of picoseconds. -/
  | subPicosecond
  deriving DecidableEq, Repr

/-- A text that is not taken for a latency; blanks around it are still there. -/
structure LatencyError where
  /-- What is wrong. -/
  defect : LatencyDefect
  /-- The refused text. -/
  text : String
  deriving DecidableEq, Repr

/-- The wording of the error. -/
def LatencyError.message (e : LatencyError) : String :=
  match e.defect with
  | .malformed =>
      "Invalid latency '" ++ e.text ++ "', expected a number followed by ps, ns, us, ms or s"
  | .subPicosecond => "Latency '" ++ e.text ++ "' is not a whole number of picoseconds"

/-! ### The value -/

/-- A delay in whole picoseconds. -/
structure Latency where
  /-- The number of picoseconds. -/
  picoseconds : Nat
  /-- The number fits into 64 bits. -/
  picoseconds_lt : picoseconds < 2 ^ (64 : Nat)
  deriving DecidableEq, Repr

namespace Latency

/-- A number of picoseconds, if it fits. -/
def ofPicoseconds (n : Nat) : Except LatencyDefect Latency :=
  if h : n < 2 ^ (64 : Nat) then .ok ⟨n, h⟩ else .error .malformed

/-- A number of nanoseconds; if its picoseconds do not fit, the multiplication overflows. -/
def ofNanoseconds? (n : Nat) : Option Latency :=
  if h : n * 1000 < 2 ^ (64 : Nat) then some ⟨n * 1000, h⟩ else none

/-- One nanosecond, the delay of whatever has no delay configured. -/
def nanosecond : Latency := (ofNanoseconds? 1).get rfl

/-! ### Writing -/

/-- The unit in which a latency is written: the largest one that divides it. -/
def unit (l : Latency) : TimeUnit :=
  if l.picoseconds = 0 then .picosecond
  else (TimeUnit.all.find? fun u => l.picoseconds % u.picoseconds == 0).getD .picosecond

instance : ToString Latency where
  toString l := toString (l.picoseconds / l.unit.picoseconds) ++ l.unit.symbol

/-! ### Reading -/

/-- A latency as it is written, before its digits are read. -/
structure Written where
  /-- The digits in front of the point. -/
  whole : List Char
  /-- The digits behind the point; there are none without a point. -/
  fraction : List Char
  /-- The unit. -/
  unit : TimeUnit
  deriving DecidableEq, Repr

/-- Splits off a point and the digits behind it; a point without digits is refused. -/
def Written.splitFraction? : List Char → Option (List Char × List Char)
  | '.' :: cs =>
      if (cs.takeWhile isDecimalDigit).isEmpty then none
      else some (cs.takeWhile isDecimalDigit, cs.dropWhile isDecimalDigit)
  | cs => some ([], cs)

/-- Splits the trimmed text of a latency: digits of any script, perhaps a point and more digits,
blanks, and the symbol of a unit. -/
def Written.ofChars? (cs : List Char) : Option Written := do
  let whole := cs.takeWhile isDecimalDigit
  guard (¬ whole.isEmpty)
  let (fraction, rest) ← splitFraction? (cs.dropWhile isDecimalDigit)
  let unit ← TimeUnit.ofSymbol? (trimLeft rest)
  return { whole, fraction, unit }

/-- Adds the digits of a fraction to `total`, where `place` is what one unit of the digit in front
of them is worth. -/
def addFraction (place : Nat) (total : Latency) : List Char → Except LatencyDefect Latency
  | [] => .ok total
  | c :: cs =>
      if ¬ c.isDigit then .error .malformed
      else if place % 10 = 0 then
        (ofPicoseconds (total.picoseconds + (c.toNat - '0'.toNat) * (place / 10))).bind
          (addFraction (place / 10) · cs)
      else if c = '0' then addFraction place total cs
      else .error .subPicosecond

/-- The latency that is written. -/
def Written.read (w : Written) : Except LatencyDefect Latency := do
  match Numeral.read w.whole with
  | .ok n => addFraction w.unit.picoseconds (← ofPicoseconds (n * w.unit.picoseconds)) w.fraction
  | .error _ => .error .malformed

/-- Reads a text, blanks around it allowed. -/
def parse (text : String) : Except LatencyError Latency :=
  match Written.ofChars? (trimChars text.toList) with
  | some w => w.read.mapError fun defect => { defect, text }
  | none => .error { defect := .malformed, text }

end Latency

end Interconnect
