/-
**Shapes of trees.**

A shape lists the fan-outs of a tree from the leaves to the root: the first is the number of hosts
below each leaf router, and every other one is the number of children of each router on its level.
It is written with an `x` between the fan-outs, so `2x4` is a tree with two hosts below every leaf
router and four leaf routers below the root.

Main definitions:

* `Shape` — a non-empty list of positive fan-outs;
* `Shape.ofFanouts` — the only check, and how a shape is made;
* `Shape.parse` and the `ToString` instance — reading and writing;
* `ShapeError` — why there is no shape, with the level or the part to blame.

Main results:

* `Shape.ofFanouts_eq_ok_iff` — every non-empty list of positive numbers is a shape.
-/

import Interconnect.Text.Blank
import Interconnect.Text.Digit
import Interconnect.Text.Fields
import Interconnect.Text.Numeral

set_option autoImplicit false

namespace Interconnect

open Text

/-- Why a text or a list of numbers is not a shape. -/
inductive ShapeError where
  /-- The text is not a list of digits with an `x` between them. -/
  | malformed (text : String)
  /-- A part of the text is not the numeral of a word. -/
  | unreadable (part : String) (cause : NumeralError)
  /-- There is no fan-out. -/
  | noLevels
  /-- The fan-out at a level is zero. -/
  | zeroFanout (level : Nat)
  deriving DecidableEq, Repr

/-- The wording of the error. -/
def ShapeError.message : ShapeError → String
  | malformed text =>
      "invalid shape '" ++ text ++ "', expected 'x'-delimited positive integers such as 2x4"
  | unreadable part cause => "invalid fan-out '" ++ part ++ "' in shape: " ++ cause.message
  | noLevels => "shape must have at least one level"
  | zeroFanout level => "fan-out at level " ++ toString level ++ " must be positive"

/-- The fan-outs of a tree, from the leaves to the root. -/
structure Shape where
  /-- Hosts below a leaf router, then children of a router at level one, two, … -/
  fanouts : List Nat
  /-- There is a level. -/
  fanouts_ne_nil : fanouts ≠ []
  /-- Every router has something below it. -/
  fanout_pos : ∀ f ∈ fanouts, 0 < f
  deriving DecidableEq, Repr

namespace Shape

/-- The shape with given fan-outs. -/
def ofFanouts (fanouts : List Nat) : Except ShapeError Shape :=
  if hne : fanouts = [] then .error .noLevels
  else
    match hz : fanouts.findIdx? (· == 0) with
    | some level => .error (.zeroFanout level)
    | none =>
        .ok ⟨fanouts, hne, fun f hf => Nat.pos_of_ne_zero fun h0 => by
          simpa [h0] using List.findIdx?_eq_none_iff.1 hz f hf⟩

theorem ofFanouts_eq_ok_iff {fanouts : List Nat} {s : Shape} :
    ofFanouts fanouts = .ok s ↔ s.fanouts = fanouts := by
  unfold ofFanouts
  split
  · rename_i h
    simp only [reduceCtorEq, false_iff]
    exact fun hs => s.fanouts_ne_nil (hs.trans h)
  · split
    · rename_i level h
      simp only [reduceCtorEq, false_iff]
      rintro rfl
      have := List.findIdx?_eq_some_iff_getElem.1 h
      obtain ⟨hlt, h0, -⟩ := this
      have := s.fanout_pos _ (List.getElem_mem hlt)
      simp_all
    · rw [Except.ok.injEq]
      constructor
      · rintro rfl; rfl
      · intro hs; cases s; simp_all

/-- The number of levels of routers. -/
def numLevels (s : Shape) : Nat := s.fanouts.length

/-- The fan-out of the routers at a level, if there is such a level. -/
def fanout? (s : Shape) (level : Nat) : Option Nat := s.fanouts[level]?

/-- The number of hosts below a leaf router. -/
def hostsPerLeaf (s : Shape) : Nat := s.fanouts.head s.fanouts_ne_nil

/-- The number of children of the root; of hosts, if the root is the only router. -/
def rootFanout (s : Shape) : Nat := s.fanouts.getLast s.fanouts_ne_nil

theorem hostsPerLeaf_pos (s : Shape) : 0 < s.hostsPerLeaf :=
  s.fanout_pos _ (List.head_mem _)

/-! ### Reading and writing -/

instance : ToString Shape where
  toString s := String.ofList (join 'x' (s.fanouts.map fun f => (toString f).toList))

/-- Whether the parts of a text have the form of a shape: digits of some script in every part. -/
def isWritten (parts : List (List Char)) : Bool :=
  parts.all fun part => !part.isEmpty && part.all isDecimalDigit

/-- Reads one part of the text of a shape. -/
def readFanout (part : List Char) : Except ShapeError Nat :=
  (Numeral.read part).mapError (.unreadable (String.ofList part) ·)

/-- Reads a text, blanks around it allowed. -/
def parse (text : String) : Except ShapeError Shape := do
  let parts := fields 'x' (trimChars text.toList)
  if isWritten parts then ofFanouts (← parts.mapM readFanout)
  else .error (.malformed (trim text))

end Shape

end Interconnect
