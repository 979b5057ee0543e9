/-
**Values to be written.**

Netlists, routing tables and configurations are written to files in two formats.  Both write the
same tree of values: texts, numbers, lists, and mappings whose entries keep their order.

Main definitions:

* `Value` — the trees;
* `Value.texts`, `Value.numbers` — lists of leaves;
* `Value.optional` — an entry that is left out if there is nothing to write.
-/

set_option autoImplicit false

namespace Interconnect

/-- A tree of values. -/
inductive Value where
  | text (s : String)
  | number (n : Nat)
  | list (items : List Value)
  | mapping (entries : List (String × Value))
  deriving Repr

namespace Value

/-- A list of texts. -/
def texts (ss : List String) : Value := list (ss.map text)

/-- A list of numbers. -/
def numbers (ns : List Nat) : Value := list (ns.map number)

/-- The entry with a key, or no entry. -/
def optional {α : Type} (key : String) (write : α → Value) (a : Option α) : List (String × Value) :=
  (a.map fun a => (key, write a)).toList

end Value

end Interconnect
