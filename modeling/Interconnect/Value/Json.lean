/-
**Values as JSON.**

Every item and every entry is on a line of its own, indented by two spaces for each level; an empty
list or mapping is a pair of brackets.  There is no line break at the end.

Main definitions:

* `Value.jsonText` — a text in double quotes;
* `Value.json` — a value as JSON.
-/

import Interconnect.Value.Basic

set_option autoImplicit false

namespace Interconnect.Value

/-- What stands for a character between quotes: quotes, backslashes and control characters are
escaped, and nothing else. -/
def jsonChar (c : Char) : List Char :=
  match c with
  | '"' => ['\\', '"']
  | '\\' => ['\\', '\\']
  | '\x08' => ['\\', 'b']
  | '\t' => ['\\', 't']
  | '\n' => ['\\', 'n']
  | '\x0c' => ['\\', 'f']
  | '\r' => ['\\', 'r']
  | c =>
      if c.toNat < 0x20 then
        ['\\', 'u', '0', '0', Nat.digitChar (c.toNat / 16), Nat.digitChar (c.toNat % 16)]
      else [c]

/-- A text in double quotes. -/
def jsonText (s : String) : String :=
  String.ofList ('"' :: s.toList.flatMap jsonChar ++ ['"'])

/-- The start of a line that is indented by some levels. -/
def jsonLine (depth : Nat) : String := "\n" ++ "".pushn ' ' (2 * depth)

mutual

/-- A value as JSON; the lines inside of it are indented one level more than `depth`. -/
def jsonAt (depth : Nat) : Value → String
  | text s => jsonText s
  | number n => toString n
  | list [] => "[]"
  | list (v :: vs) =>
      "[" ++ jsonLine (depth + 1) ++ jsonAt (depth + 1) v ++ jsonItems (depth + 1) vs ++
        jsonLine depth ++ "]"
  | mapping [] => "\x7b\x7d"
  | mapping ((key, v) :: es) =>
      "\x7b" ++ jsonLine (depth + 1) ++ jsonText key ++ ": " ++ jsonAt (depth + 1) v ++
        jsonEntries (depth + 1) es ++ jsonLine depth ++ "\x7d"

/-- The items of a list behind the first. -/
def jsonItems (depth : Nat) : List Value → String
  | [] => ""
  | v :: vs => "," ++ jsonLine depth ++ jsonAt depth v ++ jsonItems depth vs

/-- The entries of a mapping behind the first. -/
def jsonEntries (depth : Nat) : List (String × Value) → String
  | [] => ""
  | (key, v) :: es =>
      "," ++ jsonLine depth ++ jsonText key ++ ": " ++ jsonAt depth v ++ jsonEntries depth es

end

/-- A value as JSON. -/
def json (v : Value) : String := jsonAt 0 v

end Interconnect.Value
