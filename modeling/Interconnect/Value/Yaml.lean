/-
**Values as YAML.**

Mappings and lists are blocks.  The entries of a mapping inside another one are indented by two
spaces; the dashes of a list stand below the key.  A text is written without quotes if it stays the
same text that way.  If it does not, it is written in single quotes, with line breaks in it as a
literal block, and if that cannot hold it either, in double quotes with escapes.

Main definitions:

* `Value.TextStyle`, `Value.textStyle` — the four ways to write a text, and the choice;
* `Value.yamlText` — a text in its style;
* `Value.yaml` — a value as YAML.
-/

import Interconnect.Value.Basic
import Interconnect.Yaml.Resolution

set_option autoImplicit false

namespace Interconnect.Value

/-! ### The choice of a style -/

/-- How a text is written. -/
inductive TextStyle where
  | plain
  | single
  | double
  | literal
  deriving DecidableEq, Repr

/-- The line breaks that may stand in a text as they are. -/
def isLineBreak (c : Char) : Bool := c == '\n' || c == '\u2028' || c == '\u2029'

/-- The characters that can only be written as an escape. -/
def needsEscape (c : Char) : Bool :=
  let n := c.toNat
  (n < 0x20 && n != 0xA) || (0x7F ≤ n && n ≤ 0x9F) || n == 0xFEFF || n == 0xFFFE || n == 0xFFFF

/-- Whether a blank or the end of the text is next. -/
def blankNext : List Char → Bool
  | [] => true
  | c :: _ => c == ' ' || c == '\t' || isLineBreak c

/-- Whether a colon before a blank or a number sign behind one is in a text, which would end it or
start a comment. -/
def hasIndicator (afterBlank : Bool) : List Char → Bool
  | [] => false
  | c :: cs =>
      (c == ':' && blankNext cs) || (c == '#' && afterBlank) ||
        hasIndicator (c == ' ' || isLineBreak c) cs

/-- Whether a text starts like something else. -/
def startsLikeMarkup (cs : List Char) : Bool :=
  cs.take 3 == ['-', '-', '-'] || cs.take 3 == ['.', '.', '.'] ||
    match cs with
    | [] => false
    | c :: cs =>
        "#,[]\x7b\x7d&*!|>'\"%@`".toList.contains c ||
          ("?:-".toList.contains c && blankNext cs)

/-- Whether a space is right before a line break. -/
def hasSpaceBeforeBreak : List Char → Bool
  | [] => false
  | c :: cs =>
      (c == ' ' && (match cs with | [] => false | d :: _ => isLineBreak d)) ||
        hasSpaceBeforeBreak cs

/-- Whether a space is right behind a line break. -/
def hasSpaceAfterBreak : List Char → Bool
  | [] => false
  | c :: cs =>
      (isLineBreak c && cs.head? == some ' ') || hasSpaceAfterBreak cs

/-- The style of a text. -/
def textStyle (s : String) : TextStyle :=
  let cs := s.toList
  let inDouble := cs.any needsEscape || hasSpaceBeforeBreak cs
  if cs.contains '\n' then
    if inDouble || cs.getLast? == some ' ' then .double else .literal
  else if inDouble || hasSpaceAfterBreak cs then .double
  else if Yaml.isAmbiguous s || cs.head? == some ' ' || cs.getLast? == some ' ' ||
      startsLikeMarkup cs || hasIndicator true cs || cs.any isLineBreak then .single
  else .plain

/-! ### Texts -/

/-- A number in hexadecimal with at least the given number of digits. -/
def hex (width n : Nat) : List Char :=
  let digits := (Nat.toDigits 16 n).map Char.toUpper
  List.replicate (width - digits.length) '0' ++ digits

/-- What stands for a character in double quotes. -/
def yamlChar (c : Char) : List Char :=
  match c with
  | '\x00' => ['\\', '0']
  | '\x07' => ['\\', 'a']
  | '\x08' => ['\\', 'b']
  | '\t' => ['\\', 't']
  | '\n' => ['\\', 'n']
  | '\x0b' => ['\\', 'v']
  | '\x0c' => ['\\', 'f']
  | '\r' => ['\\', 'r']
  | '\x1b' => ['\\', 'e']
  | '"' => ['\\', '"']
  | '\\' => ['\\', '\\']
  | '\u0085' => ['\\', 'N']
  | '\u2028' => ['\\', 'L']
  | '\u2029' => ['\\', 'P']
  | c =>
      if ¬ needsEscape c then [c]
      else if c.toNat ≤ 0xFF then '\\' :: 'x' :: hex 2 c.toNat
      else '\\' :: 'u' :: hex 4 c.toNat

/-- Indents the lines of a text behind its breaks; empty lines stay empty. -/
def indentLines (indent : Nat) (atStart : Bool) : List Char → List Char
  | [] => []
  | c :: cs =>
      if isLineBreak c then c :: indentLines indent true cs
      else (if atStart then List.replicate indent ' ' else []) ++ c :: indentLines indent false cs

/-- The signs behind the bar of a literal block: a two if the text starts with a blank, and what
happens to the breaks at its end. -/
def literalSigns (cs : List Char) : List Char :=
  let ending :=
    match cs.reverse with
    | [] => ['-']
    | [c] => if isLineBreak c then ['+'] else ['-']
    | c :: d :: _ => if isLineBreak c then (if isLineBreak d then ['+'] else []) else ['-']
  (if cs.head?.any fun c => c == ' ' || isLineBreak c then ['2'] else []) ++ ending

/-- Writes a text whose further lines are indented, and ends the line. -/
def yamlText (indent : Nat) (s : String) : String :=
  let cs := s.toList
  match textStyle s with
  | .plain => s ++ "\n"
  | .single =>
      let quoted := cs.flatMap fun c => if c == '\'' then ['\'', '\''] else [c]
      let lines := indentLines indent false quoted
      let closing := if cs.getLast?.any isLineBreak then List.replicate indent ' ' else []
      "'" ++ String.ofList (lines ++ closing) ++ "'\n"
  | .double => "\"" ++ String.ofList (cs.flatMap yamlChar) ++ "\"\n"
  | .literal =>
      let ending := if cs.getLast?.any isLineBreak then "" else "\n"
      "|" ++ String.ofList (literalSigns cs) ++ "\n" ++
        String.ofList (indentLines indent true cs) ++
        ending

/-! ### Values -/

/-- Spaces at the start of a line. -/
def spaces (n : Nat) : String := "".pushn ' ' n

mutual

/-- A value behind a key or a dash at the given column, up to the end of its last line. -/
def yamlAt (column : Nat) (behindKey : Bool) : Value → String
  | text s => " " ++ yamlText (column + 2) s
  | number n => " " ++ toString n ++ "\n"
  | list [] => " []\n"
  | list (v :: vs) =>
      if behindKey then "\n" ++ yamlItems column (v :: vs)
      else " -" ++ yamlAt (column + 2) false v ++ yamlItems (column + 2) vs
  | mapping [] => " \x7b\x7d\n"
  | mapping ((key, v) :: es) =>
      if behindKey then "\n" ++ yamlEntries (column + 2) ((key, v) :: es)
      else " " ++ key ++ ":" ++ yamlAt (column + 2) true v ++ yamlEntries (column + 2) es

/-- The items of a list, with their dashes at a column. -/
def yamlItems (column : Nat) : List Value → String
  | [] => ""
  | v :: vs => spaces column ++ "-" ++ yamlAt column false v ++ yamlItems column vs

/-- The entries of a mapping, with their keys at a column. -/
def yamlEntries (column : Nat) : List (String × Value) → String
  | [] => ""
  | (key, v) :: es => spaces column ++ key ++ ":" ++ yamlAt column true v ++ yamlEntries column es

end

/-- A value as YAML.  The root is written without indentation. -/
def yaml : Value → String
  | mapping (e :: es) => yamlEntries 0 (e :: es)
  | list (v :: vs) => yamlItems 0 (v :: vs)
  | text s => yamlText 2 s
  | number n => toString n ++ "\n"
  | list [] => "[]\n"
  | mapping [] => "\x7b\x7d\n"

end Interconnect.Value
