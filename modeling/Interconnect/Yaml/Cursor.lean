/-
**Characters and positions in a YAML text.**

A YAML text is read from left to right.  What a character means depends on its column and on the
line it is on, so the position is carried along with the rest of the text.

Main definitions:

* `Yaml.isBreak`, `Yaml.isSpacing`, `Yaml.isWordChar` — the classes of characters;
* `Yaml.isAllowed` — the characters that a text may have at all;
* `Yaml.Cursor` — a position with the rest of the text;
* `Yaml.Cursor.skip`, `Yaml.Cursor.takeBreak` — moving on within a line and to the next line.
-/

set_option autoImplicit false

namespace Interconnect.Yaml

/-! ### Characters -/

/-- The characters that end a line. -/
def isBreak (c : Char) : Bool :=
  c == '\r' || c == '\n' || c == '\u0085' || c == '\u2028' || c == '\u2029'

/-- Space and tab. -/
def isSpacing (c : Char) : Bool := c == ' ' || c == '\t'

/-- The characters of handles, anchors and directives. -/
def isWordChar (c : Char) : Bool := c.isAlphanum || c == '_' || c == '-'

/-- The characters that a YAML text may have. -/
def isAllowed (c : Char) : Bool :=
  let n := c.toNat
  n == 0x9 || n == 0xA || n == 0xD || (0x20 ≤ n && n ≤ 0x7E) || n == 0x85 ||
    (0xA0 ≤ n && n ≤ 0xD7FF) || (0xE000 ≤ n && n ≤ 0xFFFD) || 0x10000 ≤ n

/-! ### Positions -/

/-- A position in a text. -/
structure Cursor where
  /-- The characters from here on. -/
  rest : List Char
  /-- The number of lines before this one. -/
  line : Nat
  /-- The number of characters before this one on the line. -/
  column : Nat
  /-- The number of characters before this one in the text. -/
  index : Nat
  deriving DecidableEq, Repr

namespace Cursor

/-- The start of a text. -/
def start (cs : List Char) : Cursor := { rest := cs, line := 0, column := 0, index := 0 }

/-- The character at the cursor. -/
def peek? (c : Cursor) : Option Char := c.rest.head?

/-- The character at some distance behind the cursor. -/
def peekAt? (c : Cursor) (distance : Nat) : Option Char := c.rest[distance]?

/-- Whether the character at the cursor is the given one. -/
def isAt (c : Cursor) (char : Char) : Bool := c.peek? == some char

/-- Whether the character at some distance is a space, a tab or a line break, or the text ends
there. -/
def endsAt (c : Cursor) (distance : Nat) : Bool :=
  (c.peekAt? distance).all fun ch => isSpacing ch || isBreak ch

/-- Moves on by some characters of the line. -/
def skip (c : Cursor) (n : Nat) : Cursor :=
  { rest := c.rest.drop n, line := c.line, column := c.column + n, index := c.index + n }

/-- The characters at the cursor that belong to a class, and the position behind them.  The class
has no line breaks. -/
def span (c : Cursor) (p : Char → Bool) : List Char × Cursor :=
  (c.rest.takeWhile p, c.skip (c.rest.takeWhile p).length)

/-- Moves on over the characters of a class. -/
def skipWhile (c : Cursor) (p : Char → Bool) : Cursor := (c.span p).2

/-- Moves on to the end of the line. -/
def skipLine (c : Cursor) : Cursor := c.skipWhile fun ch => !isBreak ch

/-- The line break at the cursor and the start of the next line.  All breaks count as a line feed,
except that the line and the paragraph separator stand for themselves.  At any other character
nothing is taken. -/
def takeBreak (c : Cursor) : List Char × Cursor :=
  let next (length : Nat) : Cursor :=
    { rest := c.rest.drop length, line := c.line + 1, column := 0, index := c.index + length }
  match c.rest with
  | '\r' :: '\n' :: _ => (['\n'], next 2)
  | ch :: _ =>
      if ch == '\u2028' || ch == '\u2029' then ([ch], next 1)
      else if isBreak ch then (['\n'], next 1)
      else ([], c)
  | [] => ([], c)

/-- Whether the text ends here. -/
def atEnd (c : Cursor) : Bool := c.rest.isEmpty

/-- Whether a line break is at the cursor. -/
def atBreak (c : Cursor) : Bool := c.peek?.any isBreak

/-- Whether the given marker stands alone at the start of a line, here. -/
def atMarker (c : Cursor) (marker : List Char) : Bool :=
  c.column == 0 && c.rest.take 3 == marker && c.endsAt 3

/-- Whether a line that starts or ends a document is here. -/
def atDocumentMarker (c : Cursor) : Bool := c.atMarker ['-', '-', '-'] || c.atMarker ['.', '.', '.']

end Cursor

end Interconnect.Yaml
