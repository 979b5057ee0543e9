/-
**Texts of scalars.**

A scalar may go over several lines.  Outside of block scalars a line break inside a scalar is
folded: with the blanks around it, a single break becomes a space, and of several breaks the first
is dropped.  A block scalar keeps its breaks, or folds those between lines that are not indented
further, and says by a sign what happens to the breaks at its end.

The functions of this module take a cursor at the scalar and return the text with the cursor behind
it, or nothing if the scalar is not well formed.  Loops over lines are bounded by the number of
characters that are left, of which every round takes one.

Main definitions:

* `Yaml.Gap`, `Yaml.Gap.folded` — what is between two words, and what it stands for;
* `Yaml.plainText?` — a scalar without quotes;
* `Yaml.quotedText?` — a scalar in single or double quotes;
* `Yaml.blockText?` — a literal or folded block scalar.
-/

import Interconnect.Yaml.Cursor
import Interconnect.Yaml.Resolution

set_option autoImplicit false

namespace Interconnect.Yaml

/-! ### Gaps between words -/

/-- What is between two words of a scalar. -/
inductive Gap where
  /-- Spaces and tabs, perhaps none. -/
  | spacing (cs : List Char)
  /-- A line break and those behind it.  The first is missing if it was escaped. -/
  | breaks (first more : List Char)
  deriving DecidableEq, Repr

/-- What a gap stands for. -/
def Gap.folded : Gap → List Char
  | spacing cs => cs
  | breaks first more =>
      if first = ['\n'] then (if more.isEmpty then [' '] else more) else first ++ more

/-- Whether a gap goes over the end of a line. -/
def Gap.isBreaks (g : Gap) : Bool := g matches .breaks _ _

/-- Takes the spaces, tabs and breaks at the cursor.  At the start of a line, a tab is refused in
the columns before `margin`. -/
def takeGap? (margin : Nat) : Nat → Cursor → Gap → Option (Gap × Cursor)
  | 0, c, gap => some (gap, c)
  | steps + 1, c, gap =>
      match c.peek? with
      | none => some (gap, c)
      | some ch =>
          if isSpacing ch then
            match gap with
            | .spacing cs => takeGap? margin steps (c.skip 1) (.spacing (cs ++ [ch]))
            | .breaks _ _ =>
                if ch == '\t' && c.column < margin then none
                else takeGap? margin steps (c.skip 1) gap
          else if isBreak ch then
            match gap with
            | .spacing _ => takeGap? margin steps c.takeBreak.2 (.breaks c.takeBreak.1 [])
            | .breaks first more =>
                takeGap? margin steps c.takeBreak.2 (.breaks first (more ++ c.takeBreak.1))
          else some (gap, c)

/-! ### Plain scalars -/

/-- Whether the colon at the start of a text ends a plain scalar. -/
def colonEnds (next : Option Char) : Bool := next.all fun ch => isSpacing ch || isBreak ch

/-- The characters of a plain scalar up to the next gap or its end.  Between brackets, brackets and
commas end the scalar, and a colon must not stand before one. -/
def plainWord? (inFlow : Bool) : List Char → Option (List Char)
  | [] => some []
  | c :: cs =>
      if isSpacing c || isBreak c then some []
      else if inFlow && c == ':' && cs.head?.any ",?[]\x7b\x7d".toList.contains then none
      else if c == ':' && colonEnds cs.head? then some []
      else if inFlow && ",[]\x7b\x7d".toList.contains c then some []
      else (plainWord? inFlow cs).map (c :: ·)

/-- The text of a plain scalar behind the part that was read, from the gap behind it on.  The flag
in the answer says whether the cursor is on a line of its own behind the scalar. -/
def plainRest? (inFlow : Bool) (margin : Nat) :
    Nat → Cursor → Gap → Option (List Char × Bool × Cursor)
  | 0, c, gap => some ([], gap.isBreaks, c)
  | steps + 1, c, gap =>
      if c.atDocumentMarker || c.isAt '#' then some ([], gap.isBreaks, c)
      else do
        let word ← plainWord? inFlow c.rest
        if word.isEmpty then return ([], gap.isBreaks, c)
        else
          let c := c.skip word.length
          let text := gap.folded ++ word
          if c.atEnd || !(c.endsAt 0) then return (text, false, c)
          else
            let (gap, c) ← takeGap? margin c.rest.length c (.spacing [])
            if !inFlow && c.column < margin then return (text, gap.isBreaks, c)
            else
              let (more, onNewLine, c) ← plainRest? inFlow margin steps c gap
              return (text ++ more, onNewLine, c)

/-- The text of the plain scalar at the cursor. -/
def plainText? (inFlow : Bool) (margin : Nat) (c : Cursor) : Option (List Char × Bool × Cursor) :=
  plainRest? inFlow margin c.rest.length c (.spacing [])

/-! ### Quoted scalars -/

/-- The character that a letter behind a backslash stands for. -/
def escape? : Char → Option Char
  | '0' => some '\x00'
  | 'a' => some '\x07'
  | 'b' => some '\x08'
  | 't' => some '\t'
  | '\t' => some '\t'
  | 'n' => some '\n'
  | 'v' => some '\x0b'
  | 'f' => some '\x0c'
  | 'r' => some '\r'
  | 'e' => some '\x1b'
  | ' ' => some ' '
  | '"' => some '"'
  | '/' => some '/'
  | '\\' => some '\\'
  | 'N' => some '\u0085'
  | '_' => some '\u00a0'
  | 'L' => some '\u2028'
  | 'P' => some '\u2029'
  | _ => none

/-- The number of hexadecimal digits behind a backslash and a letter. -/
def escapeDigits? : Char → Option Nat
  | 'x' => some 2
  | 'u' => some 4
  | 'U' => some 8
  | _ => none

/-- The character with a given number, surrogates left out. -/
def charOfNumber? (n : Nat) : Option Char := if n.isValidChar then some (Char.ofNat n) else none

/-- The characters of a scalar in single quotes up to the next gap or its end. -/
def singleWord : List Char → List Char × List Char
  | [] => ([], [])
  | '\'' :: '\'' :: cs => ('\'' :: (singleWord cs).1, (singleWord cs).2)
  | c :: cs =>
      if c == '\'' || isSpacing c || isBreak c then ([], c :: cs)
      else (c :: (singleWord cs).1, (singleWord cs).2)

/-- The characters of a scalar in double quotes up to the next gap, an escaped line break or its
end; each step takes a character or an escape. -/
def doubleWord? : Nat → List Char → Option (List Char × List Char)
  | 0, cs => some ([], cs)
  | steps + 1, cs =>
      match cs with
      | [] => some ([], [])
      | '\\' :: c :: rest =>
          if isBreak c then some ([], cs)
          else
            match escapeDigits? c with
            | some n => do
                guard (n ≤ rest.length)
                let char ← charOfNumber? (← inBase? 16 (rest.take n))
                let (text, rest) ← doubleWord? steps (rest.drop n)
                return (char :: text, rest)
            | none => do
                let char ← escape? c
                let (text, rest) ← doubleWord? steps rest
                return (char :: text, rest)
      | ['\\'] => none
      | c :: rest =>
          if c == '"' || isSpacing c || isBreak c then some ([], cs)
          else do
            let (text, rest) ← doubleWord? steps rest
            return (c :: text, rest)

/-- The characters of a quoted scalar up to the next gap or its end, and the cursor behind them. -/
def quotedWord? (single : Bool) (c : Cursor) : Option (List Char × Cursor) := do
  let (text, rest) ←
    if single then some (singleWord c.rest) else doubleWord? c.rest.length c.rest
  return (text, c.skip (c.rest.length - rest.length))

/-- The text of a quoted scalar from a gap on, up to the closing quote. -/
def quotedRest? (single : Bool) : Nat → Cursor → Gap → Option (List Char × Cursor)
  | 0, _, _ => none
  | steps + 1, c, gap =>
      if c.atDocumentMarker || c.atEnd then none
      else do
        let (word, c) ← quotedWord? single c
        let text := gap.folded ++ word
        if c.isAt (if single then '\'' else '"') then return (text, c.skip 1)
        else
          let (start, c) :=
            if !single && c.isAt '\\' then (Gap.breaks [] [], (c.skip 1).takeBreak.2)
            else (Gap.spacing [], c)
          if start.isBreaks && c.isAt '"' then return (text, c.skip 1)
          else
            let (gap, c) ← takeGap? 0 c.rest.length c start
            let (more, c) ← quotedRest? single steps c gap
            return (text ++ more, c)

/-- The text of the quoted scalar at the cursor. -/
def quotedText? (single : Bool) (c : Cursor) : Option (List Char × Cursor) :=
  quotedRest? single c.rest.length (c.skip 1) (.spacing [])

/-! ### Block scalars -/

/-- What happens to the line breaks at the end of a block scalar. -/
inductive Chomping where
  /-- All are dropped. -/
  | strip
  /-- The first is kept. -/
  | clip
  /-- All are kept. -/
  | keep
  deriving DecidableEq, Repr

/-- The sign of a chomping. -/
def chomping? (c : Cursor) : Option Chomping :=
  if c.isAt '+' then some .keep else if c.isAt '-' then some .strip else none

/-- The digit that says how far a block scalar is indented. -/
def increment? (c : Cursor) : Option Nat :=
  c.peek?.bind fun ch => if ch.isDigit then some (ch.toNat - '0'.toNat) else none

/-- The signs behind the indicator of a block scalar, in either order; a zero is refused. -/
def blockHeader? (c : Cursor) : Option (Chomping × Option Nat × Cursor) := do
  let (chomping, increment, c) :=
    match chomping? c with
    | some chomping =>
        match increment? (c.skip 1) with
        | some n => (chomping, some n, c.skip 2)
        | none => (chomping, none, c.skip 1)
    | none =>
        match increment? c with
        | some n =>
            match chomping? (c.skip 1) with
            | some chomping => (chomping, some n, c.skip 2)
            | none => (.clip, some n, c.skip 1)
        | none => (.clip, none, c)
  guard (increment != some 0)
  let c := c.skipWhile isSpacing
  let c := if c.isAt '#' then c.skipLine else c
  guard (c.atEnd || c.atBreak)
  return (chomping, increment, c.takeBreak.2)

/-- Takes the empty lines at the cursor and the indentation behind them, of which at most `indent`
columns are taken; without a bound, `indent` is zero.  Returns the breaks, the greatest column that
was reached, and the cursor. -/
def emptyLines? (indent : Nat) : Nat → Cursor → Nat → Option (List Char × Nat × Cursor)
  | 0, c, widest => some ([], widest, c)
  | steps + 1, c, widest =>
      let spaces := (c.rest.takeWhile (· == ' ')).length
      let c := c.skip (if indent = 0 then spaces else min spaces (indent - c.column))
      let widest := max widest c.column
      if (indent = 0 || c.column < indent) && c.isAt '\t' then none
      else if c.atBreak then do
        let (breaks, c) := c.takeBreak
        let (more, widest, c) ← emptyLines? indent steps c widest
        return (breaks ++ more, widest, c)
      else some ([], widest, c)

/-- The lines of a block scalar.  `first` is the break behind the line before, `more` are the breaks
of the empty lines behind that, and `spaced` says whether the line before starts with a blank.
Returns the text without the breaks at its end, and those. -/
def blockLines? (folds : Bool) (indent : Nat) :
    Nat → Cursor → (first more : List Char) → (spaced : Bool) →
      Option (List Char × List Char × List Char × Cursor)
  | 0, c, first, more, _ => some ([], first, more, c)
  | steps + 1, c, first, more, spaced =>
      if c.column ≠ indent ∨ c.atEnd then some ([], first, more, c)
      else do
        let spacedHere := c.peek?.any isSpacing
        let joint :=
          if folds && first == ['\n'] && !spaced && !spacedHere then
            (if more.isEmpty then [' '] else more)
          else first ++ more
        let (line, c) := c.span fun ch => !isBreak ch
        let (first, c) := c.takeBreak
        let (more, _, c) ← emptyLines? indent c.rest.length c 0
        let (text, first, more, c) ← blockLines? folds indent steps c first more spacedHere
        return (joint ++ line ++ text, first, more, c)

/-- The text of the block scalar at the cursor.  `margin` is the least column of what belongs to the
block around it. -/
def blockText? (folds : Bool) (margin : Nat) (c : Cursor) : Option (List Char × Cursor) := do
  let (chomping, increment, c) ← blockHeader? (c.skip 1)
  let bound := (increment.map fun n => (margin - 1) + n).getD 0
  let (more, widest, c) ← emptyLines? bound (c.rest.length + 1) c 0
  let indent := if bound = 0 then max widest (max margin 1) else bound
  let (text, first, more, c) ← blockLines? folds indent (c.rest.length + 1) c [] more false
  match chomping with
  | .strip => return (text, c)
  | .clip => return (text ++ first, c)
  | .keep => return (text ++ first ++ more, c)

end Interconnect.Yaml
