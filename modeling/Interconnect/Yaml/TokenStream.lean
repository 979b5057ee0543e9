/-
**From characters to tokens.**

The tokens of a text are found from left to right, with two kinds of memory.  The first is the stack
of margins: the columns from which on text belongs to the blocks around the cursor.  The second is
the list of key candidates, one for each pair of brackets around the cursor and one for outside of
them: the last token that may turn out to be a key when a colon follows.  A key has to be on one
line and to end within 1024 characters.

Main definitions:

* `Yaml.KeyCandidate` — a token that may be a key;
* `Yaml.TokenStream` — the tokens so far, with the memory;
* `Yaml.TokenStream.next?` — the next tokens;
* `Yaml.tokens?` — all tokens of a text.
-/

import Interconnect.Yaml.ScalarText
import Interconnect.Yaml.Token

set_option autoImplicit false

namespace Interconnect.Yaml

/-- A token that may turn out to be a key. -/
structure KeyCandidate where
  /-- Its place among the tokens. -/
  place : Nat
  /-- Where it starts. -/
  line : Nat
  /-- Where it starts on its line. -/
  column : Nat
  /-- Where it starts in the text. -/
  index : Nat
  /-- Whether it must be a key, because it stands where the keys of the block stand. -/
  required : Bool
  deriving DecidableEq, Repr

/-- Whether the colon of a key may still follow at the cursor. -/
def KeyCandidate.isFresh (k : KeyCandidate) (c : Cursor) : Bool :=
  k.line == c.line && c.index ≤ k.index + 1024

/-- The tokens so far and what has to be remembered. -/
structure TokenStream where
  /-- Where the next token is looked for. -/
  cursor : Cursor
  /-- The tokens so far. -/
  tokens : Array Token
  /-- The least column of what belongs to the innermost block; zero outside of all blocks. -/
  margin : Nat
  /-- The margins of the blocks around that, the innermost first. -/
  outer : List Nat
  /-- The key candidate between the innermost brackets. -/
  candidate : Option KeyCandidate
  /-- The key candidates around those brackets, the innermost first. -/
  suspended : List (Option KeyCandidate)
  /-- Whether a key may start here. -/
  keyAllowed : Bool

namespace TokenStream

/-- The stream at the start of a text. -/
def start (cs : List Char) : TokenStream :=
  { cursor := .start cs, tokens := #[], margin := 0, outer := [], candidate := none,
    suspended := [], keyAllowed := true }

/-- Whether the cursor is between brackets. -/
def inFlow (s : TokenStream) : Bool := !s.suspended.isEmpty

/-- Adds a token. -/
def push (s : TokenStream) (t : Token) : TokenStream := { s with tokens := s.tokens.push t }

/-- Puts a token before those from a place on. -/
def insert (s : TokenStream) (place : Nat) (t : Token) : TokenStream :=
  { s with tokens := s.tokens.extract 0 place ++ #[t] ++ s.tokens.extract place s.tokens.size }

/-- Moves on to a cursor. -/
def moveTo (s : TokenStream) (c : Cursor) : TokenStream := { s with cursor := c }

/-! ### Blocks -/

/-- Starts a block at a column that is inside of the innermost block; the token that says so is put
at a place among the others. -/
def openBlock (s : TokenStream) (column place : Nat) (t : Token) : TokenStream :=
  if s.inFlow ∨ column < s.margin then s
  else { s.insert place t with margin := column + 1, outer := s.margin :: s.outer }

/-- Ends the blocks whose margin is above `limit`. -/
def closeBlocks (s : TokenStream) (limit : Nat) : TokenStream :=
  if s.inFlow then s
  else
    let margins := s.margin :: s.outer
    let kept := margins.dropWhile (limit < ·)
    { s with
      tokens := s.tokens ++ Array.replicate (margins.length - kept.length) Token.blockEnd
      margin := kept.headD 0
      outer := kept.tail }

/-! ### Keys -/

/-- Gives up the key candidate; one that must be a key cannot be given up. -/
def dropCandidate? (s : TokenStream) : Option TokenStream :=
  if s.candidate.any KeyCandidate.required then none else some { s with candidate := none }

/-- Makes the next token a key candidate, if a key may start here. -/
def noteCandidate? (s : TokenStream) : Option TokenStream :=
  if ¬ s.keyAllowed then some s
  else do
    let s ← s.dropCandidate?
    let c := s.cursor
    return { s with
      candidate := some
        { place := s.tokens.size, line := c.line, column := c.column, index := c.index,
          required := !s.inFlow && s.margin == c.column + 1 } }

/-- Gives up the key candidates whose colon can no longer follow. -/
def dropStale? (s : TokenStream) : Option TokenStream :=
  let stale (k : Option KeyCandidate) : Bool := k.any fun k => !k.isFresh s.cursor
  let drop (k : Option KeyCandidate) : Option KeyCandidate := if stale k then none else k
  if (s.candidate :: s.suspended).any fun k => stale k && k.any KeyCandidate.required then none
  else some { s with candidate := drop s.candidate, suspended := s.suspended.map drop }

/-! ### Moving on -/

/-- Takes blanks, comments and line breaks.  A tab counts as a blank where no key may start, and
between brackets. -/
def skipToToken (s : TokenStream) : Nat → TokenStream
  | 0 => s
  | steps + 1 =>
      let c := s.cursor
      let c := if c.index = 0 && c.isAt '\ufeff' then c.skip 1 else c
      let c := c.skipWhile fun ch => ch == ' ' || (ch == '\t' && (s.inFlow || !s.keyAllowed))
      let c := if c.isAt '#' then c.skipLine else c
      if c.atBreak then
        skipToToken
          { s with cursor := c.takeBreak.2, keyAllowed := s.keyAllowed || !s.inFlow } steps
      else s.moveTo c

/-! ### Tokens -/

/-- A marker that starts or ends a document. -/
def documentMarker? (s : TokenStream) (t : Token) : Option TokenStream := do
  let s ← (s.closeBlocks 0).dropCandidate?
  return { s.push t with cursor := s.cursor.skip 3, keyAllowed := false }

/-- A directive. -/
def directive? (s : TokenStream) : Option TokenStream := do
  let s ← (s.closeBlocks 0).dropCandidate?
  let (t, c) ← Token.directive? s.cursor
  return { s.push t with cursor := c, keyAllowed := false }

/-- An opening bracket. -/
def openFlow? (s : TokenStream) (t : Token) : Option TokenStream := do
  let s ← s.noteCandidate?
  return { s.push t with
    candidate := none, suspended := s.candidate :: s.suspended, keyAllowed := true,
    cursor := s.cursor.skip 1 }

/-- A closing bracket. -/
def closeFlow? (s : TokenStream) (t : Token) : Option TokenStream := do
  let s ← s.dropCandidate?
  return { s.push t with
    candidate := s.suspended.headD s.candidate, suspended := s.suspended.tail, keyAllowed := false,
    cursor := s.cursor.skip 1 }

/-- A comma between brackets. -/
def flowEntry? (s : TokenStream) : Option TokenStream := do
  let s ← s.dropCandidate?
  return { s.push .flowEntry with keyAllowed := true, cursor := s.cursor.skip 1 }

/-- Starts a block for the sign at the cursor, which needs a place where a key may start. -/
def openBlockHere? (s : TokenStream) (t : Token) : Option TokenStream :=
  if s.inFlow then some s
  else if s.keyAllowed then some (s.openBlock s.cursor.column s.tokens.size t)
  else none

/-- The dash before an item. -/
def blockEntry? (s : TokenStream) : Option TokenStream := do
  let s ← (← s.openBlockHere? .blockSequenceStart).dropCandidate?
  return { s.push .blockEntry with keyAllowed := true, cursor := s.cursor.skip 1 }

/-- The question mark before a key. -/
def key? (s : TokenStream) : Option TokenStream := do
  let s ← (← s.openBlockHere? .blockMappingStart).dropCandidate?
  return { s.push .key with keyAllowed := !s.inFlow, cursor := s.cursor.skip 1 }

/-- The colon before a value.  It makes the candidate a key; without a candidate it stands for an
empty key or belongs to a key with a question mark. -/
def value? (s : TokenStream) : Option TokenStream :=
  match s.candidate with
  | some k =>
      let s := (s.insert k.place .key).openBlock k.column k.place .blockMappingStart
      some { s.push .value with candidate := none, keyAllowed := false, cursor := s.cursor.skip 1 }
  | none => do
      let s ← s.openBlockHere? .blockMappingStart
      return { s.push .value with keyAllowed := !s.inFlow, cursor := s.cursor.skip 1 }

/-- An anchor or an alias. -/
def anchor? (s : TokenStream) (t : String → Token) : Option TokenStream := do
  let s ← s.noteCandidate?
  let (name, c) ← Token.anchorName? s.cursor
  return { s.push (t name) with keyAllowed := false, cursor := c }

/-- A tag. -/
def tag? (s : TokenStream) : Option TokenStream := do
  let s ← s.noteCandidate?
  let (t, c) ← Token.tag? s.inFlow s.cursor
  return { s.push t with keyAllowed := false, cursor := c }

/-- A block scalar. -/
def blockScalar? (s : TokenStream) (style : ScalarStyle) : Option TokenStream := do
  let s ← s.dropCandidate?
  let (text, c) ← blockText? (style == .folded) s.margin s.cursor
  return { s.push (.scalar style (String.ofList text)) with keyAllowed := true, cursor := c }

/-- A scalar in quotes. -/
def quotedScalar? (s : TokenStream) (style : ScalarStyle) : Option TokenStream := do
  let s ← s.noteCandidate?
  let (text, c) ← quotedText? (style == .singleQuoted) s.cursor
  return { s.push (.scalar style (String.ofList text)) with keyAllowed := false, cursor := c }

/-- A scalar without quotes. -/
def plainScalar? (s : TokenStream) : Option TokenStream := do
  let s ← s.noteCandidate?
  let (text, onNewLine, c) ← plainText? s.inFlow s.margin s.cursor
  return { s.push (.scalar .plain (String.ofList text)) with keyAllowed := onNewLine, cursor := c }

/-- The characters that cannot start a plain scalar. -/
def indicators : List Char := "-?:,[]\x7b\x7d#&*!|>'\"%@`".toList

/-- The token that the character at the cursor starts. -/
def tokenAt? (s : TokenStream) (ch : Char) : Option TokenStream :=
  let c := s.cursor
  if c.column = 0 ∧ ch = '%' then s.directive?
  else if c.atMarker ['-', '-', '-'] then s.documentMarker? .documentStart
  else if c.atMarker ['.', '.', '.'] then s.documentMarker? .documentEnd
  else if ch = '[' then s.openFlow? .flowSequenceStart
  else if ch = '\x7b' then s.openFlow? .flowMappingStart
  else if ch = ']' then s.closeFlow? .flowSequenceEnd
  else if ch = '\x7d' then s.closeFlow? .flowMappingEnd
  else if ch = ',' then s.flowEntry?
  else if ch = '-' ∧ c.endsAt 1 then s.blockEntry?
  else if ch = '?' ∧ (s.inFlow ∨ c.endsAt 1) then s.key?
  else if ch = ':' ∧ (s.inFlow ∨ c.endsAt 1) then s.value?
  else if ch = '*' then s.anchor? .reference
  else if ch = '&' then s.anchor? .anchor
  else if ch = '!' then s.tag?
  else if ch = '|' ∧ ¬ s.inFlow then s.blockScalar? .literal
  else if ch = '>' ∧ ¬ s.inFlow then s.blockScalar? .folded
  else if ch = '\'' then s.quotedScalar? .singleQuoted
  else if ch = '"' then s.quotedScalar? .doubleQuoted
  else if ch = '-' ∨ ch = '?' ∨ ch = ':' ∨ ¬ (isSpacing ch ∨ indicators.contains ch) then
    s.plainScalar?
  else none

/-- The stream with the next tokens, or with those that end it. -/
def next? (s : TokenStream) : Option (TokenStream × Bool) := do
  let s ← (s.skipToToken (s.cursor.rest.length + 1)).dropStale?
  let s := s.closeBlocks (s.cursor.column + 1)
  match s.cursor.peek? with
  | some ch => return (← s.tokenAt? ch, false)
  | none => return (← (s.closeBlocks 0).dropCandidate?, true)

/-- The stream with all tokens.  Every round takes a character. -/
def toEnd? : Nat → TokenStream → Option TokenStream
  | 0, _ => none
  | steps + 1, s => do
      let (s, done) ← s.next?
      if done then return s else toEnd? steps s

end TokenStream

/-- The tokens of a text, if its characters are allowed and make up tokens. -/
def tokens? (text : String) : Option (List Token) := do
  let cs := text.toList
  guard (cs.all isAllowed)
  let s ← (TokenStream.start cs).toEnd? (cs.length + 1)
  return s.tokens.toList

end Interconnect.Yaml
