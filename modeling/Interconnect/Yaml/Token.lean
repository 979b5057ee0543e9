/-
**Tokens of YAML.**

The words and signs of a YAML text.  Indentation is made visible by tokens of its own: a block
starts before its first entry and ends where the text is less indented.

Main definitions:

* `Yaml.ScalarStyle` — how a scalar is written;
* `Yaml.Token` — the tokens;
* `Yaml.Token.anchorName?`, `Yaml.Token.tag?`, `Yaml.Token.directive?` — the tokens that are
  recognised by their first character.
-/

import Interconnect.Yaml.Cursor
import Interconnect.Yaml.Resolution

set_option autoImplicit false

namespace Interconnect.Yaml

/-- How a scalar is written. -/
inductive ScalarStyle where
  | plain
  | singleQuoted
  | doubleQuoted
  | literal
  | folded
  deriving DecidableEq, Repr

/-- A token. -/
inductive Token where
  /-- The version of YAML that a document is written in. -/
  | version (major minor : Nat)
  /-- What a handle stands for in the tags of a document. -/
  | tagHandle (handle expansion : String)
  | documentStart
  | documentEnd
  | blockSequenceStart
  | blockMappingStart
  | blockEnd
  | flowSequenceStart
  | flowSequenceEnd
  | flowMappingStart
  | flowMappingEnd
  /-- The dash before an item. -/
  | blockEntry
  /-- The comma between items. -/
  | flowEntry
  /-- The start of a key, written or not. -/
  | key
  /-- The colon behind a key. -/
  | value
  | reference (name : String)
  | anchor (name : String)
  | tag (handle suffix : String)
  | scalar (style : ScalarStyle) (text : String)
  deriving DecidableEq, Repr

namespace Token

/-! ### Anchors -/

/-- The name behind the sign of an anchor or an alias. -/
def anchorName? (c : Cursor) : Option (String × Cursor) := do
  let (name, c) := (c.skip 1).span isWordChar
  guard (!name.isEmpty)
  guard (c.endsAt 0 || c.peek?.any "?:,]\x7d%@`".toList.contains)
  return (String.ofList name, c)

/-! ### Tags -/

/-- The number of bytes of a character in UTF-8, by its first byte. -/
def utf8Length? (byte : Nat) : Option Nat :=
  if byte < 0x80 then some 1
  else if byte / 32 = 6 then some 2
  else if byte / 16 = 14 then some 3
  else if byte / 8 = 30 then some 4
  else none

/-- The bytes that are written with a percent sign and two hexadecimal digits each. -/
def percentBytes? : Nat → List Char → Option (List Nat × List Char)
  | 0, cs => some ([], cs)
  | n + 1, '%' :: a :: b :: cs => do
      let byte ← inBase? 16 [a, b]
      let (bytes, rest) ← percentBytes? n cs
      return (byte :: bytes, rest)
  | _ + 1, _ => none

/-- The character that is written as percent-encoded bytes. -/
def percentChar? (cs : List Char) : Option (Char × List Char) := do
  let (first, _) ← percentBytes? 1 cs
  let length ← utf8Length? (first.headD 0)
  let (bytes, rest) ← percentBytes? length cs
  guard ((bytes.drop 1).all fun b => b / 64 == 2)
  let text ← String.fromUTF8? ⟨(bytes.map fun b => b.toUInt8).toArray⟩
  let char ← text.toList.head?
  return (char, rest)

/-- Whether a character may stand in a tag as it is; brackets and commas only between angle
brackets or in a directive. -/
def isTagChar (anywhere : Bool) (c : Char) : Bool :=
  isWordChar c || ";/?:@&=+$.!~*'()".toList.contains c || (anywhere && ",[]".toList.contains c)

/-- The text of a tag; each step takes a character or a percent-encoded one. -/
def tagText? (anywhere : Bool) : Nat → List Char → Option (List Char × List Char)
  | 0, cs => some ([], cs)
  | steps + 1, cs =>
      match cs with
      | '%' :: _ => do
          let (char, rest) ← percentChar? cs
          let (text, rest) ← tagText? anywhere steps rest
          return (char :: text, rest)
      | c :: rest =>
          if isTagChar anywhere c then do
            let (text, rest) ← tagText? anywhere steps rest
            return (c :: text, rest)
          else some ([], cs)
      | [] => some ([], [])

/-- The text of a tag at the cursor. -/
def tagTextAt? (anywhere : Bool) (c : Cursor) : Option (List Char × Cursor) := do
  let (text, rest) ← tagText? anywhere c.rest.length c.rest
  return (text, c.skip (c.rest.length - rest.length))

/-- A handle at the cursor: an exclamation mark, letters, and perhaps another mark. -/
def handleAt? (c : Cursor) : Option (List Char × Cursor) := do
  guard (c.isAt '!')
  let (word, c) := (c.skip 1).span isWordChar
  if c.isAt '!' then return ('!' :: word ++ ['!'], c.skip 1)
  else return ('!' :: word, c)

/-- Splits a tag without angle brackets into its handle and the rest. -/
def shorthand? (c : Cursor) : Option (Token × Cursor) := do
  let (handle, behind) ← handleAt? c
  if 1 < handle.length ∧ handle.getLast? = some '!' then
    let (suffix, c) ← tagTextAt? false behind
    guard (!suffix.isEmpty)
    return (.tag (String.ofList handle) (String.ofList suffix), c)
  else
    let (more, c) ← tagTextAt? false behind
    let suffix := handle.drop 1 ++ more
    if suffix.isEmpty then return (.tag "" "!", c)
    else return (.tag "!" (String.ofList suffix), c)

/-- A tag between angle brackets, which is used as it is. -/
def verbatim? (c : Cursor) : Option (Token × Cursor) := do
  let (text, c) ← tagTextAt? true (c.skip 2)
  guard (!text.isEmpty && c.isAt '>')
  return (.tag "" (String.ofList text), c.skip 1)

/-- The tag at the cursor, inside brackets or not. -/
def tag? (inFlow : Bool) (c : Cursor) : Option (Token × Cursor) := do
  let (token, c) ← if c.peekAt? 1 = some '<' then verbatim? c else shorthand? c
  guard (c.endsAt 0 || (inFlow && c.isAt ','))
  return (token, c)

/-! ### Directives -/

/-- A number of a version, which has at most nine digits. -/
def versionNumber? (c : Cursor) : Option (Nat × Cursor) := do
  let (digits, c) := c.span Char.isDigit
  guard (!digits.isEmpty && digits.length ≤ 9)
  return (Nat.ofDigitChars 10 digits 0, c)

/-- The version behind the name of its directive. -/
def version? (c : Cursor) : Option (Token × Cursor) := do
  let (major, c) ← versionNumber? (c.skipWhile isSpacing)
  guard (c.isAt '.')
  let (minor, c) ← versionNumber? (c.skip 1)
  return (.version major minor, c)

/-- The handle and what it stands for, behind the name of their directive. -/
def tagHandle? (c : Cursor) : Option (Token × Cursor) := do
  let (handle, c) ← handleAt? (c.skipWhile isSpacing)
  guard (handle.length = 1 ∨ handle.getLast? = some '!')
  guard (c.peek?.any isSpacing)
  let (text, c) ← tagTextAt? true (c.skipWhile isSpacing)
  guard (!text.isEmpty && c.endsAt 0)
  return (.tagHandle (String.ofList handle) (String.ofList text), c)

/-- The directive at the cursor, up to the end of its line. -/
def directive? (c : Cursor) : Option (Token × Cursor) := do
  let (name, c) := (c.skip 1).span isWordChar
  guard (!name.isEmpty && c.endsAt 0)
  let (token, c) ←
    if name = "YAML".toList then version? c
    else if name = "TAG".toList then tagHandle? c
    else none
  let c := c.skipWhile isSpacing
  let c := if c.isAt '#' then c.skipLine else c
  guard (c.atEnd || c.atBreak)
  return (token, c.takeBreak.2)

end Token

end Interconnect.Yaml
