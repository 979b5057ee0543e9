/-
**Quoted texts in messages.**

Paths in log lines and texts in error messages stand in double quotes.  The double quote, the
backslash and a few control characters have short escapes, and any other character that is not
visible is shown by its number in hexadecimal.

Main definitions:

* `Text.QuoteStyle` — what differs between quoting a path and quoting a text;
* `Text.escapeChar` — what stands for a character: itself if it is visible, the few with a short
  escape apart;
* `Text.quote` — a text in double quotes.
-/

import Interconnect.Text.Visible

set_option autoImplicit false

namespace Interconnect.Text

/-- How texts are quoted. -/
structure QuoteStyle where
  /-- Whether an apostrophe is escaped. -/
  escapesApostrophe : Bool
  deriving DecidableEq, Repr

/-- Texts in error messages leave the apostrophe alone. -/
def QuoteStyle.text : QuoteStyle := ⟨false⟩

/-- Paths in log lines escape it. -/
def QuoteStyle.path : QuoteStyle := ⟨true⟩

/-- The short escape of a character, if it has one. -/
def shortEscape? (style : QuoteStyle) (c : Char) : Option Char :=
  match c with
  | '\x00' => some '0'
  | '\t' => some 't'
  | '\n' => some 'n'
  | '\r' => some 'r'
  | '"' => some '"'
  | '\\' => some '\\'
  | '\'' => if style.escapesApostrophe then some '\'' else none
  | _ => none

/-- What stands for a character between the quotes. -/
def escapeChar (style : QuoteStyle) (c : Char) : List Char :=
  match shortEscape? style c with
  | some e => ['\\', e]
  | none =>
      if isVisible c then [c]
      else ['\\', 'u', '\x7b'] ++ Nat.toDigits 16 c.toNat ++ ['\x7d']

/-- A text in double quotes. -/
def quote (style : QuoteStyle) (text : String) : String :=
  String.ofList ('"' :: text.toList.flatMap (escapeChar style) ++ ['"'])

end Interconnect.Text
