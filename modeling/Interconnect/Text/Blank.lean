/-
**Blank characters.**

Names, latencies and shapes are read after the blanks around them are dropped, and a name that
consists of blanks alone is refused.  Blank means the Unicode property `White_Space`, which is
larger than the four characters of `Char.isWhitespace`.

Main definitions:

* `Text.isBlank` — membership in `White_Space`;
* `Text.trim` — a text without the blanks at its two ends;
* `Text.isBlankText` — a text with no other characters.

Main results:

* `Text.trimLeft_eq_nil_iff` — nothing is left of blanks;
* `Text.isBlank_head_trimLeft` — what is left does not start with a blank.
-/

set_option autoImplicit false

namespace Interconnect.Text

/-- The characters with the Unicode property `White_Space`. -/
def isBlank (c : Char) : Bool :=
  let n := c.toNat
  (0x9 ≤ n && n ≤ 0xD) || n == 0x20 || n == 0x85 || n == 0xA0 || n == 0x1680 ||
    (0x2000 ≤ n && n ≤ 0x200A) || n == 0x2028 || n == 0x2029 || n == 0x202F || n == 0x205F ||
    n == 0x3000

/-- Drops the blanks in front. -/
def trimLeft (cs : List Char) : List Char := cs.dropWhile isBlank

/-- Drops the blanks at the end. -/
def trimRight (cs : List Char) : List Char := (trimLeft cs.reverse).reverse

/-- A text without the blanks at its two ends, as characters. -/
def trimChars (cs : List Char) : List Char := trimRight (trimLeft cs)

/-- A text without the blanks at its two ends. -/
def trim (text : String) : String := String.ofList (trimChars text.toList)

/-- Whether a text has no character but blanks; the empty text has none. -/
def isBlankText (text : String) : Bool := text.toList.all isBlank

theorem trimLeft_eq_nil_iff {cs : List Char} : trimLeft cs = [] ↔ cs.all isBlank := by
  unfold trimLeft
  induction cs with
  | nil => simp
  | cons c cs ih => by_cases h : isBlank c <;> simp_all

/-- What is left after dropping the blanks in front does not start with one. -/
theorem isBlank_head_trimLeft {cs rest : List Char} {c : Char} (h : trimLeft cs = c :: rest) :
    isBlank c = false := by
  have := List.head?_dropWhile_not isBlank cs
  rw [show cs.dropWhile isBlank = c :: rest from h] at this
  simpa using this

end Interconnect.Text
