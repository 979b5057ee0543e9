/-
**Decimal digits of all scripts.**

The form of a shape or a latency is checked with the digits of every script, and only afterwards is
a numeral refused that is not written in ASCII.  So an Arabic numeral in a shape is reported as an
unreadable fan-out and not as a malformed shape.  Decimal digit means the Unicode general category
`Nd`, whose members come in runs of ten, from zero to nine.

Main definitions:

* `Text.digitZeros` — the zeros of all runs;
* `Text.isDecimalDigit` — membership in `Nd`.

Main results:

* `Text.isDecimalDigit_of_isDigit` — the ASCII digits are among them;
* `Text.not_isDecimalDigit_of_isAlpha` — no ASCII letter is.
-/

set_option autoImplicit false

namespace Interconnect.Text

/-- The code points of the digits zero, in increasing order; each starts a run of ten digits. -/
def digitZeros : List Nat :=
  [0x30, 0x660, 0x6F0, 0x7C0, 0x966, 0x9E6, 0xA66, 0xAE6, 0xB66, 0xBE6,
   0xC66, 0xCE6, 0xD66, 0xDE6, 0xE50, 0xED0, 0xF20, 0x1040, 0x1090, 0x17E0,
   0x1810, 0x1946, 0x19D0, 0x1A80, 0x1A90, 0x1B50, 0x1BB0, 0x1C40, 0x1C50, 0xA620,
   0xA8D0, 0xA900, 0xA9D0, 0xA9F0, 0xAA50, 0xABF0, 0xFF10, 0x104A0, 0x10D30, 0x10D40,
   0x11066, 0x110F0, 0x11136, 0x111D0, 0x112F0, 0x11450, 0x114D0, 0x11650, 0x116C0, 0x116D0,
   0x116DA, 0x11730, 0x118E0, 0x11950, 0x11BF0, 0x11C50, 0x11D50, 0x11DA0, 0x11F50, 0x16130,
   0x16A60, 0x16AC0, 0x16B50, 0x16D70, 0x1CCF0, 0x1D7CE, 0x1D7D8, 0x1D7E2, 0x1D7EC, 0x1D7F6,
   0x1E140, 0x1E2F0, 0x1E4F0, 0x1E5F1, 0x1E950, 0x1FBF0]

/-- The characters of the Unicode general category `Nd`. -/
def isDecimalDigit (c : Char) : Bool :=
  digitZeros.any fun start => start ≤ c.toNat && c.toNat < start + 10

example : digitZeros.length = 76 ∧ digitZeros.Pairwise (fun a b => a + 10 ≤ b) := by decide

theorem isDecimalDigit_of_isDigit {c : Char} (h : c.isDigit) : isDecimalDigit c := by
  simp only [Char.isDigit, Bool.and_eq_true, decide_eq_true_eq] at h
  have h₁ : 48 ≤ c.toNat := h.1
  have h₂ : c.toNat ≤ 57 := h.2
  exact List.any_eq_true.2 ⟨0x30, by simp [digitZeros], by simp; omega⟩

theorem not_isDecimalDigit_of_isAlpha {c : Char} (h : c.isAlpha) : isDecimalDigit c = false := by
  have h' : 65 ≤ c.toNat ∧ c.toNat ≤ 122 := by
    rcases Bool.or_eq_true_iff.1 h with hupper | hlower
    · have ⟨h₁, h₂⟩ : 'A'.val ≤ c.val ∧ c.val ≤ 'Z'.val := of_decide_eq_true hupper
      exact ⟨h₁, Nat.le_trans h₂ (by decide)⟩
    · change (decide ('a'.val ≤ c.val) && decide (c.val ≤ 'z'.val)) = true at hlower
      obtain ⟨h₁, h₂⟩ := Bool.and_eq_true_iff.1 hlower
      exact ⟨Nat.le_trans (by decide) (of_decide_eq_true h₁), of_decide_eq_true h₂⟩
  rw [isDecimalDigit, List.any_eq_false]
  have hz : ∀ z ∈ digitZeros, z = 0x30 ∨ 0x660 ≤ z := by decide
  intro z hz'
  rcases hz z hz' with rfl | h₁ <;> simp <;> omega

end Interconnect.Text
