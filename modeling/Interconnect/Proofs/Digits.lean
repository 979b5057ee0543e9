/-
**Words of digits.**

The numbers in the text of a shape or of a latency are words of one or more ASCII digits.  A word
may start with zeros that its number does not need, and the decimal form of the number is the word
without them.  Around the whole text there may be blanks, which are dropped first.

Main definitions:

* `Text.IsTrimOf` — what is left of a text without the blanks at its ends;
* `Text.Digits` — a word of ASCII digits, with its `value`;
* `Text.Digits.ofNat`, `Text.Digits.significant` — the decimal form of a number, and a word without
  the zeros in front.

Main results:

* `Text.isTrimOf_iff` — `trimChars` drops these blanks and nothing else;
* `Text.Digits.read_eq_ok_iff` — a word is read as its number if that is a 64-bit word;
* `Text.Digits.toList_toString_value` — the decimal form of a positive number has no zero in front;
* `Text.Digits.toList_toString_value_of_canonical` — a word that has no superfluous zero is the
  decimal form of its number.
-/

import Interconnect.Text.Blank
import Interconnect.Text.Digit
import Interconnect.Text.Numeral
import Mathlib.Data.List.TakeWhile

set_option autoImplicit false

namespace Interconnect.Text

-- powers are those of the core library, whatever else is imported
attribute [local instance (high)] instPowNat

/-! ### Trimming -/

/-- `core` is what is left of `cs` without the blanks at its two ends. -/
structure IsTrimOf (core cs : List Char) : Prop where
  exists_blanks : ∃ front back, (∀ c ∈ front, isBlank c) ∧ (∀ c ∈ back, isBlank c) ∧
    cs = front ++ core ++ back
  head_not_blank : ∀ c ∈ core.head?, isBlank c = false
  last_not_blank : ∀ c ∈ core.getLast?, isBlank c = false

section

variable {p : Char → Bool} {front rest : List Char}

/-- The characters of a class in front of another one are the ones that are taken. -/
theorem takeWhile_append (hfront : ∀ c ∈ front, p c) (hrest : ∀ c ∈ rest.head?, p c = false) :
    (front ++ rest).takeWhile p = front := by
  rw [List.takeWhile_append_of_pos hfront]
  cases rest with
  | nil => simp
  | cons c rest => rw [List.takeWhile_cons_of_neg (by simp [hrest c rfl]), List.append_nil]

/-- They are also the ones that are dropped. -/
theorem dropWhile_append (hfront : ∀ c ∈ front, p c) (hrest : ∀ c ∈ rest.head?, p c = false) :
    (front ++ rest).dropWhile p = rest := by
  rw [List.dropWhile_append_of_pos hfront]
  cases rest with
  | nil => rfl
  | cons c rest => rw [List.dropWhile_cons_of_neg (by simp [hrest c rfl])]

end

theorem trimRight_append {rest back : List Char} (hback : ∀ c ∈ back, isBlank c)
    (hrest : ∀ c ∈ rest.getLast?, isBlank c = false) : trimRight (rest ++ back) = rest := by
  unfold trimRight
  rw [List.reverse_append, trimLeft, dropWhile_append (by simpa using hback) (by simpa using hrest),
    List.reverse_reverse]

theorem not_isBlank_head?_trimLeft {cs : List Char} {c : Char} (h : c ∈ (trimLeft cs).head?) :
    isBlank c = false := by
  cases hl : trimLeft cs with
  | nil => simp [hl] at h
  | cons c' rest =>
      simp only [hl, List.head?_cons, Option.mem_some_iff] at h
      exact h ▸ isBlank_head_trimLeft hl

theorem isTrimOf_trimChars (cs : List Char) : IsTrimOf (trimChars cs) cs := by
  have hfront : cs.takeWhile isBlank ++ trimLeft cs = cs := List.takeWhile_append_dropWhile
  have hback : trimChars cs ++ ((trimLeft cs).reverse.takeWhile isBlank).reverse =
      trimLeft cs := by
    have hsplit := List.takeWhile_append_dropWhile (p := isBlank) (l := (trimLeft cs).reverse)
    rw [trimChars, trimRight, ← List.reverse_append]
    exact (congrArg List.reverse hsplit).trans (List.reverse_reverse _)
  constructor
  · refine ⟨cs.takeWhile isBlank, ((trimLeft cs).reverse.takeWhile isBlank).reverse, ?_, ?_, ?_⟩
    · intro c hc
      exact List.mem_takeWhile_imp hc
    · intro c hc
      exact List.mem_takeWhile_imp (List.mem_reverse.1 hc)
    · rw [List.append_assoc, hback, hfront]
  · intro c hc
    have hfirst : c ∈ (trimLeft cs).head? := by
      rw [← hback, List.head?_append, hc]
      rfl
    exact not_isBlank_head?_trimLeft hfirst
  · intro c hc
    rw [trimChars, trimRight, List.getLast?_reverse] at hc
    exact not_isBlank_head?_trimLeft hc

/-- **Trimming drops the blanks at the two ends and nothing else.** -/
theorem isTrimOf_iff {core cs : List Char} : IsTrimOf core cs ↔ trimChars cs = core := by
  constructor
  · rintro ⟨⟨front, back, hfront, hback, rfl⟩, hhead, hlast⟩
    unfold trimChars
    cases core with
    | nil =>
        have hblank : ∀ c ∈ front ++ [] ++ back, isBlank c := by
          intro c hc
          rw [List.append_nil, List.mem_append] at hc
          exact hc.elim (hfront c) (hback c)
        rw [trimLeft_eq_nil_iff.2 (List.all_eq_true.2 hblank)]
        rfl
    | cons c core =>
        rw [List.append_assoc, trimLeft, dropWhile_append hfront (by simpa using hhead),
          trimRight_append hback hlast]
  · rintro rfl
    exact isTrimOf_trimChars cs

/-- A text without blanks is trimmed already. -/
theorem isTrimOf_self {cs : List Char} (h : ∀ c ∈ cs, isBlank c = false) : IsTrimOf cs cs where
  exists_blanks := ⟨[], [], by simp, by simp, by simp⟩
  head_not_blank c hc := h c (List.mem_of_mem_head? hc)
  last_not_blank c hc := h c (List.mem_of_mem_getLast? hc)

/-! ### Blanks and digits -/

/-- No blank is a digit in any script. -/
theorem not_isDecimalDigit_of_isBlank {c : Char} (h : isBlank c) : isDecimalDigit c = false := by
  have hc : c.toNat < 0x30 ∨ (0x85 ≤ c.toNat ∧ c.toNat ≤ 0xA0) ∨ c.toNat = 0x1680 ∨
      (0x2000 ≤ c.toNat ∧ c.toNat ≤ 0x205F) ∨ c.toNat = 0x3000 := by
    simp only [isBlank, Bool.or_eq_true, Bool.and_eq_true, decide_eq_true_eq, beq_iff_eq] at h
    omega
  -- the runs of digits leave out the ranges in which the blanks are
  have hz : ∀ z ∈ digitZeros, 0x30 ≤ z ∧ (z = 0x30 ∨ 0x660 ≤ z) ∧ (z + 10 ≤ 0x1680 ∨ 0x1680 < z) ∧
      (z + 10 ≤ 0x2000 ∨ 0x205F < z) ∧ (z + 10 ≤ 0x3000 ∨ 0x3000 < z) := by decide
  rw [isDecimalDigit, List.any_eq_false]
  intro z hmem
  have := hz z hmem
  simp only [Bool.and_eq_true, decide_eq_true_eq]
  omega

theorem not_isBlank_of_isDigit {c : Char} (h : c.isDigit) : isBlank c = false := by
  cases hb : isBlank c with
  | false => rfl
  | true =>
      have hdigit := isDecimalDigit_of_isDigit h
      rw [not_isDecimalDigit_of_isBlank hb] at hdigit
      cases hdigit

theorem exists_digitChar {c : Char} (h : c.isDigit) : ∃ n < 10, Nat.digitChar n = c := by
  simp only [Char.isDigit, Bool.and_eq_true, decide_eq_true_eq] at h
  have h₁ : 48 ≤ c.toNat := h.1
  have h₂ : c.toNat ≤ 57 := h.2
  refine ⟨c.toNat - 48, by omega, ?_⟩
  apply Char.toNat_inj.1
  rw [Nat.toNat_digitChar_of_lt_ten (by omega)]
  omega

/-- Only zero has the digit zero. -/
theorem digitChar_ne_zero {k : Nat} (h : 0 < k) : Nat.digitChar k ≠ '0' := by
  rw [ne_eq, Nat.digitChar_eq_zero]
  omega

/-- Induction on texts of ASCII digits, by the number that each digit stands for. -/
@[elab_as_elim]
theorem digits_induction {motive : (cs : List Char) → (∀ c ∈ cs, c.isDigit) → Prop}
    (nil : ∀ h, motive [] h)
    (cons : ∀ k < 10, ∀ cs h, motive cs h → ∀ h', motive (Nat.digitChar k :: cs) h')
    (cs : List Char) (h : ∀ c ∈ cs, c.isDigit) : motive cs h := by
  induction cs with
  | nil => exact nil h
  | cons c cs ih =>
      obtain ⟨hc, hcs⟩ := List.forall_mem_cons.1 h
      obtain ⟨k, hk, rfl⟩ := exists_digitChar hc
      exact cons k hk cs hcs (ih hcs) h

/-! ### Words -/

/-- A word of one or more ASCII digits. -/
structure Digits where
  /-- The digits. -/
  chars : List Char
  /-- There is a digit. -/
  chars_ne_nil : chars ≠ []
  /-- There is nothing else. -/
  isDigit_of_mem : ∀ c ∈ chars, c.isDigit

namespace Digits

/-- The number that a word denotes. -/
def value (d : Digits) : Nat := Nat.ofDigitChars 10 d.chars 0

/-- A word without the zeros in front; nothing is left of a word of zeros. -/
def significant (d : Digits) : List Char := d.chars.dropWhile (· == '0')

/-- The decimal form of a number. -/
def ofNat (n : Nat) : Digits where
  chars := (toString n).toList
  chars_ne_nil := List.isEmpty_eq_false_iff.1 (Numeral.isEmpty_toString n)
  isDigit_of_mem c hc := by
    rw [Nat.toString_eq_repr, Nat.toList_repr] at hc
    exact Nat.isDigit_of_mem_toDigits (by decide) (by decide) hc

@[simp] theorem chars_ofNat (n : Nat) : (ofNat n).chars = (toString n).toList := rfl

@[simp] theorem value_ofNat (n : Nat) : (ofNat n).value = n := by
  rw [value, chars_ofNat, Nat.toString_eq_repr, Nat.toList_repr]
  exact Nat.ofDigitChars_ten_toDigits

/-- A word is read as its number, if that is a 64-bit word. -/
theorem read_eq_ok_iff {d : Digits} {n : Nat} :
    Numeral.read d.chars = .ok n ↔ d.value = n ∧ n < 2 ^ (64 : Nat) := by
  rw [Numeral.read_eq_ok_iff, and_iff_right (List.all_eq_true.2 d.isDigit_of_mem)]
  rfl

/-- What is read as a number is a word, unless it is empty. -/
theorem exists_of_read {cs : List Char} {n : Nat} (hne : cs ≠ []) (h : Numeral.read cs = .ok n) :
    ∃ d : Digits, d.chars = cs ∧ d.value = n ∧ n < 2 ^ (64 : Nat) := by
  obtain ⟨hdigits, hvalue, hlt⟩ := Numeral.read_eq_ok_iff.1 h
  exact ⟨⟨cs, hne, List.all_eq_true.1 hdigits⟩, rfl, hvalue, hlt⟩

theorem not_isBlank (d : Digits) : ∀ c ∈ d.chars, isBlank c = false :=
  fun c hc => not_isBlank_of_isDigit (d.isDigit_of_mem c hc)

/-- Digits behind a positive number are those of its decimal form. -/
theorem toDigits_ofDigitChars {cs : List Char} (h : ∀ c ∈ cs, c.isDigit) {n : Nat} (hn : 0 < n) :
    Nat.toDigits 10 (Nat.ofDigitChars 10 cs n) = Nat.toDigits 10 n ++ cs := by
  induction cs, h using digits_induction generalizing n with
  | nil => simp
  | cons k hk cs _ ih =>
      rw [Nat.ofDigitChars_cons_digitChar_of_lt_ten hk, ih (by omega),
        ← Nat.toDigits_append_toDigits (by decide) hn hk, Nat.toDigits_of_lt_base hk,
        List.append_assoc, List.singleton_append]

/-- **The decimal form of a positive number is the word without the zeros in front.** -/
theorem toList_toString_value {d : Digits} (h : 0 < d.value) :
    (toString d.value).toList = d.significant := by
  rw [Nat.toString_eq_repr, Nat.toList_repr]
  unfold value significant at *
  have hdigits := d.isDigit_of_mem
  generalize d.chars = cs at h hdigits
  induction cs, hdigits using digits_induction with
  | nil => simp at h
  | cons k hk cs hrest ih =>
      rw [Nat.ofDigitChars_cons_digitChar_of_lt_ten hk, Nat.mul_zero, Nat.zero_add] at h ⊢
      rcases Nat.eq_zero_or_pos k with rfl | hpos
      · -- a zero in front adds nothing and is dropped
        rw [List.dropWhile_cons_of_pos (by simp)]
        exact ih h
      · have hzero := digitChar_ne_zero hpos
        rw [List.dropWhile_cons_of_neg (by simpa using hzero), toDigits_ofDigitChars hrest hpos,
          Nat.toDigits_of_lt_base hk, List.singleton_append]

/-- A decimal form starts with a zero only if it is nothing else. -/
theorem chars_ofNat_eq_zero {n : Nat} (h : (ofNat n).chars.head? = some '0') :
    (ofNat n).chars = ['0'] := by
  rcases Nat.eq_zero_or_pos n with rfl | hpos
  · rfl
  · -- the decimal form of a positive number is its own significant part
    have hpart := toList_toString_value (d := ofNat n) (by rwa [value_ofNat])
    rw [value_ofNat, significant, chars_ofNat] at hpart
    have hfirst := List.head?_dropWhile_not (· == '0') (toString n).toList
    rw [← hpart, ← chars_ofNat, h] at hfirst
    simp at hfirst

/-- A word without a superfluous zero in front is the decimal form of its number. -/
theorem toList_toString_value_of_canonical {d : Digits}
    (h : d.chars.head? = some '0' → d.chars = ['0']) :
    (toString d.value).toList = d.chars := by
  obtain ⟨c, cs, hchars⟩ := List.exists_cons_of_ne_nil d.chars_ne_nil
  have hdigits := d.isDigit_of_mem
  rw [hchars] at h hdigits
  obtain ⟨hc, hrest⟩ := List.forall_mem_cons.1 hdigits
  obtain ⟨k, hk, rfl⟩ := exists_digitChar hc
  rw [value, hchars]
  rcases Nat.eq_zero_or_pos k with rfl | hpos
  · rw [h rfl]
    rfl
  · rw [Nat.ofDigitChars_cons_digitChar_of_lt_ten hk, Nat.mul_zero, Nat.zero_add,
      Nat.toString_eq_repr, Nat.toList_repr, toDigits_ofDigitChars hrest hpos,
      Nat.toDigits_of_lt_base hk, List.singleton_append]

end Digits

end Interconnect.Text
