/-
**Decimal numerals of 64-bit words.**

Counts, identifiers and latencies are 64-bit words written in decimal.  A numeral is read from left
to right and reading stops at the first character that cannot be taken: one that is not an ASCII
digit, or one with which the value would need more than 64 bits.  Which of the two came first is
what an error message reports.

Main definitions:

* `Text.Numeral.read` — the word that a list of digits denotes;
* `Text.NumeralError` — why a list of characters denotes none.

Main results:

* `Text.Numeral.read_eq_ok_iff` — what is accepted, without the order of reading: ASCII digits
  alone, with a value below `2 ^ 64`;
* `Text.Numeral.read_toString` — the decimal form of a word reads back.
-/

set_option autoImplicit false

namespace Interconnect.Text

-- powers are those of the core library, whatever else is imported
attribute [local instance (high)] instPowNat

/-- Why a text is not the decimal numeral of a 64-bit word. -/
inductive NumeralError where
  /-- There is a character that is not an ASCII digit. -/
  | invalidDigit
  /-- The value needs more than 64 bits. -/
  | tooLarge
  deriving DecidableEq, Repr

/-- The wording that messages use. -/
def NumeralError.message : NumeralError → String
  | .invalidDigit => "invalid digit found in string"
  | .tooLarge => "number too large to fit in target type"

namespace Numeral

/-- Takes one more digit behind those that make `value`. -/
def push (value : Nat) (c : Char) : Except NumeralError Nat :=
  if ¬ c.isDigit then .error .invalidDigit
  else if 10 * value + (c.toNat - '0'.toNat) < 2 ^ (64 : Nat) then
    .ok (10 * value + (c.toNat - '0'.toNat))
  else .error .tooLarge

/-- Takes the digits `cs` behind those that make `value`. -/
def readFrom (value : Nat) : List Char → Except NumeralError Nat
  | [] => .ok value
  | c :: cs => (push value c).bind (readFrom · cs)

/-- The word that a list of digits denotes; the empty list denotes zero. -/
def read (cs : List Char) : Except NumeralError Nat := readFrom 0 cs

/-- The word that a non-empty list of digits denotes, if it denotes one. -/
def read? (cs : List Char) : Option Nat :=
  if cs.isEmpty then none else (read cs).toOption

theorem push_eq_ok_iff {value n : Nat} {c : Char} :
    push value c = .ok n ↔
      c.isDigit ∧ 10 * value + (c.toNat - '0'.toNat) = n ∧ n < 2 ^ (64 : Nat) := by
  unfold push
  split
  · simp_all
  · split <;> simp_all <;> omega

theorem le_ofDigitChars (value : Nat) (cs : List Char) :
    value ≤ Nat.ofDigitChars 10 cs value := by
  induction cs generalizing value with
  | nil => simp
  | cons c cs ih =>
      rw [Nat.ofDigitChars_cons]
      exact Nat.le_trans (by omega) (ih _)

theorem readFrom_eq_ok_iff {value n : Nat} {cs : List Char} (hv : value < 2 ^ (64 : Nat)) :
    readFrom value cs = .ok n ↔
      cs.all Char.isDigit ∧ Nat.ofDigitChars 10 cs value = n ∧ n < 2 ^ (64 : Nat) := by
  induction cs generalizing value with
  | nil =>
      simp only [readFrom, Except.ok.injEq, List.all_nil, Nat.ofDigitChars_nil, true_and]
      constructor
      · rintro rfl; exact ⟨rfl, hv⟩
      · exact fun h => h.1
  | cons c cs ih =>
      rw [readFrom, Nat.ofDigitChars_cons, List.all_cons, Bool.and_eq_true]
      cases hp : push value c with
      | ok m =>
          obtain ⟨hc, hm, hlt⟩ := push_eq_ok_iff.1 hp
          rw [hm, hc]
          simpa [Except.bind] using ih hlt
      | error e =>
          simp only [Except.bind, reduceCtorEq, false_iff]
          rintro ⟨⟨hc, -⟩, rfl, hlt⟩
          have := le_ofDigitChars (10 * value + (c.toNat - '0'.toNat)) cs
          rw [push_eq_ok_iff.2 ⟨hc, rfl, by omega⟩] at hp
          cases hp

/-- A list of characters denotes a word iff it has ASCII digits alone and its value fits. -/
theorem read_eq_ok_iff {n : Nat} {cs : List Char} :
    read cs = .ok n ↔ cs.all Char.isDigit ∧ Nat.ofDigitChars 10 cs 0 = n ∧ n < 2 ^ (64 : Nat) :=
  readFrom_eq_ok_iff (by decide)

/-- The decimal form of a number tells it apart from all others. -/
theorem toString_injective {m n : Nat} (h : toString m = toString n) : m = n := by
  have h' := congrArg String.toList h
  rw [Nat.toString_eq_repr, Nat.toString_eq_repr, Nat.toList_repr, Nat.toList_repr] at h'
  rw [← @Nat.ofDigitChars_ten_toDigits m, h', Nat.ofDigitChars_ten_toDigits]

theorem isEmpty_toString (n : Nat) : (toString n).toList.isEmpty = false := by
  rw [Nat.toString_eq_repr, Nat.toList_repr, List.isEmpty_eq_false_iff]
  exact Nat.toDigits_ne_nil

theorem read_toString {n : Nat} (h : n < 2 ^ (64 : Nat)) : read (toString n).toList = .ok n := by
  rw [read_eq_ok_iff, Nat.toString_eq_repr, Nat.toList_repr]
  refine ⟨List.all_eq_true.2 fun c hc => Nat.isDigit_of_mem_toDigits (by decide) (by decide) hc,
    ?_, h⟩
  exact Nat.ofDigitChars_ten_toDigits

theorem read?_toString {n : Nat} (h : n < 2 ^ (64 : Nat)) : read? (toString n).toList = some n := by
  rw [read?, isEmpty_toString, read_toString h]
  rfl

end Numeral

end Interconnect.Text
