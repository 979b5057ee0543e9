/-
**The texts of latencies.**

The text of a latency is an ASCII decimal number, blanks and a unit.  It stands for an exact
rational number of picoseconds, and reading gives this number if it is whole and fits into 64 bits.
The digits of the fraction are added from the left, so a number that does not fit is found out
before one that is not whole: it is malformed, whatever its fraction.

The form is checked with the digits of all scripts, and a digit that is not ASCII is refused only
when its turn comes.

Main definitions:

* `Latency.ofRat` — the latency of an exact number of picoseconds;
* `Latency.Spelling` — the text of a latency in its parts, with the number that it stands for;
* `Latency.Written.Matches` — the form that is checked, said without the order of reading.

Main results:

* `Latency.addFraction_ten_pow` — adding the digits of a fraction adds the fraction;
* `Latency.Written.ofChars?_eq_some_iff` — a text is split if it has the form that is checked;
* `Latency.parse_of_spelling`, `Latency.exists_spelling` — what is read, and from which texts;
* `Latency.parse_exact` — reading is exact on all texts.
-/

import Interconnect.Latency
import Interconnect.Proofs.Digits
import Interconnect.Proofs.Outcomes
import Mathlib.Algebra.Order.Floor.Semiring
import Mathlib.Data.Rat.Floor
import Mathlib.Tactic.FieldSimp
import Mathlib.Tactic.Linarith
import Mathlib.Tactic.Positivity
import Mathlib.Tactic.Ring

set_option autoImplicit false

namespace Interconnect

-- powers and bounded quantifiers are those of the core library, whatever else is imported
attribute [local instance (high)] instPowNat List.decidableBAll

open Text

namespace TimeUnit

/-- Units differ by powers of ten. -/
theorem exists_picoseconds_eq (u : TimeUnit) : ∃ e, u.picoseconds = 10 ^ e := by
  cases u with
  | second => exact ⟨12, rfl⟩
  | millisecond => exact ⟨9, rfl⟩
  | microsecond => exact ⟨6, rfl⟩
  | nanosecond => exact ⟨3, rfl⟩
  | picosecond => exact ⟨0, rfl⟩

/-- Symbols consist of letters. -/
theorem isAlpha_of_mem_symbol {u : TimeUnit} : ∀ c ∈ u.symbol.toList, c.isAlpha := by
  cases u <;> decide

theorem not_isBlank_of_mem_symbol {u : TimeUnit} : ∀ c ∈ u.symbol.toList, isBlank c = false := by
  cases u <;> decide

theorem ofSymbol?_eq_some_iff {u : TimeUnit} {cs : List Char} :
    ofSymbol? cs = some u ↔ u.symbol.toList = cs := by
  constructor
  · intro h
    have hsymbol := List.find?_some (p := fun v : TimeUnit => v.symbol.toList == cs) h
    exact beq_iff_eq.1 hsymbol
  · rintro rfl
    exact ofSymbol?_symbol u

end TimeUnit

namespace Latency

/-! ### Exact delays -/

/-- The latency of an exact number of picoseconds, if the number is whole and fits. -/
def ofRat (x : ℚ) : Except LatencyDefect Latency :=
  if h : ⌊x⌋₊ < 2 ^ 64 then
    if x = ⌊x⌋₊ then .ok ⟨⌊x⌋₊, h⟩ else .error .subPicosecond
  else .error .malformed

theorem ofRat_eq_ok_iff {x : ℚ} {l : Latency} : ofRat x = .ok l ↔ x = l.picoseconds := by
  unfold ofRat
  constructor
  · intro h
    split at h
    · split at h
      · rename_i hwhole
        cases h
        exact hwhole
      · cases h
    · cases h
  · rintro rfl
    simp only [Nat.floor_natCast, if_true]
    exact dif_pos l.picoseconds_lt

theorem ofRat_of_le {x : ℚ} (h : 2 ^ 64 ≤ ⌊x⌋₊) : ofRat x = .error .malformed :=
  dif_neg (Nat.not_lt.2 h)

theorem ofRat_of_lt {x : ℚ} (h : ⌊x⌋₊ < 2 ^ 64) (hwhole : ∀ n : ℕ, x ≠ n) :
    ofRat x = .error .subPicosecond := by
  rw [ofRat, dif_pos h, if_neg (hwhole _)]

/-- More than a number that does not fit does not fit. -/
theorem ofRat_of_natCast_le {n : ℕ} {x : ℚ} (hn : 2 ^ 64 ≤ n) (h : (n : ℚ) ≤ x) :
    ofRat x = .error .malformed :=
  ofRat_of_le (Nat.le_trans hn (Nat.le_floor h))

/-- A part of the sum that does not fit decides, and otherwise the rest of the sum does. -/
theorem bind_ofPicoseconds {n : ℕ} {x : ℚ} {f : Latency → Except LatencyDefect Latency}
    (h : (n : ℚ) ≤ x) (hf : ∀ l : Latency, l.picoseconds = n → f l = ofRat x) :
    (ofPicoseconds n).bind f = ofRat x := by
  unfold ofPicoseconds
  split
  · exact hf _ rfl
  · rename_i hlarge
    exact (ofRat_of_natCast_le (Nat.not_lt.1 hlarge) h).symm

/-- Less than a picosecond more is nothing, or too fine. -/
theorem ofRat_add {l : Latency} {f : ℚ} (hf : 0 ≤ f) (hf' : f < 1) :
    ofRat (l.picoseconds + f) = if f = 0 then .ok l else .error .subPicosecond := by
  split
  · rename_i hzero
    rw [hzero, add_zero, ofRat_eq_ok_iff]
  · rename_i hpos
    have hfloor : ⌊(l.picoseconds : ℚ) + f⌋₊ = l.picoseconds := by
      rw [add_comm, Nat.floor_add_natCast hf, Nat.floor_eq_zero.2 hf', Nat.zero_add]
    rw [ofRat, hfloor, dif_pos l.picoseconds_lt, if_neg]
    intro h
    exact hpos (by linarith)

/-! ### Fractions -/

/-- The number that digits denote behind a point. -/
def fractionValue (cs : List Char) : ℚ := Nat.ofDigitChars 10 cs 0 / 10 ^ cs.length

@[simp] theorem fractionValue_nil : fractionValue [] = 0 := by simp [fractionValue]

theorem fractionValue_cons {k : ℕ} (hk : k < 10) (cs : List Char) :
    fractionValue (Nat.digitChar k :: cs) = (k + fractionValue cs) / 10 := by
  unfold fractionValue
  rw [Nat.ofDigitChars_cons_digitChar_of_lt_ten hk, Nat.ofDigitChars_eq_ofDigitChars_zero,
    List.length_cons]
  push_cast
  field_simp
  ring

theorem fractionValue_nonneg (cs : List Char) : 0 ≤ fractionValue cs := by
  unfold fractionValue
  positivity

theorem fractionValue_lt_one {cs : List Char} (h : ∀ c ∈ cs, c.isDigit) : fractionValue cs < 1 := by
  induction cs, h using digits_induction with
  | nil => simp
  | cons k hk cs _ ih =>
      have hk' : (k : ℚ) ≤ 9 := by exact_mod_cast Nat.le_of_lt_succ hk
      rw [fractionValue_cons hk]
      linarith

/-- At a place of one picosecond the digits add up to less than that, so only zeros are taken. -/
theorem addFraction_one {cs : List Char} (h : ∀ c ∈ cs, c.isDigit) (total : Latency) :
    addFraction 1 total cs = ofRat (total.picoseconds + fractionValue cs) := by
  induction cs, h using digits_induction with
  | nil =>
      rw [fractionValue_nil, add_zero]
      exact (ofRat_eq_ok_iff.2 rfl).symm
  | cons k hk cs hrest ih h =>
      have hvalue := fractionValue_cons hk cs
      have hnonneg := fractionValue_nonneg cs
      have hlt := fractionValue_lt_one h
      rw [addFraction, if_neg (not_not.2 (h _ List.mem_cons_self)), if_neg (by decide), ih,
        ofRat_add hnonneg (fractionValue_lt_one hrest), ofRat_add (fractionValue_nonneg _) hlt,
        hvalue]
      rcases Nat.eq_zero_or_pos k with rfl | hpos
      · simp
      · have hdigit := digitChar_ne_zero hpos
        have hpos' : (0 : ℚ) < k := by exact_mod_cast hpos
        rw [if_neg hdigit, if_neg (by positivity)]

/-- **Adding the digits of a fraction adds the fraction**, exactly. -/
theorem addFraction_ten_pow {cs : List Char} (h : ∀ c ∈ cs, c.isDigit) (e : ℕ) (total : Latency) :
    addFraction (10 ^ e) total cs = ofRat (total.picoseconds + 10 ^ e * fractionValue cs) := by
  induction cs, h using digits_induction generalizing e total with
  | nil =>
      rw [fractionValue_nil, mul_zero, add_zero]
      exact (ofRat_eq_ok_iff.2 rfl).symm
  | cons k hk cs hrest ih h =>
      cases e with
      | zero =>
          rw [pow_zero, pow_zero, one_mul]
          exact addFraction_one h total
      | succ e =>
          have hplace : 10 ^ (e + 1) / 10 = 10 ^ e := by
            rw [Nat.pow_succ, Nat.mul_div_cancel _ (by decide)]
          have hdigit : (Nat.digitChar k).toNat - '0'.toNat = k :=
            Nat.toNat_digitChar_sub_48_of_lt_ten hk
          have hnonneg := fractionValue_nonneg cs
          have hsum : (total.picoseconds : ℚ) + 10 ^ (e + 1) * ((k + fractionValue cs) / 10) =
              ((total.picoseconds + k * 10 ^ e : ℕ) : ℚ) + 10 ^ e * fractionValue cs := by
            push_cast
            ring
          rw [addFraction, if_neg (not_not.2 (h _ List.mem_cons_self)),
            if_pos (by rw [Nat.pow_succ, Nat.mul_mod_left]), hplace, hdigit, fractionValue_cons hk,
            hsum]
          refine bind_ofPicoseconds (le_add_of_nonneg_right (by positivity)) ?_
          intro total' htotal
          rw [ih, htotal]

/-- A fraction that is added has ASCII digits alone. -/
theorem isDigit_of_addFraction {place : ℕ} {total l : Latency} {cs : List Char}
    (h : addFraction place total cs = .ok l) : ∀ c ∈ cs, c.isDigit := by
  induction cs generalizing place total with
  | nil => simp
  | cons c cs ih =>
      rw [addFraction] at h
      obtain ⟨hdigit, h⟩ := ite_error_eq_ok_iff.1 h
      rw [not_not] at hdigit
      have hrest : ∀ c ∈ cs, c.isDigit := by
        split at h
        · obtain ⟨total', -, h⟩ := bind_eq_ok_iff.1 h
          exact ih h
        · split at h
          · exact ih h
          · cases h
      exact List.forall_mem_cons.2 ⟨hdigit, hrest⟩

/-- **Reading adds up what is written**, if all digits are ASCII. -/
theorem Written.read_eq {w : Written} (hwhole : ∀ c ∈ w.whole, c.isDigit)
    (hfraction : ∀ c ∈ w.fraction, c.isDigit) :
    w.read = ofRat ((Nat.ofDigitChars 10 w.whole 0 + fractionValue w.fraction) *
      w.unit.picoseconds) := by
  obtain ⟨e, he⟩ := w.unit.exists_picoseconds_eq
  generalize hn : Nat.ofDigitChars 10 w.whole 0 = n
  -- the whole part in picoseconds, and what the fraction adds to it
  have hsum : ((n : ℚ) + fractionValue w.fraction) * w.unit.picoseconds =
      ((n * w.unit.picoseconds : ℕ) : ℚ) + 10 ^ e * fractionValue w.fraction := by
    rw [he]
    push_cast
    ring
  have hle : ((n * w.unit.picoseconds : ℕ) : ℚ) ≤
      ((n * w.unit.picoseconds : ℕ) : ℚ) + 10 ^ e * fractionValue w.fraction := by
    have hnonneg := fractionValue_nonneg w.fraction
    exact le_add_of_nonneg_right (by positivity)
  rw [hsum]
  unfold read
  cases hread : Numeral.read w.whole with
  | error cause =>
      have hlarge : 2 ^ 64 ≤ n := by
        by_contra hlt
        have hok := Numeral.read_eq_ok_iff.2
          ⟨List.all_eq_true.2 hwhole, hn, Nat.not_le.1 hlt⟩
        rw [hread] at hok
        cases hok
      have hpos := w.unit.picoseconds_pos
      exact (ofRat_of_natCast_le (Nat.le_trans hlarge (Nat.le_mul_of_pos_right n hpos)) hle).symm
  | ok m =>
      obtain ⟨-, hm, -⟩ := Numeral.read_eq_ok_iff.1 hread
      obtain rfl : n = m := hn.symm.trans hm
      refine bind_ofPicoseconds hle ?_
      intro total htotal
      rw [← htotal, he]
      exact addFraction_ten_pow hfraction e total

/-! ### The form that is checked -/

/-- The point and the digits behind it, if there are any. -/
def pointed : List Char → List Char
  | [] => []
  | cs => '.' :: cs

/-- The form that is checked: digits of any script, perhaps a point and more digits, blanks, and the
symbol of a unit. -/
structure Written.Matches (w : Written) (cs : List Char) : Prop where
  whole_ne_nil : w.whole ≠ []
  whole_digits : ∀ c ∈ w.whole, isDecimalDigit c
  fraction_digits : ∀ c ∈ w.fraction, isDecimalDigit c
  exists_blanks : ∃ blanks, (∀ c ∈ blanks, isBlank c) ∧
    cs = w.whole ++ (pointed w.fraction ++ (blanks ++ w.unit.symbol.toList))

namespace Written

theorem pointed_of_ne_nil {cs : List Char} (h : cs ≠ []) : pointed cs = '.' :: cs := by
  cases cs with
  | nil => exact absurd rfl h
  | cons c cs => rfl

theorem splitFraction?_spec {cs fraction rest : List Char}
    (h : splitFraction? cs = some (fraction, rest)) :
    cs = pointed fraction ++ rest ∧ ∀ c ∈ fraction, isDecimalDigit c := by
  unfold splitFraction? at h
  split at h
  · rename_i cs
    split at h
    · cases h
    · rename_i hne
      cases h
      rw [List.isEmpty_iff] at hne
      refine ⟨?_, fun c hc => List.mem_takeWhile_imp hc⟩
      rw [pointed_of_ne_nil hne, List.cons_append, List.takeWhile_append_dropWhile]
  · cases h
    exact ⟨rfl, by simp⟩

theorem splitFraction?_append {fraction rest : List Char}
    (hfraction : ∀ c ∈ fraction, isDecimalDigit c)
    (hrest : ∀ c ∈ rest.head?, isDecimalDigit c = false ∧ c ≠ '.') :
    splitFraction? (pointed fraction ++ rest) = some (fraction, rest) := by
  have hstop : ∀ c ∈ rest.head?, isDecimalDigit c = false := fun c hc => (hrest c hc).1
  cases fraction with
  | nil =>
      unfold splitFraction?
      split
      · rename_i cs hcs
        rw [pointed, List.nil_append] at hcs
        exact absurd rfl (hrest '.' (by simp [hcs])).2
      · rfl
  | cons c cs =>
      rw [pointed_of_ne_nil (List.cons_ne_nil c cs), List.cons_append, splitFraction?,
        takeWhile_append hfraction hstop, dropWhile_append hfraction hstop]
      rfl

/-- A point is no digit, so the digits in front of it end there. -/
theorem head?_pointed_append (fraction : List Char) {rest : List Char}
    (hrest : ∀ c ∈ rest.head?, isDecimalDigit c = false) :
    ∀ c ∈ (pointed fraction ++ rest).head?, isDecimalDigit c = false := by
  intro c hc
  cases fraction with
  | nil =>
      rw [pointed, List.nil_append] at hc
      exact hrest c hc
  | cons c' cs =>
      rw [pointed_of_ne_nil (List.cons_ne_nil c' cs)] at hc
      cases hc
      decide

/-- Behind the number there is neither a digit nor a point. -/
theorem head?_blanks_symbol {blanks : List Char} (h : ∀ c ∈ blanks, isBlank c) (u : TimeUnit) :
    ∀ c ∈ (blanks ++ u.symbol.toList).head?, isDecimalDigit c = false ∧ c ≠ '.' := by
  intro c hc
  have hmem := List.mem_of_mem_head? hc
  rcases List.mem_append.1 hmem with hblank | hletter
  · refine ⟨not_isDecimalDigit_of_isBlank (h c hblank), ?_⟩
    rintro rfl
    exact absurd (h '.' hblank) (by decide)
  · refine ⟨not_isDecimalDigit_of_isAlpha (TimeUnit.isAlpha_of_mem_symbol c hletter), ?_⟩
    rintro rfl
    exact absurd (TimeUnit.isAlpha_of_mem_symbol '.' hletter) (by decide)

theorem trimLeft_blanks_symbol {blanks : List Char} (h : ∀ c ∈ blanks, isBlank c) (u : TimeUnit) :
    trimLeft (blanks ++ u.symbol.toList) = u.symbol.toList := by
  refine dropWhile_append h ?_
  intro c hc
  exact TimeUnit.not_isBlank_of_mem_symbol c (List.mem_of_mem_head? hc)

/-- **A text is split if it has the form that is checked**, and into its parts. -/
theorem ofChars?_eq_some_iff {w : Written} {cs : List Char} :
    ofChars? cs = some w ↔ w.Matches cs := by
  constructor
  · intro h
    unfold ofChars? at h
    obtain ⟨_, hguard, h⟩ := Option.bind_eq_some_iff.1 h
    obtain ⟨⟨fraction, rest⟩, hsplit, h⟩ := Option.bind_eq_some_iff.1 h
    obtain ⟨unit, hunit, h⟩ := Option.bind_eq_some_iff.1 h
    cases h
    obtain ⟨htail, hfraction⟩ := splitFraction?_spec hsplit
    rw [TimeUnit.ofSymbol?_eq_some_iff] at hunit
    refine ⟨?_, fun c hc => List.mem_takeWhile_imp hc, hfraction, rest.takeWhile isBlank,
      fun c hc => List.mem_takeWhile_imp hc, ?_⟩
    · intro hnil
      change cs.takeWhile isDecimalDigit = [] at hnil
      rw [hnil] at hguard
      cases hguard
    · rw [hunit, trimLeft, List.takeWhile_append_dropWhile, ← htail,
        List.takeWhile_append_dropWhile]
  · rintro ⟨hne, hwhole, hfraction, blanks, hblanks, rfl⟩
    have hend := head?_blanks_symbol hblanks w.unit
    have hstop := head?_pointed_append w.fraction fun c hc => (hend c hc).1
    unfold ofChars?
    rw [takeWhile_append hwhole hstop, dropWhile_append hwhole hstop,
      splitFraction?_append hfraction hend]
    simp [hne, guard, trimLeft_blanks_symbol hblanks, TimeUnit.ofSymbol?_symbol]

end Written

/-! ### Texts and their numbers -/

/-- The text of a latency: an ASCII decimal number, blanks and a unit. -/
structure Spelling where
  /-- The digits in front of the point. -/
  whole : Digits
  /-- The digits behind the point, if there is one. -/
  fraction : Option Digits
  /-- The blanks in front of the unit. -/
  blanks : List Char
  /-- They are blanks. -/
  isBlank_of_mem : ∀ c ∈ blanks, isBlank c
  /-- The unit. -/
  unit : TimeUnit

namespace Spelling

/-- The text. -/
def chars (s : Spelling) : List Char :=
  s.whole.chars ++ (s.fraction.elim [] fun d => '.' :: d.chars) ++ s.blanks ++
    s.unit.symbol.toList

/-- The number in front of the unit. -/
def number (s : Spelling) : ℚ :=
  (s.whole.value : ℚ) + s.fraction.elim (0 : ℚ) fun d => (d.value : ℚ) / 10 ^ d.chars.length

/-- The delay, as an exact number of picoseconds. -/
def picoseconds (s : Spelling) : ℚ := s.number * s.unit.picoseconds

/-- The parts that are read. -/
def written (s : Spelling) : Written := ⟨s.whole.chars, s.fraction.elim [] Digits.chars, s.unit⟩

theorem isDigit_of_mem_fraction {s : Spelling} : ∀ c ∈ s.written.fraction, c.isDigit := by
  unfold written
  cases s.fraction with
  | none => simp
  | some d => exact d.isDigit_of_mem

theorem pointed_written (s : Spelling) :
    pointed s.written.fraction = s.fraction.elim [] fun d => '.' :: d.chars := by
  unfold written
  cases s.fraction with
  | none => rfl
  | some d => exact Written.pointed_of_ne_nil d.chars_ne_nil

theorem matches_written (s : Spelling) : s.written.Matches s.chars where
  whole_ne_nil := s.whole.chars_ne_nil
  whole_digits c hc := isDecimalDigit_of_isDigit (s.whole.isDigit_of_mem c hc)
  fraction_digits c hc := isDecimalDigit_of_isDigit (isDigit_of_mem_fraction c hc)
  exists_blanks := by
    refine ⟨s.blanks, s.isBlank_of_mem, ?_⟩
    rw [pointed_written, chars, List.append_assoc, List.append_assoc]
    rfl

theorem read_written (s : Spelling) : s.written.read = ofRat s.picoseconds := by
  rw [Written.read_eq s.whole.isDigit_of_mem isDigit_of_mem_fraction, picoseconds, number]
  unfold written
  cases s.fraction with
  | none => simp [Digits.value]
  | some d => simp [Digits.value, fractionValue]

end Spelling

/-- **What is read from the text of a latency**: its number of picoseconds, if it is one. -/
theorem parse_of_spelling {text : String} {s : Spelling} (h : IsTrimOf s.chars text.toList) :
    parse text = (ofRat s.picoseconds).mapError fun defect => { defect, text } := by
  unfold parse
  rw [isTrimOf_iff.1 h, Written.ofChars?_eq_some_iff.2 s.matches_written, ← s.read_written]

/-- **Every text that is read is the text of a latency.** -/
theorem exists_spelling {text : String} {l : Latency} (h : parse text = .ok l) :
    ∃ s : Spelling, IsTrimOf s.chars text.toList := by
  unfold parse at h
  split at h
  · rename_i w hw
    obtain ⟨hne, -, -, blanks, hblanks, hchars⟩ := Written.ofChars?_eq_some_iff.1 hw
    rw [mapError_eq_ok_iff] at h
    unfold Written.read at h
    cases hread : Numeral.read w.whole with
    | error cause =>
        rw [hread] at h
        cases h
    | ok n =>
        rw [hread] at h
        obtain ⟨total, -, hfraction⟩ := bind_eq_ok_iff.1 h
        have hdigits := isDigit_of_addFraction hfraction
        obtain ⟨whole, hwhole, -⟩ := Digits.exists_of_read hne hread
        -- the digits were those of any script, and were taken one by one
        refine ⟨⟨whole, if hnil : w.fraction = [] then none else some ⟨w.fraction, hnil, hdigits⟩,
          blanks, hblanks, w.unit⟩, isTrimOf_iff.2 ?_⟩
        rw [hchars, Spelling.chars, hwhole, List.append_assoc, List.append_assoc]
        split
        · rename_i hnil
          rw [hnil]
          rfl
        · rename_i hnil
          rw [Written.pointed_of_ne_nil hnil]
          rfl
  · cases h

/-- An error quotes the whole text. -/
theorem text_of_parse {text : String} {e : LatencyError} (h : parse text = .error e) :
    e.text = text := by
  unfold parse at h
  split at h
  · obtain ⟨defect, -, rfl⟩ := mapError_eq_error_iff.1 h
    rfl
  · cases h
    rfl

/-- **Reading latencies is exact.** -/
theorem parse_exact (text : String) :
    (∀ p : ℕ, (parse text).map picoseconds = .ok p ↔
      p < 2 ^ 64 ∧ ∃ s : Spelling, IsTrimOf s.chars text.toList ∧ s.picoseconds = p) ∧
    (∀ s : Spelling, IsTrimOf s.chars text.toList →
      (2 ^ 64 ≤ ⌊s.picoseconds⌋₊ → parse text = .error ⟨.malformed, text⟩) ∧
      (⌊s.picoseconds⌋₊ < 2 ^ 64 → (∀ n : ℕ, s.picoseconds ≠ n) →
        parse text = .error ⟨.subPicosecond, text⟩)) ∧
    ((∀ s : Spelling, ¬ IsTrimOf s.chars text.toList) →
      ∃ defect, parse text = .error ⟨defect, text⟩) := by
  refine ⟨fun p => ?_, fun s hs => ?_, fun hnone => ?_⟩
  · rw [map_eq_ok_iff]
    constructor
    · rintro ⟨l, hl, rfl⟩
      obtain ⟨s, hs⟩ := exists_spelling hl
      rw [parse_of_spelling hs, mapError_eq_ok_iff, ofRat_eq_ok_iff] at hl
      exact ⟨l.picoseconds_lt, s, hs, hl⟩
    · rintro ⟨hlt, s, hs, hp⟩
      refine ⟨⟨p, hlt⟩, ?_, rfl⟩
      rw [parse_of_spelling hs, mapError_eq_ok_iff, ofRat_eq_ok_iff]
      exact hp
  · rw [parse_of_spelling hs]
    refine ⟨fun hlarge => ?_, fun hlt hwhole => ?_⟩
    · rw [ofRat_of_le hlarge]
      rfl
    · rw [ofRat_of_lt hlt hwhole]
      rfl
  · cases hparse : parse text with
    | ok l =>
        obtain ⟨s, hs⟩ := exists_spelling hparse
        exact absurd hs (hnone s)
    | error e =>
        obtain rfl := text_of_parse hparse
        exact ⟨e.defect, rfl⟩

/-- A latency with superfluous zeros and blanks, two at the limit of what fits, and one with a digit
of another script, which has the form that is checked. -/
theorem parse_exact_at_limit :
    (parse " 002.50 us").map picoseconds = .ok 2500000 ∧
    parse "18446744073709551615.5ps" = .error ⟨.subPicosecond, "18446744073709551615.5ps"⟩ ∧
    parse "18446744073709551616.5ps" = .error ⟨.malformed, "18446744073709551616.5ps"⟩ ∧
    (Written.ofChars? "1٣ps".toList).isSome ∧ ∃ defect, parse "1٣ps" = .error ⟨defect, "1٣ps"⟩ := by
  -- whole picoseconds and a half
  let half (whole : Digits) : Spelling :=
    ⟨whole, some ⟨['5'], by decide, by decide⟩, [], by decide, .picosecond⟩
  have hhalf : ∀ d, (half d).picoseconds = d.value + 1 / 2 := by
    intro d
    change ((d.value : ℚ) + ((5 : ℕ) : ℚ) / 10 ^ 1) * (1 : ℕ) = d.value + 1 / 2
    norm_num
  have hfloor : ∀ d, ⌊(half d).picoseconds⌋₊ = d.value := by
    intro d
    rw [hhalf, add_comm, Nat.floor_add_natCast (by norm_num), Nat.floor_eq_zero.2 (by norm_num),
      Nat.zero_add]
  refine ⟨?_, ?_, ?_, by decide +kernel, ?_⟩
  · let s : Spelling := ⟨⟨['0', '0', '2'], by decide, by decide⟩,
      some ⟨['5', '0'], by decide, by decide⟩, [' '], by decide, .microsecond⟩
    have hs : IsTrimOf s.chars " 002.50 us".toList := isTrimOf_iff.2 (by decide +kernel)
    have hvalue : s.picoseconds = ((2 : ℕ) + ((50 : ℕ) : ℚ) / 10 ^ 2) * (10 ^ 6 : ℕ) := rfl
    exact ((parse_exact " 002.50 us").1 2500000).2 ⟨by decide, s, hs, by rw [hvalue]; norm_num⟩
  · let d : Digits := ⟨"18446744073709551615".toList, by decide, by decide +kernel⟩
    have hd : d.value = 2 ^ 64 - 1 := by decide +kernel
    have hs : IsTrimOf (half d).chars "18446744073709551615.5ps".toList :=
      isTrimOf_iff.2 (by decide +kernel)
    refine ((parse_exact _).2.1 (half d) hs).2 (by rw [hfloor, hd]; decide) ?_
    intro n hn
    have hodd : ((2 * d.value + 1 : ℕ) : ℚ) = (2 * n : ℕ) := by
      push_cast
      linarith [hhalf d]
    have := Nat.cast_injective hodd
    omega
  · let d : Digits := ⟨"18446744073709551616".toList, by decide, by decide +kernel⟩
    have hd : d.value = 2 ^ 64 := by decide +kernel
    have hs : IsTrimOf (half d).chars "18446744073709551616.5ps".toList :=
      isTrimOf_iff.2 (by decide +kernel)
    exact ((parse_exact _).2.1 (half d) hs).1 (by rw [hfloor, hd])
  · refine (parse_exact "1٣ps").2.2 ?_
    intro s hs
    have hsplit := Written.ofChars?_eq_some_iff.2 s.matches_written
    rw [← isTrimOf_iff.1 hs] at hsplit
    have hwhole : some s.written = some ⟨['1', '٣'], [], .picosecond⟩ :=
      hsplit.symm.trans (by decide +kernel)
    have hmem : '٣' ∈ s.whole.chars := by
      rw [show s.whole.chars = ['1', '٣'] from congrArg Written.whole (Option.some.inj hwhole)]
      decide
    exact absurd (s.whole.isDigit_of_mem _ hmem) (by decide)

end Latency

end Interconnect
