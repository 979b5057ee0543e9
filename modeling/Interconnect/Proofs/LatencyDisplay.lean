/-
**Writing latencies and reading them back.**

A latency is written as a whole number of the largest unit that divides it, so nothing is lost, and
the text is one that reading takes: a word of digits without superfluous zeros, and the symbol of a
unit.  A latency is therefore told by its text, whatever text it was read from.

Main definitions:

* `Latency.spelling` — the text of a latency in its parts;
* `Latency.IsCanonical` — the text with the largest unit and no superfluous zero.

Main results:

* `Latency.unit_dvd`, `Latency.le_unit` — the unit that is chosen divides, and is the largest;
* `Latency.parse_toString` — what is written reads back;
* `Latency.display_canonical` — the text of a latency tells it apart from all others.
-/

import Interconnect.Proofs.LatencyTexts

set_option autoImplicit false

namespace Interconnect

-- powers and bounded quantifiers are those of the core library, whatever else is imported
attribute [local instance (high)] instPowNat List.decidableBAll

open Text

namespace TimeUnit

theorem pairwise_all : all.Pairwise fun u v => v.picoseconds ≤ u.picoseconds := by decide

end TimeUnit

namespace Latency

/-! ### The unit -/

/-- The unit of a latency that is not zero is the first one that divides it. -/
theorem find?_eq_unit {l : Latency} (h : l.picoseconds ≠ 0) :
    TimeUnit.all.find? (fun u => l.picoseconds % u.picoseconds == 0) = some l.unit := by
  unfold unit
  rw [if_neg h]
  cases hfind : TimeUnit.all.find? fun u => l.picoseconds % u.picoseconds == 0 with
  | some u => rfl
  | none =>
      -- a picosecond divides everything
      have hnone := List.find?_eq_none.1 hfind .picosecond (TimeUnit.mem_all _)
      simp [TimeUnit.picoseconds, Nat.mod_one] at hnone

theorem unit_dvd (l : Latency) : l.unit.picoseconds ∣ l.picoseconds := by
  by_cases h : l.picoseconds = 0
  · rw [h]
    exact Nat.dvd_zero _
  · have hunit := List.find?_some (find?_eq_unit h)
    exact Nat.dvd_of_mod_eq_zero (beq_iff_eq.1 hunit)

/-- **No larger unit divides the latency.** -/
theorem le_unit {l : Latency} (h : l.picoseconds ≠ 0) {u : TimeUnit}
    (hu : u.picoseconds ∣ l.picoseconds) : u.picoseconds ≤ l.unit.picoseconds := by
  obtain ⟨-, larger, smaller, hall, hlarger⟩ := List.find?_eq_some_iff_append.1 (find?_eq_unit h)
  have hsorted := TimeUnit.pairwise_all
  have hmem := u.mem_all
  rw [hall] at hsorted hmem
  rcases List.mem_append.1 hmem with hbefore | hafter
  · -- a unit in front of the chosen one does not divide
    have hdivides : l.picoseconds % u.picoseconds = 0 := Nat.mod_eq_zero_of_dvd hu
    exact absurd hdivides (by simpa using hlarger u hbefore)
  · rcases List.mem_cons.1 hafter with rfl | hsmaller
    · exact Nat.le_refl _
    · exact List.rel_of_pairwise_cons (List.pairwise_append.1 hsorted).2.1 hsmaller

/-! ### The text -/

/-- The text of a latency in its parts. -/
def spelling (l : Latency) : Spelling where
  whole := Digits.ofNat (l.picoseconds / l.unit.picoseconds)
  fraction := none
  blanks := []
  isBlank_of_mem := by simp
  unit := l.unit

theorem chars_spelling (l : Latency) : l.spelling.chars = (toString l).toList := by
  change _ = (toString (l.picoseconds / l.unit.picoseconds) ++ l.unit.symbol).toList
  rw [String.toList_append, Spelling.chars]
  simp [spelling]

theorem picoseconds_spelling (l : Latency) : l.spelling.picoseconds = l.picoseconds := by
  have hmul := Nat.div_mul_cancel l.unit_dvd
  rw [Spelling.picoseconds, Spelling.number]
  simp only [spelling, Digits.value_ofNat, Option.elim_none, add_zero]
  exact_mod_cast hmul

theorem isTrimOf_toString (l : Latency) : IsTrimOf l.spelling.chars (toString l).toList := by
  rw [chars_spelling]
  refine isTrimOf_self fun c hc => ?_
  rw [← chars_spelling, Spelling.chars] at hc
  simp only [spelling, Option.elim_none, List.append_nil, List.mem_append] at hc
  rcases hc with hdigit | hletter
  · exact (Digits.ofNat _).not_isBlank c hdigit
  · exact TimeUnit.not_isBlank_of_mem_symbol c hletter

/-- **What is written reads back.** -/
theorem parse_toString (l : Latency) : parse (toString l) = .ok l := by
  rw [parse_of_spelling (isTrimOf_toString l), mapError_eq_ok_iff, ofRat_eq_ok_iff]
  exact l.picoseconds_spelling

theorem toString_injective {l l' : Latency} (h : toString l = toString l') : l = l' := by
  have hparse := parse_toString l
  rw [h, parse_toString l'] at hparse
  cases hparse
  rfl

/-- A text is the canonical one of a number of picoseconds: a decimal integer without superfluous
zeros, and the largest unit that divides the number.  Zero is written in picoseconds. -/
structure IsCanonical (text : String) (p : ℕ) (d : Digits) (u : TimeUnit) : Prop where
  chars_eq : text.toList = d.chars ++ u.symbol.toList
  value_mul : d.value * u.picoseconds = p
  no_leading_zero : d.chars.head? = some '0' → d.chars = ['0']
  largest : p ≠ 0 → ∀ v : TimeUnit, v.picoseconds ∣ p → v.picoseconds ≤ u.picoseconds
  of_zero : p = 0 → text = "0ps"

theorem isCanonical_toString (l : Latency) :
    IsCanonical (toString l) l.picoseconds l.spelling.whole l.unit where
  chars_eq := by
    rw [← chars_spelling, Spelling.chars]
    simp [spelling]
  value_mul := by
    rw [spelling, Digits.value_ofNat]
    exact Nat.div_mul_cancel l.unit_dvd
  no_leading_zero := Digits.chars_ofNat_eq_zero
  largest h _ hv := le_unit h hv
  of_zero h := by
    obtain rfl : l = ⟨0, by decide⟩ := by
      cases l
      cases h
      rfl
    decide

/-- **Latencies survive being written**, in their canonical text, and two texts that are read stand
for the same number of picoseconds exactly if what is read from them is written alike. -/
theorem display_canonical :
    (∀ l : Latency, (parse (toString l)).map picoseconds = .ok l.picoseconds ∧
      ∃ d u, IsCanonical (toString l) l.picoseconds d u) ∧
    (∀ text l, parse text = .ok l → parse (toString l) = .ok l) ∧
    ∀ text text' l l', parse text = .ok l → parse text' = .ok l' →
      (l = l' ↔ toString l = toString l') ∧
      ∀ s s' : Spelling, IsTrimOf s.chars text.toList → IsTrimOf s'.chars text'.toList →
        (s.picoseconds = s'.picoseconds ↔ toString l = toString l') := by
  refine ⟨fun l => ⟨?_, _, _, l.isCanonical_toString⟩, fun _ l _ => l.parse_toString, ?_⟩
  · rw [parse_toString]
    rfl
  · intro text text' l l' hl hl'
    refine ⟨⟨congrArg _, toString_injective⟩, fun s s' hs hs' => ?_⟩
    rw [parse_of_spelling hs, mapError_eq_ok_iff, ofRat_eq_ok_iff] at hl
    rw [parse_of_spelling hs', mapError_eq_ok_iff, ofRat_eq_ok_iff] at hl'
    rw [hl, hl', Nat.cast_inj]
    constructor
    · intro h
      cases l
      cases l'
      cases h
      rfl
    · intro h
      rw [toString_injective h]

/-- Two latencies that are a nanosecond apart. -/
theorem display_canonical_nanoseconds :
    let l : Latency := ⟨1500000, by decide⟩
    let l' : Latency := ⟨1501000, by decide⟩
    parse "1.5us" = .ok l ∧ parse " 01501 ns" = .ok l' ∧ parse (toString l) = .ok l ∧
      toString l ≠ toString l' := by
  intro l l'
  have h : parse "1.5us" = .ok l := by decide +kernel
  have h' : parse " 01501 ns" = .ok l' := by decide +kernel
  refine ⟨h, h', display_canonical.2.1 _ l h, fun htext => ?_⟩
  exact absurd ((display_canonical.2.2 _ _ l l' h h').1.2 htext) (by decide)

end Latency

end Interconnect
