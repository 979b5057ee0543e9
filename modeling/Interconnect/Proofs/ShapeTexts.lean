/-
**The texts of shapes.**

The text of a shape is a list of words of ASCII digits with an `x` between them, each the numeral of
a positive 64-bit word.  Four checks stand one behind the other when a text is read: the form with
digits of all scripts, the splitting at every `x`, the numerals, and the zeros.  Together they
accept these texts and no others.  A shape is written without superfluous zeros, and so that it
reads back.

Main definitions:

* `Shape.Spelling` — the text of a shape in its parts, with the fan-outs that it stands for.

Main results:

* `Shape.parse_eq_ok_iff` — what is read, and from which texts;
* `Shape.spelling` — the text of a shape whose fan-outs are words;
* `Shape.parse_grammar` — reading accepts exactly the texts of shapes and inverts writing.
-/

import Interconnect.Error
import Interconnect.Proofs.Digits
import Interconnect.Proofs.Outcomes

set_option autoImplicit false

namespace Interconnect

-- powers and bounded quantifiers are those of the core library, whatever else is imported
attribute [local instance (high)] instPowNat List.decidableBAll

open Text

/-! ### Joined parts -/

theorem Text.mem_join {sep c : Char} {parts : List (List Char)} (h : c ∈ join sep parts) :
    c = sep ∨ ∃ part ∈ parts, c ∈ part := by
  induction parts with
  | nil => simp [join] at h
  | cons part parts ih =>
      cases parts with
      | nil => exact .inr ⟨part, List.mem_cons_self, h⟩
      | cons part' parts =>
          change c ∈ part ++ sep :: join sep (part' :: parts) at h
          rw [List.mem_append, List.mem_cons] at h
          rcases h with hpart | hsep | hrest
          · exact .inr ⟨part, List.mem_cons_self, hpart⟩
          · exact .inl hsep
          · rcases ih hrest with hsep | ⟨p, hp, hc⟩
            · exact .inl hsep
            · exact .inr ⟨p, List.mem_cons_of_mem _ hp, hc⟩

namespace Shape

/-! ### Texts and their fan-outs -/

/-- The text of a shape: numerals of positive words with an `x` between them. -/
structure Spelling where
  /-- The numerals. -/
  parts : List Digits
  /-- There is one. -/
  parts_ne_nil : parts ≠ []
  /-- No number is zero, and all are words. -/
  value_bounds : ∀ d ∈ parts, 1 ≤ d.value ∧ d.value ≤ 2 ^ (64 : Nat) - 1

namespace Spelling

/-- The text. -/
def chars (w : Spelling) : List Char := join 'x' (w.parts.map Digits.chars)

/-- The text without superfluous zeros. -/
def significant (w : Spelling) : List Char := join 'x' (w.parts.map Digits.significant)

/-- The numbers. -/
def fanouts (w : Spelling) : List Nat := w.parts.map Digits.value

theorem fields_chars (w : Spelling) : fields 'x' w.chars = w.parts.map Digits.chars := by
  refine fields_join (by simpa using w.parts_ne_nil) ?_
  intro part hpart hx
  obtain ⟨d, -, rfl⟩ := List.mem_map.1 hpart
  exact absurd (d.isDigit_of_mem 'x' hx) (by decide)

theorem isWritten_chars (w : Spelling) : isWritten (w.parts.map Digits.chars) := by
  refine List.all_eq_true.2 fun part hpart => ?_
  obtain ⟨d, -, rfl⟩ := List.mem_map.1 hpart
  rw [Bool.and_eq_true, List.all_eq_true]
  exact ⟨by simpa using d.chars_ne_nil,
    fun c hc => isDecimalDigit_of_isDigit (d.isDigit_of_mem c hc)⟩

theorem mapM_readFanout (w : Spelling) :
    (w.parts.map Digits.chars).mapM readFanout = .ok w.fanouts := by
  rw [mapM_eq_ok_iff, fanouts, List.forall₂_map_left_iff, List.forall₂_map_right_iff,
    List.forall₂_same]
  intro d hd
  rw [readFanout, mapError_eq_ok_iff, Digits.read_eq_ok_iff]
  have := w.value_bounds d hd
  exact ⟨rfl, by omega⟩

theorem exists_ofFanouts (w : Spelling) : ∃ s, ofFanouts w.fanouts = .ok s := by
  refine ⟨⟨w.fanouts, by simpa [fanouts] using w.parts_ne_nil, ?_⟩, ofFanouts_eq_ok_iff.2 rfl⟩
  intro f hf
  obtain ⟨d, hd, rfl⟩ := List.mem_map.1 hf
  exact (w.value_bounds d hd).1

theorem not_isBlank (w : Spelling) : ∀ c ∈ w.chars, isBlank c = false := by
  intro c hc
  rcases mem_join hc with rfl | ⟨part, hpart, hc⟩
  · decide
  · obtain ⟨d, -, rfl⟩ := List.mem_map.1 hpart
    exact d.not_isBlank c hc

end Spelling

/-- Parts that are read as numbers are numerals of words. -/
theorem exists_digits {parts : List (List Char)} {ns : List Nat} (hne : ∀ part ∈ parts, part ≠ [])
    (h : parts.mapM readFanout = .ok ns) :
    ∃ ds : List Digits, ds.map Digits.chars = parts ∧ ds.map Digits.value = ns ∧
      ∀ d ∈ ds, d.value < 2 ^ (64 : Nat) := by
  rw [mapM_eq_ok_iff] at h
  induction h with
  | nil => exact ⟨[], rfl, rfl, by simp⟩
  | cons hread _ ih =>
      obtain ⟨ds, hchars, hvalues, hlt⟩ :=
        ih fun part hpart => hne part (List.mem_cons_of_mem _ hpart)
      rw [readFanout, mapError_eq_ok_iff] at hread
      obtain ⟨d, rfl, rfl, hd⟩ := Digits.exists_of_read (hne _ List.mem_cons_self) hread
      refine ⟨d :: ds, by rw [List.map_cons, hchars], by rw [List.map_cons, hvalues], ?_⟩
      exact List.forall_mem_cons.2 ⟨hd, hlt⟩

/-- **What is read from the text of a shape**: its fan-outs. -/
theorem parse_of_spelling {text : String} {w : Spelling} (h : IsTrimOf w.chars text.toList) :
    parse text = ofFanouts w.fanouts := by
  unfold parse
  rw [isTrimOf_iff.1 h, w.fields_chars, if_pos w.isWritten_chars, w.mapM_readFanout]
  rfl

/-- **Every text that is read is the text of a shape.** -/
theorem exists_spelling {text : String} {s : Shape} (h : parse text = .ok s) :
    ∃ w : Spelling, IsTrimOf w.chars text.toList := by
  unfold parse at h
  dsimp only at h
  split at h
  · rename_i hwritten
    obtain ⟨ns, hns, hs⟩ := bind_eq_ok_iff.1 h
    have hne : ∀ part ∈ fields 'x' (trimChars text.toList), part ≠ [] := by
      intro part hpart hnil
      have hpart := List.all_eq_true.1 hwritten part hpart
      simp [hnil] at hpart
    obtain ⟨ds, hchars, rfl, hlt⟩ := exists_digits hne hns
    rw [ofFanouts_eq_ok_iff] at hs
    refine ⟨⟨ds, ?_, fun d hd => ⟨?_, ?_⟩⟩, isTrimOf_iff.2 ?_⟩
    · rintro rfl
      exact fields_ne_nil 'x' _ hchars.symm
    · exact s.fanout_pos _ (hs ▸ List.mem_map_of_mem hd)
    · have := hlt d hd
      omega
    · rw [Spelling.chars, hchars, join_fields]
  · cases h

/-- **Reading accepts the texts of shapes and gives their fan-outs.** -/
theorem parse_eq_ok_iff {text : String} {s : Shape} :
    parse text = .ok s ↔ ∃ w : Spelling, IsTrimOf w.chars text.toList ∧ s.fanouts = w.fanouts := by
  constructor
  · intro h
    obtain ⟨w, hw⟩ := exists_spelling h
    rw [parse_of_spelling hw, ofFanouts_eq_ok_iff] at h
    exact ⟨w, hw, h⟩
  · rintro ⟨w, hw, hs⟩
    rw [parse_of_spelling hw, ofFanouts_eq_ok_iff]
    exact hs

/-! ### Writing -/

theorem toList_toString (s : Shape) :
    (toString s).toList = join 'x' (s.fanouts.map fun f => (toString f).toList) :=
  String.toList_ofList

/-- A shape is written as it was, without the superfluous zeros. -/
theorem toList_toString_of_spelling {s : Shape} {w : Spelling} (h : s.fanouts = w.fanouts) :
    (toString s).toList = w.significant := by
  rw [toList_toString, h, Spelling.fanouts, List.map_map, Spelling.significant]
  refine congrArg _ (List.map_congr_left fun d hd => ?_)
  exact Digits.toList_toString_value (w.value_bounds d hd).1

/-- The text of a shape whose fan-outs are words. -/
def spelling (s : Shape) (h : ∀ f ∈ s.fanouts, f < 2 ^ (64 : Nat)) : Spelling where
  parts := s.fanouts.map Digits.ofNat
  parts_ne_nil := by simpa using s.fanouts_ne_nil
  value_bounds d hd := by
    obtain ⟨f, hf, rfl⟩ := List.mem_map.1 hd
    have hpos := s.fanout_pos f hf
    have hlt := h f hf
    rw [Digits.value_ofNat]
    omega

variable {s : Shape} (h : ∀ f ∈ s.fanouts, f < 2 ^ (64 : Nat))

theorem chars_spelling : (s.spelling h).chars = (toString s).toList := by
  rw [toList_toString, Spelling.chars, spelling, List.map_map]
  rfl

theorem fanouts_spelling : (s.spelling h).fanouts = s.fanouts := by
  rw [Spelling.fanouts, spelling, List.map_map]
  simp [Function.comp_def]

include h in
/-- **What is written reads back.** -/
theorem parse_toString : parse (toString s) = .ok s := by
  refine parse_eq_ok_iff.2 ⟨s.spelling h, ?_, (fanouts_spelling h).symm⟩
  rw [← chars_spelling h]
  exact isTrimOf_self (s.spelling h).not_isBlank

/-- **Reading accepts exactly the texts of shapes and inverts writing.** -/
theorem parse_grammar :
    (∀ text, (∃ s, parse text = .ok s) ↔ ∃ w : Spelling, IsTrimOf w.chars text.toList) ∧
    (∀ text s (w : Spelling), parse text = .ok s → IsTrimOf w.chars text.toList →
      s.fanouts = w.fanouts ∧ (toString s).toList = w.significant) ∧
    (∀ text, (∀ w : Spelling, ¬ IsTrimOf w.chars text.toList) →
      ∃ cause, (parse text).mapError (fun e => TreeError.configuration (.shape e)) =
        .error (.configuration (.shape cause))) ∧
    ∀ fanouts : List Nat, fanouts ≠ [] → (∀ f ∈ fanouts, 0 < f ∧ f < 2 ^ (64 : Nat)) →
      ∃ s, ofFanouts fanouts = .ok s ∧ s.fanouts = fanouts ∧ parse (toString s) = .ok s := by
  refine ⟨fun text => ⟨?_, ?_⟩, fun text s w hs hw => ?_, fun text hnone => ?_,
    fun fanouts hne hbounds => ?_⟩
  · rintro ⟨s, hs⟩
    exact exists_spelling hs
  · rintro ⟨w, hw⟩
    rw [parse_of_spelling hw]
    exact w.exists_ofFanouts
  · rw [parse_of_spelling hw, ofFanouts_eq_ok_iff] at hs
    exact ⟨hs, toList_toString_of_spelling hs⟩
  · cases hparse : parse text with
    | ok s =>
        obtain ⟨w, hw⟩ := exists_spelling hparse
        exact absurd hw (hnone w)
    | error cause => exact ⟨cause, rfl⟩
  · let s : Shape := ⟨fanouts, hne, fun f hf => (hbounds f hf).1⟩
    exact ⟨s, ofFanouts_eq_ok_iff.2 rfl, rfl, parse_toString fun f hf => (hbounds f hf).2⟩

/-- A text with superfluous zeros, one with a number that is not a word, and the largest fan-out. -/
theorem parse_grammar_at_limit :
    (∃ s : Shape, parse " 02x0010\n" = .ok s ∧ s.fanouts = [2, 10] ∧ toString s = "2x10") ∧
    (∃ cause, (parse "2x18446744073709551616").mapError
      (fun e => TreeError.configuration (.shape e)) = .error (.configuration (.shape cause))) ∧
    ∃ s, ofFanouts [1, 2 ^ (64 : Nat) - 1] = .ok s ∧ s.fanouts = [1, 2 ^ (64 : Nat) - 1] ∧
      parse (toString s) = .ok s := by
  refine ⟨?_, ?_, ?_⟩
  · let w : Spelling :=
      ⟨[⟨"02".toList, by decide, by decide⟩, ⟨"0010".toList, by decide, by decide⟩],
        by simp, by decide⟩
    have hw : IsTrimOf w.chars " 02x0010\n".toList := isTrimOf_iff.2 (by decide +kernel)
    obtain ⟨s, hs⟩ := (parse_grammar.1 _).2 ⟨w, hw⟩
    obtain ⟨hfanouts, htext⟩ := parse_grammar.2.1 _ s w hs hw
    refine ⟨s, hs, hfanouts, String.toList_inj.1 (htext.trans ?_)⟩
    decide
  · refine parse_grammar.2.2.1 _ fun w hw => ?_
    have hparts : w.parts.map Digits.chars = ["2".toList, "18446744073709551616".toList] := by
      rw [← w.fields_chars, ← isTrimOf_iff.1 hw]
      decide +kernel
    obtain ⟨d, hd, hchars⟩ : ∃ d ∈ w.parts, d.chars = "18446744073709551616".toList := by
      rw [← List.mem_map, hparts]
      simp
    have hvalue : d.value = 2 ^ (64 : Nat) := by
      rw [Digits.value, hchars]
      decide +kernel
    have := (w.value_bounds d hd).2
    omega
  · exact parse_grammar.2.2.2 _ (by simp) (by decide)

end Shape

end Interconnect
