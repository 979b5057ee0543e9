/-
**Router names and numbers.**

The name of a router is `rtr_` with the number of the router behind it, written in decimal.  Hosts
and the memory may have any other name, so reading a name back has to be exact: what only looks like
the name of a router must not be taken for one.  A text is a router name if what is behind `rtr_` is
a word of ASCII digits without a superfluous zero, and its number is a 64-bit word.  That fails in
five ways, and each of them is fatal.

Main definitions:

* `IsRouterSpelling` — a text is `rtr_` and the canonical numeral of a 64-bit word;
* `NotRouterName` — the ways in which a text is not the name of a router.

Main results:

* `isRouterSpelling_routerName` — naming produces these texts;
* `routerId?_eq_some_iff_exists` — reading accepts these texts and gives the number behind `rtr_`;
* `routerId?_eq_none_iff` — a text is refused exactly in one of the five ways;
* `routerNames_correspond` — names and numbers correspond one to one.
-/

import Interconnect.Name
import Interconnect.Proofs.Digits

set_option autoImplicit false

namespace Interconnect

-- powers and bounded quantifiers are those of the core library, whatever else is imported
attribute [local instance (high)] instPowNat List.decidableBAll

open Text

/-! ### The spelling of a router name -/

/-- A text is the name of a router as it is spelled: `rtr_` and a word of ASCII digits, which has no
superfluous zero and whose number is a 64-bit word. -/
structure IsRouterSpelling (name : String) (d : Digits) : Prop where
  toList_eq : name.toList = "rtr_".toList ++ d.chars
  no_leading_zero : d.chars.head? = some '0' → d.chars = ['0']
  value_lt : d.value < 2 ^ (64 : Nat)

theorem isRouterSpelling_routerName {id : Nat} (h : id < 2 ^ (64 : Nat)) :
    IsRouterSpelling (routerName id) (Digits.ofNat id) where
  toList_eq := toList_routerName id
  no_leading_zero := Digits.chars_ofNat_eq_zero
  value_lt := by rwa [Digits.value_ofNat]

namespace IsRouterSpelling

variable {name : String} {d : Digits}

/-- A text that is spelled so is the name of the router with that number. -/
theorem eq_routerName (h : IsRouterSpelling name d) : name = routerName d.value := by
  refine String.toList_inj.1 ?_
  rw [h.toList_eq, toList_routerName, Digits.toList_toString_value_of_canonical h.no_leading_zero]
  rfl

/-- What is behind `rtr_` is the word. -/
theorem chars_eq (h : IsRouterSpelling name d) {cs : List Char}
    (hname : name.toList = "rtr_".toList ++ cs) : d.chars = cs :=
  List.append_cancel_left (h.toList_eq.symm.trans hname)

end IsRouterSpelling

/-- **What is read, and from which texts**: the number behind `rtr_`. -/
theorem routerId?_eq_some_iff_exists {name : String} {id : Nat} :
    routerId? name = some id ↔ ∃ d, IsRouterSpelling name d ∧ d.value = id := by
  rw [routerId?_eq_some_iff]
  constructor
  · rintro ⟨rfl, hlt⟩
    exact ⟨_, isRouterSpelling_routerName hlt, Digits.value_ofNat id⟩
  · rintro ⟨d, hd, rfl⟩
    exact ⟨hd.eq_routerName, hd.value_lt⟩

/-! ### What is no router name -/

/-- The ways in which a text is not the name of a router.  A sign in front of the number, a digit of
another script and whatever else trails or interrupts the digits are characters that are no ASCII
digit. -/
inductive NotRouterName (name : String) : Prop
  /-- The text does not start with `rtr_`. -/
  | unmarked (h : ¬ "rtr_".toList <+: name.toList)
  /-- Nothing is behind `rtr_`. -/
  | unnumbered (h : name = "rtr_")
  /-- A character behind `rtr_` is no ASCII digit. -/
  | notDigit (cs : List Char) (h : name.toList = "rtr_".toList ++ cs) (c : Char) (hmem : c ∈ cs)
      (hc : c.isDigit = false)
  /-- The first digit is a zero, and it is not the only character. -/
  | leadingZero (c : Char) (cs : List Char) (h : name.toList = "rtr_0".toList ++ c :: cs)
  /-- The number needs more than 64 bits. -/
  | tooLarge (d : Digits) (h : name.toList = "rtr_".toList ++ d.chars)
      (hvalue : 2 ^ (64 : Nat) ≤ d.value)

/-- What is not a router name is not read as one. -/
theorem NotRouterName.not_spelling {name : String} (hn : NotRouterName name) (d : Digits) :
    ¬ IsRouterSpelling name d := by
  intro hd
  cases hn with
  | unmarked h => exact h ⟨d.chars, hd.toList_eq.symm⟩
  | unnumbered h =>
      have hnil : d.chars = [] := hd.chars_eq (by rw [h]; rfl)
      exact d.chars_ne_nil hnil
  | notDigit cs h c hmem hc =>
      have hdigit := d.isDigit_of_mem c (by rwa [hd.chars_eq h])
      rw [hc] at hdigit
      cases hdigit
  | leadingZero c cs h =>
      have hchars : d.chars = '0' :: c :: cs := hd.chars_eq h
      have hzero := hd.no_leading_zero (by rw [hchars]; rfl)
      rw [hchars] at hzero
      cases hzero
  | tooLarge d' h hvalue =>
      have hsame : d.value = d'.value := by rw [Digits.value, hd.chars_eq h, Digits.value]
      have hlt := hd.value_lt
      omega

/-- A text in which none of this is wrong is spelled like a router name. -/
theorem exists_routerSpelling {name : String} (h : ¬ NotRouterName name) :
    ∃ d, IsRouterSpelling name d := by
  obtain ⟨cs, hname⟩ : "rtr_".toList <+: name.toList := by
    by_contra hmark
    exact h (.unmarked hmark)
  have hdigits : ∀ c ∈ cs, c.isDigit := by
    intro c hmem
    by_contra hc
    exact h (.notDigit cs hname.symm c hmem (eq_false_of_ne_true hc))
  have hne : cs ≠ [] := by
    rintro rfl
    exact h (.unnumbered (String.toList_inj.1 hname.symm))
  let d : Digits := ⟨cs, hne, hdigits⟩
  refine ⟨d, hname.symm, fun hzero => ?_, ?_⟩
  · by_contra hmore
    obtain ⟨rest, hrest⟩ := List.head?_eq_some_iff.1 hzero
    cases rest with
    | nil => exact hmore hrest
    | cons c rest =>
        have hcs : cs = '0' :: c :: rest := hrest
        exact h (.leadingZero c rest (by rw [← hname, hcs]; rfl))
  · by_contra hlarge
    exact h (.tooLarge d hname.symm (Nat.le_of_not_lt hlarge))

/-- **A text is refused exactly if something is wrong with it.** -/
theorem routerId?_eq_none_iff {name : String} : routerId? name = none ↔ NotRouterName name := by
  constructor
  · intro hnone
    by_contra h
    obtain ⟨d, hd⟩ := exists_routerSpelling h
    have hsome := routerId?_eq_some_iff_exists.2 ⟨d, hd, rfl⟩
    rw [hnone] at hsome
    cases hsome
  · intro hn
    cases hid : routerId? name with
    | none => rfl
    | some id =>
        obtain ⟨d, hd, -⟩ := routerId?_eq_some_iff_exists.1 hid
        exact absurd hd (hn.not_spelling d)

/-! ### The correspondence -/

/-- **Router names and numbers correspond one to one.**  A text is read as a number exactly if it is
the name of the router with that number and the number is a 64-bit word, which is then the number
that stands behind `rtr_` in decimal.  So reading undoes naming, different routers have different
names, and the texts that are refused are those that name no router, which are those with a fault in
their spelling. -/
theorem routerNames_correspond :
    (∀ name id, routerId? name = some id ↔ name = routerName id ∧ id < 2 ^ (64 : Nat)) ∧
    (∀ name id, routerId? name = some id ↔ ∃ d, IsRouterSpelling name d ∧ d.value = id) ∧
    (∀ id, routerId? (routerName id) = some id ↔ id < 2 ^ (64 : Nat)) ∧
    Function.Injective routerName ∧
    ∀ name, (NotRouterName name ↔ routerId? name = none) ∧
      (NotRouterName name ↔ ∀ id < 2 ^ (64 : Nat), name ≠ routerName id) := by
  refine ⟨fun _ _ => routerId?_eq_some_iff, fun _ _ => routerId?_eq_some_iff_exists, fun id => ?_,
    fun _ _ => routerName_injective, fun name => ⟨routerId?_eq_none_iff.symm, ?_⟩⟩
  · rw [routerId?_eq_some_iff]
    exact and_iff_right rfl
  · rw [← routerId?_eq_none_iff, Option.eq_none_iff_forall_ne_some]
    refine forall_congr' fun id => ?_
    rw [ne_eq, routerId?_eq_some_iff, and_comm, not_and]

/-- The last router, and texts that only look like the name of a router: with a superfluous zero,
a sign, an Arabic digit, a trailing letter, and the first number that is not a word. -/
theorem routerNames_correspond_last :
    routerId? "rtr_18446744073709551615" = some (2 ^ (64 : Nat) - 1) ∧
    (∀ name ∈ ["rtr_01", "rtr_+1", "rtr_\u0661", "rtr_1a", "rtr_18446744073709551616"],
      routerId? name = none ∧ ∀ id < 2 ^ (64 : Nat), name ≠ routerName id) := by
  obtain ⟨hname, -, -, -, hfault⟩ := routerNames_correspond
  refine ⟨(hname _ _).2 ⟨by decide +kernel, by decide⟩, fun name hmem => ?_⟩
  suffices h : NotRouterName name from ⟨(hfault name).1.1 h, (hfault name).2.1 h⟩
  simp only [List.mem_cons, List.not_mem_nil, or_false] at hmem
  rcases hmem with rfl | rfl | rfl | rfl | rfl
  · exact .leadingZero '1' [] rfl
  · exact .notDigit ['+', '1'] rfl '+' (by decide) (by decide)
  · exact .notDigit ['\u0661'] rfl '\u0661' (by decide) (by decide)
  · exact .notDigit ['1', 'a'] rfl 'a' (by decide) (by decide)
  · exact .tooLarge ⟨"18446744073709551616".toList, by decide, by decide⟩ rfl (by decide +kernel)

end Interconnect
