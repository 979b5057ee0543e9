/-
**Texts made of fields.**

A shape is a list of numbers with an `x` between them, and a path is a list of names with a `/`
between them.  This module splits such a text and puts it together again.

Main definitions:

* `Text.fields` — the parts between the occurrences of a separator;
* `Text.join` — the parts with the separator between them.

Main results:

* `Text.join_fields` — nothing is lost by splitting;
* `Text.fields_join` — parts without the separator in them come back.
-/

set_option autoImplicit false

namespace Interconnect.Text

/-- The parts of a text between the occurrences of a separator, one more than there are
separators. -/
def fields (sep : Char) : List Char → List (List Char)
  | [] => [[]]
  | c :: cs =>
      if c = sep then [] :: fields sep cs
      else (c :: (fields sep cs).headD []) :: (fields sep cs).tail

/-- The parts with the separator between them. -/
def join (sep : Char) : List (List Char) → List Char
  | [] => []
  | [part] => part
  | part :: parts => part ++ sep :: join sep parts

theorem fields_ne_nil (sep : Char) (cs : List Char) : fields sep cs ≠ [] := by
  cases cs with
  | nil => simp [fields]
  | cons c cs =>
      rw [fields]
      split <;> simp

/-- The separator at a place in a text splits its fields there. -/
theorem fields_append_cons {sep : Char} {part rest : List Char} (h : sep ∉ part) :
    fields sep (part ++ sep :: rest) = part :: fields sep rest := by
  induction part with
  | nil => simp [fields]
  | cons c cs ih =>
      rw [List.mem_cons, not_or] at h
      rw [List.cons_append, fields, if_neg (Ne.symm h.1), ih h.2]
      rfl

theorem fields_of_not_mem {sep : Char} {part : List Char} (h : sep ∉ part) :
    fields sep part = [part] := by
  induction part with
  | nil => rfl
  | cons c cs ih =>
      rw [List.mem_cons, not_or] at h
      rw [fields, if_neg (Ne.symm h.1), ih h.2]
      rfl

theorem join_fields (sep : Char) (cs : List Char) : join sep (fields sep cs) = cs := by
  induction cs with
  | nil => rfl
  | cons c cs ih =>
      rw [fields]
      obtain ⟨f, fs, hf⟩ := List.exists_cons_of_ne_nil (fields_ne_nil sep cs)
      rw [hf] at ih ⊢
      split
      · rename_i hc
        simp [join, ih, hc]
      · cases fs <;> simp_all [join]

theorem fields_join {sep : Char} {parts : List (List Char)} (hne : parts ≠ [])
    (h : ∀ part ∈ parts, sep ∉ part) : fields sep (join sep parts) = parts := by
  induction parts with
  | nil => exact absurd rfl hne
  | cons part parts ih =>
      cases parts with
      | nil => exact fields_of_not_mem (h part (by simp))
      | cons part' parts =>
          rw [join, fields_append_cons (h part (by simp)),
            ih (by simp) fun p hp => h p (List.mem_cons_of_mem _ hp)]
          simp

end Interconnect.Text
