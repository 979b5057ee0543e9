/-
**Values as nodes.**

A value and a node of a document are the same tree but for the way in which scalars are written.
Numbers are written without quotes, and a text may be written in any style in which it stays the
text that it is: without quotes, `null` would be no text and `007` a number for other readers.  Data
that are asked for are then what the value was made from, wherever in a document it stands.

Main definitions:

* `Value.toNode` — a value as a node, its texts in given styles;
* `KeepsTexts` — a choice of styles in which every text stays a text;
* `Value.scalarStyle` — the style in which a text is written;
* `Yaml.Spot.Reads` — what asking for data gives at every place with a value;
* `Yaml.Spot.Takes` — what is known of a record before and behind some of its entries.

Main results:

* `keepsTexts_scalarStyle` — texts are written in styles in which they stay texts;
* `Yaml.unsigned?_toString` — the decimal form of a number is read as that number;
* `Yaml.Spot.isUnset_toNode` — nothing that is written is taken for an unset value;
* `Yaml.Spot.Takes.reads_fields` — the fields of a record, from what its entries give.
-/

import Interconnect.Proofs.Digits
import Interconnect.Proofs.Outcomes
import Interconnect.Value.Yaml
import Interconnect.Yaml.Decode

set_option autoImplicit false

namespace Interconnect

-- powers are those of the core library, whatever else is imported
attribute [local instance (high)] instPowNat

open Text Yaml

/-! ### Styles of texts -/

/-- Every text stays a text: it is unquoted only if it means nothing else. -/
def KeepsTexts (style : String → ScalarStyle) : Prop := ∀ s, style s = .plain → resolve s = .text

/-- The style in which a text is written. -/
def Value.scalarStyle (s : String) : ScalarStyle :=
  match textStyle s with
  | .plain => .plain
  | .single => .singleQuoted
  | .double => .doubleQuoted
  | .literal => .literal

/-- A text that would be taken for something else is quoted. -/
theorem Value.textStyle_ne_plain {s : String} (h : isAmbiguous s = true) :
    textStyle s ≠ .plain := by
  unfold textStyle
  simp only [h, Bool.true_or, if_true]
  split <;> split <;> exact nofun

/-- **Texts are written so that they stay texts.** -/
theorem keepsTexts_scalarStyle : KeepsTexts Value.scalarStyle := by
  intro s h
  have hplain : Value.textStyle s = .plain := by
    cases hs : Value.textStyle s with
    | plain => rfl
    | _ => simp [Value.scalarStyle, hs] at h
  have hclear : isAmbiguous s = false := by
    by_contra hambiguous
    exact Value.textStyle_ne_plain (eq_true_of_ne_false hambiguous) hplain
  rw [isAmbiguous, Bool.or_eq_false_iff, bne_eq_false_iff_eq] at hclear
  exact hclear.1

/-- What means a text is not empty, and no word for null. -/
theorem not_null_of_resolve {s : String} (h : resolve s = .text) :
    (s.isEmpty || isNullWord s) = false := by
  unfold resolve at h
  split at h
  · cases h
  · simp_all

/-! ### Nodes of values -/

namespace Value

mutual

/-- A value as a node, with its texts in the styles that are given. -/
def toNode (style : String → ScalarStyle) : Value → Node
  | text s => .scalar {} (style s) s
  | number n => .scalar {} .plain (toString n)
  | list vs => .sequence {} (toNodes style vs)
  | mapping es => .mapping {} (toEntries style es)

/-- The items of a list as nodes. -/
def toNodes (style : String → ScalarStyle) : List Value → List Node
  | [] => []
  | v :: vs => v.toNode style :: toNodes style vs

/-- The entries of a mapping as nodes. -/
def toEntries (style : String → ScalarStyle) : List (String × Value) → List (Node × Node)
  | [] => []
  | (key, v) :: es => (.scalar {} (style key) key, v.toNode style) :: toEntries style es

end

end Value

namespace Yaml

/-! ### Decimal forms -/

theorem digitValue_of_isDigit {c : Char} (h : c.isDigit) :
    digitValue c = c.toNat - '0'.toNat ∧ digitValue c < 10 := by
  obtain ⟨k, hk, rfl⟩ := exists_digitChar h
  rw [digitValue, if_pos h, Nat.toNat_digitChar_of_lt_ten hk]
  exact ⟨rfl, by simpa using hk⟩

theorem foldl_digitValue {cs : List Char} (h : ∀ c ∈ cs, c.isDigit) (n : Nat) :
    cs.foldl (fun n c => n * 10 + digitValue c) n = Nat.ofDigitChars 10 cs n := by
  induction cs generalizing n with
  | nil => rfl
  | cons c cs ih =>
      obtain ⟨hc, hcs⟩ := List.forall_mem_cons.1 h
      rw [List.foldl_cons, ih hcs, Nat.ofDigitChars_cons, (digitValue_of_isDigit hc).1,
        Nat.mul_comm]

/-- A word of digits is a number in base ten. -/
theorem inBase?_digits (d : Digits) : inBase? 10 d.chars = some d.value := by
  have hvalues : d.chars.all (fun c => digitValue c < 10) :=
    List.all_eq_true.2 fun c hc => decide_eq_true (digitValue_of_isDigit (d.isDigit_of_mem c hc)).2
  rw [inBase?, if_pos ⟨by simpa using d.chars_ne_nil, hvalues⟩, foldl_digitValue d.isDigit_of_mem]
  rfl

/-- What is in front of a word of digits is a digit, so neither a sign nor a letter. -/
theorem isDigit_head {d : Digits} {c : Char} {cs : List Char} (h : d.chars = c :: cs) :
    c.isDigit := by
  refine d.isDigit_of_mem c ?_
  rw [h]
  exact List.mem_cons_self

section

variable {d : Digits} (h : d.chars.head? = some '0' → d.chars = ['0'])

include h

/-- A word without a superfluous zero has nothing behind a zero in front. -/
theorem chars_ne_zero_cons (c : Char) (cs : List Char) : d.chars ≠ '0' :: c :: cs := by
  intro hcs
  have hchars := h (by rw [hcs]; rfl)
  rw [hcs] at hchars
  cases hchars

theorem hasLeadingZero_digits : hasLeadingZero d.chars = false := by
  unfold hasLeadingZero
  split
  next hcs => cases isDigit_head hcs
  next hcs => cases isDigit_head hcs
  next hcs => exact absurd hcs (chars_ne_zero_cons h _ _)
  next => rfl

/-- The base is ten, as there is no letter behind a zero. -/
theorem magnitude?_digits : magnitude? d.chars = some d.value := by
  unfold magnitude?
  split
  next hcs => exact absurd hcs (chars_ne_zero_cons h _ _)
  next hcs => exact absurd hcs (chars_ne_zero_cons h _ _)
  next hcs => exact absurd hcs (chars_ne_zero_cons h _ _)
  next =>
    rw [hasLeadingZero_digits h]
    exact inBase?_digits d

theorem unsigned?_digits : unsigned? d.chars = some d.value := by
  unfold unsigned?
  split
  next hcs => cases isDigit_head hcs
  next => exact magnitude?_digits h

end

/-- **The decimal form of a number is read as that number.** -/
theorem unsigned?_toString (n : Nat) : unsigned? (toString n).toList = some n := by
  have h := unsigned?_digits (d := Digits.ofNat n) Digits.chars_ofNat_eq_zero
  rwa [Digits.value_ofNat] at h

/-- It is not empty, and no word for null. -/
theorem not_null_toString (n : Nat) :
    ((toString n).isEmpty || isNullWord (toString n)) = false := by
  have hdigits : (toString n).toList.all Char.isDigit :=
    List.all_eq_true.2 (Digits.ofNat n).isDigit_of_mem
  have hne : toString n ≠ "" := fun h =>
    (Digits.ofNat n).chars_ne_nil (String.toList_eq_nil_iff.2 h)
  have hletters : ∀ word ∈ ["~", "null", "Null", "NULL"], word.toList.all Char.isDigit = false := by
    decide
  rw [Bool.or_eq_false_iff, isNullWord, List.contains_eq_mem, decide_eq_false_iff_not]
  refine ⟨?_, fun hmem => ?_⟩
  · rwa [← Bool.not_eq_true, String.isEmpty_iff]
  · rw [hletters _ hmem] at hdigits
    cases hdigits

namespace Spot

variable {style : String → ScalarStyle} {ε α σ : Type}

/-! ### What is read at the place of a value -/

/-- A way to ask for data. -/
abbrev Reader (ε α : Type) := Spot → Except (DataError ε) α

/-- Asking for data gives `a` at every place with the value `v`. -/
def Reads (style : String → ScalarStyle) (read : Reader ε α) (v : Value) (a : α) : Prop :=
  ∀ s : Spot, s.node = v.toNode style → read s = .ok a

/-- The node of a value is no alias. -/
theorem target_eq {s : Spot} {v : Value} (h : s.node = v.toNode style) :
    s.target = v.toNode style := by
  rw [target, h]
  cases v <;> rfl

theorem reads_text (t : String) : Reads style (text : Reader ε String) (.text t) t := by
  intro s hs
  rw [text, target_eq hs]
  rfl

theorem reads_word {n : Nat} (h : n < 2 ^ (64 : Nat)) :
    Reads style (word : Reader ε Nat) (.number n) n := by
  intro s hs
  rw [word, target_eq hs]
  simp only [Value.toNode, true_or, if_true, unsigned?_toString]
  rw [if_pos h]

/-- Every item of a list of texts is a text. -/
theorem forall₂_itemsFrom (s : Spot) (i : Nat) (ts : List String) :
    List.Forall₂ (fun (s : Spot) t => s.text = (.ok t : Except (DataError ε) String))
      (s.itemsFrom i (Value.toNodes style (ts.map .text))) ts := by
  induction ts generalizing i with
  | nil => exact .nil
  | cons t ts ih => exact .cons (reads_text t _ rfl) (ih (i + 1))

theorem reads_texts (ts : List String) :
    Reads style (texts : Reader ε (List String)) (.texts ts) ts := by
  intro s hs
  rw [texts, target_eq hs]
  exact mapM_eq_ok_iff.2 (forall₂_itemsFrom s 0 ts)

/-- **Nothing that is written is taken for an unset value.** -/
theorem isUnset_toNode (hstyle : KeepsTexts style) (v : Value) :
    Reads style (isUnset : Reader ε Bool) v false := by
  intro s hs
  rw [isUnset, target_eq hs]
  cases v with
  | text t =>
      rw [Value.toNode]
      cases ht : style t with
      | plain => exact congrArg _ (not_null_of_resolve (hstyle t ht))
      | _ => rfl
  | number n => exact congrArg _ (not_null_toString n)
  | list vs => rfl
  | mapping es => rfl

namespace Reads

variable {read : Reader ε α} {v : Value} {a : α}

/-- A value that may be unset, and is not. -/
theorem optional (h : Reads style read v a) (hstyle : KeepsTexts style) :
    Reads style (Spot.optional read) v (some a) := by
  intro s hs
  refine bind_eq_ok_iff.2 ⟨false, isUnset_toNode hstyle v s hs, ?_⟩
  exact bind_eq_ok_iff.2 ⟨a, h s hs, rfl⟩

/-- A text that means something. -/
theorem meaning {parse : String → Except ε α} {t : String} (h : parse t = .ok a) :
    Reads style (Spot.meaning parse) (.text t) a := by
  intro s hs
  refine bind_eq_ok_iff.2 ⟨t, reads_text t s hs, ?_⟩
  rw [h]
  rfl

/-- The name of a choice. -/
theorem choice {known : List (String × α)} {name : String}
    (h : (known.find? fun k => k.1 == name) = some (name, a)) :
    Reads style (Spot.choice known : Reader ε α) (.text name) a := by
  intro s hs
  rw [Spot.choice, target_eq hs]
  simp only [Value.toNode, Node.tag?, choiceTag?, Option.bind_none, h, Option.map_some]

/-- A field that has not been read before, in a step that reads it. -/
theorem field {field : String} {known : Option α → σ} (h : Reads style read v a) :
    Reads style (fun s => do return known (← s.once field none read)) v (known (some a)) := by
  intro s hs
  refine bind_eq_ok_iff.2 ⟨some a, ?_, rfl⟩
  exact map_eq_ok_iff.2 ⟨a, h s hs, rfl⟩

end Reads

/-! ### Going through the entries of a record -/

/-- Going through entries leads from what is known before them to what is known behind them, at
every place with a record that has these entries. -/
inductive Takes (style : String → ScalarStyle) (step : σ → String → Reader ε σ) :
    σ → List (String × Value) → σ → Prop
  | nil {known : σ} : Takes style step known [] known
  | cons {known known' known'' : σ} {key : String} {v : Value} {es : List (String × Value)}
      (hfirst : Reads style (step known key) v known')
      (hrest : Takes style step known' es known'') :
      Takes style step known ((key, v) :: es) known''

namespace Takes

variable {step : σ → String → Reader ε σ} {known known' known'' : σ}
  {es es' : List (String × Value)}

theorem append (h : Takes style step known es known') (h' : Takes style step known' es' known'') :
    Takes style step known (es ++ es') known'' := by
  induction h with
  | nil => exact h'
  | cons hfirst _ ih => exact .cons hfirst (ih h')

/-- The entry of a value that may be left out. -/
theorem optional {key : String} {write : α → Value} {a : Option α} (known : Option (Option α) → σ)
    (h : ∀ x, Reads style (step (known none) key) (write x) (known (some (some x)))) :
    Takes style step (known none) (Value.optional key write a) (known (a.map some)) := by
  cases a with
  | none => exact .nil
  | some x => exact .cons (h x) .nil

/-- Entries are gone through in their order. -/
theorem foldEntries_eq (h : Takes style step known es known') (s : Spot) :
    s.foldEntries step known (Value.toEntries style es) = .ok known' := by
  induction h with
  | nil => rfl
  | cons hfirst _ ih =>
      -- the name of a key is its text, in whatever style
      exact bind_eq_ok_iff.2 ⟨_, rfl, bind_eq_ok_iff.2 ⟨_, hfirst _ rfl, ih⟩⟩

/-- **The fields of a record** are what its entries give. -/
theorem reads_fields (h : Takes style step known es known') (name : String) :
    Reads style (fields · name step known) (.mapping es) known' := by
  intro s hs
  refine bind_eq_ok_iff.2 ⟨Value.toEntries style es, ?_, h.foldEntries_eq s⟩
  rw [entries, target_eq hs]
  rfl

end Takes

end Spot

end Yaml

end Interconnect
