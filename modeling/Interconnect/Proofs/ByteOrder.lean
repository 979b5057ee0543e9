/-
**The order of bytes.**

Names are compared by their code points.  UTF-8 was made so that nothing changes if the bytes are
compared instead: a code point with a longer code has a larger first byte, and the bytes of two
codes of one length are the digits of the code points to the base 64.  The order in which a link
names its endpoints is therefore also the order of the bytes of the names.

Main definitions:

* `Text.utf8Bytes` — the bytes of a text.

Main results:

* `Text.encode_append_lt` — a smaller code point has a smaller code, whatever follows;
* `Text.lt_iff_utf8Bytes_lt` — the two orders are the same;
* `EndpointPair.utf8Bytes_first_lt_second` — the ends of a pair are in the order of their bytes.
-/

import Interconnect.Name
import Mathlib.Tactic.ByContra
import Mathlib.Tactic.SplitIfs

set_option autoImplicit false

namespace Interconnect

namespace Text

/-- The bytes of a text in UTF-8. -/
def utf8Bytes (s : String) : List UInt8 := s.toUTF8.data.toList

theorem utf8Bytes_eq_flatMap (s : String) :
    utf8Bytes s = s.toList.flatMap String.utf8EncodeChar := by
  rw [utf8Bytes, String.toUTF8_eq_toByteArray, ← String.utf8Encode_toList, List.utf8Encode,
    List.toList_data_toByteArray]

/-! ### One code point -/

theorem cons_ofNat_lt_cons_iff {m n : Nat} (hm : m < 256) (hn : n < 256) {bs bs' : List UInt8} :
    UInt8.ofNat m :: bs < UInt8.ofNat n :: bs' ↔ m < n ∨ m = n ∧ bs < bs' := by
  rw [List.cons_lt_cons_iff, UInt8.lt_iff_toNat_lt, ← UInt8.toNat_inj,
    UInt8.toNat_ofNat_of_lt' hm, UInt8.toNat_ofNat_of_lt' hn]

/-- **A smaller code point has a smaller code**, whatever follows. -/
theorem encode_append_lt {c d : Char} (h : c < d) (bs bs' : List UInt8) :
    String.utf8EncodeChar c ++ bs < String.utf8EncodeChar d ++ bs' := by
  have hlt : c.val.toNat < d.val.toNat := h
  have hd : d.val.toNat < 0x110000 := by
    rcases d.valid with hlow | ⟨-, hhigh⟩
    · exact Nat.lt_trans hlow (by decide)
    · exact hhigh
  have hdigits : ∀ v, v / 4096 = v / 64 / 64 ∧ v / 262144 = v / 64 / 64 / 64 := by
    intro v
    simp only [Nat.div_div_eq_div_mul, and_self]
  simp only [String.utf8EncodeChar, hdigits]
  -- one case for each pair of lengths; the first byte tells the length
  split_ifs <;> simp (disch := omega) only [List.cons_append, cons_ofNat_lt_cons_iff] <;> omega

/-! ### Texts -/

theorem flatMap_encode_lt {cs ds : List Char} (h : cs < ds) :
    cs.flatMap String.utf8EncodeChar < ds.flatMap String.utf8EncodeChar := by
  induction h with
  | @nil d ds =>
      rw [List.flatMap_nil, List.flatMap_cons]
      cases hcode : String.utf8EncodeChar d with
      | nil => exact absurd hcode String.utf8EncodeChar_ne_nil
      | cons b bs => exact List.nil_lt_cons _ _
  | cons _ ih =>
      rw [List.flatMap_cons, List.flatMap_cons]
      exact List.append_left_lt ih
  | rel hcd =>
      rw [List.flatMap_cons, List.flatMap_cons]
      exact encode_append_lt hcd _ _

theorem utf8Bytes_lt {s t : String} (h : s < t) : utf8Bytes s < utf8Bytes t := by
  rw [utf8Bytes_eq_flatMap, utf8Bytes_eq_flatMap]
  exact flatMap_encode_lt (String.lt_iff.1 h)

/-- **The order of code points is the order of bytes.** -/
theorem lt_iff_utf8Bytes_lt {s t : String} : s < t ↔ utf8Bytes s < utf8Bytes t := by
  constructor
  · exact utf8Bytes_lt
  · intro h
    by_contra hnot
    -- otherwise the texts are the same or the other way round, and so are their bytes
    by_cases hlt : t < s
    · exact List.lt_asymm h (utf8Bytes_lt hlt)
    · rw [String.le_antisymm hnot hlt] at h
      exact List.lt_irrefl _ h

end Text

/-- **The ends of a pair are in the order of their bytes.** -/
theorem EndpointPair.utf8Bytes_first_lt_second {a b : String} (h : a ≠ b) :
    Text.utf8Bytes (EndpointPair.of a b).first < Text.utf8Bytes (EndpointPair.of a b).second := by
  rw [← Text.lt_iff_utf8Bytes_lt]
  unfold EndpointPair.of
  split
  · rename_i hle
    by_contra hlt
    exact h (String.le_antisymm hle hlt)
  · rename_i hle
    exact String.not_le.1 hle

end Interconnect
