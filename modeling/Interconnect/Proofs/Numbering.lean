/-
**When routers can be numbered.**

The routers of all levels are added up to number them.  A layout is numbered exactly: none of its
sums overflows, as there would be no layout otherwise, so they are the sums of unbounded numbers.
A shape that fits can do without a layout, though.  A level has no more routers than there are
hosts, but a level with fan-out one has as many as the level below it, so that all levels together
may have more routers than there are words.  With fan-outs of two and more, or with few levels for
the number of hosts, this does not happen.

Main definitions:

* `Layout.IsExact` — all that the numbering computes are unbounded sums.

Main results:

* `Layout.isExact` — every layout is numbered exactly;
* `Shape.sum_productsAbove_lt` — with fan-outs from two on there are fewer routers than hosts;
* `Shape.numbering_of_layout` — when layouts are numbered;
* `Shape.exists_layout_not_numbered` — shapes that fit and cannot be numbered.
-/

import Interconnect.Proofs.Balance

set_option autoImplicit false

namespace Interconnect

/-! ### Layouts -/

namespace Layout

/-- All that the numbering computes are unbounded sums, and none of them overflows: the number of
routers and the first number of every level are the sums, the level of a number can be looked for,
and the root has the last number and stands on the top level. -/
structure IsExact (l : Layout) : Prop where
  sum_lt : l.counts.sum < 2 ^ 64
  sum?_eq : Word.sum? 0 l.counts = some l.counts.sum
  findSum?_isSome : ∀ id, (Word.findSum? id 0 0 l.counts).isSome
  totalRouters_eq : l.totalRouters = l.counts.sum
  offsets_eq : l.offsets = (List.range l.numLevels).map fun level => (l.counts.take level).sum
  offset?_eq : ∀ level < l.numLevels, l.offset? level = some (l.counts.take level).sum
  rootId_eq : l.rootId + 1 = l.counts.sum
  levelOf?_rootId : l.levelOf? l.rootId = some (l.numLevels - 1)

theorem levelOf?_rootId (l : Layout) : l.levelOf? l.rootId = some (l.numLevels - 1) := by
  have htop : 0 < l.count (l.numLevels - 1) := by
    rw [l.count_top]
    exact Nat.one_pos
  -- the root is the only router of the top level
  have hid : l.rootId = l.idAt (l.numLevels - 1) 0 := l.rootId_eq_first
  rw [hid]
  exact levelOf?_idAt htop

/-- **Every layout is numbered exactly.** -/
theorem isExact (l : Layout) : l.IsExact where
  sum_lt := l.sum_lt
  sum?_eq := l.sum?_counts
  findSum?_isSome := by
    intro id
    rw [l.findSum?_counts, Option.isSome_some]
  totalRouters_eq := l.totalRouters_eq
  offsets_eq := l.offsets_eq_map
  offset?_eq := fun _ hlevel => offset?_eq hlevel
  rootId_eq := by rw [rootId_eq_first, first_top]
  levelOf?_rootId := l.levelOf?_rootId

end Layout

/-! ### Shapes -/

namespace Shape

/-- **With fan-outs from two on there are fewer routers than hosts.** -/
theorem sum_productsAbove_lt {fs : List Nat} (hf : ∀ f ∈ fs, 2 ≤ f) :
    (productsAbove fs).sum < fs.prod := by
  induction fs with
  | nil => exact Nat.one_pos
  | cons f fs ih =>
      obtain ⟨hf, hfs⟩ := List.forall_mem_cons.1 hf
      have hrest := ih hfs
      have htwice : 2 * fs.prod ≤ f * fs.prod := Nat.mul_le_mul_right _ hf
      rw [productsAbove, List.sum_cons, List.prod_cons]
      omega

/-- No level has more routers than there are hosts. -/
theorem sum_productsAbove_le {fs : List Nat} (hpos : ∀ f ∈ fs, 0 < f) :
    (productsAbove fs).sum ≤ fs.length * fs.prod := by
  induction fs with
  | nil => exact Nat.le_refl _
  | cons f fs ih =>
      obtain ⟨hf, hfs⟩ := List.forall_mem_cons.1 hpos
      have hprod : fs.prod ≤ f * fs.prod := Nat.le_mul_of_pos_left _ hf
      rw [productsAbove, List.sum_cons, List.prod_cons, List.length_cons]
      calc fs.prod + (productsAbove fs).sum
          ≤ fs.prod + fs.length * fs.prod := Nat.add_le_add_left (ih hfs) _
        _ = (fs.length + 1) * fs.prod := by rw [Nat.succ_mul, Nat.add_comm]
        _ ≤ (fs.length + 1) * (f * fs.prod) := Nat.mul_le_mul_left _ hprod

/-- **When layouts are numbered.**  A layout that is made is numbered exactly.  For a shape that
fits, counting the routers overflows if and only if there are more of them than words, so not with
fan-outs from two on, and not with few levels for the number of hosts. -/
theorem numbering_of_layout (s : Shape) (hosts : Nat) :
    (∀ l, s.layout hosts = .ok l → l.IsExact) ∧
    (hosts = s.fanouts.prod → (s.layout hosts = .error .overflow ↔ 2 ^ 64 ≤ s.counts.sum)) ∧
    (hosts < 2 ^ 64 → (∀ f ∈ s.fanouts, 2 ≤ f) → s.layout hosts ≠ .error .overflow) ∧
    (s.numLevels * hosts < 2 ^ 64 → s.layout hosts ≠ .error .overflow) := by
  refine ⟨fun l _ => l.isExact, fun hhosts => ?_, fun hword hf hover => ?_, fun hmul hover => ?_⟩
  · rw [layout_eq_overflow_iff]
    exact and_iff_right hhosts
  · obtain ⟨rfl, hsum⟩ := layout_eq_overflow_iff.1 hover
    have hlt : s.counts.sum < s.fanouts.prod := sum_productsAbove_lt hf
    omega
  · obtain ⟨rfl, hsum⟩ := layout_eq_overflow_iff.1 hover
    have hle : s.counts.sum ≤ s.numLevels * s.fanouts.prod := sum_productsAbove_le s.fanout_pos
    omega

/-- The largest binary tree, with `2 ^ 63 - 1` routers. -/
theorem numbering_of_layout_binary :
    ∃ (s : Shape) (l : Layout), s.fanouts = List.replicate 63 2 ∧ s.layout (2 ^ 63) = .ok l ∧
      l.counts.sum = 2 ^ 63 - 1 ∧ l.IsExact := by
  let s : Shape := ⟨List.replicate 63 2, by decide, by decide⟩
  have hsum : s.counts.sum = 2 ^ 63 - 1 := by decide +kernel
  obtain ⟨l, hl⟩ : ∃ l, s.layout (2 ^ 63) = .ok l :=
    exists_layout_iff.2 ⟨by decide +kernel, by rw [hsum]; decide⟩
  exact ⟨s, l, rfl, hl, (counts_eq_of_layout hl).2 ▸ hsum, (numbering_of_layout s _).1 l hl⟩

/-- **A shape that fits need not be numbered.**  On two levels with fan-out one, every host has a
router of its own.  In the first tree the number of the root would be `2 ^ 64`; in the second one
all routers would have words for numbers, but not their sum. -/
theorem exists_layout_not_numbered :
    (∃ s : Shape, s.fanouts = [1, 1, 2 ^ 63] ∧ s.fanouts.prod = 2 ^ 63 ∧
      s.counts.sum = 2 ^ 64 + 1 ∧ Word.sumsBefore? 0 s.counts = none ∧
      s.layout (2 ^ 63) = .error .overflow) ∧
    ∃ s : Shape, s.fanouts = 1 :: (List.replicate 63 2 ++ [1]) ∧ s.fanouts.prod = 2 ^ 63 ∧
      s.counts.sum = 2 ^ 64 ∧ Word.sumsBefore? 0 s.counts = none ∧
      s.layout (2 ^ 63) = .error .overflow := by
  constructor
  · let s : Shape := ⟨[1, 1, 2 ^ 63], by decide, by decide⟩
    exact ⟨s, rfl, by decide, by decide, by decide, by decide⟩
  · let s : Shape := ⟨1 :: (List.replicate 63 2 ++ [1]), by decide, by decide⟩
    exact ⟨s, rfl, by decide +kernel, by decide +kernel, by decide +kernel, by decide +kernel⟩

end Shape

end Interconnect
