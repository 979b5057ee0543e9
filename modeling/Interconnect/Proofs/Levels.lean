/-
**The levels of a balanced tree.**

A layout that was made for a shape and a number of hosts is described here without division: on
every level the number of routers times the number of hosts below each of them is the number of all
hosts.  Everything about parents, children and blocks of hosts follows from these equations, and
from the one router that every layout has on its top level.

Routers are numbered level by level, so a router is given by its level and its index on the level.
The sums that the numbering takes do not overflow, as there is a layout only if the number of
routers is a word, and numbers and pairs of a level and an index correspond one to one.

Main definitions:

* `Shape.arity`, `Shape.capacity` — the fan-out of a level, and the number of hosts below a router;
* `Layout.count`, `Layout.first`, `Layout.idAt` — the routers of a level, the routers below a level,
  and the number of the router at an index of a level;
* `Layout.Balanced` — a layout that belongs to a shape and a number of hosts.

Main results:

* `Shape.layout_eq_ok_iff`, `Shape.balanced_of_layout` — layouts are made by grouping, and balanced;
* `Layout.Balanced.count_eq` — the routers of a level are the children of the next level;
* `Layout.exists_idAt`, `Layout.idAt_inj` — numbers and positions correspond one to one;
* `Layout.levelOf?_idAt`, `Layout.offset?_eq`, `Layout.Balanced.rootId_eq` — the numbering that is
  computed is this one.
-/

import Interconnect.Layout
import Interconnect.Proofs.Outcomes
import Mathlib.Algebra.BigOperators.Group.List.Basic
import Mathlib.Data.List.GetD
import Mathlib.Tactic.Ring

set_option autoImplicit false

namespace Interconnect

/-! ### Fan-outs and capacities -/

namespace Shape

/-- The fan-out of a level, one above the root. -/
def arity (s : Shape) (level : Nat) : Nat := s.fanouts.getD level 1

/-- The number of hosts below each thing at a height: a host has height zero, and a router stands
one higher than its level. -/
def capacity (s : Shape) (height : Nat) : Nat := (s.fanouts.take height).prod

theorem fanout?_eq {s : Shape} {level : Nat} (h : level < s.numLevels) :
    s.fanout? level = some (s.arity level) := by
  unfold fanout? arity
  rw [List.getD_eq_getElem _ _ h, List.getElem?_eq_getElem h]

theorem numLevels_pos (s : Shape) : 0 < s.numLevels :=
  List.length_pos_of_ne_nil s.fanouts_ne_nil

theorem arity_pos (s : Shape) (level : Nat) : 0 < s.arity level := by
  unfold arity
  rcases Nat.lt_or_ge level s.fanouts.length with h | h
  · rw [List.getD_eq_getElem _ _ h]
    exact s.fanout_pos _ (List.getElem_mem h)
  · rw [List.getD_eq_default _ _ h]
    exact Nat.one_pos

theorem hostsPerLeaf_eq (s : Shape) : s.hostsPerLeaf = s.arity 0 := by
  unfold hostsPerLeaf arity
  rw [List.head_eq_getElem]
  exact (List.getD_eq_getElem _ _ s.numLevels_pos).symm

@[simp] theorem capacity_zero (s : Shape) : s.capacity 0 = 1 := by simp [capacity]

theorem capacity_succ (s : Shape) (height : Nat) :
    s.capacity (height + 1) = s.capacity height * s.arity height := by
  unfold capacity arity
  rcases Nat.lt_or_ge height s.fanouts.length with h | h
  · rw [List.take_succ_eq_append_getElem h, List.prod_append, List.prod_singleton,
      List.getD_eq_getElem _ _ h]
  · rw [List.take_of_length_le h, List.take_of_length_le (by omega), List.getD_eq_default _ _ h,
      Nat.mul_one]

theorem capacity_pos (s : Shape) (height : Nat) : 0 < s.capacity height := by
  induction height with
  | zero => simp
  | succ height ih =>
      rw [capacity_succ]
      exact Nat.mul_pos ih (s.arity_pos height)

@[simp] theorem capacity_one (s : Shape) : s.capacity 1 = s.arity 0 := by
  rw [capacity_succ, capacity_zero, Nat.one_mul]

end Shape

/-! ### Counting routers -/

namespace Layout

/-- The number of routers on a level, none above the root. -/
def count (l : Layout) (level : Nat) : Nat := l.counts.getD level 0

/-- The number of routers on the levels below the given one. -/
def first (l : Layout) (level : Nat) : Nat := (l.counts.take level).sum

/-- The number of the router at an index of a level. -/
def idAt (l : Layout) (level index : Nat) : Nat := l.first level + index

@[simp] theorem first_zero (l : Layout) : l.first 0 = 0 := by simp [first]

@[simp] theorem idAt_zero (l : Layout) (index : Nat) : l.idAt 0 index = index := by simp [idAt]

theorem first_succ (l : Layout) (level : Nat) :
    l.first (level + 1) = l.first level + l.count level := by
  unfold first count
  rcases Nat.lt_or_ge level l.counts.length with h | h
  · rw [List.take_succ_eq_append_getElem h, List.sum_append, List.sum_singleton,
      List.getD_eq_getElem _ _ h]
  · rw [List.take_of_length_le h, List.take_of_length_le (by omega), List.getD_eq_default _ _ h,
      Nat.add_zero]

theorem first_mono (l : Layout) {level level' : Nat} (h : level ≤ level') :
    l.first level ≤ l.first level' := by
  induction h with
  | refl => exact Nat.le_refl _
  | step _ ih => exact Nat.le_trans ih (by rw [first_succ]; omega)

theorem first_numLevels (l : Layout) : l.first l.numLevels = l.counts.sum := by
  rw [first, numLevels, List.take_length]

theorem lt_numLevels_of_lt_count {l : Layout} {level index : Nat} (h : index < l.count level) :
    level < l.numLevels := by
  by_contra hlevel
  rw [count, List.getD_eq_default _ _ (by rw [numLevels] at hlevel; omega)] at h
  omega

/-- The routers of a level come before those of the levels above. -/
theorem idAt_lt_first {l : Layout} {level level' index : Nat} (h : index < l.count level)
    (hlevel : level < level') : l.idAt level index < l.first level' := by
  refine Nat.lt_of_lt_of_le ?_ (l.first_mono hlevel)
  rw [idAt, first_succ]
  omega

theorem idAt_lt_idAt {l : Layout} {level level' index : Nat} (h : index < l.count level)
    (hlevel : level < level') (index' : Nat) : l.idAt level index < l.idAt level' index' :=
  Nat.lt_of_lt_of_le (idAt_lt_first h hlevel) (Nat.le_add_right _ _)

theorem idAt_lt {l : Layout} {level index : Nat} (h : index < l.count level) :
    l.idAt level index < l.counts.sum := by
  rw [← first_numLevels]
  exact idAt_lt_first h (lt_numLevels_of_lt_count h)

/-- Every number of a router belongs to a position. -/
theorem exists_idAt {l : Layout} {id : Nat} (h : id < l.counts.sum) :
    ∃ level index, index < l.count level ∧ l.idAt level index = id := by
  -- the first level that ends behind the number, found by going up from level zero
  have key : ∀ n, id < l.first n →
      ∃ level index, index < l.count level ∧ l.idAt level index = id := by
    intro n
    induction n with
    | zero => intro hn; simp at hn
    | succ n ih =>
        intro hn
        rcases Nat.lt_or_ge id (l.first n) with hlt | hge
        · exact ih hlt
        · rw [first_succ] at hn
          exact ⟨n, id - l.first n, by omega, by rw [idAt]; omega⟩
  exact key l.numLevels (by rwa [first_numLevels])

/-- Different positions have different numbers. -/
theorem idAt_inj {l : Layout} {level index level' index' : Nat} (h : index < l.count level)
    (h' : index' < l.count level') (he : l.idAt level index = l.idAt level' index') :
    level = level' ∧ index = index' := by
  have hlevel : level = level' := by
    rcases Nat.lt_trichotomy level level' with hlt | heq | hgt
    · exact absurd he (Nat.ne_of_lt (idAt_lt_idAt h hlt index'))
    · exact heq
    · exact absurd he (Nat.ne_of_gt (idAt_lt_idAt h' hgt index))
  subst hlevel
  rw [idAt, idAt] at he
  exact ⟨rfl, by omega⟩

/-! ### The top level -/

theorem numLevels_pos (l : Layout) : 0 < l.numLevels :=
  List.length_pos_of_ne_nil fun hnil => by simpa [hnil] using l.top_eq

theorem count_top (l : Layout) : l.count (l.numLevels - 1) = 1 := by
  rw [count, numLevels, List.getD_eq_getElem?_getD, ← List.getLast?_eq_getElem?, l.top_eq,
    Option.getD_some]

/-- The root stands behind all other routers. -/
theorem first_top (l : Layout) : l.first (l.numLevels - 1) + 1 = l.counts.sum := by
  have h := l.first_succ (l.numLevels - 1)
  rw [Nat.sub_add_cancel l.numLevels_pos, l.count_top, first_numLevels] at h
  exact h.symm

/-! ### The numbering as it is computed -/

theorem totalRouters_eq (l : Layout) : l.totalRouters = l.counts.sum := by
  simp only [totalRouters, sum?_counts, Option.get_some]

/-- Every number of a router is that of a position. -/
theorem exists_idAt_of_lt_totalRouters {l : Layout} {id : Nat} (h : id < l.totalRouters) :
    ∃ level index, index < l.count level ∧ l.idAt level index = id :=
  exists_idAt (by rwa [totalRouters_eq] at h)

theorem rootId_eq_first (l : Layout) : l.rootId = l.first (l.numLevels - 1) := by
  rw [rootId, totalRouters_eq, ← l.first_top, Nat.add_sub_cancel]

theorem offsets_eq_map (l : Layout) : l.offsets = (List.range l.numLevels).map l.first := by
  have h := l.offsets_eq
  rw [Word.sumsBefore?_of_lt l.zero_add_sum_lt, Option.some_inj] at h
  rw [← h]
  exact List.map_congr_left fun level _ => Nat.zero_add _

theorem offset?_eq {l : Layout} {level : Nat} (h : level < l.numLevels) :
    l.offset? level = some (l.first level) := by
  rw [offset?, offsets_eq_map, List.getElem?_map, List.getElem?_range h, Option.map_some]

theorem levelOf?_eq_find? (l : Layout) (id : Nat) :
    l.levelOf? id = (List.range l.numLevels).find? fun level => id < l.first (level + 1) := by
  simp only [levelOf?, findSum?_counts, Option.get_some]
  rfl

theorem levelOf?_idAt {l : Layout} {level index : Nat} (hindex : index < l.count level) :
    l.levelOf? (l.idAt level index) = some level := by
  rw [levelOf?_eq_find?, List.find?_range_eq_some]
  refine ⟨?_, List.mem_range.2 (lt_numLevels_of_lt_count hindex), ?_⟩
  · rw [decide_eq_true_eq]
    exact idAt_lt_first hindex (Nat.lt_succ_self level)
  · intro below hbelow
    rw [Bool.not_eq_true', decide_eq_false_iff_not, Nat.not_lt]
    exact Nat.le_trans (l.first_mono hbelow) (Nat.le_add_right _ _)

/-- Layouts with the same counts are the same. -/
theorem eq_of_counts_eq {l l' : Layout} (h : l.counts = l'.counts) : l = l' := by
  cases l with
  | mk counts offsets hoffsets htop =>
      cases l' with
      | mk counts' offsets' hoffsets' htop' =>
          obtain rfl : counts = counts' := h
          obtain rfl : offsets = offsets' := Option.some_inj.1 (hoffsets.symm.trans hoffsets')
          rfl

/-- The layout of some counts has these counts. -/
theorem ofCounts_eq_ok_iff {counts : List Nat} {htop : counts.getLast? = some 1} {l : Layout} :
    ofCounts counts htop = .ok l ↔ l.counts = counts := by
  unfold ofCounts
  split
  next offsets h =>
    rw [Except.ok.injEq]
    constructor
    · rintro rfl
      rfl
    · intro hcounts
      exact eq_of_counts_eq hcounts.symm
  next h =>
    simp only [reduceCtorEq, false_iff]
    rintro rfl
    rw [l.offsets_eq] at h
    cases h

/-- If their sum is no word, it overflows. -/
theorem ofCounts_eq_error_iff {counts : List Nat} {htop : counts.getLast? = some 1}
    {e : LayoutFailure} :
    ofCounts counts htop = .error e ↔ e = .overflow ∧ 2 ^ 64 ≤ counts.sum := by
  unfold ofCounts
  split
  next offsets h =>
    have hlt := Word.sum_lt_of_sumsBefore? (by decide) h
    simp only [reduceCtorEq, false_iff]
    omega
  next h =>
    rw [Except.error.injEq, eq_comm, iff_self_and]
    rintro rfl
    by_contra hlt
    rw [Word.sumsBefore?_of_lt (by omega)] at h
    cases h

theorem exists_ofCounts {counts : List Nat} (htop : counts.getLast? = some 1)
    (h : counts.sum < 2 ^ 64) : ∃ l, ofCounts counts htop = .ok l := by
  cases hl : ofCounts counts htop with
  | ok l => exact ⟨l, rfl⟩
  | error e => exact absurd h (Nat.not_lt.2 (ofCounts_eq_error_iff.1 hl).2)

/-! ### Balance -/

/-- A layout belongs to a shape and a number of hosts: it has the levels of the shape, and the hosts
below the routers of each level are all hosts. -/
structure Balanced (l : Layout) (s : Shape) (hosts : Nat) : Prop where
  numLevels_eq : l.numLevels = s.numLevels
  count_mul_capacity : ∀ level < s.numLevels, l.count level * s.capacity (level + 1) = hosts

end Layout

/-- Grouping divides the number of things below by one fan-out after the other. -/
theorem Shape.count_mul_prod_of_group {fs : List Nat} {level below : Nat} {counts : List Nat}
    (h : group level below fs = .ok counts) :
    counts.length = fs.length ∧
      ∀ i < fs.length, counts.getD i 0 * (fs.take (i + 1)).prod = below := by
  induction fs generalizing level below counts with
  | nil =>
      cases h
      exact ⟨rfl, fun i hi => absurd hi (Nat.not_lt_zero i)⟩
  | cons f fs ih =>
      rw [group] at h
      split at h
      · rename_i hdvd
        cases hg : group (level + 1) (below / f) fs with
        | error e => rw [hg] at h; cases h
        | ok rest =>
            rw [hg] at h
            cases h
            obtain ⟨hlen, hprod⟩ := ih hg
            -- the rest was grouped from `below / f` things, and `f` divides `below`
            have hbelow : below / f * f = below := Nat.div_mul_cancel (Nat.dvd_of_mod_eq_zero hdvd)
            refine ⟨by simp [hlen], fun i hi => ?_⟩
            cases i with
            | zero => simpa using hbelow
            | succ i =>
                have := hprod i (by simpa using hi)
                rw [List.getD_cons_succ, List.take_succ_cons, List.prod_cons, Nat.mul_left_comm,
                  this, Nat.mul_comm, hbelow]
      · cases h

/-- What a layout is made of: the counts that grouping gives, with one router at the top. -/
theorem Shape.layout_eq_ok_iff {s : Shape} {hosts : Nat} {l : Layout} :
    s.layout hosts = .ok l ↔ hosts ≠ 0 ∧ group 0 hosts s.fanouts = .ok l.counts := by
  unfold layout
  by_cases hzero : hosts = 0
  · simp [hzero]
  · rw [if_neg hzero, bind_eq_ok_iff]
    constructor
    · rintro ⟨counts, hcounts, h⟩
      split at h
      · rw [Layout.ofCounts_eq_ok_iff.1 h]
        exact ⟨hzero, mapError_eq_ok_iff.1 hcounts⟩
      · cases h
    · rintro ⟨-, hcounts⟩
      refine ⟨l.counts, mapError_eq_ok_iff.2 hcounts, ?_⟩
      rw [dif_pos l.top_eq]
      exact Layout.ofCounts_eq_ok_iff.2 rfl

/-- **Layouts are balanced.** -/
theorem Shape.balanced_of_layout {s : Shape} {hosts : Nat} {l : Layout}
    (h : s.layout hosts = .ok l) : l.Balanced s hosts := by
  obtain ⟨-, hcounts⟩ := layout_eq_ok_iff.1 h
  obtain ⟨hlength, hprod⟩ := count_mul_prod_of_group hcounts
  exact ⟨hlength, hprod⟩

namespace Layout.Balanced

variable {l : Layout} {s : Shape} {hosts : Nat}

theorem lt_numLevels (hb : l.Balanced s hosts) {level index : Nat} (h : index < l.count level) :
    level < s.numLevels := by
  rw [← hb.numLevels_eq]
  exact lt_numLevels_of_lt_count h

/-- **The routers of a level are the children of the routers of the next level.** -/
theorem count_eq (hb : l.Balanced s hosts) {level : Nat} (h : level + 1 < s.numLevels) :
    l.count level = l.count (level + 1) * s.arity (level + 1) := by
  have hlow := hb.count_mul_capacity level (by omega)
  have hhigh := hb.count_mul_capacity (level + 1) h
  rw [s.capacity_succ (level + 1), Nat.mul_comm (s.capacity (level + 1)), ← Nat.mul_assoc] at hhigh
  exact Nat.eq_of_mul_eq_mul_right (s.capacity_pos (level + 1)) (hlow.trans hhigh.symm)

theorem count_top (hb : l.Balanced s hosts) : l.count (s.numLevels - 1) = 1 := by
  rw [← hb.numLevels_eq]
  exact l.count_top

/-- The hosts are the things below the leaf routers. -/
theorem hosts_eq (hb : l.Balanced s hosts) : hosts = l.count 0 * s.arity 0 := by
  rw [← hb.count_mul_capacity 0 s.numLevels_pos, s.capacity_one]

theorem capacity_numLevels (hb : l.Balanced s hosts) : s.capacity s.numLevels = hosts := by
  have hpos := s.numLevels_pos
  have h := hb.count_mul_capacity (s.numLevels - 1) (by omega)
  rwa [hb.count_top, Nat.one_mul, Nat.sub_add_cancel hpos] at h

/-- All hosts are below the one router of the top level. -/
theorem div_capacity_top (hb : l.Balanced s hosts) {level host : Nat}
    (htop : level + 1 = s.numLevels) (h : host < hosts) : host / s.capacity (level + 1) = 0 := by
  rw [htop, hb.capacity_numLevels]
  exact Nat.div_eq_of_lt h

/-- **A shape has one number of hosts and one layout.** -/
theorem unique (hb : l.Balanced s hosts) {l' : Layout} {hosts' : Nat} (hb' : l'.Balanced s hosts') :
    hosts = hosts' ∧ l = l' := by
  have hhosts : hosts = hosts' := by rw [← hb.capacity_numLevels, hb'.capacity_numLevels]
  subst hhosts
  have hlength : l.numLevels = l'.numLevels := hb.numLevels_eq.trans hb'.numLevels_eq.symm
  have hcounts : l.counts = l'.counts := by
    refine List.ext_getElem hlength fun level h h' => ?_
    have hlevel : level < s.numLevels := hb.numLevels_eq ▸ h
    have hmul := hb.count_mul_capacity level hlevel
    rw [← hb'.count_mul_capacity level hlevel] at hmul
    have hcount := Nat.eq_of_mul_eq_mul_right (s.capacity_pos (level + 1)) hmul
    rwa [count, count, List.getD_eq_getElem _ _ h, List.getD_eq_getElem _ _ h'] at hcount
  exact ⟨rfl, eq_of_counts_eq hcounts⟩

theorem top_pos (hb : l.Balanced s hosts) : 0 < l.count (s.numLevels - 1) := by
  rw [hb.count_top]
  exact Nat.one_pos

theorem rootId_eq (hb : l.Balanced s hosts) : l.rootId = l.first (s.numLevels - 1) := by
  rw [← hb.numLevels_eq]
  exact l.rootId_eq_first

/-- A router is the root if and only if it stands on the top level. -/
theorem idAt_eq_rootId_iff (hb : l.Balanced s hosts) {level index : Nat}
    (hindex : index < l.count level) :
    l.idAt level index = l.rootId ↔ level + 1 = s.numLevels := by
  rw [hb.rootId_eq]
  have hpos := s.numLevels_pos
  have hlt := hb.lt_numLevels hindex
  constructor
  · intro he
    have := (idAt_inj hindex hb.top_pos he).1
    omega
  · intro he
    have : level = s.numLevels - 1 := by omega
    subst this
    rw [hb.count_top] at hindex
    rw [idAt]
    omega

/-! ### Parents and children -/

/-- Dividing the index of a child gives the index of its parent. -/
theorem child_div {index arity port : Nat} (h : port < arity) :
    (index * arity + port) / arity = index :=
  Nat.div_eq_of_lt_le (Nat.le_add_right _ _) (by rw [Nat.succ_mul]; omega)

theorem child_mod {index arity port : Nat} (h : port < arity) :
    (index * arity + port) % arity = port := by
  rw [Nat.mul_add_mod', Nat.mod_eq_of_lt h]

theorem parent_lt (hb : l.Balanced s hosts) {level index : Nat} (h : level + 1 < s.numLevels)
    (hindex : index < l.count level) : index / s.arity (level + 1) < l.count (level + 1) := by
  rw [Nat.div_lt_iff_lt_mul (s.arity_pos _), ← hb.count_eq h]
  exact hindex

theorem child_lt (hb : l.Balanced s hosts) {level index port : Nat}
    (hindex : index < l.count (level + 1)) (hport : port < s.arity (level + 1)) :
    index * s.arity (level + 1) + port < l.count level := by
  rw [hb.count_eq (hb.lt_numLevels hindex)]
  calc index * s.arity (level + 1) + port
      < (index + 1) * s.arity (level + 1) := by rw [Nat.succ_mul]; omega
    _ ≤ l.count (level + 1) * s.arity (level + 1) := Nat.mul_le_mul_right _ hindex

theorem host_lt (hb : l.Balanced s hosts) {index port : Nat} (hindex : index < l.count 0)
    (hport : port < s.arity 0) : index * s.arity 0 + port < hosts := by
  rw [hb.hosts_eq]
  calc index * s.arity 0 + port
      < (index + 1) * s.arity 0 := by rw [Nat.succ_mul]; omega
    _ ≤ l.count 0 * s.arity 0 := Nat.mul_le_mul_right _ hindex

theorem leaf_lt (hb : l.Balanced s hosts) {host : Nat} (h : host < hosts) :
    host / s.arity 0 < l.count 0 := by
  rw [Nat.div_lt_iff_lt_mul (s.arity_pos _), ← hb.hosts_eq]
  exact h

end Layout.Balanced

end Interconnect
