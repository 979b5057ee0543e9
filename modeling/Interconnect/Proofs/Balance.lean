/-
**Which numbers of hosts a shape fits.**

A layout is found by dividing the number of hosts by one fan-out after the other, and nothing but
the remainders and the last quotient is looked at.  That is as good as comparing the number of hosts
with the product of all fan-outs, which may be larger than any word: a shape fits exactly one number
of hosts, and on every level there are as many routers as the fan-outs above it multiply to.  If the
shape does not fit, the error names the first level at which the hosts cannot be grouped, or the
number of routers that are left at the top.

A shape that fits has a layout if its routers can be counted.  They are added up level by level, and
if there are too many of them for a word, this overflows: there is neither a layout nor an error.

Main definitions:

* `Shape.counts` — the numbers of routers that a shape asks for, products of fan-outs;
* `Layout.Counts` — a layout has these numbers;
* `Shape.Misfit` — why a shape does not fit a number of hosts, said with divisors.

Main results:

* `Shape.exists_layout_iff` — a layout is made if and only if the product is the number of hosts and
  the number of routers is a word;
* `Shape.layout_eq_overflow_iff` — otherwise, if the product is the number of hosts, it overflows;
* `Shape.exists_misfit_of_layout` — the error for every other number of hosts;
* `Shape.layout_balance` — all of it, with what a builder answers.
-/

import Interconnect.Proofs.Acceptance
import Interconnect.Proofs.Levels

set_option autoImplicit false

namespace Interconnect

namespace Shape

/-! ### Grouping by divisors -/

/-- Grouping stops at the first fan-out that leaves a remainder. -/
theorem exists_level_of_group {fs : List Nat} (hpos : ∀ f ∈ fs, 0 < f) {level below : Nat}
    {e : LayoutError} (h : group level below fs = .error e) :
    ∃ i < fs.length, (fs.take i).prod ∣ below ∧ ¬ (fs.take (i + 1)).prod ∣ below ∧
      e = .uneven (below / (fs.take i).prod) (level + i) (fs.getD i 1) := by
  induction fs generalizing level below with
  | nil => cases h
  | cons f fs ih =>
      obtain ⟨hf, hfs⟩ := List.forall_mem_cons.1 hpos
      rw [group] at h
      split at h
      · rename_i hmod
        -- `f` leaves nothing, so it is some later fan-out
        obtain ⟨k, rfl⟩ := Nat.dvd_of_mod_eq_zero hmod
        rw [Nat.mul_div_cancel_left k hf] at h
        cases hrest : group (level + 1) k fs with
        | ok counts => rw [hrest] at h; cases h
        | error e' =>
            rw [hrest] at h
            cases h
            obtain ⟨i, hi, hdvd, hnot, rfl⟩ := ih hfs hrest
            refine ⟨i + 1, Nat.succ_lt_succ hi, ?_, ?_, ?_⟩
            · rw [List.take_succ_cons, List.prod_cons]
              exact Nat.mul_dvd_mul_left f hdvd
            · rw [List.take_succ_cons, List.prod_cons, Nat.mul_dvd_mul_iff_left hf]
              exact hnot
            · rw [List.take_succ_cons, List.prod_cons, Nat.mul_div_mul_left _ _ hf,
                List.getD_cons_succ, Nat.add_assoc, Nat.add_comm 1 i]
      · rename_i hmod
        cases h
        refine ⟨0, Nat.succ_pos _, ?_, ?_, ?_⟩
        · simp
        · simpa [Nat.dvd_iff_mod_eq_zero] using hmod
        · simp

/-- What is left at the top, taken as often as the fan-outs say, is everything. -/
theorem getLastD_mul_prod_of_group {fs : List Nat} {level below : Nat} {counts : List Nat}
    (h : group level below fs = .ok counts) : counts.getLastD below * fs.prod = below := by
  induction fs generalizing level below counts with
  | nil =>
      cases h
      exact Nat.mul_one below
  | cons f fs ih =>
      rw [group] at h
      split at h
      · rename_i hmod
        obtain ⟨rest, hrest, rfl⟩ := map_eq_ok_iff.1 h
        rw [List.getLastD_cons, List.prod_cons, Nat.mul_left_comm, ih hrest]
        exact Nat.mul_div_cancel' (Nat.dvd_of_mod_eq_zero hmod)
      · cases h

/-! ### The routers that a shape asks for -/

/-- For each of some fan-outs the product of those behind it. -/
def productsAbove : List Nat → List Nat
  | [] => []
  | _ :: fs => fs.prod :: productsAbove fs

/-- The numbers of routers that a shape asks for: on each level the product of the fan-outs above
it. -/
def counts (s : Shape) : List Nat := productsAbove s.fanouts

theorem length_productsAbove (fs : List Nat) : (productsAbove fs).length = fs.length := by
  induction fs with
  | nil => rfl
  | cons f fs ih => rw [productsAbove, List.length_cons, ih, List.length_cons]

theorem getElem?_productsAbove {fs : List Nat} {i : Nat} (h : i < fs.length) :
    (productsAbove fs)[i]? = some (fs.drop (i + 1)).prod := by
  induction fs generalizing i with
  | nil => cases h
  | cons f fs ih =>
      cases i with
      | zero => rfl
      | succ i => exact ih (Nat.lt_of_succ_lt_succ h)

theorem getLast?_counts (s : Shape) : s.counts.getLast? = some 1 := by
  have hpos := s.numLevels_pos
  unfold numLevels at hpos
  rw [counts, List.getLast?_eq_getElem?, length_productsAbove, getElem?_productsAbove (by omega),
    Nat.sub_add_cancel hpos, List.drop_length, List.prod_nil]

/-- As many things as the fan-outs multiply to are grouped without remainder. -/
theorem group_prod {fs : List Nat} (hpos : ∀ f ∈ fs, 0 < f) (level : Nat) :
    group level fs.prod fs = .ok (productsAbove fs) := by
  induction fs generalizing level with
  | nil => rfl
  | cons f fs ih =>
      obtain ⟨hf, hfs⟩ := List.forall_mem_cons.1 hpos
      rw [group, List.prod_cons, Nat.mul_mod_right, if_pos rfl, Nat.mul_div_cancel_left _ hf,
        ih hfs]
      rfl

/-! ### Why a shape does not fit -/

theorem capacity_eq_prod (s : Shape) : s.capacity s.numLevels = s.fanouts.prod := by
  rw [capacity, numLevels, List.take_length]

theorem prod_pos (s : Shape) : 0 < s.fanouts.prod :=
  s.capacity_eq_prod ▸ s.capacity_pos _

/-- Why a shape does not fit a number of hosts: there is none, or the hosts make whole groups up to
some level and not on it, or they make several trees. -/
inductive Misfit (s : Shape) (hosts : Nat) : LayoutError → Prop
  | noHosts (h : hosts = 0) : Misfit s hosts .noHosts
  | uneven {level : Nat} (hlevel : level < s.numLevels) (hpos : 0 < hosts)
      (hbelow : s.capacity level ∣ hosts) (hnot : ¬ s.capacity (level + 1) ∣ hosts) :
      Misfit s hosts (.uneven (hosts / s.capacity level) level (s.arity level))
  | severalRoots {roots : Nat} (hroots : 1 < roots) (hhosts : hosts = roots * s.fanouts.prod) :
      Misfit s hosts (.severalRoots s hosts roots)

/-- **The error says why** a shape does not fit, if the number of hosts is not the product of the
fan-outs. -/
theorem exists_misfit_of_layout {s : Shape} {hosts : Nat} (h : hosts ≠ s.fanouts.prod) :
    ∃ e, s.layout hosts = .error (.misfit e) ∧ s.Misfit hosts e := by
  unfold layout
  by_cases hzero : hosts = 0
  · exact ⟨.noHosts, if_pos hzero, .noHosts hzero⟩
  rw [if_neg hzero]
  cases hgroup : group 0 hosts s.fanouts with
  | error e =>
      obtain ⟨level, hlevel, hbelow, hnot, rfl⟩ := exists_level_of_group s.fanout_pos hgroup
      rw [Nat.zero_add] at *
      exact ⟨_, rfl, .uneven hlevel (Nat.pos_of_ne_zero hzero) hbelow hnot⟩
  | ok counts =>
      have hlast := getLastD_mul_prod_of_group hgroup
      -- neither one router is left, as the product is another number, nor none
      have hone : counts.getLastD hosts ≠ 1 := by
        intro hone
        rw [hone, Nat.one_mul] at hlast
        exact h hlast.symm
      have hsome : counts.getLastD hosts ≠ 0 := by
        intro hnone
        rw [hnone, Nat.zero_mul] at hlast
        exact hzero hlast.symm
      have htop : counts.getLast? ≠ some 1 := by
        intro htop
        rw [List.getLastD_eq_getLast?, htop] at hone
        exact hone rfl
      exact ⟨_, dif_neg htop, .severalRoots (by omega) hlast.symm⟩

end Shape

namespace Layout

/-- The numbers of routers of a layout are the products of the fan-outs above their levels.  So
there is one router at the top, the routers of a level are the children of the routers of the next
one, and the hosts are the things below the leaf routers. -/
structure Counts (l : Layout) (s : Shape) (hosts : Nat) : Prop where
  length_eq : l.counts.length = s.fanouts.length
  product : ∀ level < s.fanouts.length,
    l.counts[level]? = some (s.fanouts.drop (level + 1)).prod
  top : l.counts.getLast? = some 1
  children : ∀ level, level + 1 < s.fanouts.length →
    l.count level = l.count (level + 1) * s.arity (level + 1)
  hosts_eq : l.count 0 * s.hostsPerLeaf = hosts

end Layout

namespace Shape

/-! ### When a layout is made -/

/-- For the product of the fan-outs it is left to add up the routers. -/
theorem layout_prod (s : Shape) :
    s.layout s.fanouts.prod = Layout.ofCounts s.counts s.getLast?_counts := by
  have hgroup : group 0 s.fanouts.prod s.fanouts = .ok s.counts := group_prod s.fanout_pos 0
  rw [layout, if_neg (Nat.ne_of_gt s.prod_pos), hgroup]
  exact dif_pos s.getLast?_counts

/-- A layout is made for one number of hosts, and has the routers that the shape asks for. -/
theorem counts_eq_of_layout {s : Shape} {hosts : Nat} {l : Layout} (h : s.layout hosts = .ok l) :
    hosts = s.fanouts.prod ∧ l.counts = s.counts := by
  obtain rfl : hosts = s.fanouts.prod := by
    rw [← capacity_eq_prod, (balanced_of_layout h).capacity_numLevels]
  rw [layout_prod, Layout.ofCounts_eq_ok_iff] at h
  exact ⟨rfl, h⟩

/-- **A layout is made** if and only if the number of hosts is the product of the fan-outs and the
number of routers is a word. -/
theorem exists_layout_iff {s : Shape} {hosts : Nat} :
    (∃ l, s.layout hosts = .ok l) ↔ hosts = s.fanouts.prod ∧ s.counts.sum < 2 ^ 64 := by
  constructor
  · rintro ⟨l, hl⟩
    obtain ⟨hhosts, hcounts⟩ := counts_eq_of_layout hl
    exact ⟨hhosts, hcounts ▸ l.sum_lt⟩
  · rintro ⟨rfl, hsum⟩
    rw [layout_prod]
    exact Layout.exists_ofCounts _ hsum

/-- **Counting the routers overflows** if and only if the number of hosts is the product of the
fan-outs and the number of routers is no word. -/
theorem layout_eq_overflow_iff {s : Shape} {hosts : Nat} :
    s.layout hosts = .error .overflow ↔ hosts = s.fanouts.prod ∧ 2 ^ 64 ≤ s.counts.sum := by
  by_cases hhosts : hosts = s.fanouts.prod
  · rw [hhosts, layout_prod, Layout.ofCounts_eq_error_iff]
    simp
  · obtain ⟨e, he, -⟩ := exists_misfit_of_layout hhosts
    simp [he, hhosts]

/-- **The routers of a level** are as many as the fan-outs above it multiply to. -/
theorem counts_of_layout {s : Shape} {hosts : Nat} {l : Layout} (h : s.layout hosts = .ok l) :
    l.Counts s hosts := by
  have hb := balanced_of_layout h
  have hcounts := (counts_eq_of_layout h).2
  constructor
  · exact hb.numLevels_eq
  · intro level hlevel
    rw [hcounts]
    exact getElem?_productsAbove hlevel
  · exact l.top_eq
  · exact fun level hlevel => hb.count_eq hlevel
  · rw [hostsPerLeaf_eq, ← hb.hosts_eq]

/-- A new builder refuses a shape that does not fit. -/
theorem configure_new_of_layout {s : Shape} {hosts : Nat} {e : LayoutFailure}
    (h : s.layout hosts = .error e) (o : TreeOptions) (hostNames : List String) :
    (Builder.new o).configure s hosts hostNames = .error (.ofLayout e) := by
  have hplan : Builder.plan o s hosts hostNames = .error (.ofLayout e) :=
    bind_eq_error_iff.2 (.inl (mapError_eq_error_iff.2 ⟨e, h, rfl⟩))
  exact Builder.configure_new_eq_error_iff.2 hplan

/-- **When a shape fits a number of hosts**: if and only if the number is the product of the
fan-outs.  If the number of routers is a word, there is a layout then, with the products of the
fan-outs above each level; otherwise counting them overflows.  In every other case there is an error
that says why, which a builder passes on as a refused configuration. -/
theorem layout_balance (s : Shape) (hosts : Nat) :
    ((∃ l, s.layout hosts = .ok l) ↔ hosts = s.fanouts.prod ∧ s.counts.sum < 2 ^ 64) ∧
    (∀ l, s.layout hosts = .ok l → l.counts = s.counts ∧ l.Counts s hosts) ∧
    (s.layout hosts = .error .overflow ↔ hosts = s.fanouts.prod ∧ 2 ^ 64 ≤ s.counts.sum) ∧
    (hosts ≠ s.fanouts.prod → ∃ e, s.layout hosts = .error (.misfit e) ∧ s.Misfit hosts e ∧
      ∀ o hostNames,
        (Builder.new o).configure s hosts hostNames = .error (.configuration (.layout e))) := by
  refine ⟨exists_layout_iff, fun l hl => ⟨(counts_eq_of_layout hl).2, counts_of_layout hl⟩,
    layout_eq_overflow_iff, fun hne => ?_⟩
  obtain ⟨e, he, hmisfit⟩ := exists_misfit_of_layout hne
  exact ⟨e, he, hmisfit, configure_new_of_layout he⟩

/-- A shape with the hosts that it fits, and one whose fan-outs multiply to zero as words. -/
theorem layout_balance_large :
    (∃ (s : Shape) (l : Layout), s.fanouts = [2, 4] ∧ s.layout 8 = .ok l ∧ l.counts = [4, 1] ∧
      l.Counts s 8) ∧
    ∃ s : Shape, s.fanouts = [2 ^ 32, 2 ^ 32] ∧ 0 ≠ s.fanouts.prod ∧
      ∃ e, s.layout 0 = .error (.misfit e) ∧ s.Misfit 0 e := by
  constructor
  · let s : Shape := ⟨[2, 4], by decide, by decide⟩
    obtain ⟨l, hl⟩ := (layout_balance s 8).1.2 (by decide)
    obtain ⟨hcounts, hproducts⟩ := (layout_balance s 8).2.1 l hl
    exact ⟨s, l, rfl, hl, hcounts, hproducts⟩
  · let s : Shape := ⟨[2 ^ 32, 2 ^ 32], by decide, by decide⟩
    have hne : 0 ≠ s.fanouts.prod := by decide
    obtain ⟨e, he, hmisfit, -⟩ := (layout_balance s 0).2.2.2 hne
    exact ⟨s, rfl, hne, e, he, hmisfit⟩

/-- **A shape that fits need not have a layout.**  On two levels with fan-out one, every host has a
router of its own: there are more routers than words. -/
theorem exists_layout_overflow :
    ∃ s : Shape, s.fanouts = [1, 1, 2 ^ 63] ∧ s.fanouts.prod = 2 ^ 63 ∧
      s.layout (2 ^ 63) = .error .overflow :=
  ⟨⟨[1, 1, 2 ^ 63], by decide, by decide⟩, rfl, by decide, by decide⟩

end Shape

end Interconnect
