/-
**Levels are blocks of numbers.**

The level of a router is found by adding up the counts of the levels, and the routers of a level are
cut out of the list of all routers with an offset and a count.  Both are the same division of the
numbers into blocks: a block for each level, one behind the other, the last of them with the root
alone.

Main definitions:

* `Layout.PartitionsIds` — the levels of a layout are blocks of numbers;
* `Topology.PartitionsRouters` — the routers of a topology come in the blocks of their levels.

Main results:

* `Layout.levelOf?_eq_some_iff`, `Layout.levelOf?_eq_none_iff` — which number has which level;
* `Topology.Built.level_eq_iff` — the same for the levels that routers have;
* `filter_eq_take_drop` — what is filtered is cut out if it stands in one block;
* `Topology.Built.routersAtLevel_eq`, `Topology.Built.flatMap_routersAtLevel` — the routers of a
  level, and of all levels;
* `Builder.levels_partition` — layouts and built trees have these blocks.
-/

import Interconnect.Proofs.PerfectTree

set_option autoImplicit false

namespace Interconnect

/-! ### Numbers -/

namespace Layout

/-- The levels of a layout are blocks of numbers, one behind the other. -/
structure PartitionsIds (l : Layout) : Prop where
  levelOf?_eq_some_iff : ∀ id level, l.levelOf? id = some level ↔
    ∃ first count, l.offset? level = some first ∧ l.counts[level]? = some count ∧
      first ≤ id ∧ id < first + count
  levelOf?_eq_none_iff : ∀ id, l.levelOf? id = none ↔ l.totalRouters ≤ id
  levelOf?_mono : ∀ id id' level level', id ≤ id' → l.levelOf? id = some level →
    l.levelOf? id' = some level' → level ≤ level'
  levelOf?_eq_top_iff : ∀ id, l.levelOf? id = some (l.numLevels - 1) ↔ id = l.rootId

variable {l : Layout} {id level : Nat}

theorem getElem?_counts (h : level < l.numLevels) : l.counts[level]? = some (l.count level) := by
  rw [count, List.getD_eq_getElem _ _ h, List.getElem?_eq_getElem h]

/-- The offset and the count that are looked up are those of a level. -/
theorem eq_first_and_count {first count : Nat} (hfirst : l.offset? level = some first)
    (hcount : l.counts[level]? = some count) :
    level < l.numLevels ∧ first = l.first level ∧ count = l.count level := by
  have hlevel : level < l.numLevels := (List.getElem?_eq_some_iff.1 hcount).1
  rw [offset?_eq hlevel] at hfirst
  rw [getElem?_counts hlevel] at hcount
  exact ⟨hlevel, (Option.some.inj hfirst).symm, (Option.some.inj hcount).symm⟩

/-- **The numbers of a level** are those from its first one on, as many as it has routers. -/
theorem levelOf?_eq_some_iff :
    l.levelOf? id = some level ↔
      level < l.numLevels ∧ l.first level ≤ id ∧ id < l.first level + l.count level := by
  constructor
  · intro hlevel
    -- a number that has a level is behind no level, so it has a position, and that has one level
    have hid : id < l.counts.sum := by
      rw [levelOf?_eq_find?, List.find?_range_eq_some] at hlevel
      have hle : level + 1 ≤ l.numLevels := List.mem_range.1 hlevel.2.1
      rw [← first_numLevels]
      exact Nat.lt_of_lt_of_le (of_decide_eq_true hlevel.1) (l.first_mono hle)
    obtain ⟨level', index, hindex, rfl⟩ := exists_idAt hid
    rw [levelOf?_idAt hindex] at hlevel
    cases hlevel
    exact ⟨lt_numLevels_of_lt_count hindex, Nat.le_add_right _ _, Nat.add_lt_add_left hindex _⟩
  · rintro ⟨-, hge, hlt⟩
    obtain ⟨index, rfl⟩ := Nat.exists_eq_add_of_le hge
    exact levelOf?_idAt (Nat.lt_of_add_lt_add_left hlt)

/-- **The numbers without a level** are those behind all routers. -/
theorem levelOf?_eq_none_iff : l.levelOf? id = none ↔ l.totalRouters ≤ id := by
  constructor
  · intro hnone
    by_contra hlt
    obtain ⟨level, index, hindex, rfl⟩ := exists_idAt_of_lt_totalRouters (Nat.lt_of_not_le hlt)
    rw [levelOf?_idAt hindex] at hnone
    cases hnone
  · intro hle
    rw [Option.eq_none_iff_forall_ne_some]
    intro level hlevel
    obtain ⟨hlevel, -, hlt⟩ := levelOf?_eq_some_iff.1 hlevel
    have hend := l.first_mono (Nat.succ_le_of_lt hlevel)
    rw [first_succ, first_numLevels, ← totalRouters_eq] at hend
    omega

/-- Levels do not go down from one number to a later one. -/
theorem levelOf?_mono {id' level' : Nat} (hle : id ≤ id') (hlevel : l.levelOf? id = some level)
    (hlevel' : l.levelOf? id' = some level') : level ≤ level' := by
  obtain ⟨-, hge, -⟩ := levelOf?_eq_some_iff.1 hlevel
  obtain ⟨-, -, hlt⟩ := levelOf?_eq_some_iff.1 hlevel'
  by_contra hgt
  have hend := l.first_mono (Nat.lt_of_not_le hgt)
  rw [Nat.succ_eq_add_one, first_succ] at hend
  omega

/-- The root is the only router of the top level. -/
theorem levelOf?_eq_top_iff : l.levelOf? id = some (l.numLevels - 1) ↔ id = l.rootId := by
  have hpos := l.numLevels_pos
  rw [levelOf?_eq_some_iff, l.rootId_eq_first, l.count_top]
  omega

/-- **The levels of a layout are blocks of numbers.** -/
theorem partitionsIds (l : Layout) : l.PartitionsIds where
  levelOf?_eq_some_iff := by
    intro id level
    rw [Layout.levelOf?_eq_some_iff]
    constructor
    · rintro ⟨hlevel, hid⟩
      exact ⟨_, _, offset?_eq hlevel, getElem?_counts hlevel, hid⟩
    · rintro ⟨first, count, hfirst, hcount, hid⟩
      obtain ⟨hlevel, rfl, rfl⟩ := eq_first_and_count hfirst hcount
      exact ⟨hlevel, hid⟩
  levelOf?_eq_none_iff := fun _ => Layout.levelOf?_eq_none_iff
  levelOf?_mono := fun _ _ _ _ => Layout.levelOf?_mono
  levelOf?_eq_top_iff := fun _ => Layout.levelOf?_eq_top_iff

end Layout

/-! ### Routers -/

/-- What is filtered out of a list is cut out of it if it stands in one block. -/
theorem filter_eq_take_drop {α : Type} {p : α → Bool} {xs : List α} {start n : Nat}
    (h : ∀ i x, xs[i]? = some x → (p x = true ↔ start ≤ i ∧ i < start + n)) :
    xs.filter p = (xs.drop start).take n := by
  induction xs generalizing start n with
  | nil => simp
  | cons x xs ih =>
      have hfirst := h 0 x rfl
      have hrest : ∀ i y, xs[i]? = some y → (p y = true ↔ start ≤ i + 1 ∧ i + 1 < start + n) :=
        fun i y hy => h (i + 1) y hy
      cases start with
      | succ start =>
          rw [List.filter_cons_of_neg (by simp [hfirst]), List.drop_succ_cons]
          exact ih fun i y hy => (hrest i y hy).trans (by omega)
      | zero =>
          cases n with
          | zero =>
              rw [List.filter_cons_of_neg (by simp [hfirst]), List.take_zero]
              have hnone : xs.filter p = (xs.drop 0).take 0 :=
                ih fun i y hy => (hrest i y hy).trans (by omega)
              rw [hnone, List.take_zero]
          | succ n =>
              rw [List.filter_cons_of_pos (hfirst.2 (by omega)), List.drop_zero,
                List.take_succ_cons]
              have htail : xs.filter p = (xs.drop 0).take n :=
                ih fun i y hy => (hrest i y hy).trans (by omega)
              rw [htail, List.drop_zero]

namespace Topology

/-- The routers of a topology come in the order of their numbers and in the blocks of their
levels. -/
structure PartitionsRouters (t : Topology) : Prop where
  map_id : t.routers.map Router.id = List.range t.numRouters
  routersAtLevel_eq : ∀ level, t.routersAtLevel level = t.routersOf level
  in_range : ∀ level first count, t.tree.layout.offset? level = some first →
    t.tree.layout.counts[level]? = some count → first + count ≤ t.numRouters
  flatMap_routersAtLevel :
    (List.range t.tree.layout.numLevels).flatMap t.routersAtLevel = t.routers

namespace Built

variable {t : Topology} {table : LinkTable} {level : Nat}

theorem map_id (hb : t.Built table) : t.routers.map Router.id = List.range t.numRouters := by
  refine List.ext_getElem? fun id => ?_
  rw [List.getElem?_map]
  rcases Nat.lt_or_ge id t.numRouters with hlt | hge
  · have hr : t.router? id = some t.routers[id] := List.getElem?_eq_getElem hlt
    rw [List.getElem?_range hlt, show t.routers[id]? = _ from hr, Option.map_some, hb.id_eq hr]
  · rw [List.getElem?_eq_none hge, List.getElem?_eq_none (by rwa [List.length_range]),
      Option.map_none]

/-- **The routers that have a level** are those with a number of the level. -/
theorem level_eq_iff (hb : t.Built table) {id : Nat} {r : Router} (h : t.router? id = some r) :
    r.level = level ↔ level < t.tree.layout.numLevels ∧ t.tree.layout.first level ≤ id ∧
      id < t.tree.layout.first level + t.tree.layout.count level := by
  obtain ⟨level', index, hindex, rfl, hs⟩ := hb.exists_position h
  rw [← Layout.levelOf?_eq_some_iff, Layout.levelOf?_idAt hindex, hs.level_eq, Option.some_inj]

theorem routersAtLevel_of_lt (h : level < t.tree.layout.numLevels) :
    t.routersAtLevel level =
      (t.routers.drop (t.tree.layout.first level)).take (t.tree.layout.count level) := by
  rw [routersAtLevel, Layout.getElem?_counts h, Layout.offset?_eq h]

/-- **The routers that are cut out for a level** are those that have it. -/
theorem routersAtLevel_eq (hb : t.Built table) (level : Nat) :
    t.routersAtLevel level = t.routersOf level := by
  rcases Nat.lt_or_ge level t.tree.layout.numLevels with hlt | hge
  · rw [routersAtLevel_of_lt hlt, routersOf]
    refine (filter_eq_take_drop fun id r hr => ?_).symm
    rw [beq_iff_eq, hb.level_eq_iff hr]
    exact and_iff_right hlt
  · -- there is no such level
    have hnone : t.tree.layout.counts[level]? = none := List.getElem?_eq_none hge
    rw [routersAtLevel, hnone, routersOf, eq_comm, List.filter_eq_nil_iff]
    intro r hr hlevel
    have hlt := ((hb.level_eq_iff (hb.router?_id hr)).1 (beq_iff_eq.1 hlevel)).1
    omega

/-- The routers of the levels up to one of them, one after the other. -/
theorem flatMap_range_routersAtLevel (h : level ≤ t.tree.layout.numLevels) :
    (List.range level).flatMap t.routersAtLevel =
      t.routers.take (t.tree.layout.first level) := by
  induction level with
  | zero => simp
  | succ level ih =>
      rw [List.range_succ, List.flatMap_append, List.flatMap_singleton, ih (Nat.le_of_succ_le h),
        routersAtLevel_of_lt h, Layout.first_succ, List.take_add]

/-- **The routers of all levels** are all routers. -/
theorem flatMap_routersAtLevel (hb : t.Built table) :
    (List.range t.tree.layout.numLevels).flatMap t.routersAtLevel = t.routers := by
  rw [flatMap_range_routersAtLevel (Nat.le_refl _), Layout.first_numLevels, ← hb.numRouters_eq,
    numRouters, List.take_length]

/-- **The routers of a built tree come in the blocks of their levels.** -/
theorem partitionsRouters (hb : t.Built table) : t.PartitionsRouters where
  map_id := hb.map_id
  routersAtLevel_eq := hb.routersAtLevel_eq
  in_range := by
    intro level first count hfirst hcount
    obtain ⟨hlevel, rfl, rfl⟩ := Layout.eq_first_and_count hfirst hcount
    rw [hb.numRouters_eq, ← Layout.first_numLevels, ← Layout.first_succ]
    exact Layout.first_mono _ hlevel
  flatMap_routersAtLevel := hb.flatMap_routersAtLevel

end Built

end Topology

/-! ### All layouts and all builds -/

/-- **Levels are blocks of numbers** in every layout of a shape, and in every tree that was built,
whatever was done with the builder before. -/
theorem Builder.levels_partition :
    (∀ (s : Shape) (hosts : Nat) (l : Layout), s.layout hosts = .ok l → l.PartitionsIds) ∧
    ∀ (o : TreeOptions) (calls : List Call) (t : Topology) (b : Builder),
      ((new o).run calls).build = .ok (t, b) → t.PartitionsRouters :=
  ⟨fun _ _ l _ => l.partitionsIds,
    fun o calls _ _ h => ((sound_run o calls).built_of_build h).partitionsRouters⟩

/-- Three levels, two of them with two routers. -/
theorem Builder.levels_partition_three_levels :
    (∃ l : Layout, (⟨[2, 1, 2], by decide, by decide⟩ : Shape).layout 4 = .ok l ∧
      l.counts = [2, 2, 1] ∧ l.PartitionsIds) ∧
    ∃ t b, ((new {}).run [.configure ⟨[2, 1, 2], by decide, by decide⟩ 4 ["a", "b", "c", "d"],
        .getLink "d" "a"]).build = .ok (t, b) ∧ t.PartitionsRouters := by
  constructor
  · have hl : (⟨[2, 1, 2], by decide, by decide⟩ : Shape).layout 4 =
        .ok ⟨[2, 2, 1], [0, 2, 4], rfl, rfl⟩ := by decide
    exact ⟨_, hl, rfl, levels_partition.1 _ _ _ hl⟩
  · obtain ⟨⟨t, b⟩, h⟩ := exists_ok_of_isSome
      (x := ((new {}).run [.configure ⟨[2, 1, 2], by decide, by decide⟩ 4 ["a", "b", "c", "d"],
        .getLink "d" "a"]).build) (by decide +kernel)
    exact ⟨t, b, h, levels_partition.2 _ _ _ _ h⟩

end Interconnect
