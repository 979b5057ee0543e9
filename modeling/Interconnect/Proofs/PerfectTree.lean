/-
**Built trees are perfect.**

The routers of a built tree are numbered level by level.  The things below the routers of a level,
read from left to right, are all hosts or all routers of the level before, each of them once, and
the level with the root has no other router.  What is below a router is computed from the left, and
what is above it by division; the two never disagree.

Main definitions:

* `Topology.routersOf` — the routers of a level;
* `Topology.IsBelow` — a component is on a port that leads down;
* `Topology.PerfectTree` — the routers make one perfect tree.

Main results:

* `Topology.Built.flatMap_hostIds`, `Topology.Built.flatMap_children` — the blocks below the routers
  of a level lie side by side;
* `Topology.Built.existsUnique_isBelow` — everything but the root is below one port;
* `Builder.perfectTree_of_build` — every successful build makes a perfect tree.
-/

import Interconnect.Proofs.BuiltTrees

set_option autoImplicit false

namespace Interconnect

/-! ### Perfect trees -/

namespace Topology

/-- The routers of a level, in the order of their numbers. -/
def routersOf (t : Topology) (level : Nat) : List Router :=
  t.routers.filter fun r => r.level == level

/-- A component is on a port that leads down, given by the number of its router and its own. -/
def IsBelow (t : Topology) (c : Component) (place : Nat × Nat) : Prop :=
  ∃ r, t.router? place.1 = some r ∧ r.downlinks.components[place.2]? = some c

/-- The routers of a topology make one perfect tree over its hosts. -/
structure PerfectTree (t : Topology) : Prop where
  numbered : ∀ id < t.numRouters, ∃ r, t.router? id = some r ∧ r.id = id ∧ r.name = routerName id
  level_eq : ∀ r ∈ t.routers, t.tree.layout.levelOf? r.id = some r.level
  numPorts_eq : ∀ r ∈ t.routers, ∃ fanout, t.tree.shape.fanout? r.level = some fanout ∧
    r.numPorts = fanout + 1 ∧ r.ports.length = fanout + 1
  hosts_iff : ∀ r ∈ t.routers, (∃ ids, r.downlinks = .hosts ids) ↔ r.level = 0
  flatMap_hostIds : (t.routersOf 0).flatMap (fun r => r.downlinks.hostIds) = List.range t.numHosts
  flatMap_children : ∀ level, level + 1 < t.tree.shape.numLevels →
    (t.routersOf (level + 1)).flatMap (fun r => r.downlinks.children) =
      (t.routersOf level).map Router.id
  one_port_host : ∀ host < t.numHosts, ∃! place, t.IsBelow (.host host) place
  one_port_router : ∀ id < t.numRouters, id ≠ t.tree.layout.rootId →
    ∃! place, t.IsBelow (.router id) place
  parent_iff : ∀ c ∈ t.routers, ∀ r ∈ t.routers,
    c.id ∈ r.downlinks.children ↔ c.uplink = .router r.id
  parent_above : ∀ c ∈ t.routers, ∀ r ∈ t.routers, c.uplink = .router r.id →
    r.level = c.level + 1 ∧ c.id < r.id
  rootId_eq : t.tree.layout.rootId = t.numRouters - 1
  root : ∃ root, t.router? t.tree.layout.rootId = some root ∧ ∀ r ∈ t.routers,
    (r.uplink = .memory ↔ r = root) ∧ (r.level + 1 = t.tree.shape.numLevels ↔ r = root)

end Topology

/-! ### Blocks side by side -/

/-- Blocks of one length that follow each other are one block. -/
theorem flatMap_range_range' (start length n : Nat) :
    (List.range n).flatMap (fun i => List.range' (start + i * length) length) =
      List.range' start (n * length) := by
  induction n with
  | zero => simp
  | succ n ih =>
      rw [List.range_succ, List.flatMap_append, ih, List.flatMap_singleton, List.range'_append_1,
        Nat.succ_mul]

/-- The positions on one level. -/
theorem Tree.filter_positions {t : Tree} {level : Nat} (h : level < t.shape.numLevels) :
    t.positions.filter (fun p => p.1 == level) =
      (List.range (t.layout.count level)).map fun index => (level, index) := by
  -- only the block of the level is left, and the levels are `level + 1 + rest`
  obtain ⟨rest, hrest⟩ := Nat.exists_eq_add_of_lt h
  have hblock : ∀ other,
      ((List.range (t.layout.count other)).map fun index => (other, index)).filter
        (fun p => p.1 == level) =
        if other = level then (List.range (t.layout.count other)).map fun index => (other, index)
        else [] := by
    intro other
    by_cases ho : other = level <;> simp [List.filter_map, Function.comp_def, ho]
  rw [positions, List.filter_flatMap, hrest, Nat.add_right_comm, List.range_add, List.range_succ]
  simp only [hblock, List.flatMap_append, List.flatMap_singleton, if_true]
  rw [List.flatMap_eq_nil_iff.2, List.flatMap_eq_nil_iff.2, List.nil_append, List.append_nil]
  · intro other hother
    obtain ⟨i, -, rfl⟩ := List.mem_map.1 hother
    exact if_neg (by omega)
  · intro other hother
    exact if_neg (by have := List.mem_range.1 hother; omega)

namespace Topology.Built

open Interconnect.Tree

variable {t : Topology} {table : LinkTable}

/-- The routers of a level stand on its positions, from left to right. -/
theorem seated_routersOf (hb : t.Built table) {level : Nat} (h : level < t.tree.shape.numLevels) :
    List.Forall₂ (fun index r => t.tree.Seated t.memoryName table level index r)
      (List.range (t.tree.layout.count level)) (t.routersOf level) := by
  have hfilter := List.rel_filter (p := fun p => p.1 == level) (q := fun r => r.level == level)
    (fun p r hs => by simp only [hs.level_eq]) hb.seated
  rw [filter_positions h, List.forall₂_map_left_iff] at hfilter
  exact hfilter

/-- What is read off the routers of a level can be read off its positions. -/
theorem map_routersOf (hb : t.Built table) {β : Type} {level : Nat} {f : Router → β} {g : Nat → β}
    (h : level < t.tree.shape.numLevels)
    (hfg : ∀ index r, t.tree.Seated t.memoryName table level index r → f r = g index) :
    (t.routersOf level).map f = (List.range (t.tree.layout.count level)).map g := by
  rw [← List.forall₂_eq_eq_eq, List.forall₂_map_left_iff, List.forall₂_map_right_iff]
  exact (hb.seated_routersOf h).flip.imp fun r index hs => hfg index r hs

/-- **The hosts below the leaf routers** are all hosts, from left to right. -/
theorem flatMap_hostIds (hb : t.Built table) :
    (t.routersOf 0).flatMap (fun r => r.downlinks.hostIds) = List.range t.numHosts := by
  have hmap := hb.map_routersOf t.tree.shape.numLevels_pos (f := fun r => r.downlinks.hostIds)
    (g := fun i => List.range' (0 + i * t.tree.shape.arity 0) (t.tree.shape.arity 0))
    (fun index r hs => by rw [hs.downlinks_eq, Nat.zero_add]; rfl)
  rw [List.flatMap_def, hmap, ← List.flatMap_def, flatMap_range_range',
    ← hb.wellFormed.balanced.hosts_eq, List.range_eq_range', numHosts]

/-- **The routers below the routers of a level** are all those of the level before, from left to
right. -/
theorem flatMap_children (hb : t.Built table) {level : Nat}
    (h : level + 1 < t.tree.shape.numLevels) :
    (t.routersOf (level + 1)).flatMap (fun r => r.downlinks.children) =
      (t.routersOf level).map Router.id := by
  have hmap := hb.map_routersOf h (f := fun r => r.downlinks.children)
    (g := fun i => List.range' (t.tree.layout.first level + i * t.tree.shape.arity (level + 1))
      (t.tree.shape.arity (level + 1)))
    (fun index r hs => by rw [hs.downlinks_eq]; rfl)
  have hids := hb.map_routersOf (Nat.lt_of_succ_lt h) (f := Router.id)
    (g := fun i => t.tree.layout.first level + i) (fun index r hs => hs.id_eq)
  rw [List.flatMap_def, hmap, ← List.flatMap_def, flatMap_range_range',
    ← hb.wellFormed.balanced.count_eq h, hids, List.range'_eq_map_range]

/-! ### One port for everything -/

/-- **Everything that is below a level is below one port.** -/
theorem existsUnique_isBelow (hb : t.Built table) {level i : Nat}
    (hlevel : level < t.tree.shape.numLevels) (hi : i < t.tree.numUnder level) :
    ∃! place, t.IsBelow (t.tree.under level i) place := by
  have hpos := t.tree.shape.arity_pos level
  have hindex := hb.wellFormed.div_lt hlevel hi
  obtain ⟨r, hr, hs⟩ := hb.exists_seated hindex
  refine ⟨(t.tree.layout.idAt level (i / t.tree.shape.arity level), i % t.tree.shape.arity level),
    ⟨r, hr, ?_⟩, ?_⟩
  · rw [hs.components_getElem?_eq_some_iff, Nat.div_add_mod']
    exact ⟨Nat.mod_lt i hpos, rfl⟩
  · rintro ⟨id, port⟩ ⟨r', hr', hface⟩
    obtain ⟨level', index', hindex', rfl, hs'⟩ := hb.exists_position hr'
    rw [hs'.components_getElem?_eq_some_iff] at hface
    obtain ⟨hport, hunder⟩ := hface
    obtain ⟨rfl, rfl⟩ :=
      under_inj hi (hb.wellFormed.under_lt hindex' hport) hunder
    rw [Layout.Balanced.child_div hport, Layout.Balanced.child_mod hport]

/-! ### The whole tree -/

theorem hosts_iff (hb : t.Built table) {r : Router} (h : r ∈ t.routers) :
    (∃ ids, r.downlinks = .hosts ids) ↔ r.level = 0 := by
  obtain ⟨level, index, -, hs⟩ := hb.exists_position_of_mem h
  rw [hs.downlinks_eq, hs.level_eq]
  cases level with
  | zero => exact ⟨fun _ => rfl, fun _ => ⟨_, rfl⟩⟩
  | succ low => exact ⟨nofun, fun he => absurd he (Nat.succ_ne_zero low)⟩

/-- The root is the one router under the memory, and the one on the top level. -/
theorem exists_root (hb : t.Built table) :
    ∃ root, t.root? = some root ∧ ∀ r ∈ t.routers,
      (r.uplink = .memory ↔ r = root) ∧ (r.level + 1 = t.tree.shape.numLevels ↔ r = root) := by
  have hw := hb.wellFormed
  have hid := hw.idAt_top
  obtain ⟨root, hroot, hs⟩ := hb.exists_seated hw.balanced.top_pos
  refine ⟨root, by rw [root?, ← hid, hroot], fun r hr => ?_⟩
  obtain ⟨level, index, hindex, hs'⟩ := hb.exists_position_of_mem hr
  have heq : r = root ↔ level + 1 = t.tree.shape.numLevels := by
    rw [← hw.idAt_eq_rootId_iff hindex, ← hid, ← hs'.id_eq, ← hs.id_eq]
    constructor
    · rintro rfl
      rfl
    · intro he
      have hsome := hb.router?_id hr
      rw [he, hs.id_eq, hroot, Option.some_inj] at hsome
      exact hsome.symm
  -- only the top level is under the memory
  rw [heq, hs'.level_eq, hs'.uplink_eq]
  refine ⟨⟨fun hup => ?_, fun he => above_top he index⟩, Iff.rfl⟩
  by_contra hne
  rw [above, if_neg hne] at hup
  cases hup

theorem rootId_eq (hb : t.Built table) : t.tree.layout.rootId = t.numRouters - 1 := by
  rw [Layout.rootId, Layout.totalRouters_eq, hb.numRouters_eq]

/-- **Built trees are perfect.** -/
theorem perfectTree (hb : t.Built table) : t.PerfectTree where
  numbered := by
    intro id hid
    obtain ⟨level, index, hindex, rfl⟩ := hb.exists_position_of_lt hid
    obtain ⟨r, hr, hs⟩ := hb.exists_seated hindex
    exact ⟨r, hr, hs.id_eq, hs.name_eq⟩
  level_eq := by
    intro r hr
    obtain ⟨level, index, hindex, hs⟩ := hb.exists_position_of_mem hr
    rw [hs.id_eq, hs.level_eq]
    exact Layout.levelOf?_idAt hindex
  numPorts_eq := by
    intro r hr
    obtain ⟨level, index, hindex, hs⟩ := hb.exists_position_of_mem hr
    refine ⟨t.tree.shape.arity level, ?_, hs.numPorts_eq, by rw [hs.length_ports, hs.numPorts_eq]⟩
    rw [hs.level_eq]
    exact Shape.fanout?_eq (hb.wellFormed.balanced.lt_numLevels hindex)
  hosts_iff := fun r hr => hb.hosts_iff hr
  flatMap_hostIds := hb.flatMap_hostIds
  flatMap_children := fun level h => hb.flatMap_children h
  one_port_host := fun host h => hb.existsUnique_isBelow t.tree.shape.numLevels_pos h
  one_port_router := by
    intro id hid hne
    obtain ⟨level, index, hindex, rfl⟩ := hb.exists_position_of_lt hid
    have hlt := hb.wellFormed.balanced.lt_numLevels hindex
    have htop := mt (hb.wellFormed.idAt_eq_rootId_iff hindex).2 hne
    have hunder : index < t.tree.numUnder (level + 1) := hindex
    exact hb.existsUnique_isBelow (by omega) hunder
  parent_iff := by
    intro c hc r hr
    obtain ⟨level, index, hindex, hs⟩ := hb.exists_position_of_mem hc
    obtain ⟨level', index', hindex', hs'⟩ := hb.exists_position_of_mem hr
    rw [hs.id_eq, hs.uplink_eq, hs'.id_eq, hs'.downlinks_eq]
    exact hb.wellFormed.mem_below_iff hindex hindex'
  parent_above := by
    intro c hc r hr hup
    obtain ⟨level, index, hindex, hs⟩ := hb.exists_position_of_mem hc
    obtain ⟨level', index', hindex', hs'⟩ := hb.exists_position_of_mem hr
    rw [hs.uplink_eq, hs'.id_eq] at hup
    rw [hs.id_eq, hs.level_eq, hs'.id_eq, hs'.level_eq]
    exact hb.wellFormed.above_eq_router hindex hindex' hup
  rootId_eq := hb.rootId_eq
  root := hb.exists_root

end Topology.Built

/-- **Every successful build makes one perfect tree**, whatever was done with the builder before. -/
theorem Builder.perfectTree_of_build (o : TreeOptions) (calls : List Call) {t : Topology}
    {b : Builder} (h : ((new o).run calls).build = .ok (t, b)) : t.PerfectTree :=
  ((sound_run o calls).built_of_build h).perfectTree

/-- Two levels, with a link between the memory and a host that the tree does not have. -/
theorem Builder.perfectTree_of_build_two_levels :
    ∃ t b, ((new {}).run [.configure ⟨[2, 2], by decide, by decide⟩ 4 ["a", "b", "c", "d"],
        .getLink "mem" "c", .getLink "rtr_2" "rtr_0"]).build = .ok (t, b) ∧
      t.PerfectTree := by
  obtain ⟨⟨t, b⟩, h⟩ := exists_ok_of_isSome
    (x := ((new {}).run [.configure ⟨[2, 2], by decide, by decide⟩ 4 ["a", "b", "c", "d"],
      .getLink "mem" "c", .getLink "rtr_2" "rtr_0"]).build) (by decide +kernel)
  exact ⟨t, b, h, perfectTree_of_build _ _ h⟩

end Interconnect
