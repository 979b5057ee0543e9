/-
**Built trees.**

A successful build of a builder, whatever was done with it before, produces a router on every
position of the tree that was configured, with a link on every port.  All theorems about topologies
start from this description; how the routers were made plays no role in them.

Main definitions:

* `Topology.Built` — what a successful build produces;
* `Builder.pairs` — the pairs that a build needs and those that are linked before it.

Main results:

* `Builder.Sound.built_of_build` — every successful build produces it;
* `Builder.Sound.exists_build`, `Builder.Sound.isAmong_of_build` — building fails only for a name
  that two links would have;
* `Topology.Built.exists_seated`, `Topology.Built.exists_position` — routers and positions
  correspond one to one.
-/

import Interconnect.Proofs.Calls

set_option autoImplicit false

namespace Interconnect

open EndpointPair

/-! ### What a build produces -/

/-- What a successful build produces: a well-formed tree with different names, a router on every
position with its ports connected in the table of links, the links that are on the ports, and among
them those to the hosts and to the memory. -/
structure Topology.Built (t : Topology) (table : LinkTable) : Prop where
  wellFormed : t.tree.WellFormed
  named : t.tree.Named t.memoryName
  consistent : table.Consistent
  seated : List.Forall₂ (fun p r => t.tree.Seated t.memoryName table p.1 p.2 r)
    t.tree.positions t.routers
  links_eq : t.links = table.restrict (t.routers.flatMap Router.ports)
  hostLinks_eq : t.tree.hostLinks t.routers = .ok t.hostLinks
  memoryLink_eq : t.tree.memoryLink t.routers = .ok t.memoryLink

namespace Builder

theorem Sound.balanced {b : Builder} (hb : b.Sound) {t : Tree} (ht : b.tree? = some t) :
    t.layout.Balanced t.shape t.hostNames.length := by
  obtain ⟨-, -, -, hlayout, -⟩ := plan_eq_ok_iff.1 (hb.planned t ht)
  exact Shape.balanced_of_layout hlayout

theorem Sound.wellFormed {b : Builder} (hb : b.Sound) {t : Tree} (ht : b.tree? = some t) :
    t.WellFormed := ⟨hb.balanced ht⟩

theorem Sound.named {b : Builder} (hb : b.Sound) {t : Tree} (ht : b.tree? = some t) :
    t.Named b.options.memoryName := by
  obtain ⟨-, -, -, -, hnamed⟩ := plan_eq_ok_iff.1 (hb.planned t ht)
  exact hnamed

/-- The builder keeps the tree and the names of the topology that it has built. -/
theorem tree?_of_build {b b' : Builder} {topology : Topology} (h : b.build = .ok (topology, b')) :
    b'.tree? = some topology.tree ∧ b'.options.memoryName = topology.memoryName := by
  obtain ⟨t, -, hb', -, -, -, htopology⟩ := build_spec h
  rw [htopology, hb']
  exact ⟨rfl, rfl⟩

/-- The tree of the topology that a configured builder builds is the one that was configured. -/
theorem tree_eq_of_build {b b' : Builder} {t : Tree} {topology : Topology}
    (hstage : b.stage = .configured t) (h : b.build = .ok (topology, b')) :
    topology.tree = t ∧ topology.memoryName = b.options.memoryName := by
  obtain ⟨t', hstage', -, -, -, -, htopology⟩ := build_spec h
  cases hstage.symm.trans hstage'
  rw [htopology]
  exact ⟨rfl, rfl⟩

/-- **What every successful build of a sound builder produces.** -/
theorem Sound.built_of_build {b b' : Builder} {topology : Topology} (hb : b.Sound)
    (h : b.build = .ok (topology, b')) : topology.Built b'.links := by
  obtain ⟨t, hstage, -, hroute, hhosts, hmemoryLink, htopology⟩ := build_spec h
  have htree : b.tree? = some t := by rw [tree?, hstage]
  obtain ⟨htree', hmemory⟩ := tree_eq_of_build hstage h
  have hw : t.WellFormed := hb.wellFormed htree
  constructor
  · rwa [htree']
  · rw [htree', hmemory]
    exact hb.named htree
  · exact (Tree.wireRouters_spec hb.links hroute).1.consistent hb.links
  · rw [htree', hmemory]
    exact hw.seated_of_wireRouters hb.links hroute
  · rw [htopology]
  · rwa [htree']
  · rwa [htree']

/-- The pairs that are linked already and the edges of a tree. -/
def pairs (b : Builder) (t : Tree) : List EndpointPair :=
  b.links.links.map Link.endpoints ++ t.edges b.options.memoryName

theorem endpoints_mem_pairs {b : Builder} {l : Link} (h : l ∈ b.links.links) (t : Tree) :
    l.endpoints ∈ b.pairs t :=
  List.mem_append_left _ (List.mem_map_of_mem h)

theorem edges_subset_pairs (b : Builder) (t : Tree) :
    t.edges b.options.memoryName ⊆ b.pairs t :=
  List.subset_append_right _ _

/-- **Building a configured tree fails** only for two of its pairs that have one link name. -/
theorem Sound.isAmong_of_build {b : Builder} (hb : b.Sound) {t : Tree}
    (hstage : b.stage = .configured t) {e : TreeError} (h : b.build = .error e) :
    ∃ clash, e = .configuration (.linkName clash) ∧ clash.IsAmong (b.pairs t) := by
  have hw := hb.wellFormed (by rw [tree?, hstage])
  unfold Builder.build at h
  rw [hstage] at h
  rcases bind_eq_error_iff.1 h with hroute | ⟨⟨routers, links⟩, hroute, h⟩
  · exact hw.isAmong_of_wireRouters hb.links (fun _ hl => endpoints_mem_pairs hl t)
      (b.edges_subset_pairs t) (fun id hid => List.mem_range.1 hid) hroute
  · -- the routers were made, so the links to the hosts and to the memory are on their ports
    have hseated := hw.seated_of_wireRouters hb.links hroute
    obtain ⟨hostLinks, hhosts⟩ := hw.exists_hostLinks hseated
    obtain ⟨memoryLink, hmemory⟩ := hw.exists_memoryLink hseated
    rcases bind_eq_error_iff.1 h with herror | ⟨_, -, h⟩
    · cases hhosts.symm.trans herror
    rcases bind_eq_error_iff.1 h with herror | ⟨_, -, h⟩
    · cases hmemory.symm.trans herror
    · cases h

/-- **Building succeeds** if the pairs that are linked already and the edges of the tree are
unambiguous. -/
theorem Sound.exists_build {b : Builder} (hb : b.Sound) {t : Tree}
    (hstage : b.stage = .configured t) (hu : Unambiguous (b.pairs t)) :
    ∃ topology b', b.build = .ok (topology, b') := by
  cases h : b.build with
  | ok r => exact ⟨r.1, r.2, rfl⟩
  | error e =>
      obtain ⟨clash, -, hclash⟩ := hb.isAmong_of_build hstage h
      exact absurd hu hclash.not_unambiguous

end Builder

/-! ### Routers and positions -/

namespace Topology.Built

variable {t : Topology} {table : LinkTable}

theorem numRouters_eq (hb : t.Built table) : t.numRouters = t.tree.layout.counts.sum := by
  rw [numRouters, ← hb.seated.length_eq, hb.wellFormed.length_positions,
    Layout.totalRouters_eq]

theorem idAt_lt_numRouters (hb : t.Built table) {level index : Nat}
    (h : index < t.tree.layout.count level) : t.tree.layout.idAt level index < t.numRouters := by
  rw [hb.numRouters_eq]
  exact Layout.idAt_lt h

/-- Every number of a router is that of a position. -/
theorem exists_position_of_lt (hb : t.Built table) {id : Nat} (h : id < t.numRouters) :
    ∃ level index, index < t.tree.layout.count level ∧ t.tree.layout.idAt level index = id :=
  Layout.exists_idAt (hb.numRouters_eq ▸ h)

/-- There is a router on every position. -/
theorem exists_seated (hb : t.Built table) {level index : Nat}
    (h : index < t.tree.layout.count level) :
    ∃ r, t.router? (t.tree.layout.idAt level index) = some r ∧
      t.tree.Seated t.memoryName table level index r :=
  exists_getElem?_of_forall₂ hb.seated (hb.wellFormed.positions_getElem? h)

/-- Every router stands on a position. -/
theorem exists_position (hb : t.Built table) {id : Nat} {r : Router} (h : t.router? id = some r) :
    ∃ level index, index < t.tree.layout.count level ∧ t.tree.layout.idAt level index = id ∧
      t.tree.Seated t.memoryName table level index r := by
  have hlt : id < t.numRouters := (List.getElem?_eq_some_iff.1 h).1
  obtain ⟨level, index, hindex, rfl⟩ := hb.exists_position_of_lt hlt
  obtain ⟨r', hr', hseated⟩ := hb.exists_seated hindex
  rw [h] at hr'
  cases hr'
  exact ⟨level, index, hindex, rfl, hseated⟩

theorem id_eq (hb : t.Built table) {id : Nat} {r : Router} (h : t.router? id = some r) :
    r.id = id := by
  obtain ⟨level, index, -, rfl, hseated⟩ := hb.exists_position h
  exact hseated.id_eq

theorem name_eq_routerName (hb : t.Built table) {id : Nat} {r : Router}
    (h : t.router? id = some r) : r.name = routerName id := by
  obtain ⟨level, index, -, rfl, hseated⟩ := hb.exists_position h
  exact hseated.name_eq

theorem router?_id (hb : t.Built table) {r : Router} (h : r ∈ t.routers) :
    t.router? r.id = some r := by
  obtain ⟨id, hid⟩ := List.mem_iff_getElem?.1 h
  rwa [hb.id_eq (show t.router? id = some r from hid)]

/-- A router of the list stands on a position. -/
theorem exists_position_of_mem (hb : t.Built table) {r : Router} (h : r ∈ t.routers) :
    ∃ level index, index < t.tree.layout.count level ∧
      t.tree.Seated t.memoryName table level index r := by
  obtain ⟨level, index, hindex, -, hseated⟩ := hb.exists_position (hb.router?_id h)
  exact ⟨level, index, hindex, hseated⟩

end Topology.Built

end Interconnect
