/-
**Why building fails.**

Building looks up places, fan-outs and names of hosts, and connects pairs of endpoints, any of which
could fail.  After any calls only the last can: a configured builder builds its tree if no two
different pairs have one link name, among those that are linked already and those of the edges of
the tree, and otherwise it refuses two such pairs.  Everything that is looked up is there, whether
or not the build succeeds.

Main definitions:

* `Builder.BuildsUnlessClash` — what building a configured builder does.

Main results:

* `Builder.Sound.unambiguous_of_build` — the pairs of a successful build are unambiguous;
* `Tree.WellFormed.exists_wires` — every router of the tree has its place and its wires;
* `Builder.buildsUnlessClash_run` — building after any calls.
-/

import Interconnect.Proofs.Connections

set_option autoImplicit false

namespace Interconnect

open EndpointPair

/-! ### What is looked up -/

/-- **Every router of the tree has its place and its wires**, one for each port. -/
theorem Tree.WellFormed.exists_wires {t : Tree} (hw : t.WellFormed) (o : TreeOptions) {id : Nat}
    (h : id < t.layout.totalRouters) :
    ∃ place ws, t.place id = .ok place ∧ t.wires o id place = .ok ws ∧
      ws.length = place.fanout + 1 := by
  obtain ⟨level, index, hindex, rfl⟩ := Layout.exists_idAt_of_lt_totalRouters h
  refine ⟨_, _, hw.place_idAt hindex, hw.wires_idAt o hindex, ?_⟩
  rw [components_eq_map_facing, List.length_map, List.length_map, List.length_range]

namespace Builder

/-! ### When building succeeds -/

/-- **The pairs of a successful build are unambiguous.** -/
theorem Sound.unambiguous_of_build {b b' : Builder} {t : Tree} {topology : Topology} (hb : b.Sound)
    (hstage : b.stage = .configured t) (h : b.build = .ok (topology, b')) :
    Unambiguous (b.pairs t) := by
  obtain ⟨rfl, hmemory⟩ := tree_eq_of_build hstage h
  have hbuilt := hb.built_of_build h
  -- the links that were there are kept, and the build has linked the edges
  have hkept : b.links.links.map Link.endpoints ⊆ b'.links.links.map Link.endpoints :=
    ((hb.extends_step (step_of_build h)).links.map _).subset
  have hedges : topology.tree.edges b.options.memoryName ⊆ b'.links.links.map Link.endpoints := by
    rw [← hmemory]
    exact hbuilt.edges_subset
  exact hbuilt.consistent.unambiguous.subset (List.append_subset.2 ⟨hkept, hedges⟩)

/-- A configured builder builds its tree unless two different pairs have one link name: the pairs
that are linked already, and the different pairs of every host with its leaf router, every router
with its parent and the root with the memory.  Only two such pairs are refused; places, wires and
the links at the edge of the tree are there. -/
structure BuildsUnlessClash (b : Builder) (t : Tree) : Prop where
  length_edges : (t.edges b.options.memoryName).length = t.hostNames.length + t.layout.totalRouters
  edges_nodup : (t.edges b.options.memoryName).Nodup
  exists_ok_iff : (∃ topology b', b.build = .ok (topology, b')) ↔ Unambiguous (b.pairs t)
  error : ∀ e, b.build = .error e →
    ∃ clash, e = .configuration (.linkName clash) ∧ clash.IsAmong (b.pairs t)
  wires : ∀ id < t.layout.totalRouters, ∃ place ws, t.place id = .ok place ∧
    t.wires b.options id place = .ok ws ∧ ws.length = place.fanout + 1
  hostLinks : ∀ topology b', b.build = .ok (topology, b') → ∀ host < t.hostNames.length,
    ∃ id, topology.hostLinks[host]? = some id ∧
      topology.Binds id (host / t.shape.hostsPerLeaf, host % t.shape.hostsPerLeaf)
  memoryLink : ∀ topology b', b.build = .ok (topology, b') → ∃ root, topology.root? = some root ∧
    root.linkOnPort? root.uplinkPort = some topology.memoryLink

theorem Sound.buildsUnlessClash {b : Builder} {t : Tree} (hb : b.Sound)
    (hstage : b.stage = .configured t) : b.BuildsUnlessClash t := by
  have htree : b.tree? = some t := by rw [tree?, hstage]
  have hw := hb.wellFormed htree
  constructor
  case length_edges => rw [Tree.length_edges, hw.length_positions]
  case edges_nodup => exact hw.edges_nodup (hb.named htree)
  case exists_ok_iff =>
    constructor
    · rintro ⟨topology, b', h⟩
      exact hb.unambiguous_of_build hstage h
    · exact hb.exists_build hstage
  case error => exact fun e h => hb.isAmong_of_build hstage h
  case wires => exact fun id hid => hw.exists_wires b.options hid
  case hostLinks =>
    intro topology b' h host hhost
    obtain ⟨rfl, -⟩ := tree_eq_of_build hstage h
    obtain ⟨link, -, hlink, hbinds, -⟩ := (hb.built_of_build h).exists_hostLink hhost
    exact ⟨link.id, hlink, hbinds⟩
  case memoryLink =>
    intro topology b' h
    obtain ⟨root, hroot, link, -, hport, hlink, -⟩ := (hb.built_of_build h).exists_memoryLink
    exact ⟨root, hroot, by rw [hport, hlink]⟩

/-- **Building after any calls** fails only for two different pairs with one link name, and exactly
then. -/
theorem buildsUnlessClash_run (o : TreeOptions) (calls : List Call) {t : Tree}
    (hstage : ((new o).run calls).stage = .configured t) :
    ((new o).run calls).BuildsUnlessClash t :=
  (sound_run o calls).buildsUnlessClash hstage

/-- A link between two hosts that was asked for early takes the name of the link of a third one. -/
theorem buildsUnlessClash_run_early_link :
    let b := (new {}).run [.configure ⟨[3, 1], by decide, by decide⟩ 3 ["a", "a_b", "b_rtr_0"],
      .getLink "b_rtr_0" "a"]
    ∃ t, b.stage = .configured t ∧ b.BuildsUnlessClash t ∧
      b.build = .error (.configuration (.linkName ⟨⟨"a_b", "rtr_0"⟩, ⟨"a", "b_rtr_0"⟩⟩)) := by
  have hstage : ((new {}).run [.configure ⟨[3, 1], by decide, by decide⟩ 3
      ["a", "a_b", "b_rtr_0"], .getLink "b_rtr_0" "a"]).stage =
        .configured ⟨⟨[3, 1], by decide, by decide⟩, ⟨[1, 1], [0, 1], by decide, rfl⟩,
          ["a", "a_b", "b_rtr_0"]⟩ := by
    decide +kernel
  exact ⟨_, hstage, buildsUnlessClash_run _ _ hstage, by decide +kernel⟩

end Builder

end Interconnect
