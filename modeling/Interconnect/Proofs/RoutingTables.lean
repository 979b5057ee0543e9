/-
**The routing tables of built trees.**

A routing table is computed from the leaves up: the block of hosts below a router is put together
from the blocks below its ports.  In a built tree the block below a port is an interval whose length
is the capacity of the level, so the port for a host is found by dividing.  The rows are described
here by position, without blocks: which port a router chooses for an endpoint, and what the table
says about a port.

Main definitions:

* `Shape.block` — the hosts below the thing at an index of a height;
* `Tree.portTo` — the port for an endpoint at a position, by division;
* `Component.info` — what a table says about a port that leads to a component.

Main results:

* `Topology.Built.reach_eq` — the blocks that are computed are the intervals;
* `Topology.Built.nextPort_eq` — the port that a router chooses;
* `Topology.Built.portInfo_eq` — what the table says about a port;
* `Topology.Built.destRouter_host`, `Topology.Built.destRouter_memory` and the same for ports —
  where an endpoint is attached.
-/

import Interconnect.Proofs.BuiltTrees
import Interconnect.Routing

set_option autoImplicit false

namespace Interconnect

/-! ### Blocks -/

namespace Shape

/-- The hosts below the thing at an index of a height. -/
def block (s : Shape) (height index : Nat) : Block :=
  ⟨index * s.capacity height, (index + 1) * s.capacity height⟩

/-- Blocks of a height are told apart by division. -/
theorem contains_block {s : Shape} {height index host : Nat} :
    (s.block height index).contains host = true ↔ host / s.capacity height = index := by
  have hpos := s.capacity_pos height
  simp only [Block.contains, block, Bool.and_eq_true, decide_eq_true_eq, Nat.div_eq_iff hpos,
    Nat.succ_mul]
  omega

theorem div_capacity_succ (s : Shape) (height host : Nat) :
    host / s.capacity (height + 1) = host / s.capacity height / s.arity height := by
  rw [s.capacity_succ, Nat.div_div_eq_div_mul]

/-- Blocks side by side make one block of the next height. -/
theorem hull_blocks (s : Shape) (height index : Nat) :
    Block.hull ((List.range (s.arity height)).map fun port =>
        s.block height (index * s.arity height + port)) = s.block (height + 1) index := by
  -- the hull takes the start of the first block and the end of the last one
  obtain ⟨last, hlast⟩ := Nat.exists_eq_succ_of_ne_zero (Nat.ne_of_gt (s.arity_pos height))
  have hend : index * s.arity height + last + 1 = (index + 1) * s.arity height := by
    rw [hlast, Nat.succ_mul]
    omega
  have hhead : (List.range (s.arity height)).head? = some 0 := by
    rw [hlast, List.range_succ_eq_map, List.head?_cons]
  have hback : (List.range (s.arity height)).getLast? = some last := by
    rw [hlast, List.range_succ, List.getLast?_concat]
  unfold Block.hull
  rw [List.head?_map, List.getLast?_map, hhead, hback]
  simp only [Option.map_some, Option.getD_some, block, hend, Nat.add_zero, s.capacity_succ]
  rw [Nat.mul_assoc, Nat.mul_assoc, Nat.mul_comm (s.arity height)]

end Shape

namespace Tree

variable {t : Tree} {memoryName : String} {table : LinkTable} {level index : Nat} {r : Router}

/-! ### The blocks that are computed -/

/-- The hosts below the router at a position. -/
def blockAt (t : Tree) (p : Nat × Nat) : Block := t.shape.block (p.1 + 1) p.2

theorem Seated.blocks_eq (hs : t.Seated memoryName table level index r) {reach : List Block}
    (hreach : ∀ i low, level = low + 1 → i < t.shape.arity level →
      reach.getD (t.layout.idAt low (index * t.shape.arity level + i)) ⟨0, 0⟩ =
        t.shape.block level (index * t.shape.arity level + i)) :
    r.blocks reach = (List.range (t.shape.arity level)).map fun port =>
      t.shape.block level (index * t.shape.arity level + port) := by
  unfold Router.blocks
  rw [hs.downlinks_eq]
  cases level with
  | zero =>
      simp only [below, List.range'_eq_map_range, List.map_map]
      refine List.map_congr_left fun port _ => ?_
      simp [Shape.block]
  | succ low =>
      simp only [below, List.range'_eq_map_range, List.map_map]
      refine List.map_congr_left fun port hport => ?_
      have hport := hreach port low rfl (List.mem_range.1 hport)
      rwa [Layout.idAt, ← Nat.add_assoc] at hport

namespace WellFormed

/-- The block of a router whose position has come already. -/
theorem getD_blocks (hw : t.WellFormed) {ps qs : List (Nat × Nat)} (h : ps ++ qs = t.positions)
    {low i : Nat} (hi : i < t.layout.count low) (hlt : t.layout.idAt low i < ps.length) :
    (ps.map t.blockAt).getD (t.layout.idAt low i) ⟨0, 0⟩ = t.shape.block (low + 1) i := by
  have hnth := hw.positions_getElem? hi
  rw [← h, List.getElem?_append_left hlt] at hnth
  rw [List.getD_eq_getElem?_getD, List.getElem?_map, hnth]
  rfl

/-- **The blocks are computed in the order of the positions.**  Those of the positions `ps` are
there, and the routers stand on the rest. -/
theorem reachFrom_eq (hw : t.WellFormed) {ps qs : List (Nat × Nat)} {rs : List Router}
    (h : ps ++ qs = t.positions)
    (hs : List.Forall₂ (fun p r => t.Seated memoryName table p.1 p.2 r) qs rs) :
    Topology.reachFrom (ps.map t.blockAt) rs = t.positions.map t.blockAt := by
  induction hs generalizing ps with
  | nil => rw [← h, List.append_nil, Topology.reachFrom]
  | @cons q r qs rs hq _ ih =>
      obtain ⟨level, index⟩ := q
      have hnth : t.positions[ps.length]? = some (level, index) := by
        rw [← h, List.getElem?_append_right (Nat.le_refl _), Nat.sub_self, List.getElem?_cons_zero]
      have hid := hw.idAt_of_positions_getElem? hnth
      have hindex := (mem_positions.1 (List.mem_of_getElem? hnth)).2
      have hnext : ps.map t.blockAt ++ [Block.hull (r.blocks (ps.map t.blockAt))] =
          (ps ++ [(level, index)]).map t.blockAt := by
        rw [hq.blocks_eq, Shape.hull_blocks, List.map_append, List.map_singleton]
        · rfl
        · -- children stand on the level before, so their positions have come already
          rintro i low rfl hi
          have hchild := hw.balanced.child_lt hindex hi
          refine hw.getD_blocks h hchild ?_
          rw [← hid]
          exact Layout.idAt_lt_idAt hchild (Nat.lt_succ_self low) index
      rw [Topology.reachFrom, hnext]
      exact ih (by rw [List.append_assoc, List.singleton_append, h])

end WellFormed

/-! ### The port for an endpoint -/

/-- The port on which the router at a position sends to an endpoint: down to the block that has it,
and up if there is none. -/
def portTo (t : Tree) (level index dest : Nat) : Nat :=
  if dest / t.shape.capacity (level + 1) = index then
    dest / t.shape.capacity level % t.shape.arity level
  else t.shape.arity level

theorem portTo_of_eq {dest : Nat} (h : dest / t.shape.capacity (level + 1) = index) :
    t.portTo level index dest = dest / t.shape.capacity level % t.shape.arity level := if_pos h

theorem portTo_of_ne {dest : Nat} (h : dest / t.shape.capacity (level + 1) ≠ index) :
    t.portTo level index dest = t.shape.arity level := if_neg h

theorem portTo_le (t : Tree) (level index dest : Nat) :
    t.portTo level index dest ≤ t.shape.arity level := by
  unfold portTo
  split
  · exact Nat.le_of_lt (Nat.mod_lt _ (t.shape.arity_pos level))
  · exact Nat.le_refl _

/-- **The first block that has an endpoint** is found by dividing. -/
theorem Seated.portFor_eq (hs : t.Seated memoryName table level index r) (dest : Nat) :
    r.portFor ((List.range (t.shape.arity level)).map fun port =>
        t.shape.block level (index * t.shape.arity level + port)) dest =
      t.portTo level index dest := by
  have hmod := Nat.mod_lt (dest / t.shape.capacity level) (t.shape.arity_pos level)
  unfold Router.portFor
  by_cases h : dest / t.shape.capacity (level + 1) = index
  · have hport : dest / t.shape.capacity level =
        index * t.shape.arity level + dest / t.shape.capacity level % t.shape.arity level := by
      rw [← h, Shape.div_capacity_succ, Nat.div_add_mod']
    -- the block at the remainder has the endpoint, and no block before it does
    rw [portTo_of_eq h, List.findIdx?_eq_some_iff_getElem.2, Option.getD_some]
    refine ⟨by rwa [List.length_map, List.length_range], ?_, fun port hlt => ?_⟩
    · rw [List.getElem_map, List.getElem_range, Shape.contains_block]
      exact hport
    · rw [List.getElem_map, List.getElem_range, Shape.contains_block]
      omega
  · rw [portTo_of_ne h, List.findIdx?_eq_none_iff.2, Option.getD_none, hs.uplinkPort_eq]
    intro block hblock
    obtain ⟨port, hport, rfl⟩ := List.mem_map.1 hblock
    rw [Bool.eq_false_iff]
    intro hcontains
    rw [Shape.contains_block] at hcontains
    rw [Shape.div_capacity_succ, hcontains, Layout.Balanced.child_div (List.mem_range.1 hport)] at h
    exact h rfl

end Tree

/-! ### What is on a port -/

/-- What a table says about a port that leads to a component. -/
def Component.info (memoryId : Nat) : Component → PortInfo
  | host id => ⟨.routerToNode, some id, none⟩
  | router id => ⟨.routerToRouter, none, some id⟩
  | memory => ⟨.routerToNode, some memoryId, none⟩

namespace Tree

variable {t : Tree} {memoryName : String} {table : LinkTable} {level index : Nat} {r : Router}

/-- A port that leads down has the state of the level. -/
theorem Seated.portState?_of_lt (hs : t.Seated memoryName table level index r) {port : Nat}
    (h : port < t.shape.arity level) :
    r.portState? port = some (if level = 0 then .routerToNode else .routerToRouter) := by
  have hnum : ¬ r.numPorts ≤ port := by rw [hs.numPorts_eq]; omega
  have hne : port ≠ r.uplinkPort := by rw [hs.uplinkPort_eq]; omega
  unfold Router.portState?
  rw [if_neg hnum]
  by_cases hl : level = 0 <;> simp [hne, Router.isLeaf, hs.level_eq, hl]

theorem Seated.portState?_arity (hs : t.Seated memoryName table level index r) :
    r.portState? (t.shape.arity level) =
      some (if t.above level index = .memory then .routerToNode else .routerToRouter) := by
  have hnum : ¬ r.numPorts ≤ t.shape.arity level := by rw [hs.numPorts_eq]; omega
  unfold Router.portState?
  rw [if_neg hnum]
  by_cases hm : t.above level index = .memory <;>
    simp [hs.uplinkPort_eq, Router.isRoot, hs.uplink_eq, hm]

/-- **What the table says about a port** is what the port leads to. -/
theorem Seated.portInfo_eq (hs : t.Seated memoryName table level index r) (memoryId : Nat)
    {port : Nat} (h : port ≤ t.shape.arity level) :
    r.portInfo memoryId port = (t.facing level index port).info memoryId := by
  have hup := hs.uplinkPort_eq
  unfold Router.portInfo
  rcases Nat.lt_or_eq_of_le h with hlt | rfl
  · have hne : port ≠ r.uplinkPort := by omega
    rw [hs.portState?_of_lt hlt, hs.downlinks_eq, facing_of_lt hlt]
    cases level with
    | zero => cases r.uplink <;> simp [below, under, Component.info, hne, hlt]
    | succ low =>
        cases r.uplink <;>
          simp [below, under, Component.info, hne, hlt, Layout.idAt, Nat.add_assoc]
  · rw [hs.portState?_arity, hs.uplink_eq, hs.downlinks_eq, facing_arity]
    cases t.above level index with
    | router parent => simp [Uplink.component, Component.info, hup]
    | memory => cases level <;> simp [below, Uplink.component, Component.info, hup]

/-- A row has an entry for every port. -/
theorem Seated.length_ports_routes (hs : t.Seated memoryName table level index r) (memoryId : Nat)
    (reach : List Block) : (r.routes memoryId reach).ports.length = t.shape.arity level + 1 := by
  simp only [Router.routes]
  rw [List.length_map, List.length_range, hs.numPorts_eq]

end Tree

/-! ### Queries -/

/-- The entries of a table are those of the ports of the routers. -/
theorem Topology.portInfo_eq_ok_iff {t : Topology} {id port : Nat} {info : PortInfo} :
    t.routingTable.portInfo id port = .ok info ↔
      ∃ r, t.router? id = some r ∧ port < r.numPorts ∧ info = r.portInfo t.numHosts port := by
  unfold RoutingTable.portInfo RoutingTable.routes routingTable router?
  rw [List.getElem?_map]
  cases t.routers[id]? with
  | none => simp [bind, Except.bind]
  | some r =>
      simp only [Option.map_some, bind, Except.bind, Router.routes, List.getElem?_map]
      rcases Nat.lt_or_ge port r.numPorts with hlt | hge
      · simp [hlt, pure, Except.pure, eq_comm]
      · simp [Nat.not_lt.2 hge, throw, throwThe, MonadExceptOf.throw]

namespace Topology.Built

open Interconnect.Tree

variable {t : Topology} {table : LinkTable} {level index : Nat}

/-- **The blocks that are computed** are the intervals of the positions. -/
theorem reach_eq (hb : t.Built table) : t.reach = t.tree.positions.map t.tree.blockAt := by
  have h : [] ++ t.tree.positions = t.tree.positions := List.nil_append _
  exact hb.wellFormed.reachFrom_eq h hb.seated

/-- The blocks below the ports at a position. -/
theorem blocks_eq (hb : t.Built table) (h : index < t.tree.layout.count level) {r : Router}
    (hs : t.tree.Seated t.memoryName table level index r) :
    r.blocks t.reach = (List.range (t.tree.shape.arity level)).map fun port =>
      t.tree.shape.block level (index * t.tree.shape.arity level + port) := by
  have hw := hb.wellFormed
  rw [hb.reach_eq]
  refine hs.blocks_eq ?_
  rintro i low rfl hi
  have hchild := hw.balanced.child_lt h hi
  have hlt := (List.getElem?_eq_some_iff.1 (hw.positions_getElem? hchild)).1
  exact hw.getD_blocks (List.append_nil _) hchild hlt

/-- The row of the router at a position. -/
theorem exists_routes (hb : t.Built table) (h : index < t.tree.layout.count level) :
    ∃ r, t.tree.Seated t.memoryName table level index r ∧
      t.routingTable.routes (t.tree.layout.idAt level index) =
        .ok (r.routes t.numHosts t.reach) := by
  obtain ⟨r, hr, hs⟩ := hb.exists_seated h
  refine ⟨r, hs, ?_⟩
  unfold RoutingTable.routes routingTable
  rw [router?] at hr
  simp only [List.getElem?_map, hr, Option.map_some]

theorem memoryEndpoint_eq (t : Topology) : t.routingTable.memoryEndpoint = t.numHosts := rfl

theorem checkDest_eq {dest : Nat} (h : dest ≤ t.numHosts) :
    t.routingTable.checkDest dest = .ok () := if_pos (Nat.lt_succ_of_le h)

/-- **The port that a router chooses** is found by dividing. -/
theorem nextPort_eq (hb : t.Built table) (h : index < t.tree.layout.count level) {dest : Nat}
    (hdest : dest ≤ t.numHosts) :
    t.routingTable.nextPort (t.tree.layout.idAt level index) dest =
      .ok (t.tree.portTo level index dest) := by
  obtain ⟨r, hs, hrow⟩ := hb.exists_routes h
  have hnth : (r.routes t.numHosts t.reach).nextPort[dest]? =
      some (t.tree.portTo level index dest) := by
    simp only [Router.routes]
    rw [List.getElem?_map, List.getElem?_range (by omega), Option.map_some, hb.blocks_eq h hs,
      hs.portFor_eq]
  unfold RoutingTable.nextPort
  refine bind_eq_ok_iff.2 ⟨(), checkDest_eq hdest, bind_eq_ok_iff.2 ⟨_, hrow, ?_⟩⟩
  rw [hnth]
  rfl

theorem portInfo_eq (hb : t.Built table) (h : index < t.tree.layout.count level) {port : Nat}
    (hport : port ≤ t.tree.shape.arity level) :
    t.routingTable.portInfo (t.tree.layout.idAt level index) port =
      .ok ((t.tree.facing level index port).info t.numHosts) := by
  obtain ⟨r, hr, hs⟩ := hb.exists_seated h
  have hlt : port < r.numPorts := by rw [hs.numPorts_eq]; omega
  exact portInfo_eq_ok_iff.2 ⟨r, hr, hlt, (hs.portInfo_eq _ hport).symm⟩

/-- A port that leads to a router is known as such, with the number of the router. -/
theorem neighbor_eq (hb : t.Built table) (h : index < t.tree.layout.count level) {port id : Nat}
    (hport : port ≤ t.tree.shape.arity level)
    (hface : t.tree.facing level index port = .router id) :
    t.routingTable.portState (t.tree.layout.idAt level index) port = .ok .routerToRouter ∧
      t.routingTable.neighbor (t.tree.layout.idAt level index) port = .ok id := by
  have hinfo := hb.portInfo_eq h hport
  rw [hface] at hinfo
  refine ⟨by rw [RoutingTable.portState, hinfo]; rfl, ?_⟩
  exact bind_eq_ok_iff.2 ⟨_, hinfo, rfl⟩

/-! ### Where endpoints are attached -/

theorem destRouter_host {host : Nat} (h : host < t.numHosts) :
    t.routingTable.destRouter host = .ok (host / t.tree.shape.arity 0) := by
  refine bind_eq_ok_iff.2 ⟨(), checkDest_eq (Nat.le_of_lt h), ?_⟩
  rw [memoryEndpoint_eq, if_neg (Nat.ne_of_lt h), ← Shape.hostsPerLeaf_eq]
  rfl

theorem destRouter_memory (t : Topology) :
    t.routingTable.destRouter t.numHosts = .ok t.tree.layout.rootId :=
  bind_eq_ok_iff.2 ⟨(), checkDest_eq (Nat.le_refl _), if_pos rfl⟩

theorem destLocalPort_host {host : Nat} (h : host < t.numHosts) :
    t.routingTable.destLocalPort host = .ok (host % t.tree.shape.arity 0) := by
  refine bind_eq_ok_iff.2 ⟨(), checkDest_eq (Nat.le_of_lt h), ?_⟩
  rw [memoryEndpoint_eq, if_neg (Nat.ne_of_lt h), ← Shape.hostsPerLeaf_eq]
  rfl

theorem destLocalPort_memory (hb : t.Built table) (h : index < t.tree.layout.count level)
    (htop : level + 1 = t.tree.shape.numLevels) :
    t.routingTable.destLocalPort t.numHosts = .ok (t.tree.shape.arity level) := by
  obtain ⟨r, hs, hrow⟩ := hb.exists_routes h
  have hroot : t.tree.layout.idAt level index = t.routingTable.root :=
    (hb.wellFormed.idAt_eq_rootId_iff h).2 htop
  have hports : (r.routes t.numHosts t.reach).ports.length - 1 = t.tree.shape.arity level := by
    rw [hs.length_ports_routes, Nat.add_sub_cancel]
  rw [hroot] at hrow
  refine bind_eq_ok_iff.2 ⟨(), checkDest_eq (Nat.le_refl _), ?_⟩
  rw [memoryEndpoint_eq, if_pos rfl, ← hports]
  exact bind_eq_ok_iff.2 ⟨_, hrow, rfl⟩

end Topology.Built

end Interconnect
