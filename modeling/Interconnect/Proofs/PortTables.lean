/-
**What a routing table says about ports.**

The table has an entry for every port.  An entry is about an endpoint or about a router, never both
and never neither, and its state is the state of the port in the tree.  Looking an endpoint up in
the table is the inverse of reading the entries: the router and the port that are found by division
are those of the only entry with the endpoint.  Entries about routers come in pairs: the router on
the other side has one entry that leads back, and both ports have the same link.

In a tree with a single router the leaf is also the root, so the ports of one router lead to hosts
and to the memory.

Main definitions:

* `Topology.endpointAt` — the component with the number of an endpoint;
* `Topology.PortTables` — the entries of a table are inverse to the look-ups, and symmetric.

Main results:

* `Topology.Built.portInfo_eq_ok_iff` — the entries of a table by position;
* `Topology.Built.endpointId_eq_some_iff` — which ports have an endpoint;
* `Tree.WellFormed.facing_symm` — a port that leads to a router is faced by a port of that router;
* `Builder.portTables_of_build` — every successful build has such a table.
-/

import Interconnect.Proofs.Connections
import Interconnect.Proofs.RoutingTables

set_option autoImplicit false

namespace Interconnect

/-! ### The statement -/

namespace Topology

/-- The component with the number of an endpoint: the memory comes behind the hosts. -/
def endpointAt (t : Topology) (e : Nat) : Component :=
  if e = t.numHosts then .memory else .host e

/-- The entries of the routing table of a topology are inverse to the look-ups and symmetric. -/
structure PortTables (t : Topology) : Prop where
  defined : ∀ id port, (∃ info, t.routingTable.portInfo id port = .ok info) ↔
    ∃ r, t.router? id = some r ∧ port < r.numPorts
  entry : ∀ id port info, t.routingTable.portInfo id port = .ok info →
    (info.endpoint.isSome ↔ ¬ info.neighbor.isSome) ∧
      (info.state = .routerToNode ↔ info.endpoint.isSome) ∧
      ∃ r, t.router? id = some r ∧ r.portState? port = some info.state
  endpoint : ∀ e ≤ t.numHosts, ∃ id port, t.routingTable.destRouter e = .ok id ∧
    t.routingTable.destLocalPort e = .ok port ∧
    (∀ id' port', t.routingTable.endpointId id' port' = .ok (some e) ↔ id' = id ∧ port' = port) ∧
    ∃ r link name, t.router? id = some r ∧ r.linkOnPort? port = some link.id ∧
      t.link? link.id = some link ∧ t.tree.nameOf? t.memoryName (t.endpointAt e) = some name ∧
      link.endpoints = .of r.name name
  neighbor : ∀ id port id', t.routingTable.neighbor id port = .ok id' → ∃ back link,
    (∀ port', t.routingTable.neighbor id' port' = .ok id ↔ port' = back) ∧
      t.Binds link (id, port) ∧ t.Binds link (id', back)

end Topology

/-! ### What ports lead to -/

namespace Tree.WellFormed

variable {t : Tree} {level index port : Nat}

/-- A host is below one port. -/
theorem facing_eq_host_iff (hw : t.WellFormed) {host : Nat} (h : index < t.layout.count level)
    (hport : port ≤ t.shape.arity level) (hhost : host < t.hostNames.length) :
    t.facing level index port = .host host ↔
      level = 0 ∧ index = host / t.shape.arity 0 ∧ port = host % t.shape.arity 0 := by
  constructor
  · intro hface
    rcases Nat.lt_or_eq_of_le hport with hlt | rfl
    · have hunder : t.under level (index * t.shape.arity level + port) = t.under 0 host := by
        rw [← facing_of_lt hlt, hface, under]
      obtain ⟨rfl, rfl⟩ := under_inj (hw.under_lt h hlt) hhost hunder
      exact ⟨rfl, (Layout.Balanced.child_div hlt).symm, (Layout.Balanced.child_mod hlt).symm⟩
    · rw [facing_arity] at hface
      cases habove : t.above level index <;> rw [habove] at hface <;> cases hface
  · rintro ⟨rfl, rfl, rfl⟩
    exact facing_div_mod t 0 host

/-- The memory is above the root only. -/
theorem facing_eq_memory_iff (hw : t.WellFormed) (h : index < t.layout.count level)
    (hport : port ≤ t.shape.arity level) :
    t.facing level index port = .memory ↔
      level + 1 = t.shape.numLevels ∧ port = t.shape.arity level := by
  have hlevel := hw.balanced.lt_numLevels h
  constructor
  · intro hface
    rcases Nat.lt_or_eq_of_le hport with hlt | rfl
    · rw [facing_of_lt hlt] at hface
      cases level <;> cases hface
    · refine ⟨?_, rfl⟩
      by_contra htop
      rw [facing_arity, above_of_lt (by omega)] at hface
      cases hface
  · rintro ⟨htop, rfl⟩
    rw [facing_arity, above_top htop]
    rfl

/-- **A port that leads to a router is faced by a port of that router.** -/
theorem facing_symm (hw : t.WellFormed) {level' index' : Nat} (h : index < t.layout.count level)
    (h' : index' < t.layout.count level') (hport : port ≤ t.shape.arity level)
    (hface : t.facing level index port = .router (t.layout.idAt level' index')) :
    ∃ back ≤ t.shape.arity level',
      t.facing level' index' back = .router (t.layout.idAt level index) := by
  rcases Nat.lt_or_eq_of_le hport with hlt | rfl
  · -- a child leads back with its last port
    rw [facing_of_lt hlt] at hface
    cases level with
    | zero => cases hface
    | succ low =>
        have hchild := hw.balanced.child_lt h hlt
        obtain ⟨rfl, rfl⟩ := Layout.idAt_inj hchild h' (Component.router.inj hface)
        exact ⟨_, Nat.le_refl _, facing_arity_eq_router_iff.2 (hw.above_child h hlt)⟩
  · -- a parent leads back with the port at the remainder
    rw [facing_arity_eq_router_iff, hw.above_eq_router_iff_div h h'] at hface
    obtain ⟨rfl, rfl⟩ := hface
    exact ⟨_, Nat.le_of_lt (Nat.mod_lt index (t.shape.arity_pos (level + 1))),
      facing_div_mod t (level + 1) index⟩

end Tree.WellFormed

/-! ### Entries by position -/

theorem Component.info_neighbor_eq_some_iff {c : Component} {memoryId id : Nat} :
    (c.info memoryId).neighbor = some id ↔ c = .router id := by
  cases c <;> simp [info]

/-- An entry is about an endpoint or about a router. -/
theorem Component.info_spec (c : Component) (memoryId : Nat) :
    ((c.info memoryId).endpoint.isSome ↔ ¬ (c.info memoryId).neighbor.isSome) ∧
      ((c.info memoryId).state = .routerToNode ↔ (c.info memoryId).endpoint.isSome) := by
  cases c <;> simp [info]

namespace Topology.Built

open Interconnect.Tree

variable {t : Topology} {table : LinkTable} {level index : Nat}

/-- **The entries of a table by position.** -/
theorem portInfo_eq_ok_iff (hb : t.Built table) {id port : Nat} {info : PortInfo} :
    t.routingTable.portInfo id port = .ok info ↔
      ∃ level index, index < t.tree.layout.count level ∧ t.tree.layout.idAt level index = id ∧
        port ≤ t.tree.shape.arity level ∧
        info = (t.tree.facing level index port).info t.numHosts := by
  constructor
  · intro h
    obtain ⟨r, hr, hport, rfl⟩ := Topology.portInfo_eq_ok_iff.1 h
    obtain ⟨level, index, hindex, rfl, hs⟩ := hb.exists_position hr
    rw [hs.numPorts_eq] at hport
    have hport := Nat.le_of_lt_succ hport
    exact ⟨level, index, hindex, rfl, hport, hs.portInfo_eq _ hport⟩
  · rintro ⟨level, index, hindex, rfl, hport, rfl⟩
    exact hb.portInfo_eq hindex hport

theorem entry (hb : t.Built table) {id port : Nat} {info : PortInfo}
    (h : t.routingTable.portInfo id port = .ok info) :
    (info.endpoint.isSome ↔ ¬ info.neighbor.isSome) ∧
      (info.state = .routerToNode ↔ info.endpoint.isSome) ∧
      ∃ r, t.router? id = some r ∧ r.portState? port = some info.state := by
  obtain ⟨r, hr, hport, hinfo⟩ := Topology.portInfo_eq_ok_iff.1 h
  obtain ⟨level, index, -, -, -, hface⟩ := hb.portInfo_eq_ok_iff.1 h
  have hspec := Component.info_spec (t.tree.facing level index port) t.numHosts
  rw [← hface] at hspec
  refine ⟨hspec.1, hspec.2, r, hr, ?_⟩
  obtain ⟨state, hstate⟩ := Option.isSome_iff_exists.1 (Router.portState?_isSome_iff.2 hport)
  rw [hinfo, Router.portInfo, hstate, Option.getD_some]

/-! ### Endpoints -/

theorem info_endpoint_eq_some_iff {c : Component} (hc : t.tree.Has c) {e : Nat} :
    (c.info t.numHosts).endpoint = some e ↔ c = t.endpointAt e := by
  unfold endpointAt
  cases c with
  | host id =>
      have hne : id ≠ t.numHosts := Nat.ne_of_lt hc
      by_cases he : e = t.numHosts
      · simp [Component.info, he, hne]
      · simp [Component.info, he]
  | router id => by_cases he : e = t.numHosts <;> simp [Component.info, he]
  | memory =>
      by_cases he : e = t.numHosts
      · simp [Component.info, he]
      · simp [Component.info, he, Ne.symm he]

/-- **Which ports have an endpoint**: those that lead to its component. -/
theorem endpointId_eq_some_iff (hb : t.Built table) {id port e : Nat} :
    t.routingTable.endpointId id port = .ok (some e) ↔
      ∃ level index, index < t.tree.layout.count level ∧ t.tree.layout.idAt level index = id ∧
        port ≤ t.tree.shape.arity level ∧ t.tree.facing level index port = t.endpointAt e := by
  unfold RoutingTable.endpointId
  rw [map_eq_ok_iff]
  constructor
  · rintro ⟨info, hinfo, hend⟩
    obtain ⟨level, index, hindex, hid, hport, rfl⟩ := hb.portInfo_eq_ok_iff.1 hinfo
    have hface := (info_endpoint_eq_some_iff (hb.wellFormed.has_facing hindex port)).1 hend
    exact ⟨level, index, hindex, hid, hport, hface⟩
  · rintro ⟨level, index, hindex, rfl, hport, hface⟩
    have hend := (info_endpoint_eq_some_iff (hb.wellFormed.has_facing hindex port)).2 hface
    exact ⟨_, hb.portInfo_eq hindex hport, hend⟩

/-- **Where an endpoint is looked up** is the only port that leads to its component. -/
theorem exists_place_of_endpoint (hb : t.Built table) {e : Nat} (he : e ≤ t.numHosts) :
    ∃ level index port, index < t.tree.layout.count level ∧ port ≤ t.tree.shape.arity level ∧
      t.routingTable.destRouter e = .ok (t.tree.layout.idAt level index) ∧
      t.routingTable.destLocalPort e = .ok port ∧
      ∀ level' index' port', index' < t.tree.layout.count level' →
        port' ≤ t.tree.shape.arity level' →
        (t.tree.facing level' index' port' = t.endpointAt e ↔
          level' = level ∧ index' = index ∧ port' = port) := by
  have hw := hb.wellFormed
  rcases Nat.lt_or_eq_of_le he with hlt | rfl
  · have hmod := Nat.mod_lt e (t.tree.shape.arity_pos 0)
    refine ⟨0, _, _, hw.balanced.leaf_lt hlt, Nat.le_of_lt hmod, ?_, destLocalPort_host hlt, ?_⟩
    · rw [destRouter_host hlt, Layout.idAt_zero]
    · intro level' index' port' hindex' hport'
      rw [endpointAt, if_neg (Nat.ne_of_lt hlt)]
      exact hw.facing_eq_host_iff hindex' hport' hlt
  · have htop := Nat.sub_add_cancel t.tree.shape.numLevels_pos
    have hindex := hw.balanced.top_pos
    refine ⟨_, 0, _, hindex, Nat.le_refl _, ?_, hb.destLocalPort_memory hindex htop, ?_⟩
    · rw [destRouter_memory, hw.idAt_top]
    · intro level' index' port' hindex' hport'
      rw [endpointAt, if_pos rfl, hw.facing_eq_memory_iff hindex' hport']
      constructor
      · -- the top level has one router
        rintro ⟨hlevel', rfl⟩
        obtain rfl : level' = t.tree.shape.numLevels - 1 := by omega
        rw [hw.balanced.count_top] at hindex'
        exact ⟨rfl, by omega, rfl⟩
      · rintro ⟨rfl, rfl, rfl⟩
        exact ⟨htop, rfl⟩

theorem endpoint (hb : t.Built table) {e : Nat} (he : e ≤ t.numHosts) :
    ∃ id port, t.routingTable.destRouter e = .ok id ∧
      t.routingTable.destLocalPort e = .ok port ∧
      (∀ id' port', t.routingTable.endpointId id' port' = .ok (some e) ↔
        id' = id ∧ port' = port) ∧
      ∃ r link name, t.router? id = some r ∧ r.linkOnPort? port = some link.id ∧
        t.link? link.id = some link ∧ t.tree.nameOf? t.memoryName (t.endpointAt e) = some name ∧
        link.endpoints = .of r.name name := by
  obtain ⟨level, index, port, hindex, hport, hrouter, hlocal, hface⟩ :=
    hb.exists_place_of_endpoint he
  refine ⟨_, port, hrouter, hlocal, fun id' port' => ?_, ?_⟩
  · rw [hb.endpointId_eq_some_iff]
    constructor
    · rintro ⟨level', index', hindex', rfl, hport', hface'⟩
      obtain ⟨rfl, rfl, rfl⟩ := (hface level' index' port' hindex' hport').1 hface'
      exact ⟨rfl, rfl⟩
    · rintro ⟨rfl, rfl⟩
      have hsame := (hface level index port' hindex hport).2 ⟨rfl, rfl, rfl⟩
      exact ⟨level, index, hindex, rfl, hport, hsame⟩
  · obtain ⟨r, hr, hs⟩ := hb.exists_seated hindex
    obtain ⟨link, hlink, hpair, r', hr', hid⟩ := hb.exists_binds hindex hport
    cases hr.symm.trans hr'
    have hsame := (hface level index port hindex hport).2 ⟨rfl, rfl, rfl⟩
    have hhas := hb.wellFormed.has_facing hindex port
    refine ⟨r, link, _, hr, hid, hb.link?_id hlink, nameOf?_eq_some (hsame ▸ hhas), ?_⟩
    rw [hpair, pairOn, hsame, hs.name_eq]

/-! ### Neighbors -/

/-- Which ports have a neighbor: those that lead to a router. -/
theorem neighbor_eq_ok_iff (hb : t.Built table) {id port id' : Nat} :
    t.routingTable.neighbor id port = .ok id' ↔
      ∃ level index, index < t.tree.layout.count level ∧ t.tree.layout.idAt level index = id ∧
        port ≤ t.tree.shape.arity level ∧ t.tree.facing level index port = .router id' := by
  constructor
  · intro h
    obtain ⟨info, hinfo, h⟩ := bind_eq_ok_iff.1 h
    obtain ⟨level, index, hindex, hid, hport, rfl⟩ := hb.portInfo_eq_ok_iff.1 hinfo
    refine ⟨level, index, hindex, hid, hport, ?_⟩
    split at h
    · rename_i n hn
      cases h
      exact Component.info_neighbor_eq_some_iff.1 hn
    · cases h
  · rintro ⟨level, index, hindex, rfl, hport, hface⟩
    exact (hb.neighbor_eq hindex hport hface).2

theorem neighbor (hb : t.Built table) {id port id' : Nat}
    (h : t.routingTable.neighbor id port = .ok id') :
    ∃ back link, (∀ port', t.routingTable.neighbor id' port' = .ok id ↔ port' = back) ∧
      t.Binds link (id, port) ∧ t.Binds link (id', back) := by
  have hw := hb.wellFormed
  obtain ⟨level, index, hindex, rfl, hport, hface⟩ := hb.neighbor_eq_ok_iff.1 h
  -- the neighbor stands on a position, from which one port leads back
  have hhas := hw.has_facing hindex port
  rw [hface] at hhas
  obtain ⟨level', index', hindex', rfl⟩ := Layout.exists_idAt hhas
  obtain ⟨back, hback, hface'⟩ := hw.facing_symm hindex hindex' hport hface
  obtain ⟨link, hlink, hpair, hbinds⟩ := hb.exists_binds hindex hport
  refine ⟨back, link.id, fun port' => ?_, hbinds, (hb.binds_iff hlink hindex').2 ⟨hback, ?_⟩⟩
  · constructor
    · intro hneighbor
      obtain ⟨level'', index'', hindex'', hid, hport', hface''⟩ := hb.neighbor_eq_ok_iff.1 hneighbor
      obtain ⟨rfl, rfl⟩ := Layout.idAt_inj hindex'' hindex' hid
      exact hw.facing_inj hindex' hport' hback (hface''.trans hface'.symm)
    · rintro rfl
      exact (hb.neighbor_eq hindex' hback hface').2
  · rw [hpair, hw.pairOn_eq_iff hb.named hindex hindex' hport hback]
    exact .inr ⟨hface, hface'⟩

/-! ### All entries -/

/-- **The entries of the table of a built tree** are inverse to the look-ups and symmetric. -/
theorem portTables (hb : t.Built table) : t.PortTables where
  defined := by
    intro id port
    constructor
    · rintro ⟨info, hinfo⟩
      obtain ⟨r, hr, hport, -⟩ := Topology.portInfo_eq_ok_iff.1 hinfo
      exact ⟨r, hr, hport⟩
    · rintro ⟨r, hr, hport⟩
      exact ⟨_, Topology.portInfo_eq_ok_iff.2 ⟨r, hr, hport, rfl⟩⟩
  entry := fun _ _ _ h => hb.entry h
  endpoint := fun _ he => hb.endpoint he
  neighbor := fun _ _ _ h => hb.neighbor h

end Topology.Built

/-- **The routing table of every successful build** has entries that are inverse to its look-ups and
symmetric, whatever was done with the builder before. -/
theorem Builder.portTables_of_build (o : TreeOptions) (calls : List Call) {t : Topology}
    {b : Builder} (h : ((new o).run calls).build = .ok (t, b)) : t.PortTables :=
  ((sound_run o calls).built_of_build h).portTables

/-- Three levels, with the link between a leaf router and its parent made early. -/
theorem Builder.portTables_of_build_three_levels :
    ∃ t b, ((new {}).run [.configure ⟨[2, 1, 2], by decide, by decide⟩ 4 ["a", "b", "c", "d"],
        .getLink "rtr_2" "rtr_0"]).build = .ok (t, b) ∧ t.routingTable.neighbor 0 2 = .ok 2 ∧
      t.PortTables := by
  obtain ⟨⟨t, b⟩, h, hneighbor⟩ := exists_ok_of_any
    (p := fun r => decide (r.1.routingTable.neighbor 0 2 = .ok 2))
    (x := ((new {}).run [.configure ⟨[2, 1, 2], by decide, by decide⟩ 4 ["a", "b", "c", "d"],
      .getLink "rtr_2" "rtr_0"]).build) (by decide +kernel)
  exact ⟨t, b, h, of_decide_eq_true hneighbor, portTables_of_build _ _ h⟩

/-- The ports of a single router lead to the hosts and to the memory. -/
example :
    (((Builder.new {}).run [.configure ⟨[3], by decide, by decide⟩ 3 ["a", "b", "c"],
        .getLink "mem" "rtr_0"]).build.toOption.map fun r =>
      (List.range 4).map fun port => (r.1.routingTable.endpointId 0 port).toOption) =
      some [some (some 0), some (some 1), some (some 2), some (some 3)] := by
  decide +kernel

end Interconnect
