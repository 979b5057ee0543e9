/-
**The connections of built trees.**

Every port of a built tree has a link that joins its router and what the port leads to, and every
link that the tree kept is on a port.  Links between two routers are on the two ports that face each
other, all others on one port only, and there are as many links as hosts and routers together.
Links that were made early do not change this: those that the tree needs are used, and the others
are not kept.

Main definitions:

* `Topology.Binds` — a link is on a port;
* `Topology.Connected` — the links of a topology connect its tree.

Main results:

* `Topology.Built.binds_iff` — a link is on the ports that have its pair of names;
* `Topology.Built.endpoints_perm` — the links join the edges of the tree, each once;
* `Builder.connected_of_build` — every successful build connects its tree.
-/

import Interconnect.Proofs.BuiltTrees
import Interconnect.Proofs.PortPairs

set_option autoImplicit false

namespace Interconnect

/-! ### Connected trees -/

namespace Topology

/-- A link is on a port, given by the number of its router and its own. -/
def Binds (t : Topology) (id : Nat) (place : Nat × Nat) : Prop :=
  ∃ r, t.router? place.1 = some r ∧ r.linkOnPort? place.2 = some id

/-- The links of a topology connect its routers, its hosts and the memory. -/
structure Connected (t : Topology) : Prop where
  port : ∀ r ∈ t.routers, ∀ port < r.numPorts, ∃ id link face name,
    r.linkOnPort? port = some id ∧ t.link? id = some link ∧ r.faces[port]? = some face ∧
      t.tree.nameOf? t.memoryName face = some name ∧ link.endpoints = .of r.name name
  length_links : t.links.length = t.numHosts + t.numRouters
  ids_increasing : (t.links.map Link.id).Pairwise (· < ·)
  name_eq : ∀ link ∈ t.links, link.name = link.endpoints.linkName
  names_nodup : (t.links.map Link.name).Nodup
  endpoints_nodup : (t.links.map Link.endpoints).Nodup
  two_ports : ∀ link ∈ t.links,
    t.tree.isRouter link.endpoints.first → t.tree.isRouter link.endpoints.second →
      ∃ child ∈ t.routers, ∃ parent ∈ t.routers, ∃ port, child.id < parent.id ∧
        child.uplink = .router parent.id ∧
        parent.downlinks.components[port]? = some (.router child.id) ∧
        ∀ place, t.Binds link.id place ↔
          place = (child.id, child.uplinkPort) ∨ place = (parent.id, port)
  one_port : ∀ link ∈ t.links,
    ¬ (t.tree.isRouter link.endpoints.first ∧ t.tree.isRouter link.endpoints.second) →
      ∃! place, t.Binds link.id place
  length_hostLinks : t.hostLinks.length = t.numHosts
  length_hostLinkNames : t.hostLinkNames.length = t.numHosts
  hostLink : ∀ host < t.numHosts, ∃ id link name,
    t.hostLinks[host]? = some id ∧
      t.Binds id (host / t.tree.shape.hostsPerLeaf, host % t.tree.shape.hostsPerLeaf) ∧
      t.link? id = some link ∧ t.tree.hostNames[host]? = some name ∧ link.connects name ∧
      t.hostLinkNames[host]? = some link.name
  memoryLink : ∃ root id link, t.root? = some root ∧ root.linkOnPort? root.uplinkPort = some id ∧
    t.memoryLink = id ∧ t.link? id = some link ∧ link.connects t.memoryName ∧
      t.memoryLinkName? = some link.name

/-- One link is on a port. -/
theorem Binds.unique {t : Topology} {id id' : Nat} {place : Nat × Nat} (h : t.Binds id place)
    (h' : t.Binds id' place) : id = id' := by
  obtain ⟨r, hr, hid⟩ := h
  obtain ⟨r', hr', hid'⟩ := h'
  cases hr.symm.trans hr'
  exact Option.some_inj.1 (hid.symm.trans hid')

namespace Built

open EndpointPair Interconnect.Tree

variable {t : Topology} {table : LinkTable}

/-! ### The links that were kept -/

theorem mem_links_iff (hb : t.Built table) {l : Link} :
    l ∈ t.links ↔ l ∈ table.links ∧ ∃ r ∈ t.routers, l.id ∈ r.ports := by
  rw [hb.links_eq, LinkTable.restrict, List.mem_filter, List.contains_iff_mem, List.mem_flatMap]

theorem link?_id (hb : t.Built table) {l : Link} (h : l ∈ t.links) : t.link? l.id = some l := by
  have hget := hb.consistent.get?_id (hb.mem_links_iff.1 h).1
  cases hf : t.link? l.id with
  | none => exact absurd (List.find?_eq_none.1 hf l h) (by simp)
  | some l' =>
      have hget' := hb.consistent.get?_id (hb.mem_links_iff.1 (List.mem_of_find?_eq_some hf)).1
      have hid : l'.id = l.id := by simpa using List.find?_some hf
      rw [hid, hget] at hget'
      exact hget'.symm

theorem ids_increasing (hb : t.Built table) : (t.links.map Link.id).Pairwise (· < ·) := by
  rw [hb.links_eq]
  refine List.Pairwise.sublist (List.filter_sublist.map Link.id) ?_
  rw [hb.consistent.ids_eq]
  exact List.pairwise_lt_range

theorem name_eq (hb : t.Built table) {link : Link} (h : link ∈ t.links) :
    link.name = link.endpoints.linkName :=
  hb.consistent.name_eq link (hb.mem_links_iff.1 h).1

theorem names_nodup (hb : t.Built table) : (t.links.map Link.name).Nodup := by
  rw [hb.links_eq]
  exact hb.consistent.names_nodup.sublist (List.filter_sublist.map Link.name)

theorem endpoints_nodup (hb : t.Built table) : (t.links.map Link.endpoints).Nodup := by
  rw [hb.links_eq]
  exact hb.consistent.endpoints_nodup.sublist (List.filter_sublist.map Link.endpoints)

/-! ### Links and ports -/

/-- **A link is on the ports that have its pair of names.** -/
theorem binds_iff (hb : t.Built table) {link : Link} (hlink : link ∈ t.links)
    {level index port : Nat} (h : index < t.tree.layout.count level) :
    t.Binds link.id (t.tree.layout.idAt level index, port) ↔
      port ≤ t.tree.shape.arity level ∧
        link.endpoints = t.tree.pairOn t.memoryName level index port := by
  obtain ⟨r, hr, hs⟩ := hb.exists_seated h
  have hget := hb.consistent.get?_id (hb.mem_links_iff.1 hlink).1
  constructor
  · rintro ⟨r', hr', hport⟩
    cases hr.symm.trans hr'
    have hlt := (List.getElem?_eq_some_iff.1 hport).1
    rw [hs.length_ports, hs.numPorts_eq] at hlt
    obtain ⟨id, hid, hjoins⟩ := hs.exists_joins (Nat.le_of_lt_succ hlt)
    cases hid.symm.trans hport
    rw [hs.name_eq] at hjoins
    exact ⟨Nat.le_of_lt_succ hlt, LinkTable.Joins.pair_eq ⟨link, hget, rfl⟩ hjoins⟩
  · rintro ⟨hport, hpair⟩
    obtain ⟨id, hid, hjoins⟩ := hs.exists_joins hport
    rw [hs.name_eq] at hjoins
    rw [hb.consistent.joins_inj ⟨link, hget, hpair⟩ hjoins]
    exact ⟨r, hr, hid⟩

/-- On every port there is a link that was kept. -/
theorem exists_binds (hb : t.Built table) {level index port : Nat}
    (h : index < t.tree.layout.count level) (hport : port ≤ t.tree.shape.arity level) :
    ∃ link ∈ t.links, link.endpoints = t.tree.pairOn t.memoryName level index port ∧
      t.Binds link.id (t.tree.layout.idAt level index, port) := by
  obtain ⟨r, hr, hs⟩ := hb.exists_seated h
  obtain ⟨id, hid, link, hget, hpair⟩ := hs.exists_joins hport
  have hlink : link ∈ t.links := by
    refine hb.mem_links_iff.2 ⟨List.mem_of_getElem? hget, r, List.mem_of_getElem? hr, ?_⟩
    rw [hb.consistent.id_eq hget]
    exact List.mem_of_getElem? hid
  have hpair : link.endpoints = t.tree.pairOn t.memoryName level index port := by
    rw [hpair, hs.name_eq, pairOn]
  exact ⟨link, hlink, hpair, (hb.binds_iff hlink h).2 ⟨hport, hpair⟩⟩

/-- The same for a router of the list. -/
theorem exists_link_of_port (hb : t.Built table) {r : Router} (h : r ∈ t.routers) {port : Nat}
    (hport : port < r.numPorts) :
    ∃ level index link, index < t.tree.layout.count level ∧
      t.tree.Seated t.memoryName table level index r ∧ port ≤ t.tree.shape.arity level ∧
      link ∈ t.links ∧ r.linkOnPort? port = some link.id ∧
      link.endpoints = t.tree.pairOn t.memoryName level index port := by
  obtain ⟨level, index, hindex, hs⟩ := hb.exists_position_of_mem h
  rw [hs.numPorts_eq] at hport
  have hport := Nat.le_of_lt_succ hport
  obtain ⟨link, hlink, hpair, r', hr', hid⟩ := hb.exists_binds hindex hport
  have hr := hb.router?_id h
  rw [hs.id_eq] at hr
  cases hr.symm.trans hr'
  exact ⟨level, index, link, hindex, hs, hport, hlink, hid, hpair⟩

/-- A port that has a link is one of a position. -/
theorem exists_position_of_binds (hb : t.Built table) {id : Nat} {place : Nat × Nat}
    (h : t.Binds id place) :
    ∃ level index, index < t.tree.layout.count level ∧
      place = (t.tree.layout.idAt level index, place.2) := by
  obtain ⟨r, hr, -⟩ := h
  obtain ⟨level, index, hindex, hid, -⟩ := hb.exists_position hr
  exact ⟨level, index, hindex, by rw [hid]⟩

/-- Every link that was kept is on some port. -/
theorem exists_place (hb : t.Built table) {link : Link} (h : link ∈ t.links) :
    ∃ level index port, index < t.tree.layout.count level ∧ port ≤ t.tree.shape.arity level ∧
      link.endpoints = t.tree.pairOn t.memoryName level index port := by
  obtain ⟨-, r, hr, hmem⟩ := hb.mem_links_iff.1 h
  obtain ⟨port, hport⟩ := List.mem_iff_getElem?.1 hmem
  obtain ⟨level, index, hindex, hs⟩ := hb.exists_position_of_mem hr
  have hbinds : t.Binds link.id (t.tree.layout.idAt level index, port) :=
    ⟨r, by rw [← hs.id_eq]; exact hb.router?_id hr, hport⟩
  exact ⟨level, index, port, hindex, (hb.binds_iff h hindex).1 hbinds⟩

/-- **The links join the edges of the tree, each once.** -/
theorem endpoints_perm (hb : t.Built table) :
    (t.links.map Link.endpoints).Perm (t.tree.edges t.memoryName) := by
  have hw := hb.wellFormed
  rw [List.perm_ext_iff_of_nodup hb.endpoints_nodup (hw.edges_nodup hb.named)]
  intro pair
  constructor
  · intro hpair
    obtain ⟨link, hlink, rfl⟩ := List.mem_map.1 hpair
    obtain ⟨level, index, port, hindex, -, he⟩ := hb.exists_place hlink
    rw [he]
    exact hw.facing_edge_mem t.memoryName hindex
  · -- every edge is the pair on some port
    have hmem : ∀ level index port, index < t.tree.layout.count level →
        port ≤ t.tree.shape.arity level →
          t.tree.pairOn t.memoryName level index port ∈ t.links.map Link.endpoints := by
      intro level index port hindex hport
      obtain ⟨link, hlink, hpair, -⟩ := hb.exists_binds hindex hport
      exact List.mem_map.2 ⟨link, hlink, hpair⟩
    intro hpair
    rw [WellFormed.edges_eq, List.mem_append] at hpair
    rcases hpair with hpair | hpair
    · obtain ⟨host, hhost, rfl⟩ := List.mem_map.1 hpair
      exact hmem _ _ _ (hw.balanced.leaf_lt (List.mem_range.1 hhost))
        (Nat.le_of_lt (Nat.mod_lt host (t.tree.shape.arity_pos 0)))
    · obtain ⟨p, hp, rfl⟩ := List.mem_map.1 hpair
      exact hmem _ _ _ (mem_positions.1 hp).2 (Nat.le_refl _)

/-- Every edge of the tree is the pair of a link of the table. -/
theorem edges_subset (hb : t.Built table) :
    t.tree.edges t.memoryName ⊆ table.links.map Link.endpoints := by
  intro pair hpair
  obtain ⟨link, hlink, rfl⟩ := List.mem_map.1 (hb.endpoints_perm.mem_iff.2 hpair)
  exact List.mem_map_of_mem (hb.mem_links_iff.1 hlink).1

theorem length_links (hb : t.Built table) : t.links.length = t.numHosts + t.numRouters := by
  have hlength := hb.endpoints_perm.length_eq
  rw [List.length_map, length_edges, hb.seated.length_eq] at hlength
  exact hlength

/-! ### The ports of a link -/

theorem isRouter_ends_iff (hb : t.Built table) {level index port : Nat}
    (h : index < t.tree.layout.count level) :
    t.tree.isRouter (t.tree.pairOn t.memoryName level index port).first ∧
        t.tree.isRouter (t.tree.pairOn t.memoryName level index port).second ↔
      ∃ id, t.tree.facing level index port = .router id := by
  have hface := hb.named.isRouter_nameOf_iff (hb.wellFormed.has_facing h port)
  have hself : t.tree.isRouter (routerName (t.tree.layout.idAt level index)) = true :=
    isRouter_eq_true_iff.2 ⟨_, Layout.idAt_lt h, rfl⟩
  unfold pairOn
  rcases first_second_of (routerName (t.tree.layout.idAt level index))
    (t.tree.nameOf t.memoryName (t.tree.facing level index port)) with ⟨h₁, h₂⟩ | ⟨h₁, h₂⟩
  · rw [h₁, h₂, hface]
    exact and_iff_right hself
  · rw [h₁, h₂, hface]
    exact and_iff_left hself

/-- A link between two routers is on the last port of one of them. -/
theorem exists_child (hb : t.Built table) {level index port id : Nat}
    (h : index < t.tree.layout.count level) (hport : port ≤ t.tree.shape.arity level)
    (hface : t.tree.facing level index port = .router id) :
    ∃ low i, i < t.tree.layout.count low ∧ low + 1 < t.tree.shape.numLevels ∧
      t.tree.pairOn t.memoryName level index port =
        t.tree.pairOn t.memoryName low i (t.tree.shape.arity low) := by
  have hw := hb.wellFormed
  rcases Nat.lt_or_eq_of_le hport with hlt | rfl
  · cases level with
    | zero =>
        rw [facing_of_lt hlt] at hface
        cases hface
    | succ low =>
        have hchild := hw.balanced.child_lt h hlt
        -- the port leads down, so the pair is on the last port of the child as well
        refine ⟨low, _, hchild, hw.balanced.lt_numLevels h, ?_⟩
        rw [hw.pairOn_eq_iff hb.named h hchild hport (Nat.le_refl _)]
        exact .inr ⟨facing_of_lt hlt index, facing_arity_eq_router_iff.2
          (hw.above_child h hlt)⟩
  · refine ⟨level, index, h, ?_, rfl⟩
    have hlevel := hw.balanced.lt_numLevels h
    by_contra hnot
    rw [facing_arity, above_top (by omega)] at hface
    cases hface

/-- The ports of the link between a router and its parent. -/
theorem binds_child_iff (hb : t.Built table) {link : Link} (hlink : link ∈ t.links)
    {low i : Nat} (h : i < t.tree.layout.count low) (hlow : low + 1 < t.tree.shape.numLevels)
    (hpair : link.endpoints = t.tree.pairOn t.memoryName low i (t.tree.shape.arity low))
    {place : Nat × Nat} :
    t.Binds link.id place ↔
      place = (t.tree.layout.idAt low i, t.tree.shape.arity low) ∨
        place = (t.tree.layout.idAt (low + 1) (i / t.tree.shape.arity (low + 1)),
          i % t.tree.shape.arity (low + 1)) := by
  have hw := hb.wellFormed
  have hparent := hw.balanced.parent_lt hlow h
  have hmod := Nat.mod_lt i (t.tree.shape.arity_pos (low + 1))
  have hdown := facing_div_mod t.tree (low + 1) i
  have hup : t.tree.facing low i (t.tree.shape.arity low) =
      .router (t.tree.layout.idAt (low + 1) (i / t.tree.shape.arity (low + 1))) :=
    facing_arity_eq_router_iff.2 (above_of_lt hlow i)
  constructor
  · intro hbinds
    obtain ⟨level, index, hindex, hplace⟩ := hb.exists_position_of_binds hbinds
    rw [hplace] at hbinds ⊢
    obtain ⟨hport, he⟩ := (hb.binds_iff hlink hindex).1 hbinds
    rw [hpair, hw.pairOn_eq_iff hb.named h hindex (Nat.le_refl _) hport] at he
    -- the place is the last port itself, or it leads to the router from above
    rcases he with hsame | ⟨hother, hself⟩
    · simp only [Prod.mk.injEq] at hsame
      obtain ⟨rfl, rfl, harity⟩ := hsame
      exact .inl (by rw [harity])
    · rw [hup] at hother
      obtain ⟨rfl, rfl⟩ := Layout.idAt_inj hparent hindex (Component.router.inj hother)
      exact .inr (by rw [hw.facing_inj hindex hport (Nat.le_of_lt hmod) (hself.trans hdown.symm)])
  · rintro (rfl | rfl)
    · exact (hb.binds_iff hlink h).2 ⟨Nat.le_refl _, hpair⟩
    · refine (hb.binds_iff hlink hparent).2 ⟨Nat.le_of_lt hmod, ?_⟩
      rw [hpair, hw.pairOn_eq_iff hb.named h hparent (Nat.le_refl _) (Nat.le_of_lt hmod)]
      exact .inr ⟨hup, hdown⟩

theorem two_ports (hb : t.Built table) {link : Link} (hlink : link ∈ t.links)
    (hfirst : t.tree.isRouter link.endpoints.first)
    (hsecond : t.tree.isRouter link.endpoints.second) :
    ∃ child ∈ t.routers, ∃ parent ∈ t.routers, ∃ port, child.id < parent.id ∧
      child.uplink = .router parent.id ∧
      parent.downlinks.components[port]? = some (.router child.id) ∧
      ∀ place, t.Binds link.id place ↔
        place = (child.id, child.uplinkPort) ∨ place = (parent.id, port) := by
  have hw := hb.wellFormed
  obtain ⟨level, index, port, hindex, hport, hpair⟩ := hb.exists_place hlink
  rw [hpair] at hfirst hsecond
  obtain ⟨id, hface⟩ := (hb.isRouter_ends_iff hindex).1 ⟨hfirst, hsecond⟩
  obtain ⟨low, i, hi, hlow, he⟩ := hb.exists_child hindex hport hface
  have hparent := hw.balanced.parent_lt hlow hi
  obtain ⟨c, hc, hcs⟩ := hb.exists_seated hi
  obtain ⟨r, hr, hrs⟩ := hb.exists_seated hparent
  have hup : c.uplink = .router r.id := by rw [hcs.uplink_eq, above_of_lt hlow, hrs.id_eq]
  refine ⟨c, List.mem_of_getElem? hc, r, List.mem_of_getElem? hr,
    i % t.tree.shape.arity (low + 1), ?_, hup, ?_, fun place => ?_⟩
  · rw [hcs.uplink_eq, hrs.id_eq] at hup
    rw [hcs.id_eq, hrs.id_eq]
    exact (hw.above_eq_router hi hparent hup).2
  · rw [hrs.components_getElem?_eq_some_iff, Nat.div_add_mod', hcs.id_eq]
    exact ⟨Nat.mod_lt i (t.tree.shape.arity_pos (low + 1)), rfl⟩
  · rw [hb.binds_child_iff hlink hi hlow (hpair.trans he), hcs.id_eq, hcs.uplinkPort_eq, hrs.id_eq]

theorem one_port (hb : t.Built table) {link : Link} (hlink : link ∈ t.links)
    (hends : ¬ (t.tree.isRouter link.endpoints.first ∧ t.tree.isRouter link.endpoints.second)) :
    ∃! place, t.Binds link.id place := by
  obtain ⟨level, index, port, hindex, hport, hpair⟩ := hb.exists_place hlink
  rw [hpair, hb.isRouter_ends_iff hindex] at hends
  refine ⟨(t.tree.layout.idAt level index, port), (hb.binds_iff hlink hindex).2 ⟨hport, hpair⟩,
    fun place hplace => ?_⟩
  obtain ⟨level', index', hindex', he⟩ := hb.exists_position_of_binds hplace
  rw [he] at hplace ⊢
  obtain ⟨hport', hpair'⟩ := (hb.binds_iff hlink hindex').1 hplace
  rcases (hb.wellFormed.pairOn_eq_iff hb.named hindex hindex' hport hport').1
    (hpair.symm.trans hpair') with hsame | ⟨hrouter, -⟩
  · simp only [Prod.mk.injEq] at hsame
    obtain ⟨rfl, rfl, hsame⟩ := hsame
    rw [hsame]
  · exact absurd ⟨_, hrouter⟩ hends

/-! ### The edge of the tree -/

/-- The numbers that were kept for the hosts are those of links on their ports. -/
theorem hostLinks_forall₂ (hb : t.Built table) :
    List.Forall₂ (fun host id =>
        t.Binds id (host / t.tree.shape.hostsPerLeaf, host % t.tree.shape.hostsPerLeaf))
      (List.range t.numHosts) t.hostLinks :=
  (mapM_eq_ok_iff.1 hb.hostLinks_eq).imp fun _ _ h => linkOn_eq_ok_iff.1 h

/-- The link of a host is on the port of its leaf router for it. -/
theorem exists_hostLink (hb : t.Built table) {host : Nat} (h : host < t.numHosts) :
    ∃ link ∈ t.links, t.hostLinks[host]? = some link.id ∧
      t.Binds link.id (host / t.tree.shape.hostsPerLeaf, host % t.tree.shape.hostsPerLeaf) ∧
      link.endpoints = t.tree.pairOn t.memoryName 0 (host / t.tree.shape.arity 0)
        (host % t.tree.shape.arity 0) := by
  have hmod := Nat.mod_lt host (t.tree.shape.arity_pos 0)
  obtain ⟨link, hlink, hpair, hbinds⟩ :=
    hb.exists_binds (hb.wellFormed.balanced.leaf_lt h) (Nat.le_of_lt hmod)
  rw [Layout.idAt_zero, ← Shape.hostsPerLeaf_eq] at hbinds
  obtain ⟨id, hnth, hkept⟩ :=
    exists_getElem?_of_forall₂ hb.hostLinks_forall₂ (List.getElem?_range h)
  -- one link is on a port
  rw [hkept.unique hbinds] at hnth
  exact ⟨link, hlink, hnth, hbinds, hpair⟩

theorem hostLinkNames_forall₂ (hb : t.Built table) :
    List.Forall₂ (fun id name => (t.link? id).map Link.name = some name) t.hostLinks
      t.hostLinkNames := by
  refine forall₂_filterMap fun id hid => ?_
  obtain ⟨host, hhost⟩ := List.mem_iff_getElem?.1 hid
  have hlt := (List.getElem?_eq_some_iff.1 hhost).1
  rw [← hb.hostLinks_forall₂.length_eq, List.length_range] at hlt
  obtain ⟨link, hlink, hnth, -⟩ := hb.exists_hostLink hlt
  cases hhost.symm.trans hnth
  exact ⟨link.name, by rw [hb.link?_id hlink, Option.map_some]⟩

theorem hostLink (hb : t.Built table) {host : Nat} (h : host < t.numHosts) :
    ∃ id link name, t.hostLinks[host]? = some id ∧
      t.Binds id (host / t.tree.shape.hostsPerLeaf, host % t.tree.shape.hostsPerLeaf) ∧
      t.link? id = some link ∧ t.tree.hostNames[host]? = some name ∧ link.connects name ∧
      t.hostLinkNames[host]? = some link.name := by
  obtain ⟨link, hlink, hnth, hbinds, hpair⟩ := hb.exists_hostLink h
  obtain ⟨name, hname, hlinkName⟩ := exists_getElem?_of_forall₂ hb.hostLinkNames_forall₂ hnth
  rw [hb.link?_id hlink, Option.map_some, Option.some_inj] at hlinkName
  refine ⟨link.id, link, t.tree.nameOf t.memoryName (.host host), hnth, hbinds,
    hb.link?_id hlink, nameOf?_host h, ?_, by rw [hname, hlinkName]⟩
  rw [Link.connects, hpair, pairOn, facing_div_mod]
  exact contains_of_right _ _

/-- The link of the memory is on the last port of the root. -/
theorem exists_memoryLink (hb : t.Built table) :
    ∃ root, t.root? = some root ∧ ∃ link ∈ t.links,
      root.linkOnPort? root.uplinkPort = some link.id ∧ t.memoryLink = link.id ∧
      link.endpoints = t.tree.pairOn t.memoryName (t.tree.shape.numLevels - 1) 0
        (t.tree.shape.arity (t.tree.shape.numLevels - 1)) := by
  have hindex := hb.wellFormed.balanced.top_pos
  obtain ⟨root, hroot, hs⟩ := hb.exists_seated hindex
  obtain ⟨link, hlink, hpair, root', hroot', hport⟩ := hb.exists_binds hindex (Nat.le_refl _)
  cases hroot.symm.trans hroot'
  rw [← hs.uplinkPort_eq] at hport
  rw [hb.wellFormed.idAt_top] at hroot
  -- the number that was kept was read from the same port
  obtain ⟨root', hroot', hkept⟩ := linkOn_eq_ok_iff.1 hb.memoryLink_eq
  cases hroot.symm.trans hroot'
  exact ⟨root, hroot, link, hlink, hport, Option.some_inj.1 (hkept.symm.trans hport), hpair⟩

theorem memoryLink (hb : t.Built table) :
    ∃ root id link, t.root? = some root ∧ root.linkOnPort? root.uplinkPort = some id ∧
      t.memoryLink = id ∧ t.link? id = some link ∧ link.connects t.memoryName ∧
      t.memoryLinkName? = some link.name := by
  have htop := Nat.sub_add_cancel t.tree.shape.numLevels_pos
  obtain ⟨root, hroot, link, hlink, hport, hkept, hpair⟩ := hb.exists_memoryLink
  refine ⟨root, link.id, link, hroot, hport, hkept, hb.link?_id hlink, ?_, ?_⟩
  · rw [Link.connects, hpair, pairOn, facing_arity, above_top htop]
    exact contains_of_right _ _
  · rw [memoryLinkName?, hkept, hb.link?_id hlink, Option.map_some]

/-! ### All connections -/

theorem port (hb : t.Built table) {r : Router} (h : r ∈ t.routers) {port : Nat}
    (hport : port < r.numPorts) :
    ∃ id link face name, r.linkOnPort? port = some id ∧ t.link? id = some link ∧
      r.faces[port]? = some face ∧ t.tree.nameOf? t.memoryName face = some name ∧
      link.endpoints = .of r.name name := by
  obtain ⟨level, index, link, hindex, hs, hport, hlink, hid, hpair⟩ :=
    hb.exists_link_of_port h hport
  refine ⟨link.id, link, _, _, hid, hb.link?_id hlink, hs.faces_getElem? hport,
    nameOf?_eq_some (hb.wellFormed.has_facing hindex port), ?_⟩
  rw [hpair, hs.name_eq, pairOn]

/-- **The links of a built tree connect it.** -/
theorem connected (hb : t.Built table) : t.Connected where
  port := fun _ hr _ hport => hb.port hr hport
  length_links := hb.length_links
  ids_increasing := hb.ids_increasing
  name_eq := fun _ hlink => hb.name_eq hlink
  names_nodup := hb.names_nodup
  endpoints_nodup := hb.endpoints_nodup
  two_ports := fun _ hlink hfirst hsecond => hb.two_ports hlink hfirst hsecond
  one_port := fun _ hlink hends => hb.one_port hlink hends
  length_hostLinks := by rw [← hb.hostLinks_forall₂.length_eq, List.length_range]
  length_hostLinkNames := by
    rw [← hb.hostLinkNames_forall₂.length_eq, ← hb.hostLinks_forall₂.length_eq, List.length_range]
  hostLink := fun _ h => hb.hostLink h
  memoryLink := hb.memoryLink

end Built

end Topology

/-- **Every successful build connects its tree**, whatever links were asked for before. -/
theorem Builder.connected_of_build (o : TreeOptions) (calls : List Call) {t : Topology}
    {b : Builder} (h : ((new o).run calls).build = .ok (t, b)) : t.Connected :=
  ((sound_run o calls).built_of_build h).connected

/-- Three levels, with one link that the tree has and one that it does not have made early. -/
theorem Builder.connected_of_build_three_levels :
    ∃ t b, ((new {}).run [.getLink "mem" "mem", .configure ⟨[1, 2, 2], by decide, by decide⟩ 4
        ["a", "b", "c", "d"], .getLink "rtr_5" "rtr_3", .getLink "a" "d"]).build = .ok (t, b) ∧
      t.Connected := by
  obtain ⟨⟨t, b⟩, h⟩ := exists_ok_of_isSome
    (x := ((new {}).run [.getLink "mem" "mem", .configure ⟨[1, 2, 2], by decide, by decide⟩ 4
      ["a", "b", "c", "d"], .getLink "rtr_5" "rtr_3", .getLink "a" "d"]).build) (by decide +kernel)
  exact ⟨t, b, h, connected_of_build _ _ h⟩

end Interconnect
