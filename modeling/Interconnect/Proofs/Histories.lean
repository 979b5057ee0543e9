/-
**What a tree depends on.**

Two builders that were configured with the same shape build the same tree, whatever their options,
their hosts and the links that were asked for before: the routers differ at most in the numbers of
the links on their ports, and the routing tables are equal.  If the options and the hosts are the
same as well, the links are the same apart from their numbers.  An earlier call can therefore only
change which number a link has: it cannot leave a link of the tree out, add one, or give one another
latency.

Main definitions:

* `Router.bare`, `Link.content` — a router without its links, and a link without its number;
* `Topology.SameForm`, `Topology.SameLinks` — what two topologies have in common.

Main results:

* `Topology.Built.map_bare` — the routers of a built tree are determined by its shape and layout;
* `Topology.routingTable_congr` — a routing table does not depend on links;
* `Topology.Built.content_eq` — the links of a built tree are determined by their endpoints;
* `Builder.sameForm_of_build` — two builds with the same shape.
-/

import Interconnect.Proofs.BuilderLinks
import Interconnect.Proofs.Connections
import Interconnect.Proofs.RoutingTables

set_option autoImplicit false

namespace Interconnect

open EndpointPair

/-! ### What two topologies have in common -/

/-- A router without its links. -/
def Router.bare (r : Router) : Router := { r with ports := [] }

/-- What a link is, apart from its number. -/
def Link.content (l : Link) : String × EndpointPair × Latency := (l.name, l.endpoints, l.latency)

namespace Topology

/-- The numbers of two links that are the same apart from them, each in its topology. -/
def SameLink (t t' : Topology) (id id' : Nat) : Prop :=
  ∃ link link', t.link? id = some link ∧ t'.link? id' = some link' ∧ link.content = link'.content

/-- The routers of two topologies are the same apart from their links, and the routing tables are
equal. -/
structure SameForm (t t' : Topology) : Prop where
  routers : t.routers.map Router.bare = t'.routers.map Router.bare
  routingTable : t.routingTable = t'.routingTable

/-- The links of two topologies are the same apart from their numbers: on every port, for every host
and for the memory, and all together. -/
structure SameLinks (t t' : Topology) : Prop where
  port : ∀ r ∈ t.routers, ∀ port < r.numPorts, ∃ id id', t.Binds id (r.id, port) ∧
    t'.Binds id' (r.id, port) ∧ t.SameLink t' id id'
  hostLink : List.Forall₂ (t.SameLink t') t.hostLinks t'.hostLinks
  memoryLink : t.SameLink t' t.memoryLink t'.memoryLink
  links : (t.links.map Link.content).Perm (t'.links.map Link.content)

end Topology

/-! ### Routers -/

namespace Tree

/-- The router at a position, without its links. -/
def bareAt (t : Tree) (p : Nat × Nat) : Router :=
  { id := t.layout.idAt p.1 p.2, name := routerName (t.layout.idAt p.1 p.2), level := p.1,
    numPorts := t.shape.arity p.1 + 1, downlinks := t.below p.1 p.2, uplink := t.above p.1 p.2,
    ports := [] }

theorem Seated.bare_eq {t : Tree} {memoryName : String} {table : LinkTable} {p : Nat × Nat}
    {r : Router} (hs : t.Seated memoryName table p.1 p.2 r) : r.bare = t.bareAt p := by
  rw [Router.bare, hs.id_eq, hs.name_eq, hs.level_eq, hs.numPorts_eq, hs.downlinks_eq,
    hs.uplink_eq, bareAt]

/-- The names of the hosts play no role for the routers. -/
theorem map_bareAt_congr {t t' : Tree} (hshape : t.shape = t'.shape)
    (hlayout : t.layout = t'.layout) :
    t.positions.map t.bareAt = t'.positions.map t'.bareAt := by
  cases t
  cases t'
  cases hshape
  cases hlayout
  rfl

end Tree

namespace Topology

/-- **The routers of a built tree** are determined by its shape and layout. -/
theorem Built.map_bare {t : Topology} {table : LinkTable} (hb : t.Built table) :
    t.routers.map Router.bare = t.tree.positions.map t.tree.bareAt := by
  have h := hb.seated.imp fun _ _ hs => hs.bare_eq
  rw [← List.forall₂_eq_eq_eq, List.forall₂_map_left_iff, List.forall₂_map_right_iff]
  exact h.flip

/-! ### Routing tables -/

/-- The blocks of hosts below the routers do not depend on links. -/
theorem reachFrom_map_bare (reach : List Block) (rs : List Router) :
    reachFrom reach (rs.map Router.bare) = reachFrom reach rs := by
  induction rs generalizing reach with
  | nil => rfl
  | cons r rs ih => exact ih _

/-- **A routing table does not depend on links** and on names. -/
theorem routingTable_congr {t t' : Topology} (hhosts : t.numHosts = t'.numHosts)
    (hshape : t.tree.shape = t'.tree.shape) (hlayout : t.tree.layout = t'.tree.layout)
    (hrouters : t.routers.map Router.bare = t'.routers.map Router.bare) :
    t.routingTable = t'.routingTable := by
  have hreach : t.reach = t'.reach := by
    rw [reach, reach, ← reachFrom_map_bare, hrouters, reachFrom_map_bare]
  -- a row is made from a router without its links
  have hrows : ∀ (memory : Nat) (reach : List Block) (rs : List Router),
      rs.map (fun r => r.routes memory reach) =
        (rs.map Router.bare).map fun r => r.routes memory reach := by
    intro memory reach rs
    rw [List.map_map]
    rfl
  rw [routingTable, routingTable, hhosts, hshape, hlayout, hreach, hrows, hrouters, ← hrows]

/-- Trees of one shape have one layout, and as many hosts. -/
theorem Built.layout_eq {t t' : Topology} {table table' : LinkTable} (hb : t.Built table)
    (hb' : t'.Built table') (hshape : t.tree.shape = t'.tree.shape) :
    t.numHosts = t'.numHosts ∧ t.tree.layout = t'.tree.layout := by
  have hbalanced := hb.wellFormed.balanced
  rw [hshape] at hbalanced
  exact hbalanced.unique hb'.wellFormed.balanced

/-- **Trees of one shape have one form.** -/
theorem Built.sameForm {t t' : Topology} {table table' : LinkTable} (hb : t.Built table)
    (hb' : t'.Built table') (hshape : t.tree.shape = t'.tree.shape) : t.SameForm t' := by
  obtain ⟨hhosts, hlayout⟩ := hb.layout_eq hb' hshape
  have hrouters : t.routers.map Router.bare = t'.routers.map Router.bare := by
    rw [hb.map_bare, hb'.map_bare, Tree.map_bareAt_congr hshape hlayout]
  exact ⟨hrouters, routingTable_congr hhosts hshape hlayout hrouters⟩

/-! ### Links -/

/-- A topology was built with some options: the memory has its name from them, and the links have
their latencies from them. -/
structure BuiltWith (t : Topology) (table : LinkTable) (o : TreeOptions) : Prop
    extends t.Built table where
  memoryName_eq : t.memoryName = o.memoryName
  latency_eq : ∀ link ∈ t.links, link.latency = t.tree.latencyOf o link.endpoints

namespace BuiltWith

variable {t t' : Topology} {table table' : LinkTable} {o : TreeOptions}

/-- **The links of a built tree are determined by their endpoints.** -/
theorem content_eq (hb : t.BuiltWith table o) {link : Link} (h : link ∈ t.links) :
    link.content =
      (link.endpoints.linkName, link.endpoints, t.tree.latencyOf o link.endpoints) := by
  rw [Link.content, hb.name_eq h, hb.latency_eq link h]

theorem map_content (hb : t.BuiltWith table o) :
    t.links.map Link.content = (t.links.map Link.endpoints).map fun pair =>
      (pair.linkName, pair, t.tree.latencyOf o pair) := by
  rw [List.map_map]
  exact List.map_congr_left fun link hlink => hb.content_eq hlink

/-- Links on ports of the same position are the same. -/
theorem sameLink (hb : t.BuiltWith table o) (hb' : t'.BuiltWith table' o) (htree : t.tree = t'.tree)
    {link link' : Link} (hlink : link ∈ t.links) (hlink' : link' ∈ t'.links)
    {level index port : Nat}
    (hpair : link.endpoints = t.tree.pairOn t.memoryName level index port)
    (hpair' : link'.endpoints = t.tree.pairOn t'.memoryName level index port) :
    t.SameLink t' link.id link'.id := by
  refine ⟨link, link', hb.link?_id hlink, hb'.link?_id hlink', ?_⟩
  rw [hb.content_eq hlink, hb'.content_eq hlink', hpair, hpair', hb.memoryName_eq,
    hb'.memoryName_eq, htree]

theorem sameLink_port (hb : t.BuiltWith table o) (hb' : t'.BuiltWith table' o)
    (htree : t.tree = t'.tree) {r : Router} (hr : r ∈ t.routers) {port : Nat}
    (hport : port < r.numPorts) :
    ∃ id id', t.Binds id (r.id, port) ∧ t'.Binds id' (r.id, port) ∧ t.SameLink t' id id' := by
  obtain ⟨level, index, link, hindex, hs, hport, hlink, hid, hpair⟩ :=
    hb.exists_link_of_port hr hport
  rw [htree] at hindex hport
  obtain ⟨link', hlink', hpair', hbinds'⟩ := hb'.exists_binds hindex hport
  rw [← htree] at hpair' hbinds'
  rw [← hs.id_eq] at hbinds'
  exact ⟨link.id, link'.id, ⟨r, hb.router?_id hr, hid⟩, hbinds',
    hb.sameLink hb' htree hlink hlink' hpair hpair'⟩

theorem sameLink_hostLinks (hb : t.BuiltWith table o) (hb' : t'.BuiltWith table' o)
    (htree : t.tree = t'.tree) : List.Forall₂ (t.SameLink t') t.hostLinks t'.hostLinks := by
  have hhosts : t.numHosts = t'.numHosts := by rw [numHosts, numHosts, htree]
  refine forall₂_of_common hb.hostLinks_forall₂ (hhosts ▸ hb'.hostLinks_forall₂) ?_
  intro host hhost id id' hid hid'
  rw [List.mem_range] at hhost
  obtain ⟨link, hlink, -, hbinds, hpair⟩ := hb.exists_hostLink hhost
  obtain ⟨link', hlink', -, hbinds', hpair'⟩ := hb'.exists_hostLink (hhosts ▸ hhost)
  rw [hid.unique hbinds, hid'.unique hbinds']
  rw [← htree] at hpair'
  exact hb.sameLink hb' htree hlink hlink' hpair hpair'

end BuiltWith

/-- **Trees of one shape with the same hosts and options have the same links.** -/
theorem BuiltWith.sameLinks {t t' : Topology} {table table' : LinkTable} {o : TreeOptions}
    (hb : t.BuiltWith table o) (hb' : t'.BuiltWith table' o) (htree : t.tree = t'.tree) :
    t.SameLinks t' where
  port := fun _ hr _ hport => hb.sameLink_port hb' htree hr hport
  hostLink := hb.sameLink_hostLinks hb' htree
  memoryLink := by
    obtain ⟨-, -, link, hlink, -, hkept, hpair⟩ := hb.exists_memoryLink
    obtain ⟨-, -, link', hlink', -, hkept', hpair'⟩ := hb'.exists_memoryLink
    rw [← htree] at hpair'
    rw [hkept, hkept']
    exact hb.sameLink hb' htree hlink hlink' hpair hpair'
  links := by
    -- the endpoints are the edges of the tree, and they determine the links
    have hperm := hb'.endpoints_perm.symm
    rw [← htree, hb'.memoryName_eq, ← hb.memoryName_eq] at hperm
    rw [hb.map_content, hb'.map_content, ← htree]
    exact (hb.endpoints_perm.trans hperm).map _

end Topology

/-! ### Two builders -/

namespace Builder

theorem Registered.builtWith_of_build {b b' : Builder} (hr : b.Registered) (hb : b.Sound)
    {t : Topology} (h : b.build = .ok (t, b')) : t.BuiltWith b'.links b.options := by
  have hstep := step_of_build h
  have hbuilt := hb.built_of_build h
  have ho := (hb.extends_step hstep).options_eq
  obtain ⟨htree, hmemory⟩ := tree?_of_build h
  refine ⟨hbuilt, by rw [← hmemory, ho], fun link hlink => ?_⟩
  have hmem := (hbuilt.mem_links_iff.1 hlink).1
  have hallowed := (hr.step hb hstep).allowed _ htree link hmem
  rw [ho] at hallowed
  exact hallowed.latency_eq

theorem builtWith_of_build (o : TreeOptions) (calls : List Call) {t : Topology} {b : Builder}
    (h : ((new o).run calls).build = .ok (t, b)) : t.BuiltWith b.links o := by
  have hb := (registered_run o calls).builtWith_of_build (sound_run o calls) h
  rwa [options_run] at hb

/-- **A tree depends only on its shape**, and its links on nothing but the options and the hosts:
whatever was done with two builders before they build trees of one shape, the trees are the same
apart from the links, and with the same options and hosts the links are the same apart from their
numbers. -/
theorem sameForm_of_build (o o' : TreeOptions) (calls calls' : List Call) {t t' : Topology}
    {b b' : Builder} (h : ((new o).run calls).build = .ok (t, b))
    (h' : ((new o').run calls').build = .ok (t', b')) (hshape : t.tree.shape = t'.tree.shape) :
    t.SameForm t' ∧ (o = o' → t.tree.hostNames = t'.tree.hostNames → t.SameLinks t') := by
  have hb := builtWith_of_build o calls h
  have hb' := builtWith_of_build o' calls' h'
  refine ⟨hb.sameForm hb'.toBuilt hshape, ?_⟩
  rintro rfl hhosts
  obtain ⟨-, hlayout⟩ := hb.layout_eq hb'.toBuilt hshape
  have htree : t.tree = t'.tree := by
    rw [Tree.mk.injEq]
    exact ⟨hshape, hlayout, hhosts⟩
  exact hb.sameLinks hb' htree

/-- Two levels; one of the builders has made links of the tree in another order before, and one that
the tree does not have, so that the link to the memory has another number. -/
theorem sameForm_of_build_two_levels :
    ∃ t b t' b', ((new {}).run [.configure ⟨[2, 2], by decide, by decide⟩ 4
        ["a", "b", "c", "d"]]).build = .ok (t, b) ∧
      ((new {}).run [.configure ⟨[2, 2], by decide, by decide⟩ 4 ["a", "b", "c", "d"],
        .getLink "mem" "a", .getLink "rtr_2" "rtr_1", .getLink "rtr_0" "b"]).build = .ok (t', b') ∧
      t.tree.shape = t'.tree.shape ∧ t.tree.hostNames = t'.tree.hostNames ∧
      t.memoryLink = 6 ∧ t'.memoryLink = 7 ∧ t.SameForm t' ∧ t.SameLinks t' := by
  obtain ⟨⟨t, b⟩, h, hcheck⟩ := exists_ok_of_any
    (p := fun r => decide (r.1.tree.shape.fanouts = [2, 2] ∧
      r.1.tree.hostNames = ["a", "b", "c", "d"] ∧ r.1.memoryLink = 6))
    (x := ((new {}).run [.configure ⟨[2, 2], by decide, by decide⟩ 4 ["a", "b", "c", "d"]]).build)
    (by decide +kernel)
  obtain ⟨⟨t', b'⟩, h', hcheck'⟩ := exists_ok_of_any
    (p := fun r => decide (r.1.tree.shape.fanouts = [2, 2] ∧
      r.1.tree.hostNames = ["a", "b", "c", "d"] ∧ r.1.memoryLink = 7))
    (x := ((new {}).run [.configure ⟨[2, 2], by decide, by decide⟩ 4 ["a", "b", "c", "d"],
      .getLink "mem" "a", .getLink "rtr_2" "rtr_1", .getLink "rtr_0" "b"]).build)
    (by decide +kernel)
  obtain ⟨hshape, hhosts, hmemory⟩ := of_decide_eq_true hcheck
  obtain ⟨hshape', hhosts', hmemory'⟩ := of_decide_eq_true hcheck'
  have hsame : t.tree.shape = t'.tree.shape := by
    rw [Shape.mk.injEq]
    exact hshape.trans hshape'.symm
  have hnames := hhosts.trans hhosts'.symm
  obtain ⟨hform, hlinks⟩ := sameForm_of_build _ _ _ _ h h' hsame
  exact ⟨t, b, t', b', h, h', hsame, hnames, hmemory, hmemory', hform, hlinks rfl hnames⟩

end Builder

end Interconnect
