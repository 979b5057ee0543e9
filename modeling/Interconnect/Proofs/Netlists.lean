/-
**What a netlist shows.**

A netlist is joined from three sources: the links on the ports of the routers, the list of links,
and the routing table, which finds the place of an endpoint by dividing.  The netlist of a built
tree shows all of them without a contradiction.  Names are all that the parts of a netlist know of
each other, and every name that is used belongs to one part: a link that a port names is in the list
once, and an endpoint names one router and one port of it, which has the same link and leads to the
endpoint.

Main definitions:

* `Netlist.Port.Shows`, `Netlist.RouterEntry.Shows` — the entry of a port, and of a router;
* `Netlist.Attaches` — an endpoint names a port of a router that names it back;
* `Netlist.Shows` — a netlist shows a topology.

Main results:

* `Topology.Built.shows_routerEntry` — the entry of a router shows it;
* `Topology.Built.attaches` — endpoints are attached where the table finds them;
* `Config.exists_netlist_of_buildTopology` — every tree that is built from a configuration is
  generated, and its netlist shows it.
-/

import Interconnect.Proofs.Generation
import Interconnect.Proofs.PortTables

set_option autoImplicit false

namespace Interconnect

open Netlist

/-! ### Lists -/

section

variable {α β : Type}

/-- What is told by the places of the elements of a list. -/
theorem map_eq_map_range {f : α → β} {g : Nat → β} {xs : List α}
    (h : ∀ i x, xs[i]? = some x → f x = g i) : xs.map f = (List.range xs.length).map g := by
  refine List.ext_getElem (by rw [List.length_map, List.length_map, List.length_range])
    fun i hi _ => ?_
  rw [List.getElem_map, List.getElem_map, List.getElem_range]
  exact h i _ (List.getElem?_eq_getElem _)

/-- The elements with the key of an element are that element, if no two have the same key. -/
theorem filter_key_eq_singleton [DecidableEq β] {key : α → β} {xs : List α}
    (h : (xs.map key).Nodup) {x : α} (hx : x ∈ xs) :
    xs.filter (fun y => key y = key x) = [x] := by
  induction xs with
  | nil => cases hx
  | cons y ys ih =>
      rw [List.map_cons, List.nodup_cons] at h
      rcases List.mem_cons.1 hx with rfl | hmem
      · have hrest : ys.filter (fun z => key z = key x) = [] :=
          List.filter_eq_nil_iff.2 fun z hz heq =>
            h.1 (List.mem_map.2 ⟨z, hz, of_decide_eq_true heq⟩)
        simp only [List.filter_cons, decide_true, if_true, hrest]
      · have hne : ¬ key y = key x := fun heq => h.1 (List.mem_map.2 ⟨x, hmem, heq.symm⟩)
        rw [List.filter_cons_of_neg (by simpa using hne), ih h.2 hmem]

end

theorem portName_injective {i j : Nat} (h : portName i = portName j) : i = j := by
  have := congrArg String.toList h
  simp only [portName, String.toList_append, List.append_cancel_left_eq, String.toList_inj] at this
  exact Text.Numeral.toString_injective this

/-! ### The statement -/

namespace Netlist

/-- The entry of a port shows the name and the latency of the link on the port, and the state of the
port. -/
structure Port.Shows (e : Netlist.Port) (t : Topology) (r : Router) (port : Nat) : Prop where
  port_eq : e.port = portName port
  link : ∃ link, r.linkOnPort? port = some link.id ∧ t.link? link.id = some link ∧
    e.link = link.name ∧ e.latency = link.latency
  state_eq : r.portState? port = some e.state

/-- The entry of a router shows it and each of its ports. -/
structure RouterEntry.Shows (e : RouterEntry) (params : Config.RouterParams) (t : Topology)
    (r : Router) : Prop where
  id_eq : e.id = r.id
  name_eq : e.name = r.name
  level_eq : e.level = r.level
  params_eq : e.params = params
  numPorts_eq : e.numPorts = r.numPorts
  length_ports : e.ports.length = e.numPorts
  port : ∀ port < e.numPorts, ∃ p, e.ports[port]? = some p ∧ p.Shows t r port

/-- A link as it is listed. -/
def LinkEntry.of (l : Link) : LinkEntry :=
  { name := l.name, endpoints := l.endpoints, latency := l.latency }

/-- An endpoint names one router, one port of it and one link.  These are the router with number
`id`, its port with number `port`, and the link that the entry of the port names, which joins the
endpoint and the router. -/
def Attaches (n : Netlist) (a : Attachment) (id port : Nat) : Prop :=
  ∃ r p l, n.routers[id]? = some r ∧ r.ports[port]? = some p ∧
    n.routers.filter (fun r' => r'.name = a.router) = [r] ∧
    r.ports.filter (fun p' => p'.port = a.port) = [p] ∧
    n.links.filter (fun l' => l'.name = a.link) = [l] ∧
    p.link = a.link ∧ p.latency = l.latency ∧ p.state = .routerToNode ∧
    l.endpoints = .of a.name a.router

/-- A netlist shows a topology, and its parts know each other by names that are not ambiguous. -/
structure Shows (n : Netlist) (params : Config.RouterParams) (t : Topology) : Prop where
  name_eq : n.network.name = t.networkName
  shape_eq : n.network.shape = t.tree.shape
  totalHosts_eq : n.network.totalHosts = n.hosts.length
  numRouters_eq : n.network.numRouters = n.routers.length
  numNodes_eq : n.network.numNodes = n.hosts.length + 1
  routersPerLevel_eq : n.network.routersPerLevel = t.tree.layout.counts
  sum_routersPerLevel : n.network.routersPerLevel.sum = n.routers.length
  routers : List.Forall₂ (fun r e => e.Shows params t r) t.routers n.routers
  ids_eq : n.routers.map RouterEntry.id = List.range n.routers.length
  links_eq : n.links = t.links.map LinkEntry.of
  link_of_port : ∀ r ∈ n.routers, ∀ p ∈ r.ports, ∃ l,
    n.links.filter (fun l' => l'.name = p.link) = [l] ∧ l.latency = p.latency
  port_of_link : ∀ l ∈ n.links, ∃ r ∈ n.routers, ∃ p ∈ r.ports, p.link = l.name
  length_hosts : n.hosts.length = t.numHosts
  host : ∀ i < t.numHosts, ∃ a name, n.hosts[i]? = some a ∧ t.tree.hostNames[i]? = some name ∧
    a.name = name ∧ a.endpointId = i ∧
    n.Attaches a (i / t.tree.shape.hostsPerLeaf) (i % t.tree.shape.hostsPerLeaf)
  memory : n.memory.name = t.memoryName ∧ n.memory.endpointId = t.numHosts ∧
    ∃ root, t.root? = some root ∧ n.Attaches n.memory root.id root.uplinkPort

/-! ### What a netlist is put together from -/

theorem assemble_spec {params : Config.RouterParams} {t : Topology} {routes : RoutingTable}
    {n : Netlist} (h : assemble params t routes = .ok n) :
    List.Forall₂ (fun r e => routerEntry params t routes r = .ok e) t.routers n.routers ∧
      hostAttachments t routes 0 t.tree.hostNames = .ok n.hosts ∧
      attachment t routes t.memoryName routes.memoryEndpoint = .ok n.memory ∧
      n.links = t.links.map LinkEntry.of ∧ n.network = networkEntry t := by
  obtain ⟨routers, hrouters, h⟩ := bind_eq_ok_iff.1 h
  obtain ⟨hosts, hhosts, h⟩ := bind_eq_ok_iff.1 h
  obtain ⟨memory, hmemory, h⟩ := bind_eq_ok_iff.1 h
  cases h
  exact ⟨mapM_eq_ok_iff.1 hrouters, hhosts, hmemory, rfl, rfl⟩

end Netlist

namespace Topology.Built

open Interconnect.Tree

variable {t : Topology} {table : LinkTable} {params : Config.RouterParams}

/-! ### Routers -/

/-- The entry of a port shows it. -/
theorem shows_portEntry (hb : t.Built table) {r : Router} (hr : r ∈ t.routers) {port id : Nat}
    (hport : port < r.numPorts) (hid : r.ports[port]? = some id) {e : Netlist.Port}
    (h : portEntry t t.routingTable r port id = .ok e) : e.Shows t r port := by
  obtain ⟨level, index, link, hindex, hs, hle, hlink, hlinkid, -⟩ :=
    hb.exists_link_of_port hr hport
  obtain rfl : link.id = id := Option.some_inj.1 (hlinkid.symm.trans hid)
  rw [hb.portEntry_eq hindex hs hle hlink] at h
  cases h
  -- the state in the table is the state of the port
  obtain ⟨-, -, r', hr', hstate⟩ := hb.entry (hb.portInfo_eq hindex hle)
  rw [← hs.id_eq, hb.router?_id hr] at hr'
  cases hr'
  exact ⟨rfl, ⟨link, hid, hb.link?_id hlink, rfl, rfl⟩, hstate⟩

/-- **The entry of a router** shows it. -/
theorem shows_routerEntry (hb : t.Built table) {r : Router} (hr : r ∈ t.routers) {e : RouterEntry}
    (h : routerEntry params t t.routingTable r = .ok e) : e.Shows params t r := by
  obtain ⟨ports, hports, h⟩ := bind_eq_ok_iff.1 h
  cases h
  obtain ⟨hlength, hnth⟩ := portEntries_spec hports
  obtain ⟨level, index, -, hs⟩ := hb.exists_position_of_mem hr
  refine ⟨rfl, rfl, rfl, rfl, rfl, hlength.trans hs.length_ports, fun port hport => ?_⟩
  have hport : port < r.numPorts := hport
  obtain ⟨id, hid⟩ : ∃ id, r.ports[port]? = some id :=
    ⟨_, List.getElem?_eq_getElem (by rw [hs.length_ports]; exact hport)⟩
  obtain ⟨p, hp, hentry⟩ := hnth port id hid
  rw [Nat.zero_add] at hentry
  exact ⟨p, hp, hb.shows_portEntry hr hport hid hentry⟩

/-! ### Names -/

variable {n : Netlist}

/-- The entries of the routers are in the order of their numbers. -/
theorem map_id_entries (hb : t.Built table)
    (h : List.Forall₂ (fun r e => RouterEntry.Shows e params t r) t.routers n.routers) :
    n.routers.map RouterEntry.id = List.range n.routers.length := by
  have hids : ∀ (i : Nat) (e : RouterEntry), n.routers[i]? = some e → e.id = i := by
    intro i e he
    obtain ⟨r, hr, hshows⟩ := exists_getElem?_of_forall₂ h.flip he
    rw [hshows.id_eq, hb.id_eq hr]
  rw [map_eq_map_range hids, List.map_id']

/-- No two routers of a netlist have the same name. -/
theorem nodup_names (hb : t.Built table)
    (h : List.Forall₂ (fun r e => RouterEntry.Shows e params t r) t.routers n.routers) :
    (n.routers.map RouterEntry.name).Nodup := by
  have hnames : ∀ (i : Nat) (e : RouterEntry),
      n.routers[i]? = some e → e.name = routerName i := by
    intro i e he
    obtain ⟨r, hr, hshows⟩ := exists_getElem?_of_forall₂ h.flip he
    rw [hshows.name_eq, hb.name_eq_routerName hr]
  rw [map_eq_map_range hnames]
  exact List.nodup_range.map fun _ _ => routerName_injective

end Topology.Built

/-- No two ports of a router of a netlist have the same name. -/
theorem Netlist.RouterEntry.Shows.nodup_ports {e : RouterEntry} {params : Config.RouterParams}
    {t : Topology} {r : Router} (h : e.Shows params t r) :
    (e.ports.map Netlist.Port.port).Nodup := by
  have hports : ∀ (port : Nat) (p : Netlist.Port),
      e.ports[port]? = some p → p.port = portName port := by
    intro port p hp
    have hlt := (List.getElem?_eq_some_iff.1 hp).1
    rw [h.length_ports] at hlt
    obtain ⟨p', hp', hshows⟩ := h.port port hlt
    cases hp.symm.trans hp'
    exact hshows.port_eq
  rw [map_eq_map_range hports]
  exact List.nodup_range.map fun _ _ => portName_injective

namespace Topology.Built

open Interconnect.Tree

variable {t : Topology} {table : LinkTable} {params : Config.RouterParams} {n : Netlist}

/-- The links of a netlist with the name of a link of the tree. -/
theorem filter_links (hb : t.Built table) (h : n.links = t.links.map LinkEntry.of) {link : Link}
    (hlink : link ∈ t.links) :
    n.links.filter (fun l => l.name = link.name) = [LinkEntry.of link] := by
  have hnodup : (n.links.map LinkEntry.name).Nodup := by
    rw [h, List.map_map]
    exact hb.names_nodup
  exact filter_key_eq_singleton hnodup (by rw [h]; exact List.mem_map_of_mem hlink)

/-! ### Endpoints -/

/-- **Endpoints are attached where the table finds them**, and what they name names them back. -/
theorem attaches (hb : t.Built table)
    (hrouters : List.Forall₂ (fun r e => RouterEntry.Shows e params t r) t.routers n.routers)
    (hlinks : n.links = t.links.map LinkEntry.of) {e : Nat} (he : e ≤ t.numHosts) {name : String}
    (hname : t.tree.nameOf? t.memoryName (t.endpointAt e) = some name) {a : Attachment}
    (h : attachment t t.routingTable name e = .ok a) :
    ∃ id port, t.routingTable.destRouter e = .ok id ∧ t.routingTable.destLocalPort e = .ok port ∧
      a.name = name ∧ a.endpointId = e ∧ n.Attaches a id port := by
  obtain ⟨id, port, hrouter, hlocal, hend, r, link, name', hr, hid, hlink, hname', hpair⟩ :=
    hb.endpoint he
  cases hname.symm.trans hname'
  rw [attachment_eq hrouter hlocal hr hid hlink] at h
  cases h
  refine ⟨id, port, hrouter, hlocal, rfl, rfl, ?_⟩
  -- the port leads to the endpoint, so its state is that of a port to a node
  obtain ⟨info, hinfo, hinfoend⟩ := map_eq_ok_iff.1 ((hend id port).2 ⟨rfl, rfl⟩)
  obtain ⟨-, hnode, r', hr', hstate⟩ := hb.entry hinfo
  cases hr.symm.trans hr'
  have hnode : info.state = .routerToNode := hnode.2 (by rw [hinfoend]; rfl)
  have hport : port < r.numPorts :=
    Router.portState?_isSome_iff.1 (Option.isSome_iff_exists.2 ⟨_, hstate⟩)
  obtain ⟨re, hre, hshows⟩ := exists_getElem?_of_forall₂ hrouters hr
  obtain ⟨p, hp, hpshows⟩ := hshows.port port (by rwa [hshows.numPorts_eq])
  obtain ⟨link', hid', hlink', hlinkname, hlatency⟩ := hpshows.link
  have hsame : link'.id = link.id := Option.some_inj.1 (hid'.symm.trans hid)
  rw [hsame, hlink] at hlink'
  cases hlink'
  have hstate := hpshows.state_eq.symm.trans hstate
  rw [hnode, Option.some_inj] at hstate
  have hmem : link ∈ t.links := List.mem_of_find?_eq_some hlink
  refine ⟨re, p, LinkEntry.of link, hre, hp, ?_, ?_, hb.filter_links hlinks hmem, hlinkname,
    hlatency, hstate, ?_⟩
  · rw [← hshows.name_eq]
    exact filter_key_eq_singleton (hb.nodup_names hrouters) (List.mem_of_getElem? hre)
  · rw [← hpshows.port_eq]
    exact filter_key_eq_singleton hshows.nodup_ports (List.mem_of_getElem? hp)
  · rw [LinkEntry.of, hpair, EndpointPair.of_comm]

/-! ### All parts -/

theorem link_of_port (hb : t.Built table)
    (hrouters : List.Forall₂ (fun r e => RouterEntry.Shows e params t r) t.routers n.routers)
    (hlinks : n.links = t.links.map LinkEntry.of) {re : RouterEntry} (hre : re ∈ n.routers)
    {p : Netlist.Port} (hp : p ∈ re.ports) :
    ∃ l, n.links.filter (fun l' => l'.name = p.link) = [l] ∧ l.latency = p.latency := by
  obtain ⟨i, hi⟩ := List.mem_iff_getElem?.1 hre
  obtain ⟨r, -, hshows⟩ := exists_getElem?_of_forall₂ hrouters.flip hi
  obtain ⟨port, hport⟩ := List.mem_iff_getElem?.1 hp
  have hlt := (List.getElem?_eq_some_iff.1 hport).1
  rw [hshows.length_ports] at hlt
  obtain ⟨p', hp', hpshows⟩ := hshows.port port hlt
  cases hport.symm.trans hp'
  obtain ⟨link, -, hlink, hname, hlatency⟩ := hpshows.link
  rw [hname, hlatency]
  exact ⟨_, hb.filter_links hlinks (List.mem_of_find?_eq_some hlink), rfl⟩

theorem port_of_link (hb : t.Built table)
    (hrouters : List.Forall₂ (fun r e => RouterEntry.Shows e params t r) t.routers n.routers)
    (hlinks : n.links = t.links.map LinkEntry.of) {l : LinkEntry} (hl : l ∈ n.links) :
    ∃ re ∈ n.routers, ∃ p ∈ re.ports, p.link = l.name := by
  rw [hlinks] at hl
  obtain ⟨link, hlink, rfl⟩ := List.mem_map.1 hl
  obtain ⟨-, r, hr, hid⟩ := hb.mem_links_iff.1 hlink
  obtain ⟨port, hport⟩ := List.mem_iff_getElem?.1 hid
  obtain ⟨i, hi⟩ := List.mem_iff_getElem?.1 hr
  obtain ⟨re, hre, hshows⟩ := exists_getElem?_of_forall₂ hrouters hi
  obtain ⟨level, index, -, hs⟩ := hb.exists_position_of_mem hr
  have hlt := (List.getElem?_eq_some_iff.1 hport).1
  rw [hs.length_ports, ← hshows.numPorts_eq] at hlt
  obtain ⟨p, hp, hpshows⟩ := hshows.port port hlt
  obtain ⟨link', hid', hlink', hname, -⟩ := hpshows.link
  -- both links have the number that is on the port
  have hsame : link'.id = link.id := Option.some_inj.1 (hid'.symm.trans hport)
  rw [hsame, hb.link?_id hlink, Option.some_inj] at hlink'
  exact ⟨re, List.mem_of_getElem? hre, p, List.mem_of_getElem? hp, by rw [hname, ← hlink']; rfl⟩

/-- **The netlist of a built tree shows it.** -/
theorem shows_assemble (hb : t.Built table) (h : assemble params t t.routingTable = .ok n) :
    n.Shows params t := by
  obtain ⟨hentries, hhosts, hmemory, hlinks, hnetwork⟩ := assemble_spec h
  have hrouters : List.Forall₂ (fun r e => RouterEntry.Shows e params t r) t.routers n.routers :=
    forall₂_of_common (List.forall₂_same.2 fun _ _ => rfl) hentries fun r hr r' e hsame he => by
      cases hsame
      exact hb.shows_routerEntry hr he
  obtain ⟨hlength, hnth⟩ := hostAttachments_spec hhosts
  have hsum := hb.numRouters_eq
  rw [numRouters, hrouters.length_eq] at hsum
  refine
    { name_eq := by rw [hnetwork]; rfl
      shape_eq := by rw [hnetwork]; rfl
      totalHosts_eq := by rw [hnetwork, hlength]; rfl
      numRouters_eq := by rw [hnetwork, ← hrouters.length_eq]; rfl
      numNodes_eq := by rw [hnetwork, hlength]; rfl
      routersPerLevel_eq := by rw [hnetwork]; rfl
      sum_routersPerLevel := by rw [hnetwork, hsum]; rfl
      routers := hrouters
      ids_eq := hb.map_id_entries hrouters
      links_eq := hlinks
      link_of_port := fun _ hr _ hp => hb.link_of_port hrouters hlinks hr hp
      port_of_link := fun _ hl => hb.port_of_link hrouters hlinks hl
      length_hosts := hlength
      host := fun i hi => ?_
      memory := ?_ }
  · have hname : t.tree.nameOf? t.memoryName (.host i) = some _ := nameOf?_host hi
    obtain ⟨a, ha, hattach⟩ := hnth i _ hname
    rw [Nat.zero_add] at hattach
    have hat : t.endpointAt i = .host i := if_neg (Nat.ne_of_lt hi)
    obtain ⟨id, port, hrouter, hlocal, haname, haid, hattaches⟩ :=
      hb.attaches hrouters hlinks (Nat.le_of_lt hi) (hat ▸ hname) hattach
    cases hrouter.symm.trans (destRouter_host hi)
    cases hlocal.symm.trans (destLocalPort_host hi)
    rw [Shape.hostsPerLeaf_eq]
    exact ⟨a, _, ha, hname, haname, haid, hattaches⟩
  · have hat : t.endpointAt t.numHosts = .memory := if_pos rfl
    have hname : t.tree.nameOf? t.memoryName (t.endpointAt t.numHosts) = some t.memoryName := by
      rw [hat]
      rfl
    obtain ⟨id, port, hrouter, hlocal, haname, haid, hattaches⟩ :=
      hb.attaches hrouters hlinks (Nat.le_refl _) hname hmemory
    have hindex := hb.wellFormed.balanced.top_pos
    have htop := Nat.sub_add_cancel t.tree.shape.numLevels_pos
    obtain ⟨root, hroot, hs⟩ := hb.exists_seated hindex
    have hid := hrouter.symm.trans (destRouter_memory t)
    have hport := hlocal.symm.trans (hb.destLocalPort_memory hindex htop)
    rw [Except.ok.injEq] at hid hport
    rw [hb.wellFormed.idAt_top] at hroot
    rw [hid, hport, ← hs.uplinkPort_eq, ← hb.id_eq hroot] at hattaches
    exact ⟨haname, haid, root, hroot, hattaches⟩

end Topology.Built

/-! ### Configurations -/

namespace Config

theorem exists_built_of_buildTopology {c : Config} {t : Topology} (h : c.buildTopology = .ok t) :
    ∃ table, t.Built table := by
  obtain ⟨b, hb, h⟩ := bind_eq_ok_iff.1 h
  obtain ⟨⟨t', b'⟩, hbuild, h⟩ := bind_eq_ok_iff.1 h
  cases h
  obtain ⟨tree, -, rfl, hp⟩ := configuredBuilder_eq_ok_iff.1 hb
  have hbuild := mapError_eq_ok_iff.1 hbuild
  exact ⟨b'.links, built_of_build hp hbuild⟩

/-- **Every tree that is built from a configuration is generated**, and its netlist shows it. -/
theorem exists_netlist_of_buildTopology {c : Config} {t : Topology}
    (h : c.buildTopology = .ok t) :
    ∃ n, Netlist.assemble c.router t t.routingTable = .ok n ∧
      c.generate = .ok { topology := t, routes := t.routingTable, netlist := n } ∧
      n.Shows c.router t := by
  obtain ⟨table, hb⟩ := exists_built_of_buildTopology h
  obtain ⟨n, hn⟩ := hb.exists_assemble c.router
  have hgenerate : c.generate = .ok { topology := t, routes := t.routingTable, netlist := n } :=
    bind_eq_ok_iff.2 ⟨t, h, bind_eq_ok_iff.2 ⟨n, mapError_eq_ok_iff.2 hn, rfl⟩⟩
  exact ⟨n, hn, hgenerate, hb.shows_assemble hn⟩

/-- Two levels over hosts with names that nearly clash. -/
theorem exists_netlist_of_buildTopology_underscores :
    let c : Config := { network := { shape := "2x2", totalHosts := 4,
                                     hostNames := some ["s_rtr_1", "rtr_x_0", "a", "a_b"] } }
    ∃ t, c.buildTopology = .ok t ∧
      ∃ n, c.generate = .ok { topology := t, routes := t.routingTable, netlist := n } ∧
        n.Shows c.router t := by
  intro c
  obtain ⟨t, h⟩ := exists_ok_of_isSome (x := c.buildTopology) (by decide +kernel)
  obtain ⟨n, -, hgenerate, hshows⟩ := exists_netlist_of_buildTopology h
  exact ⟨t, h, n, hgenerate, hshows⟩

end Config

end Interconnect
