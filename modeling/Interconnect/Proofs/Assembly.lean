/-
**Netlists of built trees.**

A netlist is put together from a tree and a routing table, and every look-up in one of them can
fail.  With the routing table of the same built tree none of them does: every port has a link that
was kept and a state, and every endpoint is attached to a port that has a link.

Main results:

* `Topology.Built.portEntry_eq` — the entry of a port;
* `Topology.Built.exists_attachment` — an endpoint on a port is attached there;
* `Topology.Built.exists_assemble` — the netlist of a built tree is put together.
-/

import Interconnect.Netlist.Basic
import Interconnect.Proofs.Connections
import Interconnect.Proofs.RoutingTables

set_option autoImplicit false

namespace Interconnect

open Netlist

namespace Topology.Built

open Interconnect.Tree

variable {t : Topology} {table : LinkTable} {level index : Nat}

/-! ### Routers -/

/-- The entry of a port has the link on the port and the state that the table knows. -/
theorem portEntry_eq (hb : t.Built table) (h : index < t.tree.layout.count level) {r : Router}
    (hs : t.tree.Seated t.memoryName table level index r) {port : Nat}
    (hport : port ≤ t.tree.shape.arity level) {link : Link} (hlink : link ∈ t.links) :
    portEntry t t.routingTable r port link.id =
      .ok { port := portName port, link := link.name, latency := link.latency,
            state := ((t.tree.facing level index port).info t.numHosts).state } := by
  have hstate : t.routingTable.portState r.id port =
      .ok ((t.tree.facing level index port).info t.numHosts).state := by
    rw [hs.id_eq, RoutingTable.portState, hb.portInfo_eq h hport]
    rfl
  unfold portEntry
  rw [hb.link?_id hlink]
  simp only [hstate]

/-- The ports of a router from some port on have entries. -/
theorem exists_portEntries (hb : t.Built table) (h : index < t.tree.layout.count level) {r : Router}
    (hs : t.tree.Seated t.memoryName table level index r) {ids : List Nat} {port : Nat}
    (hids : ∀ i id, ids[i]? = some id →
      port + i ≤ t.tree.shape.arity level ∧ ∃ link ∈ t.links, link.id = id) :
    ∃ entries, portEntries t t.routingTable r port ids = .ok entries := by
  refine exists_eachFrom_eq_ok (g := portEntries t t.routingTable r) (fun _ => rfl)
    (fun _ _ _ => rfl) fun i id hid => ?_
  obtain ⟨hport, link, hlink, rfl⟩ := hids i id hid
  exact ⟨_, hb.portEntry_eq h hs hport hlink⟩

theorem exists_routerEntry (hb : t.Built table) (params : Config.RouterParams) {r : Router}
    (hr : r ∈ t.routers) : ∃ entry, routerEntry params t t.routingTable r = .ok entry := by
  obtain ⟨level, index, hindex, hs⟩ := hb.exists_position_of_mem hr
  have hids : ∀ port id, r.ports[port]? = some id →
      0 + port ≤ t.tree.shape.arity level ∧ ∃ link ∈ t.links, link.id = id := by
    intro port id hid
    have hlt := (List.getElem?_eq_some_iff.1 hid).1
    rw [hs.length_ports, hs.numPorts_eq] at hlt
    have hport : port ≤ t.tree.shape.arity level := Nat.le_of_lt_succ hlt
    -- the router that is found by its number is the one of the list
    obtain ⟨link, hlink, -, r', hr', hid'⟩ := hb.exists_binds hindex hport
    have hsame := hb.router?_id hr
    rw [hs.id_eq] at hsame
    cases hsame.symm.trans hr'
    exact ⟨by rwa [Nat.zero_add], link, hlink, Option.some_inj.1 (hid'.symm.trans hid)⟩
  obtain ⟨entries, hentries⟩ := hb.exists_portEntries hindex hs hids
  exact ⟨_, bind_eq_ok_iff.2 ⟨entries, hentries, rfl⟩⟩

/-! ### Endpoints -/

/-- The entry of an endpoint names the router, the port and the link that are found. -/
theorem attachment_eq {e id port : Nat} (hrouter : t.routingTable.destRouter e = .ok id)
    (hlocal : t.routingTable.destLocalPort e = .ok port) {r : Router} (hr : t.router? id = some r)
    {link : Link} (hid : r.linkOnPort? port = some link.id) (hlink : t.link? link.id = some link)
    (name : String) :
    attachment t t.routingTable name e =
      .ok { name, endpointId := e, link := link.name, router := r.name,
            port := portName port } := by
  have hfound : (r.linkOnPort? port).bind t.link? = some link := by
    rw [hid, Option.bind_some, hlink]
  refine bind_eq_ok_iff.2 ⟨_, mapError_eq_ok_iff.2 hrouter,
    bind_eq_ok_iff.2 ⟨_, mapError_eq_ok_iff.2 hlocal, ?_⟩⟩
  simp only [hr, hfound]
  rfl

/-- An endpoint that the table attaches to a port of the tree is attached there. -/
theorem exists_attachment (hb : t.Built table) (h : index < t.tree.layout.count level)
    {port endpoint : Nat} (hport : port ≤ t.tree.shape.arity level)
    (hrouter : t.routingTable.destRouter endpoint = .ok (t.tree.layout.idAt level index))
    (hlocal : t.routingTable.destLocalPort endpoint = .ok port) (name : String) :
    ∃ entry, attachment t t.routingTable name endpoint = .ok entry := by
  obtain ⟨link, hlink, -, r, hr, hid⟩ := hb.exists_binds h hport
  exact ⟨_, attachment_eq hrouter hlocal hr hid (hb.link?_id hlink) name⟩

theorem exists_hostAttachments (hb : t.Built table) {host : Nat} {names : List String}
    (h : host + names.length ≤ t.numHosts) :
    ∃ entries, hostAttachments t t.routingTable host names = .ok entries := by
  refine exists_eachFrom_eq_ok (f := fun i name => attachment t t.routingTable name i)
    (g := hostAttachments t t.routingTable) (fun _ => rfl) (fun _ _ _ => rfl) fun i name hi => ?_
  have hlength := (List.getElem?_eq_some_iff.1 hi).1
  have hlt : host + i < t.numHosts := by omega
  have hrouter : t.routingTable.destRouter (host + i) =
      .ok (t.tree.layout.idAt 0 ((host + i) / t.tree.shape.arity 0)) := by
    rw [destRouter_host hlt, Layout.idAt_zero]
  exact hb.exists_attachment (hb.wellFormed.balanced.leaf_lt hlt)
    (Nat.le_of_lt (Nat.mod_lt _ (t.tree.shape.arity_pos 0))) hrouter (destLocalPort_host hlt) name

theorem exists_memoryAttachment (hb : t.Built table) :
    ∃ entry,
      attachment t t.routingTable t.memoryName t.routingTable.memoryEndpoint = .ok entry := by
  have hw := hb.wellFormed
  have htop := Nat.sub_add_cancel t.tree.shape.numLevels_pos
  have hindex := hw.balanced.top_pos
  have hrouter := destRouter_memory t
  rw [← hw.idAt_top] at hrouter
  exact hb.exists_attachment hindex (Nat.le_refl _) hrouter (hb.destLocalPort_memory hindex htop) _

/-! ### Netlists -/

/-- **The netlist of a built tree is put together.** -/
theorem exists_assemble (hb : t.Built table) (params : Config.RouterParams) :
    ∃ netlist, assemble params t t.routingTable = .ok netlist := by
  obtain ⟨routers, hrouters⟩ := exists_mapM_eq_ok fun r hr => hb.exists_routerEntry params hr
  have hnames : 0 + t.tree.hostNames.length ≤ t.numHosts := by
    rw [Nat.zero_add]
    exact Nat.le_refl _
  obtain ⟨hosts, hhosts⟩ := hb.exists_hostAttachments hnames
  obtain ⟨memory, hmemory⟩ := hb.exists_memoryAttachment
  exact ⟨_, bind_eq_ok_iff.2 ⟨routers, hrouters, bind_eq_ok_iff.2 ⟨hosts, hhosts,
    bind_eq_ok_iff.2 ⟨memory, hmemory, rfl⟩⟩⟩⟩

end Topology.Built

/-! ### What a netlist needs -/

namespace Netlist

theorem portEntries_spec {t : Topology} {routes : RoutingTable} {r : Router} {port : Nat}
    {ids : List Nat} {entries : List Netlist.Port}
    (h : portEntries t routes r port ids = .ok entries) :
    entries.length = ids.length ∧ ∀ i id, ids[i]? = some id →
      ∃ e, entries[i]? = some e ∧ portEntry t routes r (port + i) id = .ok e :=
  getElem?_of_eachFrom (g := portEntries t routes r) (fun _ => rfl) (fun _ _ _ => rfl) h

theorem hostAttachments_spec {t : Topology} {routes : RoutingTable} {host : Nat}
    {names : List String} {entries : List Attachment}
    (h : hostAttachments t routes host names = .ok entries) :
    entries.length = names.length ∧ ∀ i name, names[i]? = some name →
      ∃ a, entries[i]? = some a ∧ attachment t routes name (host + i) = .ok a :=
  getElem?_of_eachFrom (f := fun i name => attachment t routes name i)
    (g := hostAttachments t routes) (fun _ => rfl) (fun _ _ _ => rfl) h

end Netlist

end Interconnect
