/-
**Wiring the routers of a tree.**

Building makes the routers one after the other and connects every port to what it leads to.  This
module says what comes out of that for a well-formed tree: a router at every position, in the order
of the numbers, with the right level, downlinks and uplink, and on every port the number of a link
whose ends are the name of the router and the name of what the port leads to.

Main definitions:

* `Tree.nameOf?`, `Tree.nameOf` — the name of a component;
* `Tree.positions` — all positions of routers, in the order of their numbers;
* `Tree.Seated` — a router stands at a position and its ports are connected in a table;
* `Tree.IsWired` — a router was made for its number.

Main results:

* `Tree.wireRouters_spec` — making routers grows the table and leaves every router wired;
* `Tree.WellFormed.map_idAt_positions` — the positions have all numbers of routers, in order;
* `Tree.WellFormed.seated_of_wireRouters` — making all routers puts one on every position;
* `Tree.WellFormed.isAmong_of_wireRouters` — it fails only for a name that two links would have.
-/

import Interconnect.Proofs.LinkTables
import Interconnect.Proofs.Places

set_option autoImplicit false

namespace Interconnect

open EndpointPair

/-- The latency of the links to a component, when it is a host and when it is none. -/
def TreeOptions.latencyTo (o : TreeOptions) : Component → Latency
  | .host _ => o.hostLatency
  | .router _ => o.linkLatency
  | .memory => o.linkLatency

namespace Tree

/-! ### Names of components -/

/-- The name of a component, if the tree has it. -/
def nameOf? (t : Tree) (memoryName : String) : Component → Option String
  | .host id => t.hostNames[id]?
  | .router id => some (routerName id)
  | .memory => some memoryName

/-- The name of a component of the tree. -/
def nameOf (t : Tree) (memoryName : String) (c : Component) : String :=
  (t.nameOf? memoryName c).getD ""

@[simp] theorem nameOf_router (t : Tree) (memoryName : String) (id : Nat) :
    t.nameOf memoryName (.router id) = routerName id := rfl

@[simp] theorem nameOf_memory (t : Tree) (memoryName : String) :
    t.nameOf memoryName .memory = memoryName := rfl

theorem nameOf?_host {t : Tree} {memoryName : String} {id : Nat} (h : id < t.hostNames.length) :
    t.nameOf? memoryName (.host id) = some (t.nameOf memoryName (.host id)) := by
  simp [nameOf, nameOf?, h]

theorem nameOf_host {t : Tree} {memoryName : String} {id : Nat} (h : id < t.hostNames.length) :
    t.nameOf memoryName (.host id) = t.hostNames[id] := by
  simp [nameOf, nameOf?, h]

/-! ### Wires of one router -/

/-- The wire from the router with a number to a component. -/
def wireTo (t : Tree) (o : TreeOptions) (id : Nat) (c : Component) : Wire :=
  { ends := .of (routerName id) (t.nameOf o.memoryName c), latency := o.latencyTo c }

/-- The wires of a router go to what its ports lead to. -/
theorem wires_eq {t : Tree} {o : TreeOptions} {place : Place} (id : Nat)
    (h : ∀ host ∈ place.downlinks.hostIds, host < t.hostNames.length) :
    t.wires o id place =
      .ok ((place.downlinks.components ++ [place.uplink.component]).map (t.wireTo o id)) := by
  have hup : (t.wireTo o id place.uplink.component) =
      { ends := .of (routerName id) (uplinkName o place.uplink), latency := o.linkLatency } := by
    cases place.uplink <;> rfl
  have hdown : t.wiresDown o (routerName id) place.downlinks =
      .ok (place.downlinks.components.map (t.wireTo o id)) := by
    cases hd : place.downlinks with
    | hosts ids =>
        rw [hd] at h
        simp only [wiresDown, Downlinks.components, List.map_map]
        -- a host names itself first, which is the same pair
        refine mapM_eq_ok_map fun host hhost => ?_
        have hlt := h host hhost
        have hname : t.hostName host = .ok t.hostNames[host] := by
          simp [hostName, hlt]
        rw [bind_eq_ok_iff]
        refine ⟨_, hname, ?_⟩
        simp only [Function.comp, wireTo, nameOf_host hlt, of_comm (routerName id)]
        rfl
    | routers ids =>
        simp only [wiresDown, Downlinks.components, List.map_map, Except.ok.injEq]
        refine List.map_congr_left fun child _ => ?_
        simp only [Function.comp, wireTo, nameOf_router, of_comm (routerName id)]
        rfl
  unfold wires
  rw [hdown, List.map_append, List.map_singleton, hup]
  rfl

/-! ### Making routers -/

/-- A router was made for its number, and its ports are connected in a table. -/
def IsWired (t : Tree) (o : TreeOptions) (table : LinkTable) (id : Nat) (r : Router) : Prop :=
  ∃ place ws, t.place id = .ok place ∧ t.wires o id place = .ok ws ∧
    r = { id, name := routerName id, level := place.level, numPorts := place.fanout + 1,
          downlinks := place.downlinks, uplink := place.uplink, ports := r.ports } ∧
    List.Forall₂ (fun port w => table.Joins port w.ends) r.ports ws

/-- One of the wires of the routers with the given numbers. -/
def Needs (t : Tree) (o : TreeOptions) (ids : List Nat) (w : Wire) : Prop :=
  ∃ id ∈ ids, ∃ place ws, t.place id = .ok place ∧ t.wires o id place = .ok ws ∧ w ∈ ws

theorem IsWired.of_growsTo {t : Tree} {o : TreeOptions} {table table' : LinkTable} {id : Nat}
    {r : Router} {wanted : Wire → Prop} (hg : table.GrowsTo wanted table')
    (h : t.IsWired o table id r) : t.IsWired o table' id r := by
  obtain ⟨place, ws, hplace, hws, hr, hports⟩ := h
  exact ⟨place, ws, hplace, hws, hr, hports.imp fun _ _ => hg.joins⟩

theorem wireRouter_spec {t : Tree} {o : TreeOptions} {table table' : LinkTable} {id : Nat}
    {r : Router} (hc : table.Consistent) (h : t.wireRouter o table id = .ok (r, table')) :
    table.GrowsTo (t.Needs o [id]) table' ∧ t.IsWired o table' id r := by
  unfold wireRouter at h
  obtain ⟨place, hplace, h⟩ := bind_eq_ok_iff.1 h
  obtain ⟨ws, hws, h⟩ := bind_eq_ok_iff.1 h
  obtain ⟨⟨ports, table₁⟩, hconnect, h⟩ := bind_eq_ok_iff.1 h
  cases h
  obtain ⟨hgrow, hjoin⟩ := LinkTable.connectAll_spec hc (mapError_eq_ok_iff.1 hconnect)
  refine ⟨hgrow.mono fun w hw => ⟨id, List.mem_singleton_self _, place, ws, hplace, hws, hw⟩, ?_⟩
  exact ⟨place, ws, hplace, hws, rfl, hjoin⟩

/-- **Making routers** grows the table for their wires and leaves every router wired. -/
theorem wireRouters_spec {t : Tree} {o : TreeOptions} {table table' : LinkTable} {ids : List Nat}
    {routers : List Router} (hc : table.Consistent)
    (h : t.wireRouters o table ids = .ok (routers, table')) :
    table.GrowsTo (t.Needs o ids) table' ∧ List.Forall₂ (t.IsWired o table') ids routers := by
  induction ids generalizing table routers with
  | nil =>
      cases h
      exact ⟨.refl _ _, .nil⟩
  | cons id ids ih =>
      rw [wireRouters] at h
      obtain ⟨⟨r, table₁⟩, hfirst, h⟩ := bind_eq_ok_iff.1 h
      obtain ⟨⟨rest, table₂⟩, hrest, h⟩ := bind_eq_ok_iff.1 h
      cases h
      obtain ⟨hgrow, hwired⟩ := wireRouter_spec hc hfirst
      obtain ⟨hgrow', hwireds⟩ := ih (hgrow.consistent hc) hrest
      -- the first router stays wired while the table grows for the others
      refine ⟨(hgrow.mono ?_).trans (hgrow'.mono ?_), .cons (hwired.of_growsTo hgrow') hwireds⟩
      · rintro w ⟨i, hi, hw⟩
        exact ⟨i, by rw [List.mem_singleton.1 hi]; exact List.mem_cons_self, hw⟩
      · rintro w ⟨i, hi, hw⟩
        exact ⟨i, List.mem_cons_of_mem _ hi, hw⟩

theorem linkOn_eq_ok_iff {routers : List Router} {id link : Nat} {port : Router → Nat} :
    linkOn routers id port = .ok link ↔
      ∃ r, routers[id]? = some r ∧ r.linkOnPort? (port r) = some link := by
  unfold linkOn
  split
  · simp [*]
  · split <;> simp [*]

/-! ### All positions -/

/-- The positions of the routers of a tree as levels and indices, in the order of the numbers. -/
def positions (t : Tree) : List (Nat × Nat) :=
  (List.range t.shape.numLevels).flatMap fun level =>
    (List.range (t.layout.count level)).map fun index => (level, index)

/-- A router stands at a position: it has the number, the name, the level, the downlinks and the
uplink of the position, and every port is connected in a table to what it leads to. -/
structure Seated (t : Tree) (memoryName : String) (table : LinkTable) (level index : Nat)
    (r : Router) : Prop where
  id_eq : r.id = t.layout.idAt level index
  name_eq : r.name = routerName (t.layout.idAt level index)
  level_eq : r.level = level
  numPorts_eq : r.numPorts = t.shape.arity level + 1
  downlinks_eq : r.downlinks = t.below level index
  uplink_eq : r.uplink = t.above level index
  ports : List.Forall₂ (fun id c => table.Joins id (.of r.name (t.nameOf memoryName c)))
    r.ports r.faces

theorem mem_positions {t : Tree} {level index : Nat} :
    (level, index) ∈ t.positions ↔ level < t.shape.numLevels ∧ index < t.layout.count level := by
  simp [positions]

namespace Seated

variable {t : Tree} {memoryName : String} {table : LinkTable} {level index : Nat} {r : Router}

theorem faces_eq (hs : t.Seated memoryName table level index r) :
    r.faces = (List.range (t.shape.arity level + 1)).map (t.facing level index) := by
  rw [Router.faces, hs.downlinks_eq, hs.uplink_eq, components_eq_map_facing]

theorem uplinkPort_eq (hs : t.Seated memoryName table level index r) :
    r.uplinkPort = t.shape.arity level := by
  rw [Router.uplinkPort, hs.numPorts_eq, Nat.add_sub_cancel]

theorem length_ports (hs : t.Seated memoryName table level index r) :
    r.ports.length = r.numPorts := by
  rw [hs.ports.length_eq, hs.faces_eq, List.length_map, List.length_range, hs.numPorts_eq]

theorem faces_getElem? (hs : t.Seated memoryName table level index r) {port : Nat}
    (h : port ≤ t.shape.arity level) : r.faces[port]? = some (t.facing level index port) := by
  rw [hs.faces_eq, List.getElem?_map, List.getElem?_range (by omega)]
  rfl

/-- What the ports of a router lead down to. -/
theorem components_getElem?_eq_some_iff {port : Nat} {c : Component}
    (hs : t.Seated memoryName table level index r) :
    r.downlinks.components[port]? = some c ↔
      port < t.shape.arity level ∧ c = t.under level (index * t.shape.arity level + port) := by
  rw [hs.downlinks_eq, components_below, List.getElem?_map]
  rcases Nat.lt_or_ge port (t.shape.arity level) with hlt | hge
  · rw [List.getElem?_range hlt, Option.map_some, Option.some_inj, eq_comm]
    exact ⟨fun h => ⟨hlt, h⟩, And.right⟩
  · rw [List.getElem?_eq_none (by rwa [List.length_range])]
    exact ⟨nofun, fun h => absurd h.1 (Nat.not_lt.2 hge)⟩

/-- Every port has a link to what it leads to. -/
theorem exists_joins (hs : t.Seated memoryName table level index r) {port : Nat}
    (h : port ≤ t.shape.arity level) :
    ∃ id, r.ports[port]? = some id ∧
      table.Joins id (.of r.name (t.nameOf memoryName (t.facing level index port))) :=
  exists_getElem?_of_forall₂ hs.ports.flip (hs.faces_getElem? h)

end Seated

namespace WellFormed

variable {t : Tree}

/-- **The positions have all numbers of routers, in order.** -/
theorem map_idAt_positions (hw : t.WellFormed) :
    t.positions.map (fun p => t.layout.idAt p.1 p.2) = List.range t.layout.totalRouters := by
  -- by induction on the number of levels, whose routers have the numbers below `first`
  have key : ∀ n, ((List.range n).flatMap fun level =>
      (List.range (t.layout.count level)).map (t.layout.idAt level)) =
        List.range (t.layout.first n) := by
    intro n
    induction n with
    | zero => simp
    | succ n ih =>
        rw [List.range_succ, List.flatMap_append, ih, Layout.first_succ, List.range_add]
        simp only [List.flatMap_cons, List.flatMap_nil, List.append_nil]
        rfl
  rw [positions, List.map_flatMap, Layout.totalRouters_eq, ← Layout.first_numLevels,
    hw.balanced.numLevels_eq, ← key]
  refine List.flatMap_congr fun level _ => ?_
  rw [List.map_map]
  rfl

theorem length_positions (hw : t.WellFormed) : t.positions.length = t.layout.totalRouters := by
  have hlength := congrArg List.length hw.map_idAt_positions
  rwa [List.length_map, List.length_range] at hlength

/-- The position at the place of a number has the number. -/
theorem idAt_of_positions_getElem? (hw : t.WellFormed) {id : Nat} {p : Nat × Nat}
    (h : t.positions[id]? = some p) : t.layout.idAt p.1 p.2 = id := by
  have hid := congrArg (fun ids => ids[id]?) hw.map_idAt_positions
  simp only [List.getElem?_map, h, Option.map_some] at hid
  have hlt := (List.getElem?_eq_some_iff.1 hid.symm).1
  rw [List.getElem?_range (by rwa [List.length_range] at hlt), Option.some_inj] at hid
  exact hid

theorem positions_getElem? (hw : t.WellFormed) {level index : Nat}
    (h : index < t.layout.count level) :
    t.positions[t.layout.idAt level index]? = some (level, index) := by
  have hmem : (level, index) ∈ t.positions :=
    mem_positions.2 ⟨hw.balanced.lt_numLevels h, h⟩
  obtain ⟨id, hid⟩ := List.mem_iff_getElem?.1 hmem
  rwa [hw.idAt_of_positions_getElem? hid]

theorem hostIds_below_lt (hw : t.WellFormed) {level index : Nat}
    (h : index < t.layout.count level) :
    ∀ host ∈ (t.below level index).hostIds, host < t.hostNames.length := by
  intro host hhost
  cases level with
  | zero =>
      rw [below, Downlinks.hostIds, List.mem_range'_1] at hhost
      obtain ⟨port, rfl⟩ := Nat.exists_eq_add_of_le hhost.1
      exact hw.balanced.host_lt h (by omega)
  | succ low => simp [below, Downlinks.hostIds] at hhost

/-- The wires of the router at a position. -/
theorem wires_idAt (hw : t.WellFormed) (o : TreeOptions) {level index : Nat}
    (h : index < t.layout.count level) :
    t.wires o (t.layout.idAt level index)
        { level, fanout := t.shape.arity level, downlinks := t.below level index,
          uplink := t.above level index } =
      .ok (((t.below level index).components ++ [(t.above level index).component]).map
        (t.wireTo o (t.layout.idAt level index))) :=
  wires_eq _ (hw.hostIds_below_lt h)

theorem seated_of_isWired (hw : t.WellFormed) {o : TreeOptions} {table : LinkTable}
    {level index : Nat} {r : Router} (h : index < t.layout.count level)
    (hr : t.IsWired o table (t.layout.idAt level index) r) :
    t.Seated o.memoryName table level index r := by
  obtain ⟨place, ws, hplace, hws, hr, hports⟩ := hr
  rw [hw.place_idAt h, Except.ok.injEq] at hplace
  subst hplace
  rw [hw.wires_idAt o h, Except.ok.injEq] at hws
  subst hws
  rw [List.forall₂_map_right_iff] at hports
  rw [hr]
  exact ⟨rfl, rfl, rfl, rfl, rfl, rfl, hports⟩

/-- **Making all routers puts one on every position.** -/
theorem seated_of_wireRouters (hw : t.WellFormed) {o : TreeOptions} {table table' : LinkTable}
    {routers : List Router} (hc : table.Consistent)
    (h : t.wireRouters o table (List.range t.layout.totalRouters) = .ok (routers, table')) :
    List.Forall₂ (fun p r => t.Seated o.memoryName table' p.1 p.2 r) t.positions routers := by
  obtain ⟨-, hwired⟩ := wireRouters_spec hc h
  rw [← hw.map_idAt_positions, List.forall₂_map_left_iff] at hwired
  rw [List.forall₂_iff_zip] at hwired ⊢
  refine ⟨hwired.1, fun {p r} hp => ?_⟩
  have hmem : (p.1, p.2) ∈ t.positions := (List.of_mem_zip hp).1
  exact hw.seated_of_isWired (mem_positions.1 hmem).2 (hwired.2 hp)

/-! ### The links to the hosts and to the memory -/

/-- With a router on every position there is a link on every port. -/
theorem exists_linkOn (hw : t.WellFormed) {memoryName : String} {table : LinkTable}
    {routers : List Router}
    (h : List.Forall₂ (fun p r => t.Seated memoryName table p.1 p.2 r) t.positions routers)
    {level index : Nat} (hindex : index < t.layout.count level) {port : Router → Nat}
    (hport : ∀ r, t.Seated memoryName table level index r → port r ≤ t.shape.arity level) :
    ∃ id, linkOn routers (t.layout.idAt level index) port = .ok id := by
  obtain ⟨r, hr, hs⟩ := exists_getElem?_of_forall₂ h (hw.positions_getElem? hindex)
  obtain ⟨id, hid, -⟩ := hs.exists_joins (hport r hs)
  exact ⟨id, linkOn_eq_ok_iff.2 ⟨r, hr, hid⟩⟩

theorem exists_hostLinks (hw : t.WellFormed) {memoryName : String} {table : LinkTable}
    {routers : List Router}
    (h : List.Forall₂ (fun p r => t.Seated memoryName table p.1 p.2 r) t.positions routers) :
    ∃ ids, t.hostLinks routers = .ok ids := by
  refine exists_mapM_eq_ok fun host hhost => ?_
  have hleaf := hw.balanced.leaf_lt (List.mem_range.1 hhost)
  rw [Shape.hostsPerLeaf_eq, ← t.layout.idAt_zero (host / t.shape.arity 0)]
  exact hw.exists_linkOn h hleaf fun _ _ => Nat.le_of_lt (Nat.mod_lt host (t.shape.arity_pos 0))

theorem exists_memoryLink (hw : t.WellFormed) {memoryName : String} {table : LinkTable}
    {routers : List Router}
    (h : List.Forall₂ (fun p r => t.Seated memoryName table p.1 p.2 r) t.positions routers) :
    ∃ id, t.memoryLink routers = .ok id := by
  rw [memoryLink, ← hw.idAt_top]
  exact hw.exists_linkOn h hw.balanced.top_pos fun _ hs => Nat.le_of_eq hs.uplinkPort_eq

end WellFormed

/-! ### The edges of a tree -/

/-- The pairs that a tree connects: every host with its leaf router, and every router with its
parent, the root with the memory. -/
def edges (t : Tree) (memoryName : String) : List EndpointPair :=
  ((List.range t.hostNames.length).map fun host =>
      .of (t.nameOf memoryName (.host host)) (routerName (host / t.shape.arity 0))) ++
    t.positions.map fun p =>
      .of (routerName (t.layout.idAt p.1 p.2)) (t.nameOf memoryName (t.above p.1 p.2).component)

theorem length_edges (t : Tree) (memoryName : String) :
    (t.edges memoryName).length = t.hostNames.length + t.positions.length := by
  rw [edges, List.length_append, List.length_map, List.length_map, List.length_range]

namespace WellFormed

variable {t : Tree}

theorem host_edge_mem (memoryName : String) {host : Nat} (h : host < t.hostNames.length) :
    .of (t.nameOf memoryName (.host host)) (routerName (host / t.shape.arity 0)) ∈
      t.edges memoryName :=
  List.mem_append_left _ (List.mem_map.2 ⟨host, List.mem_range.2 h, rfl⟩)

theorem up_edge_mem (hw : t.WellFormed) (memoryName : String) {level index : Nat}
    (h : index < t.layout.count level) :
    .of (routerName (t.layout.idAt level index))
        (t.nameOf memoryName (t.above level index).component) ∈ t.edges memoryName :=
  List.mem_append_right _
    (List.mem_map.2 ⟨(level, index), mem_positions.2 ⟨hw.balanced.lt_numLevels h, h⟩, rfl⟩)

/-- **The wire of every port is an edge of the tree.** -/
theorem facing_edge_mem (hw : t.WellFormed) (memoryName : String) {level index port : Nat}
    (h : index < t.layout.count level) :
    .of (routerName (t.layout.idAt level index))
        (t.nameOf memoryName (t.facing level index port)) ∈ t.edges memoryName := by
  by_cases hport : port < t.shape.arity level
  · rw [facing_of_lt hport, of_comm]
    cases level with
    | zero =>
        have hmem := host_edge_mem memoryName (hw.balanced.host_lt h hport)
        rw [Layout.Balanced.child_div hport] at hmem
        rwa [Layout.idAt_zero]
    | succ low =>
        have hmem := hw.up_edge_mem memoryName (hw.balanced.child_lt h hport)
        rwa [hw.above_child h hport] at hmem
  · rw [facing, if_neg hport]
    exact hw.up_edge_mem memoryName h

theorem ends_mem_edges (hw : t.WellFormed) (o : TreeOptions) {level index : Nat}
    (h : index < t.layout.count level) :
    ∀ w ∈ ((t.below level index).components ++ [(t.above level index).component]).map
      (t.wireTo o (t.layout.idAt level index)), w.ends ∈ t.edges o.memoryName := by
  intro w hmem
  rw [components_eq_map_facing] at hmem
  obtain ⟨c, hc, rfl⟩ := List.mem_map.1 hmem
  obtain ⟨port, -, rfl⟩ := List.mem_map.1 hc
  exact hw.facing_edge_mem o.memoryName h

/-! ### Why making routers fails -/

/-- **Making routers fails** only for two of the pairs that have one link name. -/
theorem isAmong_of_wireRouters (hw : t.WellFormed) {o : TreeOptions} {table : LinkTable}
    {ids : List Nat} {pairs : List EndpointPair} {e : TreeError} (hc : table.Consistent)
    (ht : ∀ l ∈ table.links, l.endpoints ∈ pairs) (he : t.edges o.memoryName ⊆ pairs)
    (hids : ∀ id ∈ ids, id < t.layout.totalRouters) (h : t.wireRouters o table ids = .error e) :
    ∃ clash, e = .configuration (.linkName clash) ∧ clash.IsAmong pairs := by
  induction ids generalizing table with
  | nil => cases h
  | cons id ids ih =>
      have hid := hids _ List.mem_cons_self
      obtain ⟨level, index, hindex, rfl⟩ := Layout.exists_idAt_of_lt_totalRouters hid
      have hwires := hw.wires_idAt o hindex
      have hends := fun w hmem => he (hw.ends_mem_edges o hindex w hmem)
      rw [wireRouters] at h
      rcases bind_eq_error_iff.1 h with hfirst | ⟨⟨r, table₁⟩, hfirst, h⟩
      · -- the place and the wires are known, so only connecting can have failed
        unfold wireRouter at hfirst
        rw [hw.place_idAt hindex] at hfirst
        rcases bind_eq_error_iff.1 hfirst with hplace | ⟨place, hplace, h⟩
        · cases hplace
        cases hplace
        rcases bind_eq_error_iff.1 h with hws | ⟨ws, hws, h⟩
        · cases hwires.symm.trans hws
        cases hwires.symm.trans hws
        rcases bind_eq_error_iff.1 h with hconnect | ⟨_, -, h⟩
        · obtain ⟨clash, hclash, rfl⟩ := mapError_eq_error_iff.1 hconnect
          exact ⟨clash, rfl, LinkTable.isAmong_of_connectAll hc ht hends hclash⟩
        · cases h
      · -- the first router adds links for its own wires only, which are edges of the tree
        obtain ⟨hgrow, -⟩ := wireRouter_spec hc hfirst
        have ht₁ : ∀ l ∈ table₁.links, l.endpoints ∈ pairs := by
          refine hgrow.endpoints_subset ht fun w hw' => ?_
          obtain ⟨id, hid, place, ws, hplace, hws, hmem⟩ := hw'
          rw [List.mem_singleton.1 hid] at hplace hws
          cases (hw.place_idAt hindex).symm.trans hplace
          cases hwires.symm.trans hws
          exact hends w hmem
        rcases bind_eq_error_iff.1 h with hrest | ⟨_, -, h⟩
        · exact ih (hgrow.consistent hc) ht₁ (fun i hi => hids i (List.mem_cons_of_mem _ hi)) hrest
        · cases h

end WellFormed

end Tree

end Interconnect
