/-
**Delivery.**

A packet that starts at any router and follows the ports of the routing table reaches the router of
its destination.  The way is known beforehand: it goes up until the destination is below, and down
from there.  Routes are defined by exactly these two kinds of steps, so that every property of the
way is one induction over them: its length, that no router is passed twice, and that it never turns
up again once it has gone down.

Main definitions:

* `Tree.Route` — the way from a position to the router of an endpoint;
* `RoutingTable.Forwards`, `RoutingTable.Arrives` — what a router does with a packet, by the table;
* `Topology.Delivery` — a walk delivers a packet.

Main results:

* `Tree.WellFormed.exists_route` — there is a route from every position;
* `Tree.Route.length_le`, `Tree.Route.nodup`, `Tree.Route.up_then_down` — what routes look like;
* `Topology.Built.isChain_forwards`, `Topology.Built.delivery_of_route` — the table follows routes,
  and packets arrive at their ends;
* `Builder.exists_delivery_of_build` — packets are delivered from everywhere.
-/

import Interconnect.Proofs.RoutingTables

set_option autoImplicit false

namespace Interconnect

/-! ### Routes -/

namespace Tree

/-- The way from a position to the router that an endpoint is attached to, as the numbers of the
routers that are passed. -/
inductive Route (t : Tree) (dest : Nat) : Nat → Nat → List Nat → Prop
  /-- The destination is a host of this leaf router. -/
  | host {index : Nat} (h : index < t.layout.count 0)
      (hdest : dest / t.shape.capacity 1 = index) : Route t dest 0 index [t.layout.idAt 0 index]
  /-- The destination is not below the root, so it is the memory. -/
  | memory {level index : Nat} (h : index < t.layout.count level)
      (htop : level + 1 = t.shape.numLevels) (hdest : dest / t.shape.capacity (level + 1) ≠ index) :
      Route t dest level index [t.layout.idAt level index]
  /-- The destination is below this router, and its child on the way is the next one. -/
  | down {low index : Nat} {walk : List Nat} (h : index < t.layout.count (low + 1))
      (hdest : dest / t.shape.capacity (low + 2) = index)
      (hrest : Route t dest low (dest / t.shape.capacity (low + 1)) walk) :
      Route t dest (low + 1) index (t.layout.idAt (low + 1) index :: walk)
  /-- The destination is not below this router, and its parent is the next one. -/
  | up {level index : Nat} {walk : List Nat} (h : index < t.layout.count level)
      (hlevel : level + 1 < t.shape.numLevels) (hdest : dest / t.shape.capacity (level + 1) ≠ index)
      (hrest : Route t dest (level + 1) (index / t.shape.arity (level + 1)) walk) :
      Route t dest level index (t.layout.idAt level index :: walk)

namespace WellFormed

variable {t : Tree}

/-- The child on the way to a destination that is below a router. -/
theorem child_on_way (hw : t.WellFormed) {low index dest : Nat}
    (h : index < t.layout.count (low + 1)) (hdest : dest / t.shape.capacity (low + 2) = index) :
    dest / t.shape.capacity (low + 1) < t.layout.count low := by
  rw [hw.balanced.count_eq (hw.balanced.lt_numLevels h), ← Nat.div_lt_iff_lt_mul
    (t.shape.arity_pos _), ← Shape.div_capacity_succ, hdest]
  exact h

theorem exists_route_down (hw : t.WellFormed) {dest level index : Nat}
    (h : index < t.layout.count level) (hdest : dest / t.shape.capacity (level + 1) = index) :
    ∃ walk, t.Route dest level index walk := by
  induction level generalizing index with
  | zero => exact ⟨_, .host h hdest⟩
  | succ low ih =>
      obtain ⟨walk, hwalk⟩ := ih (hw.child_on_way h hdest) rfl
      exact ⟨_, .down h hdest hwalk⟩

/-- **There is a route from every position.** -/
theorem exists_route (hw : t.WellFormed) (dest : Nat) {level index : Nat}
    (h : index < t.layout.count level) : ∃ walk, t.Route dest level index walk := by
  -- by induction on the number of levels above
  obtain ⟨above, habove⟩ := Nat.exists_eq_add_of_lt (hw.balanced.lt_numLevels h)
  induction above generalizing level index with
  | zero =>
      by_cases hdest : dest / t.shape.capacity (level + 1) = index
      · exact hw.exists_route_down h hdest
      · exact ⟨_, .memory h habove.symm hdest⟩
  | succ above ih =>
      by_cases hdest : dest / t.shape.capacity (level + 1) = index
      · exact hw.exists_route_down h hdest
      · have hlevel : level + 1 < t.shape.numLevels := by omega
        obtain ⟨walk, hwalk⟩ := ih (hw.balanced.parent_lt hlevel h) (by omega)
        exact ⟨_, .up h hlevel hdest hwalk⟩

end WellFormed

namespace Route

variable {t : Tree} {dest level index : Nat} {walk : List Nat}

/-- A route starts where it starts. -/
theorem exists_cons (hr : t.Route dest level index walk) :
    ∃ rest, walk = t.layout.idAt level index :: rest := by
  cases hr <;> exact ⟨_, rfl⟩

theorem lt_count (hr : t.Route dest level index walk) : index < t.layout.count level := by
  cases hr <;> assumption

/-- A route that goes down passes one router on every level. -/
theorem length_of_eq (hr : t.Route dest level index walk)
    (hdest : dest / t.shape.capacity (level + 1) = index) : walk.length = level + 1 := by
  induction hr with
  | host h _ => rfl
  | memory h htop hne => exact absurd hdest hne
  | down h _ hrest ih => rw [List.length_cons, ih rfl]
  | up h hlevel hne hrest ih => exact absurd hdest hne

/-- **Routes are short.**  A route has at most two routers on every level but the top one. -/
theorem length_le (hw : t.WellFormed) (hr : t.Route dest level index walk) :
    walk.length + level + 1 ≤ 2 * t.shape.numLevels := by
  induction hr with
  | host h hdest =>
      have := hw.balanced.lt_numLevels h
      rw [List.length_singleton]
      omega
  | memory h htop hdest =>
      rw [List.length_singleton]
      omega
  | down h hdest hrest ih =>
      have := hw.balanced.lt_numLevels h
      rw [(down h hdest hrest).length_of_eq hdest]
      omega
  | up h hlevel hdest hrest ih =>
      rw [List.length_cons]
      omega

/-- If the destination is below the start, the routers of the route are those on the way down. -/
theorem exists_of_mem_of_eq (hr : t.Route dest level index walk)
    (hdest : dest / t.shape.capacity (level + 1) = index) {id : Nat} (hid : id ∈ walk) :
    ∃ level' ≤ level, dest / t.shape.capacity (level' + 1) < t.layout.count level' ∧
      id = t.layout.idAt level' (dest / t.shape.capacity (level' + 1)) := by
  induction hr with
  | host h hdest =>
      rw [List.mem_singleton.1 hid, ← hdest]
      exact ⟨0, Nat.le_refl _, by rwa [hdest], rfl⟩
  | memory h htop hne => exact absurd hdest hne
  | down h _ hrest ih =>
      rcases List.mem_cons.1 hid with rfl | hid
      · exact ⟨_, Nat.le_refl _, by rwa [hdest], by rw [hdest]⟩
      · obtain ⟨level', hle, hlt, he⟩ := ih rfl hid
        exact ⟨level', Nat.le_succ_of_le hle, hlt, he⟩
  | up h hlevel hne hrest ih => exact absurd hdest hne

/-- A router of a route stands as high as the start, or it is on the way down. -/
theorem exists_of_mem (hr : t.Route dest level index walk) {id : Nat} (hid : id ∈ walk) :
    ∃ level' index', index' < t.layout.count level' ∧ id = t.layout.idAt level' index' ∧
      (level ≤ level' ∨ dest / t.shape.capacity (level' + 1) = index') := by
  induction hr with
  | host h hdest => exact ⟨_, _, h, List.mem_singleton.1 hid, .inr hdest⟩
  | memory h htop hdest => exact ⟨_, _, h, List.mem_singleton.1 hid, .inl (Nat.le_refl _)⟩
  | down h hdest hrest ih =>
      obtain ⟨level', -, hlt, he⟩ := (down h hdest hrest).exists_of_mem_of_eq hdest hid
      exact ⟨level', _, hlt, he, .inr rfl⟩
  | up h hlevel hdest hrest ih =>
      rcases List.mem_cons.1 hid with rfl | hid
      · exact ⟨_, _, h, rfl, .inl (Nat.le_refl _)⟩
      · obtain ⟨level', index', h', he, hway⟩ := ih hid
        exact ⟨level', index', h', he, hway.imp_left Nat.le_of_succ_le⟩

/-- **Routes pass no router twice.** -/
theorem nodup (hr : t.Route dest level index walk) : walk.Nodup := by
  induction hr with
  | host h hdest => exact List.nodup_singleton _
  | memory h htop hdest => exact List.nodup_singleton _
  | down h hdest hrest ih =>
      -- what follows stands lower
      refine List.nodup_cons.2 ⟨fun hmem => ?_, ih⟩
      obtain ⟨level', hle, hlt, he⟩ := hrest.exists_of_mem_of_eq rfl hmem
      have := (Layout.idAt_inj h hlt he).1
      omega
  | up h hlevel hdest hrest ih =>
      -- what follows stands higher or has the destination below it
      refine List.nodup_cons.2 ⟨fun hmem => ?_, ih⟩
      obtain ⟨level', index', h', he, hway⟩ := hrest.exists_of_mem hmem
      obtain ⟨rfl, rfl⟩ := Layout.idAt_inj h h' he
      rcases hway with hle | hway
      · omega
      · exact hdest hway

/-- If the destination is below the start, every step of the route leads down. -/
theorem step_lt_of_eq (hr : t.Route dest level index walk)
    (hdest : dest / t.shape.capacity (level + 1) = index) {step : Nat × Nat}
    (hstep : step ∈ walk.zip walk.tail) : step.2 < step.1 := by
  induction hr with
  | host h hdest => cases hstep
  | memory h htop hne => exact absurd hdest hne
  | down h _ hrest ih =>
      obtain ⟨rest, rfl⟩ := hrest.exists_cons
      rcases List.mem_cons.1 hstep with rfl | hstep
      · exact Layout.idAt_lt_idAt hrest.lt_count (Nat.lt_succ_self _) _
      · exact ih rfl hstep
  | up h hlevel hne hrest ih => exact absurd hdest hne

/-- **Routes go up first and then down.** -/
theorem up_then_down (hr : t.Route dest level index walk) :
    (walk.zip walk.tail).Pairwise fun step step' => step.2 < step.1 → step'.2 < step'.1 := by
  induction hr with
  | host h hdest => exact .nil
  | memory h htop hdest => exact .nil
  | down h hdest hrest ih =>
      obtain ⟨rest, rfl⟩ := hrest.exists_cons
      exact .cons (fun step hstep _ => hrest.step_lt_of_eq rfl hstep) ih
  | up h hlevel hdest hrest ih =>
      obtain ⟨rest, rfl⟩ := hrest.exists_cons
      refine .cons (fun step _ hdown => ?_) ih
      exact absurd hdown (Nat.lt_asymm (Layout.idAt_lt_idAt h (Nat.lt_succ_self _) _))

/-- A route ends at the leaf router of the destination, or at the root if it is not below it. -/
theorem exists_getLast? (hr : t.Route dest level index walk) :
    ∃ level' index', index' < t.layout.count level' ∧
      walk.getLast? = some (t.layout.idAt level' index') ∧
      (level' = 0 ∧ dest / t.shape.capacity 1 = index' ∨
        level' + 1 = t.shape.numLevels ∧ dest / t.shape.capacity (level' + 1) ≠ index') := by
  induction hr with
  | host h hdest => exact ⟨_, _, h, rfl, .inl ⟨rfl, hdest⟩⟩
  | memory h htop hdest => exact ⟨_, _, h, rfl, .inr ⟨htop, hdest⟩⟩
  | down h hdest hrest ih =>
      obtain ⟨rest, rfl⟩ := hrest.exists_cons
      rw [List.getLast?_cons_cons]
      exact ih
  | up h hlevel hdest hrest ih =>
      obtain ⟨rest, rfl⟩ := hrest.exists_cons
      rw [List.getLast?_cons_cons]
      exact ih

end Route

/-! ### The ports of a route -/

variable {t : Tree} {level index dest : Nat}

/-- If the destination is below a router, its port leads to what the destination is below of. -/
theorem facing_portTo_of_eq (h : dest / t.shape.capacity (level + 1) = index) :
    t.facing level index (t.portTo level index dest) =
      t.under level (dest / t.shape.capacity level) := by
  rw [portTo_of_eq h, ← h, Shape.div_capacity_succ, facing_div_mod]

/-- If the destination is not below a router, its port leads up. -/
theorem facing_portTo_of_ne (h : dest / t.shape.capacity (level + 1) ≠ index) :
    t.facing level index (t.portTo level index dest) = (t.above level index).component := by
  rw [portTo_of_ne h, facing_arity]

end Tree

/-! ### Forwarding -/

namespace RoutingTable

/-- A router forwards packets for an endpoint to another router: the port that it chooses leads to
a router, which is that one. -/
def Forwards (t : RoutingTable) (dest here next : Nat) : Prop :=
  ∃ port, t.nextPort here dest = .ok port ∧ t.portState here port = .ok .routerToRouter ∧
    t.neighbor here port = .ok next

/-- A router hands packets for an endpoint to the endpoint: the port that it chooses is the one
that the endpoint is attached to. -/
def Arrives (t : RoutingTable) (dest here : Nat) : Prop :=
  ∃ port, t.nextPort here dest = .ok port ∧ t.destLocalPort dest = .ok port ∧
    t.portState here port = .ok .routerToNode ∧ t.endpointId here port = .ok (some dest)

end RoutingTable

namespace Topology

/-- A router is below another one. -/
def HasChild (t : Topology) (id child : Nat) : Prop :=
  ∃ r, t.router? id = some r ∧ child ∈ r.downlinks.children

/-- A router is above another one. -/
def HasParent (t : Topology) (id parent : Nat) : Prop :=
  ∃ r, t.router? id = some r ∧ r.uplink = .router parent

/-- A walk delivers packets for an endpoint from a router. -/
structure Delivery (t : Topology) (start dest : Nat) (walk : List Nat) : Prop where
  starts : walk.head? = some start
  follows : walk.IsChain (t.routingTable.Forwards dest)
  ends : ∃ target, walk.getLast? = some target ∧ t.routingTable.destRouter dest = .ok target ∧
    t.routingTable.Arrives dest target
  short : walk.length ≤ 2 * (t.tree.shape.numLevels - 1) + 1
  nodup : walk.Nodup
  up_then_down : (walk.zip walk.tail).Pairwise fun step step' =>
    t.HasChild step.1 step.2 → ¬ t.HasParent step'.1 step'.2

namespace Built

open Interconnect.Tree

variable {t : Topology} {table : LinkTable}

theorem lt_of_hasChild (hb : t.Built table) {id child : Nat} (h : t.HasChild id child) :
    child < id := by
  obtain ⟨r, hr, hmem⟩ := h
  obtain ⟨level, index, hindex, rfl, hs⟩ := hb.exists_position hr
  rw [hs.downlinks_eq] at hmem
  cases level with
  | zero => cases hmem
  | succ low =>
      rw [below, Downlinks.children, List.mem_range'_1] at hmem
      obtain ⟨port, rfl⟩ := Nat.exists_eq_add_of_le hmem.1
      have hport : port < t.tree.shape.arity (low + 1) := by omega
      rw [Layout.idAt, Nat.add_assoc]
      exact Layout.idAt_lt_idAt (hb.wellFormed.balanced.child_lt hindex hport)
        (Nat.lt_succ_self low) index

theorem lt_of_hasParent (hb : t.Built table) {id parent : Nat} (h : t.HasParent id parent) :
    id < parent := by
  obtain ⟨r, hr, hup⟩ := h
  obtain ⟨level, index, hindex, rfl, hs⟩ := hb.exists_position hr
  rw [hs.uplink_eq, above] at hup
  split at hup
  · cases hup
  · cases hup
    exact Layout.idAt_lt_idAt hindex (Nat.lt_succ_self level) _

/-- A router forwards packets to the router that its port for them leads to. -/
theorem forwards_of_facing (hb : t.Built table) {level index dest next : Nat}
    (h : index < t.tree.layout.count level) (hdest : dest ≤ t.numHosts)
    (hface : t.tree.facing level index (t.tree.portTo level index dest) = .router next) :
    t.routingTable.Forwards dest (t.tree.layout.idAt level index) next := by
  obtain ⟨hstate, hnext⟩ := hb.neighbor_eq h (t.tree.portTo_le level index dest) hface
  exact ⟨_, hb.nextPort_eq h hdest, hstate, hnext⟩

/-- **The table follows routes.** -/
theorem isChain_forwards (hb : t.Built table) {dest level index : Nat} {walk : List Nat}
    (hdest : dest ≤ t.numHosts) (hr : t.tree.Route dest level index walk) :
    walk.IsChain (t.routingTable.Forwards dest) := by
  induction hr with
  | host h _ => exact .singleton _
  | memory h _ _ => exact .singleton _
  | down h hway hrest ih =>
      obtain ⟨rest, rfl⟩ := hrest.exists_cons
      refine List.isChain_cons_cons.2 ⟨hb.forwards_of_facing h hdest ?_, ih⟩
      rw [facing_portTo_of_eq hway]
      rfl
  | up h hlevel hway hrest ih =>
      obtain ⟨rest, rfl⟩ := hrest.exists_cons
      refine List.isChain_cons_cons.2 ⟨hb.forwards_of_facing h hdest ?_, ih⟩
      rw [facing_portTo_of_ne hway, above_of_lt hlevel]
      rfl

/-- The port that leads to an endpoint is known as the port of that endpoint. -/
theorem endpoint_eq (hb : t.Built table) {level index port dest : Nat}
    (h : index < t.tree.layout.count level) (hport : port ≤ t.tree.shape.arity level)
    (hinfo : (t.tree.facing level index port).info t.numHosts = ⟨.routerToNode, some dest, none⟩) :
    t.routingTable.portState (t.tree.layout.idAt level index) port = .ok .routerToNode ∧
      t.routingTable.endpointId (t.tree.layout.idAt level index) port = .ok (some dest) := by
  rw [RoutingTable.portState, RoutingTable.endpointId, hb.portInfo_eq h hport, hinfo]
  exact ⟨rfl, rfl⟩

theorem arrives_host (hb : t.Built table) {dest index : Nat}
    (h : index < t.tree.layout.count 0) (hway : dest / t.tree.shape.capacity 1 = index) :
    t.routingTable.destRouter dest = .ok (t.tree.layout.idAt 0 index) ∧
      t.routingTable.Arrives dest (t.tree.layout.idAt 0 index) := by
  have hone := t.tree.shape.capacity_one
  have hlt : dest < t.numHosts := by
    rw [hone] at hway
    rw [numHosts, hb.wellFormed.balanced.hosts_eq,
      ← Nat.div_lt_iff_lt_mul (t.tree.shape.arity_pos 0), hway]
    exact h
  have hport : t.tree.portTo 0 index dest = dest % t.tree.shape.arity 0 := by
    rw [portTo_of_eq hway, Shape.capacity_zero, Nat.div_one]
  have hinfo : (t.tree.facing 0 index (t.tree.portTo 0 index dest)).info t.numHosts =
      ⟨.routerToNode, some dest, none⟩ := by
    rw [facing_portTo_of_eq hway, Shape.capacity_zero, Nat.div_one]
    rfl
  obtain ⟨hstate, hend⟩ := hb.endpoint_eq h (t.tree.portTo_le 0 index dest) hinfo
  refine ⟨?_, t.tree.portTo 0 index dest, hb.nextPort_eq h (Nat.le_of_lt hlt), ?_, hstate, hend⟩
  · rw [destRouter_host hlt, Layout.idAt_zero, ← hway, hone]
  · rw [destLocalPort_host hlt, hport]

theorem arrives_memory (hb : t.Built table) {dest level index : Nat} (hdest : dest ≤ t.numHosts)
    (h : index < t.tree.layout.count level) (htop : level + 1 = t.tree.shape.numLevels)
    (hway : dest / t.tree.shape.capacity (level + 1) ≠ index) :
    t.routingTable.destRouter dest = .ok (t.tree.layout.idAt level index) ∧
      t.routingTable.Arrives dest (t.tree.layout.idAt level index) := by
  have hb' := hb.wellFormed.balanced
  have hmemory : dest = t.numHosts := by
    -- all hosts are below the root
    by_contra hne
    have hzero := hb'.div_capacity_top htop (Nat.lt_of_le_of_ne hdest hne)
    have hlevel : level = t.tree.shape.numLevels - 1 := by omega
    rw [hlevel, hb'.count_top] at h
    omega
  have hroot := (hb.wellFormed.idAt_eq_rootId_iff h).2 htop
  have hinfo : (t.tree.facing level index (t.tree.shape.arity level)).info t.numHosts =
      ⟨.routerToNode, some dest, none⟩ := by
    rw [facing_arity, above_top htop, hmemory]
    rfl
  obtain ⟨hstate, hend⟩ := hb.endpoint_eq h (Nat.le_refl _) hinfo
  refine ⟨by rw [hmemory, destRouter_memory, hroot], t.tree.shape.arity level, ?_, ?_, hstate, hend⟩
  · rw [hb.nextPort_eq h hdest, portTo_of_ne hway]
  · rw [hmemory, hb.destLocalPort_memory h htop]

/-- **Routes deliver.** -/
theorem delivery_of_route (hb : t.Built table) {dest level index : Nat} {walk : List Nat}
    (hdest : dest ≤ t.numHosts) (hr : t.tree.Route dest level index walk) :
    t.Delivery (t.tree.layout.idAt level index) dest walk where
  starts := by
    obtain ⟨rest, rfl⟩ := hr.exists_cons
    rfl
  follows := hb.isChain_forwards hdest hr
  ends := by
    obtain ⟨level', index', hindex', hlast, ⟨rfl, hway⟩ | ⟨htop, hway⟩⟩ := hr.exists_getLast?
    · exact ⟨_, hlast, hb.arrives_host hindex' hway⟩
    · exact ⟨_, hlast, hb.arrives_memory hdest hindex' htop hway⟩
  short := by
    have hlength := hr.length_le hb.wellFormed
    omega
  nodup := hr.nodup
  up_then_down := by
    refine hr.up_then_down.imp fun {step step'} hdown hchild hparent => ?_
    have hlt := hdown (hb.lt_of_hasChild hchild)
    have hgt := hb.lt_of_hasParent hparent
    omega

end Built

end Topology

/-- **Packets are delivered from everywhere**: whatever was done with the builder before a
successful build, a packet for any endpoint that starts at any router reaches the router of the
endpoint on a short way without turning back, and is handed to the endpoint there. -/
theorem Builder.exists_delivery_of_build (o : TreeOptions) (calls : List Call) {t : Topology}
    {b : Builder} (h : ((new o).run calls).build = .ok (t, b))
    {start dest : Nat} (hstart : start < t.numRouters) (hdest : dest ≤ t.numHosts) :
    ∃ walk, t.Delivery start dest walk := by
  have hb := (sound_run o calls).built_of_build h
  rw [hb.numRouters_eq] at hstart
  obtain ⟨level, index, hindex, rfl⟩ := Layout.exists_idAt hstart
  obtain ⟨walk, hwalk⟩ := hb.wellFormed.exists_route dest hindex
  exact ⟨walk, hb.delivery_of_route hdest hwalk⟩

/-- From the last leaf router to the memory, with a level of routers that have one child each. -/
theorem Builder.exists_delivery_of_build_three_levels :
    ∃ t b, ((new {}).run [.configure ⟨[2, 1, 2], by decide, by decide⟩ 4 ["a", "b", "c", "d"],
        .getLink "d" "a"]).build = .ok (t, b) ∧ 1 < t.numRouters ∧ 4 ≤ t.numHosts ∧
      ∃ walk, t.Delivery 1 4 walk := by
  obtain ⟨⟨t, b⟩, h, hcheck⟩ := exists_ok_of_any
    (p := fun r => decide (1 < r.1.numRouters ∧ 4 ≤ r.1.numHosts))
    (x := ((new {}).run [.configure ⟨[2, 1, 2], by decide, by decide⟩ 4 ["a", "b", "c", "d"],
      .getLink "d" "a"]).build) (by decide +kernel)
  have hcheck : 1 < t.numRouters ∧ 4 ≤ t.numHosts := of_decide_eq_true hcheck
  obtain ⟨hstart, hdest⟩ := hcheck
  exact ⟨t, b, h, hstart, hdest, exists_delivery_of_build _ _ h hstart hdest⟩

end Interconnect
