/-
**Queries of a routing table.**

A routing table is asked by number, and a number that does not exist is refused.  Which error a
query gives depends on the order of its checks, so what is expected of a query is written in that
order: the error of the first check that fails, and an answer if there is none.  The table of a
built tree answers all queries in this way.  In particular no query reads a row behind its end or
subtracts from zero, and no path comes to a port without a neighbor.

Main definitions:

* `Answers` — a query gives the error that is expected, or else a good answer;
* `Topology.destError?`, `Topology.routerError?`, `Topology.portError?` — the errors that are
  expected for a destination, a router and a port;
* `Tree.Addressable` — hosts and routers can be numbered by words;
* `RoutingTable.InRange` — what queries read and compute is in range;
* `Topology.ExactQueries` — all queries of the table give what is expected.

Main results:

* `Answers.of_check` — the first check of a query is the first error that is expected;
* `Topology.Built.hasPort_iff` — the ports of the router at a position;
* `Builder.exactQueries_of_build` — every successful build has such a table.
-/

import Interconnect.Proofs.Flooding
import Interconnect.Proofs.Paths

set_option autoImplicit false

namespace Interconnect

/-! ### Expected errors -/

/-- A query gives the error that is expected, or an answer that is good if no error is expected. -/
def Answers {α : Type} (x : Except TreeError α) (error? : Option TreeError) (good : α → Prop) :
    Prop :=
  match error? with
  | some e => x = .error e
  | none => ∃ a, x = .ok a ∧ good a

/-- The error that is expected unless something holds. -/
def errorUnless (p : Prop) [Decidable p] (e : TreeError) : Option TreeError :=
  if p then none else some e

section

variable {α : Type} {x : Except TreeError α} {e : TreeError} {good : α → Prop}
  {p : Prop} [Decidable p]

/-- **The first check of a query** is the first error that is expected. -/
theorem Answers.of_check {error? : Option TreeError} (herror : ¬ p → x = .error e)
    (h : p → Answers x error? good) : Answers x ((errorUnless p e).or error?) good := by
  by_cases hp : p
  · rw [errorUnless, if_pos hp]
    exact h hp
  · rw [errorUnless, if_neg hp]
    exact herror hp

/-- The last check of a query. -/
theorem Answers.of_last_check (herror : ¬ p → x = .error e) (h : p → ∃ a, x = .ok a ∧ good a) :
    Answers x (errorUnless p e) good := by
  have hlast : Answers x ((errorUnless p e).or none) good := .of_check herror h
  rwa [Option.or_none] at hlast

/-- A query that looks at a part of the answer of another one. -/
theorem Answers.map {β : Type} {error? : Option TreeError} {f : α → β} {good' : β → Prop}
    (hx : Answers x error? good) (hf : ∀ a, good a → good' (f a)) :
    Answers (x.map f) error? good' := by
  cases error? with
  | some e =>
      obtain rfl : x = .error e := hx
      rfl
  | none =>
      obtain ⟨a, rfl, ha⟩ := hx
      exact ⟨f a, rfl, hf a ha⟩

end

/-! ### The statement -/

/-- The hosts and the routers of a tree can be numbered by words, with the memory behind the
hosts. -/
def Tree.Addressable (t : Tree) : Prop := t.hostNames.length + t.layout.counts.sum < 2 ^ 64

instance (t : Tree) : Decidable t.Addressable :=
  inferInstanceAs (Decidable (t.hostNames.length + t.layout.counts.sum < 2 ^ 64))

/-- What queries read and compute is in range: the numbers of endpoints are words, no divisor and no
number of ports is zero, and a row has a place for every endpoint. -/
structure RoutingTable.InRange (t : RoutingTable) : Prop where
  numEndpoints_lt : t.numEndpoints < 2 ^ 64
  hostsPerLeaf_pos : 0 < t.hostsPerLeaf
  length_nextPort : ∀ row ∈ t.routers, row.nextPort.length = t.numEndpoints
  length_ports_pos : ∀ row ∈ t.routers, 0 < row.ports.length

namespace Topology

/-- The number of things below the routers of the level of a router. -/
def fanoutOf? (t : Topology) (router : Nat) : Option Nat := do
  t.tree.shape.fanout? (← t.router? router).level

/-- A router has a port for everything below it, and one more. -/
def HasPort (t : Topology) (router port : Nat) : Prop :=
  ∃ fanout ∈ t.fanoutOf? router, port < fanout + 1

instance (t : Topology) (router port : Nat) : Decidable (t.HasPort router port) :=
  inferInstanceAs (Decidable (∃ fanout ∈ t.fanoutOf? router, port < fanout + 1))

/-- The error that is expected for a destination.  The memory has the number behind the hosts. -/
def destError? (t : Topology) (dest : Nat) : Option TreeError :=
  errorUnless (dest ≤ t.numHosts) (.unknownDestination dest)

/-- The error that is expected for a router. -/
def routerError? (t : Topology) (router : Nat) : Option TreeError :=
  errorUnless (router < t.numRouters) (.unknownRouter router)

/-- The error that is expected for a port of a router. -/
def portError? (t : Topology) (router port : Nat) : Option TreeError :=
  errorUnless (t.HasPort router port) (.invalidPort router port)

/-- All queries of the routing table give what is expected. -/
structure ExactQueries (t : Topology) : Prop where
  inRange : t.routingTable.InRange
  nextPort : ∀ router dest, Answers (t.routingTable.nextPort router dest)
    ((t.destError? dest).or (t.routerError? router)) (t.HasPort router)
  destRouter : ∀ dest, Answers (t.routingTable.destRouter dest) (t.destError? dest)
    (· < t.numRouters)
  destLocalPort : ∀ dest, Answers (t.routingTable.destLocalPort dest) (t.destError? dest)
    fun port => ∃ router, t.routingTable.destRouter dest = .ok router ∧ t.HasPort router port
  portState : ∀ router port, Answers (t.routingTable.portState router port)
    ((t.routerError? router).or (t.portError? router port))
    fun state => ∃ r, t.router? router = some r ∧ r.portState? port = some state
  endpointId : ∀ router port, Answers (t.routingTable.endpointId router port)
    ((t.routerError? router).or (t.portError? router port))
    fun endpoint => ∀ e ∈ endpoint, e ≤ t.numHosts
  broadcastPorts : ∀ router inPort, Answers (t.routingTable.broadcastPorts router inPort)
    ((t.routerError? router).or (t.portError? router inPort))
    fun ports => ∀ port ∈ ports, t.HasPort router port ∧ port ≠ inPort
  path : ∀ src dest, Answers (t.routingTable.path src dest)
    ((t.destError? src).or (t.destError? dest)) (t.FindsPath src dest)

end Topology

/-! ### Refusals -/

namespace Topology

variable {t : Topology}

theorem checkDest_eq_error {dest : Nat} (h : ¬ dest ≤ t.numHosts) :
    t.routingTable.checkDest dest = .error (.unknownDestination dest) :=
  if_neg fun hlt => h (Nat.le_of_lt_succ hlt)

theorem destRouter_eq_error {dest : Nat} (h : ¬ dest ≤ t.numHosts) :
    t.routingTable.destRouter dest = .error (.unknownDestination dest) :=
  bind_eq_error_iff.2 (.inl (checkDest_eq_error h))

theorem routes_eq_error {router : Nat} (h : ¬ router < t.numRouters) :
    t.routingTable.routes router = .error (.unknownRouter router) := by
  have hnone : t.routers[router]? = none := List.getElem?_eq_none (Nat.not_lt.1 h)
  simp only [RoutingTable.routes, routingTable, List.getElem?_map, hnone, Option.map_none]

namespace Built

open Interconnect.Tree

variable {table : LinkTable} {level index : Nat}

/-! ### Ports -/

/-- **The ports of the router at a position** are numbered up to the fan-out of the level. -/
theorem hasPort_iff (hb : t.Built table) (h : index < t.tree.layout.count level) {port : Nat} :
    t.HasPort (t.tree.layout.idAt level index) port ↔ port ≤ t.tree.shape.arity level := by
  obtain ⟨r, hr, hs⟩ := hb.exists_seated h
  have hfanout : t.fanoutOf? (t.tree.layout.idAt level index) =
      some (t.tree.shape.arity level) := by
    simp only [fanoutOf?, hr, Option.bind_eq_bind, Option.bind_some, hs.level_eq]
    exact Shape.fanout?_eq (hb.wellFormed.balanced.lt_numLevels h)
  unfold HasPort
  rw [hfanout]
  simp only [Option.mem_some_iff, exists_eq_left', Nat.lt_succ_iff]

/-- A port that a router does not have is behind the entries of its row. -/
theorem exists_row_of_not_hasPort (hb : t.Built table) {router port : Nat}
    (h : router < t.numRouters) (hport : ¬ t.HasPort router port) :
    ∃ row, t.routingTable.routes router = .ok row ∧ row.ports.length ≤ port := by
  obtain ⟨level, index, hindex, rfl⟩ := hb.exists_position_of_lt h
  rw [hb.hasPort_iff hindex] at hport
  obtain ⟨r, hs, hrow⟩ := hb.exists_routes hindex
  refine ⟨_, hrow, ?_⟩
  rw [hs.length_ports_routes]
  exact Nat.lt_of_not_le hport

theorem portInfo_eq_error (hb : t.Built table) {router port : Nat} (h : router < t.numRouters)
    (hport : ¬ t.HasPort router port) :
    t.routingTable.portInfo router port = .error (.invalidPort router port) := by
  obtain ⟨row, hrow, hlength⟩ := hb.exists_row_of_not_hasPort h hport
  refine bind_eq_error_iff.2 (.inr ⟨row, hrow, ?_⟩)
  rw [List.getElem?_eq_none hlength]
  rfl

theorem broadcastPorts_eq_error (hb : t.Built table) {router port : Nat}
    (h : router < t.numRouters) (hport : ¬ t.HasPort router port) :
    t.routingTable.broadcastPorts router port = .error (.invalidPort router port) := by
  obtain ⟨row, hrow, hlength⟩ := hb.exists_row_of_not_hasPort h hport
  refine bind_eq_error_iff.2 (.inr ⟨row, hrow, ?_⟩)
  rw [if_pos hlength]
  rfl

/-! ### Every query -/

theorem inRange (hb : t.Built table) (ha : t.tree.Addressable) : t.routingTable.InRange where
  numEndpoints_lt := by
    -- there is a root, so the endpoints are not more than the hosts and the routers
    have hroot := hb.idAt_lt_numRouters hb.wellFormed.balanced.top_pos
    have hnumbers : t.numHosts + t.tree.layout.counts.sum < 2 ^ 64 := ha
    rw [hb.numRouters_eq] at hroot
    show t.numHosts + 1 < 2 ^ 64
    omega
  hostsPerLeaf_pos := t.tree.shape.hostsPerLeaf_pos
  length_nextPort := by
    intro row hrow
    obtain ⟨r, -, rfl⟩ := List.mem_map.1 hrow
    simp only [Router.routes]
    rw [List.length_map, List.length_range]
    rfl
  length_ports_pos := by
    intro row hrow
    obtain ⟨r, hr, rfl⟩ := List.mem_map.1 hrow
    obtain ⟨level, index, -, hs⟩ := hb.exists_position_of_mem hr
    rw [hs.length_ports_routes]
    exact Nat.succ_pos _

theorem answers_nextPort (hb : t.Built table) (router dest : Nat) :
    Answers (t.routingTable.nextPort router dest) ((t.destError? dest).or (t.routerError? router))
      (t.HasPort router) := by
  refine .of_check (fun h => bind_eq_error_iff.2 (.inl (checkDest_eq_error h))) fun hdest =>
    .of_last_check (fun h => ?_) fun hrouter => ?_
  · have hrow := routes_eq_error h
    exact bind_eq_error_iff.2 (.inr ⟨(), checkDest_eq hdest, bind_eq_error_iff.2 (.inl hrow)⟩)
  · obtain ⟨level, index, hindex, rfl⟩ := hb.exists_position_of_lt hrouter
    exact ⟨_, hb.nextPort_eq hindex hdest, (hb.hasPort_iff hindex).2 (portTo_le ..)⟩

theorem answers_destRouter (hb : t.Built table) (dest : Nat) :
    Answers (t.routingTable.destRouter dest) (t.destError? dest) (· < t.numRouters) := by
  refine .of_last_check destRouter_eq_error fun hdest => ?_
  obtain ⟨level, index, -, hindex, -, hrouter, -, -⟩ := hb.exists_place_of_endpoint hdest
  exact ⟨_, hrouter, hb.idAt_lt_numRouters hindex⟩

theorem answers_destLocalPort (hb : t.Built table) (dest : Nat) :
    Answers (t.routingTable.destLocalPort dest) (t.destError? dest)
      fun port => ∃ router, t.routingTable.destRouter dest = .ok router ∧
        t.HasPort router port := by
  refine .of_last_check (fun h => bind_eq_error_iff.2 (.inl (checkDest_eq_error h)))
    fun hdest => ?_
  obtain ⟨level, index, port, hindex, hport, hrouter, hlocal, -⟩ :=
    hb.exists_place_of_endpoint hdest
  exact ⟨port, hlocal, _, hrouter, (hb.hasPort_iff hindex).2 hport⟩

/-- The entry of a port is about the state of the port, and about an endpoint if it has one. -/
theorem answers_portInfo (hb : t.Built table) (router port : Nat) :
    Answers (t.routingTable.portInfo router port)
      ((t.routerError? router).or (t.portError? router port))
      fun info => (∃ r, t.router? router = some r ∧ r.portState? port = some info.state) ∧
        ∀ e ∈ info.endpoint, e ≤ t.numHosts := by
  refine .of_check (fun h => bind_eq_error_iff.2 (.inl (routes_eq_error h))) fun hrouter =>
    .of_last_check (hb.portInfo_eq_error hrouter) fun hport => ?_
  obtain ⟨level, index, hindex, rfl⟩ := hb.exists_position_of_lt hrouter
  have hinfo := hb.portInfo_eq hindex ((hb.hasPort_iff hindex).1 hport)
  refine ⟨_, hinfo, (hb.entry hinfo).2.2, fun e he => ?_⟩
  -- an endpoint on a port is the memory or a host
  have hhas := hb.wellFormed.has_facing hindex port
  rw [(info_endpoint_eq_some_iff hhas).1 he, endpointAt] at hhas
  split at hhas
  · rename_i hmemory
    exact Nat.le_of_eq hmemory
  · exact Nat.le_of_lt hhas

theorem answers_broadcastPorts (hb : t.Built table) (router inPort : Nat) :
    Answers (t.routingTable.broadcastPorts router inPort)
      ((t.routerError? router).or (t.portError? router inPort))
      fun ports => ∀ port ∈ ports, t.HasPort router port ∧ port ≠ inPort := by
  refine .of_check (fun h => bind_eq_error_iff.2 (.inl (routes_eq_error h))) fun hrouter =>
    .of_last_check (hb.broadcastPorts_eq_error hrouter) fun hport => ?_
  obtain ⟨level, index, hindex, rfl⟩ := hb.exists_position_of_lt hrouter
  have hle := (hb.hasPort_iff hindex).1 hport
  refine ⟨_, hb.broadcastPorts_eq hindex hle, fun port hmem => ?_⟩
  rw [hb.hasPort_iff hindex]
  simp only [portsFor] at hmem
  split at hmem
  · obtain rfl := List.mem_singleton.1 hmem
    omega
  · have hlt := List.mem_range.1 hmem
    omega

theorem answers_path (hb : t.Built table) (src dest : Nat) :
    Answers (t.routingTable.path src dest) ((t.destError? src).or (t.destError? dest))
      (t.FindsPath src dest) := by
  refine .of_check (fun h => bind_eq_error_iff.2 (.inl (destRouter_eq_error h))) fun hsrc =>
    .of_last_check (fun h => ?_) fun hdest => ?_
  · obtain ⟨level, index, -, hrouter, -⟩ := hb.exists_destRouter hsrc
    have htarget := destRouter_eq_error h
    exact bind_eq_error_iff.2 (.inr ⟨_, hrouter, bind_eq_error_iff.2 (.inl htarget)⟩)
  · obtain ⟨walk, hwalk⟩ := hb.exists_pathBetween hsrc hdest
    exact ⟨walk, hwalk.path_eq, hwalk.toFindsPath⟩

/-- **The table of a built tree answers all queries** as is expected. -/
theorem exactQueries (hb : t.Built table) (ha : t.tree.Addressable) : t.ExactQueries where
  inRange := hb.inRange ha
  nextPort := hb.answers_nextPort
  destRouter := hb.answers_destRouter
  destLocalPort := hb.answers_destLocalPort
  portState := fun router port => (hb.answers_portInfo router port).map fun _ h => h.1
  endpointId := fun router port => (hb.answers_portInfo router port).map fun _ h => h.2
  broadcastPorts := hb.answers_broadcastPorts
  path := hb.answers_path

end Built

end Topology

/-- **The routing table of every successful build answers all queries** as is expected, whatever was
done with the builder before. -/
theorem Builder.exactQueries_of_build (o : TreeOptions) (calls : List Call) {t : Topology}
    {b : Builder} (h : ((new o).run calls).build = .ok (t, b)) (ha : t.tree.Addressable) :
    t.ExactQueries :=
  ((sound_run o calls).built_of_build h).exactQueries ha

/-- Three levels with different numbers of ports. -/
theorem Builder.exactQueries_of_build_three_levels :
    ∃ t b, ((new {}).run [.configure ⟨[2, 1, 3], by decide, by decide⟩ 6
        ["a", "b", "c", "d", "e", "f"], .getLink "mem" "c"]).build = .ok (t, b) ∧
      t.tree.Addressable ∧ t.ExactQueries := by
  obtain ⟨⟨t, b⟩, h, ha⟩ := exists_ok_of_any (p := fun r => decide r.1.tree.Addressable)
    (x := ((new {}).run [.configure ⟨[2, 1, 3], by decide, by decide⟩ 6
      ["a", "b", "c", "d", "e", "f"], .getLink "mem" "c"]).build) (by decide +kernel)
  have ha : t.tree.Addressable := of_decide_eq_true ha
  exact ⟨t, b, h, ha, exactQueries_of_build _ _ h ha⟩

end Interconnect
