/-
**Routing tables.**

The endpoints of a tree are numbered: first the hosts in the order of their names, then the memory.
The hosts below a router have consecutive numbers, so a router sends a packet for one of them down
the port whose block holds the number, and everything else up.

Main definitions:

* `RoutingTable` — for every router the port for every endpoint, and what is on every port;
* `Topology.routingTable` — the table of a built tree;
* `RoutingTable.nextPort` and the other queries — they fail for numbers that do not exist, the
  destination being looked at before the router;
* `RoutingTable.path` — the routers a packet passes;
* `RoutingTable.broadcastPorts` — where a broadcast packet goes on.
-/

import Interconnect.Topology

set_option autoImplicit false

namespace Interconnect

/-! ### The table -/

/-- What is on a port. -/
structure PortInfo where
  /-- Whether the port leads to a node or to a router. -/
  state : PortState
  /-- The endpoint on the port. -/
  endpoint : Option Nat
  /-- The router on the other side. -/
  neighbor : Option Nat
  deriving DecidableEq, Repr

/-- The row of a router. -/
structure RouterRoutes where
  /-- The number of the router. -/
  router : Nat
  /-- The name of the router. -/
  name : String
  /-- For every endpoint the port to send to. -/
  nextPort : List Nat
  /-- The ports. -/
  ports : List PortInfo
  deriving DecidableEq, Repr

/-- A routing table. -/
structure RoutingTable where
  /-- The number of hosts. -/
  numHosts : Nat
  /-- The number of hosts below a leaf router. -/
  hostsPerLeaf : Nat
  /-- The number of the root. -/
  root : Nat
  /-- The rows; each stands at the place that the number of its router says. -/
  routers : List RouterRoutes
  deriving DecidableEq, Repr

/-! ### Making the table -/

/-- A block of consecutive hosts, from `start` up to but not including `stop`. -/
structure Block where
  /-- The first host. -/
  start : Nat
  /-- The host behind the last one. -/
  stop : Nat
  deriving DecidableEq, Repr

/-- Whether a number is in a block. -/
def Block.contains (b : Block) (n : Nat) : Bool := b.start ≤ n && n < b.stop

/-- The block from the start of the first block to the end of the last one. -/
def Block.hull (blocks : List Block) : Block :=
  { start := (blocks.head?.map Block.start).getD 0
    stop := (blocks.getLast?.map Block.stop).getD 0 }

namespace Router

/-- The blocks of hosts below the ports of a router, where `reach` has the blocks of the routers
before it. -/
def blocks (r : Router) (reach : List Block) : List Block :=
  match r.downlinks with
  | .hosts ids => ids.map fun h => ⟨h, h + 1⟩
  | .routers ids => ids.map fun c => reach.getD c ⟨0, 0⟩

/-- The port for an endpoint: the first one whose block has it, and else the one that leads up. -/
def portFor (r : Router) (blocks : List Block) (dest : Nat) : Nat :=
  (blocks.findIdx? fun b => b.contains dest).getD r.uplinkPort

/-- What is on a port of a router, in a tree with `memory` as the number of the memory. -/
def portInfo (r : Router) (memory port : Nat) : PortInfo :=
  let state := (r.portState? port).getD .routerToRouter
  { state
    endpoint :=
      match state, r.downlinks with
      | .routerToRouter, _ => none
      | .routerToNode, downlinks =>
          if port = r.uplinkPort then some memory
          else
            match downlinks with
            | .hosts ids => ids[port]?
            | .routers _ => none
    neighbor :=
      match r.uplink, r.downlinks with
      | .router parent, downlinks =>
          if port = r.uplinkPort then some parent
          else
            match downlinks with
            | .hosts _ => none
            | .routers ids => ids[port]?
      | .memory, .hosts _ => none
      | .memory, .routers ids => ids[port]? }

/-- The row of a router. -/
def routes (r : Router) (memory : Nat) (reach : List Block) : RouterRoutes :=
  { router := r.id
    name := r.name
    nextPort := (List.range (memory + 1)).map (r.portFor (r.blocks reach))
    ports := (List.range r.numPorts).map (r.portInfo memory) }

end Router

namespace Topology

/-- The blocks of hosts below some routers, which stand behind those with the blocks `reach`.
Children have smaller numbers than their parents, so their blocks are there when they are needed. -/
def reachFrom (reach : List Block) : List Router → List Block
  | [] => reach
  | r :: rs => reachFrom (reach ++ [Block.hull (r.blocks reach)]) rs

/-- The blocks of hosts below all routers. -/
def reach (t : Topology) : List Block := reachFrom [] t.routers

/-- The routing table of a built tree. -/
def routingTable (t : Topology) : RoutingTable :=
  { numHosts := t.numHosts
    hostsPerLeaf := t.tree.shape.hostsPerLeaf
    root := t.tree.layout.rootId
    routers := t.routers.map fun r => r.routes t.numHosts t.reach }

end Topology

/-! ### Queries -/

namespace RoutingTable

/-- The number of endpoints: the hosts and the memory. -/
def numEndpoints (t : RoutingTable) : Nat := t.numHosts + 1

/-- The number of the memory. -/
def memoryEndpoint (t : RoutingTable) : Nat := t.numHosts

/-- The row of a router. -/
def routes (t : RoutingTable) (router : Nat) : Except TreeError RouterRoutes :=
  match t.routers[router]? with
  | some r => .ok r
  | none => .error (.unknownRouter router)

/-- Refuses a number that is not the number of an endpoint. -/
def checkDest (t : RoutingTable) (dest : Nat) : Except TreeError Unit :=
  if dest < t.numEndpoints then .ok () else .error (.unknownDestination dest)

/-- The port on which a router sends a packet for an endpoint. -/
def nextPort (t : RoutingTable) (router dest : Nat) : Except TreeError Nat := do
  t.checkDest dest
  let row ← t.routes router
  match row.nextPort[dest]? with
  | some port => return port
  | none => throw (.unknownDestination dest)

/-- What is on a port. -/
def portInfo (t : RoutingTable) (router port : Nat) : Except TreeError PortInfo := do
  let row ← t.routes router
  match row.ports[port]? with
  | some info => return info
  | none => throw (.invalidPort router port)

/-- Whether a port leads to a node or to a router. -/
def portState (t : RoutingTable) (router port : Nat) : Except TreeError PortState :=
  (t.portInfo router port).map PortInfo.state

/-- The endpoint on a port. -/
def endpointId (t : RoutingTable) (router port : Nat) : Except TreeError (Option Nat) :=
  (t.portInfo router port).map PortInfo.endpoint

/-- The router on the other side of a port. -/
def neighbor (t : RoutingTable) (router port : Nat) : Except TreeError Nat := do
  match (← t.portInfo router port).neighbor with
  | some n => return n
  | none => throw (.invalidPort router port)

/-- The router that an endpoint is attached to. -/
def destRouter (t : RoutingTable) (dest : Nat) : Except TreeError Nat := do
  t.checkDest dest
  if dest = t.memoryEndpoint then return t.root else return dest / t.hostsPerLeaf

/-- The port that an endpoint is attached to. -/
def destLocalPort (t : RoutingTable) (dest : Nat) : Except TreeError Nat := do
  t.checkDest dest
  if dest = t.memoryEndpoint then return (← t.routes t.root).ports.length - 1
  else return dest % t.hostsPerLeaf

/-- The router to which a router sends a packet for an endpoint. -/
def nextHop (t : RoutingTable) (dest router : Nat) : Except TreeError Nat := do
  t.neighbor router (← t.nextPort router dest)

/-- The routers on the way of a packet for an endpoint, from a router to the router `target`.  The
number of steps is bounded by `fuel`. -/
def walk (t : RoutingTable) (dest target : Nat) : Nat → Nat → Except TreeError (List Nat)
  | fuel, router =>
      if router = target then .ok [router]
      else
        match fuel with
        | 0 => .error (.unknownDestination dest)
        | fuel + 1 => do
            let rest ← t.walk dest target fuel (← t.nextHop dest router)
            return router :: rest

/-- The routers that a packet passes from one endpoint to another.  A way that passes no router
twice has fewer steps than there are routers. -/
def path (t : RoutingTable) (src dest : Nat) : Except TreeError (List Nat) := do
  let router ← t.destRouter src
  let target ← t.destRouter dest
  t.walk dest target t.routers.length router

/-- The ports on which a broadcast packet goes on: one from above goes to everything below, one from
below goes up. -/
def broadcastPorts (t : RoutingTable) (router inPort : Nat) : Except TreeError (List Nat) := do
  let row ← t.routes router
  if row.ports.length ≤ inPort then throw (.invalidPort router inPort)
  else if inPort = row.ports.length - 1 then return List.range (row.ports.length - 1)
  else return [row.ports.length - 1]

end RoutingTable

end Interconnect
