/-
**Routers.**

A router has a port for everything below it, in order, and one more port, the last, that leads up:
to its parent or, at the root, to the memory.

Main definitions:

* `Downlinks`, `Uplink` — what is below a router and what is above it;
* `Router` — a router with the links that are bound to its ports;
* `PortState` — whether a port leads to a node or to another router;
* `Router.portState?` — the state of a port.
-/

import Interconnect.Name

set_option autoImplicit false

namespace Interconnect

/-- What is below a router: hosts below a leaf router, routers below any other. -/
inductive Downlinks where
  /-- Hosts, by their place in the list of host names. -/
  | hosts (ids : List Nat)
  /-- Routers, by their numbers. -/
  | routers (ids : List Nat)
  deriving DecidableEq, Repr

/-- How many things are below. -/
def Downlinks.length : Downlinks → Nat
  | hosts ids => ids.length
  | routers ids => ids.length

/-- What is above a router. -/
inductive Uplink where
  /-- The parent. -/
  | router (parent : Nat)
  /-- The memory, above the root. -/
  | memory
  deriving DecidableEq, Repr

/-- What a port leads to. -/
inductive PortState where
  /-- A host or the memory. -/
  | routerToNode
  /-- Another router. -/
  | routerToRouter
  deriving DecidableEq, Repr

/-- The code of a state in tables and netlists. -/
def PortState.code : PortState → String
  | routerToNode => "R2N"
  | routerToRouter => "R2R"

/-- A router of a tree. -/
structure Router where
  /-- Its number. -/
  id : Nat
  /-- Its name. -/
  name : String
  /-- Its level; leaf routers have level zero. -/
  level : Nat
  /-- The number of its ports. -/
  numPorts : Nat
  /-- What is below it. -/
  downlinks : Downlinks
  /-- What is above it. -/
  uplink : Uplink
  /-- The numbers of the links on its ports. -/
  ports : List Nat
  deriving DecidableEq, Repr

namespace Router

/-- The number of ports that lead down. -/
def fanout (r : Router) : Nat := r.numPorts - 1

/-- The port that leads up. -/
def uplinkPort (r : Router) : Nat := r.numPorts - 1

/-- Whether the memory is above. -/
def isRoot (r : Router) : Bool := r.uplink == .memory

/-- Whether hosts are below. -/
def isLeaf (r : Router) : Bool := r.level == 0

/-- The link on a port. -/
def linkOnPort? (r : Router) (port : Nat) : Option Nat := r.ports[port]?

/-- The state of a port: the last one leads to a node at the root, the others do at a leaf. -/
def portState? (r : Router) (port : Nat) : Option PortState :=
  if r.numPorts ≤ port then none
  else if (if port = r.uplinkPort then r.isRoot else r.isLeaf) then some .routerToNode
  else some .routerToRouter

theorem portState?_isSome_iff {r : Router} {port : Nat} :
    (r.portState? port).isSome ↔ port < r.numPorts := by
  unfold portState?
  by_cases h : r.numPorts ≤ port
  · simp only [h, if_true, Option.isSome_none, Bool.false_eq_true, false_iff]
    omega
  · simp only [h, if_false]
    cases (if port = r.uplinkPort then r.isRoot else r.isLeaf) <;> simp <;> omega

end Router

end Interconnect
