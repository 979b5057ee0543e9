/-
**Built trees.**

A topology is what building a tree produces: its routers with a link on every port, the links that
are used, and among them those to the hosts and to the memory.  It answers questions about itself by
number.

Main definitions:

* `Topology` — a built tree;
* `Topology.router?`, `Topology.link?` — a router or a link by its number;
* `Topology.routersAtLevel` — the routers of a level;
* `Topology.hostLinkNames`, `Topology.memoryLinkName?` — the names of the links at its edge.
-/

import Interconnect.Link
import Interconnect.Tree

set_option autoImplicit false

namespace Interconnect

/-- A built tree. -/
structure Topology where
  /-- The name of the network. -/
  networkName : String
  /-- The name of the memory. -/
  memoryName : String
  /-- The form of the tree and its hosts. -/
  tree : Tree
  /-- The routers; each stands at the place that its number says. -/
  routers : List Router
  /-- The links that are on some port, in the order of their numbers. -/
  links : List Link
  /-- The numbers of the links to the hosts, in the order of the hosts. -/
  hostLinks : List Nat
  /-- The number of the link between the root and the memory. -/
  memoryLink : Nat
  deriving DecidableEq, Repr

namespace Topology

/-- The number of hosts. -/
def numHosts (t : Topology) : Nat := t.tree.hostNames.length

/-- The number of routers. -/
def numRouters (t : Topology) : Nat := t.routers.length

/-- The number of nodes: the hosts and the memory. -/
def numNodes (t : Topology) : Nat := t.numHosts + 1

/-- The router with a number. -/
def router? (t : Topology) (id : Nat) : Option Router := t.routers[id]?

/-- The root. -/
def root? (t : Topology) : Option Router := t.router? t.tree.layout.rootId

/-- The routers of a level, none if there is no such level. -/
def routersAtLevel (t : Topology) (level : Nat) : List Router :=
  match t.tree.layout.counts[level]?, t.tree.layout.offset? level with
  | some count, some first => (t.routers.drop first).take count
  | _, _ => []

/-- The link with a number, if it is on some port. -/
def link? (t : Topology) (id : Nat) : Option Link := t.links.find? fun l => l.id == id

/-- The names of the links of all hosts. -/
def hostLinkNames (t : Topology) : List String :=
  t.hostLinks.filterMap fun id => (t.link? id).map Link.name

/-- The name of the link between the root and the memory. -/
def memoryLinkName? (t : Topology) : Option String := (t.link? t.memoryLink).map Link.name

end Topology

end Interconnect
