/-
**From a configuration to a netlist.**

The tree of a configuration is built, its routing table is made, and both are put into a netlist.
None of this asks whether the configuration is valid.

Main definitions:

* `Generated` — everything that is made from a configuration;
* `Config.buildTopology` — the tree alone;
* `Config.generate` — all of it;
* `GenerationError` — why there is none.
-/

import Interconnect.Config.Validation
import Interconnect.Netlist.Basic

set_option autoImplicit false

namespace Interconnect

/-- Why nothing is generated. -/
inductive GenerationError where
  /-- The shape cannot be read. -/
  | shape (fault : Config.NetworkFault)
  /-- The tree cannot be built. -/
  | tree (cause : TreeError)
  /-- Tree and table do not belong together. -/
  | assembly (cause : Netlist.AssemblyError)
  deriving DecidableEq, Repr

/-- The wording of the error. -/
def GenerationError.message : GenerationError → String
  | shape fault => (Config.Invalid.network fault).message
  | tree cause => cause.message
  | assembly cause => cause.message

/-- What is made from a configuration. -/
structure Generated where
  /-- The built tree. -/
  topology : Topology
  /-- Its routing table. -/
  routes : RoutingTable
  /-- Its netlist. -/
  netlist : Netlist
  deriving DecidableEq, Repr

namespace Config

/-- A builder that is configured for a network. -/
def configuredBuilder (c : Config) : Except GenerationError Builder := do
  let shape ← c.network.parsedShape.mapError .shape
  ((Builder.new c.network.treeOptions).configure shape c.network.totalHosts
    c.network.effectiveHostNames).mapError .tree

/-- The tree of a configuration. -/
def buildTopology (c : Config) : Except GenerationError Topology := do
  let builder ← c.configuredBuilder
  let (topology, _) ← builder.build.mapError .tree
  return topology

/-- The tree of a configuration with its routing table and its netlist. -/
def generate (c : Config) : Except GenerationError Generated := do
  let topology ← c.buildTopology
  let routes := topology.routingTable
  let netlist ← (Netlist.assemble c.router topology routes).mapError .assembly
  return { topology, routes, netlist }

end Config

end Interconnect
