/-
**Netlists.**

A netlist tells a simulator which components to create and how to connect them: every router with
the link on each port, every link once, and for the hosts and the memory the place where they
attach.

Main definitions:

* `Netlist` and its parts;
* `Netlist.assemble` — the netlist of a built tree with its routing table;
* `Netlist.AssemblyError` — why tree and table do not belong together.
-/

import Interconnect.Config.Basic
import Interconnect.Routing

set_option autoImplicit false

namespace Interconnect

namespace Netlist

/-- A port of a router. -/
structure Port where
  /-- The name of the port. -/
  port : String
  /-- The name of the link on it. -/
  link : String
  /-- The latency of that link. -/
  latency : Latency
  /-- What the port leads to. -/
  state : PortState
  deriving DecidableEq, Repr

/-- A router. -/
structure RouterEntry where
  /-- Its number. -/
  id : Nat
  /-- Its name. -/
  name : String
  /-- The number of its ports. -/
  numPorts : Nat
  /-- Its level. -/
  level : Nat
  /-- Its parameters. -/
  params : Config.RouterParams
  /-- The ports, in order. -/
  ports : List Port
  deriving DecidableEq, Repr

/-- A link. -/
structure LinkEntry where
  /-- Its name. -/
  name : String
  /-- The names of its ends. -/
  endpoints : EndpointPair
  /-- Its latency. -/
  latency : Latency
  deriving DecidableEq, Repr

/-- The place where a host or the memory attaches. -/
structure Attachment where
  /-- The name of the endpoint. -/
  name : String
  /-- The number of the endpoint. -/
  endpointId : Nat
  /-- The name of its link. -/
  link : String
  /-- The name of its router. -/
  router : String
  /-- The name of the port of that router. -/
  port : String
  deriving DecidableEq, Repr

/-- The network as a whole. -/
structure NetworkEntry where
  /-- Its name. -/
  name : String
  /-- The shape of the tree. -/
  shape : Shape
  /-- The number of hosts. -/
  totalHosts : Nat
  /-- The number of routers. -/
  numRouters : Nat
  /-- The number of hosts and memories. -/
  numNodes : Nat
  /-- The number of routers on each level. -/
  routersPerLevel : List Nat
  deriving DecidableEq, Repr

end Netlist

/-- A netlist. -/
structure Netlist where
  /-- The network as a whole. -/
  network : Netlist.NetworkEntry
  /-- The routers, in the order of their numbers. -/
  routers : List Netlist.RouterEntry
  /-- The links, in the order of their numbers. -/
  links : List Netlist.LinkEntry
  /-- Where the hosts attach, in their order. -/
  hosts : List Netlist.Attachment
  /-- Where the memory attaches. -/
  memory : Netlist.Attachment
  deriving DecidableEq, Repr

namespace Netlist

/-- Why a tree and a routing table do not belong together. -/
inductive AssemblyError where
  /-- The link on a port is none of the tree's. -/
  | noLink (router : String) (port : Nat)
  /-- The table does not know a router, a port or an endpoint of the tree. -/
  | routing (cause : TreeError)
  /-- The table attaches an endpoint to a router that the tree does not have. -/
  | missingRouter (endpoint : String) (router : Nat)
  /-- The table attaches an endpoint to a port that the router does not have. -/
  | noEndpointLink (endpoint router : String) (port : Nat)
  deriving DecidableEq, Repr

/-- The wording of the error. -/
def AssemblyError.message : AssemblyError → String
  | noLink router port => "Router " ++ router ++ " port " ++ toString port ++ " has no link"
  | routing cause => cause.message
  | missingRouter endpoint router =>
      "Endpoint " ++ endpoint ++ " attaches to missing router " ++ toString router
  | noEndpointLink endpoint router port =>
      "Endpoint " ++ endpoint ++ " has no link on " ++ router ++ " port " ++ toString port

/-- A port of a router with the link on it. -/
def portEntry (t : Topology) (routes : RoutingTable) (r : Router) (port linkId : Nat) :
    Except AssemblyError Port :=
  match t.link? linkId with
  | none => .error (.noLink r.name port)
  | some link =>
      match routes.portState r.id port with
      | .error e => .error (.routing e)
      | .ok state =>
          .ok { port := portName port, link := link.name, latency := link.latency, state }

/-- The ports of a router from the one with number `port` on, whose links are given. -/
def portEntries (t : Topology) (routes : RoutingTable) (r : Router) (port : Nat) :
    List Nat → Except AssemblyError (List Port)
  | [] => .ok []
  | linkId :: linkIds => do
      let entry ← portEntry t routes r port linkId
      return entry :: (← portEntries t routes r (port + 1) linkIds)

/-- A router with its ports. -/
def routerEntry (params : Config.RouterParams) (t : Topology) (routes : RoutingTable) (r : Router) :
    Except AssemblyError RouterEntry := do
  return { id := r.id, name := r.name, numPorts := r.numPorts, level := r.level, params,
           ports := ← portEntries t routes r 0 r.ports }

/-- Where an endpoint attaches. -/
def attachment (t : Topology) (routes : RoutingTable) (name : String) (endpointId : Nat) :
    Except AssemblyError Attachment := do
  let routerId ← (routes.destRouter endpointId).mapError .routing
  let port ← (routes.destLocalPort endpointId).mapError .routing
  match t.router? routerId with
  | none => throw (.missingRouter name routerId)
  | some r =>
      match (r.linkOnPort? port).bind t.link? with
      | none => throw (.noEndpointLink name r.name port)
      | some link =>
          return { name, endpointId, link := link.name, router := r.name, port := portName port }

/-- Where the hosts attach, from the one with number `host` on, whose names are given. -/
def hostAttachments (t : Topology) (routes : RoutingTable) (host : Nat) :
    List String → Except AssemblyError (List Attachment)
  | [] => .ok []
  | name :: names => do
      let entry ← attachment t routes name host
      return entry :: (← hostAttachments t routes (host + 1) names)

/-- The network of a built tree as a whole. -/
def networkEntry (t : Topology) : NetworkEntry :=
  { name := t.networkName, shape := t.tree.shape, totalHosts := t.numHosts,
    numRouters := t.numRouters, numNodes := t.numNodes, routersPerLevel := t.tree.layout.counts }

/-- The netlist of a built tree with its routing table and the parameters of its routers. -/
def assemble (params : Config.RouterParams) (t : Topology) (routes : RoutingTable) :
    Except AssemblyError Netlist := do
  let routers ← t.routers.mapM (routerEntry params t routes)
  let hosts ← hostAttachments t routes 0 t.tree.hostNames
  let memory ← attachment t routes t.memoryName routes.memoryEndpoint
  return { network := networkEntry t, routers, hosts, memory
           links := t.links.map fun l =>
             { name := l.name, endpoints := l.endpoints, latency := l.latency } }

end Netlist

end Interconnect
