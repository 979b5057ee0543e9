/-
**Netlists and routing tables as values.**

Both are written to files for the simulator, which finds the kinds of its components in them.

Main definitions:

* `Netlist.toValue` — a netlist as a value;
* `RoutingTable.toValue` — a routing table as a value.
-/

import Interconnect.Config.Schema
import Interconnect.Netlist.Basic
import Interconnect.Value.Basic

set_option autoImplicit false

namespace Interconnect

namespace Netlist

/-- The kind of component that the simulator has for a router. -/
def routerComponent : String := "merlin.hr_router"

/-- The kind of component that the simulator has for the topology of a tree. -/
def topologyComponent : String := "merlin.tree"

/-- A port as a value. -/
def Port.toValue (p : Port) : Value :=
  .mapping
    [("port", .text p.port), ("link", .text p.link), ("latency", Config.latencyValue p.latency),
     ("state", .text p.state.code)]

/-- A router of a network as a value. -/
def RouterEntry.toValue (n : NetworkEntry) (r : RouterEntry) : Value :=
  .mapping
    [("name", .text r.name),
     ("component", .mapping
       ([("type", .text routerComponent), ("id", .number r.id),
         ("num_ports", .number r.numPorts)] ++ r.params.entries)),
     ("topology", .mapping
       [("type", .text topologyComponent), ("shape", .text (toString n.shape)),
        ("total_hosts", .number n.totalHosts)]),
     ("level", .number r.level), ("ports", .list (r.ports.map Port.toValue))]

/-- A link as a value. -/
def LinkEntry.toValue (l : LinkEntry) : Value :=
  .mapping
    [("name", .text l.name), ("endpoints", .texts [l.endpoints.first, l.endpoints.second]),
     ("latency", Config.latencyValue l.latency)]

/-- An attachment as a value. -/
def Attachment.toValue (a : Attachment) : Value :=
  .mapping
    [("name", .text a.name), ("endpoint_id", .number a.endpointId), ("link", .text a.link),
     ("router", .text a.router), ("port", .text a.port)]

/-- A network as a value. -/
def NetworkEntry.toValue (n : NetworkEntry) : Value :=
  .mapping
    [("name", .text n.name), ("shape", .text (toString n.shape)),
     ("total_hosts", .number n.totalHosts), ("num_routers", .number n.numRouters),
     ("num_nodes", .number n.numNodes), ("routers_per_level", .numbers n.routersPerLevel)]

/-- A netlist as a value. -/
def toValue (n : Netlist) : Value :=
  .mapping
    [("network", n.network.toValue),
     ("routers", .list (n.routers.map (RouterEntry.toValue n.network))),
     ("links", .list (n.links.map LinkEntry.toValue)),
     ("hosts", .list (n.hosts.map Attachment.toValue)), ("memory", n.memory.toValue)]

end Netlist

/-- A port of a routing table as a value. -/
def PortInfo.toValue (p : PortInfo) : Value :=
  .mapping
    ([("state", .text p.state.code)] ++ Value.optional "endpoint" .number p.endpoint ++
      Value.optional "neighbor" .number p.neighbor)

/-- A row of a routing table as a value. -/
def RouterRoutes.toValue (r : RouterRoutes) : Value :=
  .mapping
    [("router", .number r.router), ("name", .text r.name), ("next_port", .numbers r.nextPort),
     ("ports", .list (r.ports.map PortInfo.toValue))]

/-- A routing table as a value. -/
def RoutingTable.toValue (t : RoutingTable) : Value :=
  .mapping
    [("num_hosts", .number t.numHosts), ("hosts_per_leaf", .number t.hostsPerLeaf),
     ("root", .number t.root), ("routers", .list (t.routers.map RouterRoutes.toValue))]

end Interconnect
