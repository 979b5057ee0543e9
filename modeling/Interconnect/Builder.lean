/-
**Building trees.**

A builder goes through three stages: it is created with options, configured once, and built once.
Links may be asked for at any time and in any order of their ends.  They come from the same table
that building uses, so a link that was asked for early is the link that the tree gets.

Every call returns either an error or the answer together with the next builder; a call that fails
has no next builder, and the caller keeps the one it had.

Main definitions:

* `TreeOptions` — the names and latencies that a builder is created with;
* `Builder`, `Builder.Stage` — a builder and how far it has come;
* `Builder.configure`, `Builder.getLink`, `Builder.build` — the three calls;
* `Tree.wires` — what the ports of a router have to be connected to.
-/

import Interconnect.Text.Blank
import Interconnect.Topology

set_option autoImplicit false

namespace Interconnect

/-! ### Options -/

/-- The names and latencies of a tree. -/
structure TreeOptions where
  /-- The name of the network. -/
  networkName : String := "tree"
  /-- The name of the memory. -/
  memoryName : String := "mem"
  /-- The latency of the links between routers and of the link to the memory. -/
  linkLatency : Latency := .nanosecond
  /-- The latency of the links to hosts, if it is another one. -/
  hostLinkLatency : Option Latency := none
  deriving DecidableEq, Repr

/-- The latency of the links to hosts. -/
def TreeOptions.hostLatency (o : TreeOptions) : Latency := o.hostLinkLatency.getD o.linkLatency

/-! ### Wires -/

/-- A connection that a tree needs. -/
structure Wire where
  /-- The names of its ends. -/
  ends : EndpointPair
  /-- The latency of the link, if it is made for this wire. -/
  latency : Latency
  deriving DecidableEq, Repr

namespace Tree

/-- The wires from a router to what is below it, in the order of the ports. -/
def wiresDown (t : Tree) (o : TreeOptions) (router : String) :
    Downlinks → Except TreeError (List Wire)
  | .hosts ids => ids.mapM fun host => do
      return { ends := .of (← t.hostName host) router, latency := o.hostLatency }
  | .routers ids =>
      .ok (ids.map fun child =>
        { ends := .of (routerName child) router, latency := o.linkLatency })

/-- The name of what is above a router. -/
def uplinkName (o : TreeOptions) : Uplink → String
  | .router parent => routerName parent
  | .memory => o.memoryName

/-- The wires of the router with a number, one for each port. -/
def wires (t : Tree) (o : TreeOptions) (id : Nat) (place : Place) :
    Except TreeError (List Wire) := do
  let up : Wire :=
    { ends := .of (routerName id) (uplinkName o place.uplink), latency := o.linkLatency }
  return (← t.wiresDown o (routerName id) place.downlinks) ++ [up]

end Tree

/-- The numbers of the links for some wires, and the table that has them. -/
def LinkTable.connectAll (table : LinkTable) :
    List Wire → Except LinkNameClash (List Nat × LinkTable)
  | [] => .ok ([], table)
  | w :: ws => do
      let (id, table) ← table.connect w.ends w.latency
      let (ids, table) ← table.connectAll ws
      return (id :: ids, table)

/-- The links of a table that have one of the given numbers. -/
def LinkTable.restrict (table : LinkTable) (ids : List Nat) : List Link :=
  table.links.filter fun l => ids.contains l.id

namespace Tree

/-- Makes the router with a number and connects its ports. -/
def wireRouter (t : Tree) (o : TreeOptions) (table : LinkTable) (id : Nat) :
    Except TreeError (Router × LinkTable) := do
  let place ← t.place id
  let wires ← t.wires o id place
  let (ports, table) ← (table.connectAll wires).mapError fun c => .configuration (.linkName c)
  return ({ id, name := routerName id, level := place.level, numPorts := place.fanout + 1,
            downlinks := place.downlinks, uplink := place.uplink, ports }, table)

/-- Makes the routers with the given numbers, in order. -/
def wireRouters (t : Tree) (o : TreeOptions) (table : LinkTable) :
    List Nat → Except TreeError (List Router × LinkTable)
  | [] => .ok ([], table)
  | id :: ids => do
      let (router, table) ← t.wireRouter o table id
      let (routers, table) ← t.wireRouters o table ids
      return (router :: routers, table)

/-- The link on a port of one of the routers that were made. -/
def linkOn (routers : List Router) (id : Nat) (port : Router → Nat) : Except TreeError Nat :=
  match routers[id]? with
  | none => .error (.unknownRouter id)
  | some r =>
      match r.linkOnPort? (port r) with
      | none => .error (.invalidPort id (port r))
      | some link => .ok link

/-- The links to the hosts: the host at a place is below the leaf router that dividing the place
finds. -/
def hostLinks (t : Tree) (routers : List Router) : Except TreeError (List Nat) :=
  (List.range t.hostNames.length).mapM fun host =>
    linkOn routers (host / t.shape.hostsPerLeaf) fun _ => host % t.shape.hostsPerLeaf

/-- The link to the memory, which is above the root. -/
def memoryLink (t : Tree) (routers : List Router) : Except TreeError Nat :=
  linkOn routers t.layout.rootId Router.uplinkPort

end Tree

/-! ### The builder -/

/-- How far a builder has come. -/
inductive Builder.Stage where
  /-- It is not configured. -/
  | unconfigured
  /-- It is configured and not built. -/
  | configured (tree : Tree)
  /-- It is built. -/
  | built (tree : Tree)
  deriving DecidableEq, Repr

/-- A builder of trees. -/
structure Builder where
  /-- The names and latencies it was created with. -/
  options : TreeOptions
  /-- How far it has come. -/
  stage : Builder.Stage
  /-- The links that were made so far. -/
  links : LinkTable
  deriving DecidableEq, Repr

namespace Builder

/-- A new builder. -/
def new (options : TreeOptions) : Builder :=
  { options, stage := .unconfigured, links := .empty }

/-- The tree that was configured. -/
def tree? (b : Builder) : Option Tree :=
  match b.stage with
  | .unconfigured => none
  | .configured tree => some tree
  | .built tree => some tree

/-- Whether the builder is configured. -/
def isConfigured (b : Builder) : Bool := b.tree?.isSome

/-- Whether the builder is built. -/
def isBuilt (b : Builder) : Bool := b.stage matches .built _

/-- The link with a number. -/
def link? (b : Builder) (id : Nat) : Option Link := b.links.get? id

/-! ### Configuring -/

/-- Checks one host name after the names `seen` before it. -/
def checkHost (memoryName : String) (layout : Layout) (seen : List String) (name : String) :
    Except Misconfiguration Unit :=
  if Text.isBlankText name then .error .blankHost
  else if name = memoryName then .error (.hostIsMemory name)
  else if layout.hasRouterNamed name then .error (.hostIsRouter name)
  else if seen.contains name then .error (.duplicateHost name)
  else .ok ()

/-- Checks the host names one after the other. -/
def checkHosts (memoryName : String) (layout : Layout) (seen : List String) :
    List String → Except Misconfiguration Unit
  | [] => .ok ()
  | name :: names =>
      (checkHost memoryName layout seen name).bind fun _ =>
        checkHosts memoryName layout (name :: seen) names

/-- The tree for a shape, a number of hosts and their names, if they fit each other and the name of
the memory. -/
def plan (options : TreeOptions) (shape : Shape) (totalHosts : Nat) (hostNames : List String) :
    Except TreeError Tree := do
  let layout ← (shape.layout totalHosts).mapError .ofLayout
  if layout.hasRouterNamed options.memoryName then
    .error (.configuration (.memoryIsRouter options.memoryName))
  else if hostNames.length ≠ totalHosts then
    .error (.configuration (.hostCount totalHosts hostNames.length))
  else
    (checkHosts options.memoryName layout [] hostNames).mapError .configuration
    return { shape, layout, hostNames }

/-- Fixes the shape, the number of hosts and their names. -/
def configure (b : Builder) (shape : Shape) (totalHosts : Nat) (hostNames : List String) :
    Except TreeError Builder :=
  match b.stage with
  | .built _ => .error .alreadyBuilt
  | .configured _ => .error .alreadyConfigured
  | .unconfigured => do
      let tree ← plan b.options shape totalHosts hostNames
      return { b with stage := .configured tree }

/-! ### Links -/

/-- Whether a name belongs to an endpoint: the memory always, hosts and routers once there is a
tree. -/
def hasEndpoint (b : Builder) (name : String) : Bool :=
  name == b.options.memoryName || b.tree?.any fun t => t.isHost name || t.isRouter name

/-- Whether a name belongs to a host. -/
def isHost (b : Builder) (name : String) : Bool := b.tree?.any fun t => t.isHost name

/-- The latency of a link, which depends on whether a host is at one of its ends. -/
def latencyBetween (b : Builder) (first second : String) : Latency :=
  if b.isHost first || b.isHost second then b.options.hostLatency else b.options.linkLatency

/-- The number of the link between two endpoints; the link is made if there is none. -/
def getLink (b : Builder) (first second : String) : Except TreeError (Nat × Builder) :=
  if ¬ b.hasEndpoint first then .error (.unknownEndpoint first)
  else if ¬ b.hasEndpoint second then .error (.unknownEndpoint second)
  else if first = second then .error (.configuration (.selfLink first))
  else
    match b.links.connect (.of first second) (b.latencyBetween first second) with
    | .ok (id, links) => .ok (id, { b with links })
    | .error clash => .error (.configuration (.linkName clash))

/-! ### Building -/

/-- Makes all routers and connects them. -/
def build (b : Builder) : Except TreeError (Topology × Builder) :=
  match b.stage with
  | .built _ => .error .alreadyBuilt
  | .unconfigured => .error .notConfigured
  | .configured tree => do
      let (routers, links) ←
        tree.wireRouters b.options b.links (List.range tree.layout.totalRouters)
      let topology : Topology :=
        { networkName := b.options.networkName, memoryName := b.options.memoryName, tree, routers,
          links := links.restrict (routers.flatMap Router.ports)
          hostLinks := ← tree.hostLinks routers, memoryLink := ← tree.memoryLink routers }
      return (topology, { b with stage := .built tree, links })

end Builder

end Interconnect
