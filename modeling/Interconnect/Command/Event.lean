/-
**What a run reports.**

While it runs, the program reports what happens.  Every event belongs to a part of the program and
to a level; the log keeps the events that its limit allows.

Main definitions:

* `Event` — the things that are reported;
* `Event.message` — their wording;
* `Log`, `Log.add` — the events that are kept;
* `Log.lines` — the log as lines of text.
-/

import Interconnect.Config.Overrides
import Interconnect.Output
import Interconnect.Text.Fields
import Interconnect.Text.Quoted

set_option autoImplicit false

namespace Interconnect

/-! ### Events -/

/-- Something that happens while the program runs. -/
inductive Event where
  /-- A configuration is going to be read. -/
  | loading (path : String)
  /-- A configuration was read. -/
  | loaded (network : Config.Network)
  /-- The shape of a configuration is replaced. -/
  | otherShape (old new : String)
  /-- The number of hosts is replaced. -/
  | otherTotalHosts (old new : Nat)
  /-- The host names do not fit the number of hosts. -/
  | namesDropped
  /-- The configuration at a path is going to be used. -/
  | chosen (path : String)
  /-- A network is going to be built. -/
  | planned (network : Config.Network)
  /-- A builder was configured. -/
  | configured (options : TreeOptions) (tree : Tree)
  /-- A link was made. -/
  | linkMade (link : Link)
  /-- A router was connected. -/
  | routerWired (options : TreeOptions) (router : Router)
  /-- A tree was built. -/
  | built (topology : Topology)
  /-- A netlist was put together. -/
  | assembled (topology : Topology)
  /-- The size of a level. -/
  | levelSize (level count : Nat)
  /-- The size of a tree. -/
  | treeSize (topology : Topology)
  /-- Nothing is going to be written. -/
  | dryRun
  /-- A file was written. -/
  | wrote (kind : OutputKind) (path : String)
  /-- A file is there at the end. -/
  | generated (path : String)
  /-- The run is complete. -/
  | completed
  deriving DecidableEq, Repr

/-- The parts of the program that report events. -/
inductive EventSource where
  | program
  | loader
  | builder
  | generator
  deriving DecidableEq, Repr

/-- The name of a part in the log. -/
def EventSource.name : EventSource → String
  | program => "treenet"
  | loader => "treenet::config_loader"
  | builder => "treenet::topology::builder"
  | generator => "treenet::orchestrator"

namespace Event

/-- The part of the program that reports an event. -/
def source : Event → EventSource
  | loading _ | loaded _ | otherShape _ _ | otherTotalHosts _ _ | namesDropped => .loader
  | configured _ _ | linkMade _ | routerWired _ _ | built _ => .builder
  | assembled _ | wrote _ _ => .generator
  | chosen _ | planned _ | levelSize _ _ | treeSize _ | dryRun | generated _ | completed => .program

/-- The level of an event: steps in between are only for debugging. -/
def level : Event → LogLevel
  | linkMade _ | routerWired _ _ | assembled _ => .debug
  | _ => .info

/-- A path in a message. -/
def quoted (path : String) : String := Text.quote .path path

/-- The wording of an event. -/
def message : Event → String
  | loading path => "Loading configuration from: " ++ quoted path
  | loaded n =>
      "Loaded tree '" ++ n.name ++ "' with shape " ++ n.shape ++ " for " ++ toString n.totalHosts ++
        " hosts"
  | otherShape old new => "Overriding shape: " ++ old ++ " -> " ++ new
  | otherTotalHosts old new =>
      "Overriding total_hosts: " ++ toString old ++ " -> " ++ toString new
  | namesDropped => "Discarding configured host_names; generating defaults"
  | chosen path => "Configuration file: " ++ quoted path
  | planned n =>
      "Tree '" ++ n.name ++ "': shape " ++ n.shape ++ ", " ++ toString n.totalHosts ++
        " hosts, memory endpoint '" ++ n.memoryName ++ "'"
  | configured o t =>
      "Configured tree '" ++ o.networkName ++ "' with shape " ++ toString t.shape ++ " for " ++
        toString t.hostNames.length ++ " hosts: " ++ toString t.layout.totalRouters ++
        " routers per level [" ++ ", ".intercalate (t.layout.counts.map toString) ++ "]"
  | linkMade l =>
      "Creating link " ++ l.name ++ " (" ++ l.endpoints.first ++ " <-> " ++ l.endpoints.second ++
        ", " ++ toString l.latency ++ ")"
  | routerWired o r =>
      "Router " ++ r.name ++ " at level " ++ toString r.level ++ ": " ++ toString r.fanout ++
        " downward ports, uplink to " ++ Tree.uplinkName o r.uplink
  | built t =>
      "Built tree '" ++ t.networkName ++ "': " ++ toString t.numRouters ++ " routers, " ++
        toString t.links.length ++ " links, root " ++ routerName t.tree.layout.rootId ++
        " attached to " ++ t.memoryName
  | assembled t =>
      "Assembled netlist with " ++ toString t.numRouters ++ " routers and " ++
        toString t.links.length ++ " links"
  | levelSize level count => "Level " ++ toString level ++ ": " ++ toString count ++ " routers"
  | treeSize t =>
      "Built " ++ toString t.numRouters ++ " routers and " ++ toString t.links.length ++
        " links; memory link " ++ t.memoryLinkName?.getD "<none>"
  | dryRun => "Dry run: no files written"
  | wrote .netlist path => "Wrote netlist: " ++ quoted path
  | wrote .routes path => "Wrote routing table: " ++ quoted path
  | generated path => "Generated: " ++ quoted path
  | completed => "Topology generation completed successfully"

end Event

/-! ### The log -/

/-- The name of a level in the log, in capitals and five characters wide. -/
def LogLevel.label (l : LogLevel) : String :=
  (String.ofList (l.name.toList.map Char.toUpper)).pushn ' ' (5 - l.name.length)

/-- The lines for an event.  A message that runs over several lines is indented from the second
one on. -/
def Event.lines (e : Event) : List String :=
  match (Text.fields '\n' e.message.toList).map String.ofList with
  | [] => []
  | first :: rest =>
      ("[" ++ e.level.label ++ " " ++ e.source.name ++ "] " ++ first) :: rest.map ("    " ++ ·)

/-- The events of a run. -/
structure Log where
  /-- The lowest level that is kept. -/
  limit : LogLevel
  /-- The events, in order. -/
  events : Array Event
  deriving Repr

namespace Log

/-- A log without events. -/
def start (limit : LogLevel) : Log := { limit, events := #[] }

/-- Keeps an event if the limit allows it. -/
def add (l : Log) (e : Event) : Log :=
  if l.limit.allows e.level then { l with events := l.events.push e } else l

/-- Keeps those of some events that the limit allows. -/
def addAll (l : Log) (es : List Event) : Log := es.foldl add l

/-- The log as lines of text. -/
def lines (l : Log) : List String := l.events.toList.flatMap Event.lines

end Log

end Interconnect
