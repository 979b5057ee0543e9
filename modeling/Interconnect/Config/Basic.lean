/-
**Configurations.**

A configuration describes one tree and how it is written out: general settings, the network, and
the parameters that all routers share.  Most settings have a default.

Main definitions:

* `Config`, `Config.General`, `Config.Network`, `Config.RouterParams` — the settings;
* `OutputFormat`, `LogLevel` — the formats and levels to choose from;
* `Config.Network.effectiveHostNames`, `Config.Network.treeOptions` — what the builder is given.
-/

import Interconnect.Builder
import Interconnect.Text.Blank

set_option autoImplicit false

namespace Interconnect

/-! ### Formats and levels -/

/-- The format of the netlist. -/
inductive OutputFormat where
  | yaml
  | json
  deriving DecidableEq, Repr

/-- The name of a format, which is also the extension of its files. -/
def OutputFormat.name : OutputFormat → String
  | yaml => "yaml"
  | json => "json"

/-- The format with a name. -/
def OutputFormat.ofName? (name : String) : Option OutputFormat :=
  [yaml, json].find? fun f => f.name == name

/-- How much is logged. -/
inductive LogLevel where
  | trace
  | debug
  | info
  | warn
  | error
  | off
  deriving DecidableEq, Repr

namespace LogLevel

/-- All levels, from the one that logs most. -/
def all : List LogLevel := [trace, debug, info, warn, error, off]

/-- The name of a level. -/
def name : LogLevel → String
  | trace => "trace"
  | debug => "debug"
  | info => "info"
  | warn => "warn"
  | error => "error"
  | off => "off"

/-- How little a level logs. -/
def rank : LogLevel → Nat
  | trace => 0
  | debug => 1
  | info => 2
  | warn => 3
  | error => 4
  | off => 5

/-- The level with a name in any mix of upper and lower case.  No letter outside of ASCII has a
small form that occurs in one of the names. -/
def ofName? (name : String) : Option LogLevel :=
  all.find? fun l => l.name.toList == name.toList.map Char.toLower

/-- Whether a line of the given level is logged under a limit. -/
def allows (limit line : LogLevel) : Bool := limit.rank ≤ line.rank && line != off

end LogLevel

/-! ### Settings -/

/-- General settings. -/
structure Config.General where
  /-- How much is logged. -/
  logLevel : Option String := none
  /-- The format of the netlist. -/
  outputFormat : Option OutputFormat := none
  deriving DecidableEq, Repr

/-- The tree to build. -/
structure Config.Network where
  /-- The name of the network. -/
  name : String := "tree"
  /-- The shape of the tree, as it is written. -/
  shape : String
  /-- The number of hosts. -/
  totalHosts : Nat
  /-- The names of the hosts. -/
  hostNames : Option (List String) := none
  /-- The name of the memory. -/
  memoryName : String := "mem"
  /-- The latency of links. -/
  linkLatency : Latency := .nanosecond
  /-- The latency of links to hosts, if it is another one. -/
  hostLinkLatency : Option Latency := none
  deriving DecidableEq, Repr

/-- What is told to the simulator about every router. -/
structure Config.RouterParams where
  /-- The bandwidth of the links. -/
  linkBw : String := "8GB/s"
  /-- The bandwidth of the crossbar. -/
  xbarBw : String := "8GB/s"
  /-- The size of a flit. -/
  flitSize : String := "8B"
  /-- The delay at an input. -/
  inputLatency : Latency := .nanosecond
  /-- The delay at an output. -/
  outputLatency : Latency := .nanosecond
  /-- The size of the buffer of an input. -/
  inputBufSize : String := "256B"
  /-- The size of the buffer of an output. -/
  outputBufSize : String := "256B"
  /-- The arbiter of the crossbar. -/
  xbarArb : String := "merlin.xbar_arb_lru"
  deriving DecidableEq, Repr

/-- A configuration. -/
structure Config where
  /-- General settings. -/
  general : Config.General := {}
  /-- The tree to build. -/
  network : Config.Network
  /-- The parameters of the routers. -/
  router : Config.RouterParams := {}
  deriving DecidableEq, Repr

/-! ### Settings with their defaults -/

namespace Config

/-- The name of the level that is logged, `info` if none is set. -/
def logLevelName (c : Config) : String := c.general.logLevel.getD "info"

/-- The level that is logged, `info` also for a name that no level has. -/
def logLevel (c : Config) : LogLevel := (LogLevel.ofName? c.logLevelName).getD .info

/-- The format of the netlist, YAML if none is set. -/
def outputFormat (c : Config) : OutputFormat := c.general.outputFormat.getD .yaml

namespace Network

/-- The name of a host that has no name configured. -/
def defaultHostName (i : Nat) : String := "host" ++ toString i

/-- The names of the hosts: those configured, or the default ones. -/
def effectiveHostNames (n : Network) : List String :=
  n.hostNames.getD ((List.range n.totalHosts).map defaultHostName)

/-- What the builder of the tree is created with. -/
def treeOptions (n : Network) : TreeOptions :=
  { networkName := n.name, memoryName := n.memoryName, linkLatency := n.linkLatency,
    hostLinkLatency := n.hostLinkLatency }

end Network

end Config

end Interconnect
