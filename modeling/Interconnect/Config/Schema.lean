/-
**Configurations as data.**

A configuration is read from the root node of a YAML document and can be turned into a value again.
Fields that a configuration does not know are skipped; a field that is left out has its default.
Written out, a setting that is unset is left out, and everything else is there.

Main definitions:

* `Config.ofNode` — the configuration in a node;
* `Config.ofYaml` — the configuration in a text;
* `Config.toValue` — a configuration as a value.
-/

import Interconnect.Config.Basic
import Interconnect.Value.Basic
import Interconnect.Yaml.Decode
import Interconnect.Yaml.Document

set_option autoImplicit false

namespace Interconnect.Config

open Yaml (Spot Node DataError)

/-- Data that do not make a configuration; texts are refused as latencies. -/
abbrev ReadError := DataError LatencyError

/-- The wording of the error. -/
def readErrorMessage (e : ReadError) : String := e.message LatencyError.message

/-- A latency. -/
def readLatency (s : Spot) : Except ReadError Latency := s.meaning Latency.parse

/-- The formats to choose from. -/
def formatChoices : List (String × OutputFormat) :=
  [OutputFormat.yaml, .json].map fun f => (f.name, f)

/-! ### Reading -/

/-- What is known of general settings; the outer `Option` says whether the field was read. -/
structure GeneralFields where
  logLevel : Option (Option String) := none
  outputFormat : Option (Option OutputFormat) := none

/-- Reads a field of general settings. -/
def GeneralFields.read (f : GeneralFields) (field : String) (s : Spot) :
    Except ReadError GeneralFields :=
  match field with
  | "log_level" => do
      return { f with logLevel := ← s.once field f.logLevel (Spot.optional Spot.text) }
  | "output_format" => do
      return { f with
        outputFormat := ← s.once field f.outputFormat (Spot.optional (Spot.choice formatChoices)) }
  | _ => return f

/-- Reads general settings. -/
def General.ofSpot (s : Spot) : Except ReadError General := do
  let f ← s.fields "GeneralConfig" GeneralFields.read {}
  return { logLevel := f.logLevel.join, outputFormat := f.outputFormat.join }

/-- What is known of the settings of a network. -/
structure NetworkFields where
  name : Option String := none
  shape : Option String := none
  totalHosts : Option Nat := none
  hostNames : Option (Option (List String)) := none
  memoryName : Option String := none
  linkLatency : Option Latency := none
  hostLinkLatency : Option (Option Latency) := none

/-- Reads a field of the settings of a network. -/
def NetworkFields.read (f : NetworkFields) (field : String) (s : Spot) :
    Except ReadError NetworkFields :=
  match field with
  | "name" => do return { f with name := ← s.once field f.name Spot.text }
  | "shape" => do return { f with shape := ← s.once field f.shape Spot.text }
  | "total_hosts" => do return { f with totalHosts := ← s.once field f.totalHosts Spot.word }
  | "host_names" => do
      return { f with hostNames := ← s.once field f.hostNames (Spot.optional Spot.texts) }
  | "memory_name" => do return { f with memoryName := ← s.once field f.memoryName Spot.text }
  | "link_latency" => do return { f with linkLatency := ← s.once field f.linkLatency readLatency }
  | "host_link_latency" => do
      return { f with
        hostLinkLatency := ← s.once field f.hostLinkLatency (Spot.optional readLatency) }
  | _ => return f

/-- Reads the settings of a network, which need a shape and a number of hosts. -/
def Network.ofSpot (s : Spot) : Except ReadError Network := do
  let f ← s.fields "NetworkConfig" NetworkFields.read {}
  let shape ← s.require "shape" f.shape
  let totalHosts ← s.require "total_hosts" f.totalHosts
  let base : Network := { shape, totalHosts }
  return { shape, totalHosts
           name := f.name.getD base.name
           hostNames := f.hostNames.join
           memoryName := f.memoryName.getD base.memoryName
           linkLatency := f.linkLatency.getD base.linkLatency
           hostLinkLatency := f.hostLinkLatency.join }

/-- What is known of the parameters of routers. -/
structure RouterFields where
  linkBw : Option String := none
  xbarBw : Option String := none
  flitSize : Option String := none
  inputLatency : Option Latency := none
  outputLatency : Option Latency := none
  inputBufSize : Option String := none
  outputBufSize : Option String := none
  xbarArb : Option String := none

/-- Reads a parameter of routers. -/
def RouterFields.read (f : RouterFields) (field : String) (s : Spot) :
    Except ReadError RouterFields :=
  match field with
  | "link_bw" => do return { f with linkBw := ← s.once field f.linkBw Spot.text }
  | "xbar_bw" => do return { f with xbarBw := ← s.once field f.xbarBw Spot.text }
  | "flit_size" => do return { f with flitSize := ← s.once field f.flitSize Spot.text }
  | "input_latency" => do
      return { f with inputLatency := ← s.once field f.inputLatency readLatency }
  | "output_latency" => do
      return { f with outputLatency := ← s.once field f.outputLatency readLatency }
  | "input_buf_size" => do return { f with inputBufSize := ← s.once field f.inputBufSize Spot.text }
  | "output_buf_size" => do
      return { f with outputBufSize := ← s.once field f.outputBufSize Spot.text }
  | "xbar_arb" => do return { f with xbarArb := ← s.once field f.xbarArb Spot.text }
  | _ => return f

/-- Reads the parameters of routers. -/
def RouterParams.ofSpot (s : Spot) : Except ReadError RouterParams := do
  let f ← s.fields "RouterParams" RouterFields.read {}
  let base : RouterParams := {}
  return { linkBw := f.linkBw.getD base.linkBw
           xbarBw := f.xbarBw.getD base.xbarBw
           flitSize := f.flitSize.getD base.flitSize
           inputLatency := f.inputLatency.getD base.inputLatency
           outputLatency := f.outputLatency.getD base.outputLatency
           inputBufSize := f.inputBufSize.getD base.inputBufSize
           outputBufSize := f.outputBufSize.getD base.outputBufSize
           xbarArb := f.xbarArb.getD base.xbarArb }

/-- What is known of a configuration. -/
structure Fields where
  general : Option General := none
  network : Option Network := none
  router : Option RouterParams := none

/-- Reads a part of a configuration. -/
def Fields.read (f : Fields) (field : String) (s : Spot) : Except ReadError Fields :=
  match field with
  | "general" => do return { f with general := ← s.once field f.general General.ofSpot }
  | "network" => do return { f with network := ← s.once field f.network Network.ofSpot }
  | "router" => do return { f with router := ← s.once field f.router RouterParams.ofSpot }
  | _ => return f

/-- The configuration in a node.  It needs a network. -/
def ofNode (root : Node) : Except ReadError Config := do
  let s := Spot.root root
  let f ← s.fields "Config" Fields.read {}
  let network ← s.require "network" f.network
  return { general := f.general.getD {}, network, router := f.router.getD {} }

/-- Why there is no configuration in a text. -/
inductive YamlError where
  /-- The text is not one well-formed document. -/
  | illFormed
  /-- The document does not make a configuration. -/
  | data (e : ReadError)

/-- The configuration in a text. -/
def ofYaml (text : String) : Except YamlError Config :=
  match Yaml.document? text with
  | none => .error .illFormed
  | some root => (ofNode root).mapError .data

/-! ### Writing -/

/-- A latency as a value. -/
def latencyValue (l : Latency) : Value := .text (toString l)

/-- General settings as a value. -/
def General.toValue (g : General) : Value :=
  .mapping
    (Value.optional "log_level" .text g.logLevel ++
      Value.optional "output_format" (fun f => .text f.name) g.outputFormat)

/-- The settings of a network as a value. -/
def Network.toValue (n : Network) : Value :=
  .mapping
    ([("name", .text n.name), ("shape", .text n.shape), ("total_hosts", .number n.totalHosts)] ++
      Value.optional "host_names" .texts n.hostNames ++
      [("memory_name", .text n.memoryName), ("link_latency", latencyValue n.linkLatency)] ++
      Value.optional "host_link_latency" latencyValue n.hostLinkLatency)

/-- The entries for the parameters of routers. -/
def RouterParams.entries (p : RouterParams) : List (String × Value) :=
  [("link_bw", .text p.linkBw), ("xbar_bw", .text p.xbarBw), ("flit_size", .text p.flitSize),
   ("input_latency", latencyValue p.inputLatency),
   ("output_latency", latencyValue p.outputLatency),
   ("input_buf_size", .text p.inputBufSize), ("output_buf_size", .text p.outputBufSize),
   ("xbar_arb", .text p.xbarArb)]

/-- A configuration as a value. -/
def toValue (c : Config) : Value :=
  .mapping
    [("general", c.general.toValue), ("network", c.network.toValue),
     ("router", .mapping c.router.entries)]

end Interconnect.Config
