/-
**Validation of configurations.**

A configuration is checked before anything is built from it: the log level first, then the network,
then the parameters of the routers.  The first thing that is wrong is reported.

Main definitions:

* `Config.Invalid` — what is wrong, by the part of the configuration it is in;
* `Config.Network.parsedShape` — the shape of the network;
* `Config.validate` — the check.
-/

import Interconnect.Config.Basic

set_option autoImplicit false

namespace Interconnect.Config

open Text

/-- What is wrong with the settings of a network. -/
inductive NetworkFault where
  | blankName
  | blankMemoryName
  /-- The shape cannot be read, or does not fit the number of hosts. -/
  | tree (cause : Misconfiguration)
  /-- The memory has the name of a router. -/
  | memoryIsRouter (name : String)
  /-- There are more or fewer names than hosts. -/
  | hostCount (listed totalHosts : Nat)
  | blankHost
  /-- A host has the name of the memory or of a router. -/
  | hostTaken (name : String)
  /-- Two hosts have one name. -/
  | duplicateHost (name : String)
  /-- Counting the routers overflows.  This is no fault that is reported: the program stops. -/
  | overflow
  deriving DecidableEq, Repr

/-- The wording of the fault. -/
def NetworkFault.message : NetworkFault → String
  | blankName => "network name cannot be empty"
  | blankMemoryName => "memory_name cannot be empty"
  | tree cause => (TreeError.configuration cause).message
  | memoryIsRouter name => "memory_name '" ++ name ++ "' collides with a router name"
  | hostCount listed totalHosts =>
      "host_names lists " ++ toString listed ++ " hosts but total_hosts is " ++ toString totalHosts
  | blankHost => "host_names cannot contain empty names"
  | hostTaken name => "host name '" ++ name ++ "' collides with a router or memory name"
  | duplicateHost name => "duplicate host name '" ++ name ++ "'"
  | overflow => overflowMessage

/-- What it means for a network that there is no layout. -/
def NetworkFault.ofLayout : LayoutFailure → NetworkFault
  | .misfit cause => .tree (.layout cause)
  | .overflow => .overflow

/-- What is wrong with a configuration. -/
inductive Invalid where
  /-- No log level has the name. -/
  | general (level : String)
  | network (fault : NetworkFault)
  /-- A parameter of the routers is blank. -/
  | router (field : String)
  deriving DecidableEq, Repr

/-- The names of the log levels, as a message lists them. -/
def levelNames : String :=
  ", ".intercalate (LogLevel.all.map fun l => "\"" ++ l.name ++ "\"")

/-- The wording of the error. -/
def Invalid.message : Invalid → String
  | general level =>
      "Invalid general configuration: unknown log_level '" ++ level ++ "', expected one of [" ++
        levelNames ++ "]"
  | network .overflow => overflowMessage
  | network fault => "Invalid network configuration: " ++ fault.message
  | router field => "Invalid router configuration: " ++ field ++ " cannot be empty"

/-! ### The network -/

namespace Network

/-- The shape of the network. -/
def parsedShape (n : Network) : Except NetworkFault Shape :=
  (Shape.parse n.shape).mapError fun e => .tree (.shape e)

/-- Checks one host name after the names `seen` before it. -/
def checkHost (memoryName : String) (layout : Layout) (seen : List String) (name : String) :
    Except NetworkFault Unit :=
  if isBlankText name then .error .blankHost
  else if name = memoryName ∨ layout.hasRouterNamed name then .error (.hostTaken name)
  else if seen.contains name then .error (.duplicateHost name)
  else .ok ()

/-- Checks the host names one after the other. -/
def checkHosts (memoryName : String) (layout : Layout) (seen : List String) :
    List String → Except NetworkFault Unit
  | [] => .ok ()
  | name :: names =>
      (checkHost memoryName layout seen name).bind fun _ =>
        checkHosts memoryName layout (name :: seen) names

/-- Checks the host names that are configured; default names are not checked. -/
def checkHostNames (n : Network) (layout : Layout) : Except NetworkFault Unit :=
  match n.hostNames with
  | none => .ok ()
  | some names =>
      if names.length ≠ n.totalHosts then .error (.hostCount names.length n.totalHosts)
      else checkHosts n.memoryName layout [] names

/-- Checks the settings of a network. -/
def validate (n : Network) : Except NetworkFault Unit :=
  if isBlankText n.name then .error .blankName
  else if isBlankText n.memoryName then .error .blankMemoryName
  else do
    let shape ← n.parsedShape
    let layout ← (shape.layout n.totalHosts).mapError .ofLayout
    if layout.hasRouterNamed n.memoryName then .error (.memoryIsRouter n.memoryName)
    else n.checkHostNames layout

end Network

/-! ### The whole -/

/-- The parameters that must not be blank, in the order in which they are checked. -/
def RouterParams.texts (p : RouterParams) : List (String × String) :=
  [("link_bw", p.linkBw), ("xbar_bw", p.xbarBw), ("flit_size", p.flitSize),
   ("input_buf_size", p.inputBufSize), ("output_buf_size", p.outputBufSize),
   ("xbar_arb", p.xbarArb)]

/-- Checks the parameters of the routers. -/
def RouterParams.validate (p : RouterParams) : Except Invalid Unit :=
  match p.texts.find? fun t => isBlankText t.2 with
  | some t => .error (.router t.1)
  | none => .ok ()

/-- Checks the general settings. -/
def General.validate (g : General) : Except Invalid Unit :=
  match g.logLevel with
  | none => .ok ()
  | some level => if (LogLevel.ofName? level).isSome then .ok () else .error (.general level)

/-- Checks a configuration. -/
def validate (c : Config) : Except Invalid Unit := do
  c.general.validate
  c.network.validate.mapError .network
  c.router.validate

end Interconnect.Config
