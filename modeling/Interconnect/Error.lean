/-
**Errors of trees.**

Everything that can go wrong while a tree is configured, built and asked for routes.  A
configuration is refused for one of the reasons of `Misconfiguration`; the other errors are about
the order of the calls or about numbers and names that do not exist, but for one: an overflow is
handed on like an error, and nothing goes on after it.

Main definitions:

* `Misconfiguration` — why a configuration is refused;
* `TreeError` — the errors of all calls;
* `TreeError.message` — their wording.
-/

import Interconnect.Layout
import Interconnect.Link

set_option autoImplicit false

namespace Interconnect

/-- Why a tree cannot be configured or wired as asked. -/
inductive Misconfiguration where
  /-- There is no such shape. -/
  | shape (cause : ShapeError)
  /-- The shape does not fit the number of hosts. -/
  | layout (cause : LayoutError)
  /-- The memory has the name of a router of the tree. -/
  | memoryIsRouter (name : String)
  /-- The number of host names is another than the number of hosts. -/
  | hostCount (expected given : Nat)
  /-- The name of a host is blank. -/
  | blankHost
  /-- A host has the name of the memory. -/
  | hostIsMemory (name : String)
  /-- A host has the name of a router of the tree. -/
  | hostIsRouter (name : String)
  /-- Two hosts have one name. -/
  | duplicateHost (name : String)
  /-- An endpoint was to be linked to itself. -/
  | selfLink (name : String)
  /-- The shape does not say how many things are below the routers of a level. -/
  | noFanout (level : Nat)
  /-- The name of a link is taken. -/
  | linkName (clash : LinkNameClash)
  deriving DecidableEq, Repr

/-- The wording of the reason. -/
def Misconfiguration.message : Misconfiguration → String
  | shape cause => cause.message
  | layout cause => cause.message
  | memoryIsRouter name => "memory name '" ++ name ++ "' collides with a router name"
  | hostCount expected given =>
      "expected " ++ toString expected ++ " host names, got " ++ toString given
  | blankHost => "host names cannot be empty"
  | hostIsMemory name => "host name '" ++ name ++ "' collides with the memory endpoint"
  | hostIsRouter name => "host name '" ++ name ++ "' collides with a router name"
  | duplicateHost name => "duplicate host name '" ++ name ++ "'"
  | selfLink name => "cannot link endpoint '" ++ name ++ "' to itself"
  | noFanout level => "no fan-out for level " ++ toString level
  | linkName clash => clash.message

/-- What the program says when it stops at a sum that overflows. -/
def overflowMessage : String := "attempt to add with overflow"

/-- The errors of configuring, building and asking. -/
inductive TreeError where
  /-- The configuration is refused. -/
  | configuration (cause : Misconfiguration)
  /-- The tree is built already. -/
  | alreadyBuilt
  /-- The tree is configured already. -/
  | alreadyConfigured
  /-- The tree is not configured yet. -/
  | notConfigured
  /-- No host, router or memory has the name. -/
  | unknownEndpoint (name : String)
  /-- No router has the number. -/
  | unknownRouter (id : Nat)
  /-- No host has the number, and it is not the memory's either. -/
  | unknownDestination (id : Nat)
  /-- The router has no such port, or nothing of the wanted kind is on it. -/
  | invalidPort (router port : Nat)
  /-- Counting the routers overflows.  This is no answer: the program stops. -/
  | overflow
  deriving DecidableEq, Repr

/-- The wording of the error. -/
def TreeError.message : TreeError → String
  | configuration cause => "Invalid tree configuration: " ++ cause.message
  | alreadyBuilt => "Topology has already been built"
  | alreadyConfigured => "Topology parameters are locked after the first configure"
  | notConfigured => "Topology must be configured before it is built"
  | unknownEndpoint name => "Unknown endpoint: " ++ name
  | unknownRouter id => "Unknown router id " ++ toString id
  | unknownDestination id => "Unknown destination endpoint " ++ toString id
  | invalidPort router port => "Router " ++ toString router ++ " has no port " ++ toString port
  | overflow => overflowMessage

/-- What it means for a tree that there is no layout. -/
def TreeError.ofLayout : LayoutFailure → TreeError
  | .misfit cause => .configuration (.layout cause)
  | .overflow => .overflow

end Interconnect
