/-
**Places in a tree.**

Where a router stands follows from its number alone.  Its level and its place on the level come from
the layout; the things below it are a block of consecutive hosts or routers, as many as the fan-out
of its level, and the blocks of one level follow each other; its parent is found by dividing its
place by the fan-out of the next level.

A failure of these functions means that the layout is not the layout of the shape.

Main definitions:

* `Tree` — a shape with a layout and the names of the hosts;
* `Place` — the level of a router with what is below and above it;
* `Tree.place` — the place of a router;
* `Tree.isHost`, `Layout.hasRouterNamed` — whether a name belongs to a host or a router.
-/

import Interconnect.Error
import Interconnect.Router

set_option autoImplicit false

namespace Interconnect

/-- Whether a name is the name of a router of the layout. -/
def Layout.hasRouterNamed (l : Layout) (name : String) : Bool :=
  (routerId? name).any fun id => id < l.totalRouters

/-- What a configuration fixes: the form of the tree and the names of its hosts. -/
structure Tree where
  /-- The fan-outs. -/
  shape : Shape
  /-- The number of routers on each level. -/
  layout : Layout
  /-- The names of the hosts, from left to right. -/
  hostNames : List String
  deriving DecidableEq, Repr

/-- Where a router stands. -/
structure Place where
  /-- Its level. -/
  level : Nat
  /-- The number of things below it. -/
  fanout : Nat
  /-- What is below it. -/
  downlinks : Downlinks
  /-- What is above it. -/
  uplink : Uplink
  deriving DecidableEq, Repr

namespace Tree

/-- Whether a name is the name of a host. -/
def isHost (t : Tree) (name : String) : Bool := t.hostNames.contains name

/-- Whether a name is the name of a router. -/
def isRouter (t : Tree) (name : String) : Bool := t.layout.hasRouterNamed name

/-- The fan-out of a level that the layout has. -/
def fanout (t : Tree) (level : Nat) : Except TreeError Nat :=
  match t.shape.fanout? level with
  | some f => .ok f
  | none => .error (.configuration (.noFanout level))

/-- The number of the first router of a level that the shape has. -/
def offset (t : Tree) (level : Nat) : Except TreeError Nat :=
  match t.layout.offset? level with
  | some first => .ok first
  | none => .error (.configuration (.noFanout level))

/-- The level of a router. -/
def levelOf (t : Tree) (id : Nat) : Except TreeError Nat :=
  match t.layout.levelOf? id with
  | some level => .ok level
  | none => .error (.unknownRouter id)

/-- The name of a host. -/
def hostName (t : Tree) (host : Nat) : Except TreeError String :=
  match t.hostNames[host]? with
  | some name => .ok name
  | none => .error (.unknownDestination host)

/-- What is below the router at the given place of a level. -/
def downlinks (t : Tree) (level index : Nat) : Except TreeError Downlinks := do
  let f ← t.fanout level
  match level with
  | 0 => return .hosts (List.range' (index * f) f)
  | below + 1 => return .routers (List.range' ((← t.offset below) + index * f) f)

/-- What is above the router with a number, at the given place of a level. -/
def uplink (t : Tree) (id level index : Nat) : Except TreeError Uplink := do
  if id = t.layout.rootId then return .memory
  else return .router ((← t.offset (level + 1)) + index / (← t.fanout (level + 1)))

/-- Where the router with a number stands. -/
def place (t : Tree) (id : Nat) : Except TreeError Place := do
  let level ← t.levelOf id
  let fanout ← t.fanout level
  let index := id - (← t.offset level)
  return { level, fanout, downlinks := ← t.downlinks level index,
           uplink := ← t.uplink id level index }

end Tree

end Interconnect
