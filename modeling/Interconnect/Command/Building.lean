/-
**The events of building a tree.**

Building reports every link when it is made and every router when all its ports are connected.  If
the name of a link turns out to be taken, the events before that are still reported.

Main definitions:

* `LinkTable.newLinks` — the links that some wires make;
* `Tree.wiringEvents` — the events of making some routers;
* `Config.buildEvents` — the events of building the tree of a configuration.
-/

import Interconnect.Command.Event

set_option autoImplicit false

namespace Interconnect

/-- The links that are made for some wires, up to the first wire that cannot have a link. -/
def LinkTable.newLinks (table : LinkTable) : List Wire → List Link
  | [] => []
  | w :: ws =>
      match table.connect w.ends w.latency with
      | .error _ => []
      | .ok (_, next) => next.links.drop table.links.length ++ next.newLinks ws

namespace Tree

/-- The links that are made for the router with a number. -/
def linksMade (t : Tree) (o : TreeOptions) (table : LinkTable) (id : Nat) : List Link :=
  match (t.place id).bind (t.wires o id) with
  | .ok wires => table.newLinks wires
  | .error _ => []

/-- The events of making the routers with the given numbers. -/
def wiringEvents (t : Tree) (o : TreeOptions) (table : LinkTable) : List Nat → List Event
  | [] => []
  | id :: ids =>
      (t.linksMade o table id).map Event.linkMade ++
        match t.wireRouter o table id with
        | .ok (router, next) => Event.routerWired o router :: t.wiringEvents o next ids
        | .error _ => []

end Tree

/-- The events of building with a builder. -/
def Builder.buildEvents (b : Builder) (tree : Tree) : List Event :=
  tree.wiringEvents b.options b.links (List.range tree.layout.totalRouters) ++
    match b.build with
    | .ok (topology, _) => [Event.built topology]
    | .error _ => []

/-- The events of building the tree of a configuration. -/
def Config.buildEvents (c : Config) : List Event :=
  match c.configuredBuilder with
  | .error _ => []
  | .ok b =>
      match b.tree? with
      | none => []
      | some tree => Event.configured b.options tree :: b.buildEvents tree

end Interconnect
