/-
**Nodes of YAML.**

A document is a tree of scalars, sequences and mappings, in which a node may be anchored and later
be referred to by an alias.

Anchors are numbered by the distinct names before them, so an anchor that uses a name again gets a
number that a later new name gets as well.  An alias stands for the last node with its number, in
the order in which the nodes start.

Main definitions:

* `Yaml.Node` — the nodes;
* `Yaml.Node.anchored` — the anchored nodes of a tree;
* `Yaml.Node.follow` — a node, or the node that an alias stands for.
-/

import Interconnect.Yaml.Token

set_option autoImplicit false

namespace Interconnect.Yaml

/-- What may be written before the content of a node. -/
structure Properties where
  /-- The number of the anchor. -/
  anchor : Option Nat := none
  /-- The tag, with its handle resolved. -/
  tag : Option String := none
  deriving DecidableEq, Repr

/-- A node. -/
inductive Node where
  /-- A reference to an anchored node. -/
  | reference (anchor : Nat)
  | scalar (properties : Properties) (style : ScalarStyle) (text : String)
  | sequence (properties : Properties) (items : List Node)
  | mapping (properties : Properties) (entries : List (Node × Node))
  deriving Repr

namespace Node

/-- A scalar that is not written at all. -/
def empty : Node := scalar {} .plain ""

/-- The tag of a node. -/
def tag? : Node → Option String
  | reference _ => none
  | scalar p _ _ => p.tag
  | sequence p _ => p.tag
  | mapping p _ => p.tag

/-- The number of the anchor of a node. -/
def anchor? : Node → Option Nat
  | reference _ => none
  | scalar p _ _ => p.anchor
  | sequence p _ => p.anchor
  | mapping p _ => p.anchor

mutual

/-- The anchored nodes of a tree with the numbers of their anchors, in the order in which they
start. -/
def anchored (n : Node) : List (Nat × Node) :=
  (n.anchor?.map fun id => (id, n)).toList ++
    match n with
    | reference _ => []
    | scalar _ _ _ => []
    | sequence _ items => anchoredItems items
    | mapping _ entries => anchoredEntries entries

/-- The anchored nodes of the items of a sequence. -/
def anchoredItems : List Node → List (Nat × Node)
  | [] => []
  | n :: ns => n.anchored ++ anchoredItems ns

/-- The anchored nodes of the entries of a mapping. -/
def anchoredEntries : List (Node × Node) → List (Nat × Node)
  | [] => []
  | (k, v) :: es => k.anchored ++ v.anchored ++ anchoredEntries es

end

/-- The node itself, or the node that it stands for if it is an alias. -/
def follow (nodes : List (Nat × Node)) : Node → Node
  | reference id => ((nodes.reverse.find? fun n => n.1 == id).map Prod.snd).getD empty
  | n => n

end Node

end Interconnect.Yaml
