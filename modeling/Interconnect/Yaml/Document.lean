/-
**From tokens to a document.**

The grammar of YAML over tokens.  A text has at most one document; a text without any is read as an
empty scalar, and so is every place where a node is left out.

Functions of the grammar take the tokens from a state, together with the names of the anchors so
far. They are bounded by a number of steps; between two tokens that are taken there are never more
than four of them.

Main definitions:

* `Yaml.Reader` — the state of reading;
* `Yaml.node?` — one node;
* `Yaml.document?` — the root node of a text.
-/

import Interconnect.Yaml.Node
import Interconnect.Yaml.TokenStream

set_option autoImplicit false

namespace Interconnect.Yaml

/-- The state of reading. -/
structure Reader where
  /-- The tokens that are left. -/
  tokens : List Token
  /-- The names of the anchors so far, each with its number. -/
  anchors : List (String × Nat)
  /-- The handles of tags with what they stand for. -/
  handles : List (String × String)

/-- Reading something; nothing comes out if the grammar does not allow what is there. -/
abbrev Read (α : Type) := StateT Reader Option α

namespace Read

/-- The next token, which stays there. -/
def peek : Read (Option Token) := return (← get).tokens.head?

/-- Drops the next token. -/
def skip : Read Unit := modify fun r => { r with tokens := r.tokens.tail }

/-- Whether the next token is one of the given ones. -/
def sees (ts : List Token) : Read Bool := return (← peek).any ts.contains

/-- Takes the next token, which has to be the given one. -/
def expect (t : Token) : Read Unit := do
  guard ((← peek) == some t)
  skip

/-- The number for an anchor with a given name, and the names with it.  A name that is used again
moves to the new number. -/
def nameAnchor (name : String) : Read Nat := do
  let r ← get
  let id := r.anchors.length
  let anchors :=
    if r.anchors.any fun a => a.1 == name then
      r.anchors.map fun a => if a.1 == name then (name, id) else a
    else (name, id) :: r.anchors
  set { r with anchors }
  return id

/-- The number of the anchor with a given name. -/
def aliasNumber (name : String) : Read Nat := do
  let r ← get
  match r.anchors.find? fun a => a.1 == name with
  | some a => return a.2
  | none => failure

/-- A tag with its handle resolved. -/
def resolveTag (handle suffix : String) : Read String := do
  let r ← get
  if handle.isEmpty then return suffix
  else
    match r.handles.find? fun h => h.1 == handle with
    | some h => return h.2 ++ suffix
    | none => failure

/-- The anchor before a node. -/
def anchor : Read (Option Nat) := do
  match ← peek with
  | some (.anchor name) => do
      skip
      return some (← nameAnchor name)
  | _ => return none

/-- The tag before a node. -/
def tag : Read (Option (String × String)) := do
  match ← peek with
  | some (.tag handle suffix) => do
      skip
      return some (handle, suffix)
  | _ => return none

/-- The anchor and the tag before a node, in either order. -/
def properties : Read Properties := do
  let anchorFirst ← anchor
  let tag ← tag
  let anchor ←
    if anchorFirst.isSome then pure anchorFirst
    else if tag.isSome then anchor
    else pure none
  match tag with
  | some (handle, suffix) => return { anchor, tag := some (← resolveTag handle suffix) }
  | none => return { anchor, tag := none }

end Read

open Read

mutual

/-- A node.  In a block, it may be a block itself; as a value of a mapping, it may be a sequence
whose dashes stand below the key. -/
def node? (inBlock dashes : Bool) : Nat → Read Node
  | 0 => failure
  | steps + 1 => do
      match ← peek with
      | some (.reference name) => do
          skip
          return .reference (← aliasNumber name)
      | _ => do
          let p ← properties
          match ← peek with
          | some (.scalar style text) => do
              skip
              -- A lone exclamation mark says no more about a scalar than its form does.
              return .scalar { p with tag := p.tag.filter (· != "!") } style text
          | some .flowSequenceStart => do
              skip
              return .sequence p (← flowItems? true steps)
          | some .flowMappingStart => do
              skip
              return .mapping p (← flowEntries? true steps)
          | t =>
              if dashes && t == some .blockEntry then
                return .sequence p (← dashItems? steps)
              else if inBlock && t == some .blockSequenceStart then do
                skip
                return .sequence p (← blockItems? steps)
              else if inBlock && t == some .blockMappingStart then do
                skip
                return .mapping p (← blockEntries? steps)
              else if p.anchor.isSome || p.tag.isSome then return .scalar p .plain ""
              else failure

/-- A node, or an empty one before one of the given tokens. -/
def nodeBefore? (stops : List Token) (inBlock dashes : Bool) : Nat → Read Node
  | 0 => failure
  | steps + 1 => do
      if ← sees stops then return .empty else node? inBlock dashes steps

/-- The items of a block sequence, up to its end. -/
def blockItems? : Nat → Read (List Node)
  | 0 => failure
  | steps + 1 => do
      if ← sees [.blockEnd] then do
        skip
        return []
      else do
        expect .blockEntry
        let item ← nodeBefore? [.blockEntry, .blockEnd] true false steps
        return item :: (← blockItems? steps)

/-- The items of a sequence whose dashes stand below a key. -/
def dashItems? : Nat → Read (List Node)
  | 0 => failure
  | steps + 1 => do
      if ← sees [.blockEntry] then do
        skip
        let item ← nodeBefore? [.blockEntry, .key, .value, .blockEnd] true false steps
        return item :: (← dashItems? steps)
      else return []

/-- The entries of a block mapping, up to its end. -/
def blockEntries? : Nat → Read (List (Node × Node))
  | 0 => failure
  | steps + 1 => do
      if ← sees [.blockEnd] then do
        skip
        return []
      else do
        expect .key
        let key ← nodeBefore? [.key, .value, .blockEnd] true true steps
        let value ←
          if ← sees [.value] then do
            skip
            nodeBefore? [.key, .value, .blockEnd] true true steps
          else pure .empty
        return (key, value) :: (← blockEntries? steps)

/-- The items of a sequence in brackets.  Before all but the first there is a comma, and there may
be one behind the last.  An item with a key is a mapping of one entry. -/
def flowItems? (first : Bool) : Nat → Read (List Node)
  | 0 => failure
  | steps + 1 => do
      if ← sees [.flowSequenceEnd] then do
        skip
        return []
      else do
        if !first then expect .flowEntry
        if ← sees [.flowSequenceEnd] then do
          skip
          return []
        else if ← sees [.key] then do
          skip
          let key ← flowPairKey? steps
          let value ←
            if ← sees [.value] then do
              skip
              nodeBefore? [.flowEntry, .flowSequenceEnd] false false steps
            else pure .empty
          return .mapping {} [(key, value)] :: (← flowItems? false steps)
        else do
          let item ← node? false false steps
          return item :: (← flowItems? false steps)

/-- The key of an item that is a mapping of one entry.  A key that is left out takes the token
behind it along. -/
def flowPairKey? : Nat → Read Node
  | 0 => failure
  | steps + 1 => do
      if ← sees [.value, .flowEntry, .flowSequenceEnd] then do
        skip
        return .empty
      else node? false false steps

/-- The entries of a mapping in braces, separated like the items of a sequence.  An entry without a
colon has an empty value. -/
def flowEntries? (first : Bool) : Nat → Read (List (Node × Node))
  | 0 => failure
  | steps + 1 => do
      if ← sees [.flowMappingEnd] then do
        skip
        return []
      else do
        if !first then expect .flowEntry
        if ← sees [.flowMappingEnd] then do
          skip
          return []
        else if ← sees [.key] then do
          skip
          let key ← nodeBefore? [.value, .flowEntry, .flowMappingEnd] false false steps
          let value ←
            if ← sees [.value] then do
              skip
              nodeBefore? [.flowEntry, .flowMappingEnd] false false steps
            else pure .empty
          return (key, value) :: (← flowEntries? false steps)
        else do
          let key ← node? false false steps
          return (key, .empty) :: (← flowEntries? false steps)

end

/-! ### Documents -/

/-- Takes the directives before a document: at most one version, which has to be 1.1 or 1.2, and at
most one meaning for each handle. -/
def directives? (versioned : Bool) : Nat → Read Unit
  | 0 => failure
  | steps + 1 => do
      match ← peek with
      | some (.version major minor) => do
          guard (!versioned && major == 1 && (minor == 1 || minor == 2))
          skip
          directives? true steps
      | some (.tagHandle handle expansion) => do
          let r ← get
          guard (!r.handles.any fun h => h.1 == handle)
          set { r with tokens := r.tokens.tail, handles := (handle, expansion) :: r.handles }
          directives? versioned steps
      | _ => return ()

/-- The handles that have a meaning in every document, unless it gives them another. -/
def standardHandles : List (String × String) := [("!", "!"), ("!!", "tag:yaml.org,2002:")]

/-- How a document starts. -/
inductive DocumentStart where
  /-- There is no document. -/
  | missing
  /-- It starts with its root node. -/
  | bare
  /-- It starts with a marker, perhaps behind directives. -/
  | marked
  deriving DecidableEq, Repr

/-- Takes what is before the root node. -/
def documentStart? (steps : Nat) : Read DocumentStart := do
  match ← peek with
  | none => return .missing
  | some (.version _ _) | some (.tagHandle _ _) | some .documentStart => do
      directives? false steps
      expect .documentStart
      return .marked
  | some _ => return .bare

/-- Takes the only document of a text and the markers behind it. -/
def onlyDocument? (steps : Nat) : Read Node := do
  let start ← documentStart? steps
  modify fun r => { r with handles := r.handles ++ standardHandles }
  let leftOut := start == .marked && (← peek).all (· == .documentEnd)
  let root ← if start == .missing || leftOut then pure .empty else node? true false steps
  modify fun r => { r with tokens := r.tokens.dropWhile (· == .documentEnd) }
  guard (← get).tokens.isEmpty
  return root

/-- The root node of a text. -/
def document? (text : String) : Option Node := do
  let tokens ← tokens? text
  (onlyDocument? (4 * tokens.length + 8)).run' { tokens, anchors := [], handles := [] }

end Interconnect.Yaml
