/-
**Reading data from nodes.**

A program that wants texts, numbers, lists and records from a YAML document asks its nodes for them.
A node that is something else is refused with the place where it stands and with what it is instead.

Main definitions:

* `Yaml.Path`, `Yaml.DataError` — a place in a document, and what is wrong there;
* `Yaml.Spot` — a node at its place;
* `Yaml.Spot.text`, `Yaml.Spot.word`, `Yaml.Spot.texts`, `Yaml.Spot.entries` — asking for data;
* `Yaml.Spot.optional` — a value that may be unset;
* `Yaml.Spot.fields` — the fields of a record, in the order of the document.
-/

import Interconnect.Text.Quoted
import Interconnect.Yaml.Node

set_option autoImplicit false

namespace Interconnect.Yaml

-- powers are those of the core library, whatever else is imported
attribute [local instance (high)] instPowNat

/-! ### Places and errors -/

/-- A step from a node to one inside of it. -/
inductive Segment where
  /-- To the value of a key. -/
  | key (name : String)
  /-- To the value of a key that is no scalar. -/
  | unnamed
  /-- To an item. -/
  | index (i : Nat)
  deriving DecidableEq, Repr

/-- The way from the root to a node. -/
abbrev Path := List Segment

/-- One more step of a path that is written already. -/
def Segment.append (written : String) : Segment → String
  | key name => if written.isEmpty then name else written ++ "." ++ name
  | unnamed => if written.isEmpty then "?" else written ++ ".?"
  | index i => written ++ "[" ++ toString i ++ "]"

/-- A path with points between its keys. -/
def Path.text (path : Path) : String := path.foldl Segment.append ""

/-- What is asked for. -/
inductive Expected where
  | text
  | word
  | sequence
  | record (name : String)
  | fieldName
  | taggedNode
  | boolean
  | integer
  | float
  | null
  | unit
  deriving DecidableEq, Repr

/-- The wording of what is asked for. -/
def Expected.message : Expected → String
  | text => "a string"
  | word => "usize"
  | sequence => "a sequence"
  | record name => "struct " ++ name
  | fieldName => "field identifier"
  | taggedNode => "a YAML tag starting with '!'"
  | boolean => "a boolean"
  | integer => "an integer"
  | float => "a float"
  | null => "null"
  | unit => "unit"

/-- What is there instead. -/
inductive Found where
  | sequence
  | mapping
  | scalar (meaning : Resolved) (text : String)
  deriving DecidableEq, Repr

/-- The wording of an integer, with a remark if it needs more than 64 bits. -/
def integerMessage (n : Int) : String :=
  "integer `" ++ toString n ++ "`" ++
    (if 2 ^ (64 : Nat) ≤ n then " as u128" else if n < -(2 ^ (63 : Nat)) then " as i128" else "")

/-- The wording of what is there instead. -/
def Found.message : Found → String
  | sequence => "sequence"
  | mapping => "map"
  | scalar .null _ => "unit value"
  | scalar (.bool b) _ => "boolean `" ++ toString b ++ "`"
  | scalar (.integer n) _ => integerMessage n
  | scalar (.float x) _ => "floating point `" ++ toString x ++ "`"
  | scalar .text text => "string " ++ Text.quote .text text

/-- What is wrong with the data of a document; `ε` are the reasons for which a text is refused. -/
inductive DataFault (ε : Type) where
  /-- A node is of another kind. -/
  | invalidType (found : Found) (expected : Expected)
  /-- A scalar is not what its tag or its place says. -/
  | invalidValue (text : String) (expected : Expected)
  /-- A record lacks a field. -/
  | missingField (name : String)
  /-- A record has a field twice. -/
  | duplicateField (name : String)
  /-- A choice is none of those there are. -/
  | unknownVariant (name : String) (known : List String)
  /-- A text is refused for its meaning. -/
  | refused (reason : ε)
  deriving DecidableEq, Repr

/-- The names of choices as a message lists them. -/
def variantList (names : List String) : String :=
  " or ".intercalate (names.map fun n => "`" ++ n ++ "`")

/-- The wording of the fault. -/
def DataFault.message {ε : Type} (reason : ε → String) : DataFault ε → String
  | invalidType found expected =>
      "invalid type: " ++ found.message ++ ", expected " ++ expected.message
  | invalidValue text expected =>
      "invalid value: string " ++ Text.quote .text text ++ ", expected " ++ expected.message
  | missingField name => "missing field `" ++ name ++ "`"
  | duplicateField name => "duplicate field `" ++ name ++ "`"
  | unknownVariant name known => "unknown variant `" ++ name ++ "`, expected " ++ variantList known
  | refused e => reason e

/-- Something wrong at a place. -/
structure DataError (ε : Type) where
  /-- The place. -/
  path : Path
  /-- What is wrong there. -/
  fault : DataFault ε
  deriving DecidableEq, Repr

/-- The wording of the error; the root needs no place. -/
def DataError.message {ε : Type} (reason : ε → String) (e : DataError ε) : String :=
  (if e.path.isEmpty then "" else e.path.text ++ ": ") ++ e.fault.message reason

/-! ### Nodes at their places -/

/-- A node at its place. -/
structure Spot where
  /-- The anchored nodes of the document. -/
  nodes : List (Nat × Node)
  /-- The way to the node that this one is a value or an item of. -/
  around : Path
  /-- The way to this node. -/
  path : Path
  /-- The node, or an alias for it. -/
  node : Node

namespace Spot

/-- The root of a document. -/
def root (n : Node) : Spot := { nodes := n.anchored, around := [], path := [], node := n }

/-- The node with aliases followed. -/
def target (s : Spot) : Node := s.node.follow s.nodes

/-- A node inside of this one. -/
def inside (s : Spot) (step : Segment) (n : Node) : Spot :=
  { s with around := s.path, path := s.path ++ [step], node := n }

variable {ε : Type}

/-- Something is wrong with this node. -/
def fail {α : Type} (s : Spot) (fault : DataFault ε) : Except (DataError ε) α :=
  .error { path := s.path, fault }

/-- Something is wrong with what is around this node. -/
def failAround {α : Type} (s : Spot) (fault : DataFault ε) : Except (DataError ε) α :=
  .error { path := s.around, fault }

/-! ### Kinds of nodes -/

/-- The tags of the standard types. -/
def standardTag (name : String) : String := "tag:yaml.org,2002:" ++ name

/-- What a scalar is instead of what is asked for.  A tag of a standard type says how to read it,
and that may fail. -/
def scalarMismatch (p : Properties) (style : ScalarStyle) (text : String) (expected : Expected) :
    DataFault ε :=
  let read (meaning : Option Resolved) (claimed : Expected) : DataFault ε :=
    match meaning with
    | some m => .invalidType (.scalar m text) expected
    | none => .invalidValue text claimed
  match p.tag with
  | some tag =>
      if tag = standardTag "bool" then read ((bool? text).map .bool) .boolean
      else if tag = standardTag "int" then read ((integer? text.toList).map .integer) .integer
      else if tag = standardTag "float" then read ((float? text).map .float) .float
      else if tag = standardTag "null" then
        read (if isNullWord text then some .null else none) .null
      else .invalidType (.scalar .text text) expected
  | none =>
      .invalidType (.scalar (if style = .plain then resolve text else .text) text) expected

/-- What a node is instead of what is asked for. -/
def mismatch (expected : Expected) : Node → DataFault ε
  | .sequence _ _ => .invalidType .sequence expected
  | .mapping _ _ => .invalidType .mapping expected
  | .scalar p style text => scalarMismatch p style text expected
  | .reference _ => .invalidType (.scalar .null "") expected

/-! ### Asking for data -/

/-- A text: every scalar is one. -/
def text (s : Spot) : Except (DataError ε) String :=
  match s.target with
  | .scalar _ _ text => .ok text
  | n => s.fail (mismatch .text n)

/-- A 64-bit number: an unquoted integer, or a literal block with the tag of integers. -/
def word (s : Spot) : Except (DataError ε) Nat :=
  let refuse : Except (DataError ε) Nat := s.fail (mismatch .word s.target)
  match s.target with
  | .scalar p style text =>
      if style = .plain ∨ (style = .literal ∧ p.tag = some (standardTag "int")) then
        match unsigned? text.toList with
        | some n => if n < 2 ^ (64 : Nat) then .ok n else refuse
        | none => refuse
      else refuse
  | _ => refuse

/-- The items of a sequence, from the item with number `i` on. -/
def itemsFrom (s : Spot) (i : Nat) : List Node → List Spot
  | [] => []
  | n :: ns => s.inside (.index i) n :: s.itemsFrom (i + 1) ns

/-- A list of texts; an empty unquoted scalar is an empty list. -/
def texts (s : Spot) : Except (DataError ε) (List String) :=
  match s.target with
  | .sequence _ items => (s.itemsFrom 0 items).mapM text
  | .scalar _ .plain "" => .ok []
  | n => s.fail (mismatch .sequence n)

/-- The entries of a record; an empty unquoted scalar is a record without entries. -/
def entries (s : Spot) (name : String) : Except (DataError ε) (List (Node × Node)) :=
  match s.target with
  | .mapping _ es => .ok es
  | .scalar _ .plain "" => .ok []
  | n => s.fail (mismatch (.record name) n)

/-- Whether a value is unset: an unquoted scalar that is empty or a word for null. -/
def isUnset (s : Spot) : Except (DataError ε) Bool :=
  match s.target with
  | .scalar p .plain text =>
      match p.tag with
      | none => .ok (text.isEmpty || isNullWord text)
      | some tag =>
          if tag ≠ standardTag "null" then .ok false
          else if isNullWord text then .ok true
          else s.failAround (.invalidValue text .null)
  | _ => .ok false

/-- A value that may be unset. -/
def optional {α : Type} (read : Spot → Except (DataError ε) α) (s : Spot) :
    Except (DataError ε) (Option α) := do
  if ← s.isUnset then return none else return some (← read s)

/-- A text that means something. -/
def meaning {α : Type} (parse : String → Except ε α) (s : Spot) : Except (DataError ε) α := do
  match parse (← s.text) with
  | .ok a => return a
  | .error e => s.failAround (.refused e)

/-! ### Choices -/

/-- The name of the choice that a tag of the document's own makes. -/
def choiceTag? (tag : Option String) : Option String :=
  tag.bind fun t =>
    match t.toList with
    | ['!'] => some "!"
    | '!' :: cs => some (String.ofList cs)
    | _ => none

/-- Checks that nothing is behind the tag of a choice. -/
def nothing (s : Spot) : Except (DataError ε) Unit :=
  match s.target with
  | .scalar _ style text =>
      if style = .plain ∧ (text.isEmpty ∨ isNullWord text) then .ok ()
      else s.fail (.invalidValue text .null)
  | n => s.fail (mismatch .unit n)

/-- One of several choices: a scalar with its name, or its name as a tag with nothing behind it. -/
def choice {α : Type} (known : List (String × α)) (s : Spot) : Except (DataError ε) α :=
  let find (name : String) : Option α := (known.find? fun k => k.1 == name).map Prod.snd
  match choiceTag? s.target.tag? with
  | some name =>
      match find name with
      | some a => s.nothing.map fun _ => a
      | none => s.failAround (.unknownVariant name (known.map Prod.fst))
  | none =>
      match s.target with
      | .scalar _ _ name =>
          match find name with
          | some a => .ok a
          | none => s.fail (.unknownVariant name (known.map Prod.fst))
      | n => s.fail (mismatch .taggedNode n)

/-! ### Records -/

/-- The name that a key has, at the record `s`. -/
def keyName (s : Spot) (key : Node) : Except (DataError ε) String :=
  match key.follow s.nodes with
  | .scalar _ _ name => .ok name
  | n => s.fail (mismatch .fieldName n)

/-- The step to the value of a key. -/
def keySegment : Node → Segment
  | .scalar _ _ name => .key name
  | _ => .unnamed

/-- Goes through entries in order, with what is known of the record so far. -/
def foldEntries {σ : Type} (s : Spot) (step : σ → String → Spot → Except (DataError ε) σ)
    (known : σ) :
    List (Node × Node) → Except (DataError ε) σ
  | [] => .ok known
  | (key, value) :: es => do
      let name ← s.keyName key
      s.foldEntries step (← step known name (s.inside (keySegment key) value)) es

/-- Reads the fields of a record in the order of the document. -/
def fields {σ : Type} (s : Spot) (name : String)
    (step : σ → String → Spot → Except (DataError ε) σ) (start : σ) : Except (DataError ε) σ := do
  s.foldEntries step start (← s.entries name)

/-- Reads the value of a field that has not been read before. -/
def once {α : Type} (s : Spot) (field : String) (known : Option α)
    (read : Spot → Except (DataError ε) α) : Except (DataError ε) (Option α) :=
  if known.isSome then s.failAround (.duplicateField field) else (read s).map some

/-- The value of a field that has to be there. -/
def require {α : Type} (s : Spot) (field : String) (known : Option α) : Except (DataError ε) α :=
  match known with
  | some a => .ok a
  | none => s.fail (.missingField field)

end Spot

end Interconnect.Yaml
