/-
**Links and the table that holds them.**

A link joins two endpoints and has a latency.  The table numbers the links in the order in which
they were made and never drops one.  Asking it to connect two endpoints that are connected already,
in either order, gives the link that is there; a new link is refused only if its name is taken,
which can happen because names of endpoints may contain the underscore that joins them.

Main definitions:

* `Link` — a numbered pair of endpoints with a latency;
* `LinkTable` — the links that were made;
* `LinkTable.connect` — the link between two endpoints, made if there is none;
* `LinkNameClash` — why a pair gets no link.

Main results:

* `LinkTable.connect_eq_of_find?` — a pair that is connected keeps its link and the table;
* `LinkTable.find?_connect` — the link that was handed out is found afterwards.
-/

import Interconnect.Latency
import Interconnect.Name

set_option autoImplicit false

namespace Interconnect

/-- A link between two endpoints. -/
structure Link where
  /-- The number of the link in its table. -/
  id : Nat
  /-- Its name. -/
  name : String
  /-- The endpoints it joins. -/
  endpoints : EndpointPair
  /-- Its delay. -/
  latency : Latency
  deriving DecidableEq, Repr

/-- Whether a link has the given endpoint. -/
def Link.connects (l : Link) (endpoint : String) : Bool := l.endpoints.contains endpoint

/-- A pair of endpoints that gets no link, because the link of another pair has the name. -/
structure LinkNameClash where
  /-- The pair that was to be connected. -/
  wanted : EndpointPair
  /-- The pair of the link that was found under the name. -/
  holder : EndpointPair
  deriving DecidableEq, Repr

/-- The wording of the clash. -/
def LinkNameClash.message (c : LinkNameClash) : String :=
  "link name '" ++ c.wanted.linkName ++ "' for " ++ toString c.wanted ++ " is already used by " ++
    toString c.holder

/-- All links that were made, in order. -/
structure LinkTable where
  /-- The links; each stands at the place that its number says. -/
  links : List Link
  deriving DecidableEq, Repr

namespace LinkTable

/-- A table without links. -/
def empty : LinkTable := ⟨[]⟩

/-- The link with a given number. -/
def get? (t : LinkTable) (id : Nat) : Option Link := t.links[id]?

/-- The link between two endpoints. -/
def find? (t : LinkTable) (pair : EndpointPair) : Option Link :=
  t.links.find? fun l => l.endpoints == pair

/-- The link with a given name. -/
def named? (t : LinkTable) (name : String) : Option Link := t.links.find? fun l => l.name == name

/-- Adds a link behind the others. -/
def push (t : LinkTable) (pair : EndpointPair) (latency : Latency) : LinkTable :=
  ⟨t.links ++ [{ id := t.links.length, name := pair.linkName, endpoints := pair, latency }]⟩

/-- The number of the link between two endpoints, and the table that has it.  The latency counts
only if the link is new. -/
def connect (t : LinkTable) (pair : EndpointPair) (latency : Latency) :
    Except LinkNameClash (Nat × LinkTable) :=
  match t.find? pair with
  | some l => .ok (l.id, t)
  | none =>
      match t.named? pair.linkName with
      | some l => .error { wanted := pair, holder := l.endpoints }
      | none => .ok (t.links.length, t.push pair latency)

theorem connect_eq_of_find? {t : LinkTable} {pair : EndpointPair} {l : Link}
    (h : t.find? pair = some l) (latency : Latency) : t.connect pair latency = .ok (l.id, t) := by
  simp [connect, h]

theorem find?_push {t : LinkTable} {pair : EndpointPair} {latency : Latency}
    (h : t.find? pair = none) :
    (t.push pair latency).find? pair = some ⟨t.links.length, pair.linkName, pair, latency⟩ := by
  unfold find? push at *
  simp [List.find?_append, h]

/-- What is handed out is the number of the link between the endpoints. -/
theorem find?_connect {t t' : LinkTable} {pair : EndpointPair} {latency : Latency} {id : Nat}
    (h : t.connect pair latency = .ok (id, t')) :
    ∃ l, t'.find? pair = some l ∧ l.id = id := by
  unfold connect at h
  split at h
  · rename_i l hl
    cases h
    exact ⟨l, hl, rfl⟩
  · rename_i hl
    split at h
    · cases h
    · cases h
      exact ⟨_, find?_push hl, rfl⟩

end LinkTable

end Interconnect
