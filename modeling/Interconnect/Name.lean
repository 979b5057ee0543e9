/-
**Names of components.**

Routers and ports are named by their numbers.  The names of hosts and of the memory are free, except
that they must not be the name of a router of the tree, so it has to be decided which texts are
router names: exactly those that naming a number produces.

Main definitions:

* `routerName`, `routerId?` — the name of a router, and the router that a name belongs to;
* `portName` — the name of a port;
* `EndpointPair` — two endpoint names in canonical order;
* `linkName` — the name of the link between two endpoints.

Main results:

* `routerId?_eq_some_iff` — a router name belongs to the router that it names and to no other.
-/

import Interconnect.Text.Numeral

set_option autoImplicit false

namespace Interconnect

-- powers are those of the core library, whatever else is imported
attribute [local instance (high)] instPowNat

open Text

/-- The name of the router with a given number. -/
def routerName (id : Nat) : String := "rtr_" ++ toString id

/-- The router that a name belongs to: its number is written behind `rtr_` the way `routerName`
writes it, so without a sign or a superfluous zero. -/
def routerId? (name : String) : Option Nat :=
  match name.toList with
  | 'r' :: 't' :: 'r' :: '_' :: digits =>
      (Numeral.read? digits).filter fun id => routerName id == name
  | _ => none

/-- The name of the port with a given number. -/
def portName (port : Nat) : String := "port" ++ toString port

theorem toList_routerName (id : Nat) :
    (routerName id).toList = 'r' :: 't' :: 'r' :: '_' :: (toString id).toList := by
  simp [routerName]

theorem routerName_injective {i j : Nat} (h : routerName i = routerName j) : i = j := by
  have := congrArg String.toList h
  simp only [toList_routerName, List.cons.injEq, true_and, String.toList_inj] at this
  exact Numeral.toString_injective this

/-- **Router names and numbers correspond one to one.** -/
theorem routerId?_eq_some_iff {name : String} {id : Nat} :
    routerId? name = some id ↔ name = routerName id ∧ id < 2 ^ (64 : Nat) := by
  constructor
  · intro h
    unfold routerId? at h
    split at h
    · obtain ⟨hr, hn⟩ := Option.filter_eq_some_iff.1 h
      refine ⟨(beq_iff_eq.1 hn).symm, ?_⟩
      unfold Numeral.read? at hr
      split at hr
      · cases hr
      · cases hd : Numeral.read _ with
        | error e => rw [hd] at hr; cases hr
        | ok n =>
            rw [hd] at hr
            cases hr
            exact (Numeral.read_eq_ok_iff.1 hd).2.2
    · cases h
  · rintro ⟨rfl, h⟩
    unfold routerId?
    rw [toList_routerName]
    simp only [Numeral.read?_toString h, Option.filter_some, beq_self_eq_true, if_true]

/-! ### Links -/

/-- The endpoints of a link in canonical order, that is in the order of their code points.  UTF-8
keeps that order, so this is also the order of the bytes. -/
structure EndpointPair where
  /-- The endpoint that comes first. -/
  first : String
  /-- The other endpoint. -/
  second : String
  deriving DecidableEq, Repr

namespace EndpointPair

/-- Brings two endpoints into canonical order. -/
def of (a b : String) : EndpointPair := if a ≤ b then ⟨a, b⟩ else ⟨b, a⟩

/-- Whether a name is one of the two. -/
def contains (p : EndpointPair) (name : String) : Bool := p.first == name || p.second == name

/-- The name of the link between the two endpoints. -/
def linkName (p : EndpointPair) : String := "link_" ++ p.first ++ "_" ++ p.second

instance : ToString EndpointPair where
  toString p := "(" ++ p.first ++ ", " ++ p.second ++ ")"

theorem of_comm (a b : String) : of a b = of b a := by
  unfold of
  rcases String.le_total a b with h | h
  · by_cases h' : b ≤ a
    · have := String.le_antisymm h h'
      simp [this]
    · simp [h, h']
  · by_cases h' : a ≤ b
    · have := String.le_antisymm h h'
      simp [this]
    · simp [h, h']

end EndpointPair

/-- The name of the link between two endpoints, the same in either order. -/
def linkName (a b : String) : String := (EndpointPair.of a b).linkName

end Interconnect
