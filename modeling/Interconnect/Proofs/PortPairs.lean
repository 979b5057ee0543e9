/-
**Which ports have the same link.**

A link has a name that is made of the names of its ends, so ports that are to have different links
must have different pairs of ends.  In a tree whose names are different the pair on a port tells
which port it is, with one exception: the port of a router for a child and the last port of that
child have the same pair.  It follows that the edges of the tree are different pairs.

Main definitions:

* `Tree.Has` — a component belongs to a tree;
* `Tree.pairOn` — the pair of names on a port.

Main results:

* `Tree.Named.nameOf_inj` — components of a tree have different names;
* `Tree.WellFormed.facing_inj` — the ports of a router lead to different components;
* `Tree.WellFormed.pairOn_eq_iff` — when two ports have the same pair;
* `Tree.WellFormed.edges_nodup` — the edges are different pairs.
-/

import Interconnect.Proofs.Calls

set_option autoImplicit false

namespace Interconnect

open EndpointPair

namespace Tree

/-! ### Names tell components apart -/

/-- A component belongs to a tree. -/
def Has (t : Tree) : Component → Prop
  | .host id => id < t.hostNames.length
  | .router id => id < t.layout.counts.sum
  | .memory => True

theorem nameOf?_eq_some {t : Tree} {memoryName : String} {c : Component} (h : t.Has c) :
    t.nameOf? memoryName c = some (t.nameOf memoryName c) := by
  cases c with
  | host id => exact nameOf?_host h
  | router id => rfl
  | memory => rfl

theorem isRouter_eq_true_iff {t : Tree} {name : String} :
    t.isRouter name = true ↔ ∃ id < t.layout.counts.sum, name = routerName id := by
  rw [isRouter, Layout.hasRouterNamed_eq_true_iff, Layout.totalRouters_eq]

namespace Named

variable {t : Tree} {memoryName : String}

/-- A name of a component is that of a router if and only if the component is one. -/
theorem isRouter_nameOf_iff (hn : t.Named memoryName) {c : Component} (hc : t.Has c) :
    t.isRouter (t.nameOf memoryName c) = true ↔ ∃ id, c = .router id := by
  cases c with
  | host id =>
      have hname := hn.host_not_router (List.getElem_mem hc)
      rw [nameOf_host hc, hname]
      exact ⟨nofun, nofun⟩
  | router id => exact ⟨fun _ => ⟨id, rfl⟩, fun _ => isRouter_eq_true_iff.2 ⟨id, hc, rfl⟩⟩
  | memory =>
      rw [nameOf_memory, hn.memory_not_router]
      exact ⟨nofun, nofun⟩

/-- **Components of a tree have different names.** -/
theorem nameOf_inj (hn : t.Named memoryName) {c c' : Component} (hc : t.Has c) (hc' : t.Has c')
    (he : t.nameOf memoryName c = t.nameOf memoryName c') : c = c' := by
  -- one of them is a router if and only if the other one is
  have hrouter : (∃ id, c = .router id) ↔ ∃ id, c' = .router id := by
    rw [← hn.isRouter_nameOf_iff hc, he, hn.isRouter_nameOf_iff hc']
  cases c with
  | router id =>
      obtain ⟨id', rfl⟩ := hrouter.1 ⟨id, rfl⟩
      rw [routerName_injective he]
  | host id =>
      cases c' with
      | router id' => exact absurd (hrouter.2 ⟨id', rfl⟩) nofun
      | host id' =>
          rw [nameOf_host hc, nameOf_host hc'] at he
          rw [hn.hosts_nodup.getElem_inj_iff.1 he]
      | memory =>
          rw [nameOf_host hc, nameOf_memory] at he
          exact absurd he (hn.host_ne_memory (List.getElem_mem hc))
  | memory =>
      cases c' with
      | router id' => exact absurd (hrouter.2 ⟨id', rfl⟩) nofun
      | host id' =>
          rw [nameOf_host hc', nameOf_memory] at he
          exact absurd he.symm (hn.host_ne_memory (List.getElem_mem hc'))
      | memory => rfl

end Named

/-! ### The ports of one router -/

/-- The pair of names on a port of the router at an index of a level. -/
def pairOn (t : Tree) (memoryName : String) (level index port : Nat) : EndpointPair :=
  .of (routerName (t.layout.idAt level index)) (t.nameOf memoryName (t.facing level index port))

namespace WellFormed

variable {t : Tree} {memoryName : String}

theorem has_under {level i : Nat} (h : i < t.numUnder level) : t.Has (t.under level i) := by
  cases level with
  | zero => exact h
  | succ low => exact Layout.idAt_lt h

theorem has_above (hw : t.WellFormed) {level index : Nat} (h : index < t.layout.count level) :
    t.Has (t.above level index).component := by
  have hlevel := hw.balanced.lt_numLevels h
  by_cases htop : level + 1 = t.shape.numLevels
  · rw [above_top htop]
    trivial
  · rw [above_of_lt (by omega)]
    exact Layout.idAt_lt (hw.balanced.parent_lt (by omega) h)

theorem has_facing (hw : t.WellFormed) {level index : Nat} (h : index < t.layout.count level)
    (port : Nat) : t.Has (t.facing level index port) := by
  unfold facing
  split
  · rename_i hport
    exact has_under (hw.under_lt h hport)
  · exact hw.has_above h

/-- What is above a router is not below it. -/
theorem under_ne_above (hw : t.WellFormed) {level index i : Nat} (h : index < t.layout.count level)
    (hi : i < t.numUnder level) : t.under level i ≠ (t.above level index).component := by
  have hlevel := hw.balanced.lt_numLevels h
  intro he
  by_cases htop : level + 1 = t.shape.numLevels
  · rw [above_top htop] at he
    cases level <;> cases he
  · rw [above_of_lt (by omega)] at he
    cases level with
    | zero => cases he
    | succ low =>
        have hup := hw.balanced.parent_lt (by omega) h
        have := (Layout.idAt_inj hi hup (Component.router.inj he)).1
        omega

/-- **The ports of a router lead to different components.** -/
theorem facing_inj (hw : t.WellFormed) {level index port port' : Nat}
    (h : index < t.layout.count level) (hport : port ≤ t.shape.arity level)
    (hport' : port' ≤ t.shape.arity level)
    (he : t.facing level index port = t.facing level index port') : port = port' := by
  rcases Nat.lt_or_eq_of_le hport with hlt | rfl
  · rw [facing_of_lt hlt] at he
    rcases Nat.lt_or_eq_of_le hport' with hlt' | rfl
    · rw [facing_of_lt hlt'] at he
      have := (under_inj (hw.under_lt h hlt) (hw.under_lt h hlt') he).2
      omega
    · rw [facing_arity] at he
      exact absurd he (hw.under_ne_above h (hw.under_lt h hlt))
  · rw [facing_arity] at he
    rcases Nat.lt_or_eq_of_le hport' with hlt' | rfl
    · rw [facing_of_lt hlt'] at he
      exact absurd he.symm (hw.under_ne_above h (hw.under_lt h hlt'))
    · rfl

/-- No port of a router leads to the router. -/
theorem facing_ne_self (hw : t.WellFormed) {level index : Nat} (h : index < t.layout.count level)
    (port : Nat) : t.facing level index port ≠ .router (t.layout.idAt level index) := by
  intro hface
  unfold facing at hface
  split at hface
  · rename_i hlt
    cases level with
    | zero => cases hface
    | succ low =>
        have := (Layout.idAt_inj (hw.balanced.child_lt h hlt) h (Component.router.inj hface)).1
        omega
  · rw [← facing_arity, facing_arity_eq_router_iff] at hface
    exact absurd (hw.above_eq_router h h hface).1 (by omega)

/-- What a port leads to has another name than its router. -/
theorem routerName_ne_nameOf (hw : t.WellFormed) (hn : t.Named memoryName) {level index : Nat}
    (h : index < t.layout.count level) (port : Nat) :
    routerName (t.layout.idAt level index) ≠ t.nameOf memoryName (t.facing level index port) := by
  have hself : t.Has (.router (t.layout.idAt level index)) := Layout.idAt_lt h
  intro hname
  exact hw.facing_ne_self h port (hn.nameOf_inj hself (hw.has_facing h port) hname).symm

/-! ### Two ports with one pair -/

/-- **When two ports have the same pair**: they are the same port, or each of them leads to the
router of the other one. -/
theorem pairOn_eq_iff (hw : t.WellFormed) (hn : t.Named memoryName)
    {level index port level' index' port' : Nat} (h : index < t.layout.count level)
    (h' : index' < t.layout.count level') (hport : port ≤ t.shape.arity level)
    (hport' : port' ≤ t.shape.arity level') :
    t.pairOn memoryName level index port = t.pairOn memoryName level' index' port' ↔
      (level, index, port) = (level', index', port') ∨
        t.facing level index port = .router (t.layout.idAt level' index') ∧
          t.facing level' index' port' = .router (t.layout.idAt level index) := by
  have hrouter : t.Has (.router (t.layout.idAt level index)) := Layout.idAt_lt h
  have hrouter' : t.Has (.router (t.layout.idAt level' index')) := Layout.idAt_lt h'
  have hface := hw.has_facing h port
  have hface' := hw.has_facing h' port'
  unfold pairOn
  rw [of_eq_of_iff]
  constructor
  · -- names tell components apart, so equal names are equal routers or crossed ones
    rintro (⟨hr, hf⟩ | ⟨hr, hf⟩)
    · left
      obtain ⟨rfl, rfl⟩ := Layout.idAt_inj h h' (routerName_injective hr)
      rw [hw.facing_inj h hport hport' (hn.nameOf_inj hface hface' hf)]
    · right
      exact ⟨hn.nameOf_inj hface hrouter' hf, (hn.nameOf_inj hrouter hface' hr).symm⟩
  · rintro (he | ⟨hf, hf'⟩)
    · cases he
      exact .inl ⟨rfl, rfl⟩
    · rw [hf, hf']
      exact .inr ⟨rfl, rfl⟩

/-! ### Different edges -/

theorem edges_eq (t : Tree) (memoryName : String) :
    t.edges memoryName =
      ((List.range t.hostNames.length).map fun host =>
          t.pairOn memoryName 0 (host / t.shape.arity 0) (host % t.shape.arity 0)) ++
        t.positions.map fun p => t.pairOn memoryName p.1 p.2 (t.shape.arity p.1) := by
  unfold edges pairOn
  simp only [facing_div_mod, facing_arity, Layout.idAt_zero, of_comm (routerName (_ / _))]
  rfl

theorem positions_nodup (hw : t.WellFormed) : t.positions.Nodup := by
  refine List.Nodup.of_map (fun p => t.layout.idAt p.1 p.2) ?_
  rw [hw.map_idAt_positions]
  exact List.nodup_range

/-- The pair of a host is on no other port. -/
theorem eq_of_pairOn_host (hw : t.WellFormed) (hn : t.Named memoryName)
    {host level index port : Nat} (hhost : host < t.hostNames.length)
    (h : index < t.layout.count level) (hport : port ≤ t.shape.arity level)
    (he : t.pairOn memoryName 0 (host / t.shape.arity 0) (host % t.shape.arity 0) =
      t.pairOn memoryName level index port) :
    (0, host / t.shape.arity 0, host % t.shape.arity 0) = (level, index, port) := by
  have hmod := Nat.mod_lt host (t.shape.arity_pos 0)
  rcases (hw.pairOn_eq_iff hn (hw.balanced.leaf_lt hhost) h (Nat.le_of_lt hmod) hport).1 he with
    hsame | ⟨hrouter, -⟩
  · exact hsame
  · rw [facing_div_mod] at hrouter
    cases hrouter

/-- **The edges of a tree are different pairs.** -/
theorem edges_nodup (hw : t.WellFormed) (hn : t.Named memoryName) :
    (t.edges memoryName).Nodup := by
  rw [edges_eq, List.nodup_append]
  refine ⟨?_, ?_, ?_⟩
  · refine List.nodup_range.map_on fun host hhost host' hhost' he => ?_
    rw [List.mem_range] at hhost hhost'
    have hmod := Nat.mod_lt host' (t.shape.arity_pos 0)
    have hsame := hw.eq_of_pairOn_host hn hhost (hw.balanced.leaf_lt hhost') (Nat.le_of_lt hmod) he
    simp only [Prod.mk.injEq, true_and] at hsame
    rw [← Nat.div_add_mod host (t.shape.arity 0), hsame.1, hsame.2, Nat.div_add_mod]
  · refine hw.positions_nodup.map_on fun p hp p' hp' he => ?_
    have hp := (mem_positions.1 hp).2
    have hp' := (mem_positions.1 hp').2
    rcases (hw.pairOn_eq_iff hn hp hp' (Nat.le_refl _) (Nat.le_refl _)).1 he with
      hsame | ⟨hup, hup'⟩
    · simp only [Prod.mk.injEq] at hsame
      exact Prod.ext hsame.1 hsame.2.1
    · -- neither of two routers is above the other one if the other one is above it
      rw [facing_arity_eq_router_iff] at hup hup'
      have hlt := (hw.above_eq_router hp hp' hup).2
      have hlt' := (hw.above_eq_router hp' hp hup').2
      omega
  · rintro pair hpair pair' hpair' rfl
    obtain ⟨host, hhost, rfl⟩ := List.mem_map.1 hpair
    obtain ⟨p, hp, he⟩ := List.mem_map.1 hpair'
    have hsame := hw.eq_of_pairOn_host hn (List.mem_range.1 hhost) (mem_positions.1 hp).2
      (Nat.le_refl _) he.symm
    simp only [Prod.mk.injEq] at hsame
    obtain ⟨hlevel, -, hport⟩ := hsame
    rw [← hlevel] at hport
    exact absurd hport (Nat.ne_of_lt (Nat.mod_lt host (t.shape.arity_pos 0)))

end WellFormed

end Tree

end Interconnect
