/-
**Positions in a tree.**

Where a router stands is computed from its number with divisions and offsets.  In a well-formed tree
the computation never fails, and its outcome is described here by position: the router at an index
of a level has the next `arity` things of the level below under it, and its parent is found by
dividing its index.  Both descriptions are inverse to each other: a router is among the things below
another one exactly if that one is above it.

Main definitions:

* `Tree.WellFormed` — the layout belongs to the shape and the hosts;
* `Tree.below`, `Tree.above` — what is below and above the router at a position;
* `Component` — what can be on the other side of a port;
* `Tree.under`, `Tree.facing` — the component at an index below a level, and the one on the other
  side of a port at a position.

Main results:

* `Tree.WellFormed.place_idAt` — the place that is computed for a number;
* `Tree.WellFormed.mem_below_iff` — children and parents are inverse to each other;
* `Tree.under_inj` — nothing is below two levels or at two indices.
-/

import Interconnect.Proofs.Levels
import Interconnect.Tree

set_option autoImplicit false

namespace Interconnect

/-! ### Components -/

/-- What can be on the other side of a port. -/
inductive Component where
  /-- A host, by its place in the list of host names. -/
  | host (id : Nat)
  /-- A router, by its number. -/
  | router (id : Nat)
  /-- The memory. -/
  | memory
  deriving DecidableEq, Repr

/-- The components below a router, in the order of its ports. -/
def Downlinks.components : Downlinks → List Component
  | hosts ids => ids.map .host
  | routers ids => ids.map .router

/-- The component above a router. -/
def Uplink.component : Uplink → Component
  | router parent => .router parent
  | memory => .memory

/-- What the ports of a router lead to, in their order: everything below it, and then what is above
it. -/
def Router.faces (r : Router) : List Component := r.downlinks.components ++ [r.uplink.component]

/-- The routers below a router, none if there are hosts below it. -/
def Downlinks.children : Downlinks → List Nat
  | hosts _ => []
  | routers ids => ids

/-- The hosts below a router, none if there are routers below it. -/
def Downlinks.hostIds : Downlinks → List Nat
  | hosts ids => ids
  | routers _ => []

namespace Tree

/-! ### Well-formed trees -/

/-- The layout of a tree belongs to its shape and its hosts. -/
structure WellFormed (t : Tree) : Prop where
  balanced : t.layout.Balanced t.shape t.hostNames.length

/-! ### Below and above a position -/

/-- What is below the router at an index of a level. -/
def below (t : Tree) (level index : Nat) : Downlinks :=
  match level with
  | 0 => .hosts (List.range' (index * t.shape.arity 0) (t.shape.arity 0))
  | low + 1 =>
      .routers (List.range' (t.layout.idAt low (index * t.shape.arity (low + 1)))
        (t.shape.arity (low + 1)))

/-- What is above the router at an index of a level. -/
def above (t : Tree) (level index : Nat) : Uplink :=
  if level + 1 = t.shape.numLevels then .memory
  else .router (t.layout.idAt (level + 1) (index / t.shape.arity (level + 1)))

/-- The component at an index among those below the routers of a level. -/
def under (t : Tree) (level index : Nat) : Component :=
  match level with
  | 0 => .host index
  | low + 1 => .router (t.layout.idAt low index)

/-- The number of components below the routers of a level. -/
def numUnder (t : Tree) : Nat → Nat
  | 0 => t.hostNames.length
  | low + 1 => t.layout.count low

/-- What is on the other side of a port of the router at an index of a level. -/
def facing (t : Tree) (level index port : Nat) : Component :=
  if port < t.shape.arity level then t.under level (index * t.shape.arity level + port)
  else (t.above level index).component

theorem above_top {t : Tree} {level : Nat} (h : level + 1 = t.shape.numLevels) (index : Nat) :
    t.above level index = .memory := if_pos h

theorem above_of_lt {t : Tree} {level : Nat} (h : level + 1 < t.shape.numLevels) (index : Nat) :
    t.above level index = .router (t.layout.idAt (level + 1) (index / t.shape.arity (level + 1))) :=
  if_neg (by omega)

theorem facing_of_lt {t : Tree} {level port : Nat} (h : port < t.shape.arity level) (index : Nat) :
    t.facing level index port = t.under level (index * t.shape.arity level + port) := if_pos h

theorem facing_arity (t : Tree) (level index : Nat) :
    t.facing level index (t.shape.arity level) = (t.above level index).component :=
  if_neg (Nat.lt_irrefl _)

/-- The last port of a router leads to another router if and only if that one is above it. -/
theorem facing_arity_eq_router_iff {t : Tree} {level index id : Nat} :
    t.facing level index (t.shape.arity level) = .router id ↔ t.above level index = .router id := by
  rw [facing_arity]
  cases t.above level index with
  | router parent => exact ⟨fun h => by rw [Component.router.inj h], fun h => by rw [h]; rfl⟩
  | memory => exact ⟨nofun, nofun⟩

/-- The port at which a component is below its router. -/
theorem facing_div_mod (t : Tree) (level i : Nat) :
    t.facing level (i / t.shape.arity level) (i % t.shape.arity level) = t.under level i := by
  rw [facing_of_lt (Nat.mod_lt _ (t.shape.arity_pos level)), Nat.div_add_mod']

/-- Different components are below the routers of a tree. -/
theorem under_inj {t : Tree} {level i level' i' : Nat} (h : i < t.numUnder level)
    (h' : i' < t.numUnder level') (he : t.under level i = t.under level' i') :
    level = level' ∧ i = i' := by
  cases level with
  | zero =>
      cases level' with
      | zero => exact ⟨rfl, Component.host.inj he⟩
      | succ low' => cases he
  | succ low =>
      cases level' with
      | zero => cases he
      | succ low' =>
          obtain ⟨rfl, rfl⟩ := Layout.idAt_inj h h' (Component.router.inj he)
          exact ⟨rfl, rfl⟩

theorem components_below (t : Tree) (level index : Nat) :
    (t.below level index).components =
      (List.range (t.shape.arity level)).map fun port =>
        t.under level (index * t.shape.arity level + port) := by
  cases level with
  | zero => simp [below, Downlinks.components, under, List.range'_eq_map_range]
  | succ low =>
      simp [below, Downlinks.components, under, List.range'_eq_map_range, Layout.idAt,
        Nat.add_assoc]

/-- The things that the ports at a position lead to, one after the other. -/
theorem components_eq_map_facing (t : Tree) (level index : Nat) :
    (t.below level index).components ++ [(t.above level index).component] =
      (List.range (t.shape.arity level + 1)).map (t.facing level index) := by
  rw [List.range_succ, List.map_append, components_below, List.map_singleton, facing_arity]
  congr 1
  exact List.map_congr_left fun port hport => (facing_of_lt (List.mem_range.1 hport) index).symm

/-! ### The place of a number -/

namespace WellFormed

variable {t : Tree}

/-- A router is the root if and only if it stands on the top level. -/
theorem idAt_eq_rootId_iff (hw : t.WellFormed) {level index : Nat}
    (h : index < t.layout.count level) :
    t.layout.idAt level index = t.layout.rootId ↔ level + 1 = t.shape.numLevels :=
  hw.balanced.idAt_eq_rootId_iff h

theorem idAt_top (hw : t.WellFormed) :
    t.layout.idAt (t.shape.numLevels - 1) 0 = t.layout.rootId :=
  (hw.idAt_eq_rootId_iff hw.balanced.top_pos).2 (Nat.sub_add_cancel t.shape.numLevels_pos)

theorem offset_eq (hw : t.WellFormed) {level : Nat} (h : level < t.shape.numLevels) :
    t.offset level = .ok (t.layout.first level) := by
  unfold offset
  rw [Layout.offset?_eq (by rwa [hw.balanced.numLevels_eq])]

theorem fanout_eq {level : Nat} (h : level < t.shape.numLevels) :
    t.fanout level = .ok (t.shape.arity level) := by
  unfold fanout
  rw [Shape.fanout?_eq h]

theorem levelOf_eq {level index : Nat} (h : index < t.layout.count level) :
    t.levelOf (t.layout.idAt level index) = .ok level := by
  unfold levelOf
  rw [Layout.levelOf?_idAt h]

theorem downlinks_eq (hw : t.WellFormed) {level : Nat} (h : level < t.shape.numLevels)
    (index : Nat) : t.downlinks level index = .ok (t.below level index) := by
  unfold downlinks
  rw [fanout_eq h]
  cases level with
  | zero => rfl
  | succ low =>
      simp only [bind, Except.bind, hw.offset_eq (Nat.lt_of_succ_lt h)]
      rfl

theorem uplink_eq (hw : t.WellFormed) {level index : Nat} (h : index < t.layout.count level) :
    t.uplink (t.layout.idAt level index) level index = .ok (t.above level index) := by
  have hlevel := hw.balanced.lt_numLevels h
  unfold uplink above
  by_cases htop : level + 1 = t.shape.numLevels
  · rw [if_pos ((hw.idAt_eq_rootId_iff h).2 htop), if_pos htop]
    rfl
  · have hnext : level + 1 < t.shape.numLevels := by omega
    rw [if_neg (mt (hw.idAt_eq_rootId_iff h).1 htop), if_neg htop,
      hw.offset_eq hnext, fanout_eq hnext]
    rfl

/-- **The place that is computed for the number of a position is that position.** -/
theorem place_idAt (hw : t.WellFormed) {level index : Nat} (h : index < t.layout.count level) :
    t.place (t.layout.idAt level index) =
      .ok { level, fanout := t.shape.arity level, downlinks := t.below level index,
            uplink := t.above level index } := by
  have hlevel := hw.balanced.lt_numLevels h
  have hindex : t.layout.idAt level index - t.layout.first level = index :=
    Nat.add_sub_cancel_left _ _
  unfold place
  simp only [levelOf_eq h, fanout_eq hlevel, hw.offset_eq hlevel, bind, Except.bind, hindex,
    hw.downlinks_eq hlevel, hw.uplink_eq h]
  rfl

/-! ### Children and parents -/

theorem under_lt (hw : t.WellFormed) {level index port : Nat} (h : index < t.layout.count level)
    (hport : port < t.shape.arity level) :
    index * t.shape.arity level + port < t.numUnder level := by
  cases level with
  | zero => exact hw.balanced.host_lt h hport
  | succ low => exact hw.balanced.child_lt h hport

theorem div_lt (hw : t.WellFormed) {level i : Nat} (hlevel : level < t.shape.numLevels)
    (h : i < t.numUnder level) : i / t.shape.arity level < t.layout.count level := by
  cases level with
  | zero => exact hw.balanced.leaf_lt h
  | succ low => exact hw.balanced.parent_lt hlevel h

/-- The routers below a router are those of the level before whose index is divided to its own. -/
theorem mem_below_iff_div (hw : t.WellFormed) {level index level' index' : Nat}
    (h : index < t.layout.count level) (h' : index' < t.layout.count level') :
    t.layout.idAt level index ∈ (t.below level' index').children ↔
      level' = level + 1 ∧ index / t.shape.arity (level + 1) = index' := by
  cases level' with
  | zero => simp [below, Downlinks.children]
  | succ low =>
      have hpos := t.shape.arity_pos (low + 1)
      rw [below, Downlinks.children, List.mem_range'_1]
      constructor
      · rintro ⟨hge, hlt⟩
        obtain ⟨port, hport⟩ := Nat.exists_eq_add_of_le hge
        have hp : port < t.shape.arity (low + 1) := by omega
        have hc := hw.balanced.child_lt h' hp
        obtain ⟨rfl, rfl⟩ := Layout.idAt_inj h hc (by rw [hport, Layout.idAt, Layout.idAt]; omega)
        exact ⟨rfl, Layout.Balanced.child_div hp⟩
      · rintro ⟨heq, rfl⟩
        obtain rfl : level = low := by omega
        have hdiv := Nat.div_add_mod index (t.shape.arity (level + 1))
        have hmod := Nat.mod_lt index hpos
        rw [Nat.mul_comm] at hdiv
        rw [Layout.idAt, Layout.idAt]
        omega

/-- The router above a router is the one of the next level whose index is the quotient. -/
theorem above_eq_router_iff_div (hw : t.WellFormed) {level index level' index' : Nat}
    (h : index < t.layout.count level) (h' : index' < t.layout.count level') :
    t.above level index = .router (t.layout.idAt level' index') ↔
      level' = level + 1 ∧ index / t.shape.arity (level + 1) = index' := by
  have hlevel := hw.balanced.lt_numLevels h
  have hlevel' := hw.balanced.lt_numLevels h'
  constructor
  · intro habove
    by_cases htop : level + 1 = t.shape.numLevels
    · rw [above_top htop] at habove
      cases habove
    · have hnext : level + 1 < t.shape.numLevels := by omega
      rw [above_of_lt hnext] at habove
      have hparent := hw.balanced.parent_lt hnext h
      obtain ⟨hl, hi⟩ := Layout.idAt_inj hparent h' (Uplink.router.inj habove)
      exact ⟨hl.symm, hi⟩
  · rintro ⟨rfl, rfl⟩
    exact above_of_lt hlevel' index

/-- **Children and parents are inverse to each other**: a router is below another one if and only if
the other one is above it. -/
theorem mem_below_iff (hw : t.WellFormed) {level index level' index' : Nat}
    (h : index < t.layout.count level) (h' : index' < t.layout.count level') :
    t.layout.idAt level index ∈ (t.below level' index').children ↔
      t.above level index = .router (t.layout.idAt level' index') := by
  rw [hw.mem_below_iff_div h h', hw.above_eq_router_iff_div h h']

/-- What is above the things below a router is the router. -/
theorem above_child (hw : t.WellFormed) {level index port : Nat}
    (h : index < t.layout.count (level + 1)) (hport : port < t.shape.arity (level + 1)) :
    t.above level (index * t.shape.arity (level + 1) + port) =
      .router (t.layout.idAt (level + 1) index) := by
  rw [above_of_lt (hw.balanced.lt_numLevels h), Layout.Balanced.child_div hport]

/-- What is above a router stands on the next level and has a larger number. -/
theorem above_eq_router (hw : t.WellFormed) {level index level' index' : Nat}
    (h : index < t.layout.count level) (h' : index' < t.layout.count level')
    (habove : t.above level index = .router (t.layout.idAt level' index')) :
    level' = level + 1 ∧ t.layout.idAt level index < t.layout.idAt level' index' := by
  obtain ⟨rfl, -⟩ := (hw.above_eq_router_iff_div h h').1 habove
  exact ⟨rfl, Layout.idAt_lt_idAt h (Nat.lt_succ_self level) _⟩

end WellFormed

end Tree

end Interconnect
