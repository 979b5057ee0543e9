/-
**Subtrees and ancestors.**

The routers below a router make a tree of their own, and the routers above it make a chain that ends
at the root.  Both are listed here by position: the subtree from the top down, with the subtrees of
the children one after the other, and the chain from the router up.  Nothing is listed twice, since
the first host below a router tells in which of two subtrees it is, and numbers grow towards the
root.

Main definitions:

* `Tree.subtree`, `Tree.hostsBelow` — the routers and the hosts below a position;
* `Tree.ancestors` — the routers above a position;
* `Topology.HasHost` — a host is on a port of a router.

Main results:

* `Tree.WellFormed.mem_subtree_iff` — the subtree of a position, found by dividing;
* `Tree.WellFormed.nodup_subtree`, `Tree.WellFormed.nodup_ancestors` — no router is listed twice;
* `Tree.WellFormed.subtree_root_perm`, `Tree.WellFormed.hostsBelow_root` — everything is below the
  root;
* `Topology.Built.mem_subtree_iff_descends`, `Topology.Built.mem_ancestors_iff_ascends` — the lists
  have the routers that can be reached by going down, and by going up.
-/

import Interconnect.Proofs.Delivery
import Interconnect.Proofs.PerfectTree

set_option autoImplicit false

namespace Interconnect

open Relation

namespace Tree

/-! ### What is below and above a position -/

/-- The numbers of the router at an index of a level and of all routers below it. -/
def subtree (t : Tree) : Nat → Nat → List Nat
  | 0, index => [t.layout.idAt 0 index]
  | low + 1, index =>
      t.layout.idAt (low + 1) index ::
        (List.range (t.shape.arity (low + 1))).flatMap fun port =>
          t.subtree low (index * t.shape.arity (low + 1) + port)

/-- The hosts below the router at an index of a level. -/
def hostsBelow (t : Tree) (level index : Nat) : List Nat :=
  List.range' (index * t.shape.capacity (level + 1)) (t.shape.capacity (level + 1))

/-- The numbers of the router at an index of a level and of the routers on the next `above` levels
over it. -/
def chain (t : Tree) : Nat → Nat → Nat → List Nat
  | 0, level, index => [t.layout.idAt level index]
  | above + 1, level, index =>
      t.layout.idAt level index :: t.chain above (level + 1) (index / t.shape.arity (level + 1))

/-- The numbers of the router at an index of a level and of all routers above it. -/
def ancestors (t : Tree) (level index : Nat) : List Nat :=
  t.chain (t.shape.numLevels - 1 - level) level index

variable {t : Tree}

theorem ancestors_top {level : Nat} (h : level + 1 = t.shape.numLevels) (index : Nat) :
    t.ancestors level index = [t.layout.idAt level index] := by
  have hzero : t.shape.numLevels - 1 - level = 0 := by omega
  rw [ancestors, hzero, chain]

theorem ancestors_of_lt {level : Nat} (h : level + 1 < t.shape.numLevels) (index : Nat) :
    t.ancestors level index =
      t.layout.idAt level index ::
        t.ancestors (level + 1) (index / t.shape.arity (level + 1)) := by
  have hsucc : t.shape.numLevels - 1 - level = t.shape.numLevels - 1 - (level + 1) + 1 := by omega
  rw [ancestors, ancestors, hsucc, chain]

theorem hostsBelow_zero (t : Tree) (index : Nat) :
    t.hostsBelow 0 index = List.range' (index * t.shape.arity 0) (t.shape.arity 0) := by
  rw [hostsBelow, Shape.capacity_one]

/-- The hosts below a router are those below its children, one after the other. -/
theorem hostsBelow_succ (t : Tree) (low index : Nat) :
    t.hostsBelow (low + 1) index =
      (List.range (t.shape.arity (low + 1))).flatMap fun port =>
        t.hostsBelow low (index * t.shape.arity (low + 1) + port) := by
  have hblock := flatMap_range_range' (index * t.shape.capacity (low + 2))
    (t.shape.capacity (low + 1)) (t.shape.arity (low + 1))
  rw [Nat.mul_comm (t.shape.arity (low + 1)), ← Shape.capacity_succ] at hblock
  rw [hostsBelow, ← hblock]
  refine List.flatMap_congr fun port _ => ?_
  rw [hostsBelow, Nat.add_mul, Shape.capacity_succ t.shape (low + 1), Nat.mul_assoc,
    Nat.mul_comm (t.shape.arity (low + 1))]

namespace WellFormed

/-! ### Subtrees -/

/-- **The subtree of a position** has the positions whose first host is below it. -/
theorem mem_subtree_iff (hw : t.WellFormed) {level index id : Nat}
    (h : index < t.layout.count level) :
    id ∈ t.subtree level index ↔ ∃ l i, l ≤ level ∧ i < t.layout.count l ∧
      id = t.layout.idAt l i ∧
        i * t.shape.capacity (l + 1) / t.shape.capacity (level + 1) = index := by
  have hself : ∀ l i, i * t.shape.capacity (l + 1) / t.shape.capacity (l + 1) = i :=
    fun l i => Nat.mul_div_cancel i (t.shape.capacity_pos (l + 1))
  induction level generalizing index with
  | zero =>
      rw [subtree, List.mem_singleton]
      constructor
      · rintro rfl
        exact ⟨0, index, Nat.le_refl _, h, rfl, hself 0 index⟩
      · rintro ⟨l, i, hl, -, rfl, hdiv⟩
        obtain rfl := Nat.le_zero.1 hl
        rw [← hdiv, hself]
  | succ low ih =>
      rw [subtree, List.mem_cons, List.mem_flatMap]
      constructor
      · rintro (rfl | ⟨port, hport, hmem⟩)
        · exact ⟨low + 1, index, Nat.le_refl _, h, rfl, hself (low + 1) index⟩
        · have hport := List.mem_range.1 hport
          obtain ⟨l, i, hl, hi, rfl, hdiv⟩ := (ih (hw.balanced.child_lt h hport)).1 hmem
          refine ⟨l, i, Nat.le_succ_of_le hl, hi, rfl, ?_⟩
          rw [Shape.div_capacity_succ, hdiv, Layout.Balanced.child_div hport]
      · rintro ⟨l, i, hl, hi, rfl, hdiv⟩
        rcases Nat.lt_or_eq_of_le hl with hlt | rfl
        · -- the port of the child that has the first host below it
          have hmod := Nat.mod_lt (i * t.shape.capacity (l + 1) / t.shape.capacity (low + 1))
            (t.shape.arity_pos (low + 1))
          rw [Shape.div_capacity_succ] at hdiv
          refine .inr ⟨_, List.mem_range.2 hmod, ?_⟩
          have hchild := hw.balanced.child_lt (hdiv ▸ h) hmod
          rw [← hdiv]
          refine (ih hchild).2 ⟨l, i, Nat.le_of_lt_succ hlt, hi, rfl, ?_⟩
          rw [Nat.div_add_mod']
        · rw [hself] at hdiv
          rw [hdiv]
          exact .inl rfl

/-- **No router is twice in a subtree.** -/
theorem nodup_subtree (hw : t.WellFormed) {level index : Nat} (h : index < t.layout.count level) :
    (t.subtree level index).Nodup := by
  induction level generalizing index with
  | zero => exact List.nodup_singleton _
  | succ low ih =>
      rw [subtree, List.nodup_cons, List.nodup_flatMap]
      have hnodup : ∀ port ∈ List.range (t.shape.arity (low + 1)),
          (t.subtree low (index * t.shape.arity (low + 1) + port)).Nodup :=
        fun port hport => ih (hw.balanced.child_lt h (List.mem_range.1 hport))
      refine ⟨fun hmem => ?_, hnodup, ?_⟩
      · -- what is below stands on a lower level
        obtain ⟨port, hport, hmem⟩ := List.mem_flatMap.1 hmem
        have hchild := hw.balanced.child_lt h (List.mem_range.1 hport)
        obtain ⟨l, i, hl, hi, he, -⟩ := (hw.mem_subtree_iff hchild).1 hmem
        exact absurd he (Nat.ne_of_gt (Layout.idAt_lt_idAt hi (Nat.lt_succ_of_le hl) index))
      · refine List.nodup_range.imp_of_mem fun {port port'} hport hport' hne id hmem hmem' => hne ?_
        have hchild := hw.balanced.child_lt h (List.mem_range.1 hport)
        have hchild' := hw.balanced.child_lt h (List.mem_range.1 hport')
        obtain ⟨l, i, -, hi, rfl, hdiv⟩ := (hw.mem_subtree_iff hchild).1 hmem
        obtain ⟨l', i', -, hi', he, hdiv'⟩ := (hw.mem_subtree_iff hchild').1 hmem'
        obtain ⟨rfl, rfl⟩ := Layout.idAt_inj hi hi' he
        exact Nat.add_left_cancel (hdiv.symm.trans hdiv')

theorem lt_of_mem_hostsBelow (hw : t.WellFormed) {level index e : Nat}
    (h : index < t.layout.count level) (he : e ∈ t.hostsBelow level index) :
    e < t.hostNames.length := by
  have hlevel := hw.balanced.lt_numLevels h
  rw [hostsBelow, List.mem_range'_1] at he
  calc e < index * t.shape.capacity (level + 1) + t.shape.capacity (level + 1) := he.2
    _ = (index + 1) * t.shape.capacity (level + 1) := (Nat.succ_mul _ _).symm
    _ ≤ t.layout.count level * t.shape.capacity (level + 1) := Nat.mul_le_mul_right _ h
    _ = t.hostNames.length := hw.balanced.count_mul_capacity level hlevel

/-- **All routers are below the root.** -/
theorem subtree_root_perm (hw : t.WellFormed) :
    (t.subtree (t.shape.numLevels - 1) 0).Perm (List.range t.layout.counts.sum) := by
  have htop := Nat.sub_add_cancel t.shape.numLevels_pos
  rw [List.perm_ext_iff_of_nodup (hw.nodup_subtree hw.balanced.top_pos) List.nodup_range]
  intro id
  rw [hw.mem_subtree_iff hw.balanced.top_pos, List.mem_range]
  constructor
  · rintro ⟨l, i, -, hi, rfl, -⟩
    exact Layout.idAt_lt hi
  · intro hid
    obtain ⟨level, index, hindex, rfl⟩ := Layout.exists_idAt hid
    have hlevel := hw.balanced.lt_numLevels hindex
    refine ⟨level, index, by omega, hindex, rfl, Nat.div_eq_of_lt ?_⟩
    rw [htop, hw.balanced.capacity_numLevels, ← hw.balanced.count_mul_capacity level hlevel]
    exact Nat.mul_lt_mul_of_pos_right hindex (t.shape.capacity_pos _)

/-- **All hosts are below the root.** -/
theorem hostsBelow_root (hw : t.WellFormed) :
    t.hostsBelow (t.shape.numLevels - 1) 0 = List.range t.hostNames.length := by
  rw [hostsBelow, Nat.sub_add_cancel t.shape.numLevels_pos, hw.balanced.capacity_numLevels,
    Nat.zero_mul, List.range_eq_range']

/-! ### Ancestors -/

theorem exists_of_mem_chain (hw : t.WellFormed) {above level index id : Nat}
    (h : index < t.layout.count level) (hlevel : level + above < t.shape.numLevels)
    (hid : id ∈ t.chain above level index) :
    ∃ l i, level ≤ l ∧ i < t.layout.count l ∧ id = t.layout.idAt l i := by
  induction above generalizing level index with
  | zero => exact ⟨level, index, Nat.le_refl _, h, List.mem_singleton.1 hid⟩
  | succ above ih =>
      rcases List.mem_cons.1 hid with rfl | hid
      · exact ⟨level, index, Nat.le_refl _, h, rfl⟩
      · have hparent := hw.balanced.parent_lt (by omega) h
        obtain ⟨l, i, hl, hi, he⟩ := ih hparent (by omega) hid
        exact ⟨l, i, Nat.le_of_succ_le hl, hi, he⟩

/-- **No router is twice in a chain**, since numbers grow on the way up. -/
theorem nodup_chain (hw : t.WellFormed) {above level index : Nat} (h : index < t.layout.count level)
    (hlevel : level + above < t.shape.numLevels) : (t.chain above level index).Nodup := by
  induction above generalizing level index with
  | zero => exact List.nodup_singleton _
  | succ above ih =>
      have hparent := hw.balanced.parent_lt (by omega) h
      refine List.nodup_cons.2 ⟨fun hmem => ?_, ih hparent (by omega)⟩
      obtain ⟨l, i, hl, -, he⟩ := hw.exists_of_mem_chain hparent (by omega) hmem
      exact absurd he (Nat.ne_of_lt (Layout.idAt_lt_idAt h hl i))

theorem nodup_ancestors (hw : t.WellFormed) {level index : Nat} (h : index < t.layout.count level) :
    (t.ancestors level index).Nodup := by
  have hlevel := hw.balanced.lt_numLevels h
  exact hw.nodup_chain h (by omega)

/-- The root is above every router. -/
theorem rootId_mem_ancestors (hw : t.WellFormed) {level index : Nat}
    (h : index < t.layout.count level) : t.layout.rootId ∈ t.ancestors level index := by
  -- by induction on the number of levels above
  obtain ⟨above, habove⟩ := Nat.exists_eq_add_of_lt (hw.balanced.lt_numLevels h)
  induction above generalizing level index with
  | zero =>
      rw [ancestors_top habove.symm, List.mem_singleton]
      exact ((hw.idAt_eq_rootId_iff h).2 habove.symm).symm
  | succ above ih =>
      have hlevel : level + 1 < t.shape.numLevels := by omega
      rw [ancestors_of_lt hlevel]
      exact List.mem_cons_of_mem _ (ih (hw.balanced.parent_lt hlevel h) (by omega))

end WellFormed

end Tree

/-! ### Built trees -/

namespace Topology

/-- A host is on a port of a router. -/
def HasHost (t : Topology) (id host : Nat) : Prop :=
  ∃ r, t.router? id = some r ∧ host ∈ r.downlinks.hostIds

namespace Built

open Interconnect.Tree

variable {t : Topology} {table : LinkTable} {level index : Nat}

theorem hasChild_iff (hb : t.Built table) (h : index < t.tree.layout.count level) {child : Nat} :
    t.HasChild (t.tree.layout.idAt level index) child ↔
      child ∈ (t.tree.below level index).children := by
  obtain ⟨r, hr, hs⟩ := hb.exists_seated h
  rw [HasChild, hr, ← hs.downlinks_eq]
  simp only [Option.some_inj, exists_eq_left']

theorem hasHost_iff (hb : t.Built table) (h : index < t.tree.layout.count level) {host : Nat} :
    t.HasHost (t.tree.layout.idAt level index) host ↔
      host ∈ (t.tree.below level index).hostIds := by
  obtain ⟨r, hr, hs⟩ := hb.exists_seated h
  rw [HasHost, hr, ← hs.downlinks_eq]
  simp only [Option.some_inj, exists_eq_left']

theorem hasParent_iff (hb : t.Built table) (h : index < t.tree.layout.count level) {parent : Nat} :
    t.HasParent (t.tree.layout.idAt level index) parent ↔
      t.tree.above level index = .router parent := by
  obtain ⟨r, hr, hs⟩ := hb.exists_seated h
  rw [HasParent, hr, ← hs.uplink_eq]
  simp only [Option.some_inj, exists_eq_left']

/-- The children of a router, by port. -/
theorem hasChild_succ_iff (hb : t.Built table) {low : Nat}
    (h : index < t.tree.layout.count (low + 1)) {child : Nat} :
    t.HasChild (t.tree.layout.idAt (low + 1) index) child ↔
      ∃ port < t.tree.shape.arity (low + 1),
        child = t.tree.layout.idAt low (index * t.tree.shape.arity (low + 1) + port) := by
  rw [hb.hasChild_iff h, below, Downlinks.children, List.mem_range'_1]
  constructor
  · rintro ⟨hge, hlt⟩
    obtain ⟨port, rfl⟩ := Nat.exists_eq_add_of_le hge
    exact ⟨port, by omega, by rw [Layout.idAt, Layout.idAt, Nat.add_assoc]⟩
  · rintro ⟨port, hport, rfl⟩
    rw [Layout.idAt, Layout.idAt]
    omega

/-- **The subtree of a router** has the routers that can be reached by going down. -/
theorem mem_subtree_iff_descends (hb : t.Built table) (h : index < t.tree.layout.count level)
    {id : Nat} :
    id ∈ t.tree.subtree level index ↔
      ReflTransGen t.HasChild (t.tree.layout.idAt level index) id := by
  induction level generalizing index with
  | zero =>
      rw [subtree, List.mem_singleton]
      constructor
      · rintro rfl
        exact .refl
      · intro hdown
        rcases hdown.cases_head with rfl | ⟨child, hchild, -⟩
        · rfl
        · cases (hb.hasChild_iff h).1 hchild
  | succ low ih =>
      have hlt : ∀ port < t.tree.shape.arity (low + 1),
          index * t.tree.shape.arity (low + 1) + port < t.tree.layout.count low :=
        fun port hport => hb.wellFormed.balanced.child_lt h hport
      rw [subtree, List.mem_cons, List.mem_flatMap]
      constructor
      · rintro (rfl | ⟨port, hport, hmem⟩)
        · exact .refl
        · have hport := List.mem_range.1 hport
          have hchild := (hb.hasChild_succ_iff h).2 ⟨port, hport, rfl⟩
          exact .head hchild ((ih (hlt port hport)).1 hmem)
      · intro hdown
        rcases hdown.cases_head with rfl | ⟨child, hchild, hrest⟩
        · exact .inl rfl
        · obtain ⟨port, hport, rfl⟩ := (hb.hasChild_succ_iff h).1 hchild
          exact .inr ⟨port, List.mem_range.2 hport, (ih (hlt port hport)).2 hrest⟩

/-- The hosts below a router are those on the ports of its subtree. -/
theorem mem_hostsBelow_iff (hb : t.Built table) (h : index < t.tree.layout.count level)
    {host : Nat} :
    host ∈ t.tree.hostsBelow level index ↔
      ∃ id ∈ t.tree.subtree level index, t.HasHost id host := by
  induction level generalizing index with
  | zero =>
      rw [subtree, hostsBelow_zero]
      simp only [List.mem_singleton, exists_eq_left]
      exact (hb.hasHost_iff h).symm
  | succ low ih =>
      have hlt : ∀ port < t.tree.shape.arity (low + 1),
          index * t.tree.shape.arity (low + 1) + port < t.tree.layout.count low :=
        fun port hport => hb.wellFormed.balanced.child_lt h hport
      rw [subtree, hostsBelow_succ, List.mem_flatMap]
      constructor
      · rintro ⟨port, hport, hmem⟩
        obtain ⟨id, hid, hhost⟩ := (ih (hlt port (List.mem_range.1 hport))).1 hmem
        exact ⟨id, List.mem_cons_of_mem _ (List.mem_flatMap.2 ⟨port, hport, hid⟩), hhost⟩
      · rintro ⟨id, hid, hhost⟩
        rcases List.mem_cons.1 hid with rfl | hid
        · -- only routers are below this one
          cases (hb.hasHost_iff h).1 hhost
        · obtain ⟨port, hport, hmem⟩ := List.mem_flatMap.1 hid
          exact ⟨port, hport, (ih (hlt port (List.mem_range.1 hport))).2 ⟨id, hmem, hhost⟩⟩

/-- **The ancestors of a router** are the routers that can be reached by going up. -/
theorem mem_ancestors_iff_ascends (hb : t.Built table) (h : index < t.tree.layout.count level)
    {id : Nat} :
    id ∈ t.tree.ancestors level index ↔
      ReflTransGen t.HasParent (t.tree.layout.idAt level index) id := by
  -- by induction on the number of levels above
  obtain ⟨above, habove⟩ := Nat.exists_eq_add_of_lt (hb.wellFormed.balanced.lt_numLevels h)
  induction above generalizing level index with
  | zero =>
      rw [ancestors_top habove.symm, List.mem_singleton]
      constructor
      · rintro rfl
        exact .refl
      · intro hup
        rcases hup.cases_head with rfl | ⟨parent, hparent, -⟩
        · rfl
        · rw [hb.hasParent_iff h, above_top habove.symm] at hparent
          cases hparent
  | succ above ih =>
      have hlevel : level + 1 < t.tree.shape.numLevels := by omega
      have hrest := ih (hb.wellFormed.balanced.parent_lt hlevel h) (by omega)
      rw [ancestors_of_lt hlevel, List.mem_cons, hrest]
      constructor
      · rintro (rfl | hup)
        · exact .refl
        · exact .head ((hb.hasParent_iff h).2 (above_of_lt hlevel index)) hup
      · intro hup
        rcases hup.cases_head with rfl | ⟨parent, hparent, hup⟩
        · exact .inl rfl
        · rw [hb.hasParent_iff h, above_of_lt hlevel] at hparent
          cases hparent
          exact .inr hup

end Built

end Topology

end Interconnect
