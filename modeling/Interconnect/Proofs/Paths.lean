/-
**Paths.**

Asking for the path between two endpoints follows the table from the router of the one to the router
of the other.  The loop ends by itself, and what it passes is the one way that there is in the tree:
no router twice, from parents to children and from children to parents.  So the path back is the
same path, although it is found by other entries of the table.  Its length is told by the lowest
level on which a router has both endpoints below it.

Main definitions:

* `Topology.IsParent` — a router is above another one, which is below it;
* `Topology.TreePath` — a simple walk between two routers;
* `Topology.Meets` — a router of a level has two hosts below it;
* `Topology.FindsPath` — asking for a path gives a walk, which is the only one;
* `Topology.PathBetween` — what is known about the path between two endpoints.

Main results:

* `RoutingTable.walk_eq_of_isChain` — the loop follows the table to the target;
* `Tree.Route.length_of_meet`, `Tree.Route.length_of_memory` — the lengths of routes;
* `Topology.Built.isForest` — the routers of a built tree are a forest;
* `Topology.Built.findsPath_of_route`, `Topology.FindsPath.path_back` — a path is a route, and the
  path back is the same;
* `Builder.exists_path_of_build` — there is a path between any two endpoints.
-/

import Interconnect.Proofs.SimpleWalks
import Interconnect.Proofs.Subtrees
import Mathlib.Data.List.Perm.Subperm
import Mathlib.Order.Bounds.Defs

set_option autoImplicit false

namespace Interconnect

open Relation

/-! ### Following the table -/

namespace RoutingTable

variable {t : RoutingTable}

theorem nextHop_of_forwards {dest here next : Nat} (h : t.Forwards dest here next) :
    t.nextHop dest here = .ok next := by
  obtain ⟨port, hport, -, hnext⟩ := h
  exact bind_eq_ok_iff.2 ⟨port, hport, hnext⟩

/-- **The loop follows the table to the target**, if it is allowed as many steps as it takes. -/
theorem walk_eq_of_isChain {dest target fuel router : Nat} {rest : List Nat}
    (hchain : (router :: rest).IsChain (t.Forwards dest)) (hnodup : (router :: rest).Nodup)
    (hlast : (router :: rest).getLast? = some target) (hfuel : rest.length ≤ fuel) :
    t.walk dest target fuel router = .ok (router :: rest) := by
  induction rest generalizing router fuel with
  | nil =>
      obtain rfl : router = target := Option.some_inj.1 hlast
      unfold walk
      rw [if_pos rfl]
  | cons next rest ih =>
      obtain ⟨hnext, hrest⟩ := List.isChain_cons_cons.1 hchain
      obtain ⟨hnew, hnodup⟩ := List.nodup_cons.1 hnodup
      rw [List.getLast?_cons_cons] at hlast
      -- the target comes later, and nothing is passed twice
      have hne : router ≠ target := fun he => hnew (he ▸ List.mem_of_getLast? hlast)
      cases fuel with
      | zero => cases hfuel
      | succ fuel =>
          rw [walk, if_neg hne]
          refine bind_eq_ok_iff.2 ⟨next, nextHop_of_forwards hnext, bind_eq_ok_iff.2 ⟨_, ?_, rfl⟩⟩
          exact ih hrest hnodup hlast (Nat.le_of_succ_le_succ hfuel)

end RoutingTable

/-! ### The lengths of routes -/

namespace Tree.Route

variable {t : Tree} {src dest level index : Nat} {walk : List Nat}

/-- **A route from below the level `meet`** goes up to that level and down from there, if that is
the lowest level on which both ends are below one router. -/
theorem length_of_meet {meet : Nat} (hr : t.Route dest level index walk)
    (hindex : src / t.shape.capacity (level + 1) = index) (hle : level ≤ meet)
    (hlt : meet < t.shape.numLevels)
    (hmeet : src / t.shape.capacity (meet + 1) = dest / t.shape.capacity (meet + 1))
    (hlowest : ∀ l, level ≤ l → l < meet →
      src / t.shape.capacity (l + 1) ≠ dest / t.shape.capacity (l + 1)) :
    walk.length + level = 2 * meet + 1 := by
  -- where the route goes up, the level is not reached
  have hbelow : ∀ l i, src / t.shape.capacity (l + 1) = i →
      dest / t.shape.capacity (l + 1) ≠ i → l ≠ meet := by
    rintro l i hi hne rfl
    exact hne (hmeet.symm.trans hi)
  induction hr with
  | host h hdest =>
      have hreached : ¬ 0 < meet :=
        fun hlt => hlowest 0 (Nat.le_refl 0) hlt (hindex.trans hdest.symm)
      rw [List.length_singleton]
      omega
  | memory h htop hne =>
      have := hbelow _ _ hindex hne
      omega
  | @down low index walk h hdest hrest ih =>
      have hreached : ¬ low + 1 < meet :=
        fun hlt => hlowest (low + 1) (Nat.le_refl _) hlt (hindex.trans hdest.symm)
      rw [(down h hdest hrest).length_of_eq hdest]
      omega
  | @up level index walk h hlevel hne hrest ih =>
      have hmeet := hbelow _ _ hindex hne
      have hparent : src / t.shape.capacity (level + 2) = index / t.shape.arity (level + 1) := by
        rw [Shape.div_capacity_succ, hindex]
      have hlength := ih hparent (by omega) fun l hl => hlowest l (Nat.le_of_succ_le hl)
      rw [List.length_cons]
      omega

/-- **A route to the memory** goes up to the root. -/
theorem length_of_memory (hw : t.WellFormed) (hr : t.Route t.hostNames.length level index walk) :
    walk.length + level = t.shape.numLevels := by
  have hne : ∀ l i, i < t.layout.count l → t.hostNames.length / t.shape.capacity (l + 1) ≠ i := by
    intro l i hi he
    rw [← hw.balanced.count_mul_capacity l (hw.balanced.lt_numLevels hi),
      Nat.mul_div_cancel _ (t.shape.capacity_pos _)] at he
    omega
  induction hr with
  | host h hdest => exact absurd hdest (hne _ _ h)
  | memory h htop _ => rw [List.length_singleton, Nat.add_comm, htop]
  | down h hdest hrest ih => exact absurd hdest (hne _ _ h)
  | up h hlevel _ hrest ih =>
      rw [List.length_cons]
      omega

end Tree.Route

/-! ### Simple walks in a built tree -/

namespace Topology

/-- A router is above another one, and that one is below it. -/
def IsParent (t : Topology) (child parent : Nat) : Prop :=
  t.HasParent child parent ∧ t.HasChild parent child

/-- A walk between two routers along parents and children that passes no router twice. -/
def TreePath (t : Topology) (start target : Nat) (walk : List Nat) : Prop :=
  SimpleWalk t.IsParent start target walk

/-- A router has a host below it. -/
def IsOver (t : Topology) (id host : Nat) : Prop :=
  ∃ leaf, ReflTransGen t.HasChild id leaf ∧ t.HasHost leaf host

/-- A router of a level has two hosts below it. -/
def Meets (t : Topology) (src dest level : Nat) : Prop :=
  ∃ id r, t.router? id = some r ∧ r.level = level ∧ t.IsOver id src ∧ t.IsOver id dest

/-- Asking for the path between two endpoints gives a walk, and so does the loop with any number of
steps that is large enough.  It is the only simple walk between the routers of the endpoints. -/
structure FindsPath (t : Topology) (src dest : Nat) (walk : List Nat) : Prop where
  path_eq : t.routingTable.path src dest = .ok walk
  treePath : ∃ start target, t.routingTable.destRouter src = .ok start ∧
    t.routingTable.destRouter dest = .ok target ∧ t.TreePath start target walk ∧
    (∀ other, t.TreePath start target other → other = walk) ∧
    ∀ fuel, walk.length ≤ fuel → t.routingTable.walk dest target fuel start = .ok walk

/-- What is known about the path between two endpoints: it is found, the way back is the same, and
its length is that of the way up to the lowest common level and down again. -/
structure PathBetween (t : Topology) (src dest : Nat) (walk : List Nat) : Prop
    extends t.FindsPath src dest walk where
  path_back : t.routingTable.path dest src = .ok walk.reverse
  length_hosts : src < t.numHosts → dest < t.numHosts →
    ∃ level, IsLeast {l | t.Meets src dest l} level ∧ walk.length = 2 * level + 1
  length_to_memory : src < t.numHosts → dest = t.numHosts →
    walk.length = t.tree.shape.numLevels
  length_from_memory : src = t.numHosts → dest < t.numHosts →
    walk.length = t.tree.shape.numLevels
  length_memory : src = t.numHosts → dest = t.numHosts → walk.length = 1

/-- The path back is the reversed path, which is a simple walk back. -/
theorem FindsPath.path_back {t : Topology} {src dest : Nat} {walk back : List Nat}
    (h : t.FindsPath src dest walk) (hback : t.FindsPath dest src back) :
    t.routingTable.path dest src = .ok walk.reverse := by
  obtain ⟨start, target, hstart, htarget, hwalk, -⟩ := h.treePath
  obtain ⟨target', start', htarget', hstart', -, honly, -⟩ := hback.treePath
  cases hstart.symm.trans hstart'
  cases htarget.symm.trans htarget'
  rw [honly _ hwalk.reverse, hback.path_eq]

namespace Built

open Interconnect.Tree

variable {t : Topology} {table : LinkTable} {level index src dest : Nat} {walk : List Nat}

/-- **The routers of a built tree are a forest.** -/
theorem isForest (hb : t.Built table) : IsForest t.IsParent where
  lt := fun _ _ h => hb.lt_of_hasParent h.1
  unique := by
    rintro a b c ⟨⟨r, hr, hup⟩, -⟩ ⟨⟨r', hr', hup'⟩, -⟩
    cases hr.symm.trans hr'
    exact Uplink.router.inj (hup.symm.trans hup')

theorem isParent_of_above (hb : t.Built table) {level' index' : Nat}
    (h : index < t.tree.layout.count level) (h' : index' < t.tree.layout.count level')
    (habove : t.tree.above level index = .router (t.tree.layout.idAt level' index')) :
    t.IsParent (t.tree.layout.idAt level index) (t.tree.layout.idAt level' index') :=
  ⟨(hb.hasParent_iff h).2 habove,
    (hb.hasChild_iff h').2 ((hb.wellFormed.mem_below_iff h h').2 habove)⟩

/-- Routes lead from parents to children and from children to parents. -/
theorem isChain_isParent (hb : t.Built table) (hr : t.tree.Route dest level index walk) :
    walk.IsChain fun a b => t.IsParent a b ∨ t.IsParent b a := by
  induction hr with
  | host h _ => exact .singleton _
  | memory h _ _ => exact .singleton _
  | down h hway hrest ih =>
      obtain ⟨rest, rfl⟩ := hrest.exists_cons
      refine List.isChain_cons_cons.2 ⟨.inr (hb.isParent_of_above hrest.lt_count h ?_), ih⟩
      rw [above_of_lt (hb.wellFormed.balanced.lt_numLevels h), ← Shape.div_capacity_succ, hway]
  | up h hlevel hway hrest ih =>
      obtain ⟨rest, rfl⟩ := hrest.exists_cons
      exact List.isChain_cons_cons.2
        ⟨.inl (hb.isParent_of_above h hrest.lt_count (above_of_lt hlevel _)), ih⟩

/-- **Asking for a path gives the route** from the router of the source. -/
theorem findsPath_of_route (hb : t.Built table) (hdest : dest ≤ t.numHosts)
    (hsrc : t.routingTable.destRouter src = .ok (t.tree.layout.idAt level index))
    (hr : t.tree.Route dest level index walk) : t.FindsPath src dest walk := by
  obtain ⟨hstarts, hfollows, ⟨target, hlast, htarget, -⟩, -, hnodup, -⟩ :=
    hb.delivery_of_route hdest hr
  have hpath : t.TreePath (t.tree.layout.idAt level index) target walk :=
    ⟨hstarts, hlast, hnodup, hb.isChain_isParent hr⟩
  have hwalk : ∀ fuel, walk.length ≤ fuel + 1 →
      t.routingTable.walk dest target fuel (t.tree.layout.idAt level index) = .ok walk := by
    intro fuel hfuel
    obtain ⟨rest, rfl⟩ := hr.exists_cons
    exact RoutingTable.walk_eq_of_isChain hfollows hnodup hlast (Nat.le_of_succ_le_succ hfuel)
  -- a walk that passes no router twice is not longer than there are routers
  have hsub : walk ⊆ List.range t.numRouters := by
    intro id hid
    obtain ⟨level', index', hindex', rfl, -⟩ := hr.exists_of_mem hid
    exact List.mem_range.2 (hb.idAt_lt_numRouters hindex')
  have hlength := (hnodup.subperm hsub).length_le
  rw [List.length_range] at hlength
  refine ⟨?_, _, target, hsrc, htarget, hpath, fun other hother => hother.unique hb.isForest hpath,
    fun fuel hfuel => hwalk fuel (Nat.le_succ_of_le hfuel)⟩
  refine bind_eq_ok_iff.2 ⟨_, hsrc, bind_eq_ok_iff.2 ⟨target, htarget, hwalk _ ?_⟩⟩
  rw [routingTable, List.length_map]
  exact Nat.le_succ_of_le hlength

/-! ### Where endpoints are attached -/

/-- Every endpoint is attached to a router: a host to its leaf router, the memory to the root. -/
theorem exists_destRouter (hb : t.Built table) (h : src ≤ t.numHosts) :
    ∃ level index, index < t.tree.layout.count level ∧
      t.routingTable.destRouter src = .ok (t.tree.layout.idAt level index) ∧
      (src < t.numHosts → level = 0 ∧ src / t.tree.shape.capacity 1 = index) ∧
      (src = t.numHosts → level + 1 = t.tree.shape.numLevels ∧ index = 0) := by
  have hbal := hb.wellFormed.balanced
  rcases Nat.lt_or_eq_of_le h with hlt | rfl
  · refine ⟨0, src / t.tree.shape.arity 0, hbal.leaf_lt hlt, ?_, fun _ => ⟨rfl, ?_⟩,
      fun he => absurd he (Nat.ne_of_lt hlt)⟩
    · rw [destRouter_host hlt, Layout.idAt_zero]
    · rw [Shape.capacity_one]
  · have htop := Nat.sub_add_cancel t.tree.shape.numLevels_pos
    refine ⟨t.tree.shape.numLevels - 1, 0, hbal.top_pos, ?_,
      fun hlt => absurd hlt (Nat.lt_irrefl _), fun _ => ⟨htop, rfl⟩⟩
    rw [destRouter_memory, hb.wellFormed.idAt_top]

/-- The hosts below a router are those that are divided to its index. -/
theorem isOver_iff (hb : t.Built table) (h : index < t.tree.layout.count level) {host : Nat} :
    t.IsOver (t.tree.layout.idAt level index) host ↔
      host / t.tree.shape.capacity (level + 1) = index := by
  have hmem : t.IsOver (t.tree.layout.idAt level index) host ↔
      host ∈ t.tree.hostsBelow level index := by
    rw [hb.mem_hostsBelow_iff h, IsOver]
    simp only [hb.mem_subtree_iff_descends h]
  have hpos := t.tree.shape.capacity_pos (level + 1)
  rw [hmem, hostsBelow, List.mem_range'_1, Nat.div_eq_iff hpos]
  omega

/-- A router of a level has two hosts below it if and only if they are divided to one index. -/
theorem meets_iff (hb : t.Built table) (h : src < t.numHosts) :
    t.Meets src dest level ↔ level < t.tree.shape.numLevels ∧
      src / t.tree.shape.capacity (level + 1) = dest / t.tree.shape.capacity (level + 1) := by
  have hbal := hb.wellFormed.balanced
  constructor
  · rintro ⟨id, r, hr, rfl, hsrc, hdest⟩
    obtain ⟨level, index, hindex, rfl, hs⟩ := hb.exists_position hr
    rw [hb.isOver_iff hindex] at hsrc hdest
    rw [hs.level_eq]
    exact ⟨hbal.lt_numLevels hindex, hsrc.trans hdest.symm⟩
  · rintro ⟨hlevel, hdiv⟩
    have hindex : src / t.tree.shape.capacity (level + 1) < t.tree.layout.count level := by
      rw [Nat.div_lt_iff_lt_mul (t.tree.shape.capacity_pos _), hbal.count_mul_capacity level hlevel]
      exact h
    obtain ⟨r, hr, hs⟩ := hb.exists_seated hindex
    exact ⟨_, r, hr, hs.level_eq, (hb.isOver_iff hindex).2 rfl, (hb.isOver_iff hindex).2 hdiv.symm⟩

/-- Two hosts are below one router on some level, and there is a lowest one. -/
theorem exists_isLeast_meets (hb : t.Built table) (hsrc : src < t.numHosts)
    (hdest : dest < t.numHosts) : ∃ level, IsLeast {l | t.Meets src dest l} level := by
  have hroot : t.Meets src dest (t.tree.shape.numLevels - 1) := by
    have htop := Nat.sub_add_cancel t.tree.shape.numLevels_pos
    have hbal := hb.wellFormed.balanced
    rw [hb.meets_iff hsrc, hbal.div_capacity_top htop hsrc, hbal.div_capacity_top htop hdest]
    exact ⟨by omega, rfl⟩
  classical
  exact ⟨_, Nat.find_spec ⟨_, hroot⟩, fun l hl => Nat.find_min' _ hl⟩

/-! ### All paths -/

/-- **There is a path between any two endpoints.** -/
theorem exists_pathBetween (hb : t.Built table) (hsrc : src ≤ t.numHosts)
    (hdest : dest ≤ t.numHosts) : ∃ walk, t.PathBetween src dest walk := by
  obtain ⟨level, index, hindex, hstart, hhost, hmemory⟩ := hb.exists_destRouter hsrc
  obtain ⟨level', index', hindex', hstart', -, -⟩ := hb.exists_destRouter hdest
  obtain ⟨walk, hwalk⟩ := hb.wellFormed.exists_route dest hindex
  obtain ⟨back, hback⟩ := hb.wellFormed.exists_route src hindex'
  have hpath := hb.findsPath_of_route hdest hstart hwalk
  have hpath' := hb.findsPath_of_route hsrc hstart' hback
  refine ⟨walk, hpath, hpath.path_back hpath', ?_, ?_, ?_, ?_⟩
  · intro hsrc hdest
    obtain ⟨rfl, hleaf⟩ := hhost hsrc
    obtain ⟨meet, hmeets, hleast⟩ := hb.exists_isLeast_meets hsrc hdest
    refine ⟨meet, ⟨hmeets, hleast⟩, ?_⟩
    obtain ⟨hmeet, hdiv⟩ := (hb.meets_iff hsrc).1 hmeets
    refine hwalk.length_of_meet hleaf (Nat.zero_le meet) hmeet hdiv fun l _ hl hd => ?_
    exact absurd (hleast ((hb.meets_iff hsrc).2 ⟨by omega, hd⟩)) (Nat.not_le.2 hl)
  · rintro hsrc rfl
    obtain ⟨rfl, -⟩ := hhost hsrc
    exact hwalk.length_of_memory hb.wellFormed
  · intro hsrc hdest
    obtain ⟨htop, rfl⟩ := hmemory hsrc
    rw [hwalk.length_of_eq (hb.wellFormed.balanced.div_capacity_top htop hdest), htop]
  · rintro hsrc rfl
    obtain ⟨htop, rfl⟩ := hmemory hsrc
    have hlength := hwalk.length_of_memory hb.wellFormed
    omega

end Built

end Topology

/-- **There is a path between any two endpoints** of a tree that was built, whatever was done with
the builder before: it is the only one, and it is the same in both directions. -/
theorem Builder.exists_path_of_build (o : TreeOptions) (calls : List Call) {t : Topology}
    {b : Builder} (h : ((new o).run calls).build = .ok (t, b))
    {src dest : Nat} (hsrc : src ≤ t.numHosts) (hdest : dest ≤ t.numHosts) :
    ∃ walk, t.PathBetween src dest walk :=
  ((sound_run o calls).built_of_build h).exists_pathBetween hsrc hdest

/-- From the third host to the second one, which meet at the root. -/
theorem Builder.exists_path_of_build_three_levels :
    ∃ t b, ((new {}).run [.configure ⟨[2, 1, 2], by decide, by decide⟩ 4 ["a", "b", "c", "d"],
        .getLink "d" "a"]).build = .ok (t, b) ∧ 2 ≤ t.numHosts ∧ 1 ≤ t.numHosts ∧
      ∃ walk, t.PathBetween 2 1 walk := by
  obtain ⟨⟨t, b⟩, h, hcheck⟩ := exists_ok_of_any
    (p := fun r => decide (2 ≤ r.1.numHosts ∧ 1 ≤ r.1.numHosts))
    (x := ((new {}).run [.configure ⟨[2, 1, 2], by decide, by decide⟩ 4 ["a", "b", "c", "d"],
      .getLink "d" "a"]).build) (by decide +kernel)
  have hcheck : 2 ≤ t.numHosts ∧ 1 ≤ t.numHosts := of_decide_eq_true hcheck
  obtain ⟨hsrc, hdest⟩ := hcheck
  exact ⟨t, b, h, hsrc, hdest, exists_path_of_build _ _ h hsrc hdest⟩

end Interconnect
