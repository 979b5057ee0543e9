/-
**Broadcasts.**

A router sends a broadcast packet on as the routing table says: out of every port below it if the
packet has come from above, and up if it has come from below.  A port that leads to an endpoint
delivers its copy, and any other port passes it to the router on the other side, where it arrives on
the port that leads back.  The copies on their way are handled in any order.

Whatever the order, a packet that is sent down a router visits the subtree of the router and is
delivered to the hosts below it, and a packet that is sent up visits the ancestors and is delivered
to the memory.  Every visit and every delivery happens once.  The proof keeps account of what the
copies on their way will still do: a step takes the visit of one router out of the account and
leaves the rest in it, since subtrees of different children have nothing in common.

Main definitions:

* `Copy`, `Flood` — a copy of a packet at a router, and the copies on their way;
* `RoutingTable.Sends`, `RoutingTable.Handles`, `RoutingTable.FloodStep` — what is done with copies;
* `RoutingTable.Floods` — all ways of handling the copies end with the same visits and deliveries;
* `Tree.visitsFrom`, `Tree.deliversFrom` — what a copy that has come to a position will do;
* `Tree.Accounts` — the account of a flood;
* `Topology.Flooding` — floods from above and from below reach what they should.

Main results:

* `Topology.Built.handles_copyOf`, `Topology.Built.handles_unique` — what is done with a copy;
* `Topology.Built.accounts_step` — a step keeps the account;
* `Topology.Built.floods_copyOf` — floods end, and do what is in the account at their start;
* `Builder.flooding_of_build` — the routing table of every successful build.
-/

import Interconnect.Proofs.PortTables
import Interconnect.Proofs.Subtrees

set_option autoImplicit false

namespace Interconnect

open Relation

/-! ### Floods -/

/-- A copy of a packet that has come to a router on a port. -/
structure Copy where
  router : Nat
  port : Nat
  deriving DecidableEq, Repr

/-- The copies of a packet that are on their way, the routers that were visited, and the endpoints
to which a copy was delivered, in the order in which it happened. -/
structure Flood where
  inFlight : List Copy
  visited : List Nat
  delivered : List Nat
  deriving DecidableEq, Repr

/-- A flood begins with one copy. -/
def Flood.start (c : Copy) : Flood := { inFlight := [c], visited := [], delivered := [] }

namespace RoutingTable

/-- What becomes of a copy that a router sends out of a port: it is delivered to the endpoint of the
port, or comes to the neighbor on the port that leads back. -/
inductive Sends (t : RoutingTable) (router port : Nat) : Copy ⊕ Nat → Prop
  | delivered {e : Nat} (hstate : t.portState router port = .ok .routerToNode)
      (hend : t.endpointId router port = .ok (some e)) : Sends t router port (.inr e)
  | passed {next back : Nat} (hstate : t.portState router port = .ok .routerToRouter)
      (hnext : t.neighbor router port = .ok next) (hback : t.neighbor next back = .ok router) :
      Sends t router port (.inl ⟨next, back⟩)

/-- What becomes of a copy that has come to a router: one copy is sent out of every port for
broadcasts. -/
def Handles (t : RoutingTable) (c : Copy) (sent : List (Copy ⊕ Nat)) : Prop :=
  ∃ ports, t.broadcastPorts c.router c.port = .ok ports ∧
    List.Forall₂ (t.Sends c.router) ports sent

/-- One of the copies on their way is handled. -/
inductive FloodStep (t : RoutingTable) : Flood → Flood → Prop
  | handled {before after : List Copy} {c : Copy} {sent : List (Copy ⊕ Nat)}
      {visited delivered : List Nat} (h : t.Handles c sent) :
      FloodStep t
        { inFlight := before ++ c :: after, visited, delivered }
        { inFlight := before ++ after ++ sent.filterMap Sum.getLeft?,
          visited := visited ++ [c.router],
          delivered := delivered ++ sent.filterMap Sum.getRight? }

/-- A flood that begins with a copy ends, however the copies are handled, and every copy on its way
can be handled.  When it has ended, these routers were visited and the packet was delivered to these
endpoints, each as often as it is listed. -/
structure Floods (t : RoutingTable) (c : Copy) (routers endpoints : List Nat) : Prop where
  terminates : Acc (fun f' f => t.FloodStep f f') (.start c)
  progress : ∀ f, ReflTransGen t.FloodStep (.start c) f →
    ∀ c' ∈ f.inFlight, ∃ sent, t.Handles c' sent
  ends : ∃ f, ReflTransGen t.FloodStep (.start c) f ∧ f.inFlight = []
  result : ∀ f, ReflTransGen t.FloodStep (.start c) f → f.inFlight = [] →
    f.visited.Perm routers ∧ f.delivered.Perm endpoints

theorem FloodStep.length_visited {t : RoutingTable} {f f' : Flood} (h : t.FloodStep f f') :
    f'.visited.length = f.visited.length + 1 := by
  cases h
  rw [List.length_append, List.length_singleton]

/-- A copy that is handled gives a step. -/
theorem exists_floodStep {t : RoutingTable} {f : Flood} {c : Copy} (hc : c ∈ f.inFlight)
    {sent : List (Copy ⊕ Nat)} (h : t.Handles c sent) : ∃ f', t.FloodStep f f' := by
  obtain ⟨before, after, hsplit⟩ := List.append_of_mem hc
  cases f
  cases hsplit
  exact ⟨_, .handled h⟩

/-- Steps that end and do not get stuck lead to the end. -/
theorem exists_end {t : RoutingTable} {f : Flood} (hacc : Acc (fun f' f => t.FloodStep f f') f)
    (hprogress : ∀ f', ReflTransGen t.FloodStep f f' →
      ∀ c ∈ f'.inFlight, ∃ sent, t.Handles c sent) :
    ∃ f', ReflTransGen t.FloodStep f f' ∧ f'.inFlight = [] := by
  induction hacc with
  | intro f _ ih =>
      cases hf : f.inFlight with
      | nil => exact ⟨f, .refl, hf⟩
      | cons c rest =>
          have hc : c ∈ f.inFlight := by rw [hf]; exact List.mem_cons_self
          obtain ⟨sent, hsent⟩ := hprogress f .refl c hc
          obtain ⟨f', hstep⟩ := exists_floodStep hc hsent
          obtain ⟨last, hrest, hend⟩ := ih f' hstep fun f'' h => hprogress f'' (.head hstep h)
          exact ⟨last, .head hstep hrest, hend⟩

theorem Floods.of_perm {t : RoutingTable} {c : Copy} {routers routers' endpoints : List Nat}
    (h : t.Floods c routers endpoints) (hr : routers.Perm routers') :
    t.Floods c routers' endpoints where
  terminates := h.terminates
  progress := h.progress
  ends := h.ends
  result := fun f hf hend => (h.result f hf hend).imp_left fun hp => hp.trans hr

end RoutingTable

/-! ### Lists of outcomes -/

section

variable {α β γ : Type}

theorem filterMap_getLeft?_map (f : α → γ) (xs : List (α ⊕ β)) :
    (xs.map (Sum.map f id)).filterMap Sum.getLeft? = (xs.filterMap Sum.getLeft?).map f := by
  rw [List.filterMap_map, List.map_filterMap]
  exact List.filterMap_congr fun x _ => by cases x <;> rfl

theorem filterMap_getRight?_map (f : α → γ) (xs : List (α ⊕ β)) :
    (xs.map (Sum.map f id)).filterMap Sum.getRight? = xs.filterMap Sum.getRight? := by
  rw [List.filterMap_map]
  exact List.filterMap_congr fun x _ => by cases x <;> rfl

/-- An account stays balanced if something that is still to be done is replaced by its first part,
which is now done, and the rest of it. -/
theorem perm_account [DecidableEq β] {f : α → List β} {done first all : List β}
    {before after rest : List α} {x : α} (hx : f x = first ++ rest.flatMap f)
    (h : (done ++ (before ++ x :: after).flatMap f).Perm all) :
    (done ++ first ++ (before ++ after ++ rest).flatMap f).Perm all := by
  rw [List.perm_iff_count] at h ⊢
  intro b
  rw [← h b]
  simp only [List.flatMap_append, List.flatMap_cons, List.count_append, hx]
  omega

end

/-! ### Copies by position -/

/-- A copy that has come to the router at an index of a level. -/
structure Arrival where
  level : Nat
  index : Nat
  port : Nat

namespace Tree

def copyOf (t : Tree) (a : Arrival) : Copy :=
  { router := t.layout.idAt a.level a.index, port := a.port }

/-- The router of an arrival is one of the tree, and it has the port. -/
structure HasArrival (t : Tree) (a : Arrival) : Prop where
  index_lt : a.index < t.layout.count a.level
  port_le : a.port ≤ t.shape.arity a.level

/-- What becomes of a copy that the router at an index of a level sends out of a port. -/
def sentOn (t : Tree) (level index port : Nat) : Arrival ⊕ Nat :=
  if port < t.shape.arity level then
    match level with
    | 0 => .inr (index * t.shape.arity 0 + port)
    | low + 1 => .inl ⟨low, index * t.shape.arity (low + 1) + port, t.shape.arity low⟩
  else if level + 1 = t.shape.numLevels then .inr t.hostNames.length
  else .inl ⟨level + 1, index / t.shape.arity (level + 1), index % t.shape.arity (level + 1)⟩

/-- The ports on which the copies of an arrival are sent out. -/
def portsFor (t : Tree) (a : Arrival) : List Nat :=
  if a.port < t.shape.arity a.level then [t.shape.arity a.level]
  else List.range (t.shape.arity a.level)

/-- What becomes of the copies of an arrival. -/
def sentFrom (t : Tree) (a : Arrival) : List (Arrival ⊕ Nat) :=
  (t.portsFor a).map (t.sentOn a.level a.index)

/-- The routers that an arrival and its copies visit. -/
def visitsFrom (t : Tree) (a : Arrival) : List Nat :=
  if a.port < t.shape.arity a.level then t.ancestors a.level a.index
  else t.subtree a.level a.index

/-- The endpoints to which the copies of an arrival are delivered. -/
def deliversFrom (t : Tree) (a : Arrival) : List Nat :=
  if a.port < t.shape.arity a.level then [t.hostNames.length] else t.hostsBelow a.level a.index

variable {t : Tree} {level index port : Nat}

theorem visitsFrom_up (h : port < t.shape.arity level) (index : Nat) :
    t.visitsFrom ⟨level, index, port⟩ = t.ancestors level index := if_pos h

theorem visitsFrom_down (t : Tree) (level index : Nat) :
    t.visitsFrom ⟨level, index, t.shape.arity level⟩ = t.subtree level index :=
  if_neg (Nat.lt_irrefl _)

theorem deliversFrom_up (h : port < t.shape.arity level) (index : Nat) :
    t.deliversFrom ⟨level, index, port⟩ = [t.hostNames.length] := if_pos h

theorem deliversFrom_down (t : Tree) (level index : Nat) :
    t.deliversFrom ⟨level, index, t.shape.arity level⟩ = t.hostsBelow level index :=
  if_neg (Nat.lt_irrefl _)

theorem sentOn_leaf (h : port < t.shape.arity 0) (index : Nat) :
    t.sentOn 0 index port = .inr (index * t.shape.arity 0 + port) := if_pos h

theorem sentOn_down {low : Nat} (h : port < t.shape.arity (low + 1)) (index : Nat) :
    t.sentOn (low + 1) index port =
      .inl ⟨low, index * t.shape.arity (low + 1) + port, t.shape.arity low⟩ := if_pos h

theorem sentOn_top (h : level + 1 = t.shape.numLevels) (index : Nat) :
    t.sentOn level index (t.shape.arity level) = .inr t.hostNames.length := by
  unfold sentOn
  rw [if_neg (Nat.lt_irrefl _), if_pos h]

theorem sentOn_up (h : level + 1 < t.shape.numLevels) (index : Nat) :
    t.sentOn level index (t.shape.arity level) =
      .inl ⟨level + 1, index / t.shape.arity (level + 1), index % t.shape.arity (level + 1)⟩ := by
  unfold sentOn
  rw [if_neg (Nat.lt_irrefl _), if_neg (Nat.ne_of_lt h)]

/-- What becomes of an arrival from below. -/
theorem sentFrom_up (h : port < t.shape.arity level) (index : Nat) :
    t.sentFrom ⟨level, index, port⟩ = [t.sentOn level index (t.shape.arity level)] := by
  rw [sentFrom, portsFor, if_pos h, List.map_singleton]

/-- What becomes of an arrival from above. -/
theorem sentFrom_down (t : Tree) (level index : Nat) :
    t.sentFrom ⟨level, index, t.shape.arity level⟩ =
      (List.range (t.shape.arity level)).map (t.sentOn level index) := by
  rw [sentFrom, portsFor, if_neg (Nat.lt_irrefl _)]

theorem sentFrom_leaf (t : Tree) (index : Nat) :
    t.sentFrom ⟨0, index, t.shape.arity 0⟩ = (t.hostsBelow 0 index).map .inr := by
  rw [sentFrom_down, hostsBelow_zero, List.range'_eq_map_range, List.map_map]
  exact List.map_congr_left fun port hport => sentOn_leaf (List.mem_range.1 hport) index

theorem sentFrom_succ (t : Tree) (low index : Nat) :
    t.sentFrom ⟨low + 1, index, t.shape.arity (low + 1)⟩ =
      ((List.range (t.shape.arity (low + 1))).map fun port =>
        (⟨low, index * t.shape.arity (low + 1) + port, t.shape.arity low⟩ : Arrival)).map .inl := by
  rw [sentFrom_down, List.map_map]
  exact List.map_congr_left fun port hport => sentOn_down (List.mem_range.1 hport) index

namespace WellFormed

/-- What becomes of an arrival is again an arrival, or a delivery. -/
theorem hasArrival_of_sentOn (hw : t.WellFormed) (h : index < t.layout.count level) {a : Arrival}
    (ha : t.sentOn level index port = .inl a) : t.HasArrival a := by
  have hlevel := hw.balanced.lt_numLevels h
  unfold sentOn at ha
  split at ha
  · rename_i hport
    cases level with
    | zero => cases ha
    | succ low =>
        cases ha
        exact ⟨hw.balanced.child_lt h hport, Nat.le_refl _⟩
  · split at ha
    · cases ha
    · rename_i hne
      cases ha
      have hnext : level + 1 < t.shape.numLevels := Nat.lt_of_le_of_ne hlevel hne
      exact ⟨hw.balanced.parent_lt hnext h, Nat.le_of_lt (Nat.mod_lt _ (t.shape.arity_pos _))⟩

/-- **What an arrival visits**: its router, and then what its copies visit. -/
theorem visitsFrom_eq (hw : t.WellFormed) (h : index < t.layout.count level)
    (hport : port ≤ t.shape.arity level) :
    t.visitsFrom ⟨level, index, port⟩ =
      [t.layout.idAt level index] ++
        ((t.sentFrom ⟨level, index, port⟩).filterMap Sum.getLeft?).flatMap t.visitsFrom := by
  rcases Nat.lt_or_eq_of_le hport with hlt | rfl
  · rw [visitsFrom_up hlt, sentFrom_up hlt]
    rcases Nat.lt_or_eq_of_le (hw.balanced.lt_numLevels h) with hlevel | htop
    · have hmod := Nat.mod_lt index (t.shape.arity_pos (level + 1))
      rw [sentOn_up hlevel, ancestors_of_lt hlevel, ← visitsFrom_up hmod]
      simp
    · rw [sentOn_top htop, ancestors_top htop]
      simp
  · rw [visitsFrom_down]
    cases level with
    | zero =>
        rw [sentFrom_leaf, subtree]
        simp [List.filterMap_map, Function.comp_def]
    | succ low =>
        rw [sentFrom_succ, subtree]
        simp [List.filterMap_map, Function.comp_def, List.flatMap_map, visitsFrom_down]

/-- **Where an arrival is delivered**: what is delivered at once, and what its copies deliver. -/
theorem deliversFrom_eq (hw : t.WellFormed) (h : index < t.layout.count level)
    (hport : port ≤ t.shape.arity level) :
    t.deliversFrom ⟨level, index, port⟩ =
      (t.sentFrom ⟨level, index, port⟩).filterMap Sum.getRight? ++
        ((t.sentFrom ⟨level, index, port⟩).filterMap Sum.getLeft?).flatMap t.deliversFrom := by
  rcases Nat.lt_or_eq_of_le hport with hlt | rfl
  · rw [deliversFrom_up hlt, sentFrom_up hlt]
    rcases Nat.lt_or_eq_of_le (hw.balanced.lt_numLevels h) with hlevel | htop
    · have hmod := Nat.mod_lt index (t.shape.arity_pos (level + 1))
      rw [sentOn_up hlevel]
      simp [deliversFrom_up hmod]
    · rw [sentOn_top htop]
      simp
  · rw [deliversFrom_down]
    cases level with
    | zero =>
        rw [sentFrom_leaf]
        simp [List.filterMap_map, Function.comp_def]
    | succ low =>
        rw [sentFrom_succ, hostsBelow_succ]
        simp [List.filterMap_map, Function.comp_def, List.flatMap_map, deliversFrom_down]

end WellFormed

/-- The account of a flood: what was done already and what the copies on their way will still do is
all that is to be done. -/
def Accounts (t : Tree) (routers endpoints : List Nat) (f : Flood) : Prop :=
  ∃ arrivals : List Arrival, f.inFlight = arrivals.map t.copyOf ∧
    (∀ a ∈ arrivals, t.HasArrival a) ∧
    (f.visited ++ arrivals.flatMap t.visitsFrom).Perm routers ∧
    (f.delivered ++ arrivals.flatMap t.deliversFrom).Perm endpoints

theorem accounts_start (t : Tree) {a : Arrival} (ha : t.HasArrival a) :
    t.Accounts (t.visitsFrom a) (t.deliversFrom a) (.start (t.copyOf a)) := by
  refine ⟨[a], rfl, fun a' ha' => ?_, ?_, ?_⟩
  · rw [List.mem_singleton.1 ha']
    exact ha
  · rw [List.flatMap_singleton]
    exact .refl _
  · rw [List.flatMap_singleton]
    exact .refl _

end Tree

namespace Topology

/-- Broadcasts that come to a router from above, and from below, reach every router and every
endpoint that they should, and reach it once. -/
structure Flooding (t : Topology) : Prop where
  down : ∀ r ∈ t.routers, ∃ routers hosts,
    t.routingTable.Floods ⟨r.id, r.uplinkPort⟩ routers hosts ∧
      routers.Nodup ∧ (∀ id, id ∈ routers ↔ ReflTransGen t.HasChild r.id id) ∧
      hosts.Nodup ∧ (∀ e, e ∈ hosts ↔ ∃ id ∈ routers, t.HasHost id e) ∧
      t.routingTable.memoryEndpoint ∉ hosts
  root : ∃ root, t.root? = some root ∧
    t.routingTable.Floods ⟨root.id, root.uplinkPort⟩ (List.range t.numRouters)
      (List.range t.numHosts)
  up : ∀ r ∈ t.routers, ∀ port < r.uplinkPort, ∃ routers,
    t.routingTable.Floods ⟨r.id, port⟩ routers [t.routingTable.memoryEndpoint] ∧
      routers.Nodup ∧ (∀ id, id ∈ routers ↔ ReflTransGen t.HasParent r.id id) ∧
      t.tree.layout.rootId ∈ routers

namespace Built

open Interconnect.Tree RoutingTable

variable {t : Topology} {table : LinkTable} {level index port : Nat}

/-! ### What is done with a copy -/

theorem broadcastPorts_eq (hb : t.Built table) (h : index < t.tree.layout.count level)
    (hport : port ≤ t.tree.shape.arity level) :
    t.routingTable.broadcastPorts (t.tree.layout.idAt level index) port =
      .ok (t.tree.portsFor ⟨level, index, port⟩) := by
  obtain ⟨r, hs, hrow⟩ := hb.exists_routes h
  refine bind_eq_ok_iff.2 ⟨_, hrow, ?_⟩
  rw [hs.length_ports_routes, if_neg (by omega), Nat.add_sub_cancel]
  unfold portsFor
  rcases Nat.lt_or_eq_of_le hport with hlt | rfl
  · rw [if_neg (Nat.ne_of_lt hlt), if_pos hlt]
    rfl
  · rw [if_pos rfl, if_neg (Nat.lt_irrefl _)]
    rfl

/-- The copies that a router sends out become what the positions say. -/
theorem sends_sentOn (hb : t.Built table) (h : index < t.tree.layout.count level)
    (hport : port ≤ t.tree.shape.arity level) :
    t.routingTable.Sends (t.tree.layout.idAt level index) port
      (Sum.map t.tree.copyOf id (t.tree.sentOn level index port)) := by
  have hw := hb.wellFormed
  rcases Nat.lt_or_eq_of_le hport with hlt | rfl
  · cases level with
    | zero =>
        rw [sentOn_leaf hlt]
        have hinfo : (t.tree.facing 0 index port).info t.numHosts =
            ⟨.routerToNode, some (index * t.tree.shape.arity 0 + port), none⟩ := by
          rw [facing_of_lt hlt]
          rfl
        obtain ⟨hstate, hend⟩ := hb.endpoint_eq h hport hinfo
        exact .delivered hstate hend
    | succ low =>
        rw [sentOn_down hlt]
        obtain ⟨hstate, hnext⟩ := hb.neighbor_eq h hport (facing_of_lt hlt index)
        have hback := facing_arity_eq_router_iff.2 (hw.above_child h hlt)
        have hchild := hw.balanced.child_lt h hlt
        exact .passed hstate hnext (hb.neighbor_eq hchild (Nat.le_refl _) hback).2
  · rcases Nat.lt_or_eq_of_le (hw.balanced.lt_numLevels h) with hlevel | htop
    · rw [sentOn_up hlevel]
      have hface := facing_arity_eq_router_iff.2 (above_of_lt hlevel index)
      obtain ⟨hstate, hnext⟩ := hb.neighbor_eq h (Nat.le_refl _) hface
      have hmod := Nat.mod_lt index (t.tree.shape.arity_pos (level + 1))
      have hback := facing_div_mod t.tree (level + 1) index
      have hparent := hw.balanced.parent_lt hlevel h
      exact .passed hstate hnext (hb.neighbor_eq hparent (Nat.le_of_lt hmod) hback).2
    · rw [sentOn_top htop]
      have hinfo : (t.tree.facing level index (t.tree.shape.arity level)).info t.numHosts =
          ⟨.routerToNode, some t.numHosts, none⟩ := by
        rw [facing_arity, above_top htop]
        rfl
      obtain ⟨hstate, hend⟩ := hb.endpoint_eq h (Nat.le_refl _) hinfo
      exact .delivered hstate hend

/-- Nothing else becomes of them: a port has one state, one endpoint or neighbor, and one port of
the neighbor leads back. -/
theorem sends_unique (hb : t.Built table) {router : Nat} {sent sent' : Copy ⊕ Nat}
    (h : t.routingTable.Sends router port sent) (h' : t.routingTable.Sends router port sent') :
    sent = sent' := by
  cases h with
  | delivered hstate hend =>
      cases h' with
      | delivered _ hend' =>
          cases hend.symm.trans hend'
          rfl
      | passed hstate' _ _ => cases hstate.symm.trans hstate'
  | passed hstate hnext hback =>
      cases h' with
      | delivered hstate' _ => cases hstate.symm.trans hstate'
      | passed _ hnext' hback' =>
          cases hnext.symm.trans hnext'
          obtain ⟨back, -, hone, -, -⟩ := hb.neighbor hnext
          rw [(hone _).1 hback, (hone _).1 hback']

/-- **What is done with a copy** of an arrival. -/
theorem handles_copyOf (hb : t.Built table) {a : Arrival} (ha : t.tree.HasArrival a) :
    t.routingTable.Handles (t.tree.copyOf a)
      ((t.tree.sentFrom a).map (Sum.map t.tree.copyOf id)) := by
  refine ⟨t.tree.portsFor a, hb.broadcastPorts_eq ha.index_lt ha.port_le, ?_⟩
  rw [sentFrom, List.map_map, List.forall₂_map_right_iff, List.forall₂_same]
  intro port hport
  refine hb.sends_sentOn ha.index_lt ?_
  unfold portsFor at hport
  split at hport
  · exact Nat.le_of_eq (List.mem_singleton.1 hport)
  · exact Nat.le_of_lt (List.mem_range.1 hport)

/-- **There is one thing to do with a copy.** -/
theorem handles_unique (hb : t.Built table) {c : Copy} {sent sent' : List (Copy ⊕ Nat)}
    (h : t.routingTable.Handles c sent) (h' : t.routingTable.Handles c sent') : sent = sent' := by
  obtain ⟨ports, hports, hsent⟩ := h
  obtain ⟨ports', hports', hsent'⟩ := h'
  cases hports.symm.trans hports'
  rw [← List.forall₂_eq_eq_eq]
  exact forall₂_of_common hsent hsent' fun _ _ _ _ hs hs' => hb.sends_unique hs hs'

/-! ### Accounts -/

variable {routers endpoints : List Nat} {f f' : Flood}

/-- **A step keeps the account.** -/
theorem accounts_step (hb : t.Built table) (h : t.tree.Accounts routers endpoints f)
    (hstep : t.routingTable.FloodStep f f') : t.tree.Accounts routers endpoints f' := by
  obtain ⟨arrivals, hflight, hvalid, hvisited, hdelivered⟩ := h
  cases hstep with
  | handled hsent =>
      -- the copy is that of one of the arrivals
      obtain ⟨before, rest, rfl, rfl, hrest⟩ := List.map_eq_append_iff.1 hflight.symm
      obtain ⟨a, after, rfl, rfl, rfl⟩ := List.map_eq_cons_iff.1 hrest
      have ha : t.tree.HasArrival a := hvalid a (by simp)
      obtain rfl := hb.handles_unique hsent (hb.handles_copyOf ha)
      have hw := hb.wellFormed
      refine ⟨before ++ after ++ (t.tree.sentFrom a).filterMap Sum.getLeft?, ?_, fun a' ha' => ?_,
        perm_account (hw.visitsFrom_eq ha.index_lt ha.port_le) hvisited, ?_⟩
      · rw [filterMap_getLeft?_map, List.map_append, List.map_append]
      · rcases List.mem_append.1 ha' with hmem | hmem
        · refine hvalid a' ?_
          rcases List.mem_append.1 hmem with hmem | hmem
          · exact List.mem_append_left _ hmem
          · exact List.mem_append_right _ (List.mem_cons_of_mem _ hmem)
        · obtain ⟨sent, hmem, hleft⟩ := List.mem_filterMap.1 hmem
          obtain ⟨port, -, hon⟩ := List.mem_map.1 hmem
          rw [Sum.getLeft?_eq_some_iff.1 hleft] at hon
          exact hw.hasArrival_of_sentOn ha.index_lt hon
      · rw [filterMap_getRight?_map]
        exact perm_account (hw.deliversFrom_eq ha.index_lt ha.port_le) hdelivered

theorem accounts_of_reaches (hb : t.Built table) (h : t.tree.Accounts routers endpoints f)
    (hf : ReflTransGen t.routingTable.FloodStep f f') : t.tree.Accounts routers endpoints f' := by
  induction hf with
  | refl => exact h
  | tail _ hstep ih => exact hb.accounts_step ih hstep

theorem length_visited_le (h : t.tree.Accounts routers endpoints f) :
    f.visited.length ≤ routers.length := by
  obtain ⟨arrivals, -, -, hvisited, -⟩ := h
  rw [← hvisited.length_eq, List.length_append]
  exact Nat.le_add_right _ _

/-- **Floods end**: every step visits a router, and all visits are in the account. -/
theorem acc_of_accounts (hb : t.Built table) (h : t.tree.Accounts routers endpoints f) :
    Acc (fun f' f => t.routingTable.FloodStep f f') f := by
  obtain ⟨n, hn⟩ := Nat.exists_eq_add_of_le (length_visited_le h)
  induction n generalizing f with
  | zero =>
      refine .intro f fun f' hstep => ?_
      have hle := length_visited_le (hb.accounts_step h hstep)
      rw [hstep.length_visited] at hle
      omega
  | succ n ih =>
      refine .intro f fun f' hstep => ih (hb.accounts_step h hstep) ?_
      rw [hstep.length_visited, hn]
      omega

theorem exists_handles (hb : t.Built table) (h : t.tree.Accounts routers endpoints f) {c : Copy}
    (hc : c ∈ f.inFlight) : ∃ sent, t.routingTable.Handles c sent := by
  obtain ⟨arrivals, hflight, hvalid, -⟩ := h
  rw [hflight] at hc
  obtain ⟨a, ha, rfl⟩ := List.mem_map.1 hc
  exact ⟨_, hb.handles_copyOf (hvalid a ha)⟩

/-- At the end nothing is left to be done. -/
theorem perm_of_accounts (h : t.tree.Accounts routers endpoints f) (hend : f.inFlight = []) :
    f.visited.Perm routers ∧ f.delivered.Perm endpoints := by
  obtain ⟨arrivals, hflight, -, hvisited, hdelivered⟩ := h
  rw [hend, List.nil_eq, List.map_eq_nil_iff] at hflight
  rw [hflight, List.flatMap_nil, List.append_nil] at hvisited hdelivered
  exact ⟨hvisited, hdelivered⟩

/-- **Floods do what is in the account at their start.** -/
theorem floods_copyOf (hb : t.Built table) {a : Arrival} (ha : t.tree.HasArrival a) :
    t.routingTable.Floods (t.tree.copyOf a) (t.tree.visitsFrom a) (t.tree.deliversFrom a) := by
  have hstart := t.tree.accounts_start ha
  have hprogress : ∀ f, ReflTransGen t.routingTable.FloodStep (.start (t.tree.copyOf a)) f →
      ∀ c ∈ f.inFlight, ∃ sent, t.routingTable.Handles c sent :=
    fun f hf c hc => hb.exists_handles (hb.accounts_of_reaches hstart hf) hc
  refine ⟨hb.acc_of_accounts hstart, hprogress, ?_, fun f hf hend => ?_⟩
  · exact exists_end (hb.acc_of_accounts hstart) hprogress
  · exact perm_of_accounts (hb.accounts_of_reaches hstart hf) hend

/-! ### From above and from below -/

/-- A packet that comes from above floods the subtree. -/
theorem floods_down (hb : t.Built table) (h : index < t.tree.layout.count level) {r : Router}
    (hs : t.tree.Seated t.memoryName table level index r) :
    t.routingTable.Floods ⟨r.id, r.uplinkPort⟩ (t.tree.subtree level index)
      (t.tree.hostsBelow level index) := by
  have hfloods := hb.floods_copyOf (a := ⟨level, index, t.tree.shape.arity level⟩)
    ⟨h, Nat.le_refl _⟩
  rw [visitsFrom_down, deliversFrom_down] at hfloods
  rw [hs.id_eq, hs.uplinkPort_eq]
  exact hfloods

/-- A packet that comes from below floods the way to the memory. -/
theorem floods_up (hb : t.Built table) (h : index < t.tree.layout.count level) {r : Router}
    (hs : t.tree.Seated t.memoryName table level index r) (hport : port < r.uplinkPort) :
    t.routingTable.Floods ⟨r.id, port⟩ (t.tree.ancestors level index)
      [t.routingTable.memoryEndpoint] := by
  rw [hs.uplinkPort_eq] at hport
  have hfloods := hb.floods_copyOf (a := ⟨level, index, port⟩) ⟨h, Nat.le_of_lt hport⟩
  rw [visitsFrom_up hport, deliversFrom_up hport] at hfloods
  rw [hs.id_eq]
  exact hfloods

theorem flooding (hb : t.Built table) : t.Flooding where
  down := by
    intro r hr
    obtain ⟨level, index, hindex, hs⟩ := hb.exists_position_of_mem hr
    have hw := hb.wellFormed
    refine ⟨_, _, hb.floods_down hindex hs, hw.nodup_subtree hindex, fun id => ?_,
      List.nodup_range', fun e => hb.mem_hostsBelow_iff hindex, fun hmem => ?_⟩
    · rw [hs.id_eq]
      exact hb.mem_subtree_iff_descends hindex
    · exact Nat.lt_irrefl _ (hw.lt_of_mem_hostsBelow hindex hmem)
  root := by
    have hw := hb.wellFormed
    obtain ⟨root, hroot, hs⟩ := hb.exists_seated hw.balanced.top_pos
    have hfloods := (hb.floods_down hw.balanced.top_pos hs).of_perm hw.subtree_root_perm
    rw [hw.hostsBelow_root, ← hb.numRouters_eq] at hfloods
    rw [hw.idAt_top] at hroot
    exact ⟨root, hroot, hfloods⟩
  up := by
    intro r hr port hport
    obtain ⟨level, index, hindex, hs⟩ := hb.exists_position_of_mem hr
    have hw := hb.wellFormed
    refine ⟨_, hb.floods_up hindex hs hport, hw.nodup_ancestors hindex, fun id => ?_,
      hw.rootId_mem_ancestors hindex⟩
    rw [hs.id_eq]
    exact hb.mem_ancestors_iff_ascends hindex

end Built

end Topology

/-- **The routing table of every successful build floods its tree**, from above and from below and
whatever was done with the builder before. -/
theorem Builder.flooding_of_build (o : TreeOptions) (calls : List Call) {t : Topology} {b : Builder}
    (h : ((new o).run calls).build = .ok (t, b)) : t.Flooding :=
  ((sound_run o calls).built_of_build h).flooding

/-- Three levels, with a leaf router that has two hosts and two routers above it. -/
theorem Builder.flooding_of_build_three_levels :
    ∃ t b, ((new {}).run [.configure ⟨[2, 1, 2], by decide, by decide⟩ 4 ["a", "b", "c", "d"],
        .getLink "c" "rtr_1"]).build = .ok (t, b) ∧
      (∃ r ∈ t.routers, r.isLeaf ∧ 1 < r.uplinkPort ∧ r.id < t.tree.layout.rootId) ∧
      t.Flooding := by
  obtain ⟨⟨t, b⟩, h, hcheck⟩ := exists_ok_of_any
    (p := fun r => decide (∃ router ∈ r.1.routers, router.isLeaf ∧ 1 < router.uplinkPort ∧
      router.id < r.1.tree.layout.rootId))
    (x := ((new {}).run [.configure ⟨[2, 1, 2], by decide, by decide⟩ 4 ["a", "b", "c", "d"],
      .getLink "c" "rtr_1"]).build) (by decide +kernel)
  have hleaf : ∃ r ∈ t.routers, r.isLeaf ∧ 1 < r.uplinkPort ∧
      r.id < t.tree.layout.rootId := of_decide_eq_true hcheck
  exact ⟨t, b, h, hleaf, flooding_of_build _ _ h⟩

end Interconnect
