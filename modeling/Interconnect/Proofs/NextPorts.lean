/-
**Ports are digits.**

The hosts are numbered from left to right, so the ports on the way down to a host are the digits of
its number, in a system whose bases are the fan-outs.  The table of ports is computed in another
way, by looking for the first block of hosts that has the destination; it has the digit of its level
for every host below the router, and the last port for everything else.

Main definitions:

* `Topology.LeadsTo` — a host is what a port leads to, or below it;
* `Topology.SendsByDigits` — the table has the digits of hosts.

Main results:

* `Tree.WellFormed.portTo_eq_digit` — the port for an endpoint is a digit or the last port;
* `Tree.portTo_eq_iff`, `Tree.portTo_eq_arity_iff` — which endpoints a port is for;
* `Topology.Built.leadsTo_under_iff` — the hosts below a port, by division;
* `Builder.sendsByDigits_of_build` — every successful build has such a table.
-/

import Interconnect.Proofs.Partition
import Interconnect.Proofs.Paths

set_option autoImplicit false

namespace Interconnect

/-! ### The statement -/

namespace Topology

/-- A host is a component or below it. -/
def LeadsTo (t : Topology) (host : Nat) : Component → Prop
  | .host id => id = host
  | .router id => t.IsOver id host
  | .memory => False

/-- The table has the digits of hosts.  The number of hosts below each thing at a height, which is
`Shape.capacity`, is the product of the fan-outs up to it. -/
structure SendsByDigits (t : Topology) : Prop where
  digit : ∀ level < t.tree.shape.numLevels, ∃ first count fanout,
    t.tree.layout.offset? level = some first ∧ t.tree.layout.counts[level]? = some count ∧
    t.tree.shape.fanout? level = some fanout ∧
    ∀ index < count, ∃ r, t.router? (first + index) = some r ∧ r.uplinkPort = fanout ∧
      ∀ dest ≤ t.numHosts, t.routingTable.nextPort (first + index) dest =
        .ok (if dest < t.numHosts ∧ dest / t.tree.shape.capacity (level + 1) = index then
          dest % t.tree.shape.capacity (level + 1) / t.tree.shape.capacity level else fanout)
  down_iff : ∀ id r, t.router? id = some r → ∀ dest ≤ t.numHosts, ∀ port < r.uplinkPort,
    (t.routingTable.nextPort id dest = .ok port ↔
      ∃ c, r.downlinks.components[port]? = some c ∧ t.LeadsTo dest c)
  up_iff : ∀ id r, t.router? id = some r → ∀ dest ≤ t.numHosts,
    (t.routingTable.nextPort id dest = .ok r.uplinkPort ↔ ¬ t.IsOver id dest)
  root_down : ∃ root, t.root? = some root ∧ ∀ host < t.numHosts,
    ∃ port < root.uplinkPort, t.routingTable.nextPort root.id host = .ok port

end Topology

/-! ### Ports by position -/

namespace Tree

variable {t : Tree} {level index dest : Nat}

/-- What is below a router is a host. -/
theorem WellFormed.lt_of_div_eq (hw : t.WellFormed) (h : index < t.layout.count level)
    (hdest : dest / t.shape.capacity (level + 1) = index) : dest < t.hostNames.length := by
  rw [← hw.balanced.count_mul_capacity level (hw.balanced.lt_numLevels h),
    ← Nat.div_lt_iff_lt_mul (t.shape.capacity_pos _), hdest]
  exact h

/-- **The port for an endpoint is a digit**, or the last port if the endpoint is not below. -/
theorem WellFormed.portTo_eq_digit (hw : t.WellFormed) (h : index < t.layout.count level) :
    t.portTo level index dest =
      if dest < t.hostNames.length ∧ dest / t.shape.capacity (level + 1) = index then
        dest % t.shape.capacity (level + 1) / t.shape.capacity level else t.shape.arity level := by
  by_cases hdest : dest / t.shape.capacity (level + 1) = index
  · rw [portTo_of_eq hdest, if_pos ⟨hw.lt_of_div_eq h hdest, hdest⟩, Shape.capacity_succ,
      Nat.mod_mul_right_div_self]
  · rw [portTo_of_ne hdest, if_neg fun hboth => hdest hboth.2]

/-- The endpoints of a port that leads down are those that are divided to the index below it. -/
theorem portTo_eq_iff {port : Nat} (h : port < t.shape.arity level) :
    t.portTo level index dest = port ↔
      dest / t.shape.capacity level = index * t.shape.arity level + port := by
  have hsplit := Nat.div_add_mod' (dest / t.shape.capacity level) (t.shape.arity level)
  rw [portTo, Shape.div_capacity_succ]
  constructor
  · intro hport
    split at hport
    · rename_i hindex
      rw [← hindex, ← hport, hsplit]
    · omega
  · intro hdest
    rw [hdest, Layout.Balanced.child_div h, if_pos rfl, Layout.Balanced.child_mod h]

/-- The endpoints of the last port are those that are not below the router. -/
theorem portTo_eq_arity_iff :
    t.portTo level index dest = t.shape.arity level ↔
      dest / t.shape.capacity (level + 1) ≠ index := by
  have hmod := Nat.mod_lt (dest / t.shape.capacity level) (t.shape.arity_pos level)
  rw [portTo]
  split
  · rename_i hindex
    exact ⟨fun hport => absurd hport (Nat.ne_of_lt hmod), fun hne => absurd hindex hne⟩
  · rename_i hne
    exact ⟨fun _ => hne, fun _ => rfl⟩

end Tree

/-! ### Built trees -/

namespace Topology.Built

open Interconnect.Tree

variable {t : Topology} {table : LinkTable} {level index dest : Nat}

/-- **The hosts below a port** are those that are divided to the index of what the port leads to. -/
theorem leadsTo_under_iff (hb : t.Built table) {i : Nat} (h : i < t.tree.numUnder level)
    (dest : Nat) :
    t.LeadsTo dest (t.tree.under level i) ↔ dest / t.tree.shape.capacity level = i := by
  cases level with
  | zero =>
      rw [under, LeadsTo, Shape.capacity_zero, Nat.div_one]
      exact eq_comm
  | succ low => exact hb.isOver_iff h

/-- **A port that leads down is chosen for the hosts below it.** -/
theorem nextPort_eq_down_iff (hb : t.Built table) {id port : Nat} {r : Router}
    (h : t.router? id = some r) (hdest : dest ≤ t.numHosts) (hport : port < r.uplinkPort) :
    t.routingTable.nextPort id dest = .ok port ↔
      ∃ c, r.downlinks.components[port]? = some c ∧ t.LeadsTo dest c := by
  obtain ⟨level, index, hindex, rfl, hs⟩ := hb.exists_position h
  rw [hs.uplinkPort_eq] at hport
  have hunder := hb.leadsTo_under_iff (hb.wellFormed.under_lt hindex hport) dest
  rw [hb.nextPort_eq hindex hdest, Except.ok.injEq, portTo_eq_iff hport, ← hunder]
  simp only [hs.components_getElem?_eq_some_iff]
  constructor
  · intro hleads
    exact ⟨_, ⟨hport, rfl⟩, hleads⟩
  · rintro ⟨c, ⟨-, rfl⟩, hleads⟩
    exact hleads

/-- **The last port is chosen for everything else.** -/
theorem nextPort_eq_up_iff (hb : t.Built table) {id : Nat} {r : Router}
    (h : t.router? id = some r) (hdest : dest ≤ t.numHosts) :
    t.routingTable.nextPort id dest = .ok r.uplinkPort ↔ ¬ t.IsOver id dest := by
  obtain ⟨level, index, hindex, rfl, hs⟩ := hb.exists_position h
  rw [hb.nextPort_eq hindex hdest, Except.ok.injEq, hs.uplinkPort_eq, portTo_eq_arity_iff,
    hb.isOver_iff hindex]

/-- The root sends every host down, since all hosts are below it. -/
theorem exists_root_down (hb : t.Built table) :
    ∃ root, t.root? = some root ∧ ∀ host < t.numHosts,
      ∃ port < root.uplinkPort, t.routingTable.nextPort root.id host = .ok port := by
  have hw := hb.wellFormed
  have hindex := hw.balanced.top_pos
  obtain ⟨root, hroot, hs⟩ := hb.exists_seated hindex
  refine ⟨root, by rw [root?, ← hw.idAt_top, hroot], fun host hhost => ?_⟩
  have htop := Nat.sub_add_cancel t.tree.shape.numLevels_pos
  have hbelow := hw.balanced.div_capacity_top htop hhost
  refine ⟨_, ?_, hs.id_eq ▸ hb.nextPort_eq hindex (Nat.le_of_lt hhost)⟩
  rw [hs.uplinkPort_eq, portTo_of_eq hbelow]
  exact Nat.mod_lt _ (t.tree.shape.arity_pos _)

/-- **The table of a built tree has the digits of hosts.** -/
theorem sendsByDigits (hb : t.Built table) : t.SendsByDigits where
  digit := by
    intro level h
    have hw := hb.wellFormed
    have hlevel : level < t.tree.layout.numLevels := by rwa [hw.balanced.numLevels_eq]
    refine ⟨_, _, _, Layout.offset?_eq hlevel, Layout.getElem?_counts hlevel,
      Shape.fanout?_eq h, fun index hindex => ?_⟩
    obtain ⟨r, hr, hs⟩ := hb.exists_seated hindex
    refine ⟨r, hr, hs.uplinkPort_eq, fun dest hdest => ?_⟩
    have hport := hb.nextPort_eq hindex hdest
    rw [hw.portTo_eq_digit hindex] at hport
    exact hport
  down_iff := fun _ _ h _ hdest _ hport => hb.nextPort_eq_down_iff h hdest hport
  up_iff := fun _ _ h _ hdest => hb.nextPort_eq_up_iff h hdest
  root_down := hb.exists_root_down

end Topology.Built

/-- **The table of every successful build has the digits of hosts**, whatever was done with the
builder before: a router sends a host that is below it to the port that is the digit of its level,
and everything else up. -/
theorem Builder.sendsByDigits_of_build (o : TreeOptions) (calls : List Call) {t : Topology}
    {b : Builder} (h : ((new o).run calls).build = .ok (t, b)) : t.SendsByDigits :=
  ((sound_run o calls).built_of_build h).sendsByDigits

/-- Three levels with different bases, one of them one. -/
theorem Builder.sendsByDigits_of_build_three_levels :
    ∃ t b, ((new {}).run [.configure ⟨[2, 1, 3], by decide, by decide⟩ 6
        ["a", "b", "c", "d", "e", "f"], .getLink "f" "a"]).build = .ok (t, b) ∧
      t.SendsByDigits := by
  obtain ⟨⟨t, b⟩, h⟩ := exists_ok_of_isSome
    (x := ((new {}).run [.configure ⟨[2, 1, 3], by decide, by decide⟩ 6
      ["a", "b", "c", "d", "e", "f"], .getLink "f" "a"]).build) (by decide +kernel)
  exact ⟨t, b, h, sendsByDigits_of_build _ _ h⟩

end Interconnect
